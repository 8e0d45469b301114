import DocContract.Column
import DocContract.GrammarError
import DocContract.Markdown.Node

/-!
# Elements of a markdown run

Each block of a run that stands in no other is an element, whose text is the text of the
run it spans without the marks of a heading or quotation.  A table is a parameter for each
row.  Thematic breaks say nothing, and raw markup has no element.
-/

namespace DocContract.Prose

/-- Splits a text at its last line feed. -/
def splitLastLine? (cs : List Char) : Option (List Char × List Char) :=
  (Text.splitAt? '\n' cs.reverse).map fun (last, front) => (front.reverse, last.reverse)

/-- The text of a heading without the number signs before and after it, or without its
underline. Number signs at the end belong to the text unless a space precedes them. -/
def headingText (raw : List Char) : List Char :=
  let raw := Text.trim raw
  match raw with
  | '#' :: _ =>
    let text := Text.trim (raw.dropWhile (· == '#'))
    let unclosed := Text.dropEndWhile (· == '#') text
    if unclosed.isEmpty || unclosed.getLast? == some ' ' then Text.trim unclosed else text
  | _ =>
    match splitLastLine? raw with
    | some (text, underline) =>
      if (Text.trim underline).all fun c => c == '=' || c == '-' then Text.trim text
      else raw
    | none => raw

/-- A line of a quotation without its mark and a space after that. -/
def withoutQuoteMark (line : List Char) : List Char :=
  match Text.trimStart line with
  | '>' :: ' ' :: rest => rest
  | '>' :: rest => rest
  | line => line

def quoteText (raw : List Char) : List Char :=
  Text.trim (Text.joinWith ['\n'] ((Text.lines raw).map withoutQuoteMark))

/-- The text of a cell without the bars around it. -/
def cellText (raw : List Char) : List Char :=
  let cell := Text.trim raw
  let cell := match cell with
    | '|' :: rest => rest
    | _ => cell
  let cell := match cell.reverse with
    | '|' :: '\\' :: _ => cell
    | '|' :: front => front.reverse
    | _ => cell
  Text.trim cell

def textElement (kind : BlockKind) (text : List Char) : Element :=
  .block { kind, text := String.ofList text }

/-- The columns of a table by the texts of its header. -/
def columns (headers : List (List Char)) : Except GrammarError (List Column) :=
  headers.mapM fun header =>
    match Column.ofHeader header with
    | .ok column => .ok column
    | .error header => .error (.unknownHeader header)

/-- The elements of a block of the run `text`, whose first line has the number
`firstLine`. -/
def elementsOf (firstLine : Nat) (text : List Char) :
    Markdown.Node → Except GrammarError (List Element)
  | .paragraph span => .ok [textElement .paragraph (Text.trim (span.extract text))]
  | .heading span => .ok [textElement .heading (headingText (span.extract text))]
  | .quote span _ => .ok [textElement .blockquote (quoteText (span.extract text))]
  | .list span _ | .item span _ => .ok [textElement .list (Text.trim (span.extract text))]
  | .code _ content =>
      .ok [textElement .fencedCode (Text.dropEndWhile (· == '\n') content)]
  | .rule _ => .ok []
  | .table _ header rows => do
    let columns ← columns (header.map fun cell => cellText (cell.extract text))
    return rows.map fun row =>
      .parameter (.ofRow columns (row.map fun cell => cellText (cell.extract text)))
  | .html span =>
    let line := firstLine + Text.countLineFeeds (text.take span.start)
    let snippet := (Text.lines (span.extract text)).headD []
    .error (.unsupportedMarkup line (String.ofList snippet))

/-- The elements of a run of markdown whose blocks `blocks` finds. -/
def elements (blocks : List Char → List Markdown.Node) (firstLine : Nat)
    (text : List Char) :
    Except GrammarError (List Element) := do
  return (← (blocks text).mapM (elementsOf firstLine text)).flatten

end DocContract.Prose
