import DocContract.Markdown.Reference

/-!
# Reading the block structure

`Markdown.read` reads a text block by block.  At the start of a line it enters the
containers the line stays in, ends the others, opens new ones, and reads one leaf block,
which may take further lines.  A line that leaves a container still continues a paragraph
inside it unless it would begin a block.
-/

namespace DocContract.Markdown

/-- A state of the outline together with the place up to which the text has been read. -/
abbrev Progress := Outline × Place

/-- A line of code: what is left of a tab first, and a line feed for a carriage return and
a line feed. -/
def codeLine (pending : Nat) (line : List Char) : List Char :=
  List.replicate pending ' ' ++
    match line.reverse with
    | c :: '\r' :: front => if c.toNat < 0x80 then front.reverse ++ [c] else line
    | _ => line

/-- The lines of a code fence opened by `opened` marks behind `indent` columns, and the
place after its closing fence. -/
def fencedLines (containers : List Container) (indent : Nat) (mark : Char) (opened : Nat) :
    Nat → Place → List Char × Place
  | 0, place => ([], place)
  | fuel + 1, place =>
    let (all, _, line) := enterAll containers (.atPlace place)
    if !all then ([], place)
    else
      let (_, text) := line.indent indent
      let (missing, close) := text.indent (4 - indent)
      let closing :=
        if missing = 0 then none else closingFence? mark opened close.place.rest
      match closing with
      | some n => ([], close.place.advance n)
      | none =>
        let n := throughLineFeed text.place.rest
        let next := text.place.advance n
        let (content, stop) := fencedLines containers indent mark opened fuel next
        (codeLine text.pending (text.place.rest.take n) ++ content, stop)

/-- Reads a fenced code block whose fence stands at `place`. -/
def readFence (outline : Outline) (place : Place) (indent : Nat) (mark : Char)
    (opened : Nat) :
    Progress :=
  let infoStart := place.advance opened
  let info := infoStart.advance (countWhile isInlineSpace infoStart.rest)
  let first := info.advance (throughLineFeed info.rest)
  let (content, stop) :=
    fencedLines outline.containers indent mark opened (first.rest.length + 1) first
  let node := .code { start := place.offset, stop := stop.offset } content
  (outline.add node, stop.advance ((blankLine? stop.rest).getD 0))

/-- The lines of an indented code block.  Blank lines belong to it only when code follows
them; `blanks` holds those that are waiting.  Answers the code, the offset where it ends,
and the place after the last line read. -/
def indentedLines (containers : List Container) :
    Nat → (pending : Nat) → (blank : Bool) → (blanks : List Char) → (stop : Nat) → Place →
    List Char × Nat × Place
  | 0, _, _, _, stop, place => ([], stop, place)
  | fuel + 1, pending, blank, blanks, stop, place =>
    let n := throughLineFeed place.rest
    let next := place.advance n
    let line := codeLine pending (place.rest.take n)
    let (taken, waiting, stop) :=
      if blank then ([], blanks ++ line, stop) else (blanks ++ line, [], next.offset)
    let (all, _, start) := enterAll containers (.atPlace next)
    let (missing, text) := start.indent 4
    if !all || !(missing = 0 || text.atEnd) || text.place.rest.isEmpty then
      (taken, stop, next)
    else
      let (content, stop, last) := indentedLines containers fuel text.pending
        (blankLine? text.place.rest).isSome waiting stop text.place
      (taken ++ content, stop, last)

/-- Reads an indented code block whose text starts at `place`. -/
def readIndented (outline : Outline) (place : Place) (pending : Nat) : Progress :=
  let (content, stop, last) :=
    indentedLines outline.containers (place.rest.length + 1) pending false [] place.offset
      place
  (outline.add (.code { start := place.offset, stop } content), last)

/-- The end of a block of raw markup that goes on until a line that holds `ending`, or, if
there is no such text, until a blank line. -/
def htmlEnd (containers : List Container) (ending : Option (List Char)) :
    Nat → Place → Nat × Place
  | 0, place => (place.offset, place)
  | fuel + 1, place =>
    let n := throughLineFeed place.rest
    let next := place.advance n
    let (all, _, line) := enterAll containers (.atPlace next)
    let ended := match ending with
      | some ending => Text.contains ending (place.rest.take n)
      | none => line.atEnd
    let text := line.place
    if !all || ended then (next.offset, next)
    else if text.rest.isEmpty || (ending.isNone && (blankLine? text.rest).isSome) then
      (text.offset, next)
    else htmlEnd containers ending fuel text

def readHtml (outline : Outline) (place : Place) (ending : Option String) : Progress :=
  let (stop, next) := htmlEnd outline.containers (ending.map String.toList)
    (place.rest.length + 1) place
  (outline.add (.html { start := place.offset, stop }), next)

/-- The number of characters up to and with the end of the line. -/
def throughLineEnd : List Char → Nat
  | [] => 0
  | c :: rest =>
    match lineEnd? (c :: rest) with
    | some n => n
    | none => throughLineEnd rest + 1

inductive ParagraphEnd where
  /-- It is followed by something else, or by nothing. -/
  | plain (place : Place)
  /-- It is the text of a heading that ends here. -/
  | heading (place : Place)

/-- The end of a paragraph of which a line is read from `place` on. -/
def paragraphEnd (containers : List Container) : Nat → Place → ParagraphEnd
  | 0, place => .plain place
  | fuel + 1, place =>
    let next := place.advance (throughLineEnd place.rest)
    let (all, _, line) := enterAll containers (.atPlace next)
    let (missing, text) := line.indent 4
    let underline :=
      if missing = 0 || !all then none else headingUnderline? text.place.rest
    match underline with
    | some n => .heading (text.place.advance n)
    | none =>
      if missing != 0 && interruptsParagraph containers all text.place.rest then
        .plain next
      else
        let content := text.skipIndent
        if content.atEnd then .plain next else paragraphEnd containers fuel content.place

/-- Reads a table whose first line starts at `place` and that has a delimiter row. -/
def readTable (outline : Outline) (place : Place) (columns length : Nat) : Progress :=
  let (header, afterHeader) := rowCells (place.rest.length + 1) place
  let (rows, stop) :=
    tableRows outline.containers columns (place.rest.length + 1) (place.advance length)
  let node := .table { start := place.offset, stop := stop.offset }
    (fitCells columns header afterHeader.offset) rows
  (outline.add node, stop)

/-- Reads a paragraph, or the table or heading that it turns out to be. -/
def readParagraph (outline : Outline) (place : Place) : Progress :=
  match tableHead? outline.containers place.rest with
  | some (columns, length) => readTable outline place columns length
  | none =>
    match paragraphEnd outline.containers (place.rest.length + 1) place with
    | .plain stop =>
      (outline.add (.paragraph { start := place.offset, stop := stop.offset }), stop)
    | .heading stop =>
      (outline.add (.heading { start := place.offset, stop := stop.offset }), stop)

/-- Reads a leaf block whose indentation of less than four columns has been passed. -/
def readLeaf (outline : Outline) (place : Place) (indent : Nat) : Progress :=
  let markup : Option (Option String) :=
    match place.rest with
    | '<' :: rest =>
      match rawEnd? rest with
      | some ending => some (some ending)
      | none => if startsBlockElement rest || isLoneTag rest then some none else none
    | _ => none
  match markup with
  | some ending => readHtml outline place ending
  | none =>
    match thematicBreak? place.rest with
    | some n =>
      let stop := place.advance n
      (outline.add (.rule { start := place.offset, stop := stop.offset }), stop)
    | none =>
      if (headingLevel? place.rest).isSome then
        let stop := place.advance (throughLineEnd place.rest)
        (outline.add (.heading { start := place.offset, stop := stop.offset }), stop)
      else
        match codeFence? place.rest with
        | some (mark, opened) => readFence outline place indent mark opened
        | none =>
          match afterReference? outline.containers place with
          | some stop => (outline, stop.advance ((blankLine? stop.rest).getD 0))
          | none => readParagraph outline place

/-- The column and width of a list mark at the start of a line: the mark, the columns that
later lines of the item are indented by, and the line after it. -/
def itemMark? (indent : Nat) (line : LineStart) : Option (Char × Nat × LineStart) := do
  guard (thematicBreak? line.place.rest).isNone
  let bullet ← bullet? line.place.rest
  let (missing, spaced) := (line.advance bullet.width).indent 1
  guard (missing = 0 || spaced.atEnd)
  let width := indent + bullet.width + 1
  if (blankLine? spaced.place.rest).isSome then return (bullet.mark, width, spaced)
  let (missing, text) := spaced.indent 4
  if missing = 0 then return (bullet.mark, width, spaced)
  return (bullet.mark, width + (4 - missing), text)

/-- The length of a tag such as `[!NOTE]` that stands alone on the first line of a
quotation. -/
def quoteTag? (cs : List Char) : Option Nat := do
  let ("[!", rest) := (String.ofList (cs.take 2), cs.drop 2) | none
  let name ← ["note", "tip", "important", "warning", "caution"].find?
    fun name => startsWithIgnoringCase name rest
  match rest.drop name.length with
  | ']' :: rest => return 2 + name.length + 1 + (← blankLine? rest)
  | _ => none

/-- Where a line stands after the containers that begin on it. -/
inductive Opening where
  /-- A leaf block follows.  `start` is where the line started. -/
  | content (outline : Outline) (start : Nat) (line : LineStart)
  /-- The line holds nothing else. -/
  | lineDone (outline : Outline) (place : Place)

/-- Opens the containers that begin on a line.  Each takes a character, so the length of
the line bounds their number. -/
def openContainers : Nat → Outline → (start : Nat) → LineStart → Opening
  | 0, outline, start, line => .content outline start line
  | fuel + 1, outline, start, line =>
    let (missing, marked) := line.indent 4
    let indent := 4 - missing
    let at_ := marked.place
    if missing = 0 then .content outline start line
    else
      match itemMark? indent marked with
      | some (mark, width, text) =>
        let outline :=
          (outline.continueList (at_.offset - indent) mark).enter (.item width)
          (at_.offset - indent)
        match blankLine? text.place.rest with
        | some n => .lineDone { outline with bareItem := true } (text.place.advance n)
        | none => openContainers fuel outline start text
      | none =>
        match at_.rest with
        | '>' :: _ =>
          let (_, text) := (marked.advance 1).indent 1
          let outline := (outline.endList start).enter .quote at_.offset
          match quoteTag? text.place.rest with
          | none => openContainers fuel outline start text
          | some n =>
            let next := text.place.advance n
            let (all, _, inside) := enterAll outline.containers (.atPlace next)
            let (missing, lazy) := inside.indent 4
            if missing != 0 &&
                interruptsParagraph outline.containers all lazy.place.rest then
              .lineDone outline next
            else .content outline next.offset lazy.skipIndent
        | _ => .content outline start line

/-- Reads a blank line.  An item may begin with one blank line at most. -/
def readBlank (outline : Outline) (start : Nat) : Outline :=
  match outline.opened with
  | { container := .item _, .. } :: _ =>
    if outline.bareItem then { outline.closeOne start with bareItem := false } else outline
  | _ => outline

def readBlock (outline : Outline) (place : Place) : Progress :=
  let (_, depth, line) := enterAll outline.containers (.atPlace place)
  let outline := outline.closeTo depth place.offset
  match openContainers (place.rest.length + 1) outline place.offset line with
  | .lineDone outline next => (outline, next)
  | .content outline start line =>
    match blankLine? line.place.rest with
    | some n => (readBlank outline start, line.place.advance n)
    | none =>
      let outline := { outline.endList start with bareItem := false }
      let (missing, text) := line.indent 4
      if missing = 0 then readIndented outline text.place text.pending
      else readLeaf outline text.place (4 - missing)

def readBlocks (outline : Outline) (place : Place) : List Node :=
  if place.rest.isEmpty then (outline.closeTo 0 place.offset).finished.reverse
  else
    let next := readBlock outline place
    if _h : next.2.rest.length < place.rest.length then readBlocks next.1 next.2
    else (outline.closeTo 0 place.offset).finished.reverse
termination_by place.rest.length

/-- The blocks of a text, in order. -/
def read (text : List Char) : List Node :=
  readBlocks {} { offset := 0, rest := text }

end DocContract.Markdown
