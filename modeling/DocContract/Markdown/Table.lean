import DocContract.Markdown.Html
import DocContract.Markdown.Node

/-!
# Interruptions and tables

What may begin in the middle of a paragraph, and how a table is recognised: a line of cells
over a delimiter row with as many columns.  A table whose first line begins with a bar
interrupts a paragraph too.
-/

namespace DocContract.Markdown

/-- Whether a new block other than a table begins here.  `current` says that the line
stands in all open containers; in a table every list item begins a block. -/
def interrupts (current inTable : Bool) (cs : List Char) : Bool :=
  atLineEnd cs || (thematicBreak? cs).isSome || (headingLevel? cs).isSome ||
    (codeFence? cs).isSome || Text.startsWith cs ['>'] ||
    (match listItem? cs with
     | none => false
     | some bullet =>
       !current || inTable ||
         ((bullet.number == 1 || bullet.mark == '-' || bullet.mark == '+' ||
            bullet.mark == '*') &&
           !twoBlankLines (cs.drop bullet.width))) ||
    (match cs with
     | '<' :: rest => (rawEnd? rest).isSome || startsBlockElement rest
     | _ => false)

/-- The number of columns and the length of a delimiter row with its line end. -/
def delimiterRow? (cs : List Char) : Option (Nat × Nat) :=
  let indent := countRun ' ' cs
  if 4 ≤ indent then none
  else
    match cs.drop indent with
    | '|' :: rest => go 0 (indent + 1) true false true rest
    | rest => go 0 indent true false false rest
where
  /-- `fresh` says that nothing of the current column has been read, `dashed` that a hyphen
  of it has, and `barred` that the row has a bar. -/
  go (columns length : Nat) (fresh dashed barred : Bool) (cs : List Char) :
    Option (Nat × Nat) :=
    let finish (stop : Nat) : Option (Nat × Nat) :=
      let columns := if fresh then columns else columns + 1
      if barred && 0 < columns && (fresh || dashed) then some (columns, stop) else none
    match cs with
    | [] => finish length
    | c :: rest =>
      match lineEnd? (c :: rest) with
      | some n => finish (length + n)
      | none =>
        if c == ' ' then go columns (length + 1) fresh dashed barred rest
        else if c == ':' then go columns (length + 1) false dashed barred rest
        else if c == '-' then go columns (length + 1) false true barred rest
        else if c == '|' then
          if dashed then go (columns + 1) (length + 1) true false true rest else none
        else none

/-- The bars of a line: how many there are, what follows the last one, and what follows the
line. -/
structure Bars where
  count : Nat
  afterLast : List Char
  /-- The length of the line with its end, if it ends before the text. -/
  length : Option Nat

/-- The bars up to the end of a line, those after a backslash left out.  A backslash stands
for itself in front of a letter, a digit or a blank. -/
def bars (cs : List Char) : Bars :=
  go 0 [] 0 false cs
where
  /-- `escaped` says that a backslash precedes. -/
  go (count : Nat) (afterLast : List Char) (length : Nat) (escaped : Bool) :
    List Char → Bars
    | [] => { count, afterLast, length := none }
    | c :: rest =>
      if c == '\n' || c == '\r' then
        { count, afterLast, length := some (length + (lineEnd? (c :: rest)).getD 0) }
      else if c == '|' && !escaped then go (count + 1) rest (length + 1) false rest
      else go count afterLast (length + 1) (c == '\\' && !escaped) rest

/-- The number of cells of a line with these bars. -/
def headerColumns (cs : List Char) (bars : Bars) : Nat :=
  let inner := match cs.dropWhile isInlineSpace with
    | '|' :: _ => bars.count - 1
    | _ => bars.count
  if (blankLine? bars.afterLast).isSome then inner else inner + 1

/-- If a line of cells with a delimiter row after it starts here, the number of columns and
the length of both lines. -/
def tableHead? (containers : List Container) (cs : List Char) : Option (Nat × Nat) := do
  let bars := bars cs
  let length ← bars.length
  guard (0 < bars.count)
  let next : Place := { offset := length, rest := cs.drop length }
  let (all, _, line) := enterAll containers (.atPlace next)
  guard all
  let (columns, width) ← delimiterRow? line.place.rest
  guard (columns == headerColumns cs bars)
  return (columns, line.place.offset + width)

/-- Whether a paragraph ends in front of this text. -/
def interruptsParagraph (containers : List Container) (current : Bool) (cs : List Char) :
    Bool :=
  interrupts current false cs ||
    (Text.startsWith cs ['|'] && (tableHead? containers cs).isSome)

/-- The number of characters up to the next bar that no backslash precedes, or to the line
end. -/
def cellLength : List Char → Nat
  | [] => 0
  | '\\' :: '\\' :: '|' :: rest => cellLength rest + 3
  | '\\' :: d :: rest =>
    if isAsciiPunctuation d then cellLength rest + 2 else cellLength (d :: rest) + 1
  | c :: rest => if c == '|' || c == '\n' || c == '\r' then 0 else cellLength rest + 1

/-- The spans of the cells of a line, and the place after the line.  A cell begins after
its bar; each takes a character, so the length of the text bounds their number. -/
def rowCells : Nat → Place → List Span × Place
  | 0, place => ([], place)
  | fuel + 1, place =>
    let place := match place.rest with
      | '|' :: _ => place.advance 1
      | _ => place
    let text := place.advance (countWhile isInlineSpace place.rest)
    match lineEnd? text.rest with
    | some n => ([], text.advance n)
    | none =>
      let stop := text.advance (cellLength text.rest)
      let (cells, after) := rowCells fuel stop
      ({ start := place.offset, stop := stop.offset } :: cells, after)

/-- The cells of a row, cut or filled up with empty ones to the number of columns. -/
def fitCells (columns : Nat) (cells : List Span) (stop : Nat) : List Span :=
  cells.take columns ++ List.replicate (columns - cells.length) { start := stop, stop }

/-- The rows of a table after its delimiter row, and the place after them.  A line without
a cell is no row. -/
def tableRows (containers : List Container) (columns : Nat) :
    Nat → Place → List (List Span) × Place
  | 0, place => ([], place)
  | fuel + 1, place =>
    let (all, _, line) := enterAll containers (.atPlace place)
    let text := line.skipIndent.place
    if !all || interrupts true true text.rest then ([], place)
    else
      match rowCells (text.rest.length + 1) text with
      | ([], _) => ([], place)
      | (cells, after) =>
        let (rows, stop) := tableRows containers columns fuel after
        (fitCells columns cells after.offset :: rows, stop)

end DocContract.Markdown
