/-!
# Lines of a markup text

Tests on what stands at the front of a text, and the start of a line, where indentation is
counted in columns and a tab reaches to the next multiple of four.  A line ends with a line
feed, a carriage return, both in this order, or the text.
-/

namespace DocContract.Markdown

/-- A place in a text: how many characters come before it, and those that follow. -/
structure Place where
  offset : Nat
  rest : List Char
deriving Repr

def Place.advance (place : Place) (n : Nat) : Place :=
  { offset := place.offset + n, rest := place.rest.drop n }

/-- White space in the ASCII range. -/
def isAsciiSpace (c : Char) : Bool :=
  c == ' ' || ('\t' ≤ c && c ≤ '\r')

/-- White space in the ASCII range that does not end a line. -/
def isInlineSpace (c : Char) : Bool :=
  c == ' ' || c == '\t' || c == '\x0b' || c == '\x0c'

/-- The marks of the ASCII range. -/
def isAsciiPunctuation (c : Char) : Bool :=
  ('!' ≤ c && c ≤ '/') || (':' ≤ c && c ≤ '@') || ('[' ≤ c && c ≤ '\x60') ||
    ('\x7b' ≤ c && c ≤ '~')

def isAsciiLetter (c : Char) : Bool :=
  ('a' ≤ c && c ≤ 'z') || ('A' ≤ c && c ≤ 'Z')

def isAsciiDigit (c : Char) : Bool :=
  '0' ≤ c && c ≤ '9'

/-- How many characters at the front satisfy `p`. -/
def countWhile (p : Char → Bool) : List Char → Nat
  | [] => 0
  | c :: cs => if p c then countWhile p cs + 1 else 0

/-- How often a character is repeated at the front. -/
def countRun (mark : Char) (cs : List Char) : Nat :=
  countWhile (· == mark) cs

/-- The length of what ends a line, if a line ends here. -/
def lineEnd? : List Char → Option Nat
  | [] => some 0
  | '\n' :: _ => some 1
  | '\r' :: '\n' :: _ => some 2
  | '\r' :: _ => some 1
  | _ => none

def atLineEnd (cs : List Char) : Bool :=
  (lineEnd? cs).isSome

/-- The length of the rest of the line with its end, if nothing but white space is left of
it. -/
def blankLine? (cs : List Char) : Option Nat :=
  let n := countWhile isInlineSpace cs
  (lineEnd? (cs.drop n)).map (n + ·)

/-- The number of characters up to and with the next line feed. -/
def throughLineFeed : List Char → Nat
  | [] => 0
  | c :: cs => if c = '\n' then 1 else throughLineFeed cs + 1

/-- The start of a line while its indentation is being read. -/
structure LineStart where
  place : Place
  /-- Characters since the start of the line or since the last tab. -/
  column : Nat
  /-- Columns of the last tab that have not been used. -/
  pending : Nat
deriving Repr

namespace LineStart

def atPlace (place : Place) : LineStart :=
  { place, column := 0, pending := 0 }

/-- Reads up to `n` columns of indentation from a text; answers how many are missing. -/
def indentFrom (offset column : Nat) : Nat → List Char → Nat × LineStart
  | 0, rest => (0, { place := { offset, rest }, column, pending := 0 })
  | n + 1, [] => (n + 1, { place := { offset, rest := [] }, column, pending := 0 })
  | n + 1, c :: rest =>
    if c = ' ' then indentFrom (offset + 1) (column + 1) n rest
    else if c = '\t' then
      let width := 4 - column % 4
      if n + 1 < width then
        (0, { place := { offset := offset + 1, rest }, column := 0,
              pending := width - (n + 1) })
      else indentFrom (offset + 1) 0 (n + 1 - width) rest
    else (n + 1, { place := { offset, rest := c :: rest }, column, pending := 0 })

/-- Reads up to `n` columns of indentation; answers how many are missing. -/
def indent (line : LineStart) (n : Nat) : Nat × LineStart :=
  if n ≤ line.pending then (0, { line with pending := line.pending - n })
  else indentFrom line.place.offset line.column (n - line.pending) line.place.rest

def skipIndent (line : LineStart) : LineStart :=
  let n := countWhile (fun c => c == ' ' || c == '\t') line.place.rest
  { place := line.place.advance n, column := line.column + n, pending := 0 }

def advance (line : LineStart) (n : Nat) : LineStart :=
  { line with place := line.place.advance n, column := line.column + n }

def atEnd (line : LineStart) : Bool :=
  match line.place.rest with
  | [] => true
  | c :: _ => c == '\n' || c == '\r'

end LineStart

/-- The length of a thematic break with its line end: three or more equal marks, and
blanks. -/
def thematicBreak? (cs : List Char) : Option Nat :=
  match cs with
  | c :: _ => if c == '*' || c == '-' || c == '_' then go c 0 0 cs else none
  | [] => none
where
  /-- Counts the marks seen and the characters passed. -/
  go (mark : Char) (marks length : Nat) (cs : List Char) : Option Nat :=
    match cs with
    | [] => if 3 ≤ marks then some length else none
    | c :: rest =>
      match lineEnd? (c :: rest) with
      | some n => if 3 ≤ marks then some (length + n) else none
      | none =>
        if c = mark then go mark (marks + 1) (length + 1) rest
        else if c == ' ' || c == '\t' then go mark marks (length + 1) rest
        else none

/-- The level of a heading that starts with number signs. -/
def headingLevel? (cs : List Char) : Option Nat :=
  let level := countRun '#' cs
  if 1 ≤ level && level ≤ 6 then
    match cs.drop level with
    | [] => some level
    | c :: _ => if isAsciiSpace c then some level else none
  else none

/-- The length of the underline of a heading, with its line end. -/
def headingUnderline? (cs : List Char) : Option Nat :=
  match cs with
  | c :: _ =>
    if c == '=' || c == '-' then
      let run := countRun c cs
      (blankLine? (cs.drop run)).map (run + ·)
    else none
  | [] => none

/-- The mark and the length of an opening code fence. -/
def codeFence? (cs : List Char) : Option (Char × Nat) :=
  match cs with
  | c :: _ =>
    if c == '\x60' || c == '~' then
      let run := countRun c cs
      let info := (cs.drop run).takeWhile (· != '\n')
      if run < 3 || (c == '\x60' && info.contains '\x60') then none else some (c, run)
    else none
  | [] => none

/-- The length of a closing code fence, without its line end.  The end of the text closes
too. -/
def closingFence? (mark : Char) (opened : Nat) (cs : List Char) : Option Nat :=
  match cs with
  | [] => some 0
  | _ =>
    let run := countRun mark cs
    let blanks := countRun ' ' (cs.drop run)
    if opened ≤ run && atLineEnd (cs.drop (run + blanks)) then some (run + blanks)
    else none

/-- The mark of a list item: the mark itself, its number, and its length. -/
structure Bullet where
  mark : Char
  number : Nat
  width : Nat
deriving Repr

/-- The mark of a list item, whatever follows it. -/
def bullet? (cs : List Char) : Option Bullet :=
  match cs with
  | [] => none
  | c :: _ =>
    if c == '-' || c == '+' || c == '*' then some { mark := c, number := 0, width := 1 }
    else
      let digits := cs.takeWhile isAsciiDigit
      if 1 ≤ digits.length && digits.length ≤ 9 then
        match cs.drop digits.length with
        | d :: _ =>
          if d == '.' || d == ')' then
            some { mark := d
                   number := digits.foldl (fun n c => 10 * n + (c.toNat - '0'.toNat)) 0
                   width := digits.length + 1 }
          else none
        | [] => none
      else none

/-- The mark of a list item, with a blank or the end of the line after it. -/
def listItem? (cs : List Char) : Option Bullet := do
  let bullet ← bullet? cs
  match cs.drop bullet.width with
  | [] => return bullet
  | c :: _ =>
      if c == ' ' || c == '\t' || c == '\n' || c == '\r' then return bullet else none

/-- Nothing but two blank lines, or blank lines up to the end of the text. -/
def twoBlankLines (cs : List Char) : Bool :=
  match blankLine? cs with
  | none => false
  | some n => (blankLine? (cs.drop n)).isSome

end DocContract.Markdown
