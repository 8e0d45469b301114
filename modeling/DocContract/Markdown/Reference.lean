import DocContract.Markdown.Table

/-!
# Link reference definitions

A definition such as `[label]: /url "title"` leaves nothing in the page.  Label,
destination and title may stand on lines of their own, as long as none of these lines would
begin another block.
-/

namespace DocContract.Markdown

/-- How a definition continues on its next line: answers what follows the indentation,
unless the line begins another block.  With four columns of indentation it never does. -/
def continuation? (containers : List Container) (place : Place) : Option LineStart :=
  let (all, _, line) := enterAll containers (.atPlace place)
  let (missing, text) := line.indent 4
  if missing = 0 then some text
  else if interruptsParagraph containers all text.place.rest ||
      (headingUnderline? text.place.rest).isSome then none
  else some text

/-- Like `continuation?`, except that a line outside a container may be an underline. -/
def labelContinuation? (containers : List Container) (place : Place) : Option LineStart :=
  let (all, _, line) := enterAll containers (.atPlace place)
  let (missing, text) := line.indent 4
  if missing = 0 then some text
  else if interruptsParagraph containers all text.place.rest ||
      (all && (headingUnderline? text.place.rest).isSome) then none
  else some text

/-- The place after a label and its closing bracket.  `visible` says that it is not blank
so far, `fresh` that the line has been ended within the white space just read, and `broken`
counts what is left to read. -/
def afterLabel? (containers : List Container) : Nat → (visible lineEnded : Bool) → Place →
    Option Place
  | 0, _, _, _ => none
  | fuel + 1, visible, lineEnded, place =>
    match place.rest with
    | [] => none
    | c :: rest =>
      if c == '[' then none
      else if c == ']' then if visible then some (place.advance 1) else none
      else if c == '\\' && (rest.head?.map isAsciiPunctuation).getD false then
        afterLabel? containers fuel visible false (place.advance 2)
      else if isAsciiSpace c then
        match lineEnd? (c :: rest) with
        | some n =>
          if lineEnded then none
          else do
            let line ← labelContinuation? containers (place.advance n)
            afterLabel? containers fuel visible true line.place
        | none => afterLabel? containers fuel visible lineEnded (place.advance 1)
      else afterLabel? containers fuel true false (place.advance 1)

/-- The place after white space with at most one line end, and whether there was one. -/
def afterSpace? (containers : List Container) (place : Place) : Option (Place × Bool) :=
  let text := place.advance (countWhile isInlineSpace place.rest)
  match lineEnd? text.rest with
  | none => some (text, false)
  | some n => do
    let line ← continuation? containers (text.advance n)
    let next := line.place.advance (countWhile isInlineSpace line.place.rest)
    guard (!atLineEnd next.rest)
    return (next, true)

/-- The length of a destination in angle brackets, after the opening one. -/
def bracketedDestination? : List Char → Option Nat
  | [] => none
  | '\\' :: d :: rest =>
    if isAsciiPunctuation d then (bracketedDestination? rest).map (· + 2)
    else (bracketedDestination? (d :: rest)).map (· + 1)
  | c :: rest =>
    if c == '\n' || c == '\r' || c == '<' then none
    else if c == '>' then some 1
    else (bracketedDestination? rest).map (· + 1)

/-- The length of a destination without brackets, in which parentheses are balanced and not
nested deeper than `limit`. -/
def plainDestination? (limit : Nat) : Nat → List Char → Option Nat
  | nest, [] => if nest = 0 then some 0 else none
  | nest, '\\' :: d :: rest =>
    if isAsciiPunctuation d then (plainDestination? limit nest rest).map (· + 2)
    else (plainDestination? limit nest (d :: rest)).map (· + 1)
  | nest, c :: rest =>
    if c.toNat ≤ 0x20 then if nest = 0 then some 0 else none
    else if c == '(' then
      if limit < nest then none else (plainDestination? limit (nest + 1) rest).map (· + 1)
    else if c == ')' then
      match nest with
      | 0 => some 0
      | nest + 1 => (plainDestination? limit nest rest).map (· + 1)
    else (plainDestination? limit nest rest).map (· + 1)

def destination? (cs : List Char) : Option Nat :=
  match cs with
  | '<' :: rest => (bracketedDestination? rest).map (· + 1)
  | _ => plainDestination? 1 0 cs

/-- The place after the rest of a title that `close` ends. -/
def afterTitleText? (containers : List Container) (close : Char) :
    Nat → Place → Option Place
  | 0, _ => none
  | fuel + 1, place =>
    match place.rest with
    | [] => none
    | c :: rest =>
      if c == close then some (place.advance 1)
      else if c == '(' && close == ')' then none
      else if c == '\n' || c == '\r' then do
        let line ← continuation? containers (place.advance ((lineEnd? (c :: rest)).getD 1))
        afterTitleText? containers close fuel line.skipIndent.place
      else if c == '\\' then
        match rest with
        | d :: _ =>
          afterTitleText? containers close fuel
            (place.advance (if d == '\n' || d == '\r' then 1 else 2))
        | [] => none
      else afterTitleText? containers close fuel (place.advance 1)

def afterTitle? (containers : List Container) (place : Place) : Option Place :=
  let fuel := place.rest.length
  match place.rest with
  | '\'' :: _ => afterTitleText? containers '\'' fuel (place.advance 1)
  | '"' :: _ => afterTitleText? containers '"' fuel (place.advance 1)
  | '(' :: _ => afterTitleText? containers ')' fuel (place.advance 1)
  | _ => none

/-- The place after a definition, if one starts here.  A title that does not end its line
does not belong to the definition, which then must end the line before. -/
def afterReference? (containers : List Container) (place : Place) : Option Place := do
  guard (place.rest.head? == some '[')
  let label ← afterLabel? containers place.rest.length false false (place.advance 1)
  guard (label.rest.head? == some ':')
  let (target, _) ← afterSpace? containers (label.advance 1)
  let length ← destination? target.rest
  guard (length != 0)
  let untitled := target.advance length
  match afterSpace? containers untitled with
  | none => return untitled
  | some (next, newLine) =>
    if next.offset == untitled.offset && !newLine then none
    else
      let titled? := do
        let after ← afterTitle? containers next
        let n ← blankLine? after.rest
        return after.advance n
      match titled? with
      | some after => return after
      | none => if newLine then return untitled else none

end DocContract.Markdown
