import DocContract.Text.Blank

/-!
# Lines and quoted texts of TOML

Blanks are spaces and tabs, a line ends with a line feed that a carriage return may
precede, and a comment runs from a number sign to the end of its line.  Apart from tabs,
control characters may stand nowhere.

A basic text stands between double quotes and may have escapes; a literal text stands
between apostrophes and is taken as it is.  Three quotes open a text of several lines,
which does not begin with the end of a line, and in which up to two quotes may stand in
front of the closing three.
-/

namespace DocContract.Toml

/-- A space or a tab. -/
def isGap (c : Char) : Bool :=
  c == ' ' || c == '\t'

/-- A character that may stand in a comment or in a quoted text. -/
def isOrdinary (c : Char) : Bool :=
  c == '\t' || (0x20 ≤ c.toNat && c.toNat != 0x7F)

def skipGap (cs : List Char) : List Char :=
  cs.dropWhile isGap

def lineEnd? : List Char → Option (List Char)
  | '\n' :: rest => some rest
  | '\r' :: '\n' :: rest => some rest
  | _ => none

def skipComment : List Char → List Char
  | '#' :: rest => rest.dropWhile isOrdinary
  | cs => cs

/-- Drops what may follow a value on its line, and the end of the line. -/
def finishLine? (cs : List Char) : Option (List Char) :=
  match skipComment (skipGap cs) with
  | [] => some []
  | rest => lineEnd? rest

def skipSpace : List Char → List Char
  | '\r' :: '\n' :: rest => skipSpace rest
  | c :: rest => if c = '\n' || isGap c then skipSpace rest else c :: rest
  | [] => []

/-- Drops what may stand between the elements of an array: spaces, tabs, ends of lines and
comments. -/
def skipBetween (cs : List Char) : List Char :=
  match skipSpace cs with
  | '#' :: rest =>
    let rest := rest.dropWhile isOrdinary
    if _h : rest.length < cs.length then skipBetween rest else '#' :: rest
  | rest => rest
termination_by cs.length

def hexValue? (c : Char) : Option Nat :=
  if '0' ≤ c ∧ c ≤ '9' then some (c.toNat - '0'.toNat)
  else if 'a' ≤ c ∧ c ≤ 'f' then some (c.toNat - 'a'.toNat + 10)
  else if 'A' ≤ c ∧ c ≤ 'F' then some (c.toNat - 'A'.toNat + 10)
  else none

def hexNumber? (digits : List Char) : Option Nat :=
  digits.foldl (fun n c => do return (← n) * 16 + (← hexValue? c)) (some 0)

/-- The character with a code, unless the code stands for none. -/
def charOfCode? (n : Nat) : Option Char :=
  if n.isValidChar then some (Char.ofNat n) else none

/-- The character of an escape with `count` hexadecimal digits, and what follows. -/
def codeEscape? (count : Nat) (cs : List Char) : Option (Char × List Char) := do
  let digits := cs.take count
  if digits.length < count then none
  else return (← charOfCode? (← hexNumber? digits), cs.drop count)

/-- The character of an escape, after its backslash, and what follows. -/
def escape? : List Char → Option (Char × List Char)
  | [] => none
  | c :: rest =>
    match c with
    | 'b' => some ('\x08', rest)
    | 'f' => some ('\x0c', rest)
    | 'n' => some ('\n', rest)
    | 'r' => some ('\r', rest)
    | 't' => some ('\t', rest)
    | '"' => some ('"', rest)
    | '\\' => some ('\\', rest)
    | 'u' => codeEscape? 4 rest
    | 'U' => codeEscape? 8 rest
    | _ => none

/-- A text and what follows, with a character in front of the text. -/
def withChar (c : Char) (read : Option (List Char × List Char)) :
    Option (List Char × List Char) :=
  read.map fun (text, rest) => (c :: text, rest)

/-- The rest of a basic text on one line. -/
def basicText? (cs : List Char) : Option (List Char × List Char) :=
  match cs with
  | [] => none
  | '"' :: rest => some ([], rest)
  | '\\' :: escape =>
    match escape? escape with
    | none => none
    | some (c, rest) =>
      if _h : rest.length ≤ escape.length then withChar c (basicText? rest) else none
  | c :: rest => if isOrdinary c then withChar c (basicText? rest) else none
termination_by cs.length

/-- The rest of a literal text on one line. -/
def literalText? : List Char → Option (List Char × List Char)
  | [] => none
  | '\'' :: rest => some ([], rest)
  | c :: rest => if isOrdinary c then withChar c (literalText? rest) else none

/-- Drops the end of a line at the start of a text of several lines. -/
def skipFirstLineEnd (cs : List Char) : List Char :=
  (lineEnd? cs).getD cs

/-- The quotes at the start of a text that closes here, and what follows; there are at
least three, and at most two of five belong to the text. -/
def closing? (quote : Char) (cs : List Char) : Option (List Char × List Char) :=
  let quotes := (cs.takeWhile (· == quote)).length
  if quotes < 3 then none
  else some (List.replicate (min (quotes - 3) 2) quote, cs.drop (min quotes 5))

/-- What follows a backslash at the end of a line, up to the next visible character. -/
def continued? (cs : List Char) : Option (List Char) :=
  (lineEnd? (skipGap cs)).map skipSpace

/-- The rest of a basic text of several lines. -/
def basicBlock? (cs : List Char) : Option (List Char × List Char) :=
  match closing? '"' cs with
  | some closed => some closed
  | none =>
    match cs with
    | [] => none
    | '\\' :: escape =>
      match continued? escape with
      | some rest => if _h : rest.length ≤ escape.length then basicBlock? rest else none
      | none =>
        match escape? escape with
        | none => none
        | some (c, rest) =>
          if _h : rest.length ≤ escape.length then withChar c (basicBlock? rest) else none
    | c :: later =>
      match lineEnd? (c :: later) with
      | some rest =>
        if _h : rest.length ≤ later.length then withChar '\n' (basicBlock? rest) else none
      | none => if isOrdinary c then withChar c (basicBlock? later) else none
termination_by cs.length

/-- The rest of a literal text of several lines. -/
def literalBlock? (cs : List Char) : Option (List Char × List Char) :=
  match closing? '\'' cs with
  | some closed => some closed
  | none =>
    match cs with
    | [] => none
    | c :: later =>
      match lineEnd? (c :: later) with
      | some rest =>
        if _h : rest.length ≤ later.length then withChar '\n' (literalBlock? rest)
        else none
      | none => if isOrdinary c then withChar c (literalBlock? later) else none
termination_by cs.length

/-- A quoted text on one line, which may be a key. -/
def quotedLine? : List Char → Option (List Char × List Char)
  | '"' :: rest => basicText? rest
  | '\'' :: rest => literalText? rest
  | _ => none

def quoted? : List Char → Option (List Char × List Char)
  | '"' :: '"' :: '"' :: rest => basicBlock? (skipFirstLineEnd rest)
  | '\'' :: '\'' :: '\'' :: rest => literalBlock? (skipFirstLineEnd rest)
  | cs => quotedLine? cs

end DocContract.Toml
