import DocContract.Text.Blank

/-!
# Reading JSON text by shape

A reader takes what it expects from the front of a text.  It stops at the first thing in
text order that is wrong, and says which of three kinds of fault that is: the text is not
JSON, it ends too early, or it is JSON of another shape.  A value in the place of another
kind is read to its end before it is refused, unless it is an array or an object.
-/

namespace DocContract.Json

/-- What is wrong with a JSON text. -/
inductive Fault where
  /-- The text is not JSON. -/
  | malformed
  /-- The text ends before the value does. -/
  | truncated
  /-- The text is JSON so far, but of another shape than expected. -/
  | mismatched
deriving DecidableEq, Repr

/-- Takes a value from the front of a text. -/
abbrev Reader (α : Type) := List Char → Except Fault (α × List Char)

def isBlank (c : Char) : Bool :=
  c == ' ' || c == '\n' || c == '\t' || c == '\r'

def skipBlank (cs : List Char) : List Char :=
  cs.dropWhile isBlank

def hexDigit? (c : Char) : Option Nat :=
  if '0' ≤ c && c ≤ '9' then some (c.toNat - '0'.toNat)
  else if 'a' ≤ c && c ≤ 'f' then some (c.toNat - 'a'.toNat + 10)
  else if 'A' ≤ c && c ≤ 'F' then some (c.toNat - 'A'.toNat + 10)
  else none

def hexValue? (a b c d : Char) : Option Nat := do
  return 4096 * (← hexDigit? a) + 256 * (← hexDigit? b) +
    16 * (← hexDigit? c) + (← hexDigit? d)

/-- Takes four hexadecimal digits.  The text has ended early when fewer than four bytes are
left. -/
def hexFour (cs : List Char) : Except Fault (Nat × List Char) :=
  match cs with
  | a :: b :: c :: d :: rest =>
    match hexValue? a b c d with
    | some n => .ok (n, rest)
    | none => .error .malformed
  | _ => .error (if Text.utf8Size cs < 4 then .truncated else .malformed)

/-- The character that a one-letter escape stands for. -/
def simpleEscape? : Char → Option Char
  | '"' => some '"'
  | '\\' => some '\\'
  | '/' => some '/'
  | 'b' => some '\x08'
  | 'f' => some '\x0c'
  | 'n' => some '\n'
  | 'r' => some '\r'
  | 't' => some '\t'
  | _ => none

/-- Takes the second half of a surrogate pair whose first half is `high`. -/
def lowSurrogate (high : Nat) (cs : List Char) : Except Fault (Char × List Char) :=
  match cs with
  | [] => .error .truncated
  | '\\' :: [] => .error .truncated
  | '\\' :: 'u' :: rest => do
    let (low, rest) ← hexFour rest
    if 0xDC00 ≤ low && low ≤ 0xDFFF then
      return (Char.ofNat ((high - 0xD800) * 1024 + (low - 0xDC00) + 0x10000), rest)
    else throw .malformed
  | _ => .error .malformed

def escape (cs : List Char) : Except Fault (Char × List Char) :=
  match cs with
  | [] => .error .truncated
  | 'u' :: rest => do
    let (n, rest) ← hexFour rest
    if 0xD800 ≤ n && n ≤ 0xDBFF then lowSurrogate n rest
    else if 0xDC00 ≤ n && n ≤ 0xDFFF then throw .malformed
    else return (Char.ofNat n, rest)
  | c :: rest =>
    match simpleEscape? c with
    | some d => .ok (d, rest)
    | none => .error .malformed

/-- Takes the characters of a string up to its closing quote; `taken` holds those already
taken, the last first.  Every step consumes a character, so a count equal to the length of
the text is enough. -/
def stringBody : Nat → List Char → List Char → Except Fault (List Char × List Char)
  | 0, _, _ => .error .truncated
  | _ + 1, _, [] => .error .truncated
  | fuel + 1, taken, c :: rest =>
    if c = '"' then .ok (taken.reverse, rest)
    else if c = '\\' then do
      let (d, rest) ← escape rest
      stringBody fuel (d :: taken) rest
    else if c.toNat < 0x20 then .error .malformed
    else stringBody fuel (c :: taken) rest

/-- Takes a string after its opening quote. -/
def stringAfterQuote (cs : List Char) : Except Fault (List Char × List Char) :=
  stringBody cs.length [] cs

def word : List Char → List Char → Except Fault (List Char)
  | [], rest => .ok rest
  | _ :: _, [] => .error .truncated
  | c :: cs, d :: rest => if c = d then word cs rest else .error .malformed

def digits (cs : List Char) : List Char × List Char :=
  cs.span fun c => '0' ≤ c && c ≤ '9'

def decimalValue (cs : List Char) : Nat :=
  cs.foldl (fun n c => 10 * n + (c.toNat - '0'.toNat)) 0

/-- A number as it is written: its digits before and after the point, and its exponent. -/
structure Numeral where
  negative : Bool
  whole : List Char
  fraction : Option (List Char)
  exponent : Option Int
deriving DecidableEq, Repr

/-- Takes the digits before the point: a zero alone, or digits that do not start with
one. -/
def wholeDigits (early : Fault) (cs : List Char) : Except Fault (List Char × List Char) :=
  match cs with
  | [] => .error early
  | '0' :: rest =>
    match rest with
    | d :: _ => if '0' ≤ d && d ≤ '9' then .error .malformed else .ok (['0'], rest)
    | [] => .ok (['0'], rest)
  | c :: _ => if '1' ≤ c && c ≤ '9' then .ok (digits cs) else .error .malformed

def someDigits (early : Fault) (cs : List Char) : Except Fault (List Char × List Char) :=
  match digits cs with
  | ([], []) => .error early
  | ([], _ :: _) => .error .malformed
  | taken => .ok taken

def fractionPart (early : Fault) (cs : List Char) :
    Except Fault (Option (List Char) × List Char) :=
  match cs with
  | '.' :: rest => do
    let (taken, rest) ← someDigits early rest
    return (some taken, rest)
  | _ => .ok (none, cs)

def exponentPart (early : Fault) (cs : List Char) :
    Except Fault (Option Int × List Char) :=
  match cs with
  | c :: rest =>
    if c = 'e' || c = 'E' then
      let (sign, rest) : Int × List Char :=
        match rest with
        | '-' :: rest => (-1, rest)
        | '+' :: rest => (1, rest)
        | _ => (1, rest)
      do
        let (taken, rest) ← someDigits early rest
        return (some (sign * decimalValue taken), rest)
    else .ok (none, cs)
  | [] => .ok (none, cs)

/-- Takes a number.  `early` is the fault of a number that breaks off at the end of the
text. -/
def numeral (early : Fault) (cs : List Char) : Except Fault (Numeral × List Char) := do
  let (negative, cs) := match cs with
    | '-' :: rest => (true, rest)
    | _ => (false, cs)
  let (whole, cs) ← wholeDigits early cs
  let (fraction, cs) ← fractionPart early cs
  let (exponent, cs) ← exponentPart early cs
  return ({ negative, whole, fraction, exponent }, cs)

/-- A number too large for a double, whose exponent has eleven bits. -/
def Numeral.tooLarge (n : Numeral) : Bool :=
  let fraction := n.fraction.getD []
  let value := decimalValue (n.whole ++ fraction)
  let scale := n.exponent.getD 0 - fraction.length
  if value == 0 then false
  else if 400 < scale + (n.whole ++ fraction).length then true
  else if 0 ≤ scale then Nat.pow 2 1024 - Nat.pow 2 970 ≤ value * Nat.pow 10 scale.toNat
  else (Nat.pow 2 1024 - Nat.pow 2 970) * Nat.pow 10 (-scale).toNat ≤ value

/-- The natural number below `2 ^ 64` that a numeral writes without point, exponent and
sign. -/
def Numeral.natural? (n : Numeral) : Option Nat :=
  match n.negative, n.fraction, n.exponent with
  | false, none, none =>
    let value := decimalValue n.whole
    if value < UInt64.size then some value else none
  | _, _, _ => none

/-- Takes a number that a double can hold. -/
def number (cs : List Char) : Except Fault (Numeral × List Char) := do
  let (n, rest) ← numeral .truncated cs
  if n.tooLarge then throw .malformed
  return (n, rest)

def beginsNumber (c : Char) : Bool :=
  c == '-' || ('0' ≤ c && c ≤ '9')

/-- The fault of a reading that was to end in a refusal: an earlier fault wins. -/
def faultOr {α : Type} (fault : Fault) : Except Fault α → Fault
  | .error earlier => earlier
  | .ok _ => fault

/-- The fault of finding a value of another kind than expected. -/
def mismatch (cs : List Char) : Fault :=
  match cs with
  | [] => .truncated
  | 'n' :: rest => faultOr .mismatched (word "ull".toList rest)
  | 't' :: rest => faultOr .mismatched (word "rue".toList rest)
  | 'f' :: rest => faultOr .mismatched (word "alse".toList rest)
  | '"' :: rest => faultOr .mismatched (stringAfterQuote rest)
  | '[' :: _ => .mismatched
  | '\x7b' :: _ => .mismatched
  | c :: _ => if beginsNumber c then faultOr .mismatched (number cs) else .malformed

def chars : Reader (List Char) := fun cs =>
  match skipBlank cs with
  | '"' :: rest => stringAfterQuote rest
  | cs => .error (mismatch cs)

def text : Reader String := fun cs => do
  let (body, rest) ← chars cs
  return (String.ofList body, rest)

def flag : Reader Bool := fun cs =>
  match skipBlank cs with
  | 't' :: rest => do return (true, ← word "rue".toList rest)
  | 'f' :: rest => do return (false, ← word "alse".toList rest)
  | cs => .error (mismatch cs)

/-- Reads a natural number below `2 ^ 64`. -/
def natural : Reader Nat := fun cs =>
  match skipBlank cs with
  | c :: rest =>
    if beginsNumber c then do
      let (n, rest) ← number (c :: rest)
      match n.natural? with
      | some value => return (value, rest)
      | none => throw .mismatched
    else .error (mismatch (c :: rest))
  | [] => .error .truncated

/-- Reads `null` as nothing. -/
def optional {α : Type} (reader : Reader α) : Reader (Option α) := fun cs =>
  match skipBlank cs with
  | [] => .error .truncated
  | 'n' :: rest => do return (none, ← word "ull".toList rest)
  | cs => do
    let (value, rest) ← reader cs
    return (some value, rest)

def colon (cs : List Char) : Except Fault (List Char) :=
  match skipBlank cs with
  | [] => .error .truncated
  | ':' :: rest => .ok rest
  | _ :: _ => .error .malformed

/-- Whether a further element of an array follows.  Answers where it starts, or nothing if
the closing bracket is next. -/
def nextElement? (first : Bool) (cs : List Char) : Except Fault (Option (List Char)) :=
  match skipBlank cs with
  | [] => .error .truncated
  | ']' :: _ => .ok none
  | c :: rest =>
    if first then .ok (some (c :: rest))
    else if c = ',' then
      match skipBlank rest with
      | [] => .error .truncated
      | ']' :: _ => .error .malformed
      | rest => .ok (some rest)
    else .error .malformed

/-- Whether a further member of an object follows.  Answers what comes after the opening
quote of its key, or nothing if the closing brace is next. -/
def nextKey? (first : Bool) (cs : List Char) : Except Fault (Option (List Char)) :=
  match skipBlank cs with
  | [] => .error .truncated
  | '\x7d' :: _ => .ok none
  | '"' :: rest => if first then .ok (some rest) else .error .malformed
  | ',' :: rest =>
    if first then .error .malformed
    else
      match skipBlank rest with
      | [] => .error .truncated
      | '"' :: rest => .ok (some rest)
      | _ :: _ => .error .malformed
  | _ :: _ => .error .malformed

def closeArray (cs : List Char) : Except Fault (List Char) :=
  match skipBlank cs with
  | [] => .error .truncated
  | ']' :: rest => .ok rest
  | _ :: _ => .error .malformed

def closeObject (cs : List Char) : Except Fault (List Char) :=
  match skipBlank cs with
  | [] => .error .truncated
  | '\x7d' :: rest => .ok rest
  | _ :: _ => .error .malformed

/-- The elements of an array, after its opening bracket.  Every element takes a character,
so the length of the text bounds their number. -/
def elements {α : Type} (reader : Reader α) :
    Nat → Bool → List Char → Except Fault (List α × List Char)
  | 0, _, _ => .error .truncated
  | fuel + 1, first, cs => do
    match ← nextElement? first cs with
    | none => return ([], cs)
    | some cs =>
      let (value, cs) ← reader cs
      let (values, cs) ← elements reader fuel false cs
      return (value :: values, cs)

def array {α : Type} (reader : Reader α) : Reader (List α) := fun cs =>
  match skipBlank cs with
  | '[' :: rest => do
    let (values, rest) ← elements reader (rest.length + 1) true rest
    return (values, ← closeArray rest)
  | cs => .error (mismatch cs)

/-- The members of an object, after its opening brace, in the order in which they are
written. -/
def members {α : Type} (reader : Reader α) :
    Nat → Bool → List Char → Except Fault (List (String × α) × List Char)
  | 0, _, _ => .error .truncated
  | fuel + 1, first, cs => do
    match ← nextKey? first cs with
    | none => return ([], cs)
    | some cs =>
      let (key, cs) ← stringAfterQuote cs
      let cs ← colon cs
      let (value, cs) ← reader cs
      let (rest, cs) ← members reader fuel false cs
      return ((String.ofList key, value) :: rest, cs)

def object {α : Type} (reader : Reader α) : Reader (List (String × α)) := fun cs =>
  match skipBlank cs with
  | '\x7b' :: rest => do
    let (entries, rest) ← members reader (rest.length + 1) true rest
    return (entries, ← closeObject rest)
  | cs => .error (mismatch cs)

def readAll {α : Type} (reader : Reader α) (cs : List Char) : Except Fault α := do
  let (value, rest) ← reader cs
  match skipBlank rest with
  | [] => return value
  | _ :: _ => throw .malformed

end DocContract.Json
