import DocContract.Toml.Quoted

/-!
# Entries of a TOML document

A document of settings has one entry a line: a key and a value, which is an integer, a text
or an array of texts.  A document with anything else, such as a table, is no document of
settings and is not read.
-/

namespace DocContract.Toml

/-- The value of a setting. -/
inductive Value where
  | integer (n : Int)
  | text (text : String)
  | texts (texts : List String)
deriving DecidableEq, Repr

/-- The digits of a number, from the second on; an underscore may stand between two
digits. -/
def moreDigits (isDigit : Char → Bool) : List Char → List Char × List Char
  | '_' :: c :: rest =>
    if isDigit c then
      let (digits, rest) := moreDigits isDigit rest
      (c :: digits, rest)
    else ([], '_' :: c :: rest)
  | c :: rest =>
    if isDigit c then
      let (digits, rest) := moreDigits isDigit rest
      (c :: digits, rest)
    else ([], c :: rest)
  | [] => ([], [])

def digits? (isDigit : Char → Bool) : List Char → Option (List Char × List Char)
  | [] => none
  | c :: rest =>
    if isDigit c then
      let (digits, rest) := moreDigits isDigit rest
      some (c :: digits, rest)
    else none

/-- The number that some digits write in a base up to sixteen. -/
def numberOf (base : Nat) (digits : List Char) : Nat :=
  digits.foldl (fun n c => n * base + (hexValue? c).getD 0) 0

/-- Whether a character is a digit in a base up to sixteen. -/
def isDigitOf (base : Nat) (c : Char) : Bool :=
  (hexValue? c).any (· < base)

/-- A number in some base. -/
def natural? (base : Nat) (cs : List Char) : Option (Nat × List Char) :=
  (digits? (isDigitOf base) cs).map fun (digits, rest) => (numberOf base digits, rest)

/-- A decimal number; only zero begins with a zero. -/
def decimal? : List Char → Option (Nat × List Char)
  | '0' :: rest => some (0, rest)
  | cs => natural? 10 cs

/-- Whether a number has 64 bits. -/
def inRange (n : Int) : Bool :=
  Int64.minValue.toInt ≤ n && n ≤ Int64.maxValue.toInt

/-- An integer with its sign or base. -/
def signed? : List Char → Option (Int × List Char)
  | '+' :: rest => (decimal? rest).map fun (n, rest) => ((n : Int), rest)
  | '-' :: rest => (decimal? rest).map fun (n, rest) => (-(n : Int), rest)
  | '0' :: 'x' :: rest => (natural? 16 rest).map fun (n, rest) => ((n : Int), rest)
  | '0' :: 'o' :: rest => (natural? 8 rest).map fun (n, rest) => ((n : Int), rest)
  | '0' :: 'b' :: rest => (natural? 2 rest).map fun (n, rest) => ((n : Int), rest)
  | cs => (decimal? cs).map fun (n, rest) => ((n : Int), rest)

def integer? (cs : List Char) : Option (Int × List Char) :=
  (signed? cs).filter fun (n, _) => inRange n

/-- The elements of an array after its bracket or a comma; a comma may follow the last. -/
def elements? (cs : List Char) : Option (List String × List Char) :=
  match skipBetween cs with
  | ']' :: rest => some ([], rest)
  | start =>
    match quoted? start with
    | none => none
    | some (text, rest) =>
      match skipBetween rest with
      | ']' :: rest => some ([String.ofList text], rest)
      | ',' :: rest =>
        if _h : rest.length < cs.length then
          (elements? rest).map fun (texts, rest) => (String.ofList text :: texts, rest)
        else none
      | _ => none
termination_by cs.length

def value? : List Char → Option (Value × List Char)
  | '[' :: rest => (elements? rest).map fun (texts, rest) => (.texts texts, rest)
  | cs =>
    match quoted? cs with
    | some (text, rest) => some (.text (String.ofList text), rest)
    | none => (integer? cs).map fun (n, rest) => (.integer n, rest)

/-- A character of a key without quotes. -/
def isKeyChar (c : Char) : Bool :=
  c.isAlphanum || c == '_' || c == '-'

def key? (cs : List Char) : Option (String × List Char) :=
  match quotedLine? cs with
  | some (key, rest) => some (String.ofList key, rest)
  | none =>
    match cs.takeWhile isKeyChar with
    | [] => none
    | key => some (String.ofList key, cs.dropWhile isKeyChar)

def entry? (cs : List Char) : Option ((String × Value) × List Char) := do
  let (key, rest) ← key? cs
  match skipGap rest with
  | '=' :: rest =>
    let (value, rest) ← value? (skipGap rest)
    return ((key, value), ← finishLine? rest)
  | _ => none

def lines? (cs : List Char) : Option (List (String × Value)) :=
  match skipGap cs with
  | [] => some []
  | start =>
    match finishLine? start with
    | some rest => if _h : rest.length < cs.length then lines? rest else none
    | none =>
      match entry? start with
      | none => none
      | some (entry, rest) =>
        if _h : rest.length < cs.length then (lines? rest).map (entry :: ·) else none
termination_by cs.length

def skipByteOrderMark : List Char → List Char
  | '\uFEFF' :: rest => rest
  | cs => cs

/-- The entries of a document, unless two have the same key. -/
def entries? (document : String) : Option (List (String × Value)) :=
  (lines? (skipByteOrderMark document.toList)).filter fun entries =>
    (entries.map (·.1)).Nodup

end DocContract.Toml
