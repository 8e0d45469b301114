import DocContract.Text.CaseTable
import DocContract.Text.GlyphTable
import DocContract.Text.LetterTable

/-!
# Letters, their case, and quoted text

Which characters are letters or numbers, which are capital or small, and what their other
case is.  A mapping may take one letter to several; the small form of a capital sigma
depends on whether it ends a word.  A text inside a message is shown between double quotes,
with what cannot be seen written as an escape; the apostrophe stays as it is.
-/

namespace DocContract.Text

/-- How many entries of an ascending table are at most `n`, found by halving. -/
def countUpTo (table : Array Nat) (n : Nat) : Nat :=
  go 0 table.size
where
  /-- All entries before `lo` are at most `n`, and all from `hi` on are above it. -/
  go (lo hi : Nat) : Nat :=
    if h : lo < hi then
      let mid := (lo + hi) / 2
      if table.getD mid 0 ≤ n then go (mid + 1) hi else go lo mid
    else lo
  termination_by hi - lo

/-- Membership in a class given by the code points at which it begins and ends. -/
def inRanges (edges : Array Nat) (c : Char) : Bool :=
  countUpTo edges c.toNat % 2 == 1

/-- A letter or a number of any script. -/
def isAlphanumeric (c : Char) : Bool := inRanges LetterTable.alphanumeric c

def isUpper (c : Char) : Bool := inRanges LetterTable.upper c

def isLower (c : Char) : Bool := inRanges LetterTable.lower c

def isDigit (c : Char) : Bool := '0' ≤ c && c ≤ '9'

/-- The image of a character under a case mapping given by runs and by full forms. -/
def mapCase (runs : Array (Nat × Nat × Nat × Nat × Nat)) (full : List (Nat × List Nat))
    (c : Char) : List Char :=
  let n := c.toNat
  match full.lookup n with
  | some image => image.map Char.ofNat
  | none =>
    match runs.find? (fun (first, last, stride, _, _) =>
        first ≤ n && n ≤ last && (n - first) % stride == 0) with
    | some (_, _, _, up, down) => [Char.ofNat (n + up - down)]
    | none => [c]

def upperForm (c : Char) : List Char :=
  if c.toNat < 0x80 then [c.toUpper]
  else mapCase CaseTable.toUpperRuns CaseTable.toUpperFull c

/-- The small form of a character that stands alone. -/
def lowerForm (c : Char) : List Char :=
  if c.toNat < 0x80 then [c.toLower]
  else mapCase CaseTable.toLowerRuns CaseTable.toLowerFull c

/-- The first character that is not to be skipped belongs to a letter with a case. -/
def reachesCased (cs : List Char) : Bool :=
  match cs.dropWhile (inRanges LetterTable.caseIgnorable) with
  | c :: _ => inRanges LetterTable.cased c
  | [] => false

/-- The small form of a word.  A capital sigma at the end of a word, with a letter before
it and none after it, becomes the final form. -/
def lowercase (cs : List Char) : List Char :=
  go [] cs
where
  /-- `before` holds the characters already passed, the nearest first. -/
  go (before : List Char) : List Char → List Char
    | [] => []
    | c :: cs =>
      let image :=
        if c == 'Σ' then
          if reachesCased before && !reachesCased cs then ['ς'] else ['σ']
        else lowerForm c
      image ++ go (c :: before) cs

/-- A number in lower-case hexadecimal digits. -/
def hexDigits (n : Nat) : List Char :=
  Nat.toDigits 16 n

/-- The characters that stand for themselves in quoted text: those with a glyph that do not
join the character before them. -/
def isVisible (c : Char) : Bool :=
  !inRanges GlyphTable.extending c && !inRanges GlyphTable.unprintable c

/-- A character as it is written between double quotes. -/
def escapeQuoted (c : Char) : List Char :=
  match c with
  | '\x00' => ['\\', '0']
  | '\t' => ['\\', 't']
  | '\r' => ['\\', 'r']
  | '\n' => ['\\', 'n']
  | '"' => ['\\', '"']
  | '\\' => ['\\', '\\']
  | c =>
      if isVisible c then [c] else '\\' :: 'u' :: '\x7b' :: hexDigits c.toNat ++ ['\x7d']

def quoted (text : String) : String :=
  String.ofList ('"' :: text.toList.flatMap escapeQuoted ++ ['"'])

end DocContract.Text
