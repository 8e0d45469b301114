import DocContract.Html.ReferenceTable
import DocContract.Json.Reader
import DocContract.Text.Blank

/-!
# Character references in attribute values

A reference calls a character by its name or its number.  A name without a semicolon counts
only where it cannot be mistaken for a part of a query, that is not in front of an equals
sign, a letter or a digit; what is no reference stands for itself.
-/

namespace DocContract.Html

def isAsciiAlphanumeric (c : Char) : Bool :=
  c.isAlphanum

def hexadecimalValue (cs : List Char) : Nat :=
  cs.foldl (fun n c => 16 * n + (Json.hexDigit? c).getD 0) 0

/-- The parts of a text between single occurrences of a character. -/
def splitOn (sep : Char) (cs : List Char) : List (List Char) :=
  match Text.splitAt? sep cs with
  | none => [cs]
  | some (part, rest) =>
    if _h : rest.length < cs.length then part :: splitOn sep rest else [part, rest]
termination_by cs.length

/-- The references used most, by name. -/
def commonNames : List (List Char × List Char) :=
  [("quot".toList, ['"']), ("amp".toList, ['&']), ("lt".toList, ['<']),
   ("gt".toList, ['>'])]

def allNames : List (List Char × List Char) :=
  (ReferenceTable.names.flatMap fun row => splitOn ' ' row.toList).filterMap fun entry =>
    (Text.splitAt? '=' entry).map fun (name, codes) =>
      (name, (splitOn '+' codes).map fun code => Char.ofNat (hexadecimalValue code))

/-- The names that need no semicolon. -/
def unterminatedNames : List (List Char) :=
  ReferenceTable.unterminated.flatMap fun row => splitOn ' ' row.toList

def lookupName (name : List Char) : Option (List Char) :=
  match commonNames.lookup name with
  | some chars => some chars
  | none => allNames.lookup name

/-- The longest name without semicolon that a text begins with. -/
def unterminatedName? (cs : List Char) : Option (List Char) :=
  (unterminatedNames.filter fun name => Text.startsWith cs name).foldl
    (fun longest name =>
      match longest with
      | some other => if other.length < name.length then some name else longest
      | none => some name)
    none

/-- The characters that some numbers stand for although they are the numbers of control
codes. -/
def controlMeanings : List (Nat × Nat) :=
  [(0x80, 0x20AC), (0x82, 0x201A), (0x83, 0x0192), (0x84, 0x201E), (0x85, 0x2026),
   (0x86, 0x2020), (0x87, 0x2021), (0x88, 0x02C6), (0x89, 0x2030), (0x8A, 0x0160),
   (0x8B, 0x2039), (0x8C, 0x0152), (0x8E, 0x017D), (0x91, 0x2018), (0x92, 0x2019),
   (0x93, 0x201C), (0x94, 0x201D), (0x95, 0x2022), (0x96, 0x2013), (0x97, 0x2014),
   (0x98, 0x02DC), (0x99, 0x2122), (0x9A, 0x0161), (0x9B, 0x203A), (0x9C, 0x0153),
   (0x9E, 0x017E), (0x9F, 0x0178)]

/-- The character with a number.  Numbers of no character stand for the replacement
character. -/
def numberedChar (n : Nat) : Char :=
  if n = 0 || 0x10FFFF < n || (0xD800 ≤ n && n ≤ 0xDFFF) then '\uFFFD'
  else Char.ofNat ((controlMeanings.lookup n).getD n)

def skipSemicolon (cs : List Char) : List Char :=
  match cs with
  | ';' :: rest => rest
  | _ => cs

/-- Reads the digits of a number and the semicolon that may follow. -/
def digitsReference? (isDigit : Char → Bool) (value : List Char → Nat) (cs : List Char) :
    Option (List Char × List Char) :=
  let digits := cs.takeWhile isDigit
  if digits.isEmpty then none
  else some ([numberedChar (value digits)], skipSemicolon (cs.drop digits.length))

/-- Reads a reference by number, after the number sign. -/
def numericReference? (cs : List Char) : Option (List Char × List Char) :=
  let hexadecimal (cs : List Char) :=
    digitsReference? (fun d => (Json.hexDigit? d).isSome) hexadecimalValue cs
  match cs with
  | 'x' :: rest => hexadecimal rest
  | 'X' :: rest => hexadecimal rest
  | cs => digitsReference? (fun d => '0' ≤ d && d ≤ '9') Json.decimalValue cs

/-- Reads a name and the semicolon after it. -/
def terminatedReference? (cs : List Char) : Option (List Char × List Char) :=
  let name := cs.takeWhile isAsciiAlphanumeric
  match cs.drop name.length with
  | ';' :: rest => (lookupName name).map fun chars => (chars, rest)
  | _ => none

/-- Reads a name without a semicolon, unless it may be a part of a query. -/
def unterminatedReference? (cs : List Char) : Option (List Char × List Char) :=
  match unterminatedName? cs with
  | none => none
  | some name =>
    let rest := cs.drop name.length
    if rest.head?.any fun c => c == '=' || isAsciiAlphanumeric c then none
    else (lookupName name).map fun chars => (chars, rest)

/-- Reads a reference by name, after the ampersand. -/
def namedReference? (cs : List Char) : Option (List Char × List Char) :=
  match terminatedReference? cs with
  | some read => some read
  | none => unterminatedReference? cs

/-- Reads a reference after the ampersand; answers the characters it stands for and the
rest. -/
def reference? (cs : List Char) : Option (List Char × List Char) :=
  match cs with
  | '#' :: rest => numericReference? rest
  | _ => namedReference? cs

theorem length_skipSemicolon_le (cs : List Char) :
    (skipSemicolon cs).length ≤ cs.length := by
  unfold skipSemicolon
  split
  · simp
  · exact Nat.le_refl _

theorem length_of_digitsReference? {isDigit : Char → Bool} {value : List Char → Nat}
    {cs chars after : List Char}
    (hread : digitsReference? isDigit value cs = some (chars, after)) :
    after.length ≤ cs.length := by
  simp only [digitsReference?] at hread
  split at hread
  · contradiction
  · simp only [Option.some.injEq, Prod.mk.injEq] at hread
    rw [← hread.2]
    exact Nat.le_trans (length_skipSemicolon_le _) (by simp)

theorem length_of_numericReference? {cs chars after : List Char}
    (hread : numericReference? cs = some (chars, after)) : after.length ≤ cs.length := by
  simp only [numericReference?] at hread
  split at hread
  · exact Nat.le_succ_of_le (length_of_digitsReference? hread)
  · exact Nat.le_succ_of_le (length_of_digitsReference? hread)
  · exact length_of_digitsReference? hread

theorem length_of_terminatedReference? {cs chars after : List Char}
    (hread : terminatedReference? cs = some (chars, after)) :
    after.length ≤ cs.length := by
  simp only [terminatedReference?] at hread
  split at hread
  · next rest hdrop =>
    obtain ⟨_, _, hafter⟩ := Option.map_eq_some_iff.1 hread
    have hlength := congrArg List.length hdrop
    simp only [List.length_drop, List.length_cons] at hlength
    simp only [Prod.mk.injEq] at hafter
    rw [← hafter.2]
    omega
  · contradiction

theorem length_of_unterminatedReference? {cs chars after : List Char}
    (hread : unterminatedReference? cs = some (chars, after)) :
    after.length ≤ cs.length := by
  simp only [unterminatedReference?] at hread
  split at hread
  · contradiction
  · split at hread
    · contradiction
    · obtain ⟨_, _, hafter⟩ := Option.map_eq_some_iff.1 hread
      simp only [Prod.mk.injEq] at hafter
      rw [← hafter.2]
      simp

/-- What follows a reference is a part of the text. -/
theorem length_of_reference? {cs chars after : List Char}
    (hread : reference? cs = some (chars, after)) : after.length ≤ cs.length := by
  unfold reference? at hread
  split at hread
  · exact Nat.le_succ_of_le (length_of_numericReference? hread)
  · unfold namedReference? at hread
    split at hread
    · next hterminated =>
      rw [Option.some.inj hread] at hterminated
      exact length_of_terminatedReference? hterminated
    · exact length_of_unterminatedReference? hread

/-- The value of an attribute as it is written in the text. -/
def decodeValue (cs : List Char) : List Char :=
  match cs with
  | [] => []
  | '&' :: rest =>
    match _ : reference? rest with
    | some (chars, after) => chars ++ decodeValue after
    | none => '&' :: decodeValue rest
  | '\x00' :: rest => '\uFFFD' :: decodeValue rest
  | c :: rest => c :: decodeValue rest
termination_by cs.length
decreasing_by
  · exact Nat.lt_succ_of_le (length_of_reference? ‹_›)
  all_goals simp

end DocContract.Html
