import DocContract.Text.Letter

/-!
# Writing JSON text

Strings are written with the short escapes where JSON has them, other control characters by
their code, and every other character as it is.  Objects keep the order in which their
members are given, unless they are `sorted`; `compact` writes no blanks and `indented` one
member or element a line.
-/

namespace DocContract.Json

inductive Value where
  | null
  | flag (b : Bool)
  | natural (n : Nat)
  | text (s : String)
  | array (elements : List Value)
  | object (members : List (String × Value))

def escapeChar (c : Char) : List Char :=
  match c with
  | '"' => ['\\', '"']
  | '\\' => ['\\', '\\']
  | '\x08' => ['\\', 'b']
  | '\x0c' => ['\\', 'f']
  | '\n' => ['\\', 'n']
  | '\r' => ['\\', 'r']
  | '\t' => ['\\', 't']
  | c =>
    if c.toNat < 0x20 then
      ['\\', 'u', '0', '0', Nat.digitChar (c.toNat / 16), Nat.digitChar (c.toNat % 16)]
    else [c]

def writeText (s : List Char) : List Char :=
  '"' :: s.flatMap escapeChar ++ ['"']

mutual

/-- A value without any blanks. -/
def Value.compact : Value → List Char
  | .null => "null".toList
  | .flag true => "true".toList
  | .flag false => "false".toList
  | .natural n => (toString n).toList
  | .text s => writeText s.toList
  | .array elements => '[' :: Value.compactElements elements ++ [']']
  | .object members => '\x7b' :: Value.compactMembers members ++ ['\x7d']

def Value.compactElements : List Value → List Char
  | [] => []
  | [value] => value.compact
  | value :: values => value.compact ++ ',' :: Value.compactElements values

def Value.compactMembers : List (String × Value) → List Char
  | [] => []
  | [(key, value)] => writeText key.toList ++ ':' :: value.compact
  | (key, value) :: members =>
    writeText key.toList ++ ':' :: value.compact ++ ',' :: Value.compactMembers members

end

/-- Inserts a member in front of the first whose key is greater. -/
def insertMember (member : String × Value) : List (String × Value) → List (String × Value)
  | [] => [member]
  | other :: members =>
    if member.1 < other.1 then member :: other :: members
    else other :: insertMember member members

mutual

/-- A value in which the keys of every object ascend. -/
def Value.sorted : Value → Value
  | .array elements => .array (Value.sortedElements elements)
  | .object members => .object (Value.sortedMembers members)
  | value => value

def Value.sortedElements : List Value → List Value
  | [] => []
  | value :: values => value.sorted :: Value.sortedElements values

def Value.sortedMembers : List (String × Value) → List (String × Value)
  | [] => []
  | (key, value) :: members =>
      insertMember (key, value.sorted) (Value.sortedMembers members)

end

/-- A line feed and the blanks that indent by `depth` steps of two. -/
def lineBreak (depth : Nat) : List Char :=
  '\n' :: List.replicate (2 * depth) ' '

mutual

/-- A value whose elements and members stand on lines of their own, two blanks further
in. -/
def Value.indented (depth : Nat) : Value → List Char
  | .array [] => ['[', ']']
  | .object [] => ['\x7b', '\x7d']
  | .array elements =>
    '[' :: Value.indentedElements (depth + 1) elements ++ lineBreak depth ++ [']']
  | .object members =>
    '\x7b' :: Value.indentedMembers (depth + 1) members ++ lineBreak depth ++ ['\x7d']
  | .null => "null".toList
  | .flag true => "true".toList
  | .flag false => "false".toList
  | .natural n => (toString n).toList
  | .text s => writeText s.toList

def Value.indentedElements (depth : Nat) : List Value → List Char
  | [] => []
  | [value] => lineBreak depth ++ value.indented depth
  | value :: values =>
    lineBreak depth ++ value.indented depth ++ ',' :: Value.indentedElements depth values

def Value.indentedMembers (depth : Nat) : List (String × Value) → List Char
  | [] => []
  | [(key, value)] =>
    lineBreak depth ++ writeText key.toList ++ ": ".toList ++ value.indented depth
  | (key, value) :: members =>
    lineBreak depth ++ writeText key.toList ++ ": ".toList ++ value.indented depth ++
      ',' :: Value.indentedMembers depth members

end

end DocContract.Json
