import DocContract.Json.Reader

/-!
# Stepping past a JSON value

Members that a record does not know are stepped past.  They must be JSON, but their strings
need not hold paired surrogates, their numbers may be of any size, and they may be nested
to any depth.
-/

namespace DocContract.Json

def skipEscape (cs : List Char) : Except Fault (List Char) :=
  match cs with
  | [] => .error .truncated
  | 'u' :: rest => do return (← hexFour rest).2
  | c :: rest => if (simpleEscape? c).isSome then .ok rest else .error .malformed

/-- Steps past the characters of a string and its closing quote. -/
def skipString : Nat → List Char → Except Fault (List Char)
  | 0, _ => .error .truncated
  | _ + 1, [] => .error .truncated
  | fuel + 1, c :: rest =>
    if c = '"' then .ok rest
    else if c = '\\' then do skipString fuel (← skipEscape rest)
    else if c.toNat < 0x20 then .error .malformed
    else skipString fuel rest

/-- An array or object that is still open. -/
inductive Open where
  | array
  | object
deriving DecidableEq, Repr

/-- What is expected next while a value is stepped past. -/
inductive Expecting where
  /-- A value. -/
  | value
  /-- The first element or member of the innermost open value, or its end. -/
  | first
  /-- A comma or the end of the innermost open value. -/
  | more
deriving DecidableEq, Repr

/-- Steps past a key and its colon, if the innermost open value is an object. -/
def skipKey (cs : List Char) : Open → Except Fault (List Char)
  | .array => .ok cs
  | .object =>
    match skipBlank cs with
    | [] => .error .truncated
    | '"' :: rest => do colon (← skipString rest.length rest)
    | _ :: _ => .error .malformed

def closes (c : Char) : Open → Bool
  | .array => c == ']'
  | .object => c == '\x7d'

/-- Steps past a value inside the open values `stack`.  Two steps at most are taken for
each character. -/
def skipWithin : Nat → List Open → Expecting → List Char → Except Fault (List Char)
  | 0, _, _, _ => .error .truncated
  | fuel + 1, stack, .value, cs =>
    match skipBlank cs with
    | [] => .error .truncated
    | '[' :: rest => skipWithin fuel (.array :: stack) .first rest
    | '\x7b' :: rest => skipWithin fuel (.object :: stack) .first rest
    | 'n' :: rest => do skipWithin fuel stack .more (← word "ull".toList rest)
    | 't' :: rest => do skipWithin fuel stack .more (← word "rue".toList rest)
    | 'f' :: rest => do skipWithin fuel stack .more (← word "alse".toList rest)
    | '"' :: rest => do skipWithin fuel stack .more (← skipString rest.length rest)
    | c :: rest =>
      if beginsNumber c then do
        skipWithin fuel stack .more (← numeral .malformed (c :: rest)).2
      else .error .malformed
  | _ + 1, [], _, cs => .ok cs
  | fuel + 1, innermost :: stack, .first, cs =>
    match skipBlank cs with
    | [] => .error .truncated
    | c :: rest =>
      if closes c innermost then skipWithin fuel stack .more rest
      else do skipWithin fuel (innermost :: stack) .value (← skipKey (c :: rest) innermost)
  | fuel + 1, innermost :: stack, .more, cs =>
    match skipBlank cs with
    | [] => .error .truncated
    | c :: rest =>
      if c = ',' then do
        skipWithin fuel (innermost :: stack) .value (← skipKey rest innermost)
      else if closes c innermost then skipWithin fuel stack .more rest
      else .error .malformed

def skip : Reader Unit := fun cs => do
  return ((), ← skipWithin (2 * cs.length + 2) [] .value cs)

end DocContract.Json
