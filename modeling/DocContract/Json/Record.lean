import DocContract.Json.Skip

/-!
# Records and choices in JSON

A record is written as an object, whose unknown members are ignored and whose known members
may stand once, or as an array of its members in order.  A choice is written as its name,
or as an object with the name as its only key and `null` beside it; some choices allow an
empty object in the place of the `null`.
-/

namespace DocContract.Json

/-- A member of a record under construction `σ`. -/
structure Member (σ : Type) where
  name : String
  /-- The member has been read already. -/
  filled : σ → Bool
  /-- Reads the member into the record. -/
  read : σ → Reader σ

/-- A member that holds one value of `σ`. -/
def Member.ofField {σ α : Type} (name : String) (get : σ → Option α)
    (set : σ → α → σ) (reader : Reader α) : Member σ where
  name := name
  filled record := (get record).isSome
  read record cs := do
    let (value, rest) ← reader cs
    return (set record value, rest)

/-- The members of a record written as an object, after the opening brace. -/
def namedMembers {σ : Type} (known : List (Member σ)) :
    Nat → Bool → σ → List Char → Except Fault (σ × List Char)
  | 0, _, _, _ => .error .truncated
  | fuel + 1, first, record, cs => do
    match ← nextKey? first cs with
    | none => return (record, cs)
    | some cs =>
      let (key, cs) ← stringAfterQuote cs
      match known.find? (fun member => member.name.toList == key) with
      | some member =>
        if member.filled record then throw .mismatched
        let (record, cs) ← member.read record (← colon cs)
        namedMembers known fuel false record cs
      | none =>
        let (_, cs) ← skip (← colon cs)
        namedMembers known fuel false record cs

/-- The members of a record written as an array, after the opening bracket.  An array that
ends early leaves the later members out. -/
def listedMembers {σ : Type} :
    List (Member σ) → Bool → σ → List Char → Except Fault (σ × List Char)
  | [], _, record, cs => .ok (record, cs)
  | member :: later, first, record, cs => do
    match ← nextElement? first cs with
    | none => return (record, cs)
    | some cs =>
      let (record, cs) ← member.read record cs
      listedMembers later false record cs

/-- Reads a record.  `finish` refuses a record that lacks a member it needs. -/
def record {σ α : Type} (known : List (Member σ)) (empty : σ) (finish : σ → Option α) :
    Reader α := fun cs =>
  let complete (built : σ) : Except Fault α :=
    match finish built with
    | some value => .ok value
    | none => .error .mismatched
  match skipBlank cs with
  | '\x7b' :: rest => do
    let (built, rest) ← namedMembers known (rest.length + 1) true empty rest
    let value ← complete built
    return (value, ← closeObject rest)
  | '[' :: rest => do
    let (built, rest) ← listedMembers known true empty rest
    let value ← complete built
    return (value, ← closeArray rest)
  | cs => .error (mismatch cs)

/-- The choice that a name stands for. -/
def named {α : Type} (choices : List (String × α)) (name : List Char) : Except Fault α :=
  match choices.find? (fun choice => choice.1.toList == name) with
  | some (_, value) => .ok value
  | none => .error .mismatched

def unit : Reader Unit := fun cs =>
  match skipBlank cs with
  | 'n' :: rest => do return ((), ← word "ull".toList rest)
  | cs => .error (mismatch cs)

def unitOrEmpty : Reader Unit := fun cs =>
  match skipBlank cs with
  | '\x7b' :: rest => do return ((), ← closeObject rest)
  | cs => unit cs

/-- Reads one of the named choices; `beside` reads what stands beside a name that is a
key. -/
def choiceBeside {α : Type} (beside : Reader Unit) (choices : List (String × α)) :
    Reader α :=
  fun cs =>
    match skipBlank cs with
    | [] => .error .truncated
    | '"' :: rest => do
      let (name, rest) ← stringAfterQuote rest
      return (← named choices name, rest)
    | '\x7b' :: rest => do
      let (name, rest) ← chars rest
      let value ← named choices name
      let ((), rest) ← beside (← colon rest)
      return (value, ← closeObject rest)
    | _ :: _ => .error .malformed

def choice {α : Type} (choices : List (String × α)) : Reader α :=
  choiceBeside unit choices

end DocContract.Json
