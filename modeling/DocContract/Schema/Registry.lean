import DocContract.Naming.Identifier
import DocContract.Schema.Table

/-!
# The registry of a run

What the documents of a run share: the symbols of the shared scope, which symbols are
members of which open unions, and the example payloads to be checked.
-/

namespace DocContract

/-- A symbol is a member of an open union. -/
structure Membership where
  union : String
  member : String
  /-- The document in whose table the member is; the shared table if there is none. -/
  document : Option String
  typeArgument : Option String
deriving DecidableEq, Repr

def Membership.key (m : Membership) : List (Option String) :=
  [some m.member, some m.union, m.document, m.typeArgument]

def UnmarshalCheck.key (check : UnmarshalCheck) : List (Option String) :=
  [some check.target, check.typeArgument]

/-- What the documents of a run share. -/
structure Registry where
  symbols : SymbolTable := []
  /-- Memberships in the order in which they were registered. -/
  memberships : List Membership := []
  /-- Checks in ascending order, one for each target and type argument. -/
  checks : List UnmarshalCheck := []
deriving DecidableEq, Repr

def Symbol.emptyRecord (name comment : String) (typeParameter : Option String) : Symbol :=
  .record { name, comment, typeParameter, fields := [] }

/-- A closed union without variants; its key is a text field. -/
def Symbol.emptyClosedUnion (name key comment : String) : Symbol :=
  .closedUnion
    { name
      comment
      discriminatorKey := key
      fields := if key.isEmpty then [] else [{ name := key, type := .string }] }

/-- The name of the constant with a value. -/
def literalName (value : String) : String :=
  "Always" ++ String.ofList (Naming.pascalCase value.toList)

def recordCheck (target payload : String) (typeArgument : Option String) :
    List UnmarshalCheck → List UnmarshalCheck
  | [] => [{ target, typeArgument, payloads := [payload] }]
  | check :: checks =>
    let key := [some target, typeArgument]
    if keyBefore key check.key then
      { target, typeArgument, payloads := [payload] } :: check :: checks
    else if keyBefore check.key key then
      check :: recordCheck target payload typeArgument checks
    else { check with payloads := insertText payload check.payloads } :: checks

namespace Registry

def intern (registry : Registry) (symbol : Symbol) : Except SchemaError Registry :=
  match registry.symbols.intern symbol with
  | .ok symbols => .ok { registry with symbols }
  | .error fault => .error fault

/-- Declares the constant with a value; another constant may have the name already. -/
def internLiteral (registry : Registry) (value : String) : Except SchemaError Registry :=
  let name := literalName value
  let taken := match registry.symbols.get? name with
    | some (.literal existing) => existing.value != value
    | _ => false
  if taken then .error (.notALiteral name value)
  else registry.intern (.literal { name, value })

/-- Adds a field to a symbol of the shared scope; answers the field as it is now. -/
def attach (registry : Registry) (target : String) (added : Field) :
    Except SchemaError (Registry × Field) :=
  match registry.symbols.attach target added with
  | .ok (symbols, stored) => .ok ({ registry with symbols }, stored)
  | .error fault => .error fault

def register (registry : Registry) (membership : Membership) : Registry :=
  { registry with memberships := registry.memberships ++ [membership] }

/-- Adds a payload that must decode as a symbol. -/
def check (registry : Registry) (target payload : String) (typeArgument : Option String) :
    Registry :=
  { registry with checks := recordCheck target payload typeArgument registry.checks }

end Registry

end DocContract
