import DocContract.Schema.Field

/-!
# Symbols

What stands at the top of the generated code: records, closed unions whose variants are
their own fields, open unions whose members are registered from outside, constants, and
checks that examples decode.  Under the key of a discriminator a symbol presents the values
that its fields of that name can have.
-/

namespace DocContract

inductive SymbolKind where
  | record
  | closedUnion
  | openUnion
  | literal
  | unmarshalCheck
deriving DecidableEq, Repr

def SymbolKind.display : SymbolKind → String
  | record => "record"
  | closedUnion => "closed union"
  | openUnion => "open union"
  | literal => "literal"
  | unmarshalCheck => "unmarshal check"

/-- A record, which may have a type parameter. -/
structure Record where
  name : String
  comment : String
  typeParameter : Option String
  fields : List Field
deriving DecidableEq, Repr

/-- A record of which some fields belong to a variant. -/
structure ClosedUnion where
  name : String
  comment : String
  /-- The field that tells the variant, if any. -/
  discriminatorKey : String
  fields : List Field
deriving DecidableEq, Repr

/-- A union with members from outside. -/
structure OpenUnion where
  name : String
  comment : String
  /-- The field that tells the member. -/
  discriminatorKey : String
deriving DecidableEq, Repr

/-- A type with one constant string as its value. -/
structure Literal where
  name : String
  value : String
deriving DecidableEq, Repr

/-- Example payloads that must decode as a symbol. -/
structure UnmarshalCheck where
  target : String
  typeArgument : Option String
  payloads : List String
deriving DecidableEq, Repr

/-- A named type, or a check. -/
inductive Symbol where
  | record (record : Record)
  | closedUnion (union : ClosedUnion)
  | openUnion (union : OpenUnion)
  | literal (literal : Literal)
  | unmarshalCheck (check : UnmarshalCheck)
deriving DecidableEq, Repr

/-- The values under which type-specific fields of a closed union occur, ascending. -/
def ClosedUnion.dispatchValues (union : ClosedUnion) : List String :=
  textSet ((union.fields.filter (·.typeSpecific)).flatMap Field.discriminatorValues)

namespace Symbol

/-- The name of a symbol; that of a check is its target. -/
def name : Symbol → String
  | record r => r.name
  | closedUnion u => u.name
  | openUnion u => u.name
  | literal l => l.name
  | unmarshalCheck c => c.target

def kind : Symbol → SymbolKind
  | record _ => .record
  | closedUnion _ => .closedUnion
  | openUnion _ => .openUnion
  | literal _ => .literal
  | unmarshalCheck _ => .unmarshalCheck

def fields : Symbol → List Field
  | record r => r.fields
  | closedUnion u => u.fields
  | _ => []

/-- Whether a symbol is no check. -/
def isNamed (symbol : Symbol) : Bool :=
  symbol.kind != .unmarshalCheck

/-- The values that fields present under a key: the constants and the discriminator values
of those with this name. -/
def fieldValues (fields : List Field) (key : String) : List String :=
  textSet ((fields.filter (·.name == key)).flatMap fun field =>
    field.literal.toList ++ field.discriminatorValues)

/-- The values that a symbol presents under a key, ascending; a closed union presents under
its own key the values of its variants. -/
def discriminatorValues (symbol : Symbol) (key : String) : List String :=
  match symbol with
  | closedUnion u =>
    if u.discriminatorKey = key then u.dispatchValues else fieldValues u.fields key
  | symbol => fieldValues symbol.fields key

/-- The comment that stays when a symbol is declared again. -/
def keptComment (current offered : String) : String :=
  if current.isEmpty then offered else current

/-- A symbol that is declared again: it takes the new comment if it has none. -/
def adoptComment : Symbol → Symbol → Symbol
  | record current, record offered =>
    record { current with comment := keptComment current.comment offered.comment }
  | closedUnion current, closedUnion offered =>
    closedUnion { current with comment := keptComment current.comment offered.comment }
  | openUnion current, openUnion offered =>
    openUnion { current with comment := keptComment current.comment offered.comment }
  | current, _ => current

end Symbol

/-- The symbol tables a reference can point into. -/
inductive Scope where
  /-- The table of the document that holds the reference. -/
  | document
  /-- The table that all documents share. -/
  | shared
deriving DecidableEq, Repr

structure SymbolRef where
  name : String
  scope : Scope
deriving DecidableEq, Repr

end DocContract
