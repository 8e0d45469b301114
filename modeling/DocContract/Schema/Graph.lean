import DocContract.Schema.Registry

/-!
# The finished schema

When all documents have been read, what they contributed is put in order and validated:
every type-specific field tells its variants, every type that is named exists, every member
of a union exists and can be told from the others, and every check has a target.
-/

namespace DocContract

/-- What a document contributed to the schema, in the order of declaration. -/
structure DocumentSymbols where
  document : String
  symbols : SymbolTable
deriving DecidableEq, Repr

/-- A finished schema. -/
structure SymbolGraph where
  /-- The documents by name. -/
  documents : List DocumentSymbols
  /-- The shared symbols by name, and then the checks. -/
  shared : SymbolTable
  /-- The memberships by member and union. -/
  memberships : List Membership
deriving DecidableEq, Repr

namespace SymbolGraph

/-- The symbol with a name in any scope, the shared scope first. -/
def lookup (graph : SymbolGraph) (name : String) : Option Symbol :=
  List.find? (fun symbol => symbol.isNamed && symbol.name == name)
    (graph.shared ++ graph.documents.flatMap (·.symbols))

def membersOf (graph : SymbolGraph) (union : String) : List Membership :=
  graph.memberships.filter (·.union == union)

/-- The symbols of the scope in which a membership finds its member. -/
def scopeOf? (graph : SymbolGraph) (membership : Membership) : Option SymbolTable :=
  match membership.document with
  | some document => (graph.documents.find? (·.document == document)).map (·.symbols)
  | none => some graph.shared

def member (graph : SymbolGraph) (membership : Membership) : Option Symbol :=
  (graph.scopeOf? membership).bind fun symbols =>
    List.find? (fun symbol => symbol.isNamed && symbol.name == membership.member) symbols

def checks (graph : SymbolGraph) : List UnmarshalCheck :=
  graph.shared.filterMap fun
    | .unmarshalCheck check => some check
    | _ => none

end SymbolGraph

/-- Sorts by a text; elements with the same text keep their order. -/
def sortByText {α : Type} (key : α → String) (as : List α) : List α :=
  as.mergeSort fun a b => !textBefore (key b) (key a)

/-- The first fault that a test finds in a list. -/
def firstFault {α : Type} (test : α → Except SchemaError Unit) :
    List α → Except SchemaError Unit
  | [] => .ok ()
  | a :: as =>
    match test a with
    | .ok () => firstFault test as
    | .error fault => .error fault

/-- Every type-specific field of a closed union occurs under some value. -/
def ClosedUnion.validate (union : ClosedUnion) : Except SchemaError Unit :=
  match union.fields.find? fun field =>
      field.typeSpecific && field.discriminatorValues.isEmpty with
  | some field => .error (.unresolvedDiscriminator union.name field.name)
  | none => .ok ()

/-- Every name in the type of a field is known. -/
def Field.validate (known : List String) (field : Field) : Except SchemaError Unit :=
  match field.type.referencedNames.find? fun name => !known.contains name with
  | some name => .error (.unknownSymbol name)
  | none => .ok ()

/-- A symbol is consistent in itself and refers to known names only. -/
def Symbol.validate (known : List String) (symbol : Symbol) : Except SchemaError Unit := do
  match symbol with
  | .closedUnion union => union.validate
  | _ => .ok ()
  firstFault (Field.validate known) symbol.fields

/-- The union of a membership is an open union, and its member exists and presents a
value. -/
def Membership.validate (shared : SymbolTable) (documents : List DocumentSymbols)
    (m : Membership) : Except SchemaError Unit := do
  let key ← match shared.get? m.union with
    | some (.openUnion union) => .ok union.discriminatorKey
    | some other => .error (.kindConflict m.union other.kind .openUnion)
    | none => .error (.unknownSymbol m.union)
  let scope : SymbolTable := match m.document with
    | some document => ((documents.find? (·.document == document)).map (·.symbols)).getD []
    | none => shared
  match scope.get? m.member with
  | none => .error (.unknownSymbol m.member)
  | some member =>
    if (member.discriminatorValues key).isEmpty then
      .error (.unresolvedDiscriminator m.union m.member)
    else .ok ()

/-- The target of a check is known. -/
def UnmarshalCheck.validate (known : List String) (check : UnmarshalCheck) :
    Except SchemaError Unit :=
  if known.contains check.target then .ok () else .error (.unknownSymbol check.target)

/-- Puts a schema in order and validates it. -/
def Registry.finalize (registry : Registry) (documents : List DocumentSymbols) :
    Except SchemaError SymbolGraph := do
  let documents := sortByText (·.document) documents
  let shared := sortByText Symbol.name registry.symbols
  let memberships := ascending (fun a b => keyBefore a.key b.key) registry.memberships
  let all := shared ++ documents.flatMap (·.symbols)
  let known := all.map Symbol.name
  firstFault (Symbol.validate known) all
  firstFault (Membership.validate shared documents) memberships
  firstFault (UnmarshalCheck.validate known) registry.checks
  return { documents
           shared := shared ++ registry.checks.map .unmarshalCheck
           memberships }

end DocContract
