import DocContract.Code.Item
import DocContract.Schema.Graph

/-!
# Declarations of symbols

How the symbols of a schema are declared.  A record is a structure.  A closed union is a
structure with an optional field for each variant, and a look-up from the value of its key
to the field that carries the variant.  An open union is an enumeration of its members,
each of which knows itself by the constants that it holds.  The first name without an
identifier is the fault.
-/

namespace DocContract.Code

open DocContract.Naming (Ident)

/-- Why a module cannot be emitted. -/
inductive EmitError where
  /-- No identifier can be made from a name. -/
  | invalidIdentifier (name : String)
  /-- A file cannot be written. -/
  | unwritable (path cause : String)
deriving DecidableEq, Repr

def EmitError.message : EmitError → String
  | invalidIdentifier name => "cannot derive a Rust identifier from " ++ Text.quoted name
  | unwritable path cause => "failed to write output file '" ++ path ++ "': " ++ cause

def typeIdent (name : String) : Except EmitError Ident :=
  match Naming.typeIdent? name.toList with
  | some ident => .ok ident
  | none => .error (.invalidIdentifier name)

/-- The identifier of a field, a module or a test. -/
def fieldIdent (name : String) : Except EmitError Ident :=
  match Naming.fieldIdent? name.toList with
  | some ident => .ok ident
  | none => .error (.invalidIdentifier name)

def typeIdent? : Option String → Except EmitError (Option Ident)
  | none => .ok none
  | some name => (typeIdent name).map some

def TypeExpr.ofTypeRef : TypeRef → Except EmitError TypeExpr
  | .string => .ok .text
  | .timestamp => .ok .text
  | .boolean => .ok .boolean
  | .integer => .ok .integer
  | .number => .ok .number
  | .any => .ok .json
  | .named name => (typeIdent name).map .declared
  | .generic name argument => do return .applied (← typeIdent name) (← ofTypeRef argument)
  | .list item => (ofTypeRef item).map .sequence
  | .map value => (ofTypeRef value).map .map
  | .parameter name => (typeIdent name).map .parameter

/-- Whether a field may be absent in what is decoded. -/
def mayBeAbsent (field : Field) : Bool :=
  field.optional || field.omitEmpty || (field.discriminator.isSome && field.literal.isNone)

def FieldDecl.ofField (field : Field) : Except EmitError FieldDecl := do
  return { comment := field.comment
           name := field.name
           ident := ← fieldIdent field.name
           type := ← TypeExpr.ofTypeRef field.type
           optional := mayBeAbsent field }

def fieldDecls : List Field → Except EmitError (List FieldDecl)
  | [] => .ok []
  | field :: fields => do return (← FieldDecl.ofField field) :: (← fieldDecls fields)

def recordItem (record : Record) : Except EmitError Item := do
  let ident ← typeIdent record.name
  let parameter ← typeIdent? record.typeParameter
  return .struct { text := record.comment } ident parameter (← fieldDecls record.fields)

/-- The values of the discriminator with the field that each selects, field by field. -/
def dispatchArms (fields : List Field) : List Arm :=
  (fields.filter (·.typeSpecific)).flatMap fun field =>
    field.discriminatorValues.map fun value => { value, field := field.name }

/-- The order of cases: by value and then by field. -/
def Arm.before (a b : Arm) : Bool :=
  textBefore a.value b.value || (a.value == b.value && textBefore a.field b.field)

def sortArms (arms : List Arm) : List Arm :=
  arms.mergeSort fun a b => !b.before a

def closedUnionDoc (union : ClosedUnion) : DocComment :=
  let arms := dispatchArms union.fields
  { text := union.comment
    dispatch :=
      if union.discriminatorKey.isEmpty || arms.isEmpty then none
      else some
        { key := union.discriminatorKey
          entries := arms.map fun arm => ([arm.value], arm.field) } }

def closedUnionItems (union : ClosedUnion) : Except EmitError (List Item) := do
  let ident ← typeIdent union.name
  let struct := .struct (closedUnionDoc union) ident none (← fieldDecls union.fields)
  if union.discriminatorKey.isEmpty then return [struct]
  else
    let key ← fieldIdent union.discriminatorKey
    return [struct, .lookup ident key (sortArms (dispatchArms union.fields))]

def variantName (membership : Membership) (argument : String) : String :=
  membership.member ++ String.ofList (Naming.pascalCase argument.toList)

def Variant.ofMembership (membership : Membership) : Except EmitError Variant := do
  let member ← typeIdent membership.member
  match membership.typeArgument with
  | none => return { ident := member, member, argument := none }
  | some argument =>
    let ident ← typeIdent (variantName membership argument)
    return { ident, member, argument := some (← typeIdent argument) }

def variants : List Membership → Except EmitError (List Variant)
  | [] => .ok []
  | membership :: later => do
    return (← Variant.ofMembership membership) :: (← variants later)

/-- The values by which a member is known under a key. -/
def memberValues (graph : SymbolGraph) (key : String) (membership : Membership) :
    List String :=
  match graph.member membership with
  | some symbol => symbol.discriminatorValues key
  | none => []

def openUnionDoc (union : OpenUnion) (graph : SymbolGraph) : DocComment :=
  { text := union.comment
    dispatch := some
      { key := union.discriminatorKey
        entries := (graph.membersOf union.name).map fun membership =>
          (memberValues graph union.discriminatorKey membership, membership.member) } }

/-- The declaration of an open union; one without members holds any value. -/
def openUnionItem (union : OpenUnion) (graph : SymbolGraph) : Except EmitError Item := do
  let ident ← typeIdent union.name
  let doc := openUnionDoc union graph
  match ← variants (graph.membersOf union.name) with
  | [] => return .wrapper doc ident
  | variants => return .enumeration doc ident variants

def literalItem (literal : Literal) : Except EmitError Item := do
  return .constant (← typeIdent literal.name) literal.value

/-- A name in small letters. -/
def snakeName (name : String) : String :=
  String.ofList (Naming.snakeCase name.toList)

def testName (check : UnmarshalCheck) : String :=
  let subject := match check.typeArgument with
    | none => snakeName check.target
    | some argument => snakeName check.target ++ "_" ++ snakeName argument
  subject ++ "_decodes_documented_examples"

def DecodeTest.ofCheck (check : UnmarshalCheck) : Except EmitError DecodeTest := do
  let target ← typeIdent check.target
  let argument ← typeIdent? check.typeArgument
  return { name := ← fieldIdent (testName check), target, argument
           payloads := check.payloads }

def symbolItems (graph : SymbolGraph) : Symbol → Except EmitError (List Item)
  | .record record => do return [← recordItem record]
  | .closedUnion union => closedUnionItems union
  | .openUnion union => do return [← openUnionItem union graph]
  | .literal literal => do return [← literalItem literal]
  | .unmarshalCheck check => do return [.decodeTest (← DecodeTest.ofCheck check)]

end DocContract.Code
