import DocContract.Element
import DocContract.Schema.Registry

/-!
# Building a schema

A document contributes to the schema by steps, each of which declares a symbol, adds a
field or registers something.  A step that is refused changes nothing, except that a
constant which a field needed stays declared.
-/

namespace DocContract

/-- A step by which a document builds its part of the schema. -/
inductive BuildStep where
  | addRecord (name comment : String)
  | addGenericRecord (name typeParameter comment : String)
  | addSharedRecord (name comment : String)
  | addClosedUnion (name key comment : String)
  | addSharedClosedUnion (name key comment : String)
  /-- Declares an open union, which is always shared; the first key counts. -/
  | addOpenUnion (name key : String)
  | registerMember (union member : SymbolRef) (typeArgument : Option String)
  | addField (target : SymbolRef) (parameter : Parameter) (type : TypeRef)
      (options : List FieldOption)
  /-- Adds a field that always holds the constant of a parameter. -/
  | addLiteralField (target : SymbolRef) (parameter : Parameter)
  | addUnmarshalCheck (target : SymbolRef) (payload : String)
      (typeArgument : Option String)
deriving DecidableEq, Repr

/-- A step on what the documents share. -/
inductive RegistryStep where
  | internLiteral (value : String)
  | addField (target : String) (field : Field)
  | registerMembership (membership : Membership)
  | addCheck (target payload : String) (typeArgument : Option String)
deriving DecidableEq, Repr

inductive BuildAnswer where
  | symbol (ref : SymbolRef)
  | field (field : Field)
  | done
deriving DecidableEq, Repr

/-- What the steps of a document work on. -/
structure BuildState where
  registry : Registry := {}
  /-- The symbols of the document. -/
  symbols : SymbolTable := []
deriving DecidableEq, Repr

/-- The text of a parameter that gives its constant: the example, or the type if there is
none. -/
def Parameter.literalText (parameter : Parameter) : String :=
  if Text.isBlankText parameter.exampleValue.toList then parameter.type
  else parameter.exampleValue

/-- The constant inside double quotes, which must not be empty and have no quotes
itself. -/
def literalValue? (text : String) : Option String :=
  match (stripCodeSpan text).toList with
  | '"' :: rest =>
    match rest.reverse with
    | '"' :: inner =>
      if inner.isEmpty || inner.contains '"' then none
      else some (String.ofList inner.reverse)
    | _ => none
  | _ => none

/-- The field that a parameter describes, of a given type. -/
def Parameter.toField (parameter : Parameter) (type : TypeRef) : Field :=
  { name := parameter.fieldName
    type
    comment := String.ofList (Text.trim parameter.description.toList) }

abbrev BuildOutcome := Except SchemaError BuildAnswer × BuildState

namespace BuildState

def declare (state : BuildState) (symbol : Symbol) : BuildOutcome :=
  match state.symbols.intern symbol with
  | .ok symbols =>
      (.ok (.symbol { name := symbol.name, scope := .document }), { state with symbols })
  | .error fault => (.error fault, state)

def declareShared (state : BuildState) (symbol : Symbol) : BuildOutcome :=
  match state.registry.intern symbol with
  | .ok registry =>
      (.ok (.symbol { name := symbol.name, scope := .shared }), { state with registry })
  | .error fault => (.error fault, state)

/-- Adds a field to the symbol that a reference points to. -/
def attach (state : BuildState) (target : SymbolRef) (field : Field) : BuildOutcome :=
  match target.scope with
  | .document =>
    match state.symbols.attach target.name field with
    | .ok (symbols, stored) => (.ok (.field stored), { state with symbols })
    | .error fault => (.error fault, state)
  | .shared =>
    match state.registry.attach target.name field with
    | .ok (registry, stored) => (.ok (.field stored), { state with registry })
    | .error fault => (.error fault, state)

/-- Adds a field with the constant of a parameter. -/
def attachLiteral (state : BuildState) (target : SymbolRef) (parameter : Parameter) :
    BuildOutcome :=
  match literalValue? parameter.literalText with
  | none => (.error (.notALiteral parameter.fieldName parameter.literalText), state)
  | some value =>
    match state.registry.internLiteral value with
    | .error fault => (.error fault, state)
    | .ok registry =>
      attach { state with registry } target
        { parameter.toField (.named (literalName value)) with literal := some value }

end BuildState

def BuildStep.run (document : String) (state : BuildState) : BuildStep → BuildOutcome
  | addRecord name comment => state.declare (.emptyRecord name comment none)
  | addGenericRecord name typeParameter comment =>
    state.declare (.emptyRecord name comment (some typeParameter))
  | addSharedRecord name comment => state.declareShared (.emptyRecord name comment none)
  | addClosedUnion name key comment => state.declare (.emptyClosedUnion name key comment)
  | addSharedClosedUnion name key comment =>
    state.declareShared (.emptyClosedUnion name key comment)
  | addOpenUnion name key =>
    state.declareShared (.openUnion { name, comment := "", discriminatorKey := key })
  | registerMember union member typeArgument =>
    let document := match member.scope with
      | .document => some document
      | .shared => none
    let membership :=
      { union := union.name, member := member.name, document, typeArgument }
    (.ok .done, { state with registry := state.registry.register membership })
  | addField target parameter type options =>
    state.attach target ((parameter.toField type).withOptions options)
  | addLiteralField target parameter => state.attachLiteral target parameter
  | addUnmarshalCheck target payload typeArgument =>
    let payload := String.ofList (Text.trim payload.toList)
    (.ok .done,
      { state with registry := state.registry.check target.name payload typeArgument })

def RegistryStep.run (registry : Registry) :
    RegistryStep → Except SchemaError BuildAnswer × Registry
  | internLiteral value =>
    match registry.internLiteral value with
    | .ok registry =>
      (.ok (.symbol { name := literalName value, scope := .shared }), registry)
    | .error fault => (.error fault, registry)
  | addField target field =>
    match registry.attach target field with
    | .ok (registry, stored) => (.ok (.field stored), registry)
    | .error fault => (.error fault, registry)
  | registerMembership membership => (.ok .done, registry.register membership)
  | addCheck target payload typeArgument =>
    (.ok .done, registry.check target payload typeArgument)

/-- Takes steps in a document up to the first that is refused. -/
def runSteps (document : String) :
    BuildState → List BuildStep → Except SchemaError Unit × BuildState
  | state, [] => (.ok (), state)
  | state, step :: steps =>
    match step.run document state with
    | (.ok _, state) => runSteps document state steps
    | (.error fault, state) => (.error fault, state)

end DocContract
