import DocContract.Proofs.Sessions

/-!
# What a step contributes to the registry

A step of a document acts on what is shared by a few contributions, and on the table of the
document by itself; it is accepted when both are.  A contribution to the shared symbols
concerns the symbol of one name: whether it is accepted depends on that symbol, and it
changes no other.
-/

namespace DocContract

/-- What a step can do to the registry. -/
inductive Contribution where
  | declare (symbol : Symbol)
  /-- Declares the constant with a value. -/
  | constant (value : String)
  | extend (target : String) (field : Field)
  | register (membership : Membership)
  | check (target payload : String) (typeArgument : Option String)
deriving DecidableEq

namespace Contribution

def symbol? : Contribution → Option Symbol
  | declare symbol => some symbol
  | constant value => some (.literal { name := literalName value, value })
  | _ => none

def run (registry : Registry) : Contribution → Except SchemaError Registry
  | declare symbol => registry.intern symbol
  | constant value => registry.internLiteral value
  | extend target field => (registry.attach target field).map Prod.fst
  | register membership => .ok (registry.register membership)
  | check target payload typeArgument => .ok (registry.check target payload typeArgument)

/-- Makes contributions up to the first that is refused. -/
def runAll : Registry → List Contribution → Except SchemaError Registry
  | registry, [] => .ok registry
  | registry, contribution :: later =>
    match contribution.run registry with
    | .ok registry => runAll registry later
    | .error fault => .error fault

@[simp] theorem runAll_nil (registry : Registry) : runAll registry [] = .ok registry := rfl

theorem runAll_cons_of_ok
    {registry after : Registry} {contribution : Contribution}
    (hrun : contribution.run registry = .ok after) (later : List Contribution) :
    runAll registry (contribution :: later) = runAll after later := by
  rw [runAll, hrun]

theorem runAll_cons_of_error
    {registry : Registry} {contribution : Contribution} {fault : SchemaError}
    (hrun : contribution.run registry = .error fault) (later : List Contribution) :
    runAll registry (contribution :: later) = .error fault := by
  rw [runAll, hrun]

@[simp] theorem runAll_singleton (registry : Registry) (contribution : Contribution) :
    runAll registry [contribution] = contribution.run registry := by
  unfold runAll
  cases contribution.run registry <;> rfl

theorem runAll_append_eq_ok_iff
    (registry after : Registry) (earlier later : List Contribution) :
    runAll registry (earlier ++ later) = .ok after ↔
      ∃ between, runAll registry earlier = .ok between ∧
        runAll between later = .ok after := by
  induction earlier generalizing registry with
  | nil => simp [runAll]
  | cons first earlier ih =>
      cases hrun : first.run registry with
      | ok middle =>
          rw [List.cons_append, runAll_cons_of_ok hrun, runAll_cons_of_ok hrun, ih]
      | error fault =>
          rw [List.cons_append, runAll_cons_of_error hrun, runAll_cons_of_error hrun]
          simp

theorem run_extend_eq_ok_iff
    {registry after : Registry} {target : String} {field : Field} :
    (extend target field).run registry = .ok after ↔
      ∃ symbols stored, registry.symbols.attach target field = .ok (symbols, stored) ∧
        after = { registry with symbols } := by
  simp only [run, Registry.attach]
  cases registry.symbols.attach target field with
  | ok pair => simp [Except.map, Prod.ext_iff, eq_comm]
  | error fault => simp [Except.map]

end Contribution

theorem Registry.intern_eq_ok_iff (registry after : Registry) (symbol : Symbol) :
    registry.intern symbol = .ok after ↔
      ∃ symbols, registry.symbols.intern symbol = .ok symbols ∧
        after = { registry with symbols } := by
  unfold intern
  cases registry.symbols.intern symbol with
  | ok symbols => simp [eq_comm]
  | error fault => simp

namespace BuildStep

/-- The field that a step adds, of a parameter with a constant. -/
def literalField (parameter : Parameter) (value : String) : Field :=
  { parameter.toField (.named (literalName value)) with literal := some value }

def sharedSymbol? : BuildStep → Option Symbol
  | addSharedRecord name comment => some (.emptyRecord name comment none)
  | addSharedClosedUnion name key comment => some (.emptyClosedUnion name key comment)
  | addOpenUnion name key =>
      some (.openUnion { name, comment := "", discriminatorKey := key })
  | addLiteralField _ parameter =>
    (literalValue? parameter.literalText).map fun value =>
      .literal { name := literalName value, value }
  | _ => none

/-- The shared symbol to which a step adds a field. -/
def sharedTarget? : BuildStep → Option String
  | addField target _ _ _ => if target.scope = .shared then some target.name else none
  | addLiteralField target _ => if target.scope = .shared then some target.name else none
  | _ => none

def sharedUnion? : BuildStep → Option (String × String)
  | addSharedClosedUnion name key _ => some (name, key)
  | addOpenUnion name key => some (name, key)
  | _ => none

/-- What a step contributes to the registry. -/
def contributions (document : String) : BuildStep → List Contribution
  | addSharedRecord name comment => [.declare (.emptyRecord name comment none)]
  | addSharedClosedUnion name key comment =>
      [.declare (.emptyClosedUnion name key comment)]
  | addOpenUnion name key =>
    [.declare (.openUnion { name, comment := "", discriminatorKey := key })]
  | registerMember union member typeArgument =>
    let document := match member.scope with
      | .document => some document
      | .shared => none
    [.register { union := union.name, member := member.name, document, typeArgument }]
  | addField target parameter type options =>
    if target.scope = .shared then
      [.extend target.name ((parameter.toField type).withOptions options)]
    else []
  | addLiteralField target parameter =>
    match literalValue? parameter.literalText with
    | none => []
    | some value =>
      .constant value ::
        if target.scope = .shared then
          [.extend target.name (literalField parameter value)] else []
  | addUnmarshalCheck target payload typeArgument =>
    [.check target.name (String.ofList (Text.trim payload.toList)) typeArgument]
  | _ => []

/-- What a step makes of the table of its document. -/
def own (table : SymbolTable) : BuildStep → Except SchemaError SymbolTable
  | addRecord name comment => table.intern (.emptyRecord name comment none)
  | addGenericRecord name typeParameter comment =>
    table.intern (.emptyRecord name comment (some typeParameter))
  | addClosedUnion name key comment => table.intern (.emptyClosedUnion name key comment)
  | addField target parameter type options =>
    if target.scope = .shared then .ok table
    else
      (table.attach target.name ((parameter.toField type).withOptions options)).map
        Prod.fst
  | addLiteralField target parameter =>
    match literalValue? parameter.literalText with
    | none => .error (.notALiteral parameter.fieldName parameter.literalText)
    | some value =>
      if target.scope = .shared then .ok table
      else (table.attach target.name (literalField parameter value)).map Prod.fst
  | _ => .ok table

/-- Takes the steps of a document as far as its own table goes. -/
def ownAll : SymbolTable → List BuildStep → Except SchemaError SymbolTable
  | table, [] => .ok table
  | table, step :: steps =>
    match step.own table with
    | .ok table => ownAll table steps
    | .error fault => .error fault

end BuildStep

/-! ## A step is its two parts -/

def BuildStep.LeadsTo (document : String) (step : BuildStep) (before after : BuildState) :
    Prop :=
  ∃ answer, step.run document before = (.ok answer, after)

section Parts

theorem BuildState.eq_iff (a b : BuildState) :
    a = b ↔ a.registry = b.registry ∧ a.symbols = b.symbols := by
  cases a
  cases b
  simp

theorem BuildState.declare_leads_iff (state after : BuildState) (symbol : Symbol) :
    (∃ answer, state.declare symbol = (.ok answer, after)) ↔
      state.registry = after.registry ∧
      state.symbols.intern symbol = .ok after.symbols := by
  unfold declare
  cases state.symbols.intern symbol with
  | ok symbols => simp [eq_iff]
  | error fault => simp

theorem BuildState.declareShared_leads_iff (state after : BuildState) (symbol : Symbol) :
    (∃ answer, state.declareShared symbol = (.ok answer, after)) ↔
      state.registry.intern symbol = .ok after.registry ∧
      state.symbols = after.symbols := by
  unfold declareShared
  cases state.registry.intern symbol with
  | ok registry => simp [eq_iff]
  | error fault => simp

theorem BuildState.attach_leads_iff (state after : BuildState) (target : SymbolRef)
    (field : Field) :
    (∃ answer, state.attach target field = (.ok answer, after)) ↔
      (if target.scope = .shared then
          (state.registry.attach target.name field).map Prod.fst
        else .ok state.registry) = .ok after.registry ∧
      (if target.scope = .shared then .ok state.symbols
        else (state.symbols.attach target.name field).map Prod.fst) =
          .ok after.symbols := by
  unfold attach
  cases target.scope with
  | document =>
      cases state.symbols.attach target.name field with
      | ok pair => simp [eq_iff, Except.map]
      | error fault => simp [Except.map]
  | shared =>
      cases state.registry.attach target.name field with
      | ok pair => simp [eq_iff, Except.map]
      | error fault => simp [Except.map]

/-- A step is accepted iff its contributions are and its own table takes it. -/
theorem BuildStep.leadsTo_iff (document : String) (step : BuildStep)
    (state after : BuildState) :
    step.LeadsTo document state after ↔
      Contribution.runAll state.registry (step.contributions document) =
        .ok after.registry ∧
        step.own state.symbols = .ok after.symbols := by
  unfold LeadsTo run contributions own
  cases step with
  | addRecord name comment =>
      simpa using
        BuildState.declare_leads_iff state after _
  | addGenericRecord name typeParameter comment =>
      simpa using
        BuildState.declare_leads_iff state after _
  | addClosedUnion name key comment =>
      simpa using
        BuildState.declare_leads_iff state after _
  | addSharedRecord name comment =>
      simpa [Contribution.run] using
        BuildState.declareShared_leads_iff state after _
  | addSharedClosedUnion name key comment =>
      simpa [Contribution.run] using
        BuildState.declareShared_leads_iff state after _
  | addOpenUnion name key =>
      simpa [Contribution.run] using
        BuildState.declareShared_leads_iff state after _
  | registerMember union member typeArgument =>
      cases hscope : member.scope <;>
        simp [Contribution.run, BuildState.eq_iff, hscope]
  | addField target parameter type options =>
      rw [BuildState.attach_leads_iff]
      by_cases hscope : target.scope = .shared <;>
        simp [Contribution.run, hscope]
  | addLiteralField target parameter =>
      unfold BuildState.attachLiteral
      cases hvalue : literalValue? parameter.literalText with
      | none => simp [hvalue]
      | some value =>
          cases hintern : state.registry.internLiteral value with
          | error fault =>
              have hrefused : (Contribution.constant value).run state.registry =
                  .error fault :=
                hintern
              simp [hvalue, hintern, Contribution.runAll_cons_of_error hrefused]
          | ok registry =>
              have hmade : (Contribution.constant value).run state.registry =
                  .ok registry :=
                hintern
              have hattach :=
                BuildState.attach_leads_iff { state with registry } after target
                  (literalField parameter value)
              by_cases hscope : target.scope = .shared <;>
                simpa [Contribution.run, Contribution.runAll_cons_of_ok hmade,
                  literalField, hvalue, hintern, hscope] using hattach
  | addUnmarshalCheck target payload typeArgument =>
      simp [Contribution.run, BuildState.eq_iff]

end Parts

/-- What a declaration makes of the symbol that its name has, if there is one. -/
def Symbol.redeclared (current : Option Symbol) (symbol : Symbol) : Symbol :=
  (current.map fun existing => existing.adoptComment symbol).getD symbol

/-- A symbol with one more field, if it takes it. -/
def Symbol.extended (symbol : Symbol) (field : Field) : Symbol :=
  match symbol.attach field with
  | .ok (updated, _) => updated
  | .error _ => symbol

theorem Symbol.extended_eq_of_attach
    {symbol updated : Symbol} {added stored : Field}
    (hattach : symbol.attach added = .ok (updated, stored)) :
    symbol.extended added = updated := by
  rw [extended, hattach]

namespace Contribution

/-- What a contribution makes of what is read under a name. -/
def cell (name : String) (current : Option Symbol) : Contribution → Option Symbol
  | declare symbol =>
      if symbol.name = name then some (symbol.redeclared current) else current
  | constant value =>
    if literalName value = name then
      some (Symbol.redeclared current (.literal { name := literalName value, value }))
    else current
  | extend target field =>
    if target = name then current.map fun symbol => symbol.extended field else current
  | _ => current

theorem symbol?_cases
    {contribution : Contribution} {symbol : Symbol}
    (hsymbol : contribution.symbol? = some symbol) :
    contribution = declare symbol ∨
      ∃ value, contribution = constant value ∧
        symbol = .literal { name := literalName value, value } := by
  cases contribution with
  | declare other => exact Or.inl (congrArg declare (Option.some.inj hsymbol))
  | constant value => exact Or.inr ⟨value, rfl, (Option.some.inj hsymbol).symm⟩
  | extend => contradiction
  | register => contradiction
  | check => contradiction

theorem cell_of_symbol?
    {contribution : Contribution} {symbol : Symbol}
    (hsymbol : contribution.symbol? = some symbol) (name : String)
    (current : Option Symbol) :
    contribution.cell name current =
      if symbol.name = name then some (symbol.redeclared current) else current := by
  obtain rfl | ⟨value, rfl, rfl⟩ := symbol?_cases hsymbol
  · rfl
  · rfl

theorem cell_of_unrelated
    {contribution : Contribution} {name : String}
    (hsymbol : ∀ symbol, contribution.symbol? = some symbol → symbol.name ≠ name)
    (hfield : ∀ field, contribution ≠ extend name field) (current : Option Symbol) :
    contribution.cell name current = current := by
  cases contribution with
  | declare symbol => exact if_neg (hsymbol symbol rfl)
  | constant value => exact if_neg (hsymbol _ rfl)
  | extend target field =>
      refine if_neg fun htarget => hfield field ?_
      rw [htarget]
  | register => rfl
  | check => rfl

variable {registry after : Registry}

/-- An accepted declaration is taken by the table. -/
theorem intern_of_run
    {contribution : Contribution} {symbol : Symbol}
    (hsymbol : contribution.symbol? = some symbol)
    (hrun : contribution.run registry = .ok after) :
    ∃ symbols, registry.symbols.intern symbol = .ok symbols ∧
      after = { registry with symbols } := by
  obtain rfl | ⟨value, rfl, rfl⟩ := symbol?_cases hsymbol
  · exact (Registry.intern_eq_ok_iff _ _ _).1 hrun
  · exact (Registry.intern_eq_ok_iff _ _ _).1
      ((Registry.internLiteral_eq_ok_iff _ _ _).1 hrun).2

/-- An accepted contribution changes what is read under the name that it concerns. -/
theorem get?_of_run
    {contribution : Contribution} (hrun : contribution.run registry = .ok after)
    (name : String) :
    after.symbols.get? name = contribution.cell name (registry.symbols.get? name) := by
  cases contribution with
  | declare symbol =>
      obtain ⟨symbols, hintern, rfl⟩ := intern_of_run rfl hrun
      exact SymbolTable.get?_of_intern hintern name
  | constant value =>
      obtain ⟨symbols, hintern, rfl⟩ := intern_of_run rfl hrun
      exact SymbolTable.get?_of_intern hintern name
  | extend target field =>
      obtain ⟨symbols, stored, hattach, rfl⟩ := run_extend_eq_ok_iff.1 hrun
      obtain ⟨symbol, updated, hget, hupdated, hafter⟩ :=
        SymbolTable.get?_of_attach hattach
      rw [hafter, cell]
      split
      · next htarget =>
        rw [← htarget, hget, Option.map_some, Symbol.extended_eq_of_attach hupdated]
      · rfl
  | register membership =>
      obtain rfl : registry.register membership = after := by simpa [run] using hrun
      rfl
  | check target payload typeArgument =>
      obtain rfl : registry.check target payload typeArgument = after := by
        simpa [run] using hrun
      rfl

theorem get?_of_runAll
    {contributions : List Contribution} (hrun : runAll registry contributions = .ok after)
    (name : String) :
    after.symbols.get? name =
      contributions.foldl (cell name) (registry.symbols.get? name) := by
  induction contributions generalizing registry with
  | nil =>
      obtain rfl : registry = after := by simpa using hrun
      rfl
  | cons first later ih =>
      rw [List.foldl_cons]
      cases hfirst : first.run registry with
      | ok between =>
          rw [runAll_cons_of_ok hfirst] at hrun
          rw [ih hrun, get?_of_run hfirst]
      | error fault =>
          rw [runAll_cons_of_error hfirst] at hrun
          contradiction

end Contribution

end DocContract
