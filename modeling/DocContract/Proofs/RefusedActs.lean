import DocContract.Proofs.Workshops

/-!
# What refused acts leave behind

An act that is refused leaves every table, the memberships and the payloads of the checks
as they were. There is one exception: a field with a constant takes two steps, and when the
second of them is refused the constant that the first one declared stays.
-/

namespace DocContract

/-- Why a field is not added. -/
inductive SchemaError.RefusesField (target field : String) : SchemaError → Prop where
  | unknown : RefusesField target field (.unknownSymbol target)
  | noContainer (kind : SymbolKind) :
      RefusesField target field (.notAFieldContainer target kind)
  | conflict : RefusesField target field (.fieldConflict target field)

theorem Symbol.refusesField_of_attach {symbol : Symbol} {added : Field}
    {fault : SchemaError}
    (hattach : symbol.attach added = .error fault) :
    fault.RefusesField symbol.name added.name := by
  cases symbol with
  | record r =>
      simp only [attach] at hattach
      split at hattach
      · contradiction
      · obtain rfl := Except.error.inj hattach
        exact .conflict
  | closedUnion u =>
      simp only [attach] at hattach
      split at hattach
      · contradiction
      · obtain rfl := Except.error.inj hattach
        exact .conflict
  | openUnion | literal | unmarshalCheck =>
      obtain rfl := Except.error.inj hattach
      exact .noContainer _

theorem SymbolTable.refusesField_of_attach {table : SymbolTable} {target : String}
    {added : Field}
    {fault : SchemaError} (hattach : attach target added table = .error fault) :
    fault.RefusesField target added.name := by
  induction table with
  | nil =>
      obtain rfl := Except.error.inj hattach
      exact .unknown
  | cons symbol later ih =>
      unfold attach at hattach
      split at hattach
      · next hname =>
        split at hattach
        · contradiction
        · next found hfound =>
          obtain rfl := Except.error.inj hattach
          exact hname ▸ Symbol.refusesField_of_attach hfound
      · split at hattach
        · contradiction
        · next found hfound =>
          obtain rfl := Except.error.inj hattach
          exact ih hfound

theorem Registry.refusesField_of_attach {registry : Registry} {target : String}
    {added : Field}
    {fault : SchemaError} (hattach : registry.attach target added = .error fault) :
    fault.RefusesField target added.name := by
  unfold attach at hattach
  split at hattach
  · contradiction
  · next found hfound =>
    obtain rfl := Except.error.inj hattach
    exact SymbolTable.refusesField_of_attach hfound

theorem SymbolTable.intern_of_notMem {table : SymbolTable} {symbol : Symbol}
    (hnew : symbol.name ∉ table.names) :
    intern symbol table = .ok (table ++ [symbol]) := by
  induction table with
  | nil => rfl
  | cons existing later ih =>
      rw [names_cons, List.mem_cons, not_or] at hnew
      rw [intern, if_neg (Ne.symm hnew.1), ih hnew.2]
      rfl

/-- A constant that is there already is not declared a second time. -/
theorem SymbolTable.intern_of_literal {table : SymbolTable} {constant : Literal}
    (hget : table.get? constant.name = some (.literal constant)) :
    intern (.literal constant) table = .ok table := by
  induction table with
  | nil => contradiction
  | cons existing later ih =>
      rw [get?_cons] at hget
      have hname : (Symbol.literal constant).name = constant.name := rfl
      rw [intern, hname]
      split at hget
      · next hsame =>
        obtain rfl := Option.some.inj hget
        rw [if_pos hsame, if_pos rfl]
        rfl
      · next hother => rw [if_neg hother, ih hget]

/-- What declaring a constant does to a registry: nothing if it is there, and else it is
appended. -/
theorem Registry.internLiteral_cases {registry after : Registry} {value : String}
    (hintern : registry.internLiteral value = .ok after) :
    (after = registry ∧ registry.symbols.get? (literalName value) =
        some (.literal ⟨literalName value, value⟩)) ∨
      literalName value ∉ registry.symbols.names ∧
        after = { registry with
          symbols := registry.symbols ++ [.literal ⟨literalName value, value⟩] } := by
  obtain ⟨hvalue, hintern⟩ := (internLiteral_eq_ok_iff registry after value).1 hintern
  unfold intern at hintern
  cases hget : registry.symbols.get? (literalName value) with
  | none =>
      have hnew : literalName value ∉ registry.symbols.names :=
        (SymbolTable.get?_eq_none_iff _ _).1 hget
      rw [SymbolTable.intern_of_notMem hnew] at hintern
      exact .inr ⟨hnew, (Except.ok.inj hintern).symm⟩
  | some existing =>
      have hkind : existing.kind = .literal := by
        apply (SymbolTable.exists_intern_iff registry.symbols
          (.literal ⟨literalName value, value⟩)).1 ?_ existing hget
        split at hintern
        · next symbols hsymbols => exact ⟨symbols, hsymbols⟩
        · contradiction
      obtain ⟨constant, rfl⟩ : ∃ constant, existing = .literal constant := by
        cases existing <;> first | contradiction | exact ⟨_, rfl⟩
      have hsame : constant = ⟨literalName value, value⟩ := by
        have hname : constant.name = literalName value := (SymbolTable.mem_of_get? hget).2
        rw [← hname, ← hvalue constant hget]
      subst hsame
      rw [SymbolTable.intern_of_literal hget] at hintern
      exact .inl ⟨(Except.ok.inj hintern).symm, rfl⟩

theorem BuildState.declare_of_error {state : BuildState} {symbol : Symbol}
    {fault : SchemaError}
    (herror : (state.declare symbol).1 = .error fault) :
    (state.declare symbol).2 = state := by
  unfold declare at herror ⊢
  split
  · next symbols hsymbols =>
    simp only [hsymbols] at herror
    contradiction
  · rfl

theorem BuildState.declareShared_of_error {state : BuildState} {symbol : Symbol}
    {fault : SchemaError} (herror : (state.declareShared symbol).1 = .error fault) :
    (state.declareShared symbol).2 = state := by
  unfold declareShared at herror ⊢
  split
  · next registry hregistry =>
    simp only [hregistry] at herror
    contradiction
  · rfl

theorem BuildState.attach_of_error {state : BuildState} {target : SymbolRef}
    {field : Field}
    {fault : SchemaError} (herror : (state.attach target field).1 = .error fault) :
    (state.attach target field).2 = state ∧ fault.RefusesField target.name field.name := by
  obtain ⟨name, scope⟩ := target
  unfold attach at herror ⊢
  cases scope with
  | document =>
      cases hattach : state.symbols.attach name field with
      | ok => simp [hattach] at herror
      | error found =>
          simp only [hattach, Except.error.injEq] at herror
          subst herror
          exact ⟨rfl, SymbolTable.refusesField_of_attach hattach⟩
  | shared =>
      cases hattach : state.registry.attach name field with
      | ok => simp [hattach] at herror
      | error found =>
          simp only [hattach, Except.error.injEq] at herror
          subst herror
          exact ⟨rfl, Registry.refusesField_of_attach hattach⟩

/-- What is left of a constant whose field was refused. -/
structure BuildState.KeepsConstant (before after : BuildState) (value : String) :
    Prop where
  fresh : literalName value ∉ before.registry.symbols.names
  after_eq : after = { before with
    registry := { before.registry with
      symbols := before.registry.symbols ++ [.literal ⟨literalName value, value⟩] } }

theorem BuildState.attachLiteral_of_error {state : BuildState} {target : SymbolRef}
    {parameter : Parameter} {fault : SchemaError}
    (herror : (state.attachLiteral target parameter).1 = .error fault) :
    (state.attachLiteral target parameter).2 = state ∨
      ∃ value, literalValue? parameter.literalText = some value ∧
        fault.RefusesField target.name parameter.fieldName ∧
        state.KeepsConstant (state.attachLiteral target parameter).2 value := by
  unfold attachLiteral at herror ⊢
  cases hvalue : literalValue? parameter.literalText with
  | none => exact .inl rfl
  | some value =>
      simp only [hvalue] at herror ⊢
      cases hregistry : state.registry.internLiteral value with
      | error found => exact .inl rfl
      | ok registry =>
          simp only [hregistry] at herror ⊢
          obtain ⟨hstate, hfault⟩ := attach_of_error herror
          rw [hstate]
          rcases Registry.internLiteral_cases hregistry with ⟨rfl, -⟩ | ⟨hnew, rfl⟩
          · exact .inl rfl
          · exact .inr ⟨value, rfl, hfault, hnew, rfl⟩

theorem BuildStep.run_of_error {document : String} {state : BuildState} {step : BuildStep}
    {fault : SchemaError} (herror : (step.run document state).1 = .error fault) :
    (step.run document state).2 = state ∨
      ∃ target parameter value, step = .addLiteralField target parameter ∧
        literalValue? parameter.literalText = some value ∧
        fault.RefusesField target.name parameter.fieldName ∧
        state.KeepsConstant (step.run document state).2 value := by
  cases step with
  | addRecord | addGenericRecord | addClosedUnion =>
      rw [run] at herror ⊢
      exact .inl (BuildState.declare_of_error herror)
  | addSharedRecord | addSharedClosedUnion | addOpenUnion =>
      rw [run] at herror ⊢
      exact .inl (BuildState.declareShared_of_error herror)
  | registerMember | addUnmarshalCheck => simp [run] at herror
  | addField =>
      rw [run] at herror ⊢
      exact .inl (BuildState.attach_of_error herror).1
  | addLiteralField target parameter =>
      rw [run] at herror ⊢
      rcases BuildState.attachLiteral_of_error
        herror with hsame | ⟨value, hvalue, hfault, hkeeps⟩
      · exact .inl hsame
      · exact .inr ⟨target, parameter, value, rfl, hvalue, hfault, hkeeps⟩

theorem RegistryStep.run_of_error {registry : Registry} {step : RegistryStep}
    {fault : SchemaError}
    (herror : (step.run registry).1 = .error fault) :
    (step.run registry).2 = registry := by
  cases step with
  | internLiteral value =>
      simp only [run] at herror ⊢
      split at herror
      · contradiction
      · rfl
  | addField target field =>
      simp only [run] at herror ⊢
      split at herror
      · contradiction
      · rfl
  | registerMembership => contradiction
  | addCheck => contradiction

/-- What an act is answered. -/
def Workshop.answer (workshop : Workshop) : Act → Except SchemaError BuildAnswer
  | .build builder step =>
    (step.run builder.document
      { registry := workshop.registry, symbols := workshop.tables builder }).1
  | .direct step => (step.run workshop.registry).1

/-- A refused act leaves all that a workshop holds as it was, unless it adds a field with a
constant that no symbol has been named after, and the field itself is refused: then this
constant has been declared, and all else is as it was. -/
theorem refused_act_leaves {workshop : Workshop} {act : Act} {fault : SchemaError}
    (herror : workshop.answer act = .error fault) :
    workshop.take act = workshop ∨
      ∃ builder target parameter value, act =
        .build builder (.addLiteralField target parameter) ∧
        literalValue? parameter.literalText = some value ∧
        fault.RefusesField target.name parameter.fieldName ∧
        literalName value ∉ workshop.registry.symbols.names ∧
        workshop.take act = { workshop with
          registry := { workshop.registry with
            symbols := workshop.registry.symbols ++ [.literal ⟨literalName value, value⟩] }
              } := by
  cases act with
  | build builder step =>
      simp only [Workshop.take]
      rcases BuildStep.run_of_error herror with
        hstate | ⟨target, parameter, value, rfl, hvalue, hfault, hkeeps⟩
      · left
        rw [hstate, Function.update_eq_self]
      · right
        refine ⟨builder, target, parameter, value, rfl, hvalue, hfault, hkeeps.fresh, ?_⟩
        rw [hkeeps.after_eq, Function.update_eq_self]
  | direct step =>
      left
      simp only [Workshop.take, RegistryStep.run_of_error herror]

/-- A constant for a record that nobody has declared. -/
def orphanAct : Act :=
  .build ⟨"page", 0⟩ (.addLiteralField ⟨"Page", .document⟩ ⟨"object", "\"page\"", "", ""⟩)

theorem refused_act_leaves_constant :
    ({} : Workshop).answer orphanAct = .error (.unknownSymbol "Page") ∧
      ({} : Workshop).take orphanAct ≠ {} ∧
      ∃ value, ({} : Workshop).take orphanAct =
        { registry := { symbols := [.literal ⟨literalName value, value⟩] } } := by
  have herror : ({} : Workshop).answer orphanAct = .error (.unknownSymbol "Page") := by
    decide +kernel
  have hchanged : ({} : Workshop).take orphanAct ≠ {} := by
    intro hsame
    have hregistry : (({} : Workshop).take orphanAct).registry ≠ {} := by decide +kernel
    exact hregistry (congrArg Workshop.registry hsame)
  refine ⟨herror, hchanged, ?_⟩
  obtain ⟨-, -, -, value, -, -, -, -, htake⟩ :=
    (refused_act_leaves herror).resolve_left hchanged
  exact ⟨value, htake⟩

end DocContract
