import DocContract.Proofs.Workshops

/-!
# Edits of a registry

What a step does to the registry is a number of edits: a symbol is declared, a field is
added, or a membership or a payload is recorded.  A symbol is declared without a field of
its own, and a constant under the name for its value.  So what these edits keep holds after
every history.
-/

namespace DocContract

open Relation (ReflTransGen)

/-- A symbol as some step declares it. -/
inductive Symbol.AsDeclared : Symbol → Prop where
  | record (name comment : String) (typeParameter : Option String) :
      AsDeclared (.emptyRecord name comment typeParameter)
  | closedUnion (name key comment : String) :
      AsDeclared (.emptyClosedUnion name key comment)
  | openUnion (name key : String) :
      AsDeclared (.openUnion { name, comment := "", discriminatorKey := key })
  | literal (value : String) : AsDeclared (.literal { name := literalName value, value })

inductive Registry.Edit : Registry → Registry → Prop where
  | declared {registry : Registry} {symbol : Symbol} {symbols : SymbolTable}
      (hdeclared : symbol.AsDeclared)
      (hintern : registry.symbols.intern symbol = .ok symbols) :
      Edit registry { registry with symbols }
  | extended {registry : Registry} {target : String} {added stored : Field}
      {symbols : SymbolTable}
      (hattach : registry.symbols.attach target added = .ok (symbols, stored)) :
      Edit registry { registry with symbols }
  | registered (registry : Registry) (membership : Membership) :
      Edit registry (registry.register membership)
  | checked (registry : Registry) (target payload : String)
      (typeArgument : Option String) :
      Edit registry (registry.check target payload typeArgument)

theorem Registry.edit_of_intern {registry after : Registry} {symbol : Symbol}
    (hdeclared : symbol.AsDeclared) (hintern : registry.intern symbol = .ok after) :
    registry.Edit after := by
  unfold intern at hintern
  split at hintern
  · next symbols hsymbols =>
    obtain rfl := Except.ok.inj hintern
    exact .declared hdeclared hsymbols
  · contradiction

theorem Registry.edit_of_internLiteral {registry after : Registry} {value : String}
    (hintern : registry.internLiteral value = .ok after) : registry.Edit after :=
  edit_of_intern (.literal value)
    ((internLiteral_eq_ok_iff registry after value).1 hintern).2

theorem Registry.edit_of_attach {registry after : Registry} {target : String}
    {added stored : Field} (hattach : registry.attach target added = .ok (after, stored)) :
    registry.Edit after := by
  unfold attach at hattach
  split at hattach
  · next symbols kept hsymbols =>
    obtain ⟨rfl, -⟩ := Prod.mk.inj (Except.ok.inj hattach)
    exact .extended hsymbols
  · contradiction

theorem BuildState.registry_declare (state : BuildState) (symbol : Symbol) :
    (state.declare symbol).2.registry = state.registry := by
  unfold declare
  split
  · rfl
  · rfl

theorem BuildState.edits_declareShared (state : BuildState) {symbol : Symbol}
    (hdeclared : symbol.AsDeclared) :
    ReflTransGen Registry.Edit state.registry (state.declareShared symbol).2.registry := by
  unfold declareShared
  split
  · next registry hregistry => exact .single (Registry.edit_of_intern hdeclared hregistry)
  · exact .refl

theorem BuildState.edits_attach (state : BuildState) (target : SymbolRef) (field : Field) :
    ReflTransGen Registry.Edit state.registry (state.attach target field).2.registry := by
  unfold attach
  split
  · split
    · exact .refl
    · exact .refl
  · split
    · next registry stored hregistry => exact .single (Registry.edit_of_attach hregistry)
    · exact .refl

theorem BuildState.edits_attachLiteral (state : BuildState) (target : SymbolRef)
    (parameter : Parameter) :
    ReflTransGen Registry.Edit state.registry
      (state.attachLiteral target parameter).2.registry := by
  unfold attachLiteral
  split
  · exact .refl
  · split
    · exact .refl
    · next registry hregistry =>
      -- The constant stays declared when the field is refused.
      apply ReflTransGen.head (Registry.edit_of_internLiteral hregistry)
      exact edits_attach { state with registry } target _

theorem BuildStep.edits_run (document : String) (state : BuildState) (step : BuildStep) :
    ReflTransGen Registry.Edit state.registry (step.run document state).2.registry := by
  cases step with
  | addRecord name comment =>
      rw [run, state.registry_declare]
  | addGenericRecord name typeParameter comment =>
      rw [run, state.registry_declare]
  | addSharedRecord name comment =>
      exact state.edits_declareShared (.record name comment none)
  | addClosedUnion name key comment =>
      rw [run, state.registry_declare]
  | addSharedClosedUnion name key comment =>
      exact state.edits_declareShared (.closedUnion name key comment)
  | addOpenUnion name key => exact state.edits_declareShared (.openUnion name key)
  | registerMember union member typeArgument =>
      exact .single (.registered state.registry _)
  | addField target parameter type options =>
      rw [run]
      exact state.edits_attach target _
  | addLiteralField target parameter =>
      rw [run]
      exact state.edits_attachLiteral target parameter
  | addUnmarshalCheck target payload typeArgument =>
      exact .single (.checked state.registry target.name _ typeArgument)

theorem RegistryStep.edits_run (registry : Registry) (step : RegistryStep) :
    ReflTransGen Registry.Edit registry (step.run registry).2 := by
  cases step with
  | internLiteral value =>
      simp only [run]
      split
      · next after hafter => exact .single (Registry.edit_of_internLiteral hafter)
      · exact .refl
  | addField target field =>
      simp only [run]
      split
      · next after stored hafter => exact .single (Registry.edit_of_attach hafter)
      · exact .refl
  | registerMembership membership => exact .single (.registered _ _)
  | addCheck target payload typeArgument => exact .single (.checked _ _ _ _)

theorem Workshop.edits_take (workshop : Workshop) (act : Act) :
    ReflTransGen Registry.Edit workshop.registry (workshop.take act).registry := by
  cases act with
  | build builder step =>
      exact step.edits_run builder.document
        { registry := workshop.registry, symbols := workshop.tables builder }
  | direct step => exact step.edits_run workshop.registry

theorem Workshop.edits_run (workshop : Workshop) (acts : List Act) :
    ReflTransGen Registry.Edit workshop.registry (workshop.run acts).registry := by
  induction acts generalizing workshop with
  | nil => exact .refl
  | cons act acts ih =>
      rw [run_cons]
      exact (workshop.edits_take act).trans (ih (workshop.take act))

theorem Workshop.edits_after (history : List Act) :
    ReflTransGen Registry.Edit {} (after history).registry :=
  edits_run {} history

end DocContract
