import DocContract.Proofs.SymbolTables
import DocContract.Schema.Build
import DocContract.Schema.Graph
import Mathlib.Logic.Function.Basic
import Mathlib.Logic.Relation

/-!
# Sessions of building a schema

A session is what a number of documents work on together: the registry that they share, and
a table for each of them.  Whatever is done in a session, refused steps included, changes
tables by declarations and added fields only, and the registry besides by memberships and
checks.  What those changes keep therefore holds in every session that can be reached.
-/

namespace DocContract

/-- A schema under construction. -/
structure Session where
  registry : Registry := {}
  /-- The tables of the documents, by the names of the documents. -/
  tables : String → SymbolTable := fun _ => []

/-- Something that is done in a session. -/
inductive Move where
  /-- A document takes a step. -/
  | build (document : String) (step : BuildStep)
  /-- A step is taken on the registry itself. -/
  | direct (step : RegistryStep)

namespace Session

/-- A document takes a step: it sees the registry and its own table. -/
def build (session : Session) (document : String) (step : BuildStep) :
    Except SchemaError BuildAnswer × Session :=
  let outcome :=
    step.run document { registry := session.registry, symbols := session.tables document }
  (outcome.1,
    { registry := outcome.2.registry
      tables := Function.update session.tables document outcome.2.symbols })

/-- Does something in a session, and answers what was said to it. -/
def take (session : Session) : Move → Except SchemaError BuildAnswer × Session
  | .build document step => session.build document step
  | .direct step =>
    let outcome := step.run session.registry
    (outcome.1, { session with registry := outcome.2 })

/-- The sessions that some moves lead to, whether the moves are accepted or refused. -/
inductive Reachable : Session → Prop where
  | start : Reachable {}
  | step {session : Session} (hreach : Reachable session) (move : Move) :
      Reachable (session.take move).2

def after (moves : List Move) : Session :=
  moves.foldl (fun session move => (session.take move).2) {}

theorem reachable_after (moves : List Move) : (after moves).Reachable := by
  have hfold : ∀ (moves : List Move) {session : Session}, session.Reachable →
      (moves.foldl (fun session move => (session.take move).2) session).Reachable := by
    intro moves
    induction moves with
    | nil => exact fun hreach => hreach
    | cons move moves ih => exact fun hreach => ih (hreach.step move)
  exact hfold moves .start

end Session

/-- A registry that some session can have. -/
def Registry.Reachable (registry : Registry) : Prop :=
  ∃ session : Session, session.Reachable ∧ session.registry = registry

/-- The symbols of a document that was built in some session. -/
def DocumentSymbols.Built (document : DocumentSymbols) : Prop :=
  ∃ session : Session, session.Reachable ∧
    session.tables document.document = document.symbols

/-- A change of a table. -/
inductive SymbolTable.Change : SymbolTable → SymbolTable → Prop where
  | declared {table after : SymbolTable} {symbol : Symbol} (hnew : symbol.IsNew)
      (hintern : SymbolTable.intern symbol table = .ok after) : Change table after
  | extended {table after : SymbolTable} {target : String} {added stored : Field}
      (hattach : SymbolTable.attach target added table = .ok (after, stored)) :
      Change table after

/-- A change of a registry. -/
inductive Registry.Change : Registry → Registry → Prop where
  | symbols {registry : Registry} {symbols : SymbolTable}
      (hchange : SymbolTable.Change registry.symbols symbols) :
      Change registry { registry with symbols }
  | registered (registry : Registry) (membership : Membership) :
      Change registry (registry.register membership)
  | checked (registry : Registry) (target payload : String)
      (typeArgument : Option String) :
      Change registry (registry.check target payload typeArgument)

theorem Registry.change_of_intern
    {registry after : Registry} {symbol : Symbol} (hnew : symbol.IsNew)
    (hintern : registry.intern symbol = .ok after) : registry.Change after := by
  unfold intern at hintern
  split at hintern
  · next symbols hsymbols =>
    simp only [Except.ok.injEq] at hintern
    exact hintern ▸ .symbols (.declared hnew hsymbols)
  · contradiction

/-- A constant is refused if its name belongs to another constant, or to no constant at
all. -/
theorem Registry.internLiteral_eq_ok_iff
    (registry after : Registry) (value : String) :
    registry.internLiteral value = .ok after ↔
      (∀ existing, registry.symbols.get? (literalName value) = some (.literal existing) →
          existing.value = value) ∧
        registry.intern (.literal { name := literalName value, value }) = .ok after := by
  simp only [internLiteral]
  split
  · next existing hexisting =>
    rw [hexisting]
    by_cases hvalue : existing.value = value <;> simp [hvalue]
  · next hnone =>
    simpa using fun _ existing hexisting => (hnone existing hexisting).elim

theorem Registry.change_of_internLiteral
    {registry after : Registry} {value : String}
    (hintern : registry.internLiteral value = .ok after) : registry.Change after :=
  change_of_intern (Symbol.isNew_literal _)
    ((internLiteral_eq_ok_iff registry after value).1 hintern).2

theorem Registry.change_of_attach
    {registry after : Registry} {target : String} {added stored : Field}
    (hattach : registry.attach target added = .ok (after, stored)) :
    registry.Change after := by
  unfold attach at hattach
  split at hattach
  · next symbols kept hsymbols =>
    simp only [Except.ok.injEq, Prod.mk.injEq] at hattach
    exact hattach.1 ▸ .symbols (.extended hsymbols)
  · contradiction

open Relation (ReflTransGen)

/-- Both parts of a state go through changes only. -/
def BuildState.Develops (before after : BuildState) : Prop :=
  ReflTransGen Registry.Change before.registry after.registry ∧
    ReflTransGen SymbolTable.Change before.symbols after.symbols

theorem BuildState.Develops.refl (state : BuildState) : state.Develops state :=
  ⟨.refl, .refl⟩

theorem BuildState.develops_declare
    (state : BuildState) {symbol : Symbol} (hnew : symbol.IsNew) :
    state.Develops (state.declare symbol).2 := by
  unfold declare
  split
  · next symbols hsymbols => exact ⟨.refl, .single (.declared hnew hsymbols)⟩
  · exact .refl state

theorem BuildState.develops_declareShared
    (state : BuildState) {symbol : Symbol} (hnew : symbol.IsNew) :
    state.Develops (state.declareShared symbol).2 := by
  unfold declareShared
  split
  · next registry hregistry =>
    exact ⟨.single (Registry.change_of_intern hnew hregistry), .refl⟩
  · exact .refl state

theorem BuildState.develops_attach
    (state : BuildState) (target : SymbolRef) (field : Field) :
    state.Develops (state.attach target field).2 := by
  unfold attach
  split
  · split
    · next symbols stored hsymbols => exact ⟨.refl, .single (.extended hsymbols)⟩
    · exact .refl state
  · split
    · next registry stored hregistry =>
      exact ⟨.single (Registry.change_of_attach hregistry), .refl⟩
    · exact .refl state

theorem BuildState.develops_attachLiteral
    (state : BuildState) (target : SymbolRef) (parameter : Parameter) :
    state.Develops (state.attachLiteral target parameter).2 := by
  unfold attachLiteral
  split
  · exact .refl state
  · split
    · exact .refl state
    · next registry hregistry =>
      obtain ⟨hregistry', hsymbols⟩ :=
        develops_attach { state with registry } target _
      exact ⟨hregistry'.head (Registry.change_of_internLiteral hregistry), hsymbols⟩

/-- Whether a step is accepted or refused, it makes changes only. -/
theorem BuildStep.develops_run (document : String) (state : BuildState)
    (step : BuildStep) :
    state.Develops (step.run document state).2 := by
  cases step with
  | addRecord name comment => exact state.develops_declare (Symbol.isNew_emptyRecord _ _ _)
  | addGenericRecord name typeParameter comment =>
      exact state.develops_declare (Symbol.isNew_emptyRecord _ _ _)
  | addSharedRecord name comment =>
      exact state.develops_declareShared (Symbol.isNew_emptyRecord _ _ _)
  | addClosedUnion name key comment =>
      exact state.develops_declare (Symbol.isNew_emptyClosedUnion _ _ _)
  | addSharedClosedUnion name key comment =>
      exact state.develops_declareShared (Symbol.isNew_emptyClosedUnion _ _ _)
  | addOpenUnion name key => exact state.develops_declareShared (Symbol.isNew_openUnion _)
  | registerMember union member typeArgument =>
      exact ⟨.single (.registered state.registry _), .refl⟩
  | addField target parameter type options =>
      rw [run]
      exact state.develops_attach target ((parameter.toField type).withOptions options)
  | addLiteralField target parameter =>
      rw [run]
      exact state.develops_attachLiteral target parameter
  | addUnmarshalCheck target payload typeArgument =>
      exact ⟨.single (.checked state.registry target.name _ typeArgument), .refl⟩

theorem RegistryStep.changes_run (registry : Registry) (step : RegistryStep) :
    ReflTransGen Registry.Change registry (step.run registry).2 := by
  cases step with
  | internLiteral value =>
      simp only [run]
      split
      · next after hafter => exact .single (Registry.change_of_internLiteral hafter)
      · exact .refl
  | addField target field =>
      simp only [run]
      split
      · next after stored hafter => exact .single (Registry.change_of_attach hafter)
      · exact .refl
  | registerMembership membership => exact .single (.registered _ _)
  | addCheck target payload typeArgument => exact .single (.checked _ _ _ _)

theorem Session.Reachable.changes {session : Session} (hreach : session.Reachable) :
    ReflTransGen Registry.Change {} session.registry ∧
      ∀ document, ReflTransGen SymbolTable.Change [] (session.tables document) := by
  induction hreach with
  | start => exact ⟨.refl, fun _ => .refl⟩
  | @step session hreach move ih =>
      obtain ⟨hregistry, htables⟩ := ih
      cases move with
      | build document step =>
          obtain ⟨hshared, hown⟩ := step.develops_run document
            { registry := session.registry, symbols := session.tables document }
          refine ⟨hregistry.trans hshared, fun other => ?_⟩
          by_cases hsame : other = document
          · subst hsame
            simpa [take, build] using (htables other).trans hown
          · simpa [take, build, hsame] using htables other
      | direct step =>
          exact ⟨hregistry.trans (step.changes_run session.registry), htables⟩

theorem SymbolTable.nodup_of_change
    {table after : SymbolTable} (hnodup : table.names.Nodup)
    (hchange : table.Change after) :
    after.names.Nodup := by
  cases hchange with
  | declared _ hintern => exact SymbolTable.nodup_of_intern hnodup hintern
  | extended hattach => exact SymbolTable.names_of_attach hattach ▸ hnodup

/-- No table has two symbols of one name. -/
theorem SymbolTable.nodup_of_changes
    {table : SymbolTable} (hchanges : ReflTransGen SymbolTable.Change [] table) :
    table.names.Nodup := by
  induction hchanges with
  | refl => exact List.nodup_nil
  | tail _ hchange ih => exact SymbolTable.nodup_of_change ih hchange

theorem Registry.symbols_changes
    {registry after : Registry} (hchanges : ReflTransGen Registry.Change registry after) :
    ReflTransGen SymbolTable.Change registry.symbols after.symbols := by
  induction hchanges with
  | refl => exact .refl
  | tail _ hchange ih =>
      cases hchange with
      | symbols hsymbols => exact ih.tail hsymbols
      | registered => exact ih
      | checked => exact ih

theorem Registry.Reachable.nodup_names
    {registry : Registry} (hreach : registry.Reachable) :
    registry.symbols.names.Nodup := by
  obtain ⟨session, hsession, rfl⟩ := hreach
  exact SymbolTable.nodup_of_changes (Registry.symbols_changes hsession.changes.1)

theorem DocumentSymbols.Built.nodup_names
    {document : DocumentSymbols} (hbuilt : document.Built) :
    document.symbols.names.Nodup := by
  obtain ⟨session, hsession, htable⟩ := hbuilt
  exact htable ▸ SymbolTable.nodup_of_changes (hsession.changes.2 _)

/-- The checks of a registry are in ascending order, one for each key. -/
theorem Registry.checksAscend_of_changes
    {registry : Registry} (hchanges : ReflTransGen Registry.Change {} registry) :
    ChecksAscend registry.checks := by
  induction hchanges with
  | refl => exact ⟨.nil, by simp, by simp⟩
  | tail _ hchange ih =>
      cases hchange with
      | symbols => exact ih
      | registered => exact ih
      | checked target payload typeArgument =>
          exact ih.record target payload typeArgument

theorem Registry.Reachable.checksAscend
    {registry : Registry} (hreach : registry.Reachable) :
    ChecksAscend registry.checks := by
  obtain ⟨session, hsession, rfl⟩ := hreach
  exact Registry.checksAscend_of_changes hsession.changes.1

end DocContract
