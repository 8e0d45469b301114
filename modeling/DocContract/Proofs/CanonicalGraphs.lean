import DocContract.Proofs.SchemaValidation
import DocContract.Proofs.SharedContributions
import DocContract.Proofs.Workshops
import Mathlib.Data.Prod.Lex

/-!
# The canonical form of a finished schema

A finished schema holds what a workshop has come to in the one order that its contents
determine.  Documents and shared symbols are sorted by name.  Memberships and checks are
sets: which of them are there depends on what was ever registered and recorded, and neither
on how often nor on when.
-/

namespace DocContract

/-- A payload, and the symbol and type argument for which it is recorded. -/
structure Recording where
  target : String
  typeArgument : Option String
  payload : String
deriving DecidableEq

def BuildStep.membership? (document : String) : BuildStep → Option Membership
  | registerMember union member typeArgument =>
    some
      { union := union.name
        member := member.name
        document := if member.scope = .document then some document else none
        typeArgument }
  | _ => none

def BuildStep.recording? : BuildStep → Option Recording
  | addUnmarshalCheck target payload typeArgument =>
    some
      { target := target.name
        typeArgument
        payload := String.ofList (Text.trim payload.toList) }
  | _ => none

def Act.membership? : Act → Option Membership
  | build builder step => step.membership? builder.document
  | direct (.registerMembership membership) => some membership
  | direct _ => none

def Act.recording? : Act → Option Recording
  | build _ step => step.recording?
  | direct (.addCheck target payload typeArgument) =>
      some { target, typeArgument, payload }
  | direct _ => none

def Registered (history : List Act) (membership : Membership) : Prop :=
  ∃ act ∈ history, act.membership? = some membership

def Recorded (history : List Act) (recording : Recording) : Prop :=
  ∃ act ∈ history, act.recording? = some recording

/-- One registry has registered and recorded more than another by just these. -/
structure Registry.Receives (before after : Registry)
    (membership : Option Membership) (recording : Option Recording) : Prop where
  mem_memberships : ∀ m, m ∈ after.memberships ↔ m ∈ before.memberships ∨
    membership = some m
  recorded : ∀ r : Recording,
    PayloadRecorded after.checks r.target r.typeArgument r.payload ↔
      PayloadRecorded before.checks r.target r.typeArgument r.payload ∨ recording = some r

theorem Registry.receives_nothing
    {before after : Registry} (hmemberships : after.memberships = before.memberships)
    (hchecks : after.checks = before.checks) : before.Receives after none none := by
  constructor
  · simp [hmemberships]
  · simp [hchecks]

theorem Registry.receives_register (registry : Registry) (membership : Membership) :
    registry.Receives (registry.register membership) (some membership) none := by
  constructor
  · intro m
    simp [register, eq_comm]
  · simp [register]

theorem Registry.receives_check
    (registry : Registry) (target payload : String) (typeArgument : Option String) :
    registry.Receives (registry.check target payload typeArgument) none
      (some { target, typeArgument, payload }) := by
  constructor
  · simp [check]
  · rintro ⟨target', typeArgument', payload'⟩
    rw [check, payloadRecorded_recordCheck]
    simp only [Option.some.injEq, Recording.mk.injEq]
    rw [or_comm, eq_comm (a := payload')]

theorem Registry.receives_of_intern
    {registry after : Registry} {symbol : Symbol}
    (hintern : registry.intern symbol = .ok after) :
    registry.Receives after none none := by
  obtain ⟨symbols, -, rfl⟩ := (Registry.intern_eq_ok_iff registry after symbol).1 hintern
  exact receives_nothing rfl rfl

theorem Registry.receives_of_internLiteral
    {registry after : Registry} {value : String}
    (hintern : registry.internLiteral value = .ok after) :
    registry.Receives after none none :=
  receives_of_intern ((internLiteral_eq_ok_iff registry after value).1 hintern).2

theorem Registry.receives_of_attach
    {registry after : Registry} {target : String} {added stored : Field}
    (hattach : registry.attach target added = .ok (after, stored)) :
    registry.Receives after none none := by
  unfold attach at hattach
  split at hattach
  · simp only [Except.ok.injEq, Prod.mk.injEq] at hattach
    obtain ⟨rfl, -⟩ := hattach
    exact receives_nothing rfl rfl
  · contradiction

section Steps

variable (state : BuildState)

theorem BuildState.receives_declare (symbol : Symbol) :
    state.registry.Receives (state.declare symbol).2.registry none none := by
  unfold declare
  split
  · exact Registry.receives_nothing rfl rfl
  · exact Registry.receives_nothing rfl rfl

theorem BuildState.receives_declareShared (symbol : Symbol) :
    state.registry.Receives (state.declareShared symbol).2.registry none none := by
  unfold declareShared
  split
  · next registry hregistry => exact Registry.receives_of_intern hregistry
  · exact Registry.receives_nothing rfl rfl

theorem BuildState.receives_attach (target : SymbolRef) (field : Field) :
    state.registry.Receives (state.attach target field).2.registry none none := by
  unfold attach
  split
  · split
    · exact Registry.receives_nothing rfl rfl
    · exact Registry.receives_nothing rfl rfl
  · split
    · next registry stored hregistry => exact Registry.receives_of_attach hregistry
    · exact Registry.receives_nothing rfl rfl

theorem Registry.Receives.nothing_trans
    {a b c : Registry} (hab : a.Receives b none none) (hbc : b.Receives c none none) :
    a.Receives c none none := by
  constructor
  · intro m
    rw [hbc.mem_memberships, hab.mem_memberships]
    simp
  · intro r
    rw [hbc.recorded, hab.recorded]
    simp

theorem BuildState.receives_attachLiteral (target : SymbolRef) (parameter : Parameter) :
    state.registry.Receives (state.attachLiteral target parameter).2.registry
      none none := by
  unfold attachLiteral
  split
  · exact Registry.receives_nothing rfl rfl
  · split
    · exact Registry.receives_nothing rfl rfl
    · next registry hregistry =>
      have hliteral : state.registry.Receives registry none none :=
        Registry.receives_of_internLiteral hregistry
      have hfield := receives_attach { state with registry } target
      exact hliteral.nothing_trans (hfield _)

theorem BuildStep.receives_run (document : String) (step : BuildStep) :
    state.registry.Receives (step.run document state).2.registry
      (step.membership? document) step.recording? := by
  cases step with
  | addRecord name comment => exact state.receives_declare _
  | addGenericRecord name typeParameter comment => exact state.receives_declare _
  | addSharedRecord name comment => exact state.receives_declareShared _
  | addClosedUnion name key comment => exact state.receives_declare _
  | addSharedClosedUnion name key comment => exact state.receives_declareShared _
  | addOpenUnion name key => exact state.receives_declareShared _
  | registerMember union member typeArgument =>
      have hreceives := state.registry.receives_register
      cases hscope : member.scope <;>
        simpa [run, membership?, recording?, hscope] using hreceives _
  | addField target parameter type options =>
      rw [run]
      exact state.receives_attach target ((parameter.toField type).withOptions options)
  | addLiteralField target parameter =>
      rw [run]
      exact state.receives_attachLiteral target parameter
  | addUnmarshalCheck target payload typeArgument =>
      exact state.registry.receives_check _ _ _

end Steps

theorem Workshop.receives_take (workshop : Workshop) (act : Act) :
    workshop.registry.Receives (workshop.take act).registry act.membership?
      act.recording? := by
  cases act with
  | build builder step =>
      exact BuildStep.receives_run
        { registry := workshop.registry, symbols := workshop.tables builder }
          builder.document step
  | direct step =>
      cases step with
      | internLiteral value =>
          simp only [take, RegistryStep.run, Act.membership?, Act.recording?]
          split
          · next after hafter => exact Registry.receives_of_internLiteral hafter
          · exact Registry.receives_nothing rfl rfl
      | addField target field =>
          simp only [take, RegistryStep.run, Act.membership?, Act.recording?]
          split
          · next after stored hafter => exact Registry.receives_of_attach hafter
          · exact Registry.receives_nothing rfl rfl
      | registerMembership membership =>
          exact workshop.registry.receives_register membership
      | addCheck target payload typeArgument =>
          exact workshop.registry.receives_check target payload typeArgument

theorem Workshop.run_registrations (workshop : Workshop) (acts : List Act) :
    (∀ m, m ∈ (workshop.run acts).registry.memberships ↔
        m ∈ workshop.registry.memberships ∨ Registered acts m) ∧
      ∀ r : Recording,
        PayloadRecorded (workshop.run acts).registry.checks r.target
          r.typeArgument r.payload ↔
          PayloadRecorded workshop.registry.checks r.target r.typeArgument r.payload ∨
            Recorded acts r := by
  induction acts generalizing workshop with
  | nil => simp [run, Registered, Recorded]
  | cons act acts ih =>
      have hact := workshop.receives_take act
      obtain ⟨hmemberships, hrecordings⟩ := ih (workshop.take act)
      constructor
      · intro m
        rw [run_cons, hmemberships, hact.mem_memberships, or_assoc]
        simp [Registered]
      · intro r
        rw [run_cons, hrecordings, hact.recorded, or_assoc]
        simp [Recorded]

theorem Workshop.mem_memberships_after (history : List Act) (m : Membership) :
    m ∈ (after history).registry.memberships ↔ Registered history m := by
  rw [after, (run_registrations {} history).1 m]
  simp

theorem Workshop.recorded_after (history : List Act) (r : Recording) :
    PayloadRecorded (after history).registry.checks r.target r.typeArgument r.payload ↔
      Recorded history r := by
  rw [after, (run_registrations {} history).2 r]
  simp [PayloadRecorded]

theorem Workshop.checksAscend_after (history : List Act) :
    ChecksAscend (after history).registry.checks :=
  Registry.checksAscend_of_changes (develops_run {} history).registry

/-! ## The order of memberships and checks -/

/-- Memberships are put in order by member, union, document and type argument, where one
that is absent comes first. -/
def Membership.rank (m : Membership) :
    String ×ₗ String ×ₗ Option String ×ₗ Option String :=
  toLex (m.member, toLex (m.union, toLex (m.document, m.typeArgument)))

/-- Checks are put in order by target and type argument, where one that is absent comes
first. -/
def UnmarshalCheck.rank (check : UnmarshalCheck) : String ×ₗ Option String :=
  toLex (check.target, check.typeArgument)

theorem keyBefore_cons_iff (a b : Option String) (as bs : List (Option String)) :
    keyBefore (a :: as) (b :: bs) = true ↔ a < b ∨ a = b ∧ keyBefore as bs = true := by
  cases a with
  | none => cases b <;> simp [keyBefore]
  | some a =>
      cases b with
      | none => simp [keyBefore]
      | some b => simp [keyBefore_some_some]

theorem keyBefore_nil (as : List (Option String)) : keyBefore as [] = false := by
  cases as <;> rfl

theorem Membership.keyBefore_iff_rank_lt (a b : Membership) :
    keyBefore a.key b.key = true ↔ a.rank < b.rank := by
  simp [key, rank, keyBefore_cons_iff, keyBefore_nil, Prod.Lex.toLex_lt_toLex]

theorem UnmarshalCheck.keyBefore_iff_rank_lt (a b : UnmarshalCheck) :
    keyBefore a.key b.key = true ↔ a.rank < b.rank := by
  simp [key, rank, keyBefore_cons_iff, keyBefore_nil, Prod.Lex.toLex_lt_toLex]

/-- A finished schema holds each thing once and in order, and all that the history has
brought. -/
structure SymbolGraph.CanonicalFor (graph : SymbolGraph) (history : List Act)
    (documents : List DocumentSymbols) : Prop where
  documents_perm : graph.documents.Perm documents
  documents_sorted : graph.documents.Pairwise fun a b => a.document ≤ b.document
  shared_parts : ∃ named : SymbolTable,
    graph.shared = named ++ graph.checks.map .unmarshalCheck ∧
      named.Perm (Workshop.after history).registry.symbols ∧
      named.Pairwise fun a b => a.name < b.name
  checks_ascend : graph.checks.Pairwise fun a b => a.rank < b.rank
  check_iff : ∀ target typeArgument,
    (∃! check, check ∈ graph.checks ∧ check.target = target ∧
        check.typeArgument = typeArgument) ↔
      ∃ payload, Recorded history { target, typeArgument, payload }
  payloads_ascend : ∀ check ∈ graph.checks, check.payloads.Pairwise fun a b => a < b
  payload_iff : ∀ check ∈ graph.checks, ∀ payload,
    payload ∈ check.payloads ↔
      Recorded history
        { target := check.target, typeArgument := check.typeArgument, payload }
  memberships_ascend : graph.memberships.Pairwise fun a b => a.rank < b.rank
  memberships_nodup : graph.memberships.Nodup
  membership_iff : ∀ m, m ∈ graph.memberships ↔ Registered history m

theorem filterMap_checks
    {named : SymbolTable} (hnamed : ∀ symbol ∈ named, symbol.isNamed = true)
    (checks : List UnmarshalCheck) (documents : List DocumentSymbols)
    (memberships : List Membership) :
    SymbolGraph.checks
        { documents, shared := named ++ checks.map .unmarshalCheck, memberships } =
          checks := by
  have hnone : SymbolGraph.checks { documents, shared := named, memberships } = [] := by
    rw [SymbolGraph.checks, List.filterMap_eq_nil_iff]
    intro symbol hsymbol
    cases symbol with
    | unmarshalCheck check =>
        have hcheck := hnamed _ hsymbol
        contradiction
    | record | closedUnion | openUnion | literal => rfl
  rw [SymbolGraph.checks] at hnone ⊢
  rw [List.filterMap_append, hnone, List.nil_append, List.filterMap_map]
  exact List.filterMap_some

theorem Workshop.named_sortByText (history : List Act) :
    ∀ symbol ∈ sortByText Symbol.name (after history).registry.symbols,
      symbol.isNamed = true := by
  intro symbol hsymbol
  apply (wellFormed_after history).shared.named
  exact (sortByText_perm _ _).mem_iff.1 hsymbol

section Finished

variable {history : List Act} {documents : List DocumentSymbols} {graph : SymbolGraph}

theorem Workshop.checks_of_finalize
    (hfinal : (after history).registry.finalize documents = .ok graph) :
    graph.checks = (after history).registry.checks := by
  rw [Registry.eq_of_finalize_eq_ok hfinal]
  exact filterMap_checks (named_sortByText history) _ _ _

theorem Workshop.memberships_of_finalize
    (hfinal : (after history).registry.finalize documents = .ok graph) :
    Ascending (fun a b => keyBefore a.key b.key) graph.memberships ∧
      ∀ m, m ∈ graph.memberships ↔ Registered history m := by
  rw [Registry.eq_of_finalize_eq_ok hfinal]
  refine ⟨ascending_ascending membershipOrder _, fun m => ?_⟩
  rw [mem_ascending membershipOrder, mem_memberships_after]

/-- A check stands for its target and type argument alone, and only if something is
recorded. -/
theorem ChecksAscend.existsUnique_iff
    {checks : List UnmarshalCheck} (hchecks : ChecksAscend checks)
    (target : String) (typeArgument : Option String) :
    (∃! check, check ∈ checks ∧ check.target = target ∧
     check.typeArgument = typeArgument) ↔
      ∃ payload, PayloadRecorded checks target typeArgument payload := by
  constructor
  · rintro ⟨check, ⟨hcheck, rfl, rfl⟩, -⟩
    obtain ⟨payload, hpayload⟩ :=
      List.exists_mem_of_ne_nil _ (hchecks.inhabited check hcheck)
    exact ⟨payload, check, hcheck, rfl, rfl, hpayload⟩
  · rintro ⟨payload, check, hcheck, rfl, rfl, -⟩
    refine ⟨check, ⟨hcheck, rfl, rfl⟩, ?_⟩
    rintro other ⟨hother, htarget, hargument⟩
    apply List.inj_on_of_nodup_map hchecks.nodup_keys hother hcheck
    simp [UnmarshalCheck.key, htarget, hargument]

theorem Workshop.canonicalFor_of_finalize
    (hfinal : (after history).registry.finalize documents = .ok graph) :
    graph.CanonicalFor history documents := by
  have hgraph := Registry.eq_of_finalize_eq_ok hfinal
  have hchecks := checks_of_finalize hfinal
  have hascend := checksAscend_after history
  obtain ⟨hmemberships, hregistered⟩ := memberships_of_finalize hfinal
  constructor
  · rw [hgraph]
    exact sortByText_perm _ documents
  · rw [hgraph]
    exact sortByText_sorted _ documents
  · refine ⟨sortByText Symbol.name (after history).registry.symbols, ?_,
      sortByText_perm _ _, ?_⟩
    · rw [hchecks, hgraph]
    · exact sortByText_pairwise _ (wellFormed_after history).shared.names_nodup
  · rw [hchecks]
    exact hascend.keys.imp fun hbefore =>
      (UnmarshalCheck.keyBefore_iff_rank_lt _ _).1 hbefore
  · intro target typeArgument
    rw [hchecks, hascend.existsUnique_iff]
    simp only [← recorded_after]
  · intro check hcheck
    rw [hchecks] at hcheck
    exact (hascend.payloads check hcheck).imp fun hbefore => (textBefore_iff _ _).1 hbefore
  · intro check hcheck payload
    rw [hchecks] at hcheck
    rw [← hascend.recorded_iff hcheck, ← recorded_after]
  · exact hmemberships.imp fun hbefore => (Membership.keyBefore_iff_rank_lt _ _).1 hbefore
  · refine hmemberships.imp ?_
    rintro a b hbefore rfl
    simp [keyBefore_irrefl] at hbefore
  · exact hregistered

end Finished

/-- A schema that is finished is in its canonical form and has lost nothing, whatever the
documents are.  So two histories that have registered the same memberships and recorded the
same payloads are finished with equal memberships and equal checks. -/
theorem finalize_canonical
    {history : List Act} {documents : List DocumentSymbols} {graph : SymbolGraph}
    (hfinal : (Workshop.after history).registry.finalize documents = .ok graph) :
    graph.CanonicalFor history documents ∧
      ∀ (other : List Act) (documents' : List DocumentSymbols) (graph' : SymbolGraph),
        (Workshop.after other).registry.finalize documents' = .ok graph' →
          (∀ m, Registered other m ↔ Registered history m) →
            (∀ r, Recorded other r ↔ Recorded history r) →
              graph'.memberships = graph.memberships ∧ graph'.checks = graph.checks := by
  refine ⟨Workshop.canonicalFor_of_finalize hfinal, ?_⟩
  intro other documents' graph' hfinal' hregistered hrecorded
  obtain ⟨hascend, hmem⟩ := Workshop.memberships_of_finalize hfinal
  obtain ⟨hascend', hmem'⟩ := Workshop.memberships_of_finalize hfinal'
  constructor
  · apply hascend'.eq_of_mem_iff membershipOrder hascend
    intro m
    rw [hmem', hmem, hregistered]
  · rw [Workshop.checks_of_finalize hfinal, Workshop.checks_of_finalize hfinal']
    apply (Workshop.checksAscend_after other).eq_of_recorded_iff
      (Workshop.checksAscend_after history)
    intro target typeArgument payload
    have hsame := hrecorded { target, typeArgument, payload }
    rwa [← Workshop.recorded_after, ← Workshop.recorded_after] at hsame

/-- Two builders of one document register the same member, and payloads are recorded in no
order. -/
def iconHistory : List Act :=
  [.build ⟨"emoji", 0⟩ (.addOpenUnion "Icon" "type"),
   .build ⟨"emoji", 0⟩ (.addSharedRecord "Emoji" ""),
   .direct
     (.addField "Emoji" { name := "type", type := .string, literal := some "emoji" }),
   .build ⟨"emoji", 1⟩ (.registerMember ⟨"Icon", .shared⟩ ⟨"Emoji", .shared⟩ none),
   .direct (.addCheck "Emoji" "null" none),
   .build ⟨"emoji", 0⟩ (.registerMember ⟨"Icon", .shared⟩ ⟨"Emoji", .shared⟩ none),
   .build ⟨"emoji", 1⟩ (.addUnmarshalCheck ⟨"Emoji", .shared⟩ " 😀 " none),
   .direct (.addCheck "Emoji" "null" none)]

theorem exists_finalize_iconHistory :
    ∃ graph, (Workshop.after iconHistory).registry.finalize [] = .ok graph := by
  have hshared : (Workshop.after iconHistory).registry.symbols =
      [.openUnion ⟨"Icon", "", "type"⟩,
        .record ⟨"Emoji", "", none,
          [{ name := "type", type := .string, literal := some "emoji" }]⟩] :=
    rfl
  have hmemberships : (Workshop.after iconHistory).registry.memberships =
      List.replicate 2 ⟨"Icon", "Emoji", none, none⟩ :=
    rfl
  have htargets : ∀ check ∈ (Workshop.after iconHistory).registry.checks,
      check.target = "Emoji" := by
    decide +kernel
  rw [Registry.exists_finalize_iff ⟨by decide, by simp, by simp⟩]
  constructor
  · simp [Registry.Knows, hshared]
  · simp [Registry.Knows, hshared, Symbol.fields, TypeRef.referencedNames]
  · have hvalue : textSet ["emoji"] ≠ [] :=
      List.ne_nil_of_mem (mem_textSet "emoji" _ |>.2 (by simp))
    simpa [Registry.Offers, hshared, hmemberships, Symbol.name, Symbol.discriminatorValues,
      Symbol.fields, Symbol.fieldValues, Field.discriminatorValues] using hvalue
  · intro check hcheck
    simp [Registry.Knows, hshared, Symbol.name, htargets check hcheck]

theorem finalize_iconHistory :
    ∃ graph, (Workshop.after iconHistory).registry.finalize [] = .ok graph ∧
      graph.CanonicalFor iconHistory [] ∧
      graph.memberships = [⟨"Icon", "Emoji", none, none⟩] := by
  obtain ⟨graph, hfinal⟩ := exists_finalize_iconHistory
  have hcanonical := (finalize_canonical hfinal).1
  refine ⟨graph, hfinal, hcanonical, ?_⟩
  apply Ascending.eq_of_mem_iff membershipOrder (Workshop.memberships_of_finalize hfinal).1
  · exact List.pairwise_singleton _ _
  · intro m
    rw [hcanonical.membership_iff]
    simp [Registered, iconHistory, Act.membership?, BuildStep.membership?, eq_comm]

end DocContract
