import DocContract.Proofs.DocumentModules
import Mathlib.Data.List.Sublists

/-!
# Runs that succeed

What the scripts of a run build can be worked out without pages.  If it is built without a
fault, holds together, and every name in it has an identifier, then the run succeeds just
when all its pages are as recorded.  None of this depends on the order of what is built, so
it can be computed before anything is put in order.
-/

namespace DocContract

open DocContract.Code

theorem isOk_iff {ε α : Type} {outcome : Except ε α} :
    outcome.isOk = true ↔ ∃ a, outcome = .ok a := by
  cases outcome <;> simp [Except.isOk, Except.toBool]

/-- All symbols of a schema that has not been put in order. -/
def Registry.known (registry : Registry) (documents : List DocumentSymbols) :
    SymbolTable :=
  registry.symbols ++ documents.flatMap (·.symbols)

theorem Registry.mem_known_iff
    {registry : Registry} {documents : List DocumentSymbols} {symbol : Symbol} :
    symbol ∈ registry.known documents ↔ registry.Knows documents symbol := by
  rw [known, List.mem_append, List.mem_flatMap]
  rfl

/-- The first flaw of a schema that has not been put in order. -/
def Registry.flaw (registry : Registry) (documents : List DocumentSymbols) :
    Except SchemaError Unit :=
  firstFault
    (Site.validate registry.symbols documents ((registry.known documents).map Symbol.name))
    ((registry.known documents).flatMap Symbol.sites ++
     registry.memberships.map Site.membership ++
      registry.checks.map Site.check)

section Consistency

variable {registry : Registry} {documents : List DocumentSymbols}

theorem namesDistinct_iff :
    NamesDistinct registry documents ↔
      registry.symbols.names.Nodup ∧ (documents.map DocumentSymbols.document).Nodup ∧
        ∀ document ∈ documents, document.symbols.names.Nodup :=
  ⟨fun h => ⟨h.shared_nodup, h.documents_nodup, h.tables_nodup⟩, fun h =>
   ⟨h.1, h.2.1, h.2.2⟩⟩

instance : Decidable (NamesDistinct registry documents) :=
  decidable_of_iff _ namesDistinct_iff.symm

/-- A schema has a flaw in one order of its tables iff it has one in any other. -/
theorem NamesDistinct.flaw_eq_ok_iff (hdistinct : NamesDistinct registry documents) :
    registry.flaw documents = .ok () ↔ registry.Consistent documents := by
  have horder : InOrder registry documents registry.symbols documents :=
    ⟨.refl _, .refl _, hdistinct.shared_nodup, hdistinct.documents_nodup,
     hdistinct.tables_nodup⟩
  rw [Registry.flaw, Registry.known, firstFault_eq_ok_iff, horder.consistent_iff]
  simp only [horder.site_ok_iff, horder.mem_sites_iff (fun _ => Iff.rfl)]

end Consistency

def SymbolGraph.bare : SymbolGraph :=
  { documents := [], shared := [], memberships := [] }

/-- Every name in a schema that needs an identifier has one. -/
structure Registry.Declarable (registry : Registry) (documents : List DocumentSymbols) :
    Prop where
  modules : ∀ document ∈ documents, (fieldIdent document.document).isOk = true
  symbols : ∀ symbol ∈ registry.known documents, (symbolItems .bare symbol).isOk = true
  members : ∀ membership ∈ registry.memberships,
    (Variant.ofMembership membership).isOk = true
  tests : ∀ check ∈ registry.checks, (DecodeTest.ofCheck check).isOk = true

theorem Registry.declarable_iff {registry : Registry} {documents : List DocumentSymbols} :
    registry.Declarable documents ↔
      (∀ document ∈ documents, (fieldIdent document.document).isOk = true) ∧
        (∀ symbol ∈ registry.known documents, (symbolItems .bare symbol).isOk = true) ∧
        (∀ membership ∈ registry.memberships,
          (Variant.ofMembership membership).isOk = true) ∧
        ∀ check ∈ registry.checks, (DecodeTest.ofCheck check).isOk = true :=
  ⟨fun h => ⟨h.modules, h.symbols, h.members, h.tests⟩,
   fun h => ⟨h.1, h.2.1, h.2.2.1, h.2.2.2⟩⟩

instance {registry : Registry} {documents : List DocumentSymbols} :
    Decidable (registry.Declarable documents) :=
  decidable_of_iff _ Registry.declarable_iff.symm

section Emission

variable {graph : SymbolGraph}

theorem exists_variants
    {memberships : List Membership}
    (hmembers : ∀ membership ∈ memberships,
      (Variant.ofMembership membership).isOk = true) :
    ∃ found, variants memberships = .ok found := by
  induction memberships with
  | nil => exact ⟨[], rfl⟩
  | cons membership later ih =>
      rw [List.forall_mem_cons] at hmembers
      obtain ⟨variant, hvariant⟩ := isOk_iff.1 hmembers.1
      obtain ⟨found, hfound⟩ := ih hmembers.2
      refine ⟨variant :: found, ?_⟩
      rw [variants, hvariant, hfound]
      rfl

/-- A symbol that can be declared in the bare schema can be declared in any other, if the
members of open unions have identifiers there. -/
theorem exists_symbolItems
    {symbol : Symbol} (hbare : (symbolItems .bare symbol).isOk = true)
    (hmembers : ∀ membership ∈ graph.memberships,
      (Variant.ofMembership membership).isOk = true) :
    ∃ items, symbolItems graph symbol = .ok items := by
  cases symbol with
  | record record => exact isOk_iff.1 hbare
  | closedUnion union => exact isOk_iff.1 hbare
  | literal literal => exact isOk_iff.1 hbare
  | unmarshalCheck check => exact isOk_iff.1 hbare
  | openUnion union =>
      obtain ⟨items, hitems⟩ := isOk_iff.1 hbare
      obtain ⟨item, hitem, -⟩ := exists_of_bind_eq_ok hitems
      obtain ⟨ident, hident, -⟩ := exists_of_bind_eq_ok hitem
      have hof : ∀ membership ∈ graph.membersOf union.name,
          (Variant.ofMembership membership).isOk = true :=
        fun membership hmem => hmembers membership (List.mem_filter.1 hmem).1
      obtain ⟨found, hfound⟩ := exists_variants hof
      obtain ⟨declared, hdeclared⟩ : ∃ declared, openUnionItem union graph =
          .ok declared := by
        rw [openUnionItem, hident, hfound]
        cases found with
        | nil => exact ⟨_, rfl⟩
        | cons first later => exact ⟨_, rfl⟩
      refine ⟨[declared], ?_⟩
      rw [symbolItems, hdeclared]
      rfl

theorem exists_documentItems
    {symbols : List Symbol}
    (hitems : ∀ symbol ∈ symbols, ∃ items, symbolItems graph symbol = .ok items) :
    ∃ items, documentItems graph symbols = .ok items := by
  induction symbols with
  | nil => exact ⟨[], rfl⟩
  | cons symbol later ih =>
      rw [List.forall_mem_cons] at hitems
      obtain ⟨first, hfirst⟩ := hitems.1
      obtain ⟨rest, hrest⟩ := ih hitems.2
      refine ⟨first ++ rest, ?_⟩
      rw [documentItems, hfirst, hrest]
      rfl

theorem exists_sharedItems
    {symbols : List Symbol}
    (hitems : ∀ symbol ∈ symbols, ∃ items, symbolItems graph symbol = .ok items) :
    ∃ shared, sharedItems graph symbols = .ok shared := by
  induction symbols with
  | nil => exact ⟨_, rfl⟩
  | cons symbol later ih =>
      rw [List.forall_mem_cons] at hitems
      obtain ⟨first, hfirst⟩ := hitems.1
      obtain ⟨rest, hrest⟩ := ih hitems.2
      cases symbol with
      | unmarshalCheck check =>
          obtain ⟨test, htest, -⟩ := exists_of_bind_eq_ok hfirst
          refine ⟨{ rest with tests := test :: rest.tests }, ?_⟩
          rw [sharedItems, htest, hrest]
          rfl
      | record | closedUnion | openUnion | literal =>
          refine ⟨{ rest with items := first ++ rest.items }, ?_⟩
          rw [sharedItems, hfirst, hrest]
          · rfl
          · simp

theorem exists_files
    {attempts : List Attempt}
    (hall : ∀ attempt ∈ attempts, ∃ file, attempt.emit graph = .ok file) :
    ∃ files, List.Forall₂ (Attempt.Yields graph) attempts files := by
  induction attempts with
  | nil => exact ⟨[], .nil⟩
  | cons attempt later ih =>
      rw [List.forall_mem_cons] at hall
      obtain ⟨file, hfile⟩ := hall.1
      obtain ⟨files, hfiles⟩ := ih hall.2
      exact ⟨file :: files, .cons (Attempt.yields_iff.2 hfile) hfiles⟩

/-- A schema is emitted to the end if its documents have identifiers and its symbols are
declared. -/
theorem fault_emit_of_items
    (hmodules : ∀ document ∈ graph.documents, (fieldIdent document.document).isOk = true)
    (hitems : ∀ symbol ∈ graph.shared ++ graph.documents.flatMap (·.symbols),
      ∃ items, symbolItems graph symbol = .ok items) : (emit graph).fault = none := by
  have hdocuments : ∀ document ∈ graph.documents,
      ∃ file, emitDocument graph document = .ok file := by
    intro document hdocument
    obtain ⟨ident, hident⟩ := isOk_iff.1 (hmodules document hdocument)
    have hown : ∀ symbol ∈ document.symbols,
        ∃ items, symbolItems graph symbol = .ok items :=
      fun symbol hsymbol => hitems symbol
        (List.mem_append_right _ (List.mem_flatMap.2 ⟨document, hdocument, hsymbol⟩))
    obtain ⟨items, hfound⟩ := exists_documentItems hown
    refine ⟨Module.file { ident, items }, ?_⟩
    rw [emitDocument, documentModule, hident, hfound]
    rfl
  have hshared : ∃ file, emitShared graph = .ok file := by
    obtain ⟨shared, hfound⟩ := exists_sharedItems fun symbol hsymbol =>
      hitems symbol (List.mem_append_left _ hsymbol)
    refine ⟨Module.file { ident := sharedIdent, items := shared.all }, ?_⟩
    rw [emitShared, sharedModule, hfound]
    rfl
  have hall : ∀ attempt ∈ graph.attempts, ∃ file, attempt.emit graph = .ok file := by
    simp only [SymbolGraph.attempts, List.forall_mem_append, List.forall_mem_map,
      List.forall_mem_cons]
    exact ⟨hdocuments, hshared, emitModules_of_documents hdocuments, by simp⟩
  obtain ⟨files, hfiles⟩ := exists_files hall
  have hemit : emit graph = { files, fault := none } := emit_eq_iff.2 (.emitted hfiles)
  rw [hemit]

theorem fault_emit_of_declarable
    {registry : Registry} {documents : List DocumentSymbols}
    (hfinal : registry.finalize documents = .ok graph)
    (hdeclarable : registry.Declarable documents) :
    (emit graph).fault = none := by
  obtain rfl := Registry.eq_of_finalize_eq_ok hfinal
  have hdocument (document : DocumentSymbols) :
      document ∈ sortByText (·.document) documents ↔ document ∈ documents :=
    (sortByText_perm _ _).mem_iff
  have hmembers : ∀ membership ∈ ascending (fun a b => keyBefore a.key b.key)
    registry.memberships,
      (Variant.ofMembership membership).isOk = true := by
    intro membership hmem
    exact hdeclarable.members membership
      ((mem_ascending membershipOrder membership _).1 hmem)
  apply fault_emit_of_items
  · intro document hmem
    exact hdeclarable.modules document ((hdocument document).1 hmem)
  · intro symbol hmem
    simp only [List.mem_append, List.mem_map, List.mem_flatMap, hdocument,
      (sortByText_perm Symbol.name registry.symbols).mem_iff] at hmem
    rcases hmem with (hshared | ⟨check, hcheck, rfl⟩) | hown
    · exact exists_symbolItems (hdeclarable.symbols symbol
        (Registry.mem_known_iff.2 (.inl hshared))) hmembers
    · obtain ⟨test, htest⟩ := isOk_iff.1 (hdeclarable.tests check hcheck)
      refine ⟨[.decodeTest test], ?_⟩
      rw [symbolItems, htest]
      rfl
    · exact exists_symbolItems (hdeclarable.symbols symbol
        (Registry.mem_known_iff.2 (.inr hown))) hmembers

end Emission

/-! ## Scripts that succeed -/

/-- What some scripts build, one after the other, makes a schema that can be finished and
emitted. -/
structure ScriptsSucceed (conversions : List Conversion) : Prop where
  built : (recordedFrom {} conversions).filterMap Reading.failure? = []
  distinct : NamesDistinct (registryAfter {} (recordedFrom {} conversions))
    ((recordedFrom {} conversions).filterMap Reading.symbols?)
  consistent : (registryAfter {} (recordedFrom {} conversions)).flaw
    ((recordedFrom {} conversions).filterMap Reading.symbols?) = .ok ()
  declarable : (registryAfter {} (recordedFrom {} conversions)).Declarable
    ((recordedFrom {} conversions).filterMap Reading.symbols?)

theorem scriptsSucceed_iff {conversions : List Conversion} :
    ScriptsSucceed conversions ↔
      let readings := recordedFrom {} conversions
      let registry := registryAfter {} readings
      let documents := readings.filterMap Reading.symbols?
      readings.filterMap Reading.failure? = [] ∧ NamesDistinct registry documents ∧
        registry.flaw documents = .ok () ∧ registry.Declarable documents :=
  ⟨fun h => ⟨h.built, h.distinct, h.consistent, h.declarable⟩,
    fun h => ⟨h.1, h.2.1, h.2.2.1, h.2.2.2⟩⟩

instance {conversions : List Conversion} : Decidable (ScriptsSucceed conversions) :=
  decidable_of_iff _ scriptsSucceed_iff.symm

/-- A page is what one script records in one way only. -/
theorem Faithful.unique
    {live others : List Element} {endpoint other : Option Endpoint}
    {script : List ScriptStep}
    (hfaithful : Faithful live endpoint script) (halso : Faithful others other script) :
    live = others ∧ endpoint = other := by
  refine ⟨hfaithful.elements_eq.symm.trans halso.elements_eq, ?_⟩
  have hexpected : ∀ {endpoint : Option Endpoint},
      (∀ step ∈ script, step.Met endpoint) → ∀ step ∈ script,
      ∀ e, step.expectation = .endpoint e →
        endpoint = some e :=
          fun hmet step hstep e hexpects => (hmet step hstep e hexpects).1
  rcases hfaithful.endpoint_expected with rfl | ⟨step, hstep, e, hexpects⟩
  · rcases halso.endpoint_expected with rfl | ⟨step, hstep, e, hexpects⟩
    · rfl
    · have hnone := hexpected hfaithful.endpoints_met step hstep e hexpects
      contradiction
  · rw [hexpected hfaithful.endpoints_met step hstep e hexpects,
      hexpected halso.endpoints_met step hstep e hexpects]

theorem faithful_of_no_endpoint
    {script : List ScriptStep}
    (hnone : ∀ step ∈ script, ∀ e, step.expectation ≠ .endpoint e) :
    Faithful (expectedElements script) none script where
  elements_eq := rfl
  endpoints_met := fun step hstep e hexpects => absurd hexpects (hnone step hstep e)
  endpoint_expected := .inl rfl

section Runs

variable {source : PageSource} {conversions : List Conversion}

theorem asRecorded_of_result
    {graph : SymbolGraph} (hresult : (run source conversions).result = .ok graph) :
    ∀ conversion ∈ conversions, conversion.AsRecorded source := by
  obtain ⟨hread, -, -⟩ := ends_of_result hresult
  apply asRecorded_of_readingsFrom
  intro reading hreading error herror
  obtain ⟨symbols, hsymbols⟩ := hread reading hreading
  rw [herror] at hsymbols
  contradiction

/-- If scripts succeed without pages, then a run of them succeeds on just those pages that
are as they record them. -/
theorem ScriptsSucceed.exists_result_iff (hsucceed : ScriptsSucceed conversions) :
    (∃ graph, (run source conversions).result = .ok graph) ↔
      ∀ conversion ∈ conversions, conversion.AsRecorded source := by
  constructor
  · rintro ⟨graph, hresult⟩
    exact asRecorded_of_result hresult
  · intro hrecorded
    obtain ⟨graph, hfinal⟩ := (Registry.exists_finalize_iff hsucceed.distinct).2
      (hsucceed.distinct.flaw_eq_ok_iff.1 hsucceed.consistent)
    exact ⟨graph, result_of_asRecorded hrecorded hsucceed.built hfinal
      (fault_emit_of_declarable hfinal hsucceed.declarable)⟩

end Runs

/-- With a document that is chosen, those that it needs are chosen. -/
def NeedsChosen (conversions : List Conversion) (chosen : List String) : Prop :=
  ∀ conversion ∈ conversions, conversion.name ∈ chosen →
    ∀ need ∈ conversion.needs, need ∈ chosen

instance {conversions : List Conversion} {chosen : List String} :
    Decidable (NeedsChosen conversions chosen) :=
  inferInstanceAs (Decidable (∀ conversion ∈ conversions, conversion.name ∈ chosen → _))

section Selection

variable {conversions selected : List Conversion} {names : List String}

theorem reachable_cons_of_find
    {before pending : List String} {name : String} {conversion : Conversion}
    (hnew : name ∉ before)
    (hfind : conversions.find? (·.name == name) = some conversion) :
    reachable conversions before (name :: pending) =
      reachable conversions (name :: before) (pending ++ conversion.needs) := by
  rw [reachable, dif_neg (by simpa using hnew)]
  split
  · next hnone =>
    rw [hfind] at hnone
    contradiction
  · next found hfound =>
    obtain rfl : conversion = found := Option.some.inj (hfind.symm.trans hfound)
    rfl

/-- What is reached holds what was selected and pending, and with everything new what that
needs. -/
theorem reachable_closed
    {before pending chosen : List String}
    (hreach : reachable conversions before pending = .ok chosen) :
    (∀ name ∈ before, name ∈ chosen) ∧ (∀ name ∈ pending, name ∈ chosen) ∧
      ∀ name ∈ chosen, name ∈ before ∨ ∃ conversion,
        conversions.find? (·.name == name) = some conversion ∧
          ∀ need ∈ conversion.needs, need ∈ chosen := by
  fun_induction reachable conversions before pending with
  | case1 before =>
      obtain rfl := Except.ok.inj hreach
      exact ⟨fun _ hmem => hmem, by simp, fun _ hmem => .inl hmem⟩
  | case2 before name pending hold ih =>
      obtain ⟨hbefore, hpending, hnew⟩ := ih hreach
      refine ⟨hbefore, ?_, hnew⟩
      rw [List.forall_mem_cons]
      exact ⟨hbefore name (by simpa using hold), hpending⟩
  | case3 => contradiction
  | case4 before name pending hold conversion hfind ih =>
      obtain ⟨hbefore, hpending, hnew⟩ := ih hreach
      rw [List.forall_mem_cons] at hbefore
      rw [List.forall_mem_append] at hpending
      refine ⟨hbefore.2, ?_, ?_⟩
      · rw [List.forall_mem_cons]
        exact ⟨hbefore.1, hpending.1⟩
      · intro other hother
        rcases hnew other hother with hmem | hfound
        · rcases List.mem_cons.1 hmem with rfl | hmem
          · exact .inr ⟨conversion, hfind, hpending.2⟩
          · exact .inl hmem
        · exact .inr hfound

/-- What is selected are the conversions with some of the names, together with what they
need. -/
theorem exists_chosen_of_select
    (hnodup : (conversions.map Conversion.name).Nodup)
    (hselect : select conversions names = .ok selected) :
    ∃ chosen ∈ (conversions.map Conversion.name).sublists, NeedsChosen conversions chosen ∧
      selected = conversions.filter fun conversion => chosen.contains conversion.name := by
  unfold select at hselect
  split at hselect
  · next reached hreach =>
    obtain rfl := Except.ok.inj hselect
    obtain ⟨-, -, hclosed⟩ := reachable_closed hreach
    refine ⟨(conversions.map Conversion.name).filter reached.contains,
      List.mem_sublists.2 List.filter_sublist, ?_, ?_⟩
    · intro conversion hmem hchosen need hneed
      rw [List.mem_filter, List.contains_iff_mem] at hchosen
      rcases hclosed _ hchosen.2 with hnil | ⟨found, hfind, hneeds⟩
      · simp at hnil
      · have hname : found.name = conversion.name := by simpa using List.find?_some hfind
        obtain rfl : found = conversion :=
          List.inj_on_of_nodup_map hnodup (List.mem_of_find?_eq_some hfind) hmem hname
        have hreached := hneeds need hneed
        rcases hclosed need hreached with hnil | ⟨needed, hneeded, -⟩
        · simp at hnil
        · have hneed : needed.name = need := by simpa using List.find?_some hneeded
          rw [List.mem_filter, List.contains_iff_mem]
          exact ⟨List.mem_map.2 ⟨needed, List.mem_of_find?_eq_some hneeded, hneed⟩,
            hreached⟩
    · refine List.filter_congr fun conversion hmem => ?_
      rw [Bool.eq_iff_iff, List.contains_iff_mem, List.contains_iff_mem, List.mem_filter,
        List.contains_iff_mem]
      exact ⟨fun hreached => ⟨List.mem_map_of_mem hmem, hreached⟩, And.right⟩
  · contradiction

end Selection

end DocContract
