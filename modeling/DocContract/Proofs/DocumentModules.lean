import DocContract.Proofs.GrowingTables
import DocContract.Proofs.RecordedRuns
import DocContract.Proofs.Schedules

/-!
# Modules of documents

The table of a document is made by the steps of its own script: what a step takes from the
registry does not enter it.  It holds records and closed unions only, and those are
declared without regard to the rest of the schema.  So the module of a document is the same
in every run that succeeds.
-/

namespace DocContract

open DocContract.Code (symbolItems)

theorem BuildStep.ownAll_of_runSteps
    {document : String} {state after : BuildState} {steps : List BuildStep}
    (hbuild : runSteps document state steps = (.ok (), after)) :
    BuildStep.ownAll state.symbols steps = .ok after.symbols := by
  induction steps generalizing state with
  | nil =>
      obtain rfl : state = after := (Prod.mk.inj hbuild).2
      rfl
  | cons step steps ih =>
      rw [runSteps] at hbuild
      split at hbuild
      · next answer next hstep =>
        have hleads : step.LeadsTo document state next := ⟨answer, hstep⟩
        have hown := ((BuildStep.leadsTo_iff document step state next).1 hleads).2
        exact (BuildStep.ownAll_cons_eq_ok_iff _ _ _ _).2 ⟨next.symbols, hown, ih hbuild⟩
      · simp at hbuild

/-- A table of records and closed unions. -/
def SymbolTable.TakesFields (table : SymbolTable) : Prop :=
  ∀ symbol ∈ table, symbol.TakesFields

theorem SymbolTable.TakesFields.intern
    {table after : SymbolTable} {symbol : Symbol} (htakes : table.TakesFields)
    (hsymbol : symbol.TakesFields)
    (hintern : SymbolTable.intern symbol table = .ok after) :
    after.TakesFields := by
  rcases SymbolTable.intern_cases hintern with rfl | ⟨before, existing, later, rfl, rfl⟩
  · intro found hfound
    rw [List.mem_append, List.mem_singleton] at hfound
    rcases hfound with hold | rfl
    · exact htakes found hold
    · exact hsymbol
  · apply forall_mem_replace htakes
    simp [Symbol.TakesFields]

theorem SymbolTable.TakesFields.attach
    {table after : SymbolTable} {target : String} {added : Field}
    (htakes : table.TakesFields)
    (hattach : (SymbolTable.attach target added table).map Prod.fst = .ok after) :
    after.TakesFields := by
  obtain ⟨⟨symbols, stored⟩, hattached, rfl⟩ := (map_eq_ok_iff _ _ _).1 hattach
  obtain ⟨before, symbol, later, fields, rfl, rfl, -, -⟩ :=
    SymbolTable.attach_cases hattached
  apply forall_mem_replace htakes
  simp [Symbol.TakesFields]

theorem SymbolTable.TakesFields.own
    {table after : SymbolTable} {step : BuildStep} (htakes : table.TakesFields)
    (hown : step.own table = .ok after) : after.TakesFields := by
  have hsame : (Except.ok table : Except SchemaError SymbolTable) = .ok after →
      after.TakesFields := by
    intro heq
    rwa [← Except.ok.inj heq]
  unfold BuildStep.own at hown
  cases step with
  | addRecord name comment => exact htakes.intern (.inl rfl) hown
  | addGenericRecord name typeParameter comment => exact htakes.intern (.inl rfl) hown
  | addClosedUnion name key comment => exact htakes.intern (.inr rfl) hown
  | addField target parameter type options =>
      by_cases hshared : target.scope = .shared
      · simp only [if_pos hshared] at hown
        exact hsame hown
      · simp only [if_neg hshared] at hown
        exact htakes.attach hown
  | addLiteralField target parameter =>
      cases hvalue : literalValue? parameter.literalText with
      | none => simp only [hvalue, reduceCtorEq] at hown
      | some value =>
          simp only [hvalue] at hown
          by_cases hshared : target.scope = .shared
          · rw [if_pos hshared] at hown
            exact hsame hown
          · rw [if_neg hshared] at hown
            exact htakes.attach hown
  | addSharedRecord => exact hsame hown
  | addSharedClosedUnion => exact hsame hown
  | addOpenUnion => exact hsame hown
  | registerMember => exact hsame hown
  | addUnmarshalCheck => exact hsame hown

theorem SymbolTable.TakesFields.ownAll
    {table after : SymbolTable} {steps : List BuildStep} (htakes : table.TakesFields)
    (hown : BuildStep.ownAll table steps = .ok after) : after.TakesFields := by
  induction steps generalizing table with
  | nil =>
      rw [BuildStep.ownAll] at hown
      rwa [← Except.ok.inj hown]
  | cons step steps ih =>
      obtain ⟨next, hstep, hlater⟩ := (BuildStep.ownAll_cons_eq_ok_iff _ _ _ _).1 hown
      exact ih (htakes.own hstep) hlater

section Modules

variable (graph other : SymbolGraph)

/-- What takes fields is declared without a look at the schema; an open union is not. -/
theorem Symbol.TakesFields.symbolItems_eq {symbol : Symbol} (htakes : symbol.TakesFields) :
    symbolItems graph symbol = symbolItems other symbol := by
  cases symbol with
  | record => rfl
  | closedUnion => rfl
  | openUnion => simp [TakesFields, kind] at htakes
  | literal => rfl
  | unmarshalCheck => rfl

theorem SymbolTable.TakesFields.documentItems_eq {table : SymbolTable}
    (htakes : table.TakesFields) :
    documentItems graph table = documentItems other table := by
  induction table with
  | nil => rfl
  | cons symbol later ih =>
      obtain ⟨hsymbol, hlater⟩ := List.forall_mem_cons.1 htakes
      rw [documentItems, documentItems, hsymbol.symbolItems_eq graph other, ih hlater]

theorem SymbolTable.TakesFields.emitDocument_eq
    {document : DocumentSymbols} (htakes : SymbolTable.TakesFields document.symbols) :
    emitDocument graph document = emitDocument other document := by
  rw [emitDocument, emitDocument, documentModule, documentModule,
    htakes.documentItems_eq graph other]

end Modules

/-! ## Documents of a run -/

section Readings

variable {source : PageSource} {conversion : Conversion} {conversions : List Conversion}
  {found left : Registry} {document : DocumentSymbols}

theorem Conversion.symbols_of_run
    (hrun : conversion.run source found = (.ok document, left)) :
    document.document = conversion.name ∧
      BuildStep.ownAll [] (buildStepsOf conversion.script) = .ok document.symbols := by
  cases run_eq_iff.1 hrun with
  | built hopens hfaithful hbuild => exact ⟨rfl, BuildStep.ownAll_of_runSteps hbuild⟩

theorem symbols_of_mem_readingsFrom
    {reading : Reading} (hreading : reading ∈ readingsFrom source found conversions)
    (hresult : reading.result = .ok document) :
    document.document = reading.conversion.name ∧
      BuildStep.ownAll [] (buildStepsOf reading.conversion.script) =
        .ok document.symbols := by
  induction conversions generalizing found with
  | nil => simp [readingsFrom] at hreading
  | cons first later ih =>
      rw [readingsFrom_cons, List.mem_cons] at hreading
      cases hreading with
      | inl hfirst =>
          subst hfirst
          exact Conversion.symbols_of_run (Prod.ext hresult rfl)
      | inr hlater => exact ih hlater

theorem names_of_symbols
    {readings : List Reading}
    (hread : ∀ reading ∈ readings, ∃ document, reading.result = .ok document ∧
      document.document = reading.conversion.name) :
    (readings.filterMap Reading.symbols?).map DocumentSymbols.document =
      (readings.map Reading.conversion).map Conversion.name := by
  induction readings with
  | nil => rfl
  | cons first later ih =>
      rw [List.forall_mem_cons] at hread
      obtain ⟨⟨document, hresult, hname⟩, hlater⟩ := hread
      have hsymbols : first.symbols? = some document := by simp [Reading.symbols?, hresult]
      rw [List.filterMap_cons_some hsymbols, List.map_cons, ih hlater, hname,
        List.map_cons, List.map_cons]

/-- The symbols of the documents of a run have the names of its conversions. -/
theorem names_of_readingsFrom
    (hread : ∀ reading ∈ readingsFrom source found conversions,
      ∃ symbols, reading.result = .ok symbols) :
    ((readingsFrom source found conversions).filterMap Reading.symbols?).map
        DocumentSymbols.document = conversions.map Conversion.name := by
  rw [names_of_symbols, conversions_readingsFrom]
  intro reading hreading
  obtain ⟨document, hresult⟩ := hread reading hreading
  exact ⟨document, hresult, (symbols_of_mem_readingsFrom hreading hresult).1⟩

theorem exists_symbols_of_mem
    (hread : ∀ reading ∈ readingsFrom source found conversions,
      ∃ symbols, reading.result = .ok symbols)
    (hmem : conversion ∈ conversions) :
    ∃ symbols, BuildStep.ownAll [] (buildStepsOf conversion.script) = .ok symbols ∧
      ⟨conversion.name, symbols⟩ ∈
        (readingsFrom source found conversions).filterMap Reading.symbols? := by
  have hconversions : (readingsFrom source found conversions).map Reading.conversion =
      conversions := conversions_readingsFrom found conversions
  rw [← hconversions, List.mem_map] at hmem
  obtain ⟨reading, hreading, rfl⟩ := hmem
  obtain ⟨document, hresult⟩ := hread reading hreading
  obtain ⟨hname, hown⟩ := symbols_of_mem_readingsFrom hreading hresult
  refine ⟨document.symbols, hown, List.mem_filterMap.2 ⟨reading, hreading, ?_⟩⟩
  rw [← hname]
  simp [Reading.symbols?, hresult]

end Readings

/-- A run that has a schema has a document in it, no other of its name, and the file of the
document at its place. -/
structure RunOutcome.HasModule (outcome : RunOutcome) (graph : SymbolGraph)
    (document : DocumentSymbols) (file : GeneratedFile) : Prop where
  result_eq : outcome.result = .ok graph
  only : ∀ other ∈ graph.documents, other.document = document.document → other = document
  emit_eq : emitDocument graph document = .ok file
  at_place : ∃ place : Nat,
    graph.documents[place]? = some document ∧ outcome.files[place]? = some file

section Runs

variable {source : PageSource} {conversion : Conversion} {conversions : List Conversion}
  {graph : SymbolGraph}

theorem ends_of_result
    (hresult : (run source conversions).result = .ok graph) :
    (∀ reading ∈ readingsFrom source {} conversions,
     ∃ symbols, reading.result = .ok symbols) ∧
      Finishes (readingsFrom source {} conversions) graph ∧
      List.Forall₂ (Attempt.Yields graph) graph.attempts
        (run source conversions).files := by
  have hends := ends_run source conversions
  revert hresult hends
  generalize run source conversions = outcome
  intro hresult hends
  cases hends with
  | documents => contradiction
  | finalize => contradiction
  | emission => contradiction
  | emitted hread hfinishes hemits =>
      obtain rfl := Except.ok.inj hresult
      cases hemits with
      | emitted hfiles => exact ⟨hread, hfinishes, hfiles⟩

theorem result_of_asRecorded
    (hrecorded : ∀ conversion ∈ conversions, conversion.AsRecorded source)
    (hread : (recordedFrom {} conversions).filterMap Reading.failure? = [])
    (hfinal : (registryAfter {} (recordedFrom {} conversions)).finalize
      ((recordedFrom {} conversions).filterMap Reading.symbols?) = .ok graph)
    (hfault : (emit graph).fault = none) :
    (run source conversions).result = .ok graph := by
  rw [← readingsFrom_of_asRecorded hrecorded] at hread hfinal
  have hemit : emit graph = { files := (emit graph).files, fault := none } := by
    rw [← hfault]
  rw [run_of_emitted hread (finishes_iff.2 hfinal) hemit]

theorem getElem?_of_attempts
    {files : List GeneratedFile} {document : DocumentSymbols} {place : Nat}
    (hfiles : List.Forall₂ (Attempt.Yields graph) graph.attempts files)
    (hplace : graph.documents[place]? = some document) :
    ∃ file, files[place]? = some file ∧ emitDocument graph document = .ok file := by
  have hlt : place < graph.documents.length := (List.getElem?_eq_some_iff.1 hplace).1
  have hattempt : graph.attempts[place]? = some (.document document) := by
    rw [SymbolGraph.attempts, List.getElem?_append_left (by simpa using hlt),
      List.getElem?_map, hplace, Option.map_some]
  obtain ⟨hattempts, hget⟩ := List.getElem?_eq_some_iff.1 hattempt
  have hlength : place < files.length := hfiles.length_eq ▸ hattempts
  have hyields := hfiles.get hattempts hlength
  rw [List.get_eq_getElem, hget] at hyields
  exact ⟨files[place], List.getElem?_eq_getElem hlength, hyields.emit_eq⟩

theorem exists_hasModule
    (hnames : (conversions.map Conversion.name).Nodup) (hmem : conversion ∈ conversions)
    (hresult : (run source conversions).result = .ok graph) :
    ∃ symbols file, BuildStep.ownAll [] (buildStepsOf conversion.script) = .ok symbols ∧
      (run source conversions).HasModule graph ⟨conversion.name, symbols⟩ file := by
  obtain ⟨hread, hfinishes, hfiles⟩ := ends_of_result hresult
  obtain ⟨symbols, hown, hsymbols⟩ := exists_symbols_of_mem hread hmem
  have hdocument : ⟨conversion.name, symbols⟩ ∈ graph.documents :=
    hfinishes.documents_perm.mem_iff.2 hsymbols
  have hnodup : (graph.documents.map DocumentSymbols.document).Nodup := by
    rw [(hfinishes.documents_perm.map DocumentSymbols.document).nodup_iff,
      names_of_readingsFrom hread]
    exact hnames
  obtain ⟨place, hplace⟩ := List.mem_iff_getElem?.1 hdocument
  obtain ⟨file, hfile, hemit⟩ := getElem?_of_attempts hfiles hplace
  refine ⟨symbols, file, hown, ?_⟩
  constructor
  · exact hresult
  · intro other hother hname
    exact List.inj_on_of_nodup_map hnodup hother hdocument hname
  · exact hemit
  · exact ⟨place, hplace, hfile⟩

end Runs

/-- A document has the same symbols and the same file in all runs that succeed: its own
script tells both, whatever other documents there are, in whatever order, and whatever they
share. -/
theorem module_determined_by_script
    {source other : PageSource} {conversions others : List Conversion}
    {conversion : Conversion} {graph graph' : SymbolGraph}
    (hnames : (conversions.map Conversion.name).Nodup)
    (hnames' : (others.map Conversion.name).Nodup)
    (hmem : conversion ∈ conversions) (hmem' : conversion ∈ others)
    (hresult : (run source conversions).result = .ok graph)
    (hresult' : (run other others).result = .ok graph') :
    ∃ symbols file, BuildStep.ownAll [] (buildStepsOf conversion.script) = .ok symbols ∧
      (run source conversions).HasModule graph ⟨conversion.name, symbols⟩ file ∧
      (run other others).HasModule graph' ⟨conversion.name, symbols⟩ file := by
  obtain ⟨symbols, file, hown, hmodule⟩ := exists_hasModule hnames hmem hresult
  obtain ⟨symbols', file', hown', hmodule'⟩ := exists_hasModule hnames' hmem' hresult'
  obtain rfl : symbols = symbols' := Except.ok.inj (hown.symm.trans hown')
  have htakes : SymbolTable.TakesFields symbols := by
    apply SymbolTable.TakesFields.ownAll _ hown
    simp [SymbolTable.TakesFields]
  have hemit : emitDocument graph ⟨conversion.name, symbols⟩ =
      emitDocument graph' ⟨conversion.name, symbols⟩ := htakes.emitDocument_eq graph graph'
  rw [hmodule.emit_eq, hmodule'.emit_eq] at hemit
  obtain rfl : file = file' := Except.ok.inj hemit
  exact ⟨symbols, file, hown, hmodule, hmodule'⟩

/-- A document with a symbol of its own, which has a field of a type that is shared. -/
def reactionRecord : Conversion where
  name := "reaction"
  url := "/reference/emoji"
  needs := []
  script :=
    [.undocumented
      [.addSharedRecord "Icon" "", .addRecord "Reaction" "",
       .addField ⟨"Reaction", .document⟩ ⟨"icon", "Icon", "", ""⟩ (.named "Icon") []]]

def reactionSymbols : SymbolTable :=
  [.record ⟨"Reaction", "", none, [{ name := "icon", type := .named "Icon" }]⟩]

/-- A schema with this document behind others, and a comment on the type that is shared. -/
def reactionGraph (others : List DocumentSymbols) (comment : String) : SymbolGraph where
  documents := others ++ [⟨"reaction", reactionSymbols⟩]
  shared := [.record ⟨"Icon", comment, none, []⟩]
  memberships := []

theorem undocumented_asRecorded
    {conversion : Conversion} {steps : List BuildStep}
    (hurl : conversion.url = "/reference/emoji")
    (hscript : conversion.script = [.undocumented steps]) :
    conversion.AsRecorded emptiedSite := by
  have hfetch : emptiedSite.fetch conversion.url = .ok emptiedHtml := by
    rw [hurl]
    rfl
  have hempty : bodyElements Markdown.read "" = .ok [] := bodyElements_empty _
  refine ⟨[], none, ⟨emptiedHtml, _, hfetch, ofHtml_emptiedHtml, hempty, rfl⟩, ?_⟩
  rw [hscript]
  constructor
  · rfl
  · simp [ScriptStep.undocumented, ScriptStep.Met]
  · exact .inl rfl

theorem result_reaction :
    (run emptiedSite [reactionRecord]).result = .ok (reactionGraph [] "") := by
  have hrecorded : ∀ conversion ∈ [reactionRecord], conversion.AsRecorded emptiedSite := by
    rw [List.forall_mem_singleton]
    exact undocumented_asRecorded rfl rfl
  apply result_of_asRecorded hrecorded
  · rfl
  · decide +kernel
  · decide +kernel

theorem result_icon_reaction :
    (run emptiedSite [iconRecord, reactionRecord]).result =
      .ok (reactionGraph [⟨"icon", []⟩] "An icon.") := by
  have hrecorded :
      ∀ conversion ∈ [iconRecord, reactionRecord], conversion.AsRecorded emptiedSite := by
    rw [List.forall_mem_cons, List.forall_mem_singleton]
    exact ⟨undocumented_asRecorded rfl rfl, undocumented_asRecorded rfl rfl⟩
  have hsorted :
      sortByText DocumentSymbols.document [⟨"icon", []⟩, ⟨"reaction", reactionSymbols⟩] =
        [⟨"icon", []⟩, ⟨"reaction", reactionSymbols⟩] := by
    apply List.mergeSort_of_pairwise
    decide +kernel
  have hdocuments :
      (recordedFrom {} [iconRecord, reactionRecord]).filterMap Reading.symbols? =
        [⟨"icon", []⟩, ⟨"reaction", reactionSymbols⟩] := rfl
  apply result_of_asRecorded hrecorded
  · rfl
  · rw [hdocuments, Registry.finalize, hsorted]
    decide +kernel
  · decide +kernel

theorem module_determined_by_script_reaction :
    ([reactionRecord].map Conversion.name).Nodup ∧
      ([iconRecord, reactionRecord].map Conversion.name).Nodup ∧
      (run emptiedSite [reactionRecord]).result = .ok (reactionGraph [] "") ∧
      (run emptiedSite [iconRecord, reactionRecord]).result =
        .ok (reactionGraph [⟨"icon", []⟩] "An icon.") ∧
      ∃ file,
        (run emptiedSite [reactionRecord]).HasModule (reactionGraph [] "")
            ⟨"reaction", reactionSymbols⟩ file ∧
          (run emptiedSite [iconRecord, reactionRecord]).HasModule
            (reactionGraph [⟨"icon", []⟩] "An icon.")
              ⟨"reaction", reactionSymbols⟩ file := by
  have hnames : ([reactionRecord].map Conversion.name).Nodup := by decide
  have hnames' : ([iconRecord, reactionRecord].map Conversion.name).Nodup := by decide
  obtain ⟨symbols, file, hown, hmodule, hmodule'⟩ :=
    module_determined_by_script hnames hnames' (List.mem_singleton_self _) (by simp)
      result_reaction result_icon_reaction
  have hbuilt : BuildStep.ownAll [] (buildStepsOf reactionRecord.script) =
      .ok reactionSymbols := rfl
  obtain rfl : symbols = reactionSymbols := Except.ok.inj (hown.symm.trans hbuilt)
  exact ⟨hnames, hnames', result_reaction, result_icon_reaction, file, hmodule, hmodule'⟩

end DocContract
