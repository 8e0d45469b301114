import DocContract.Proofs.ComparisonVerdict
import DocContract.Proofs.DocumentIsolation
import DocContract.Proofs.SchemaValidation

/-!
# Outcomes of a run

A document ends at the first stage that fails it: its page is fetched, the payload is
found, the body is read, the script meets the page, nothing of the page is left over, and
the schema is built.  A run that has read every document and finished the schema emits one
file after the other, and keeps those that it has emitted when it stops; a run that stops
before has emitted nothing.
-/

namespace DocContract

open DocContract.Code (EmitError fieldIdent)

def ScriptStep.built (step : ScriptStep) : List BuildStep :=
  match step.action with
  | some action => action step.expectation
  | none => []

def buildStepsOf (script : List ScriptStep) : List BuildStep :=
  script.flatMap ScriptStep.built

/-- The page begins with what a script expects of it. -/
structure ExpectationsMet (live : List Element) (endpoint : Option Endpoint)
    (script : List ScriptStep) : Prop where
  found : expectedElements script <+: live
  met : ∀ step ∈ script, step.Met endpoint

/-- The page of a conversion has been served and read. -/
def Conversion.Opens (source : PageSource) (conversion : Conversion)
    (live : List Element) (endpoint : Option Endpoint) : Prop :=
  ∃ html page, source.fetch conversion.url = .ok html ∧
    Page.ofHtml html source.payloadAttribute = .ok page ∧
    bodyElements source.blocks page.body = .ok live ∧ page.endpoint = endpoint

/-- How a document ends, and what it leaves in the registry. -/
inductive Conversion.Ends (source : PageSource) (conversion : Conversion)
    (found : Registry) :
    Except DocumentError DocumentSymbols → Registry → Prop where
  | fetch {fault : FetchError}
      (hfetch : source.fetch conversion.url = .error fault) :
      Ends source conversion found (.error (.fetch fault)) found
  | payload {html : String} {fault : GrammarError}
      (hfetch : source.fetch conversion.url = .ok html)
      (hpage : Page.ofHtml html source.payloadAttribute = .error fault) :
      Ends source conversion found (.error (.grammar fault)) found
  | tokens {html : String} {page : Page} {fault : GrammarError}
      (hfetch : source.fetch conversion.url = .ok html)
      (hpage : Page.ofHtml html source.payloadAttribute = .ok page)
      (htokens : bodyElements source.blocks page.body = .error fault) :
      Ends source conversion found (.error (.grammar fault)) found
  | expectations {live : List Element} {endpoint : Option Endpoint} {position : Nat}
      {kind : DriftKind}
      (hopens : conversion.Opens source live endpoint)
      (hunmet : ¬ ExpectationsMet live endpoint conversion.script)
      (hdrifts : DriftsAt live endpoint conversion.script position kind) :
      Ends source conversion found
        (.error (.drift ⟨conversion.name, position, kind⟩)) found
  | leftovers {live : List Element} {endpoint : Option Endpoint} {position : Nat}
      {kind : DriftKind}
      (hopens : conversion.Opens source live endpoint)
      (hmet : ExpectationsMet live endpoint conversion.script)
      (hdrifts : DriftsAt live endpoint conversion.script position kind) :
      Ends source conversion found
        (.error (.drift ⟨conversion.name, position, kind⟩)) found
  | building {live : List Element} {endpoint : Option Endpoint} {fault : SchemaError}
      {state : BuildState}
      (hopens : conversion.Opens source live endpoint)
      (hfaithful : Faithful live endpoint conversion.script)
      (hbuild : runSteps conversion.name { registry := found, symbols := [] }
        (buildStepsOf conversion.script) = (.error fault, state)) :
      Ends source conversion found (.error (.schema fault)) state.registry
  | built {live : List Element} {endpoint : Option Endpoint} {state : BuildState}
      (hopens : conversion.Opens source live endpoint)
      (hfaithful : Faithful live endpoint conversion.script)
      (hbuild : runSteps conversion.name { registry := found, symbols := [] }
        (buildStepsOf conversion.script) = (.ok (), state)) :
      Ends source conversion found (.ok ⟨conversion.name, state.symbols⟩) state.registry

theorem runSteps_append
    (document : String) (state : BuildState) (steps later : List BuildStep) :
    runSteps document state (steps ++ later) =
      match runSteps document state steps with
      | (.ok (), after) => runSteps document after later
      | (.error fault, after) => (.error fault, after) := by
  induction steps generalizing state with
  | nil => rfl
  | cons step steps ih =>
      simp only [List.cons_append, runSteps]
      rcases step.run document state with ⟨_ | _, after⟩
      · rfl
      · exact ih after

/-- What calls queue that are met. -/
def actionsOf {σ : Type} (calls : List (Call σ)) : List (SessionAction σ) :=
  calls.filterMap Call.queued?

/-- What a script queues builds its steps one after the other. -/
theorem runQueued_actionsOf
    (document : String) (state : BuildState) (script : List ScriptStep) :
    Comparator.runQueued state (actionsOf (script.map (ScriptStep.call document))) =
      runSteps document state (buildStepsOf script) := by
  induction script generalizing state with
  | nil => rfl
  | cons step script ih =>
      obtain ⟨expectation, action⟩ := step
      rw [buildStepsOf, List.flatMap_cons, ← buildStepsOf, runSteps_append, List.map_cons]
      cases action with
      | none => exact ih state
      | some build =>
          have hqueued : ∀ later, actionsOf
            (ScriptStep.call document ⟨expectation, some build⟩ ::
              later) = (runSteps document · (build expectation)) ::
              actionsOf later := fun _ => rfl
          rw [hqueued, Comparator.runQueued, ScriptStep.built]
          simp only
          rcases runSteps document state (build expectation) with ⟨_ | _, next⟩
          · rfl
          · exact ih next

theorem Comparator.kept_consume
    {σ : Type} (comparison : Comparator σ) (expected : Element) :
    (comparison.consume expected).2.document = comparison.document ∧
      (comparison.consume expected).2.queued = comparison.queued := by
  unfold consume
  split
  · split
    · exact ⟨rfl, rfl⟩
    · exact ⟨rfl, rfl⟩
  · exact ⟨rfl, rfl⟩

theorem Comparator.kept_expectEndpoint
    {σ : Type} (comparison : Comparator σ) (expected : Endpoint) :
    (comparison.expectEndpoint expected).2.document = comparison.document ∧
      (comparison.expectEndpoint expected).2.queued = comparison.queued := by
  unfold expectEndpoint
  split
  · exact ⟨rfl, rfl⟩
  · split
    · split
      · exact ⟨rfl, rfl⟩
      · exact ⟨rfl, rfl⟩
    · exact ⟨rfl, rfl⟩

theorem Comparator.kept_expect
    {σ : Type} (comparison : Comparator σ) (expectation : Expectation) :
    (comparison.expect expectation).2.document = comparison.document ∧
      (comparison.expect expectation).2.queued = comparison.queued := by
  cases expectation with
  | block b => exact comparison.kept_consume _
  | parameter p => exact comparison.kept_consume _
  | endpoint e => exact comparison.kept_expectEndpoint e
  | undocumented => exact ⟨rfl, rfl⟩

theorem Comparison.queued_take
    {comparison after : Comparison} {step : ScriptStep}
    (htake : comparison.take step = (.ok (), after)) :
    after.document = comparison.document ∧
      after.queued = comparison.queued ++
        (step.call comparison.document).queued?.toList := by
  have hkept := comparison.kept_expect step.expectation
  rcases hexpect : comparison.expect step.expectation with ⟨drift | ⟨⟩, next⟩
  · rw [take, Comparator.answer_of_drift hexpect] at htake
    simp at htake
  · rw [hexpect] at hkept
    rw [take, Comparator.answer_of_met hexpect] at htake
    obtain rfl := (Prod.mk.inj htake).2
    exact ⟨hkept.1, congrArg (· ++ _) hkept.2⟩

/-- A script that is followed has queued what its steps build. -/
theorem Comparison.queued_follow
    {comparison after : Comparison} {script : List ScriptStep}
    (hfollow : comparison.follow script = .ok after) :
    after.queued =
      comparison.queued ++
        actionsOf (script.map (ScriptStep.call comparison.document)) := by
  induction script generalizing comparison with
  | nil =>
      obtain rfl := Except.ok.inj hfollow
      simp [actionsOf]
  | cons step script ih =>
      rw [follow] at hfollow
      split at hfollow
      · next next hnext =>
        obtain ⟨hdocument, hqueued⟩ := queued_take hnext
        rw [ih hfollow, hqueued, hdocument, List.append_assoc]
        cases hstep : (step.call comparison.document).queued? <;> simp [actionsOf, hstep]
      · contradiction

section Stages

variable {source : PageSource} {conversion : Conversion} {found : Registry}
  {live : List Element} {endpoint : Option Endpoint}

theorem Conversion.open_eq_ok_iff {comparison : Comparison} :
    conversion.open source = .ok comparison ↔
      ∃ live endpoint, conversion.Opens source live endpoint ∧
        comparison = { document := conversion.name, elements := live, endpoint } := by
  constructor
  · intro hopen
    unfold Conversion.open at hopen
    split at hopen
    · contradiction
    · next html hfetch =>
      split at hopen
      · contradiction
      · next page hpage =>
        split at hopen
        · contradiction
        · next elements htokens =>
          exact ⟨elements, page.endpoint, ⟨html, page, hfetch, hpage, htokens, rfl⟩,
            (Except.ok.inj hopen).symm⟩
  · rintro ⟨live, endpoint, ⟨html, page, hfetch, hpage, htokens, rfl⟩, rfl⟩
    simp only [Conversion.open, hfetch, hpage, htokens]

/-- Whatever a page and a script are, the page is as recorded and the schema is built, or
the drift of the page is reported and nothing is built. -/
theorem Conversion.run_of_opens (hopens : conversion.Opens source live endpoint) :
    conversion.run source found =
      match reportedDrift conversion.name live endpoint conversion.script ⟨found, []⟩ with
      | some drift => (.error (.drift drift), found)
      | none =>
        match runSteps conversion.name ⟨found, []⟩ (buildStepsOf conversion.script) with
        | (.ok (), state) => (.ok ⟨conversion.name, state.symbols⟩, state.registry)
        | (.error fault, state) => (.error (.schema fault), state.registry) := by
  have hopen := open_eq_ok_iff.2 ⟨live, endpoint, hopens, rfl⟩
  rw [Conversion.run, hopen]
  simp only
  cases hfollow : Comparison.follow
    { document := conversion.name, elements := live, endpoint }
    conversion.script with
  | error drift => simp only [reportedDrift, hfollow]
  | ok followed =>
      -- What is queued by now is what the whole script builds, and nothing has been built
      -- yet.
      have hqueued := Comparison.queued_follow hfollow
      rw [reportedDrift_of_follow hfollow]
      simp only [Comparator.finish]
      cases followed.leftover? with
      | some drift => rfl
      | none =>
          simp only [hqueued, List.nil_append, runQueued_actionsOf]
          rcases runSteps conversion.name ⟨found, []⟩ (buildStepsOf conversion.script) with
            ⟨_ | _, state⟩
          · rfl
          · rfl

theorem Conversion.ends_of_opens (hopens : conversion.Opens source live endpoint) :
    conversion.Ends source found (conversion.run source found).1
      (conversion.run source found).2 := by
  have hsound :=
    reportedDrift_sound conversion.name live endpoint conversion.script ⟨found, []⟩
  rw [run_of_opens hopens]
  cases hdrift : reportedDrift conversion.name live endpoint conversion.script
    ⟨found, []⟩ with
  | some drift =>
      rw [hdrift] at hsound
      obtain ⟨document, position, kind⟩ := drift
      obtain ⟨rfl, hdrifts⟩ := hsound
      by_cases hmet : ExpectationsMet live endpoint conversion.script
      · exact .leftovers hopens hmet hdrifts
      · exact .expectations hopens hmet hdrifts
  | none =>
      rw [hdrift] at hsound
      simp only
      split
      · next state hbuild => exact .built hopens hsound hbuild
      · next fault state hbuild => exact .building hopens hsound hbuild

theorem Conversion.ends_run (source : PageSource) (conversion : Conversion)
    (found : Registry) :
    conversion.Ends source found (conversion.run source found).1
      (conversion.run source found).2 := by
  cases hfetch : source.fetch conversion.url with
  | error fault =>
      simpa only [Conversion.run, Conversion.open, hfetch] using Ends.fetch hfetch
  | ok html =>
      cases hpage : Page.ofHtml html source.payloadAttribute with
      | error fault =>
          simpa only [Conversion.run, Conversion.open, hfetch, hpage] using
            Ends.payload hfetch hpage
      | ok page =>
          cases htokens : bodyElements source.blocks page.body with
          | error fault =>
              simpa only [Conversion.run, Conversion.open, hfetch, hpage, htokens] using
                Ends.tokens hfetch hpage htokens
          | ok live => exact ends_of_opens ⟨html, page, hfetch, hpage, htokens, rfl⟩

theorem Conversion.run_eq_of_ends
    {result : Except DocumentError DocumentSymbols} {left : Registry}
    (hends : conversion.Ends source found result left) :
    conversion.run source found = (result, left) := by
  cases hends with
  | fetch hfetch => simp only [Conversion.run, Conversion.open, hfetch]
  | payload hfetch hpage => simp only [Conversion.run, Conversion.open, hfetch, hpage]
  | tokens hfetch hpage htokens =>
      simp only [Conversion.run, Conversion.open, hfetch, hpage, htokens]
  | expectations hopens hunmet hdrifts =>
      rw [run_of_opens hopens, reportedDrift_of_driftsAt hdrifts]
  | leftovers hopens hmet hdrifts =>
      rw [run_of_opens hopens, reportedDrift_of_driftsAt hdrifts]
  | building hopens hfaithful hbuild =>
      rw [run_of_opens hopens, reportedDrift_of_faithful hfaithful]
      simp only [hbuild]
  | built hopens hfaithful hbuild =>
      rw [run_of_opens hopens, reportedDrift_of_faithful hfaithful]
      simp only [hbuild]

theorem Conversion.run_eq_iff
    {result : Except DocumentError DocumentSymbols} {left : Registry} :
    conversion.run source found = (result, left) ↔
      conversion.Ends source found result left := by
  constructor
  · intro hrun
    have hends := ends_run source conversion found
    rwa [hrun] at hends
  · exact run_eq_of_ends

end Stages

/-! ## What is read -/

/-- The documents of a run are read one after the other, each from the registry that those
before it have left. -/
inductive Reads (source : PageSource) :
    Registry → List Conversion → List Reading → Prop where
  | nil {found : Registry} : Reads source found [] []
  | cons {found left : Registry} {conversion : Conversion}
      {result : Except DocumentError DocumentSymbols} {later : List Conversion}
      {readings : List Reading}
      (hends : conversion.Ends source found result left)
      (hlater : Reads source left later readings) :
      Reads source found (conversion :: later)
        (⟨conversion, found, result, left⟩ :: readings)

theorem reads_iff
    {source : PageSource} {found : Registry} {conversions : List Conversion}
    {readings : List Reading} :
    Reads source found conversions readings ↔
      readingsFrom source found conversions = readings := by
  constructor
  · intro hreads
    induction hreads with
    | nil => rfl
    | cons hends hlater ih => rw [readingsFrom_cons, Conversion.run_eq_of_ends hends, ih]
  · rintro rfl
    induction conversions generalizing found with
    | nil => exact .nil
    | cons conversion later ih =>
        rw [readingsFrom_cons]
        exact .cons (Conversion.ends_run source conversion found) ih

/-- One of the files that a run emits. -/
inductive Attempt where
  | document (document : DocumentSymbols)
  /-- The shared scope. -/
  | shared
  /-- The list of modules. -/
  | modules

namespace Attempt

def emit (graph : SymbolGraph) : Attempt → Except EmitError GeneratedFile
  | document d => emitDocument graph d
  | shared => emitShared graph
  | modules => emitModules graph

/-- The file of a document is named for it, and the others have names of their own. -/
def HasPath : Attempt → String → Prop
  | document d, path =>
    ∃ ident, fieldIdent d.document = .ok ident ∧
      path = String.ofList ident.written ++ ".rs"
  | shared, path => path = "global.rs"
  | modules, path => path = "mod.rs"

/-- A file is emitted, under its path. -/
structure Yields (graph : SymbolGraph) (attempt : Attempt) (file : GeneratedFile) :
    Prop where
  emit_eq : attempt.emit graph = .ok file
  path : attempt.HasPath file.path

theorem hasPath_of_emit
    {graph : SymbolGraph} {attempt : Attempt} {file : GeneratedFile}
    (hemit : attempt.emit graph = .ok file) : attempt.HasPath file.path := by
  cases attempt with
  | document d =>
      obtain ⟨module, hmodule, rfl⟩ := (map_eq_ok_iff _ _ _).1 hemit
      obtain ⟨ident, hident, hrest⟩ := exists_of_bind_eq_ok hmodule
      obtain ⟨items, -, hitems⟩ := exists_of_bind_eq_ok hrest
      obtain rfl := Except.ok.inj hitems
      exact ⟨ident, hident, rfl⟩
  | shared =>
      obtain ⟨module, hmodule, rfl⟩ := (map_eq_ok_iff _ _ _).1 hemit
      obtain ⟨items, -, hitems⟩ := exists_of_bind_eq_ok hmodule
      obtain rfl := Except.ok.inj hitems
      rfl
  | modules =>
      obtain ⟨modules, -, rfl⟩ := (map_eq_ok_iff _ _ _).1 hemit
      rfl

theorem yields_iff {graph : SymbolGraph} {attempt : Attempt} {file : GeneratedFile} :
    attempt.Yields graph file ↔ attempt.emit graph = .ok file := by
  constructor
  · exact Yields.emit_eq
  · exact fun hemit => ⟨hemit, hasPath_of_emit hemit⟩

end Attempt

/-- The files of a schema in the order in which they are emitted. -/
def SymbolGraph.attempts (graph : SymbolGraph) : List Attempt :=
  graph.documents.map .document ++ [.shared, .modules]

/-- How an emission ends: all files are emitted, or those before the first that cannot
be. -/
inductive Emission.Ends (graph : SymbolGraph) (attempts : List Attempt) :
    Emission → Prop where
  | emitted {files : List GeneratedFile}
      (hfiles : List.Forall₂ (Attempt.Yields graph) attempts files) :
      Ends graph attempts { files, fault := none }
  | stopped {before after : List Attempt} {failed : Attempt} {files : List GeneratedFile}
      {fault : EmitError}
      (hattempts : attempts = before ++ failed :: after)
      (hfiles : List.Forall₂ (Attempt.Yields graph) before files)
      (hfails : failed.emit graph = .error fault) :
      Ends graph attempts { files, fault := some fault }

theorem Emission.ofSteps_append
    (files : List GeneratedFile) (steps : List (Except EmitError GeneratedFile)) :
    ofSteps (files.map .ok ++ steps) =
      { ofSteps steps with files := files ++ (ofSteps steps).files } := by
  induction files with
  | nil => rfl
  | cons file files ih =>
      rw [List.map_cons, List.cons_append, ofSteps, ih]
      rfl

theorem Emission.ends_cons
    {graph : SymbolGraph} {attempt : Attempt} {attempts : List Attempt}
    {file : GeneratedFile} {emission : Emission} (hyields : attempt.Yields graph file)
    (hends : emission.Ends graph attempts) :
    Ends graph (attempt :: attempts)
      { emission with files := file :: emission.files } := by
  cases hends with
  | emitted hfiles => exact .emitted (.cons hyields hfiles)
  | stopped hattempts hfiles hfails =>
      exact .stopped (congrArg (attempt :: ·) hattempts) (.cons hyields hfiles) hfails

theorem Emission.ends_ofSteps (graph : SymbolGraph) (attempts : List Attempt) :
    (ofSteps (attempts.map (Attempt.emit graph))).Ends graph attempts := by
  induction attempts with
  | nil => exact .emitted .nil
  | cons attempt attempts ih =>
      rw [List.map_cons]
      cases hemit : attempt.emit graph with
      | error fault => exact .stopped (List.nil_append _).symm .nil hemit
      | ok file => exact ends_cons (Attempt.yields_iff.2 hemit) ih

theorem Attempt.map_emit_of_yields
    {graph : SymbolGraph} {attempts : List Attempt} {files : List GeneratedFile}
    (hfiles : List.Forall₂ (Yields graph) attempts files) :
    attempts.map (emit graph) = files.map .ok := by
  induction hfiles with
  | nil => rfl
  | cons hyields hfiles ih => rw [List.map_cons, List.map_cons, hyields.emit_eq, ih]

theorem Emission.ofSteps_eq_of_ends
    {graph : SymbolGraph} {attempts : List Attempt} {emission : Emission}
    (hends : emission.Ends graph attempts) :
    ofSteps (attempts.map (Attempt.emit graph)) = emission := by
  cases hends with
  | @emitted files hfiles =>
      have hok := ofSteps_append files []
      rw [List.append_nil] at hok
      rw [Attempt.map_emit_of_yields hfiles, hok]
      simp [ofSteps]
  | stopped hattempts hfiles hfails =>
      rw [hattempts, List.map_append, Attempt.map_emit_of_yields hfiles,
        List.map_cons, hfails, ofSteps_append]
      simp [ofSteps]

theorem Emission.ofSteps_eq_iff
    {graph : SymbolGraph} {attempts : List Attempt} {emission : Emission} :
    ofSteps (attempts.map (Attempt.emit graph)) = emission ↔
      emission.Ends graph attempts := by
  constructor
  · rintro rfl
    exact ends_ofSteps graph attempts
  · exact ofSteps_eq_of_ends

theorem emit_eq_iff {graph : SymbolGraph} {emission : Emission} :
    emit graph = emission ↔ emission.Ends graph graph.attempts := by
  have hattempts : graph.attempts.map (Attempt.emit graph) =
      graph.documents.map (emitDocument graph) ++
        [emitShared graph, emitModules graph] := by
    rw [SymbolGraph.attempts, List.map_append, List.map_map]
    rfl
  rw [emit, ← hattempts, Emission.ofSteps_eq_iff]

theorem exists_moduleIdents
    {names : List String} (hnames : ∀ name ∈ names, ∃ ident, fieldIdent name = .ok ident) :
    ∃ idents, moduleIdents names = .ok idents := by
  induction names with
  | nil => exact ⟨[], rfl⟩
  | cons name names ih =>
      rw [List.forall_mem_cons] at hnames
      obtain ⟨ident, hident⟩ := hnames.1
      obtain ⟨idents, hidents⟩ := ih hnames.2
      refine ⟨ident :: idents, ?_⟩
      rw [moduleIdents, hident, hidents]
      rfl

/-- The list of modules can be emitted once the documents are, so it is not where a run
stops. -/
theorem emitModules_of_documents
    {graph : SymbolGraph}
    (hdocuments : ∀ document ∈ graph.documents,
      ∃ file, emitDocument graph document = .ok file) :
    ∃ file, emitModules graph = .ok file := by
  obtain ⟨idents, hidents⟩ : ∃ idents, moduleIdents (graph.documents.map (·.document)) =
      .ok idents := by
    apply exists_moduleIdents
    simp only [List.forall_mem_map]
    intro document hdocument
    obtain ⟨file, hfile⟩ := hdocuments document hdocument
    have hpath : (Attempt.document document).HasPath file.path :=
      Attempt.hasPath_of_emit hfile
    obtain ⟨ident, hident, -⟩ := hpath
    exact ⟨ident, hident⟩
  refine ⟨modulesFile (sharedIdent :: idents), ?_⟩
  rw [emitModules, declaredModules, hidents]
  rfl

/-! ## What a run comes to -/

/-- A schema holds the documents that have been read, in the order of their names. -/
structure Finishes (readings : List Reading) (graph : SymbolGraph) : Prop where
  finalize_eq : (registryAfter {} readings).finalize
    (readings.filterMap Reading.symbols?) = .ok graph
  documents_perm : graph.documents.Perm (readings.filterMap Reading.symbols?)
  documents_sorted : graph.documents.Pairwise fun a b => a.document ≤ b.document

theorem finishes_iff {readings : List Reading} {graph : SymbolGraph} :
    Finishes readings graph ↔
      (registryAfter {} readings).finalize (readings.filterMap Reading.symbols?) =
        .ok graph := by
  constructor
  · exact Finishes.finalize_eq
  · intro hfinal
    have hgraph := Registry.eq_of_finalize_eq_ok hfinal
    constructor
    · exact hfinal
    · rw [hgraph]
      exact sortByText_perm _ _
    · rw [hgraph]
      exact sortByText_sorted _ _

/-- How a run ends: with the failures of all documents that failed, or with what is wrong
with the schema, or with what could not be emitted, or with the schema.  Files are left in
the last two cases only. -/
inductive RunOutcome.Ends (readings : List Reading) : RunOutcome → Prop where
  | documents
      (hfailed : ∃ reading ∈ readings, ∃ error, reading.result = .error error) :
      Ends readings
        { result := .error (.documents (readings.filterMap Reading.failure?)),
          files := [] }
  | finalize {fault : SchemaError}
      (hread : ∀ reading ∈ readings, ∃ symbols, reading.result = .ok symbols)
      (hfault : (registryAfter {} readings).finalize
        (readings.filterMap Reading.symbols?) =
        .error fault) :
      Ends readings { result := .error (.finalize fault), files := [] }
  | emission {graph : SymbolGraph} {files : List GeneratedFile} {fault : EmitError}
      (hread : ∀ reading ∈ readings, ∃ symbols, reading.result = .ok symbols)
      (hfinishes : Finishes readings graph)
      (hstops : Emission.Ends graph graph.attempts { files, fault := some fault }) :
      Ends readings { result := .error (.emit fault), files }
  | emitted {graph : SymbolGraph} {files : List GeneratedFile}
      (hread : ∀ reading ∈ readings, ∃ symbols, reading.result = .ok symbols)
      (hfinishes : Finishes readings graph)
      (hemits : Emission.Ends graph graph.attempts { files, fault := none }) :
      Ends readings { result := .ok graph, files }

theorem failures_eq_nil_iff (readings : List Reading) :
    readings.filterMap Reading.failure? = [] ↔
      ∀ reading ∈ readings, ∃ symbols, reading.result = .ok symbols := by
  rw [List.filterMap_eq_nil_iff]
  refine forall₂_congr fun reading hreading => ?_
  cases hresult : reading.result <;> simp [Reading.failure?, hresult]

section Runs

variable {source : PageSource} {conversions : List Conversion}

theorem run_of_failures
    (hfailed : (readingsFrom source {} conversions).filterMap Reading.failure? ≠ []) :
    run source conversions =
      { result := .error (.documents ((readingsFrom source {} conversions).filterMap
          Reading.failure?))
        files := [] } := by
  have hfailures : (readDocuments source conversions).failures ≠ [] := by
    rwa [readDocuments_eq]
  rw [run_eq_runWith, runWith_of_failures emit hfailures, readDocuments_eq]

section Read

variable (hread : (readingsFrom source {} conversions).filterMap Reading.failure? = [])
include hread

theorem run_of_fault
    {fault : SchemaError}
    (hfault : (registryAfter {} (readingsFrom source {} conversions)).finalize
      ((readingsFrom source {} conversions).filterMap Reading.symbols?) = .error fault) :
    run source conversions = { result := .error (.finalize fault), files := [] } := by
  simp only [run, readDocuments_eq, hread, hfault]

theorem run_of_stopped
    {graph : SymbolGraph} {files : List GeneratedFile} {fault : EmitError}
    (hfinishes : Finishes (readingsFrom source {} conversions) graph)
    (hemit : emit graph = { files, fault := some fault }) :
    run source conversions = { result := .error (.emit fault), files } := by
  simp only [run, readDocuments_eq, hread, hfinishes.finalize_eq, hemit]

theorem run_of_emitted
    {graph : SymbolGraph} {files : List GeneratedFile}
    (hfinishes : Finishes (readingsFrom source {} conversions) graph)
    (hemit : emit graph = { files, fault := none }) :
    run source conversions = { result := .ok graph, files } := by
  simp only [run, readDocuments_eq, hread, hfinishes.finalize_eq, hemit]

end Read

theorem ends_run (source : PageSource) (conversions : List Conversion) :
    (run source conversions).Ends (readingsFrom source {} conversions) := by
  by_cases hread : (readingsFrom source {} conversions).filterMap Reading.failure? = []
  · have hall := (failures_eq_nil_iff _).1 hread
    cases hfinal : (registryAfter {} (readingsFrom source {} conversions)).finalize
        ((readingsFrom source {} conversions).filterMap Reading.symbols?) with
    | error fault =>
        rw [run_of_fault hread hfinal]
        exact .finalize hall hfinal
    | ok graph =>
        have hfinishes := finishes_iff.2 hfinal
        rcases hemit : emit graph with ⟨files, _ | fault⟩
        · rw [run_of_emitted hread hfinishes hemit]
          exact .emitted hall hfinishes (emit_eq_iff.1 hemit)
        · rw [run_of_stopped hread hfinishes hemit]
          exact .emission hall hfinishes (emit_eq_iff.1 hemit)
  · rw [run_of_failures hread]
    apply RunOutcome.Ends.documents
    rw [failures_eq_nil_iff] at hread
    push Not at hread
    obtain ⟨reading, hreading, hnone⟩ := hread
    refine ⟨reading, hreading, ?_⟩
    cases hresult : reading.result with
    | ok symbols => exact absurd hresult (hnone symbols)
    | error error => exact ⟨error, rfl⟩

theorem run_eq_of_ends
    {outcome : RunOutcome} (hends : outcome.Ends (readingsFrom source {} conversions)) :
    run source conversions = outcome := by
  cases hends with
  | documents hfailed =>
      apply run_of_failures
      rw [Ne, failures_eq_nil_iff]
      intro hread
      obtain ⟨reading, hreading, error, herror⟩ := hfailed
      obtain ⟨symbols, hsymbols⟩ := hread reading hreading
      rw [herror] at hsymbols
      contradiction
  | finalize hread hfault => exact run_of_fault ((failures_eq_nil_iff _).2 hread) hfault
  | emission hread hfinishes hstops =>
      have hread := (failures_eq_nil_iff _).2 hread
      exact run_of_stopped hread hfinishes (emit_eq_iff.2 hstops)
  | emitted hread hfinishes hemits =>
      have hread := (failures_eq_nil_iff _).2 hread
      exact run_of_emitted hread hfinishes (emit_eq_iff.2 hemits)

end Runs

/-- A run comes to just what its readings come to.  If documents failed it tells which and
why, each once and in order, and emits nothing; it emits nothing either if the schema is
not consistent; and otherwise it emits the documents by name, the shared scope and the list
of modules, or as many of these files as there are before the first that cannot be
emitted. -/
theorem run_all_or_nothing
    (source : PageSource) (conversions : List Conversion) (outcome : RunOutcome) :
    run source conversions = outcome ↔
      ∃ readings, Reads source {} conversions readings ∧ outcome.Ends readings := by
  constructor
  · rintro rfl
    exact ⟨_, reads_iff.2 rfl, ends_run source conversions⟩
  · rintro ⟨readings, hreads, hends⟩
    obtain rfl := reads_iff.1 hreads
    exact run_eq_of_ends hends

end DocContract
