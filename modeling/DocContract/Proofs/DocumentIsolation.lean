import DocContract.Run

/-!
# Isolation of documents

A document builds when its whole page was as expected, and not before.  One that fails
earlier leaves the registry as it was, whatever that was; so the other documents of a run
read, build and fail as they do without it, and the run fails with one failure more, at its
place among theirs.
-/

namespace DocContract

/-- An error that is met before a document builds anything. -/
def DocumentError.PrecedesBuilding : DocumentError → Prop
  | fetch _ => True
  | grammar _ => True
  | drift _ => True
  | schema _ => False

/-- What became of a document in a run: what it found in the registry, what it came to, and
what it left. -/
structure Reading where
  conversion : Conversion
  found : Registry
  result : Except DocumentError DocumentSymbols
  left : Registry

def readingsFrom (source : PageSource) : Registry → List Conversion → List Reading
  | _, [] => []
  | found, conversion :: later =>
    let outcome := conversion.run source found
    { conversion, found, result := outcome.1, left := outcome.2 } ::
      readingsFrom source outcome.2 later

def Reading.failure? (reading : Reading) : Option Failure :=
  match reading.result with
  | .ok _ => none
  | .error error => some { document := reading.conversion.name, error }

def Reading.symbols? (reading : Reading) : Option DocumentSymbols :=
  match reading.result with
  | .ok symbols => some symbols
  | .error _ => none

def registryAfter (start : Registry) (readings : List Reading) : Registry :=
  readings.foldl (fun _ reading => reading.left) start

/-- A run that emits by an emitter of its own. -/
def runWith (emitter : SymbolGraph → Emission) (source : PageSource)
    (conversions : List Conversion) : RunOutcome :=
  let readings := readDocuments source conversions
  match readings.failures with
  | [] =>
    match readings.registry.finalize readings.documents with
    | .error fault => { result := .error (.finalize fault), files := [] }
    | .ok graph =>
      match (emitter graph).fault with
      | some fault => { result := .error (.emit fault), files := (emitter graph).files }
      | none => { result := .ok graph, files := (emitter graph).files }
  | failures => { result := .error (.documents failures), files := [] }

theorem run_eq_runWith (source : PageSource) (conversions : List Conversion) :
    run source conversions = runWith emit source conversions := rfl

/-- Nothing is built before drift is ruled out. -/
theorem Comparator.finish_of_precedesBuilding
    {σ : Type} {comparison : Comparator σ} {session : σ} {error : DocumentError}
    (hfails : (comparison.finish session).1 = .error error)
    (hearly : error.PrecedesBuilding)
    (other : σ) : comparison.finish other = (.error error, other) := by
  unfold finish at hfails ⊢
  cases hleftover : comparison.leftover? with
  | some drift =>
      rw [hleftover] at hfails
      obtain rfl : .drift drift = error := Except.error.inj hfails
      rfl
  | none =>
      rw [hleftover] at hfails
      simp only at hfails
      split at hfails
      · contradiction
      · next fault after hqueued =>
        obtain rfl : .schema fault = error := Except.error.inj hfails
        exact hearly.elim

/-- A document that fails before it builds does so whatever the registry is, and leaves it
so. -/
theorem Conversion.run_of_precedesBuilding
    {conversion : Conversion} {source : PageSource} {registry : Registry}
    {error : DocumentError}
    (hfails : (conversion.run source registry).1 = .error error)
    (hearly : error.PrecedesBuilding)
    (other : Registry) : conversion.run source other = (.error error, other) := by
  unfold Conversion.run at hfails ⊢
  cases hopen : conversion.open source with
  | error fault =>
      rw [hopen] at hfails
      obtain rfl : fault = error := Except.error.inj hfails
      rfl
  | ok comparison =>
      rw [hopen] at hfails
      simp only at hfails ⊢
      cases hfollow : comparison.follow conversion.script with
      | error drift =>
          rw [hfollow] at hfails
          obtain rfl : .drift drift = error := Except.error.inj hfails
          rfl
      | ok followed =>
          rw [hfollow] at hfails
          simp only at hfails ⊢
          have hfinish : (followed.finish { registry, symbols := [] }).1 =
              .error error := by
            revert hfails
            cases followed.finish { registry, symbols := [] } with
            | mk outcome after => cases outcome <;> simp
          rw [Comparator.finish_of_precedesBuilding hfinish hearly]

section Readings

variable {source : PageSource}

theorem readingsFrom_cons (found : Registry) (conversion : Conversion)
    (later : List Conversion) :
    readingsFrom source found (conversion :: later) =
      { conversion
        found
        result := (conversion.run source found).1
        left := (conversion.run source found).2 } ::
          readingsFrom source (conversion.run source found).2 later := rfl

theorem readingsFrom_append (found : Registry) (before after : List Conversion) :
    readingsFrom source found (before ++ after) =
      readingsFrom source found before ++
        readingsFrom source (registryAfter found (readingsFrom source found before))
          after := by
  induction before generalizing found with
  | nil => rfl
  | cons first before ih =>
      rw [List.cons_append, readingsFrom_cons, readingsFrom_cons, ih]
      rfl

theorem conversions_readingsFrom (found : Registry) (conversions : List Conversion) :
    (readingsFrom source found conversions).map Reading.conversion = conversions := by
  induction conversions generalizing found with
  | nil => rfl
  | cons first later ih => rw [readingsFrom_cons, List.map_cons, ih]

theorem foldl_add_eq (readings : Readings) (conversions : List Conversion) :
    conversions.foldl (Readings.add source) readings =
      { registry := registryAfter readings.registry
          (readingsFrom source readings.registry conversions)
        documents := readings.documents ++
          (readingsFrom source readings.registry conversions).filterMap Reading.symbols?
        failures := readings.failures ++
          (readingsFrom source readings.registry conversions).filterMap
            Reading.failure? } := by
  induction conversions generalizing readings with
  | nil => simp [readingsFrom, registryAfter]
  | cons first later ih =>
      rw [List.foldl_cons, ih, readingsFrom_cons, List.filterMap_cons, List.filterMap_cons]
      cases hrun : first.run source readings.registry with
      | mk result left =>
          cases result <;>
            simp [Readings.add, hrun, registryAfter, Reading.symbols?, Reading.failure?]

/-- What a run reads is told by its readings. -/
theorem readDocuments_eq (conversions : List Conversion) :
    readDocuments source conversions =
      { registry := registryAfter {} (readingsFrom source {} conversions)
        documents := (readingsFrom source {} conversions).filterMap Reading.symbols?
        failures := (readingsFrom source {} conversions).filterMap Reading.failure? } := by
  rw [readDocuments, foldl_add_eq]
  rfl

/-- A run that had failures names them, and does not emit. -/
theorem runWith_of_failures
    (emitter : SymbolGraph → Emission) {conversions : List Conversion}
    (hfailures : (readDocuments source conversions).failures ≠ []) :
    runWith emitter source conversions =
      { result := .error (.documents (readDocuments source conversions).failures),
        files := [] } := by
  simp only [runWith]

end Readings

/-- A document that fails before it builds is invisible to the others: each finds, comes to
and leaves the same without it, and together they contribute the same.  The run fails with
the failures that it has without the document, and with this one at its place, whatever it
would have emitted. -/
theorem early_failure_invisible
    {source : PageSource} {conversion : Conversion} {error : DocumentError}
    {registry : Registry}
    (hfails : (conversion.run source registry).1 = .error error)
    (hearly : error.PrecedesBuilding)
    (emitter : SymbolGraph → Emission) (before after : List Conversion) :
    ∃ earlier later found,
      readingsFrom source {} (before ++ after) = earlier ++ later ∧
        readingsFrom source {} (before ++ conversion :: after) =
          earlier ++
            { conversion, found, result := .error error, left := found } :: later ∧
        earlier.map Reading.conversion = before ∧
        later.map Reading.conversion = after ∧
        (readDocuments source (before ++ conversion :: after)).registry =
          (readDocuments source (before ++ after)).registry ∧
        (readDocuments source (before ++ conversion :: after)).documents =
          (readDocuments source (before ++ after)).documents ∧
        (readDocuments source (before ++ after)).failures =
          earlier.filterMap Reading.failure? ++ later.filterMap Reading.failure? ∧
        runWith emitter source (before ++ conversion :: after) =
          { result := .error (.documents (earlier.filterMap Reading.failure? ++
              { document := conversion.name, error } :: later.filterMap Reading.failure?))
            files := [] } := by
  have hrun := Conversion.run_of_precedesBuilding hfails hearly
  have hlarger :
      readingsFrom source {} (before ++ conversion :: after) =
        readingsFrom source {} before ++
          { conversion
            found := registryAfter {} (readingsFrom source {} before)
            result := .error error
            left := registryAfter {} (readingsFrom source {} before) } ::
            readingsFrom source (registryAfter {} (readingsFrom source {} before))
              after := by
    rw [readingsFrom_append, readingsFrom_cons, hrun]
  refine ⟨_, _, _, readingsFrom_append {} before after, hlarger,
    conversions_readingsFrom {} before, conversions_readingsFrom _ after, ?_, ?_, ?_, ?_⟩
  · simp only [readDocuments_eq, hlarger, readingsFrom_append, registryAfter,
      List.foldl_append, List.foldl_cons]
  · simp only [readDocuments_eq, hlarger, readingsFrom_append, List.filterMap_append]
    rfl
  · simp only [readDocuments_eq, readingsFrom_append, List.filterMap_append]
  · have hfailures : (readDocuments source (before ++ conversion :: after)).failures =
        (readingsFrom source {} before).filterMap Reading.failure? ++
          { document := conversion.name, error } ::
            (readingsFrom source (registryAfter {} (readingsFrom source {} before))
              after).filterMap
              Reading.failure? := by
      simp only [readDocuments_eq, hlarger, List.filterMap_append]
      rfl
    rw [runWith_of_failures emitter (by simp [hfailures]), hfailures]

/-- An HTML document with a page that has lost its body. -/
def emptiedHtml : String :=
  "<p data-initial-props='\x7b\"doc\": \x7b\"body\": \"\"\x7d\x7d'>"

def emptiedSite : PageSource where
  fetch := fetchFrom [("/reference/emoji", emptiedHtml)]
  payloadAttribute := defaultPayloadAttribute
  blocks := Markdown.read

/-- A record of the page from when it described a parameter. -/
def emojiRecord : Conversion where
  name := "emoji"
  url := "/reference/emoji"
  needs := []
  script :=
    [.undocumented [.addSharedRecord "Icon" ""],
     .parameter ⟨"emoji", "string", "The emoji character.", ""⟩ [.addRecord "Emoji" ""]]

/-- A record that builds without expecting anything of the page. -/
def iconRecord : Conversion where
  name := "icon"
  url := "/reference/emoji"
  needs := []
  script := [.undocumented [.addSharedRecord "Icon" "An icon."]]

theorem bodyElements_empty (blocks : BlockReader) : bodyElements blocks "" = .ok [] := by
  have hnext : (BodyReader.ofBody "").next blocks = (none, BodyReader.ofBody "") := by
    rw [BodyReader.next]
    rfl
  rw [bodyElements, bodyItems, BodyReader.drain]
  split
  · rfl
  · next item after hafter =>
    rw [hnext] at hafter
    simp at hafter

theorem ofHtml_emptiedHtml :
    Page.ofHtml emptiedHtml defaultPayloadAttribute = .ok ⟨"", "", none⟩ := by
  have hpage :
      (Page.ofHtml emptiedHtml defaultPayloadAttribute).toOption =
        some ⟨"", "", none⟩ := by
    decide +kernel
  revert hpage
  cases Page.ofHtml emptiedHtml defaultPayloadAttribute <;> simp [Except.toOption]

theorem emojiRecord_drifts :
    (emojiRecord.run emptiedSite {}).1 =
      .error (.drift
        ⟨"emoji", 0, .missing
         (.parameter ⟨"emoji", "string", "The emoji character.", ""⟩)⟩) := by
  have hopen : emojiRecord.open emptiedSite =
      .ok { document := "emoji", elements := [], endpoint := none } := by
    have hfetch : emptiedSite.fetch emojiRecord.url = .ok emptiedHtml := rfl
    rw [Conversion.open, hfetch]
    simp only [emptiedSite, ofHtml_emptiedHtml, bodyElements_empty]
    rfl
  rw [Conversion.run, hopen]
  rfl

theorem early_failure_invisible_emptied :
    (emojiRecord.run emptiedSite {}).1 =
        .error (.drift
          ⟨"emoji", 0, .missing
           (.parameter ⟨"emoji", "string", "The emoji character.", ""⟩)⟩) ∧
      ∃ earlier later found,
        readingsFrom emptiedSite {} [iconRecord, iconRecord] = earlier ++ later ∧
          readingsFrom emptiedSite {} [iconRecord, emojiRecord, iconRecord] =
            earlier ++
              { conversion := emojiRecord
                found
                result := .error (.drift ⟨"emoji", 0,
                  .missing (.parameter ⟨"emoji", "string", "The emoji character.", ""⟩)⟩)
                left := found } :: later := by
  obtain ⟨earlier, later, found, hsmaller, hlarger, -⟩ :=
    early_failure_invisible emojiRecord_drifts trivial emit [iconRecord] [iconRecord]
  exact ⟨emojiRecord_drifts, earlier, later, found, hsmaller, hlarger⟩

end DocContract
