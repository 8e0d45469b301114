import DocContract.Proofs.BodyComposition
import DocContract.Proofs.RunOutcomes

/-!
# Runs over recorded pages

A page that is as recorded adds nothing to its record: what its document builds is what the
script builds.  So a run in which no document fails before it builds comes to what the
scripts come to without any page, and two such runs come to the same, whatever pages they
have been served.
-/

namespace DocContract

def Conversion.build (conversion : Conversion) (found : Registry) :
    Except DocumentError DocumentSymbols × Registry :=
  match runSteps conversion.name ⟨found, []⟩ (buildStepsOf conversion.script) with
  | (.ok (), state) => (.ok ⟨conversion.name, state.symbols⟩, state.registry)
  | (.error fault, state) => (.error (.schema fault), state.registry)

/-- What the readings of documents are if their pages are as recorded. -/
def recordedFrom : Registry → List Conversion → List Reading
  | _, [] => []
  | found, conversion :: later =>
    { conversion
      found
      result := (conversion.build found).1
      left := (conversion.build found).2 } :: recordedFrom (conversion.build found).2 later

/-- The page of a conversion can be read, and it is what the script records. -/
def Conversion.AsRecorded (source : PageSource) (conversion : Conversion) : Prop :=
  ∃ live endpoint, conversion.Opens source live endpoint ∧
    Faithful live endpoint conversion.script

/-- No document of a run fails before it builds. -/
def ReachesBuilding (source : PageSource) (conversions : List Conversion) : Prop :=
  ∀ failure ∈ (readDocuments source conversions).failures, ¬ failure.error.PrecedesBuilding

section Recorded

variable {source other : PageSource} {conversion : Conversion}
    {conversions : List Conversion}
  {found : Registry}

theorem Conversion.run_of_asRecorded (hrecorded : conversion.AsRecorded source) :
    conversion.run source found = conversion.build found := by
  obtain ⟨live, endpoint, hopens, hfaithful⟩ := hrecorded
  rw [run_of_opens hopens, reportedDrift_of_faithful hfaithful]
  rfl

/-- Whatever keeps a page from being as recorded is an error that is met before
building. -/
theorem Conversion.asRecorded_of_run
    (hlate : ∀ error, (conversion.run source found).1 = .error error →
      ¬ error.PrecedesBuilding) :
    conversion.AsRecorded source := by
  rcases hrun : conversion.run source found with ⟨result, left⟩
  rw [hrun] at hlate
  cases run_eq_iff.1 hrun with
  | fetch hfetch => exact absurd trivial (hlate _ rfl)
  | payload hfetch hpage => exact absurd trivial (hlate _ rfl)
  | tokens hfetch hpage htokens => exact absurd trivial (hlate _ rfl)
  | expectations hopens hunmet hdrifts => exact absurd trivial (hlate _ rfl)
  | leftovers hopens hmet hdrifts => exact absurd trivial (hlate _ rfl)
  | building hopens hfaithful hbuild => exact ⟨_, _, hopens, hfaithful⟩
  | built hopens hfaithful hbuild => exact ⟨_, _, hopens, hfaithful⟩

theorem asRecorded_of_readingsFrom
    (hlate : ∀ reading ∈ readingsFrom source found conversions, ∀ error,
      reading.result = .error error → ¬ error.PrecedesBuilding) :
    ∀ conversion ∈ conversions, conversion.AsRecorded source := by
  induction conversions generalizing found with
  | nil => simp
  | cons first later ih =>
      rw [readingsFrom_cons, List.forall_mem_cons] at hlate
      rw [List.forall_mem_cons]
      constructor
      · exact Conversion.asRecorded_of_run hlate.1
      · exact ih hlate.2

theorem readingsFrom_of_asRecorded
    (hrecorded : ∀ conversion ∈ conversions, conversion.AsRecorded source) :
    readingsFrom source found conversions = recordedFrom found conversions := by
  induction conversions generalizing found with
  | nil => rfl
  | cons first later ih =>
      rw [List.forall_mem_cons] at hrecorded
      have hrun : first.run source found = first.build found :=
        Conversion.run_of_asRecorded hrecorded.1
      rw [readingsFrom_cons, recordedFrom, hrun, ih hrecorded.2]

theorem Conversion.not_precedesBuilding_of_build
    {error : DocumentError} (hfails : (conversion.build found).1 = .error error) :
    ¬ error.PrecedesBuilding := by
  unfold build at hfails
  split at hfails
  · contradiction
  · next fault state hbuild =>
    obtain rfl : .schema fault = error := Except.error.inj hfails
    exact id

theorem not_precedesBuilding_of_recordedFrom
    {reading : Reading} (hreading : reading ∈ recordedFrom found conversions)
    {error : DocumentError} (hfails : reading.result = .error error) :
    ¬ error.PrecedesBuilding := by
  induction conversions generalizing found with
  | nil => simp [recordedFrom] at hreading
  | cons first later ih =>
      rw [recordedFrom, List.mem_cons] at hreading
      cases hreading with
      | inl hfirst =>
          subst hfirst
          exact Conversion.not_precedesBuilding_of_build hfails
      | inr hlater => exact ih hlater

theorem reachesBuilding_iff :
    ReachesBuilding source conversions ↔
      ∀ conversion ∈ conversions, conversion.AsRecorded source := by
  constructor
  · intro hreaches
    have hlate : ∀ reading ∈ readingsFrom source {} conversions, ∀ error,
        reading.result = .error error → ¬ error.PrecedesBuilding := by
      intro reading hreading error herror
      apply hreaches { document := reading.conversion.name, error }
      rw [readDocuments_eq]
      apply List.mem_filterMap.2
      exact ⟨reading, hreading, by simp [Reading.failure?, herror]⟩
    exact asRecorded_of_readingsFrom hlate
  · intro hrecorded failure hfailure
    rw [readDocuments_eq, readingsFrom_of_asRecorded hrecorded] at hfailure
    obtain ⟨reading, hreading, hfails⟩ := List.mem_filterMap.1 hfailure
    unfold Reading.failure? at hfails
    split at hfails
    · contradiction
    · next error herror =>
      obtain rfl := Option.some.inj hfails
      exact not_precedesBuilding_of_recordedFrom hreading herror

theorem readDocuments_of_asRecorded
    (hsource : ∀ conversion ∈ conversions, conversion.AsRecorded source)
    (hother : ∀ conversion ∈ conversions, conversion.AsRecorded other) :
    readDocuments source conversions = readDocuments other conversions := by
  rw [readDocuments_eq, readDocuments_eq, readingsFrom_of_asRecorded hsource,
    readingsFrom_of_asRecorded hother]

/-- Two runs of the same scripts in which no document fails before it builds have the same
schema and the same files, or fail with the same errors.  Both come to what the scripts
come to without pages, and all that either of them takes from a page is equal to what the
script expects. -/
theorem run_determined_by_scripts
    (hsource : ReachesBuilding source conversions)
    (hother : ReachesBuilding other conversions) :
    run source conversions = run other conversions ∧
      (run source conversions).Ends (recordedFrom {} conversions) ∧
      (∀ conversion ∈ conversions, conversion.AsRecorded source) ∧
      ∀ conversion ∈ conversions, conversion.AsRecorded other := by
  have hrecorded := reachesBuilding_iff.1 hsource
  have halso := reachesBuilding_iff.1 hother
  have hread := readDocuments_of_asRecorded hrecorded halso
  have hends := ends_run source conversions
  rw [readingsFrom_of_asRecorded hrecorded] at hends
  refine ⟨?_, hends, hrecorded, halso⟩
  simp only [run, hread]

end Recorded

/-- A record of a page with one paragraph, which becomes the comment of a symbol. -/
def emojiParagraph : Conversion where
  name := "emoji"
  url := "/reference/emoji"
  needs := []
  script := [.block ⟨.paragraph, "An emoji."⟩ [.addRecord "Emoji" "An emoji."]]

def emojiSite (payloadAttribute html : String) : PageSource where
  fetch := fetchFrom [("/reference/emoji", html)]
  payloadAttribute
  blocks := Markdown.read

def titledHtml : String :=
  "<p page='\x7b\"doc\": \x7b\"title\": \"Emoji\", \"body\": \"An emoji.\"\x7d\x7d'>"

/-- The same paragraph on a page without a title and with more blank lines. -/
def spacedHtml : String :=
  "<hr><i data=\"\x7b&quot;doc&quot;:\x7b&quot;body&quot;:" ++
    "&quot;\\nAn emoji.\\n&quot;\x7d\x7d\">"

theorem emojiParagraph_asRecorded
    {payloadAttribute html title body : String}
    (hpage : Page.ofHtml html payloadAttribute = .ok ⟨title, body, none⟩)
    (htokens : bodyElements Markdown.read body = .ok [.block ⟨.paragraph, "An emoji."⟩]) :
    emojiParagraph.AsRecorded (emojiSite payloadAttribute html) := by
  have hfetch : (emojiSite payloadAttribute html).fetch emojiParagraph.url =
      .ok html := rfl
  refine ⟨_, none, ⟨html, _, hfetch, hpage, htokens, rfl⟩, ?_⟩
  constructor
  · rfl
  · simp [emojiParagraph, ScriptStep.block, ScriptStep.Met]
  · exact .inl rfl

theorem run_determined_by_scripts_emoji :
    ReachesBuilding (emojiSite "page" titledHtml) [emojiParagraph] ∧
      ReachesBuilding (emojiSite "data" spacedHtml) [emojiParagraph] ∧
      run (emojiSite "page" titledHtml) [emojiParagraph] =
        run (emojiSite "data" spacedHtml) [emojiParagraph] := by
  have htitled : ReachesBuilding (emojiSite "page" titledHtml) [emojiParagraph] := by
    have hpage : Page.ofHtml titledHtml "page" = .ok ⟨"Emoji", "An emoji.", none⟩ := by
      decide +kernel
    have htokens : bodyElements Markdown.read "An emoji." =
        .ok [.block ⟨.paragraph, "An emoji."⟩] := by
      rw [bodyElements_of_segment rfl rfl]
      decide +kernel
    simpa [reachesBuilding_iff] using emojiParagraph_asRecorded hpage htokens
  have hspaced : ReachesBuilding (emojiSite "data" spacedHtml) [emojiParagraph] := by
    have hpage : Page.ofHtml spacedHtml "data" = .ok ⟨"", "\nAn emoji.\n", none⟩ := by
      decide +kernel
    have htokens : bodyElements Markdown.read "\nAn emoji.\n" =
        .ok [.block ⟨.paragraph, "An emoji."⟩] := by
      rw [bodyElements_of_segment rfl rfl]
      decide +kernel
    simpa [reachesBuilding_iff] using emojiParagraph_asRecorded hpage htokens
  exact ⟨htitled, hspaced, (run_determined_by_scripts htitled hspaced).1⟩

end DocContract
