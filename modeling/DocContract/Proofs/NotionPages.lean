import DocContract.Notion.Reference
import DocContract.Proofs.ComputedBodies
import DocContract.Proofs.SucceedingRuns
import DocContract.Proofs.WrittenPages

/-!
# Runs over edited pages

The scripts for the API reference of Notion succeed in every selection of documents that
holds what it needs.  So a run over pages that somebody has edited succeeds just when the
pages of the selected documents still have the elements and the endpoints of the recorded
pages, and then it comes to what the run over the recorded pages comes to.
-/

namespace DocContract

/-- The page under a URL; of two the later counts. -/
def pageAt (pages : List (String × Page)) (url : String) : Option Page :=
  pages.reverse.lookup url

/-- A site that serves some pages, each in an attribute. -/
def siteOf (payloadAttribute : String) (pages : List (String × Page)) : PageSource where
  fetch := fetchFrom (pages.map fun (url, page) => (url, page.toHtml payloadAttribute))
  payloadAttribute
  blocks := Markdown.read

section Sites

variable {payloadAttribute : String} {pages : List (String × Page)}

theorem lookup_map_toHtml (url : String) :
    (pages.map fun (url, page) => (url, page.toHtml payloadAttribute)).lookup url =
      (pages.lookup url).map (Page.toHtml · payloadAttribute) := by
  induction pages with
  | nil => rfl
  | cons entry pages ih =>
      obtain ⟨other, page⟩ := entry
      rw [List.map_cons, List.lookup_cons, List.lookup_cons, ih]
      cases url == other <;> rfl

theorem fetch_siteOf_eq_ok_iff {url html : String} :
    (siteOf payloadAttribute pages).fetch url = .ok html ↔
      ∃ page, pageAt pages url = some page ∧ page.toHtml payloadAttribute = html := by
  simp only [siteOf, fetchFrom, ← List.map_reverse, lookup_map_toHtml, pageAt]
  cases pages.reverse.lookup url <;> simp

theorem Conversion.opens_siteOf_iff
    (hname : Html.IsPlainName payloadAttribute.toList) (hid : payloadAttribute ≠ "id")
    {conversion : Conversion} {live : List Element} {endpoint : Option Endpoint} :
    conversion.Opens (siteOf payloadAttribute pages) live endpoint ↔
      ∃ page, pageAt pages conversion.url = some page ∧
        bodyElements Markdown.read page.body = .ok live ∧ page.endpoint = endpoint := by
  have hid' : payloadAttribute.toList ≠ "id".toList :=
    fun heq => hid (String.toList_inj.1 heq)
  have hread (page : Page) :
      Page.ofHtml (page.toHtml payloadAttribute) payloadAttribute = .ok page := by
    rw [Page.ofHtml, page.attributeIn?_toHtml hname hid']
    simp only [page.readAll_payload]
  constructor
  · rintro ⟨html, page, hfetch, hpage, hbody, hendpoint⟩
    obtain ⟨served, hserved, rfl⟩ := fetch_siteOf_eq_ok_iff.1 hfetch
    obtain rfl : served = page := Except.ok.inj ((hread served).symm.trans hpage)
    exact ⟨served, hserved, hbody, hendpoint⟩
  · rintro ⟨page, hserved, hbody, hendpoint⟩
    exact ⟨_, page, fetch_siteOf_eq_ok_iff.2 ⟨page, hserved, rfl⟩, hread page,
      hbody, hendpoint⟩

end Sites

/-- A page has the elements and the endpoint of another. -/
structure Page.Matches (page recorded : Page) : Prop where
  elements : ∃ elements, bodyElements Markdown.read recorded.body = .ok elements ∧
    bodyElements Markdown.read page.body = .ok elements
  endpoint_eq : page.endpoint = recorded.endpoint

namespace Notion

/-- The scripts of every selection that holds what it needs make a schema. -/
theorem scriptsSucceed :
    ∀ chosen ∈ (conversions.map Conversion.name).sublists, NeedsChosen conversions chosen →
      ScriptsSucceed (conversions.filter fun conversion =>
        chosen.contains conversion.name) := by
  decide +kernel

theorem faithful_user : Faithful (expectedElements User.script) none User.script := by
  apply faithful_of_no_endpoint
  simp [User.script, ScriptStep.seen, ScriptStep.block, ScriptStep.parameter,
    ScriptStep.undocumented]

theorem faithful_emoji : Faithful (expectedElements Emoji.script) none Emoji.script := by
  apply faithful_of_no_endpoint
  simp [Emoji.script, ScriptStep.block, ScriptStep.parameter]

theorem faithful_file : Faithful (expectedElements File.script) none File.script := by
  apply faithful_of_no_endpoint
  simp [File.script, ScriptStep.block, ScriptStep.parameter]

theorem faithful_retrieveUser :
    Faithful (expectedElements RetrieveUser.script) (some RetrieveUser.endpoint)
      RetrieveUser.script where
  elements_eq := rfl
  endpoints_met := by
    have hdeclares :=
      (Endpoint.undeclared?_eq_none_iff RetrieveUser.endpoint).1 (by decide)
    simp only [RetrieveUser.script, List.forall_mem_cons, ScriptStep.Met]
    refine ⟨?_, ?_, ?_, ?_, by simp⟩
    · rintro e ⟨⟩
      exact ⟨rfl, hdeclares⟩
    · simp [ScriptStep.seen]
    · simp [ScriptStep.seen]
    · simp [ScriptStep.undocumented]
  endpoint_expected := .inr ⟨_, List.mem_cons_self, RetrieveUser.endpoint, rfl⟩

/-- The pages are still what the scripts record. -/
theorem faithful_recordedPages :
    ∀ conversion ∈ conversions,
      ∃ recorded, pageAt recordedPages conversion.url = some recorded ∧
      bodyElements Markdown.read recorded.body = .ok (expectedElements conversion.script) ∧
      Faithful (expectedElements conversion.script) recorded.endpoint
        conversion.script := by
  simp only [conversions, List.forall_mem_cons]
  refine ⟨⟨User.recordedPage, rfl, ?user, faithful_user⟩,
    ⟨Emoji.recordedPage, rfl, ?emoji, faithful_emoji⟩,
    ⟨File.recordedPage, rfl, ?file, faithful_file⟩,
    ⟨RetrieveUser.recordedPage, rfl, ?retrieveUser, faithful_retrieveUser⟩, by simp⟩
  -- The lines of each body are spelled out from the literals that they are written with.
  all_goals
    apply bodyElements_of_spells
    case hspells =>
      apply Spells.lines
      repeat first
        | with_reducible apply List.Forall₂.cons
        | with_reducible exact List.Forall₂.nil
        | with_reducible apply Spells.append
        | exact Spells.literal _
    case hread => decide +kernel

/-- The site that serves the recorded pages. -/
def recordedSite (payloadAttribute : String) : PageSource where
  fetch := recordedFetcher payloadAttribute
  payloadAttribute
  blocks := Markdown.read

section Runs

variable {payloadAttribute : String} {pages : List (String × Page)}

theorem asRecorded_iff
    (hname : Html.IsPlainName payloadAttribute.toList) (hid : payloadAttribute ≠ "id")
    {conversion : Conversion} (hmem : conversion ∈ conversions) :
    conversion.AsRecorded (siteOf payloadAttribute pages) ↔
      ∃ page recorded, pageAt pages conversion.url = some page ∧
        pageAt recordedPages conversion.url = some recorded ∧ page.Matches recorded := by
  obtain ⟨recorded, hrecorded, helements, hfaithful⟩ :=
    faithful_recordedPages conversion hmem
  constructor
  · rintro ⟨live, endpoint, hopens, halso⟩
    obtain ⟨page, hserved, hbody, rfl⟩ := (Conversion.opens_siteOf_iff hname hid).1 hopens
    obtain ⟨rfl, hendpoint⟩ := halso.unique hfaithful
    exact ⟨page, recorded, hserved, hrecorded, ⟨_, helements, hbody⟩, hendpoint⟩
  · rintro ⟨page, other, hserved, hother, ⟨elements, hsame, hbody⟩, hendpoint⟩
    obtain rfl : recorded = other := Option.some.inj (hrecorded.symm.trans hother)
    obtain rfl : expectedElements conversion.script = elements :=
      Except.ok.inj (helements.symm.trans hsame)
    exact ⟨_, _, (Conversion.opens_siteOf_iff hname hid).2 ⟨page, hserved, hbody, rfl⟩,
      hendpoint ▸ hfaithful⟩

theorem asRecorded_recordedSite
    (hname : Html.IsPlainName payloadAttribute.toList) (hid : payloadAttribute ≠ "id") :
    ∀ conversion ∈ conversions, conversion.AsRecorded (recordedSite payloadAttribute) := by
  intro conversion hmem
  obtain ⟨recorded, hrecorded, helements, -⟩ := faithful_recordedPages conversion hmem
  have hsite : recordedSite payloadAttribute = siteOf payloadAttribute recordedPages := rfl
  rw [hsite, asRecorded_iff hname hid hmem]
  exact ⟨recorded, recorded, hrecorded, hrecorded, ⟨_, helements, helements⟩, rfl⟩

/-- A run over some documents of the reference, with what they need, succeeds on just those
pages that have the elements and the endpoints of the recorded pages, and then it has the
schema and the files of the run over the recorded pages. -/
theorem run_accepts_recorded_content
    (hname : Html.IsPlainName payloadAttribute.toList) (hid : payloadAttribute ≠ "id")
    (pages : List (String × Page)) {names : List String} {selected : List Conversion}
    (hselect : select conversions names = .ok selected) :
    ((∃ graph, (run (siteOf payloadAttribute pages) selected).result = .ok graph) ↔
      ∀ conversion ∈ selected, ∃ page recorded, pageAt pages conversion.url = some page ∧
        pageAt recordedPages conversion.url = some recorded ∧ page.Matches recorded) ∧
    ∀ graph, (run (siteOf payloadAttribute pages) selected).result = .ok graph →
      run (siteOf payloadAttribute pages) selected =
        run (recordedSite payloadAttribute) selected := by
  obtain ⟨chosen, hsublist, hneeds, rfl⟩ := exists_chosen_of_select (by decide) hselect
  have hmem :
    ∀ conversion ∈ conversions.filter (fun conversion => chosen.contains conversion.name),
      conversion ∈ conversions :=
        fun conversion hconversion => (List.mem_filter.1 hconversion).1
  have hsucceed := scriptsSucceed chosen hsublist hneeds
  constructor
  · rw [hsucceed.exists_result_iff]
    exact forall₂_congr fun conversion hconversion =>
      asRecorded_iff hname hid (hmem _ hconversion)
  · intro graph hresult
    have hread := readDocuments_of_asRecorded (asRecorded_of_result hresult)
      fun conversion hconversion =>
        asRecorded_recordedSite hname hid conversion (hmem conversion hconversion)
    simp only [run, hread]

end Runs

/-- The page of the endpoint with another title and more blank lines. -/
def editedPage : Page where
  title := "Get a user"
  body := String.join
    (["", "Retrieves a User using the ID specified.",
      "", "",
      "[block:callout]",
      "\x7b\"body\": \" Returns a 404 HTTP response if the user doesn't exist, or if " ++
        "the integration doesn't have access to the user.\", \"title\": \"Errors\"\x7d",
      "[/block]"].map (· ++ "\n"))
  endpoint := some RetrieveUser.endpoint

theorem elements_editedPage : bodyElements Markdown.read editedPage.body =
    .ok (expectedElements RetrieveUser.script) := by
  apply bodyElements_of_spells
  case hspells =>
    apply Spells.lines
    repeat first
      | with_reducible apply List.Forall₂.cons
      | with_reducible exact List.Forall₂.nil
      | with_reducible apply Spells.append
      | exact Spells.literal _
  case hread => decide +kernel

theorem select_retrieveUser :
    select conversions ["retrieve_user"] =
      .ok [User.conversion, RetrieveUser.conversion] := by
  have hfirst : conversions.find? (·.name == "retrieve_user") =
      some RetrieveUser.conversion := rfl
  have hneeded : conversions.find? (·.name == "user") = some User.conversion := rfl
  have hneeds : RetrieveUser.conversion.needs = ["user"] := rfl
  have hnone : User.conversion.needs = [] := rfl
  rw [select, reachable_cons_of_find (by simp) hfirst, hneeds, List.nil_append,
    reachable_cons_of_find (by simp) hneeded, hnone, List.append_nil, reachable]
  rfl

/-- The endpoint is read from its edited page, and not without the page of the users. -/
theorem run_accepts_recorded_content_edited :
    Html.IsPlainName defaultPayloadAttribute.toList ∧ defaultPayloadAttribute ≠ "id" ∧
      select conversions ["retrieve_user"] =
        .ok [User.conversion, RetrieveUser.conversion] ∧
      (∃ graph, (run (siteOf defaultPayloadAttribute
        [(RetrieveUser.url, editedPage), (User.url, User.recordedPage)])
          [User.conversion, RetrieveUser.conversion]).result = .ok graph) ∧
      ¬ ∃ graph, (run (siteOf defaultPayloadAttribute [(RetrieveUser.url, editedPage)])
        [User.conversion, RetrieveUser.conversion]).result = .ok graph := by
  have hname : Html.IsPlainName defaultPayloadAttribute.toList := by decide
  have hid : defaultPayloadAttribute ≠ "id" := by decide
  refine ⟨hname, hid, select_retrieveUser, ?_, ?_⟩
  · rw [(run_accepts_recorded_content hname hid _ select_retrieveUser).1]
    simp only [List.forall_mem_cons]
    obtain ⟨users, husers, hbody, -⟩ :=
      faithful_recordedPages User.conversion (by simp [conversions])
    obtain ⟨recorded, hrecorded, helements, -⟩ :=
      faithful_recordedPages RetrieveUser.conversion (by simp [conversions])
    obtain rfl : User.recordedPage = users := Option.some.inj husers
    obtain rfl : RetrieveUser.recordedPage = recorded := Option.some.inj hrecorded
    exact ⟨⟨User.recordedPage, User.recordedPage, rfl, rfl, ⟨_, hbody, hbody⟩, rfl⟩,
      ⟨editedPage, RetrieveUser.recordedPage, rfl, rfl,
       ⟨_, helements, elements_editedPage⟩, rfl⟩,
      by simp⟩
  · rw [(run_accepts_recorded_content hname hid _ select_retrieveUser).1]
    intro hserved
    obtain ⟨page, -, hpage, -⟩ := hserved User.conversion List.mem_cons_self
    have hnone : pageAt [(RetrieveUser.url, editedPage)] User.conversion.url = none := rfl
    rw [hnone] at hpage
    contradiction

end Notion

end DocContract
