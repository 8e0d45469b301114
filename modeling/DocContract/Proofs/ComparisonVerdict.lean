import DocContract.Comparison

/-!
# The verdict of a comparison

A comparison moves through a page as its script expects elements, and looks at the endpoint
beside them.  Its verdict can be told without it: a page is as recorded if the expected
elements are those of the page and every expected endpoint is the one of the page; and if
not, the drift stands at the first expectation that is not met, which for elements is where
the two lists part.
-/

namespace DocContract

def Expectation.element? : Expectation → Option Element
  | block b => some (.block b)
  | parameter p => some (.parameter p)
  | endpoint _ => none
  | undocumented => none

def ScriptStep.element? (step : ScriptStep) : Option Element :=
  step.expectation.element?

def expectedElements (script : List ScriptStep) : List Element :=
  script.filterMap ScriptStep.element?

def commonPrefixLength : List Element → List Element → Nat
  | a :: as, b :: bs => if a = b then commonPrefixLength as bs + 1 else 0
  | _, _ => 0

/-- A parameter in the path has a name. -/
def Endpoint.Declares (endpoint : Endpoint) (name : String) : Prop :=
  ∃ p ∈ endpoint.parameters, p.location = .path ∧ p.name = name

/-- If a step expects an endpoint, it is that of the page, and declares all its
placeholders. -/
def ScriptStep.Met (endpoint : Option Endpoint) (step : ScriptStep) : Prop :=
  ∀ e, step.expectation = .endpoint e →
    endpoint = some e ∧ ∀ name ∈ e.pathParameters, e.Declares name

/-- The page is what the script records. -/
structure Faithful (live : List Element) (endpoint : Option Endpoint)
    (script : List ScriptStep) :
    Prop where
  elements_eq : expectedElements script = live
  endpoints_met : ∀ step ∈ script, step.Met endpoint
  endpoint_expected : endpoint = none ∨ ∃ step ∈ script,
    ∃ e, step.expectation = .endpoint e

/-- Where the page first differs from what the script records, and how. -/
inductive DriftsAt (live : List Element) (endpoint : Option Endpoint)
    (script : List ScriptStep) :
    Nat → DriftKind → Prop where
  | mismatch {before after : List ScriptStep} {step : ScriptStep}
      {expected actual : Element}
      (hscript : script = before ++ step :: after)
      (hmet : ∀ earlier ∈ before, earlier.Met endpoint)
      (hstep : step.element? = some expected)
      (hcommon : (expectedElements before).length =
        commonPrefixLength (expectedElements script) live)
      (hactual : live[commonPrefixLength (expectedElements script) live]? = some actual) :
      DriftsAt live endpoint script (commonPrefixLength (expectedElements script) live)
        (.mismatch expected actual)
  | missing {before after : List ScriptStep} {step : ScriptStep} {expected : Element}
      (hscript : script = before ++ step :: after)
      (hmet : ∀ earlier ∈ before, earlier.Met endpoint)
      (hstep : step.element? = some expected)
      (hcommon : (expectedElements before).length =
        commonPrefixLength (expectedElements script) live)
      (hend : live.length = commonPrefixLength (expectedElements script) live) :
      DriftsAt live endpoint script (commonPrefixLength (expectedElements script) live)
        (.missing expected)
  | leftover {actual : Element}
      (hmet : ∀ step ∈ script, step.Met endpoint)
      (hcommon : (expectedElements script).length =
        commonPrefixLength (expectedElements script) live)
      (hactual : live[commonPrefixLength (expectedElements script) live]? = some actual) :
      DriftsAt live endpoint script (commonPrefixLength (expectedElements script) live)
        (.leftover actual
          (live.length - commonPrefixLength (expectedElements script) live))
  | missingEndpoint {before after : List ScriptStep} {step : ScriptStep}
      {expected : Endpoint}
      (hscript : script = before ++ step :: after)
      (hmet : ∀ earlier ∈ before, earlier.Met endpoint)
      (hfound : expectedElements before <+: live)
      (hstep : step.expectation = .endpoint expected)
      (hendpoint : endpoint = none) :
      DriftsAt live endpoint script (expectedElements before).length
        (.missingEndpoint expected)
  | endpoint {before after : List ScriptStep} {step : ScriptStep}
      {expected actual : Endpoint}
      (hscript : script = before ++ step :: after)
      (hmet : ∀ earlier ∈ before, earlier.Met endpoint)
      (hfound : expectedElements before <+: live)
      (hstep : step.expectation = .endpoint expected)
      (hendpoint : endpoint = some actual) (hdiffers : actual ≠ expected) :
      DriftsAt live endpoint script (expectedElements before).length
        (.endpoint expected actual)
  | undeclaredPathParameter {before after : List ScriptStep} {step : ScriptStep}
      {expected : Endpoint} {declared later : List String} {name : String}
      (hscript : script = before ++ step :: after)
      (hmet : ∀ earlier ∈ before, earlier.Met endpoint)
      (hfound : expectedElements before <+: live)
      (hstep : step.expectation = .endpoint expected)
      (hendpoint : endpoint = some expected)
      (hplaceholders : expected.pathParameters = declared ++ name :: later)
      (hdeclared : ∀ earlier ∈ declared, expected.Declares earlier)
      (hundeclared : ¬ expected.Declares name) :
      DriftsAt live endpoint script (expectedElements before).length
        (.undeclaredPathParameter expected.url name)
  | unexpectedEndpoint {actual : Endpoint}
      (hfound : expectedElements script = live)
      (hnone : ∀ step ∈ script, ∀ e, step.expectation ≠ .endpoint e)
      (hendpoint : endpoint = some actual) :
      DriftsAt live endpoint script live.length (.unexpectedEndpoint actual)

/-- The drift among the errors of a document. -/
def DocumentError.drift? : DocumentError → Option Drift
  | drift found => some found
  | _ => none

/-- The drift that is reported of a page: the first that a step meets, or else what is
found at the end. -/
def reportedDrift (document : String) (live : List Element) (endpoint : Option Endpoint)
    (script : List ScriptStep) (state : BuildState) : Option Drift :=
  match Comparison.follow { document, elements := live, endpoint } script with
  | .error drift => some drift
  | .ok comparison =>
    match (comparison.finish state).1 with
    | .error error => error.drift?
    | .ok () => none

theorem commonPrefixLength_append (common as bs : List Element) :
    commonPrefixLength (common ++ as) (common ++ bs) = common.length +
      commonPrefixLength as bs := by
  induction common with
  | nil => simp
  | cons first common ih =>
      rw [List.cons_append, List.cons_append, commonPrefixLength, if_pos rfl, ih,
        List.length_cons]
      omega

theorem take_commonPrefixLength (as bs : List Element) :
    as.take (commonPrefixLength as bs) = bs.take (commonPrefixLength as bs) := by
  fun_induction commonPrefixLength as bs with
  | case1 a as bs ih => simp [ih]
  | case2 => rfl
  | case3 => simp

theorem isPrefix_of_length_eq_commonPrefixLength
    {before rest live : List Element}
    (hcommon : before.length = commonPrefixLength (before ++ rest) live) :
    before <+: live := by
  have htake := take_commonPrefixLength (before ++ rest) live
  rw [← hcommon, List.take_left] at htake
  exact htake ▸ List.take_prefix _ _

theorem commonPrefixLength_left (common as : List Element) :
    commonPrefixLength common (common ++ as) = common.length := by
  have hsplit := commonPrefixLength_append common [] as
  simpa [commonPrefixLength] using hsplit

theorem Endpoint.undeclared?_eq_none_iff (endpoint : Endpoint) :
    endpoint.undeclared? = none ↔
      ∀ name ∈ endpoint.pathParameters, endpoint.Declares name := by
  simp [undeclared?, Declares]

theorem Endpoint.undeclared?_eq_some_iff (endpoint : Endpoint) (name : String) :
    endpoint.undeclared? = some name ↔
      ∃ declared later, endpoint.pathParameters = declared ++ name :: later ∧
        (∀ earlier ∈ declared, endpoint.Declares earlier) ∧ ¬ endpoint.Declares name := by
  have htest : ∀ other,
      (!endpoint.parameters.any fun p => p.location == .path && p.name == other) = true ↔
        ¬ endpoint.Declares other := by
    simp [Declares]
  simp only [undeclared?, List.find?_eq_some_iff_append, htest, Bool.not_eq_true',
    ← Bool.not_eq_true, Classical.not_not]
  constructor
  · rintro ⟨hname, declared, later, hsplit, hdeclared⟩
    exact ⟨declared, later, hsplit, hdeclared, hname⟩
  · rintro ⟨declared, later, hsplit, hdeclared, hname⟩
    exact ⟨hname, declared, later, hsplit, hdeclared⟩

/-! ## Following a script -/

/-- A comparison has found what the first steps of a script expect. -/
structure Comparison.Follows (document : String) (live : List Element)
    (endpoint : Option Endpoint) (done : List ScriptStep) (comparison : Comparison) :
    Prop where
  document_eq : comparison.document = document
  elements_eq : comparison.elements = live
  endpoint_eq : comparison.endpoint = endpoint
  position_eq : comparison.position = (expectedElements done).length
  found : expectedElements done <+: live
  met : ∀ step ∈ done, step.Met endpoint
  expected_iff : comparison.endpointExpected = true ↔
    ∃ step ∈ done, ∃ e, step.expectation = .endpoint e

/-- What a step may come to: it is met and followed, or it is where the page drifts. -/
def Comparison.Judges (document : String) (live : List Element)
    (endpoint : Option Endpoint)
    (done : List ScriptStep) (step : ScriptStep) : Except Drift Unit × Comparison → Prop
  | (.ok (), after) => after.Follows document live endpoint (done ++ [step])
  | (.error drift, _) =>
    drift.document = document ∧
      ∀ rest, DriftsAt live endpoint (done ++ step :: rest) drift.position drift.kind

section Following

variable {document : String} {live : List Element} {endpoint : Option Endpoint}
  {done rest : List ScriptStep} {comparison : Comparison} {step : ScriptStep}

theorem expectedElements_append (done rest : List ScriptStep) :
    expectedElements (done ++ rest) = expectedElements done ++ expectedElements rest :=
  List.filterMap_append

theorem expectedElements_cons_of_element
    {expected : Element} (hstep : step.element? = some expected) (rest : List ScriptStep) :
    expectedElements (step :: rest) = expected :: expectedElements rest :=
  List.filterMap_cons_some hstep

theorem expectedElements_cons_of_none
    (hstep : step.element? = none) (rest : List ScriptStep) :
    expectedElements (step :: rest) = expectedElements rest :=
  List.filterMap_cons_none hstep

theorem ScriptStep.met_of_element
    {expected : Element} (hstep : step.element? = some expected) : step.Met endpoint := by
  intro e hexpectation
  simp [element?, Expectation.element?, hexpectation] at hstep

theorem Comparator.expect_of_element
    {σ : Type} {comparison : Comparator σ} {expectation : Expectation} {expected : Element}
    (helement : expectation.element? = some expected) :
    comparison.expect expectation = comparison.consume expected := by
  cases expectation <;> simp_all [Expectation.element?, expect]

theorem Comparator.answer_of_met
    {σ : Type} {comparison after : Comparator σ} {call : Call σ}
    (hmet : comparison.expect call.expectation = (.ok (), after)) :
    comparison.answer call =
      (.ok (), { after with queued := after.queued ++ call.queued?.toList }) := by
  rw [answer, hmet]

theorem Comparator.answer_of_drift
    {σ : Type} {comparison after : Comparator σ} {call : Call σ} {drift : Drift}
    (hdrift : comparison.expect call.expectation = (.error drift, after)) :
    comparison.answer call = (.error drift, after) := by
  rw [answer, hdrift]

theorem Comparison.follows_start (document : String) (live : List Element)
    (endpoint : Option Endpoint) :
    Comparison.Follows document live endpoint []
      { document, elements := live, endpoint } := by
  constructor <;> simp [expectedElements]

theorem Comparison.Follows.queue
    (hfollows : comparison.Follows document live endpoint done)
    (queued : List (SessionAction BuildState)) :
    Comparison.Follows document live endpoint done { comparison with queued } := by
  constructor
  · exact hfollows.document_eq
  · exact hfollows.elements_eq
  · exact hfollows.endpoint_eq
  · exact hfollows.position_eq
  · exact hfollows.found
  · exact hfollows.met
  · exact hfollows.expected_iff

/-- An element that is found moves the comparison on. -/
theorem Comparison.Follows.found_element
    (hfollows : comparison.Follows document live endpoint done)
    {expected : Element} (hstep : step.element? = some expected)
    (hfound : expectedElements (done ++ [step]) <+: live) :
    Comparison.Follows document live endpoint (done ++ [step])
      { comparison with position := comparison.position + 1 } := by
  constructor
  · exact hfollows.document_eq
  · exact hfollows.elements_eq
  · exact hfollows.endpoint_eq
  · rw [expectedElements_append, expectedElements_cons_of_element hstep,
      List.length_append, ← hfollows.position_eq]
    rfl
  · exact hfound
  · intro other hother
    rcases List.mem_append.1 hother with hdone | hlast
    · exact hfollows.met other hdone
    · exact List.mem_singleton.1 hlast ▸ ScriptStep.met_of_element hstep
  · rw [hfollows.expected_iff]
    have hnot : ∀ e, step.expectation ≠ .endpoint e := by
      intro e hexpectation
      simp [ScriptStep.element?, Expectation.element?, hexpectation] at hstep
    simp [or_and_right, exists_or, hnot]

/-- A step beside the elements that is met leaves the comparison where it is. -/
theorem Comparison.Follows.met_step
    (hfollows : comparison.Follows document live endpoint done)
    (hstep : step.element? = none) (hmet : step.Met endpoint)
    (expected : Bool) (hexpected : expected = true ↔
      comparison.endpointExpected = true ∨ ∃ e, step.expectation = .endpoint e) :
    Comparison.Follows document live endpoint (done ++ [step])
      { comparison with endpointExpected := expected } := by
  have hsame : expectedElements (done ++ [step]) = expectedElements done := by
    rw [expectedElements_append, expectedElements_cons_of_none hstep]
    exact List.append_nil _
  constructor
  · exact hfollows.document_eq
  · exact hfollows.elements_eq
  · exact hfollows.endpoint_eq
  · rw [hsame]
    exact hfollows.position_eq
  · rw [hsame]
    exact hfollows.found
  · intro other hother
    rcases List.mem_append.1 hother with hdone | hlast
    · exact hfollows.met other hdone
    · exact List.mem_singleton.1 hlast ▸ hmet
  · rw [hexpected, hfollows.expected_iff]
    simp [or_and_right, exists_or]

/-- An element that is not found is the place where the two lists part. -/
theorem Comparison.Follows.parts
    (hfollows : comparison.Follows document live endpoint done)
    {expected : Element} (hstep : step.element? = some expected)
    (hdiffers : live[comparison.position]? ≠ some expected) (rest : List ScriptStep) :
    comparison.position =
      commonPrefixLength (expectedElements (done ++ step :: rest)) live := by
  obtain ⟨tail, rfl⟩ := hfollows.found
  rw [hfollows.position_eq] at hdiffers ⊢
  rw [expectedElements_append, expectedElements_cons_of_element hstep,
    commonPrefixLength_append]
  cases tail with
  | nil => rfl
  | cons actual tail =>
      have hne : expected ≠ actual := by
        rintro rfl
        exact hdiffers (by simp)
      rw [commonPrefixLength, if_neg hne, Nat.add_zero]

theorem Comparison.Follows.consume
    (hfollows : comparison.Follows document live endpoint done)
    {expected : Element} (hstep : step.element? = some expected) :
    Judges document live endpoint done step (comparison.consume expected) := by
  unfold Comparator.consume
  cases hactual : comparison.elements[comparison.position]? with
  | none =>
      rw [hfollows.elements_eq] at hactual
      refine ⟨hfollows.document_eq, fun rest => ?_⟩
      have hposition := hfollows.parts hstep (by simp [hactual]) rest
      rw [Comparator.driftAt, hposition]
      refine .missing rfl hfollows.met hstep (hfollows.position_eq.symm.trans hposition) ?_
      rw [← hposition]
      refine Nat.le_antisymm (List.getElem?_eq_none_iff.1 hactual) ?_
      rw [hfollows.position_eq]
      exact hfollows.found.length_le
  | some actual =>
      rw [hfollows.elements_eq] at hactual
      by_cases hsame : actual = expected
      · subst hsame
        simp only [if_true]
        refine hfollows.found_element hstep ?_
        obtain ⟨tail, rfl⟩ := hfollows.found
        rw [hfollows.position_eq, List.getElem?_append_right (Nat.le_refl _), Nat.sub_self]
          at hactual
        cases tail with
        | nil => simp at hactual
        | cons first tail =>
            obtain rfl : first = actual := by simpa using hactual
            rw [expectedElements_append, expectedElements_cons_of_element hstep]
            exact ⟨tail, by simp [expectedElements]⟩
      · simp only [hsame, if_false]
        refine ⟨hfollows.document_eq, fun rest => ?_⟩
        have hposition := hfollows.parts hstep (by simp [hactual, hsame]) rest
        rw [Comparator.driftAt, hposition]
        exact .mismatch rfl hfollows.met hstep (hfollows.position_eq.symm.trans hposition)
          (hposition ▸ hactual)

theorem Comparison.Follows.expectEndpoint
    (hfollows : comparison.Follows document live endpoint done)
    {expected : Endpoint} (hstep : step.expectation = .endpoint expected) :
    Judges document live endpoint done step (comparison.expectEndpoint expected) := by
  unfold Comparator.expectEndpoint
  cases hactual : comparison.endpoint with
  | none =>
      refine ⟨hfollows.document_eq, fun rest => ?_⟩
      rw [Comparator.driftAt, hfollows.position_eq]
      exact .missingEndpoint rfl hfollows.met hfollows.found hstep
        (hfollows.endpoint_eq.symm.trans hactual)
  | some actual =>
      have hendpoint : endpoint = some actual := hfollows.endpoint_eq.symm.trans hactual
      by_cases hsame : actual = expected
      · subst hsame
        simp only [if_true]
        cases hundeclared : actual.undeclared? with
        | none =>
            have hmet : step.Met endpoint := by
              intro e he
              obtain rfl : e = actual := by simpa [hstep, eq_comm] using he
              exact ⟨hendpoint, (Endpoint.undeclared?_eq_none_iff e).1 hundeclared⟩
            have helement : step.element? = none := by
              simp [ScriptStep.element?, Expectation.element?, hstep]
            have hnext := hfollows.met_step helement hmet true (by simp [hstep])
            rwa [hactual] at hnext
        | some name =>
            obtain ⟨declared, later, hsplit, hdeclared, hname⟩ :=
              (Endpoint.undeclared?_eq_some_iff actual name).1 hundeclared
            refine ⟨hfollows.document_eq, fun rest => ?_⟩
            rw [Comparator.driftAt, hfollows.position_eq]
            exact .undeclaredPathParameter rfl hfollows.met hfollows.found hstep hendpoint
              hsplit hdeclared hname
      · simp only [hsame, if_false]
        refine ⟨hfollows.document_eq, fun rest => ?_⟩
        rw [Comparator.driftAt, hfollows.position_eq]
        exact .endpoint rfl hfollows.met hfollows.found hstep hendpoint hsame

theorem Comparison.Follows.expect
    (hfollows : comparison.Follows document live endpoint done) (step : ScriptStep) :
    Judges document live endpoint done step (comparison.expect step.expectation) := by
  cases hexpectation : step.expectation with
  | block b =>
      have hstep : step.element? = some (.block b) := by
        simp [ScriptStep.element?, Expectation.element?, hexpectation]
      exact hfollows.consume hstep
  | parameter p =>
      have hstep : step.element? = some (.parameter p) := by
        simp [ScriptStep.element?, Expectation.element?, hexpectation]
      exact hfollows.consume hstep
  | endpoint e => exact hfollows.expectEndpoint hexpectation
  | undocumented =>
      have hmet : step.Met endpoint := by
        intro e he
        simp [hexpectation] at he
      have hstep : step.element? = none := by
        simp [ScriptStep.element?, Expectation.element?, hexpectation]
      exact hfollows.met_step hstep hmet comparison.endpointExpected
        (by simp [hexpectation])

/-- A step is met and followed, or it is where the page drifts. -/
theorem Comparison.Follows.take
    (hfollows : comparison.Follows document live endpoint done) (step : ScriptStep) :
    Judges document live endpoint done step (comparison.take step) := by
  have hexpect := hfollows.expect step
  rcases hafter : comparison.expect step.expectation with ⟨drift | ⟨⟩, after⟩
  · rw [hafter] at hexpect
    rw [Comparison.take, Comparator.answer_of_drift hafter]
    exact hexpect
  · rw [hafter] at hexpect
    rw [Comparison.take, Comparator.answer_of_met hafter]
    exact Follows.queue hexpect _

/-- A script is followed to its end, or it stops where the page drifts. -/
theorem Comparison.Follows.follow
    (hfollows : comparison.Follows document live endpoint done) (rest : List ScriptStep) :
    match comparison.follow rest with
    | .ok after => after.Follows document live endpoint (done ++ rest)
    | .error drift =>
      drift.document = document ∧
        DriftsAt live endpoint (done ++ rest) drift.position drift.kind := by
  induction rest generalizing comparison done with
  | nil =>
      rw [List.append_nil]
      exact hfollows
  | cons step rest ih =>
      have htake := hfollows.take step
      rw [Comparison.follow]
      cases hstep : comparison.take step with
      | mk outcome after =>
          rw [hstep] at htake
          cases outcome with
          | ok =>
              rw [List.append_cons]
              exact ih htake
          | error drift => exact ⟨htake.1, htake.2 rest⟩

/-- At the end of a script the page is as recorded, or what was not expected is a drift. -/
theorem Comparison.Follows.leftover?
    (hfollows : comparison.Follows document live endpoint done) :
    match comparison.leftover? with
    | none => Faithful live endpoint done
    | some drift =>
      drift.document = document ∧
        DriftsAt live endpoint done drift.position drift.kind := by
  obtain ⟨tail, hlive⟩ := hfollows.found
  have hcommon : (expectedElements done).length =
      commonPrefixLength (expectedElements done) live := by
    rw [← hlive, commonPrefixLength_left]
  have hposition := hfollows.position_eq.trans hcommon
  unfold Comparator.leftover?
  cases hactual : comparison.elements[comparison.position]? with
  | some actual =>
      refine ⟨hfollows.document_eq, ?_⟩
      rw [Comparator.driftAt, Comparator.remaining, hfollows.elements_eq, hposition]
      rw [hfollows.elements_eq, hposition] at hactual
      exact .leftover hfollows.met hcommon hactual
  | none =>
      have hall : expectedElements done = live := by
        rw [hfollows.elements_eq, hfollows.position_eq, List.getElem?_eq_none_iff]
          at hactual
        exact hfollows.found.eq_of_length_le hactual
      cases hendpoint : comparison.endpoint with
      | none =>
          exact ⟨hall, hfollows.met, Or.inl (hfollows.endpoint_eq.symm.trans hendpoint)⟩
      | some actual =>
          by_cases hexpected : comparison.endpointExpected = true
          · simp only [hexpected, if_true]
            exact ⟨hall, hfollows.met, Or.inr (hfollows.expected_iff.1 hexpected)⟩
          · simp only [hexpected]
            refine ⟨hfollows.document_eq, ?_⟩
            rw [Comparator.driftAt, hfollows.position_eq, hall]
            refine .unexpectedEndpoint hall (fun step hstep e he => hexpected ?_)
              (hfollows.endpoint_eq.symm.trans hendpoint)
            exact hfollows.expected_iff.2 ⟨step, hstep, e, he⟩

/-! ## Steps that are met -/

theorem getElem?_of_isPrefix
    {before rest live : List Element} {expected : Element}
    (hfound : before ++ expected :: rest <+: live) :
    live[before.length]? = some expected := by
  obtain ⟨tail, rfl⟩ := hfound
  simp

theorem Comparison.Follows.exists_take
    (hfollows : comparison.Follows document live endpoint done) (hmet : step.Met endpoint)
    (hfound : expectedElements (done ++ [step]) <+: live) :
    ∃ after, comparison.take step = (.ok (), after) := by
  have hexpect : ∃ after, comparison.expect step.expectation = (.ok (), after) := by
    cases helement : step.element? with
    | some expected =>
        rw [expectedElements_append, expectedElements_cons_of_element helement] at hfound
        have hactual := getElem?_of_isPrefix hfound
        rw [← hfollows.position_eq, ← hfollows.elements_eq] at hactual
        rw [Comparator.expect_of_element helement, Comparator.consume, hactual]
        exact ⟨_, if_pos rfl⟩
    | none =>
        cases hexpectation : step.expectation with
        | block b =>
            simp [ScriptStep.element?, Expectation.element?, hexpectation] at helement
        | parameter p =>
            simp [ScriptStep.element?, Expectation.element?, hexpectation] at helement
        | undocumented => exact ⟨_, rfl⟩
        | endpoint e =>
            obtain ⟨hendpoint, hdeclared⟩ := hmet e hexpectation
            rw [← hfollows.endpoint_eq] at hendpoint
            simp [Comparator.expect, Comparator.expectEndpoint, hendpoint,
              e.undeclared?_eq_none_iff.2 hdeclared]
  obtain ⟨after, hafter⟩ := hexpect
  exact ⟨_, Comparator.answer_of_met hafter⟩

theorem Comparison.Follows.exists_follow
    (hfollows : comparison.Follows document live endpoint done)
    (hmet : ∀ step ∈ rest, step.Met endpoint)
    (hfound : expectedElements (done ++ rest) <+: live) :
    ∃ after, comparison.follow rest = .ok after ∧
      after.Follows document live endpoint (done ++ rest) := by
  induction rest generalizing comparison done with
  | nil => exact ⟨comparison, rfl, by rwa [List.append_nil]⟩
  | cons step rest ih =>
      rw [List.forall_mem_cons] at hmet
      rw [List.append_cons] at hfound ⊢
      have hstep : expectedElements (done ++ [step]) <+: live := by
        rw [expectedElements_append] at hfound
        exact (List.prefix_append _ _).trans hfound
      obtain ⟨next, htake⟩ := hfollows.exists_take hmet.1 hstep
      have hnext := hfollows.take step
      rw [htake] at hnext
      obtain ⟨after, hafter, hfollows'⟩ := ih hnext hmet.2 hfound
      refine ⟨after, ?_, hfollows'⟩
      rw [Comparison.follow, htake]
      exact hafter

theorem Comparison.follow_append
    {comparison between : Comparison} (hbefore : comparison.follow done = .ok between) :
    comparison.follow (done ++ rest) = between.follow rest := by
  induction done generalizing comparison with
  | nil =>
      obtain rfl : comparison = between := by simpa [Comparison.follow] using hbefore
      rfl
  | cons first done ih =>
      rw [List.cons_append, Comparison.follow]
      rw [Comparison.follow] at hbefore
      split at hbefore
      · next after hafter => exact ih hbefore
      · contradiction

end Following

section Verdict

variable {document : String} {live : List Element} {endpoint : Option Endpoint}
  {script : List ScriptStep} {state : BuildState}

theorem reportedDrift_of_follow
    {comparison : Comparison}
    (hfollow : Comparison.follow { document, elements := live, endpoint } script =
      .ok comparison) :
    reportedDrift document live endpoint script state = comparison.leftover? := by
  rw [reportedDrift, hfollow]
  simp only [Comparator.finish]
  cases comparison.leftover? with
  | some drift => rfl
  | none =>
      simp only
      split
      · next error herror =>
        split at herror
        · simp at herror
        · next fault after hqueued =>
          obtain rfl : .schema fault = error := by simpa using herror
          rfl
      · rfl

/-- What is reported is true. -/
theorem reportedDrift_sound
    (document : String) (live : List Element) (endpoint : Option Endpoint)
    (script : List ScriptStep) (state : BuildState) :
    match reportedDrift document live endpoint script state with
    | none => Faithful live endpoint script
    | some drift =>
      drift.document = document ∧
        DriftsAt live endpoint script drift.position drift.kind := by
  have hfollow := (Comparison.follows_start document live endpoint).follow script
  rw [List.nil_append] at hfollow
  cases houtcome : Comparison.follow { document, elements := live, endpoint } script with
  | ok comparison =>
      rw [houtcome] at hfollow
      rw [reportedDrift_of_follow houtcome]
      exact Comparison.Follows.leftover? hfollow
  | error drift =>
      rw [houtcome] at hfollow
      rw [reportedDrift, houtcome]
      exact hfollow

theorem exists_follow_of_met
    (document : String) {before : List ScriptStep}
    (hmet : ∀ step ∈ before, step.Met endpoint)
    (hfound : expectedElements before <+: live) :
    ∃ comparison, Comparison.follow { document, elements := live, endpoint } before =
        .ok comparison ∧ comparison.Follows document live endpoint before :=
  (Comparison.follows_start document live endpoint).exists_follow hmet hfound

/-- A step that refuses the page after all the earlier ones are met is where the drift
is. -/
theorem reportedDrift_of_step
    {before after : List ScriptStep} {step : ScriptStep} {kind : DriftKind}
    (hmet : ∀ earlier ∈ before, earlier.Met endpoint)
    (hfound : expectedElements before <+: live)
    (hrefused : ∀ comparison, Comparison.Follows document live endpoint before comparison →
      ∃ next, comparison.expect step.expectation =
        (.error (comparison.driftAt kind), next)) :
    reportedDrift document live endpoint (before ++ step :: after) state =
      some { document, position := (expectedElements before).length, kind } := by
  obtain ⟨comparison, hfollow, hfollows⟩ := exists_follow_of_met document hmet hfound
  obtain ⟨next, hnext⟩ := hrefused comparison hfollows
  rw [reportedDrift, Comparison.follow_append hfollow, Comparison.follow, Comparison.take,
    Comparator.answer_of_drift hnext]
  simp only [Comparator.driftAt, hfollows.document_eq, hfollows.position_eq]

theorem reportedDrift_of_faithful (hfaithful : Faithful live endpoint script) :
    reportedDrift document live endpoint script state = none := by
  have hfound : expectedElements script <+: live :=
    hfaithful.elements_eq ▸ List.prefix_refl _
  obtain ⟨comparison, hfollow, hfollows⟩ :=
    exists_follow_of_met document hfaithful.endpoints_met hfound
  have hend : comparison.elements[comparison.position]? = none := by
    rw [hfollows.elements_eq, hfollows.position_eq, hfaithful.elements_eq]
    exact List.getElem?_eq_none (Nat.le_refl _)
  rw [reportedDrift_of_follow hfollow, Comparator.leftover?, hend, hfollows.endpoint_eq]
  rcases hfaithful.endpoint_expected with hnone | hexpected
  · rw [hnone]
  · rw [hfollows.expected_iff.2 hexpected]
    cases endpoint <;> rfl

theorem ne_of_length_eq_commonPrefixLength
    {before rest live : List Element} {expected actual : Element}
    (hcommon : before.length = commonPrefixLength (before ++ expected :: rest) live)
    (hactual : live[before.length]? = some actual) : actual ≠ expected := by
  obtain ⟨tail, rfl⟩ := isPrefix_of_length_eq_commonPrefixLength hcommon
  rw [List.getElem?_append_right (Nat.le_refl _), Nat.sub_self] at hactual
  rw [commonPrefixLength_append] at hcommon
  rintro rfl
  cases tail with
  | nil => simp at hactual
  | cons first tail =>
      obtain rfl : first = actual := by simpa using hactual
      rw [commonPrefixLength, if_pos rfl] at hcommon
      omega

/-- What is true is reported. -/
theorem reportedDrift_of_driftsAt
    {position : Nat} {kind : DriftKind}
    (hdrifts : DriftsAt live endpoint script position kind) :
    reportedDrift document live endpoint script state =
      some { document, position, kind } := by
  cases hdrifts with
  | @mismatch before after step expected actual hscript hmet hstep hcommon hactual =>
      rw [← hcommon] at hactual ⊢
      rw [hscript, expectedElements_append, expectedElements_cons_of_element hstep]
        at hcommon
      have hfound := isPrefix_of_length_eq_commonPrefixLength hcommon
      have hne := ne_of_length_eq_commonPrefixLength hcommon hactual
      rw [hscript]
      refine reportedDrift_of_step hmet hfound fun comparison hfollows => ?_
      rw [← hfollows.position_eq, ← hfollows.elements_eq] at hactual
      rw [Comparator.expect_of_element hstep, Comparator.consume, hactual]
      exact ⟨comparison, if_neg hne⟩
  | @missing before after step expected hscript hmet hstep hcommon hend =>
      rw [← hcommon] at hend ⊢
      rw [hscript, expectedElements_append, expectedElements_cons_of_element hstep]
        at hcommon
      have hfound := isPrefix_of_length_eq_commonPrefixLength hcommon
      rw [hscript]
      refine reportedDrift_of_step hmet hfound fun comparison hfollows => ?_
      have hactual : comparison.elements[comparison.position]? = none := by
        rw [hfollows.elements_eq, hfollows.position_eq]
        exact List.getElem?_eq_none (Nat.le_of_eq hend)
      rw [Comparator.expect_of_element hstep, Comparator.consume, hactual]
      exact ⟨comparison, rfl⟩
  | @leftover actual hmet hcommon hactual =>
      rw [← hcommon] at hactual ⊢
      have hfound : expectedElements script <+: live := by
        refine @isPrefix_of_length_eq_commonPrefixLength _ [] _ ?_
        rwa [List.append_nil]
      obtain ⟨comparison, hfollow, hfollows⟩ := exists_follow_of_met document hmet hfound
      rw [← hfollows.position_eq, ← hfollows.elements_eq] at hactual
      rw [reportedDrift_of_follow hfollow, Comparator.leftover?, hactual,
        ← hfollows.position_eq, ← hfollows.document_eq, ← hfollows.elements_eq]
      rfl
  | @missingEndpoint before after step expected hscript hmet hfound hstep hendpoint =>
      rw [hscript]
      refine reportedDrift_of_step hmet hfound fun comparison hfollows => ?_
      rw [← hfollows.endpoint_eq] at hendpoint
      rw [hstep, Comparator.expect, Comparator.expectEndpoint, hendpoint]
      exact ⟨_, rfl⟩
  | @endpoint before after step expected actual hscript hmet hfound hstep
      hendpoint hdiffers =>
      rw [hscript]
      refine reportedDrift_of_step hmet hfound fun comparison hfollows => ?_
      rw [← hfollows.endpoint_eq] at hendpoint
      rw [hstep, Comparator.expect, Comparator.expectEndpoint, hendpoint]
      exact ⟨_, if_neg hdiffers⟩
  | @undeclaredPathParameter before after step expected declared later name
      hscript hmet hfound
      hstep hendpoint hplaceholders hdeclared hundeclared =>
      have hname : expected.undeclared? = some name :=
        (expected.undeclared?_eq_some_iff name).2
          ⟨declared, later, hplaceholders, hdeclared, hundeclared⟩
      rw [hscript]
      refine reportedDrift_of_step hmet hfound fun comparison hfollows => ?_
      rw [← hfollows.endpoint_eq] at hendpoint
      rw [hstep, Comparator.expect, Comparator.expectEndpoint, hendpoint]
      simp only [if_true, hname]
      exact ⟨_, rfl⟩
  | @unexpectedEndpoint actual hfound hnone hendpoint =>
      have hmet : ∀ step ∈ script, step.Met endpoint :=
        fun step hstep e he => (hnone step hstep e he).elim
      have hprefix : expectedElements script <+: live := hfound ▸ List.prefix_refl _
      obtain ⟨comparison, hfollow, hfollows⟩ := exists_follow_of_met document hmet hprefix
      have hend : comparison.elements[comparison.position]? = none := by
        rw [hfollows.elements_eq, hfollows.position_eq, hfound]
        exact List.getElem?_eq_none (Nat.le_refl _)
      have hexpected : ¬ comparison.endpointExpected = true := by
        rw [hfollows.expected_iff]
        rintro ⟨step, hstep, e, he⟩
        exact hnone step hstep e he
      rw [← hfollows.endpoint_eq] at hendpoint
      rw [reportedDrift_of_follow hfollow, Comparator.leftover?, hend, hendpoint, ← hfound,
        ← hfollows.position_eq, ← hfollows.document_eq]
      exact if_neg hexpected

/-- A comparison reports nothing of a page that is as recorded, and of any other page where
and how it first differs. -/
theorem reportedDrift_exact
    (document : String) (live : List Element) (endpoint : Option Endpoint)
    (script : List ScriptStep) (state : BuildState) :
    (reportedDrift document live endpoint script state = none ↔
      Faithful live endpoint script) ∧
      ∀ drift, reportedDrift document live endpoint script state = some drift ↔
        drift.document = document ∧
        DriftsAt live endpoint script drift.position drift.kind := by
  have hsound := reportedDrift_sound document live endpoint script state
  constructor
  · refine ⟨fun hnone => ?_, reportedDrift_of_faithful⟩
    rw [hnone] at hsound
    exact hsound
  · refine fun drift => ⟨fun hsome => ?_, ?_⟩
    · rw [hsome] at hsound
      exact hsound
    · rintro ⟨rfl, hdrifts⟩
      exact reportedDrift_of_driftsAt hdrifts

end Verdict

end DocContract
