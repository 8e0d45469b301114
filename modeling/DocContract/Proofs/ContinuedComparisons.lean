import DocContract.Proofs.RunOutcomes

/-!
# Comparisons that go on after a drift

A script ends at its first drift, but a comparison can be asked for more.  A call that
meets a drift moves nothing and queues nothing, and a call for the endpoint counts as made
whatever it has met.  What decides at the end is therefore what has been found, and not
what has been reported: a drift is forgotten as soon as the other calls cover the page.
All this holds whatever the queued actions are and whatever they work on.
-/

namespace DocContract

/-- A call that was made, with the drift it has met. -/
structure Answered (σ : Type) where
  call : Call σ
  drift? : Option Drift

section Sessions

variable {σ : Type}

/-- The calls that met no drift, in order. -/
def callsMet (answered : List (Answered σ)) : List (Call σ) :=
  (answered.filter (·.drift?.isNone)).map Answered.call

def Call.element? (call : Call σ) : Option Element :=
  call.expectation.element?

def Call.asksEndpoint (call : Call σ) : Bool :=
  match call.expectation with
  | .endpoint _ => true
  | _ => false

def calledElements (calls : List (Call σ)) : List Element :=
  calls.filterMap Call.element?

theorem Call.asksEndpoint_iff (call : Call σ) :
    call.asksEndpoint = true ↔ ∃ e, call.expectation = .endpoint e := by
  unfold asksEndpoint
  cases call.expectation <;> simp

namespace Comparator

/-- What a call leaves that meets a drift. -/
def asked (comparison : Comparator σ) (call : Call σ) : Comparator σ :=
  { comparison with endpointExpected := comparison.endpointExpected || call.asksEndpoint }

/-- What a call leaves that is met. -/
def advanced (comparison : Comparator σ) (call : Call σ) : Comparator σ :=
  { comparison.asked call with
    position := comparison.position + call.element?.toList.length
    queued := comparison.queued ++ call.queued?.toList }

def driftIn : Except Drift Unit → Option Drift
  | .ok () => none
  | .error drift => some drift

/-- Answers all calls, those after a drift too. -/
def answerAll (comparison : Comparator σ) :
    List (Call σ) → List (Answered σ) × Comparator σ
  | [] => ([], comparison)
  | call :: calls =>
    let rest := (comparison.answer call).2.answerAll calls
    ({ call, drift? := driftIn (comparison.answer call).1 } :: rest.1, rest.2)

theorem answer_of_element
    {comparison : Comparator σ} {call : Call σ} {expected : Element}
    (hcall : call.element? = some expected) :
    comparison.answer call = (.ok (), comparison.advanced call) ∧
        comparison.elements[comparison.position]? = some expected ∨
      ∃ drift, comparison.answer call = (.error drift, comparison.asked call) := by
  have hasks : call.asksEndpoint = false := by
    cases hexpectation : call.expectation <;>
      simp [Call.element?, Expectation.element?, Call.asksEndpoint, hexpectation]
        at hcall ⊢
  have hasked : comparison.asked call = comparison := by
    rw [asked, hasks, Bool.or_false]
  rw [answer, expect_of_element hcall, consume, advanced, hasked]
  cases hactual : comparison.elements[comparison.position]? with
  | none => exact Or.inr ⟨_, rfl⟩
  | some actual =>
      by_cases hsame : actual = expected
      · refine Or.inl ⟨?_, by rw [hsame]⟩
        simp only [if_pos hsame, hcall]
        rfl
      · refine Or.inr ⟨comparison.driftAt (.mismatch expected actual), ?_⟩
        simp only [if_neg hsame]

theorem answer_of_endpoint
    {comparison : Comparator σ} {call : Call σ} {expected : Endpoint}
    (hcall : call.expectation = .endpoint expected) :
    comparison.answer call = (.ok (), comparison.advanced call) ∨
      ∃ drift, comparison.answer call = (.error drift, comparison.asked call) := by
  have hasked : comparison.asked call = { comparison with endpointExpected := true } := by
    rw [asked, call.asksEndpoint_iff.2 ⟨expected, hcall⟩, Bool.or_true]
  have helement : call.element? = none := by
    simp [Call.element?, Expectation.element?, hcall]
  rw [answer, advanced, hasked, helement, hcall, expect, expectEndpoint]
  cases hactual : comparison.endpoint with
  | none => exact Or.inr ⟨_, rfl⟩
  | some actual =>
      by_cases hsame : actual = expected
      · simp only [if_pos hsame]
        cases hundeclared : actual.undeclared? with
        | none => exact Or.inl rfl
        | some name => exact Or.inr ⟨_, rfl⟩
      · simp only [if_neg hsame]
        exact Or.inr ⟨_, rfl⟩

/-- A call that is met takes the comparison on, and one that is not leaves it as it was,
but for the note that the endpoint was asked for. -/
theorem answer_cases (comparison : Comparator σ) (call : Call σ) :
    (comparison.answer call = (.ok (), comparison.advanced call) ∧
        ∀ expected, call.element? = some expected →
          comparison.elements[comparison.position]? = some expected) ∨
      ∃ drift, comparison.answer call = (.error drift, comparison.asked call) := by
  cases helement : call.element? with
  | some expected =>
      rcases answer_of_element helement with ⟨hmet, hactual⟩ | hdrifts
      · refine Or.inl ⟨hmet, ?_⟩
        rintro _ ⟨⟩
        exact hactual
      · exact Or.inr hdrifts
  | none =>
      cases hexpectation : call.expectation with
      | block b => simp [Call.element?, Expectation.element?, hexpectation] at helement
      | parameter p => simp [Call.element?, Expectation.element?, hexpectation] at helement
      | endpoint e =>
          rcases answer_of_endpoint hexpectation with hmet | hdrifts
          · exact Or.inl ⟨hmet, by simp⟩
          · exact Or.inr hdrifts
      | undocumented =>
          refine Or.inl ⟨?_, by simp⟩
          have hasks : call.asksEndpoint = false := by
            simp [Call.asksEndpoint, hexpectation]
          rw [answer, advanced, asked, hasks, helement, hexpectation, expect,
            Bool.or_false]
          rfl

/-- Where a comparison stands after some calls were made, of which these were met. -/
structure Stands (document : String) (live : List Element) (endpoint : Option Endpoint)
    (made met : List (Call σ)) (comparison : Comparator σ) : Prop where
  document_eq : comparison.document = document
  elements_eq : comparison.elements = live
  endpoint_eq : comparison.endpoint = endpoint
  position_eq : comparison.position = (calledElements met).length
  found : calledElements met <+: live
  asked_iff : comparison.endpointExpected = true ↔ ∃ call ∈ made, call.asksEndpoint = true
  queued_eq : comparison.queued = actionsOf met

section Calls

variable {document : String} {live : List Element} {endpoint : Option Endpoint}
  {made met : List (Call σ)} {comparison : Comparator σ}

theorem stands_start (document : String) (live : List Element)
    (endpoint : Option Endpoint) :
    Stands document live endpoint [] []
      ({ document, elements := live, endpoint } : Comparator σ) := by
  constructor <;> simp [calledElements, actionsOf]

theorem Stands.asked (hstands : comparison.Stands document live endpoint made met)
    (call : Call σ) :
    (comparison.asked call).Stands document live endpoint (made ++ [call]) met := by
  constructor
  · exact hstands.document_eq
  · exact hstands.elements_eq
  · exact hstands.endpoint_eq
  · exact hstands.position_eq
  · exact hstands.found
  · rw [Comparator.asked, Bool.or_eq_true, hstands.asked_iff]
    simp [or_and_right, exists_or]
  · exact hstands.queued_eq

theorem isPrefix_append_getElem? {found live : List Element} {expected : Element}
    (hfound : found <+: live) (hexpected : live[found.length]? = some expected) :
    found ++ [expected] <+: live := by
  obtain ⟨tail, rfl⟩ := hfound
  rw [List.getElem?_append_right (Nat.le_refl _), Nat.sub_self] at hexpected
  cases tail with
  | nil => simp at hexpected
  | cons first tail =>
      obtain rfl : first = expected := by simpa using hexpected
      exact ⟨tail, by simp⟩

theorem Stands.advanced (hstands : comparison.Stands document live endpoint made met)
    {call : Call σ}
    (hactual : ∀ expected, call.element? = some expected →
      comparison.elements[comparison.position]? = some expected) :
    (comparison.advanced call).Stands document live endpoint (made ++ [call])
      (met ++ [call]) := by
  have hasked := hstands.asked call
  have helements : calledElements (met ++ [call]) =
      calledElements met ++ call.element?.toList := by
    rw [calledElements, List.filterMap_append]
    cases helement : call.element? <;> simp [calledElements, helement]
  constructor
  · exact hasked.document_eq
  · exact hasked.elements_eq
  · exact hasked.endpoint_eq
  · rw [helements, List.length_append, ← hstands.position_eq]
    rfl
  · rw [helements]
    cases helement : call.element? with
    | none => simpa using hstands.found
    | some expected =>
        have hnext := hactual expected helement
        rw [hstands.elements_eq, hstands.position_eq] at hnext
        exact isPrefix_append_getElem? hstands.found hnext
  · exact hasked.asked_iff
  · rw [actionsOf, List.filterMap_append, ← actionsOf, ← hstands.queued_eq]
    cases hqueued : call.queued? <;> simp [Comparator.advanced, Comparator.asked, hqueued]

/-- A run of calls: whatever met a drift among them, the comparison stands where those that
were met have taken it. -/
theorem Stands.answerAll (hstands : comparison.Stands document live endpoint made met)
    (calls : List (Call σ)) :
    (comparison.answerAll calls).2.Stands document live endpoint (made ++ calls)
      (met ++ callsMet (comparison.answerAll calls).1) := by
  induction calls generalizing comparison made met with
  | nil => simpa [Comparator.answerAll, callsMet] using hstands
  | cons call calls ih =>
      rw [List.append_cons]
      rcases comparison.answer_cases call with ⟨hanswer, hactual⟩ | ⟨drift, hanswer⟩
      · have hnext := ih (hstands.advanced hactual)
        rw [List.append_assoc] at hnext
        simpa [Comparator.answerAll, hanswer, driftIn, callsMet] using hnext
      · have hnext := ih (hstands.asked call)
        simpa [Comparator.answerAll, hanswer, driftIn, callsMet] using hnext

/-- The calls that were met, with what was asked for, cover a page. -/
def Covers (live : List Element) (endpoint : Option Endpoint) (made met : List (Call σ)) :
    Prop :=
  calledElements met = live ∧ (endpoint = none ∨ ∃ call ∈ made, call.asksEndpoint = true)

theorem Stands.leftover?_eq_none_iff
    (hstands : comparison.Stands document live endpoint made met) :
    comparison.leftover? = none ↔ Covers live endpoint made met := by
  have hend : comparison.elements[comparison.position]? = none ↔
      calledElements met = live := by
    rw [hstands.elements_eq, hstands.position_eq, List.getElem?_eq_none_iff]
    constructor
    · exact hstands.found.eq_of_length_le
    · exact fun hall => Nat.le_of_eq (congrArg List.length hall.symm)
  rw [Covers, ← hend, ← hstands.asked_iff, ← hstands.endpoint_eq, leftover?]
  cases comparison.elements[comparison.position]? with
  | some actual => simp
  | none =>
      cases comparison.endpoint with
      | none => simp
      | some actual => simp

theorem finish_of_leftover {drift : Drift} (hleftover : comparison.leftover? = some drift)
    (session : σ) : comparison.finish session = (.error (.drift drift), session) := by
  rw [finish, hleftover]

theorem Stands.finish_of_covers
    (hstands : comparison.Stands document live endpoint made met)
    (hcovers : Covers live endpoint made met) (session : σ) :
    comparison.finish session =
      match runQueued session (actionsOf met) with
      | (.ok (), after) => (.ok (), after)
      | (.error fault, after) => (.error (.schema fault), after) := by
  have hleftover := hstands.leftover?_eq_none_iff.2 hcovers
  rcases hrun : runQueued session (actionsOf met) with ⟨_ | _, after⟩
  · simp only [finish, hleftover, hstands.queued_eq, hrun]
  · simp only [finish, hleftover, hstands.queued_eq, hrun]

end Calls

/-- A comparison of the same page at the same place, with another queue for another
session. -/
def withQueue {τ : Type} (comparison : Comparator σ) (queued : List (SessionAction τ)) :
    Comparator τ :=
  { document := comparison.document
    elements := comparison.elements
    endpoint := comparison.endpoint
    position := comparison.position
    endpointExpected := comparison.endpointExpected
    queued }

/-- What is queued has no part in what a comparison finds. -/
theorem expect_withQueue {τ : Type} (comparison : Comparator σ)
    (queued : List (SessionAction τ)) (expectation : Expectation) :
    (comparison.withQueue queued).expect expectation =
      ((comparison.expect expectation).1,
        (comparison.expect expectation).2.withQueue queued) := by
  have hconsume : ∀ expected, (comparison.withQueue queued).consume expected =
      ((comparison.consume expected).1,
       (comparison.consume expected).2.withQueue queued) := by
    intro expected
    simp only [consume, withQueue]
    cases comparison.elements[comparison.position]? with
    | none => rfl
    | some actual => by_cases hsame : actual = expected <;> simp [hsame, driftAt]
  cases expectation with
  | block b => exact hconsume _
  | parameter p => exact hconsume _
  | undocumented => rfl
  | endpoint expected =>
      simp only [expect, expectEndpoint, withQueue]
      cases comparison.endpoint with
      | none => rfl
      | some actual =>
          by_cases hsame : actual = expected
          · simp only [if_pos hsame]
            cases actual.undeclared? <;> rfl
          · simp only [if_neg hsame]
            rfl

/-- A step of a script is taken as a call is answered that expects the same. -/
theorem exists_take_withQueue
    (comparison : Comparator σ) {call : Call σ} {step : ScriptStep}
    (hsame : step.expectation = call.expectation)
    (queued : List (SessionAction BuildState)) :
    ∃ later, Comparison.take (comparison.withQueue queued) step =
      ((comparison.answer call).1, (comparison.answer call).2.withQueue later) := by
  have hexpect := comparison.expect_withQueue queued step.expectation
  rw [hsame] at hexpect
  rcases hcall : comparison.expect call.expectation with ⟨drift | ⟨⟩, after⟩
  · rw [hcall, ← hsame] at hexpect
    rw [answer_of_drift hcall]
    exact ⟨queued, answer_of_drift hexpect⟩
  · rw [hcall, ← hsame] at hexpect
    have htake : Comparison.take (comparison.withQueue queued) step = (.ok (), _) :=
      answer_of_met hexpect
    rw [answer_of_met hcall]
    exact ⟨_, htake⟩

/-- A script that expects what some calls do ends in a drift just if one of them meets
one. -/
theorem exists_follow_error_iff (comparison : Comparator σ) {calls : List (Call σ)}
    {script : List ScriptStep}
    (hsame : script.map (·.expectation) = calls.map (·.expectation))
    (queued : List (SessionAction BuildState)) :
    (∃ drift, Comparison.follow (comparison.withQueue queued) script = .error drift) ↔
      ∃ answered ∈ (comparison.answerAll calls).1, answered.drift? ≠ none := by
  induction calls generalizing comparison script queued with
  | nil =>
      obtain rfl := List.map_eq_nil_iff.1 hsame
      simp [Comparison.follow, answerAll]
  | cons call calls ih =>
      obtain ⟨step, script, rfl, hstep, hrest⟩ := List.map_eq_cons_iff.1 hsame
      obtain ⟨later, htake⟩ := comparison.exists_take_withQueue hstep queued
      rcases hanswer : comparison.answer call with ⟨drift | ⟨⟩, after⟩
      · simp [Comparison.follow, htake, hanswer, answerAll, driftIn]
      · simp [Comparison.follow, htake, hanswer, answerAll, driftIn, ih after hrest later]

end Comparator

/-- Some call meets a drift just if a script that expects the same ends in one, and then
the document fails and the registry is left as it was found.  But a caller that goes on can
end with success: at the end the drift that is reported is that of what is left over, and
if what was met covers the page the actions of the calls that were met are run, whatever
drifts there were on the way. -/
theorem finish_of_calls
    (document : String) (live : List Element) (endpoint : Option Endpoint)
    (calls : List (Call σ)) (session : σ) :
    let start : Comparator σ := { document, elements := live, endpoint }
    let answered := (start.answerAll calls).1
    let ended := (start.answerAll calls).2
    (∀ script : List ScriptStep, script.map (·.expectation) = calls.map (·.expectation) →
        let begun : Comparison := { document, elements := live, endpoint }
        ((∃ call ∈ answered, call.drift? ≠ none) ↔
            ∃ drift, begun.follow script = .error drift) ∧
          ((∃ call ∈ answered, call.drift? ≠ none) →
            ∀ source conversion found, Conversion.open conversion source = .ok begun →
              conversion.script = script →
                ∃ drift, conversion.run source found = (.error (.drift drift), found))) ∧
      (¬ Comparator.Covers live endpoint calls (callsMet answered) →
        ∃ drift, ended.finish session = (.error (.drift drift), session)) ∧
      (Comparator.Covers live endpoint calls (callsMet answered) →
        ended.finish session =
          match Comparator.runQueued session (actionsOf (callsMet answered)) with
          | (.ok (), after) => (.ok (), after)
          | (.error fault, after) => (.error (.schema fault), after)) := by
  intro start answered ended
  have hstands : ended.Stands document live endpoint calls (callsMet answered) :=
    (Comparator.stands_start document live endpoint).answerAll calls
  refine ⟨?_, ?_, ?_⟩
  · intro script hsame begun
    have hstops := start.exists_follow_error_iff hsame []
    refine ⟨hstops.symm, ?_⟩
    rintro hdrifts source conversion found hopen rfl
    obtain ⟨drift, hdrift⟩ := hstops.2 hdrifts
    refine ⟨drift, ?_⟩
    rw [Conversion.run, hopen]
    simp only [show begun.follow conversion.script = .error drift from hdrift]
  · intro huncovered
    rw [← hstands.leftover?_eq_none_iff, ← Ne, Option.ne_none_iff_exists'] at huncovered
    obtain ⟨drift, hdrift⟩ := huncovered
    exact ⟨drift, Comparator.finish_of_leftover hdrift session⟩
  · exact fun hcovers => hstands.finish_of_covers hcovers session

end Sessions

/-- Calls of which the first, the third and the fourth meet drifts: another paragraph than
the one of the page, one more than it has, and another endpoint. -/
def hastyCalls : List (Call BuildState) :=
  [.seen ⟨.paragraph, "Users."⟩, .seen ⟨.paragraph, "People."⟩,
   .seen ⟨.paragraph, "Users."⟩,
    .endpoint ⟨.get, "/users", []⟩ [], .undocumented [.addRecord "User" ""]].map
      (ScriptStep.call "user")

/-- All three drifts are forgotten. -/
theorem drifts_forgotten :
    let start : Comparison :=
      { document := "user", elements := [.block ⟨.paragraph, "People."⟩],
        endpoint := some ⟨.get, "/people", []⟩ }
    (start.answerAll hastyCalls).1.map (·.drift?.isSome) =
      [true, false, true, true, false] ∧
      (start.answerAll hastyCalls).2.finish {} =
        (.ok (), { symbols := [.emptyRecord "User" "" none] }) := by
  exact ⟨rfl, rfl⟩

end DocContract
