import DocContract.Proofs.ContinuedComparisons
import Mathlib.Data.List.Pairwise

/-!
# Queued actions

A call that is met moves the comparison on and attaches its action, if it has one, to what
it has matched; a call that meets a drift does neither.  So at any time what has been found
is the front of the page, and the queue holds the actions of the calls that were met, in
order.  At the end they are performed on a session from the first on, each on what the one
before it has left, if the whole page was found; the first that fails is the last.
-/

namespace DocContract

/-- An action with the call that attaches it and what that call has matched. -/
structure Attached (σ : Type) where
  /-- The place of the call among all calls. -/
  number : Nat
  matched : Expectation
  action : Expectation → SessionAction σ

section Sessions

variable {σ : Type}

/-- An action on what its call has matched. -/
def Attached.onMatched (attached : Attached σ) : SessionAction σ :=
  attached.action attached.matched

/-- The actions that some calls attach: those of the calls that were met, each once and in
order. -/
structure Attaches (calls : List (Answered σ)) (attached : List (Attached σ)) : Prop where
  ascending : attached.Pairwise fun a b => a.number < b.number
  mem_iff : ∀ a, a ∈ attached ↔ ∃ made, calls[a.number]? = some made ∧ made.drift? = none ∧
    made.call.expectation = a.matched ∧ made.call.action = some a.action

def Answered.attached? (made : Answered σ) (number : Nat) : Option (Attached σ) :=
  match made.drift? with
  | none => made.call.action.map fun action => ⟨number, made.call.expectation, action⟩
  | some _ => none

def attachedBy (calls : List (Answered σ)) : List (Attached σ) :=
  calls.zipIdx.filterMap fun (made, number) => made.attached? number

theorem Answered.attached?_eq_some_iff (made : Answered σ) (number : Nat)
    (a : Attached σ) :
    made.attached? number = some a ↔
      number = a.number ∧ made.drift? = none ∧ made.call.expectation = a.matched ∧
        made.call.action = some a.action := by
  obtain ⟨place, matched, action⟩ := a
  unfold attached?
  cases made.drift? with
  | some drift => simp
  | none =>
      simp only [Option.map_eq_some_iff, Attached.mk.injEq, true_and]
      constructor
      · rintro ⟨found, hfound, rfl, rfl, rfl⟩
        exact ⟨rfl, rfl, hfound⟩
      · rintro ⟨rfl, rfl, hfound⟩
        exact ⟨action, hfound, rfl, rfl, rfl⟩

theorem attaches_attachedBy (calls : List (Answered σ)) :
    Attaches calls (attachedBy calls) := by
  constructor
  · have hnumbers : calls.zipIdx.Pairwise fun a b => a.2 < b.2 := by
      rw [← List.pairwise_map (f := Prod.snd) (R := (· < ·)), List.zipIdx_map_snd]
      exact List.pairwise_lt_range'
    refine List.Pairwise.filterMap _ (fun p q hpq a ha b hb => ?_) hnumbers
    have hplace := (p.1.attached?_eq_some_iff p.2 a).1 ha
    have hplace' := (q.1.attached?_eq_some_iff q.2 b).1 hb
    rwa [← hplace.1, ← hplace'.1]
  · intro a
    simp only [attachedBy, List.mem_filterMap, Prod.exists, Answered.attached?_eq_some_iff,
      List.mem_zipIdx_iff_getElem?]
    constructor
    · rintro ⟨made, number, hmade, rfl, hmet⟩
      exact ⟨made, hmade, hmet⟩
    · rintro ⟨made, hmade, hmet⟩
      exact ⟨made, a.number, hmade, rfl, hmet⟩

theorem map_onMatched_attachedBy (calls : List (Answered σ)) :
    (attachedBy calls).map Attached.onMatched = actionsOf (callsMet calls) := by
  have hfrom : ∀ start, ((calls.zipIdx start).filterMap fun (made, number) =>
      made.attached? number).map Attached.onMatched = actionsOf (callsMet calls) := by
    induction calls with
    | nil => simp [callsMet, actionsOf]
    | cons made calls ih =>
        intro start
        have hrest := ih (start + 1)
        rw [List.zipIdx_cons, List.filterMap_cons]
        cases hdrift : made.drift? with
        | some drift =>
            have hskipped : callsMet (made :: calls) = callsMet calls := by
              simp [callsMet, hdrift]
            simpa [Answered.attached?, hdrift, hskipped] using hrest
        | none =>
            have hmet : callsMet (made :: calls) = made.call :: callsMet calls := by
              simp [callsMet, hdrift]
            rw [hmet, actionsOf, List.filterMap_cons]
            cases haction : made.call.action with
            | none =>
                simpa [Answered.attached?, hdrift, haction, Call.queued?, actionsOf]
                  using hrest
            | some action =>
                simpa [Answered.attached?, hdrift, haction, Call.queued?,
                  Attached.onMatched, actionsOf] using hrest
  exact hfrom 0

/-- Actions are performed one after the other, each on what the one before it has left, up
to the first that fails: from a session, with what is queued, what of it is performed, the
outcome and what is left at the end. -/
inductive Performs :
    σ → List (Attached σ) → List (Attached σ) → Except SchemaError Unit → σ → Prop where
  | done {session : σ} : Performs session [] [] (.ok ()) session
  | next {session middle final : σ} {first : Attached σ} {later ran : List (Attached σ)}
      {outcome : Except SchemaError Unit}
      (hfirst : first.onMatched session = (.ok (), middle))
      (hlater : Performs middle later ran outcome final) :
      Performs session (first :: later) (first :: ran) outcome final
  | stops {session final : σ} {first : Attached σ} {later : List (Attached σ)}
      {fault : SchemaError}
      (hfirst : first.onMatched session = (.error fault, final)) :
      Performs session (first :: later) [first] (.error fault) final

theorem Performs.ran_isPrefix
    {session final : σ} {queued ran : List (Attached σ)}
    {outcome : Except SchemaError Unit}
    (hperforms : Performs session queued ran outcome final) :
    ran <+: queued ∧ (outcome = .ok () → ran = queued) := by
  induction hperforms with
  | done => exact ⟨List.prefix_refl [], fun _ => rfl⟩
  | next hfirst hlater ih =>
      exact ⟨(List.prefix_cons_inj _).2 ih.1, fun hok => congrArg _ (ih.2 hok)⟩
  | stops hfirst => exact ⟨⟨_, rfl⟩, fun hok => by contradiction⟩

theorem exists_performs (session : σ) (queued : List (Attached σ)) :
    ∃ ran outcome final, Performs session queued ran outcome final ∧
      Comparator.runQueued session (queued.map Attached.onMatched) = (outcome, final) := by
  induction queued generalizing session with
  | nil => exact ⟨[], .ok (), session, .done, rfl⟩
  | cons first later ih =>
      rw [List.map_cons, Comparator.runQueued]
      rcases hfirst : first.onMatched session with ⟨_ | _, middle⟩
      · exact ⟨[first], _, middle, .stops hfirst, rfl⟩
      · obtain ⟨ran, outcome, final, hlater, hrun⟩ := ih middle
        exact ⟨first :: ran, outcome, final, .next hfirst hlater, hrun⟩

namespace Comparator

theorem answerAll_append_singleton (comparison : Comparator σ) (calls : List (Call σ))
    (call : Call σ) :
    (comparison.answerAll (calls ++ [call])).2 =
      ((comparison.answerAll calls).2.answer call).2 := by
  induction calls generalizing comparison with
  | nil => rfl
  | cons first calls ih => exact ih (comparison.answer first).2

theorem expectation_ne_of_answer
    {comparison after : Comparator σ} {call : Call σ} {drift : Drift}
    (hdrifts : comparison.answer call = (.error drift, after)) :
    call.expectation ≠ .undocumented := by
  intro hexpectation
  simp [answer, hexpectation, expect] at hdrifts

theorem Stands.calledElements_eq {document : String} {live : List Element}
    {endpoint : Option Endpoint} {made met : List (Call σ)} {comparison : Comparator σ}
    (hstands : comparison.Stands document live endpoint made met) :
    comparison.position ≤ live.length ∧
      calledElements met = live.take comparison.position := by
  rw [hstands.position_eq]
  exact ⟨hstands.found.length_le, List.prefix_iff_eq_take.1 hstands.found⟩

/-- A comparison that has met some calls covers its page if it has come to the end. -/
theorem Stands.covers_iff {document : String} {live : List Element}
    {endpoint : Option Endpoint} {made met : List (Call σ)} {comparison : Comparator σ}
    (hstands : comparison.Stands document live endpoint made met) :
    Covers live endpoint made met ↔ comparison.position = live.length ∧
      (endpoint = none ∨ ∃ call ∈ made, call.asksEndpoint = true) := by
  refine and_congr_left' ?_
  rw [hstands.position_eq]
  exact ⟨congrArg List.length, hstands.found.eq_of_length⟩

end Comparator

/-- After each call the comparison is within the page, what the calls that were met expect
is the part of the page in front of it, and a call that meets a drift has left position and
queue as they were; a call for something undocumented meets none.  If the comparison has
come to the end of the page, and the page has no endpoint or one was asked for, then the
actions of the calls that were met are performed in order, each once and on what its call
has matched, up to the first that fails. Otherwise none is. -/
theorem actions_of_calls
    (document : String) (live : List Element) (endpoint : Option Endpoint)
    (calls : List (Call σ)) (session : σ) :
    let start : Comparator σ := { document, elements := live, endpoint }
    let ended := (start.answerAll calls).2
    (∀ before call after, calls = before ++ call :: after →
      let here := (start.answerAll before).2
      let answer := here.answer call
      answer.2.position ≤ live.length ∧
        calledElements (callsMet (start.answerAll (before ++ [call])).1) =
          live.take answer.2.position ∧
        ∀ drift, answer.1 = .error drift → call.expectation ≠ .undocumented ∧
          answer.2.position = here.position ∧ answer.2.queued = here.queued) ∧
      ∃ attached, Attaches (start.answerAll calls).1 attached ∧
        ((ended.position = live.length ∧
            (endpoint = none ∨ ∃ call ∈ calls, call.asksEndpoint = true)) →
          ∃ ran outcome final, Performs session attached ran outcome final ∧
            ran <+: attached ∧ (outcome = .ok () → ran = attached) ∧
            ended.finish session = (outcome.mapError .schema, final)) ∧
        (¬ (ended.position = live.length ∧
            (endpoint = none ∨ ∃ call ∈ calls, call.asksEndpoint = true)) →
          ∃ drift, ended.finish session = (.error (.drift drift), session)) := by
  intro start ended
  have hstart := @Comparator.stands_start σ document live endpoint
  constructor
  · intro before call after hcalls here answer
    have hstands := (hstart.answerAll (before ++ [call])).calledElements_eq
    rw [Comparator.answerAll_append_singleton] at hstands
    refine ⟨hstands.1, hstands.2, fun drift hdrift => ?_⟩
    rcases here.answer_cases call with ⟨hmet, -⟩ | ⟨found, hasked⟩
    · rw [show answer = _ from hmet] at hdrift
      contradiction
    · rw [show answer = _ from hasked]
      exact ⟨Comparator.expectation_ne_of_answer hasked, rfl, rfl⟩
  · have hstands : ended.Stands document live endpoint calls
        (callsMet (start.answerAll calls).1) := hstart.answerAll calls
    refine ⟨_, attaches_attachedBy _, ?_, ?_⟩
    · rw [← hstands.covers_iff]
      intro hcovers
      obtain ⟨ran, outcome, final, hperforms, hrun⟩ :=
        exists_performs session (attachedBy (start.answerAll calls).1)
      rw [map_onMatched_attachedBy] at hrun
      have hprefix := hperforms.ran_isPrefix
      refine ⟨ran, outcome, final, hperforms, hprefix.1, hprefix.2, ?_⟩
      rw [hstands.finish_of_covers hcovers, hrun]
      cases outcome with
      | ok done => rfl
      | error fault => rfl
    · rw [← hstands.covers_iff, ← hstands.leftover?_eq_none_iff, ← Ne,
        Option.ne_none_iff_exists']
      rintro ⟨drift, hdrift⟩
      exact ⟨drift, Comparator.finish_of_leftover hdrift session⟩

end Sessions

end DocContract
