import DocContract.Segment
import Mathlib.Data.List.TakeWhile

/-!
# Where segments end

A body is split into whole lines, and its lines into segments.  A directive goes on through
its first closing line.  A run of markdown goes on until an opening line that no fence of
the run encloses: lines of indented code do not open directives and do not open fences, so
nothing is lost by not looking at them.
-/

namespace DocContract

/-- A text divided into whole lines.  A line ends with the only line feed that it has; what
comes after the last line feed is a line if there is anything. -/
inductive WholeLines : List Char → List Line → Prop where
  | nil : WholeLines [] []
  | last {line : Line} (hne : line ≠ []) (hfeed : '\n' ∉ line) : WholeLines line [line]
  | cons {start text : List Char} {lines : List Line} (hfeed : '\n' ∉ start)
      (hlater : WholeLines text lines) :
      WholeLines (start ++ '\n' :: text) ((start ++ ['\n']) :: lines)

theorem wholeLines_splitLines (text : List Char) :
    WholeLines text (Text.splitLines text) := by
  induction text with
  | nil => exact .nil
  | cons c text ih =>
      rw [Text.splitLines]
      by_cases hc : c = '\n'
      · subst hc
        exact @WholeLines.cons [] text _ (by simp) ih
      · rw [if_neg hc]
        have hne : '\n' ≠ c := fun h => hc h.symm
        generalize Text.splitLines text = lines at ih
        cases ih with
        | nil => exact .last (by simp) (by simp [hne])
        | last hinhabited hfeed => exact .last (by simp) (by simp [hne, hfeed])
        | @cons start text lines hfeed hlater =>
            exact @WholeLines.cons (c :: start) text lines (by simp [hne, hfeed]) hlater

theorem WholeLines.ne_nil
    {text : List Char} {lines : List Line} (hlines : WholeLines text lines) :
    ∀ line ∈ lines, line ≠ [] := by
  induction hlines with
  | nil => simp
  | last hne hfeed => simpa using hne
  | cons hfeed hlater ih => simpa using ih

/-- The fence that is open after a line. -/
def Fence.after (fence : Option Fence) (line : Line) : Option Fence :=
  match fence with
  | some fence => if fence.closedBy line then none else some fence
  | none => Fence.opened? line

/-- The fence that is open after the lines of a run. -/
def openFence (lines : List Line) : Option Fence :=
  lines.foldl Fence.after none

/-- Lines that cannot open anything: they are blank, or indented by four columns. -/
def Line.IsQuiet (line : Line) : Prop :=
  Text.isBlankText line = true ∨ 4 ≤ line.indentation

theorem Text.trimStart_of_isBlankText
    {text : List Char} (hblank : isBlankText text = true) : trimStart text = [] := by
  rw [trimStart, List.dropWhile_eq_nil_iff]
  exact List.all_eq_true.1 hblank

theorem Text.head_of_trim {text : List Char} {c : Char} {rest : List Char}
    (htrim : trim text = c :: rest) : ∃ tail, trimStart text = c :: tail := by
  rw [trim, trimEnd, dropEndWhile] at htrim
  have hsplit := @List.takeWhile_append_dropWhile _ isBlank (trimStart text).reverse
  have hreverse := congrArg List.reverse hsplit
  rw [List.reverse_append, htrim, List.reverse_reverse, List.cons_append] at hreverse
  exact ⟨_, hreverse.symm⟩

theorem Line.IsQuiet.opens?_eq_none {line : Line} (hquiet : line.IsQuiet) :
    line.opens? = none := by
  rcases hquiet with hblank | hindented
  · have htrim : Text.trim line = [] := by
      rw [Text.trim, Text.trimStart_of_isBlankText hblank]
      rfl
    have hprefix : Text.dropPrefix? "[block:".toList [] = none := rfl
    rw [opens?, htrim, hprefix]
    cases (guard (line.indentation < 4) : Option Unit) <;> rfl
  · have hguard : (guard (line.indentation < 4) : Option Unit) = none :=
      if_neg (Nat.not_lt.2 hindented)
    rw [opens?, hguard]
    rfl

theorem Line.IsQuiet.opened?_eq_none {line : Line} (hquiet : line.IsQuiet) :
    Fence.opened? line = none := by
  unfold Fence.opened?
  rcases hquiet with hblank | hindented
  · rw [Text.trimStart_of_isBlankText hblank]
    simp
  · exact if_pos hindented

theorem RunState.isQuiet_of_indents
    {state : RunState} {line : Line} (hindents : state.indents line = true) :
    line.IsQuiet := by
  unfold indents at hindents
  by_cases hblank : Text.isBlankText line = true
  · exact .inl hblank
  · simp only [hblank, Bool.false_eq_true, if_false, Bool.and_eq_true, decide_eq_true_eq]
      at hindents
    exact .inr hindents.1

theorem RunState.fence_step (state : RunState) (line : Line) :
    (state.step line).fence = Fence.after state.fence line := by
  unfold step Fence.after
  cases state.fence with
  | some fence => rfl
  | none =>
      by_cases hindents : state.indents line = true
      · simp [hindents, (isQuiet_of_indents hindents).opened?_eq_none]
      · simp [hindents]

/-- Whether a line stands in indented code makes no difference to where a run ends. -/
theorem RunState.ends_iff (state : RunState) (line : Line) :
    (!state.inCode line && line.opens?.isSome) = true ↔
      state.fence = none ∧ line.opens?.isSome = true := by
  unfold inCode
  by_cases hindents : state.indents line = true
  · simp [hindents, (isQuiet_of_indents hindents).opens?_eq_none]
  · simp [hindents]

/-- A run that a fence may already be open in goes on over some lines, and ends before
others. -/
structure RunStops (fence : Option Fence) (run rest : List Line) : Prop where
  enclosed : ∀ before line after, run = before ++ line :: after →
    line.opens?.isSome = true →
    (before.foldl Fence.after fence).isSome = true
  stops : rest = [] ∨ ∃ next later, rest = next :: later ∧ next.opens?.isSome = true ∧
    run.foldl Fence.after fence = none

theorem RunStops.cons
    {fence : Option Fence} {line : Line} {run rest : List Line}
    (hline : line.opens?.isSome = true → fence.isSome = true)
    (hstop : RunStops (Fence.after fence line) run rest) :
    RunStops fence (line :: run) rest := by
  constructor
  · intro before opening after hsplit hopens
    cases before with
    | nil =>
        obtain ⟨rfl, -⟩ := List.cons.inj hsplit
        exact hline hopens
    | cons first before =>
        obtain ⟨rfl, hrun⟩ := List.cons.inj hsplit
        exact hstop.enclosed before opening after hrun hopens
  · exact hstop.stops

theorem RunStops.of_cons
    {fence : Option Fence} {line : Line} {run rest : List Line}
    (hstop : RunStops fence (line :: run) rest) :
    (line.opens?.isSome = true → fence.isSome = true) ∧
      RunStops (Fence.after fence line) run rest := by
  refine ⟨hstop.enclosed [] line run rfl, ?_, hstop.stops⟩
  intro before opening after hrun hopens
  exact hstop.enclosed (line :: before) opening after (congrArg (line :: ·) hrun) hopens

theorem splitRun_stops (state : RunState) (lines : List Line) :
    lines = (splitRun state lines).1 ++ (splitRun state lines).2 ∧
      RunStops state.fence (splitRun state lines).1 (splitRun state lines).2 := by
  induction lines generalizing state with
  | nil => exact ⟨rfl, by simp [splitRun], .inl rfl⟩
  | cons line lines ih =>
      obtain ⟨hlines, hstop⟩ := ih (state.step line)
      have hiff := state.ends_iff line
      rw [splitRun]
      split
      · next hstops =>
        obtain ⟨hfence, hopens⟩ := hiff.1 hstops
        exact ⟨rfl, by simp, .inr ⟨line, lines, rfl, hopens, hfence⟩⟩
      · next hgoes =>
        rw [hiff, not_and, ← Option.not_isSome_iff_eq_none] at hgoes
        rw [RunState.fence_step] at hstop
        refine ⟨congrArg (line :: ·) hlines, hstop.cons fun hopens => ?_⟩
        exact Decidable.by_contra fun hclosed => hgoes hclosed hopens

/-- There is no other way to divide the lines. -/
theorem splitRun_eq_of_stops
    {state : RunState} {run rest : List Line} (hstop : RunStops state.fence run rest) :
    splitRun state (run ++ rest) = (run, rest) := by
  induction run generalizing state with
  | nil =>
      rcases hstop.stops with rfl | ⟨next, later, rfl, hopens, hfence⟩
      · rfl
      · rw [List.nil_append, splitRun, if_pos ((state.ends_iff next).2 ⟨hfence, hopens⟩)]
  | cons line run ih =>
      obtain ⟨hline, hlater⟩ := hstop.of_cons
      rw [← RunState.fence_step] at hlater
      have hgoes : ¬ (!state.inCode line && line.opens?.isSome) = true := by
        rw [state.ends_iff]
        rintro ⟨hfence, hopens⟩
        simp [hfence] at hline
        simp [hline] at hopens
      rw [List.cons_append, splitRun, if_neg hgoes, ih hlater]

/-! ## Segments -/

theorem splitClosing?_eq_none_iff (lines : List Line) :
    splitClosing? lines = none ↔ ∀ line ∈ lines, line.isClosing = false := by
  induction lines with
  | nil => simp [splitClosing?]
  | cons line lines ih =>
      rw [splitClosing?, List.forall_mem_cons]
      cases hclosing : line.isClosing with
      | true => simp
      | false => simp [ih]

theorem splitClosing?_eq_some_iff (lines content rest : List Line) :
    splitClosing? lines = some (content, rest) ↔
      ∃ closing, lines = content ++ closing :: rest ∧ closing.isClosing = true ∧
        ∀ line ∈ content, line.isClosing = false := by
  induction lines generalizing content with
  | nil => simp [splitClosing?]
  | cons line lines ih =>
      rw [splitClosing?]
      cases hclosing : line.isClosing with
      | true =>
          constructor
          · intro hsplit
            obtain ⟨rfl, rfl⟩ := Prod.mk.inj (Option.some.inj hsplit)
            exact ⟨line, rfl, hclosing, by simp⟩
          · rintro ⟨closing, hlines, hcloses, hcontent⟩
            cases content with
            | nil =>
                obtain ⟨rfl, rfl⟩ := List.cons.inj hlines
                rfl
            | cons first content =>
                obtain ⟨rfl, -⟩ := List.cons.inj hlines
                simp [hclosing] at hcontent
      | false =>
          constructor
          · intro hsplit
            obtain ⟨⟨inner, after⟩, hinner, heq⟩ := Option.map_eq_some_iff.1 hsplit
            obtain ⟨rfl, rfl⟩ := Prod.mk.inj heq
            obtain ⟨closing, rfl, hcloses, hcontent⟩ := (ih inner).1 hinner
            exact ⟨closing, rfl, hcloses, List.forall_mem_cons.2 ⟨hclosing, hcontent⟩⟩
          · rintro ⟨closing, hlines, hcloses, hcontent⟩
            cases content with
            | nil =>
                obtain ⟨rfl, -⟩ := List.cons.inj hlines
                simp [hclosing] at hcloses
            | cons first content =>
                obtain ⟨rfl, htail⟩ := List.cons.inj hlines
                have hinner := (ih content).2
                  ⟨closing, htail, hcloses, (List.forall_mem_cons.1 hcontent).2⟩
                rw [hinner]
                rfl

/-- The lines that a segment takes, and those that are left. -/
inductive Segment.Spans : Segment → List Line → List Line → Prop where
  /-- A directive goes on through the first closing line after its opening line. -/
  | directive {opening closing : Line} {kind : List Char} {content rest : List Line}
      (hopens : opening.opens? = some kind)
      (hcontent : ∀ line ∈ content, line.isClosing = false)
      (hcloses : closing.isClosing = true) :
      Spans (.directive kind content) (opening :: content ++ [closing]) rest
  /-- There is no closing line, and so nothing is left. -/
  | unclosed {opening : Line} {kind : List Char} {lines : List Line}
      (hopens : opening.opens? = some kind)
      (hcontent : ∀ line ∈ lines, line.isClosing = false) :
      Spans (.unclosed kind) (opening :: lines) []
  /-- A run of markdown goes on until the first later opening line that no fence
  encloses. -/
  | markdown {first : Line} {run rest : List Line}
      (hfirst : first.opens? = none)
      (henclosed : ∀ before line after, run = before ++ line :: after →
        line.opens?.isSome = true → (openFence (first :: before)).isSome = true)
      (hstops : rest = [] ∨ ∃ next later, rest = next :: later ∧
        next.opens?.isSome = true ∧
        openFence (first :: run) = none) :
      Spans (.markdown (first :: run)) (first :: run) rest

theorem Segment.Spans.ne_nil
    {segment : Segment} {consumed rest : List Line}
    (hspans : segment.Spans consumed rest) :
    consumed ≠ [] := by
  cases hspans <;> simp

theorem Segment.first_spans (line : Line) (lines : List Line) :
    ∃ consumed, line :: lines = consumed ++ (Segment.first line lines).2 ∧
      (Segment.first line lines).1.Spans consumed (Segment.first line lines).2 := by
  rw [Segment.first]
  cases hopens : line.opens? with
  | some kind =>
      simp only
      cases hclosing : splitClosing? lines with
      | some parts =>
          obtain ⟨content, rest⟩ := parts
          obtain ⟨closing, rfl, hcloses, hcontent⟩ :=
            (splitClosing?_eq_some_iff _ _ _).1 hclosing
          exact ⟨line :: content ++ [closing], by simp, .directive hopens hcontent hcloses⟩
      | none =>
          have hnone := (splitClosing?_eq_none_iff lines).1 hclosing
          exact ⟨line :: lines, by simp, .unclosed hopens hnone⟩
  | none =>
      obtain ⟨hlines, hstop⟩ := splitRun_stops (({} : RunState).step line) lines
      rw [RunState.fence_step] at hstop
      refine ⟨line :: (splitRun (({} : RunState).step line) lines).1, ?_, ?_⟩
      · exact congrArg (line :: ·) hlines
      · exact .markdown hopens hstop.enclosed hstop.stops

theorem Segment.first_eq_of_spans
    {segment : Segment} {consumed rest lines : List Line} {line : Line}
    (hlines : line :: lines = consumed ++ rest) (hspans : segment.Spans consumed rest) :
    Segment.first line lines = (segment, rest) := by
  cases hspans with
  | @directive opening closing kind content rest hopens hcontent hcloses =>
      obtain ⟨rfl, htail⟩ : line = opening ∧ lines = content ++ closing :: rest := by
        simpa using hlines
      have hsplit := (splitClosing?_eq_some_iff lines content rest).2
        ⟨closing, htail, hcloses, hcontent⟩
      simp only [Segment.first, hopens, hsplit]
  | @unclosed opening kind content hopens hcontent =>
      obtain ⟨rfl, rfl⟩ : line = opening ∧ lines = content := by simpa using hlines
      have hnone := (splitClosing?_eq_none_iff lines).2 hcontent
      simp only [Segment.first, hopens, hnone]
  | @markdown first run rest hfirst henclosed hstops =>
      obtain ⟨rfl, rfl⟩ : line = first ∧ lines = run ++ rest := by simpa using hlines
      have hstop : RunStops (({} : RunState).step line).fence run rest := by
        rw [RunState.fence_step]
        exact ⟨henclosed, hstops⟩
      simp only [Segment.first, hfirst, splitRun_eq_of_stops hstop]

/-- The first segment of a body is the one segment that the lines of the body begin
with. -/
theorem Segment.first_eq_iff
    {segment : Segment} {line : Line} {lines rest : List Line} :
    Segment.first line lines = (segment, rest) ↔
      ∃ consumed, line :: lines = consumed ++ rest ∧ segment.Spans consumed rest := by
  constructor
  · intro hfirst
    have hspans := Segment.first_spans line lines
    rwa [hfirst] at hspans
  · rintro ⟨consumed, hlines, hspans⟩
    exact first_eq_of_spans hlines hspans

/-- What looks like a directive inside of an open fence is markdown. -/
example :
    (Segment.first "~~~\n".toList ["[block:code]\n".toList, "[/block]".toList]).2 =
      [] := by
  decide

end DocContract
