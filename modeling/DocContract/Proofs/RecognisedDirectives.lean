import DocContract.Proofs.CodeLines
import Mathlib.Logic.Function.Iterate

/-!
# Where directives are recognised

The segments of a body begin one after the other.  A line that opens a directive either
stands inside of an earlier directive, or behind some lines of markdown of one segment, and
then a segment begins with it if and only if no fence is open there.  That is so if and
only if it stands outside of code in the block structure of these lines and itself, as long
as every fence can be seen by looking at single lines.
-/

namespace DocContract

open Markdown

/-- The lines after the first segment. -/
def afterSegment : List Line → List Line
  | [] => []
  | line :: lines => (Segment.first line lines).2

/-- A segment of a body begins with the first of some lines. -/
def SegmentBegins (body : String) (lines : List Line) : Prop :=
  lines ≠ [] ∧ ∃ count, afterSegment^[count] (Text.splitLines body.toList) = lines

theorem afterSegment_of_spans {segment : Segment} {consumed rest : List Line}
    (hspans : segment.Spans consumed rest) : afterSegment (consumed ++ rest) = rest := by
  obtain ⟨first, inner, rfl⟩ := List.exists_cons_of_ne_nil hspans.ne_nil
  have hfirst : Segment.first first (inner ++ rest) = (segment, rest) :=
    Segment.first_eq_of_spans rfl hspans
  rw [List.cons_append, afterSegment, hfirst]

theorem afterSegment_suffix (lines : List Line) : afterSegment lines <:+ lines := by
  cases lines with
  | nil => exact List.suffix_rfl
  | cons line lines =>
      obtain ⟨consumed, hlines, -⟩ := Segment.first_spans line lines
      exact ⟨consumed, hlines.symm⟩

theorem iterate_afterSegment_suffix (count : Nat) (lines : List Line) :
    afterSegment^[count] lines <:+ lines := by
  induction count generalizing lines with
  | zero => exact List.suffix_rfl
  | succ count ih =>
      rw [Function.iterate_succ_apply]
      exact (ih _).trans (afterSegment_suffix lines)

namespace SegmentBegins

variable {body : String} {lines later : List Line}

theorem after {segment : Segment} {consumed rest : List Line}
    (hbegins : SegmentBegins body (consumed ++ rest))
    (hspans : segment.Spans consumed rest)
    (hrest : rest ≠ []) : SegmentBegins body rest := by
  obtain ⟨-, count, hcount⟩ := hbegins
  refine ⟨hrest, count + 1, ?_⟩
  rw [Function.iterate_succ_apply', hcount, afterSegment_of_spans hspans]

theorem suffix (hbegins : SegmentBegins body lines) :
    lines <:+ Text.splitLines body.toList := by
  obtain ⟨-, count, rfl⟩ := hbegins
  exact iterate_afterSegment_suffix count _

/-- No segment begins between the beginnings of one segment and of the next one. -/
theorem length_le (hbegins : SegmentBegins body lines) (hlater : SegmentBegins body later)
    (hlength : later.length < lines.length) :
    later.length ≤ (afterSegment lines).length := by
  obtain ⟨-, count, rfl⟩ := hbegins
  obtain ⟨-, further, rfl⟩ := hlater
  rcases Nat.lt_or_ge count further with hcount | hcount
  · obtain ⟨between, rfl⟩ := Nat.exists_eq_add_of_lt hcount
    rw [Nat.add_assoc, Nat.add_comm count, Nat.add_right_comm, Nat.add_assoc,
      Function.iterate_add_apply, Function.iterate_succ_apply']
    exact (iterate_afterSegment_suffix _ _).length_le
  · obtain ⟨between, rfl⟩ := Nat.exists_eq_add_of_le hcount
    rw [Nat.add_comm, Function.iterate_add_apply] at hlength
    exact absurd (iterate_afterSegment_suffix _ _).length_le (Nat.not_le.2 hlength)

end SegmentBegins

/-- A line of a body behind the lines of markdown in front of it, from where a segment
begins that takes all of them. -/
structure BehindRun (body : String) (run : List Line) (line : Line) (later : List Line) :
    Prop where
  begins : SegmentBegins body (run ++ line :: later)
  runs : run = [] ∨ ∃ more rest, (Segment.markdown (run ++ more)).Spans
    (run ++ more) rest ∧
    line :: later = more ++ rest

/-- A line of a body that is taken by a directive which is opened by an earlier line. -/
def InsideDirective (body : String) (line : Line) (later : List Line) : Prop :=
  ∃ (segment : Segment) (opening : Line) (inner more rest : List Line),
    SegmentBegins body (opening :: inner ++ line :: later) ∧ opening.opens?.isSome = true ∧
      segment.Spans (opening :: inner ++ line :: more) rest ∧ later = more ++ rest

/-- The character at the start of a line stands in fenced or indented code, in the block
structure of a run of markdown with this line after it. -/
def InCode (run : List Line) (line : Line) : Prop :=
  ∃ leaf ∈ leavesAll 0 (Markdown.read (run ++ [line]).flatten),
    TakenAsCode run.flatten.length leaf.2

instance (run : List Line) (line : Line) : Decidable (InCode run line) :=
  inferInstanceAs (Decidable (∃ leaf ∈ leavesAll 0 _, TakenAsCode _ leaf.2))

/-- The fences of a run and the line after it can be seen by looking at single lines. -/
structure FencesVisible (run : List Line) (line : Line) : Prop where
  plain : ∀ l ∈ run ++ [line], l.IsPlain
  read : ∀ leaf ∈ leavesAll 0 (Markdown.read (run ++ [line]).flatten),
    ¬ Misread (run ++ [line]).flatten (Fresh (run ++ [line])) leaf

theorem Segment.Spans.eq_markdown {segment : Segment} {first : Line}
    {inner rest : List Line}
    (hspans : segment.Spans (first :: inner) rest) (hfirst : first.opens? = none) :
    segment = .markdown (first :: inner) := by
  generalize hconsumed : first :: inner = consumed at hspans
  cases hspans with
  | directive hopens =>
      obtain ⟨rfl, -⟩ := List.cons.inj hconsumed
      simp [hopens] at hfirst
  | unclosed hopens =>
      obtain ⟨rfl, -⟩ := List.cons.inj hconsumed
      simp [hopens] at hfirst
  | markdown => rfl

theorem Segment.Spans.of_markdown {run rest : List Line}
    (hspans : (Segment.markdown run).Spans run rest) :
    (∀ before line after, run = before ++ line :: after → before ≠ [] →
        line.opens?.isSome = true → (openFence before).isSome = true) ∧
      (rest = [] ∨ ∃ next later, rest = next :: later ∧ next.opens?.isSome = true ∧
        openFence run = none) := by
  cases hspans with
  | @markdown first inner rest hfirst henclosed hstops =>
      refine ⟨fun before line after hrun hbefore hopens => ?_, hstops⟩
      obtain ⟨_, before, rfl⟩ := List.exists_cons_of_ne_nil hbefore
      obtain ⟨rfl, hinner⟩ := List.cons.inj hrun
      exact henclosed before line after hinner hopens

/-- Every line stands inside of a directive or behind a run of markdown. -/
theorem SegmentBegins.insideDirective_or_behindRun {body : String}
    {before later : List Line}
    {line : Line} (hbegins : SegmentBegins body (before ++ line :: later)) :
    InsideDirective body line later ∨ ∃ run, BehindRun body run line later := by
  induction hsize : before.length using Nat.strong_induction_on generalizing before with
  | _ size ih =>
    subst hsize
    cases before with
    | nil => exact .inr ⟨[], hbegins, .inl rfl⟩
    | cons first inner =>
      obtain ⟨consumed, hlines, hspans⟩ :=
        Segment.first_spans first (inner ++ line :: later)
      generalize Segment.first first (inner ++ line :: later) = found at hlines hspans
      rw [← List.cons_append] at hlines
      rcases List.append_eq_append_iff.1 hlines with
        ⟨more, rfl, hmore⟩ | ⟨between, hfirst, hrest⟩
      · cases more with
        | nil =>
            -- The segment ends in front of the line.
            have hrest : found.2 = line :: later := hmore.symm
            exact .inr
              ⟨[], hrest ▸ (hlines ▸ hbegins).after hspans (by simp [hrest]), .inl rfl⟩
        | cons _ more =>
            obtain ⟨rfl, rfl⟩ := List.cons.inj hmore
            cases hopens : first.opens? with
            | some kind =>
                exact .inl ⟨_, first, inner, more, _, hbegins,
                  by simp [hopens], hspans, rfl⟩
            | none =>
                have hmarkdown := hspans.eq_markdown hopens
                rw [hmarkdown] at hspans
                exact .inr ⟨first :: inner, hbegins, .inr ⟨line :: more, _, hspans, rfl⟩⟩
      · have hnext : SegmentBegins body (between ++ line :: later) :=
          hrest ▸ (hlines ▸ hbegins).after hspans (by simp [hrest])
        refine ih between.length ?_ hnext rfl
        rw [hfirst, List.length_append]
        exact Nat.lt_add_of_pos_left (List.length_pos_iff.2 hspans.ne_nil)

/-! ## Recognised directives -/

section Run

variable {body : String} {run later : List Line} {line : Line}

/-- A segment begins with a line that opens a directive just when no fence is open in front
of it. -/
theorem BehindRun.segmentBegins_iff (hbehind : BehindRun body run line later)
    (hopens : line.opens?.isSome = true) :
    SegmentBegins body (line :: later) ↔ openFence run = none := by
  obtain ⟨hbegins, rfl | ⟨more, rest, hspans, hmore⟩⟩ := hbehind
  · exact iff_of_true hbegins rfl
  have hlines : run ++ line :: later = (run ++ more) ++ rest := by
    rw [hmore, List.append_assoc]
  obtain ⟨henclosed, hstops⟩ := hspans.of_markdown
  cases more with
  | nil =>
      obtain rfl : line :: later = rest := hmore
      obtain hrest | ⟨next, after, -, -, hfence⟩ := hstops
      · contradiction
      · rw [List.append_nil] at hfence
        exact iff_of_true ((hlines ▸ hbegins).after hspans (by simp)) hfence
  | cons _ more =>
      rw [List.cons_append] at hmore
      obtain ⟨rfl, rfl⟩ := List.cons.inj hmore
      cases run with
      | nil => exact iff_of_true hbegins rfl
      | cons first run =>
          have hopen : (openFence (first :: run)).isSome = true :=
            henclosed _ line more rfl (List.cons_ne_nil _ _) hopens
          refine iff_of_false (fun hline => ?_) (Option.isSome_iff_ne_none.1 hopen)
          -- The next segment would begin after the line.
          have hshorter : (line :: (more ++ rest)).length <
              (first :: run ++ line :: (more ++ rest)).length := by
            rw [List.length_append]
            exact Nat.lt_add_of_pos_left (Nat.succ_pos _)
          have hlength := hbegins.length_le hline hshorter
          rw [hlines, afterSegment_of_spans hspans, List.length_cons, List.length_append]
            at hlength
          omega

theorem WholeLines.of_append {text : List Char} {lines before after : List Line}
    (hlines : WholeLines text lines) {l : Line} (hsplit : lines = before ++ l :: after) :
    '\n' ∉ l.dropLast ∧ ('\n' ∉ l → after = []) := by
  induction hlines generalizing before with
  | nil => simp at hsplit
  | @last line hne hfeed =>
      obtain ⟨rfl, rfl, rfl⟩ : before = [] ∧ l = line ∧ after = [] := by
        cases before <;> simp_all
      exact ⟨fun hmem => hfeed ((List.dropLast_sublist _).subset hmem), fun _ => rfl⟩
  | @cons start text lines hfeed hlater ih =>
      cases before with
      | nil =>
          obtain ⟨rfl, rfl⟩ := List.cons.inj hsplit
          simp [hfeed]
      | cons _ before => exact ih (List.cons.inj hsplit).2

/-- The lines of a run of plain lines are ended alike by the reader of blocks. -/
theorem BehindRun.runLines (hbehind : BehindRun body run line later)
    (hopens : line.opens?.isSome = true) (hplain : ∀ l ∈ run ++ [line], l.IsPlain) :
    RunLines run line := by
  obtain ⟨front, hfront⟩ := hbehind.begins.suffix
  have hends (before : List Line) (l : Line) (after : List Line)
      (hsplit : run ++ [line] = before ++ l :: after) :
      '\n' ∉ l.dropLast ∧ ('\n' ∉ l → after = []) := by
    have hlines : Text.splitLines body.toList = (front ++ before) ++ l ::
        (after ++ later) := by
      rw [← hfront, List.append_cons run, hsplit]
      simp
    obtain ⟨hdrop, hlast⟩ := (wholeLines_splitLines _).of_append hlines
    exact ⟨hdrop, fun hfeed => (List.append_eq_nil_iff.1 (hlast hfeed)).1⟩
  refine ⟨hplain, hopens, fun l hl => ?_, fun before l after hsplit => ?_⟩
  · obtain ⟨before, after, hsplit⟩ := List.append_of_mem hl
    by_cases hfeed : '\n' ∈ l
    · exact ⟨'\n', hfeed, by decide⟩
    · -- Only the last line can go without a line feed, and a bracket stands in it.
      obtain rfl := (hends before l after hsplit).2 hfeed
      obtain ⟨-, hline⟩ := List.append_inj' hsplit rfl
      obtain rfl : line = l := by simpa using hline
      obtain ⟨-, tail, htrim⟩ := Line.trimStart_of_opens? hopens
      exact ⟨'[', (List.dropWhile_sublist _).subset (htrim ▸ List.mem_cons_self ..),
        by decide⟩
  · obtain ⟨hdrop, hlast⟩ := hends before l after hsplit
    refine .of_returns hdrop (hplain l (by rw [hsplit]; simp)).returns fun hfeed => ?_
    rw [hlast hfeed]
    rfl

/-- A line of a body that opens a directive stands inside of an earlier one or behind a run
of markdown. Behind a run a directive begins with it if and only if no fence is open; and
if the fences of the run are visible, if and only if the line stands outside of code. -/
theorem directives_recognised_outside_code {before : List Line}
    (hline : Text.splitLines body.toList = before ++ line :: later)
    (hopens : line.opens?.isSome = true) :
    (InsideDirective body line later ∨ ∃ run, BehindRun body run line later) ∧
    ∀ run, BehindRun body run line later →
      (SegmentBegins body (line :: later) ↔ openFence run = none) ∧
      (FencesVisible run line →
       (SegmentBegins body (line :: later) ↔ ¬ InCode run line)) := by
  have hbegins : SegmentBegins body (before ++ line :: later) := ⟨by simp, 0, hline⟩
  refine ⟨hbegins.insideDirective_or_behindRun, fun run hbehind => ?_⟩
  have hiff := hbehind.segmentBegins_iff hopens
  refine ⟨hiff, fun hvisible => ?_⟩
  have hlines := hbehind.runLines hopens hvisible.plain
  have hfresh : Fresh (run ++ [line]) { offset := 0, rest := (run ++ [line]).flatten } :=
    ⟨[], _, ⟨rfl, rfl, rfl⟩, rfl⟩
  have hread := @RunLines.readBlocks_cases run line _ hlines {} hfresh
    (by simp [Outline.leaves, leavesAll, leavesOpened])
  rcases hread with ⟨leaf, hleaf, hmisread⟩ | hcode
  · exact absurd hmisread (hvisible.read leaf hleaf)
  · rw [hiff, ← Option.not_isSome_iff_eq_none, hcode]
    rfl

end Run

/-- A fence with the marks of a shorter one inside. -/
def longerFence : String :=
  "\x60\x60\x60\x60md\n\x60\x60\x60\n[block:embed]\n\x60\x60\x60\n\x60\x60\x60\x60\n"

theorem directives_recognised_longerFence :
    let run : List Line := ["\x60\x60\x60\x60md\n".toList, "\x60\x60\x60\n".toList]
    let line : Line := "[block:embed]\n".toList
    let later : List Line := ["\x60\x60\x60\n".toList, "\x60\x60\x60\x60\n".toList]
    Text.splitLines longerFence.toList = run ++ line :: later ∧ line.opens?.isSome = true ∧
      BehindRun longerFence run line later ∧ FencesVisible run line ∧
      ¬ SegmentBegins longerFence (line :: later) ∧ InCode run line := by
  intro run line later
  have hlines : Text.splitLines longerFence.toList = run ++ line :: later := by decide
  have hopens : line.opens?.isSome = true := by decide
  have hspans : (Segment.markdown (run ++ line :: later)).Spans
      (run ++ line :: later) [] := by
    have hfirst : Segment.first "\x60\x60\x60\x60md\n".toList (run.tail ++ line :: later) =
        (.markdown (run ++ line :: later), []) := by decide
    obtain ⟨consumed, hconsumed, hspans⟩ := Segment.first_eq_iff.1 hfirst
    rw [List.append_nil] at hconsumed
    subst hconsumed
    exact hspans
  have hbehind : BehindRun longerFence run line later :=
    ⟨⟨by simp, 0, hlines⟩, .inr ⟨line :: later, [], hspans, by simp⟩⟩
  have hplain : ∀ l ∈ run ++ [line], Line.IsPlain l := by
    have hspaces (start : List Char)
        (hstart : (start.all fun c => !Text.isBlank c || c == ' ') = true) :
        Line.IsPlain (start ++ ['\n']) := Line.isPlain_of_spaces hstart (.inr (.inl rfl))
    simp only [run, line, List.cons_append, List.nil_append, List.forall_mem_cons]
    exact ⟨hspaces "\x60\x60\x60\x60md".toList (by decide),
      hspaces "\x60\x60\x60".toList (by decide),
      hspaces "[block:embed]".toList (by decide), by simp⟩
  have hleaves : ∀ leaf ∈ leavesAll 0 (Markdown.read (run ++ [line]).flatten),
      leaf.1 = 0 ∧ TakenAsCode 0 leaf.2 := by decide +kernel
  have hvisible : FencesVisible run line := by
    refine ⟨hplain, fun leaf hleaf hmisread => ?_⟩
    have hcode := hleaves leaf hleaf
    cases hmisread with
    | enclosed hdepth => exact Nat.ne_of_gt hdepth hcode.1
    | html => exact hcode.2
  have hcode : InCode run line := by decide +kernel
  have hiff :=
    ((directives_recognised_outside_code hlines hopens).2 run hbehind).2 hvisible
  exact ⟨hlines, hopens, hbehind, hvisible, fun hbegins => hiff.1 hbegins hcode, hcode⟩

/-- A fence in an item of a list, with what looks like a directive inside. -/
def fencedItem : String :=
  "- \x60\x60\x60\n  [block:embed]\n  \x7b\x7d\n  [/block]\n  \x60\x60\x60\n"

/-- Looking at single lines does not show a fence behind the mark of an item. -/
theorem directive_recognised_in_fencedItem :
    let run : List Line := ["- \x60\x60\x60\n".toList]
    let line : Line := "  [block:embed]\n".toList
    let later : List Line :=
      ["  \x7b\x7d\n".toList, "  [/block]\n".toList, "  \x60\x60\x60\n".toList]
    Text.splitLines fencedItem.toList = run ++ line :: later ∧ line.opens?.isSome = true ∧
      BehindRun fencedItem run line later ∧
      ¬ (SegmentBegins fencedItem (line :: later) ↔ ¬ InCode run line) ∧
      bodyItems Markdown.read fencedItem =
        [.ok (.block ⟨.list, "- \x60\x60\x60"⟩),
         .error (.unsupportedDirective "embed" 2)] := by
  intro run line later
  have hlines : Text.splitLines fencedItem.toList = run ++ line :: later := by decide
  have hopens : line.opens?.isSome = true := by decide
  have hspans : (Segment.markdown run).Spans run (line :: later) :=
    .markdown (by decide) (by simp) (.inr ⟨line, later, rfl, hopens, by decide⟩)
  have hbehind : BehindRun fencedItem run line later :=
    ⟨⟨by simp, 0, hlines⟩, .inr ⟨[], line :: later, by simpa using hspans, rfl⟩⟩
  have hcode : InCode run line := by decide +kernel
  have hbegins : SegmentBegins fencedItem (line :: later) :=
    (hbehind.segmentBegins_iff hopens).2 (by decide)
  refine ⟨hlines, hopens, hbehind, fun hiff => hiff.1 hbegins hcode, ?_⟩
  have hdirective : (Segment.directive "embed".toList ["  \x7b\x7d\n".toList]).Spans
      [line, "  \x7b\x7d\n".toList, "  [/block]\n".toList] ["  \x60\x60\x60\n".toList] :=
    .directive (by decide) (by decide) (by decide)
  have hadvances : (BodyReader.ofBody fencedItem).AdvancesBy Markdown.read
      [⟨.markdown run, run, [.block ⟨.list, "- \x60\x60\x60"⟩]⟩]
      (some (.unsupportedDirective "embed" 2)) (line :: later) :=
    .of_ok hlines hspans (by decide +kernel) (.of_error rfl hdirective (by decide +kernel))
  exact hadvances.drain_eq rfl rfl

end DocContract
