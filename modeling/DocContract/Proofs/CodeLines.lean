import DocContract.Proofs.FenceLines
import Mathlib.Algebra.BigOperators.Group.List.Basic

/-!
# Code told line by line

The lines of a run and a line after it that opens a directive are read block by block, each
block from the start of a line.  As long as no fence is open there, reading goes on to the
start of a later line of this kind, or to code that takes the last line because its fence
is not closed.  The exceptions are the blocks that are misread when one looks at single
lines.
-/

namespace DocContract

open Markdown

/-- The start of a line among some lines. -/
structure StartsLine (lines before after : List Line) (place : Place) : Prop where
  lines_eq : lines = before ++ after
  offset : place.offset = before.flatten.length
  rest : place.rest = after.flatten

/-- A run of markdown and a line that opens a directive, each line as the reader of blocks
ends it. -/
structure RunLines (run : List Line) (line : Line) : Prop where
  plain : ∀ l ∈ run ++ [line], l.IsPlain
  opens : line.opens?.isSome = true
  visible : ∀ l ∈ run ++ [line], ∃ c ∈ l, c ≠ ' '
  read : ∀ before l after, run ++ [line] = before ++ l :: after → l.IsRead after.flatten

/-- The start of a line in front of which no fence is open. -/
def Fresh (lines : List Line) (place : Place) : Prop :=
  ∃ before after, StartsLine lines before after place ∧ openFence before = none

/-- The start of a line, other than the end of the text, in front of which no fence is
open. -/
def Early (lines : List Line) (place : Place) : Prop :=
  ∃ before l after, StartsLine lines before (l :: after) place ∧ openFence before = none

theorem openFence_concat (lines : List Line) (line : Line) :
    openFence (lines ++ [line]) = Fence.after (openFence lines) line := by
  rw [openFence, List.foldl_append]
  rfl

section Lines

variable {run : List Line} {line : Line} {before after lines : List Line} {l : Line}
    {place : Place}

theorem StartsLine.in_flatten (hstarts : StartsLine lines before after place) :
    place.In lines.flatten := by
  rw [Place.In, hstarts.lines_eq, hstarts.offset, hstarts.rest, List.flatten_append,
    List.drop_left]

theorem StartsLine.offset_add_length (hstarts : StartsLine lines before after place) :
    place.offset + place.rest.length = lines.flatten.length := by
  rw [hstarts.lines_eq, hstarts.offset, hstarts.rest, List.flatten_append,
    List.length_append]

theorem Fresh.in_flatten (hfresh : Fresh lines place) : place.In lines.flatten := by
  obtain ⟨before, after, hstarts, -⟩ := hfresh
  exact hstarts.in_flatten

theorem Fresh.offset_add_length (hfresh : Fresh lines place) :
    place.offset + place.rest.length = lines.flatten.length := by
  obtain ⟨before, after, hstarts, -⟩ := hfresh
  exact hstarts.offset_add_length

/-- The place after a line is the start of the next one. -/
theorem StartsLine.next (hstarts : StartsLine lines before (l :: after) place) :
    StartsLine lines (before ++ [l]) after (place.advance l.length) := by
  refine ⟨?_, ?_, ?_⟩
  · rw [hstarts.lines_eq, List.append_assoc, List.singleton_append]
  · simp [hstarts.offset]
  · simp [hstarts.rest]

theorem StartsLine.leadsTo (hstarts : StartsLine lines before (l :: after) place)
    (hread : l.IsRead after.flatten) :
    place.LeadsTo (StartsLine lines (before ++ [l]) after) := by
  have hrest : place.rest = l ++ after.flatten := by rw [hstarts.rest, List.flatten_cons]
  have hend := hread.throughLineEnd_append
  rw [← hrest] at hend
  refine ⟨?_, hend ▸ hstarts.next⟩
  rw [hend, hrest, hread.throughLineFeed_append]

/-- What comes in front of a line is a part of the run. -/
theorem StartsLine.exists_run_eq
    (hstarts : StartsLine (run ++ [line]) before (l :: after) place) :
    ∃ rest, run = before ++ rest := by
  have hrun := congrArg List.dropLast hstarts.lines_eq
  rw [List.dropLast_concat, List.dropLast_append_of_ne_nil (by simp)] at hrun
  exact ⟨_, hrun⟩

theorem StartsLine.offset_le
    (hstarts : StartsLine (run ++ [line]) before (l :: after) place) :
    place.offset ≤ run.flatten.length := by
  obtain ⟨rest, rfl⟩ := hstarts.exists_run_eq
  rw [hstarts.offset, List.flatten_append, List.length_append]
  exact Nat.le_add_right _ _

theorem StartsLine.eq_line (hstarts : StartsLine (run ++ [line]) before [l] place) :
    l = line := by
  have heq := (List.append_inj' hstarts.lines_eq rfl).2
  simpa using heq.symm

theorem Early.fresh (hearly : Early lines place) : Fresh lines place := by
  obtain ⟨before, l, after, hstarts, hopen⟩ := hearly
  exact ⟨before, l :: after, hstarts, hopen⟩

theorem Early.offset_le (hearly : Early (run ++ [line]) place) :
    place.offset ≤ run.flatten.length := by
  obtain ⟨before, l, after, hstarts, -⟩ := hearly
  exact hstarts.offset_le

namespace RunLines

theorem length_le_flatten (hlines : RunLines run line)
    (hstarts : StartsLine (run ++ [line]) before after place) :
    after.length ≤ after.flatten.length := by
  have hvisible : ∀ l ∈ after, 1 ≤ l.length := by
    intro l hl
    obtain ⟨c, hc, -⟩ :=
      hlines.visible l (by rw [hstarts.lines_eq]; exact List.mem_append_right _ hl)
    exact List.length_pos_of_mem hc
  rw [List.length_flatten]
  simpa using List.length_le_sum_of_one_le (after.map List.length)
    (by simpa using hvisible)

theorem length_line_pos (hlines : RunLines run line) : 0 < line.length := by
  obtain ⟨c, hc, -⟩ := hlines.visible line (by simp)
  exact List.length_pos_of_mem hc

theorem openFence_eq (hlines : RunLines run line) :
    openFence (run ++ [line]) = openFence run := by
  rw [openFence_concat]
  exact Fence.after_of_opens? hlines.opens fun fence hopen => isOpened_of_openFence hopen

/-- From a line in front of which no fence is open, reading goes on to the next one, unless
the line opens a fence. -/
theorem ahead_or_leadsTo (hlines : RunLines run line)
    (hstarts : StartsLine (run ++ [line]) before (l :: after) place)
    (hopen : openFence before = none) :
    Ahead StartsFence place.rest ∨ openFence (before ++ [l]) = none ∧
      place.LeadsTo (StartsLine (run ++ [line]) (before ++ [l]) after) := by
  have hread := hlines.read before l after hstarts.lines_eq
  cases hopened : Fence.opened? l with
  | some fence =>
      have hplain := hlines.plain l (hstarts.lines_eq ▸ by simp)
      left
      rw [hstarts.rest]
      exact hplain.ahead_of_opened? hread hopened
  | none =>
      refine .inr ⟨?_, hstarts.leadsTo hread⟩
      rw [openFence_concat, hopen]
      exact hopened

theorem goesOn_fresh (hlines : RunLines run line) :
    GoesOn StartsFence (Fresh (run ++ [line])) := by
  rintro place ⟨before, after, hstarts, hopen⟩
  cases after with
  | nil =>
      have hrest : place.rest = [] := hstarts.rest
      refine .inr ⟨by rw [hrest]; rfl, ?_⟩
      rw [hrest]
      exact ⟨before, [], hstarts, hopen⟩
  | cons l after =>
      rcases hlines.ahead_or_leadsTo hstarts hopen with hahead | ⟨hclosed, hleads⟩
      · exact .inl hahead
      · exact .inr (hleads.mono fun next hnext => ⟨_, _, hnext, hclosed⟩)

theorem goesOn_early (hlines : RunLines run line) :
    GoesOn (fun cs => BeginsBlock cs ∧ bullet? cs = none) (Early (run ++ [line])) := by
  rintro place ⟨before, l, after, hstarts, hopen⟩
  cases after with
  | nil =>
      -- The last line opens a directive, and nothing is read after it.
      have hread := hlines.read before l [] hstarts.lines_eq
      obtain rfl := hstarts.eq_line
      left
      rw [hstarts.rest]
      exact Line.ahead_of_opens? hlines.opens hread
  | cons next after =>
      rcases hlines.ahead_or_leadsTo hstarts hopen with hahead | ⟨hclosed, hleads⟩
      · exact .inl (hahead.mono fun cs hfence =>
          ⟨hfence.beginsBlock, hfence.bullet?_eq_none⟩)
      · exact .inr (hleads.mono fun next hnext => ⟨_, _, _, hnext, hclosed⟩)

/-- After a line that changes which fence is open comes another line. -/
theorem exists_next (hlines : RunLines run line) {fence : Option Fence}
    (hstarts : StartsLine (run ++ [line]) before (l :: after) place)
    (hopened : ∀ f ∈ fence, f.IsOpened) (hchanges : Fence.after fence l ≠ fence) :
    ∃ next later, after = next :: later := by
  cases after with
  | nil =>
      obtain rfl := hstarts.eq_line
      exact absurd (Fence.after_of_opens? hlines.opens hopened) hchanges
  | cons next later => exact ⟨next, later, rfl⟩

end RunLines

/-! ## Fenced code -/

theorem indent_of_rest_nil {start : LineStart} (hrest : start.place.rest = [])
    (hpending : start.pending = 0) (n : Nat) : start.indent n = (n, start) := by
  rw [LineStart.indent_of_pending hpending, hrest]
  rcases start with ⟨⟨offset, rest⟩, column, pending⟩
  obtain rfl : rest = [] := hrest
  obtain rfl : pending = 0 := hpending
  cases n <;> rfl

/-- The margin of the code and then that of a closing fence are passed where the fence is
closed. -/
theorem closing_eq {width size : Nat} {mark : Char} (hplain : l.IsPlain)
    (hread : l.IsRead after.flatten) (hvisible : ∃ c ∈ l, c ≠ ' ')
    (hopened : Fence.IsOpened { mark, size }) (hwidth : width < 4)
    (hrest : place.rest = l ++ after.flatten) :
    let close := ((LineStart.atPlace place).indent width).2.indent (4 - width)
    (if close.1 = 0 then none else closingFence? mark size close.2.place.rest).isSome =
      Fence.closedBy { mark, size } l := by
  obtain ⟨margin, c, rest, rfl, hspace⟩ := Line.exists_replicate hvisible
  rw [List.append_assoc] at hrest
  have hindent := LineStart.indent_indent hwidth hrest hspace
  generalize ((LineStart.atPlace place).indent width).2.indent (4 - width) =
    close at hindent ⊢
  simp only at hindent ⊢
  split at hindent
  · next hnarrow =>
    obtain ⟨hmissing, hclose⟩ := hindent
    rw [if_neg hmissing, hclose, Place.advance_rest, hrest, hplain.closedBy_eq hopened.mark
      hopened.size hnarrow.1 hspace hnarrow.2 hread.of_replicate]
    simp
  · next hwide =>
    have hclosed : Fence.closedBy { mark, size }
        (List.replicate margin ' ' ++ c :: rest) = false := by
      by_contra hclosed
      simp only [Fence.closedBy, Bool.not_eq_false, Bool.and_eq_true, decide_eq_true_eq]
        at hclosed
      exact hwide (Line.lt_four_of_indentation hclosed.1.1)
    rw [if_pos hindent, hclosed]
    rfl

/-- Reads a line of fenced code that stands in no container. -/
theorem fencedLines_succ (width size fuel : Nat) (mark : Char) (place : Place) :
    fencedLines [] width mark size (fuel + 1) place =
      let text := ((LineStart.atPlace place).indent width).2
      let close := text.indent (4 - width)
      match if close.1 = 0 then none else closingFence? mark size close.2.place.rest with
      | some n => ([], close.2.place.advance n)
      | none =>
        let n := throughLineFeed text.place.rest
        let later := fencedLines [] width mark size fuel (text.place.advance n)
        (codeLine text.pending (text.place.rest.take n) ++ later.1, later.2) := rfl

/-- Fenced code that stands in no container goes on to the line that closes its fence, or
to the end of the text. -/
theorem RunLines.fencedLines_cases (hlines : RunLines run line) {mark : Char}
    {size width fuel : Nat}
    (hstarts : StartsLine (run ++ [line]) before after place)
    (hopen : openFence before = some { mark, size }) (hwidth : width < 4)
    (hfuel : after.length < fuel) :
    let (_, stop) := fencedLines [] width mark size fuel place
    (openFence run).isSome = true ∧ stop.rest = [] ∧
      stop.offset = (run ++ [line]).flatten.length ∨
      stop.LeadsTo (Early (run ++ [line])) ∧ stop.offset ≤ run.flatten.length ∧
        (blankLine? stop.rest).isSome = true := by
  have hopened := isOpened_of_openFence hopen
  induction after generalizing before place fuel with
  | nil =>
      obtain ⟨fuel, rfl⟩ := Nat.exists_eq_succ_of_ne_zero (Nat.ne_of_gt hfuel)
      have hrest : place.rest = [] := hstarts.rest
      obtain rfl : run ++ [line] = before := by simpa using hstarts.lines_eq
      rw [hlines.openFence_eq] at hopen
      have hclose : closingFence? mark size [] = some 0 := rfl
      have hmissing : 4 - width ≠ 0 := by omega
      have hindent (n : Nat) := @indent_of_rest_nil (.atPlace place) hrest rfl n
      rw [fencedLines_succ, hindent]
      simp only [hindent, if_neg hmissing]
      simp only [LineStart.atPlace, hrest, hclose]
      exact .inl ⟨Option.isSome_of_eq_some hopen, by simp [hrest], hstarts.offset⟩
  | cons l after ih =>
      obtain ⟨fuel, rfl⟩ :=
        Nat.exists_eq_succ_of_ne_zero (Nat.ne_of_gt (Nat.zero_lt_of_lt hfuel))
      have hmem : l ∈ run ++ [line] := hstarts.lines_eq ▸ by simp
      have hread := hlines.read before l after hstarts.lines_eq
      have hleads := hstarts.leadsTo hread
      have hclosing :=
        closing_eq (hlines.plain l hmem) hread (hlines.visible l hmem) hopened hwidth
          hstarts.rest
      have htext := (LineStart.atPlace place).within_indent width
      have hafter : openFence (before ++ [l]) =
          if Fence.closedBy { mark, size } l then none else some { mark, size } := by
        rw [openFence_concat, hopen]
        rfl
      rw [fencedLines_succ]
      generalize (LineStart.atPlace place).indent width = text at *
      have hclose := htext.trans (text.2.within_indent (4 - width))
      simp only at hclosing ⊢
      generalize text.2.indent (4 - width) = close at *
      rw [← hclosing] at hafter
      split
      · next n hsome =>
        rw [hsome] at hafter
        obtain ⟨-, hfence⟩ : close.1 ≠ 0 ∧
            closingFence? mark size close.2.place.rest = some n := by
          simpa using hsome
        obtain ⟨hstays, hblank⟩ :=
          staysInLine_of_closingFence? hopened.mark.isInLine hfence
        have hnone : openFence (before ++ [l]) = none := by simpa using hafter
        have hchanges : Fence.after (some { mark, size }) l ≠ some { mark, size } := by
          rw [← hopen, ← openFence_concat, hnone, hopen]
          simp
        obtain ⟨next, later, rfl⟩ :=
          hlines.exists_next hstarts (by rintro f ⟨⟩; exact hopened) hchanges
        have hstop := hleads.within (hclose.trans hstays.within)
        refine .inr ⟨hstop.mono fun place hplace => ⟨_, _, _, hplace, hnone⟩, ?_, hblank⟩
        exact (Nat.le_add_right _ _).trans hstop.2.offset_le
      · next hnone =>
        rw [hnone] at hafter
        have hnext := (hleads.within htext).next_throughLineFeed
        exact ih hnext hafter (Nat.lt_of_succ_lt_succ hfuel)

theorem staysInLine_replicate (width : Nat) (cs : List Char) :
    StaysInLine width (List.replicate width ' ' ++ cs) := by
  have hspaces : ∀ c ∈ List.replicate width ' ', IsInLine c := by
    intro c hc
    rw [(List.mem_replicate.1 hc).2]
    decide
  simpa using @StaysInLine.of_forall _ cs hspaces

theorem fence_of_codeFence? {cs : List Char} {mark : Char} {size : Nat}
    (hfence : codeFence? cs = some (mark, size)) :
    IsFenceMark mark ∧ countRun mark cs = size := by
  have hstarts : StartsFence cs := Option.isSome_of_eq_some hfence
  obtain ⟨c, rest, rfl, hmark⟩ := hstarts.exists_cons
  simp only [codeFence?, Option.ite_none_right_eq_some, Option.ite_none_left_eq_some,
    Option.some.injEq, Prod.mk.injEq] at hfence
  obtain ⟨-, -, rfl, hsize⟩ := hfence
  exact ⟨hmark, hsize⟩

theorem staysInLine_of_codeFence? {cs : List Char} {mark : Char} {size : Nat}
    (hfence : codeFence? cs = some (mark, size)) : StaysInLine size cs := by
  obtain ⟨hmark, rfl⟩ := fence_of_codeFence? hfence
  exact staysInLine_countWhile (fun _ => isInLine_of_beq hmark.isInLine) cs

/-- A block of code that takes the character at a position. -/
def TakenAsCode (position : Nat) : Node → Prop
  | .code span _ => span.start ≤ position ∧ position < span.stop
  | _ => False

instance (position : Nat) : DecidablePred (TakenAsCode position)
  | .code _ _ => inferInstanceAs (Decidable (_ ∧ _))
  | .paragraph _ | .heading _ | .html _ | .rule _ | .table _ _ _ | .quote _ _ | .list _ _
  | .item _ _ => .isFalse id

/-- Fenced code in no container takes the line behind the run if its fence is not closed in
the run. -/
theorem RunLines.readFence_cases (hlines : RunLines run line) {outline : Outline}
    {width size : Nat} {mark : Char} (hopened : outline.opened = [])
    (hstarts : StartsLine (run ++ [line]) before (l :: after) place)
    (hopen : openFence before = none)
    (hwidth : width < 4)
    (hrest : place.rest = List.replicate width ' ' ++ (place.advance width).rest)
    (hfence : codeFence? (place.advance width).rest = some (mark, size)) :
    let progress := readFence outline (place.advance width) width mark size
    ∃ leaf, progress.1.leaves = outline.leaves ++ [leaf] ∧
      ((openFence run).isSome = true ∧ TakenAsCode run.flatten.length leaf.2 ∨
        Early (run ++ [line]) progress.2 ∧ ¬ TakenAsCode run.flatten.length leaf.2) := by
  have hread := hlines.read before l after hstarts.lines_eq
  have hplace : place.rest = l ++ after.flatten := hstarts.rest
  have hl : Fence.opened? l = some { mark, size } :=
    Fence.opened?_of_ahead hread hwidth (hplace ▸ hrest) hfence
  have hafter : openFence (before ++ [l]) = some { mark, size } := by
    rw [openFence_concat, hopen]
    exact hl
  have hchanges : Fence.after none l ≠ none := by
    rw [Fence.after, hl]
    simp
  obtain ⟨next, later, rfl⟩ := hlines.exists_next hstarts (by simp) hchanges
  -- The first line of code starts after the line of the fence.
  have hmargin : place.Within (place.advance width) :=
    StaysInLine.within (hrest ▸ staysInLine_replicate width _)
  have hinfo :=
    (staysInLine_of_codeFence? hfence).within.trans (Place.within_advance_inlineSpace _)
  have hfirst :=
    ((hstarts.leadsTo hread).within (hmargin.trans hinfo)).next_throughLineFeed
  have hstart := (hinfo.offset_le.trans (Nat.le_add_right _ _)).trans hfirst.offset_le
  have hfuel : (next :: later).length < _ :=
    Nat.lt_succ_of_le (hfirst.rest ▸ hlines.length_le_flatten hfirst)
  have hcases := hlines.fencedLines_cases hfirst hafter hwidth hfuel
  have hcontainers : outline.containers = [] := by simp [Outline.containers, hopened]
  simp only [readFence, hcontainers]
  generalize fencedLines [] width mark size _ _ = found at hcases ⊢
  refine ⟨_, outline.leaves_add _, ?_⟩
  rcases hcases with ⟨hunclosed, -, hstop⟩ | ⟨hnext, hstop, hblank⟩
  · refine .inl ⟨hunclosed, hstart, ?_⟩
    rw [hstop, List.flatten_append, List.length_append]
    exact Nat.lt_add_of_pos_right (by simpa using hlines.length_line_pos)
  · obtain ⟨n, hn⟩ := Option.isSome_iff_exists.1 hblank
    refine .inr ⟨?_, fun htaken => Nat.lt_irrefl _ (Nat.lt_of_lt_of_le htaken.2 hstop)⟩
    simp only [hn, Option.getD_some]
    exact hnext.next (throughLineEnd_of_blankLine? hn)

theorem not_takenAsCode_of_endsEarly {E : Place → Prop} {position : Nat} {node : Node}
    (hearly : EndsEarly E node) (hE : ∀ place, E place → place.offset ≤ position) :
    ¬ TakenAsCode position node := by
  cases node with
  | code span content =>
      rintro ⟨hstart, hstop⟩
      rcases hearly with hempty | ⟨place, hplace, heq⟩
      · omega
      · have := hE place hplace
        omega
  | _ => exact id

/-- What comes of a block that adds some leaves and is read up to a place: one of them is
misread, or one takes the line behind the run because a fence of the run is not closed, or
reading goes on at the start of a line in front of which no fence is open. -/
inductive ReadsOn (run : List Line) (line : Line) (new : List (Nat × Node))
    (next : Place) : Prop where
  | misread {leaf : Nat × Node} (hleaf : leaf ∈ new)
      (hmisread : Misread (run ++ [line]).flatten (Fresh (run ++ [line])) leaf)
  | unclosed {leaf : Nat × Node} (hopen : (openFence run).isSome = true)
      (hleaf : leaf ∈ new)
      (htaken : TakenAsCode run.flatten.length leaf.2)
  | fresh (hnext : Fresh (run ++ [line]) next)
      (hfree : ∀ leaf ∈ new, ¬ TakenAsCode run.flatten.length leaf.2)

theorem RunLines.readsOn_of_ahead (hlines : RunLines run line) (outline : Outline)
    (hstarts : StartsLine (run ++ [line]) before (l :: after) place)
    (hopen : openFence before = none)
    (hahead : Ahead StartsFence place.rest) :
    (readBlock outline place).2.rest.length < place.rest.length ∧
    ∃ new, (readBlock outline place).1.leaves = outline.leaves ++ new ∧
      ReadsOn run line new (readBlock outline place).2 := by
  obtain ⟨hlength, hcases⟩ :=
    @readBlock_of_ahead _ (Fresh (run ++ [line])) outline _ hstarts.in_flatten hahead
  refine ⟨hlength, ?_⟩
  rcases hcases with ⟨leaf, hleaves, hmisread⟩ |
    ⟨top, width, mark, size, hopened, hleaves, hwidth, hrest, hfence, hblock⟩
  · exact ⟨[leaf], hleaves, .misread (List.mem_singleton_self leaf) hmisread⟩
  · obtain ⟨leaf, hnew, ⟨hunclosed, htaken⟩ | ⟨hnext, hfree⟩⟩ :=
      hlines.readFence_cases hopened hstarts hopen hwidth hrest hfence
    all_goals refine ⟨[leaf], by rw [hblock, hnew, hleaves], ?_⟩
    · exact .unclosed hunclosed (List.mem_singleton_self leaf) htaken
    · exact .fresh (hblock ▸ hnext.fresh) (by simpa using hfree)

theorem RunLines.readsOn_of_not_ahead (hlines : RunLines run line) (outline : Outline)
    (hstarts : StartsLine (run ++ [line]) before (l :: after) place)
    (hopen : openFence before = none)
    (hahead : ¬ Ahead StartsFence place.rest) :
    (readBlock outline place).2.rest.length < place.rest.length ∧
    ∃ new, (readBlock outline place).1.leaves = outline.leaves ++ new ∧
      ReadsOn run line new (readBlock outline place).2 := by
  have hrest : place.rest ≠ [] := by
    intro hnil
    have hlength := hlines.length_le_flatten hstarts
    rw [← hstarts.rest, hnil] at hlength
    contradiction
  have hfresh := (hlines.goesOn_fresh place ⟨_, _, hstarts, hopen⟩).resolve_left hahead
  have hcode : place.LeadsTo
    (fun next => Early (run ++ [line]) next ∧ place.offset < next.offset) ∨
      PlainAhead (.atPlace place) := by
    rcases hlines.goesOn_early place ⟨_, _, _, hstarts, hopen⟩ with hblock | hleads
    · obtain ⟨width, text, hmargin, -, -, hbullet⟩ :=
        margin_of_ahead (fun _ hblock => hblock.1) hblock
      exact .inr ⟨width, text, hmargin, hbullet⟩
    · exact .inl (hleads.onward hrest)
  have hE := (hlines.goesOn_early.mono fun _ hblock => hblock.1).onward place.offset
  -- Only later places count, so that every block takes some characters.
  obtain ⟨new, hleaves, ⟨⟨leaf, hleaf, hmisread⟩, hlength⟩ | ⟨⟨hnext, hlater⟩, hearly⟩⟩ :=
    @proceeds_readBlock _ _ _ outline _ (hlines.goesOn_fresh.onward place.offset) hE
      (fun _ hline => ⟨hline.1.fresh, hline.2⟩) (fun _ hline => hline.1.in_flatten)
      (hfresh.onward hrest) hstarts.in_flatten hcode hahead
  · exact ⟨hlength, new, hleaves, .misread hleaf (hmisread.mono fun _ hline => hline.1)⟩
  · have hplace := hstarts.offset_add_length
    have hthere := hnext.offset_add_length
    refine ⟨by omega, new, hleaves, .fresh hnext fun leaf hleaf => ?_⟩
    exact not_takenAsCode_of_endsEarly (hearly leaf hleaf) fun _ hline => hline.1.offset_le

/-- In the block structure of a run of markdown and the line after it, that line stands in
code if and only if a fence is open, unless a leaf is misread. -/
theorem RunLines.readBlocks_cases (hlines : RunLines run line) {outline : Outline}
    (hfresh : Fresh (run ++ [line]) place)
    (hfree : ∀ leaf ∈ outline.leaves, ¬ TakenAsCode run.flatten.length leaf.2) :
    (∃ leaf ∈ leavesAll 0 (readBlocks outline place),
        Misread (run ++ [line]).flatten (Fresh (run ++ [line])) leaf) ∨
      ((openFence run).isSome = true ↔ ∃ leaf ∈ leavesAll 0 (readBlocks outline place),
        TakenAsCode run.flatten.length leaf.2) := by
  induction hsize : place.rest.length using Nat.strong_induction_on
    generalizing outline place with
  | _ size ih =>
    subst hsize
    obtain ⟨before, after, hstarts, hopen⟩ := hfresh
    cases after with
    | nil =>
        have hend : openFence run = none := by
          rw [← hlines.openFence_eq, hstarts.lines_eq, List.append_nil, hopen]
        rw [leaves_readBlocks_of_nil hstarts.rest, hend]
        exact .inr (by simpa using hfree)
    | cons l after =>
        obtain ⟨hlength, new, hleaves, hreads⟩ :=
          (Classical.em (Ahead StartsFence place.rest)).elim
            (hlines.readsOn_of_ahead outline hstarts hopen)
            (hlines.readsOn_of_not_ahead outline hstarts hopen)
        have hprefix :=
          prefix_readBlocks (readBlock outline place).1 (readBlock outline place).2
        have hnew : ∀ leaf ∈ new, leaf ∈ leavesAll 0 (readBlocks outline place) := by
          intro leaf hleaf
          rw [readBlocks_of_lt hlength]
          exact hprefix.subset (hleaves ▸ List.mem_append_right _ hleaf)
        cases hreads with
        | misread hleaf hmisread => exact .inl ⟨_, hnew _ hleaf, hmisread⟩
        | unclosed hunclosed hleaf htaken =>
            exact .inr ⟨fun _ => ⟨_, hnew _ hleaf, htaken⟩, fun _ => hunclosed⟩
        | fresh hnext hlater =>
            rw [readBlocks_of_lt hlength]
            refine ih _ hlength hnext ?_ rfl
            rw [hleaves]
            exact fun leaf hleaf =>
              (List.mem_append.1 hleaf).elim (hfree leaf) (hlater leaf)

end Lines

end DocContract
