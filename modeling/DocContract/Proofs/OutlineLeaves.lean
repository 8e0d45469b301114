import DocContract.Markdown.Node

/-!
# The leaves of an outline

The blocks of a text that contain no others are its leaves, in the order of the text.
Opening and ending containers never changes which leaves there are, nor how many containers
stand around them.
-/

namespace DocContract.Markdown

mutual

/-- The leaves of a block that `depth` containers stand around, with the number of
containers around each. -/
def Node.leaves (depth : Nat) : Node → List (Nat × Node)
  | .quote _ children | .list _ children | .item _ children =>
      leavesAll (depth + 1) children
  | node => [(depth, node)]

/-- The leaves of some blocks. -/
def leavesAll (depth : Nat) : List Node → List (Nat × Node)
  | [] => []
  | node :: nodes => node.leaves depth ++ leavesAll depth nodes

end

@[simp] theorem leavesAll_append (depth : Nat) (nodes later : List Node) :
    leavesAll depth (nodes ++ later) = leavesAll depth nodes ++ leavesAll depth later := by
  induction nodes with
  | nil => simp [leavesAll]
  | cons node nodes ih => simp [leavesAll, ih]

@[simp] theorem Frame.leaves_close (frame : Frame) (depth stop : Nat) :
    (frame.close stop).leaves depth = leavesAll (depth + 1) frame.children.reverse := by
  unfold close
  cases frame.container <;> simp [Node.leaves]

/-- The leaves that open containers hold so far, the innermost container first. -/
def leavesOpened : List Frame → List (Nat × Node)
  | [] => []
  | frame :: frames =>
    leavesOpened frames ++ leavesAll (frames.length + 1) frame.children.reverse

namespace Outline

/-- The leaves so far. -/
def leaves (outline : Outline) : List (Nat × Node) :=
  leavesAll 0 outline.finished.reverse ++ leavesOpened outline.opened

variable (outline : Outline)

theorem leaves_add (node : Node) :
    (outline.add node).leaves = outline.leaves ++ node.leaves outline.opened.length := by
  rcases outline with ⟨finished, opened, bareItem⟩
  cases opened <;> simp [add, leaves, leavesOpened, leavesAll]

@[simp] theorem leaves_closeOne (stop : Nat) :
    (outline.closeOne stop).leaves = outline.leaves := by
  rcases outline with ⟨finished, opened, bareItem⟩
  cases opened with
  | nil => rfl
  | cons frame frames =>
      rw [closeOne, leaves_add, Frame.leaves_close]
      simp [leaves, leavesOpened]

@[simp] theorem leaves_enter (container : Container) (start : Nat) :
    (outline.enter container start).leaves = outline.leaves := by
  simp [leaves, enter, leavesOpened, leavesAll]

@[simp] theorem leaves_endList (stop : Nat) :
    (outline.endList stop).leaves = outline.leaves := by
  unfold endList
  split <;> simp

@[simp] theorem leaves_continueList (start : Nat) (mark : Char) :
    (outline.continueList start mark).leaves = outline.leaves := by
  unfold continueList
  split
  · split <;> simp
  · simp

@[simp] theorem leaves_bareItem (bareItem : Bool) :
    { outline with bareItem }.leaves = outline.leaves := rfl

theorem opened_closeOne (stop : Nat) :
    (outline.closeOne stop).opened.map (·.container) =
      (outline.opened.map (·.container)).tail := by
  rcases outline with ⟨finished, opened, bareItem⟩
  rcases opened with _ | ⟨frame, _ | ⟨next, frames⟩⟩ <;> rfl

theorem closeTo_cases (depth stop : Nat) :
    (outline.closeTo depth stop).leaves = outline.leaves ∧
      (outline.closeTo depth stop).opened.map (·.container) =
        (outline.opened.map (·.container)).drop (outline.opened.length - depth) := by
  unfold closeTo
  generalize outline.opened.length - depth = count
  induction count with
  | zero => simp
  | succ count ih =>
      rw [List.range_succ, List.foldl_append]
      generalize (List.range count).foldl _ outline = inner at ih ⊢
      simp only [List.foldl_cons, List.foldl_nil, leaves_closeOne,
        opened_closeOne, ih, true_and]
      rw [List.tail_drop]

@[simp] theorem leaves_closeTo (depth stop : Nat) :
    (outline.closeTo depth stop).leaves = outline.leaves :=
  (outline.closeTo_cases depth stop).1

theorem containers_closeTo {depth : Nat} (stop : Nat)
    (hdepth : depth ≤ outline.containers.length) :
    (outline.closeTo depth stop).containers = outline.containers.take depth := by
  rw [containers, (outline.closeTo_cases depth stop).2, containers, List.reverse_drop]
  simp only [containers, List.length_reverse, List.length_map] at hdepth ⊢
  rw [Nat.sub_sub_self hdepth]

theorem containers_of_endList {outline : Outline} {stop : Nat}
    (hopened : (outline.endList stop).opened = []) :
    ∀ container ∈ outline.containers, ∃ mark, container = .list mark := by
  rcases outline with ⟨finished, opened, bareItem⟩
  rcases opened with _ | ⟨⟨container, start, children⟩, _ | ⟨next, frames⟩⟩
  · simp [containers]
  · cases container <;> simp [containers, endList] at hopened ⊢
  · cases container <;> simp [endList, closeOne, add] at hopened

theorem finished_closeTo (stop : Nat) :
    leavesAll 0 (outline.closeTo 0 stop).finished.reverse = outline.leaves := by
  have hopened := (outline.closeTo_cases 0 stop).2
  rw [Nat.sub_zero, ← List.length_map (f := (·.container)), List.drop_length,
    List.map_eq_nil_iff]
    at hopened
  rw [← outline.leaves_closeTo 0 stop, leaves, hopened]
  simp [leavesOpened]

end Outline

/-- A line is read on from where it starts if it enters nothing but lists. -/
theorem enterAll_of_lists {containers : List Container} {line : LineStart}
    (hlists : ∀ container ∈ containers.take (enterAll containers line).2.1,
      ∃ mark, container = .list mark) :
    (enterAll containers line).2.2 = line := by
  induction containers generalizing line with
  | nil => rfl
  | cons container containers ih =>
      rw [enterAll] at hlists ⊢
      cases henter : container.enter? line with
      | none => rfl
      | some inside =>
          simp only [henter, List.take_succ_cons, List.forall_mem_cons] at hlists ⊢
          obtain ⟨⟨mark, rfl⟩, hlater⟩ := hlists
          obtain rfl := Option.some.inj henter
          exact ih hlater

theorem enterAll_depth_le (containers : List Container) (line : LineStart) :
    (enterAll containers line).2.1 ≤ containers.length := by
  induction containers generalizing line with
  | nil => exact Nat.le_refl _
  | cons container containers ih =>
      rw [enterAll]
      split
      · exact Nat.zero_le _
      · exact Nat.succ_le_succ (ih _)

end DocContract.Markdown
