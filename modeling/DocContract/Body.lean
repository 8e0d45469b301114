import DocContract.Directive
import DocContract.Markdown.Reader
import DocContract.Prose
import DocContract.Segment

/-!
# Reading a page body

A body is read segment by segment, and the elements of a segment are handed out one at a
time.  The first fault ends the reading: elements of earlier segments stand, those of the
segment with the fault do not.  How markdown divides into blocks is a parameter of the
reading.
-/

namespace DocContract

/-- Finds the blocks of a run of markdown. -/
abbrev BlockReader := List Char → List Markdown.Node

/-- The elements of a segment whose first line has the number `line`. -/
def Segment.elements (blocks : BlockReader) (line : Nat) :
    Segment → Except GrammarError (List Element)
  | .markdown run => Prose.elements blocks line run.flatten
  | .directive kind content => directiveElements kind line content.flatten
  | .unclosed kind => .error (.unterminatedDirective (String.ofList kind) line)

structure BodyReader where
  /-- The lines that have not been read. -/
  rest : List Line
  /-- The number of the first of them. -/
  line : Nat
  /-- Elements of the last segment that have not been handed out. -/
  pending : List Element
  /-- A fault has been met. -/
  failed : Bool
deriving Repr

namespace BodyReader

def ofBody (body : String) : BodyReader :=
  { rest := Text.splitLines body.toList, line := 1, pending := [], failed := false }

/-- Whether a fault has been met or else how many lines are left, and how many elements
wait. -/
def weight (reader : BodyReader) : Nat × Nat :=
  (if reader.failed then 0 else reader.rest.length + 1, reader.pending.length)

/-- Reads the next segment, if there is one. -/
def advance (blocks : BlockReader) (reader : BodyReader) :
    Except GrammarError BodyReader :=
  match reader.rest with
  | [] => .ok reader
  | first :: lines =>
    let (segment, rest) := Segment.first first lines
    match segment.elements blocks reader.line with
    | .ok elements =>
      .ok { reader with
            rest
            line := reader.line + (lines.length + 1 - rest.length)
            pending := elements }
    | .error fault => .error fault

theorem length_rest_of_advance {blocks : BlockReader} {reader after : BodyReader}
    (hrest : reader.rest ≠ []) (hadvance : reader.advance blocks = .ok after) :
    after.rest.length < reader.rest.length := by
  unfold advance at hadvance
  split at hadvance
  · contradiction
  · next first lines hlines =>
    rw [hlines]
    simp only at hadvance
    split at hadvance
    · simp only [Except.ok.injEq] at hadvance
      subst hadvance
      exact Nat.lt_succ_of_le (Segment.length_first_le first lines)
    · contradiction

/-- Hands out the next element or the fault, and the reader after it. -/
def next (blocks : BlockReader) (reader : BodyReader) :
    Option (Except GrammarError Element) × BodyReader :=
  if reader.failed then (none, reader)
  else
    match reader.pending with
    | element :: pending => (some (.ok element), { reader with pending })
    | [] =>
      if _ : reader.rest = [] then (none, reader)
      else
        match _ : reader.advance blocks with
        | .error fault => (some (.error fault), { reader with failed := true })
        | .ok after => next blocks after
termination_by reader.rest.length
decreasing_by exact length_rest_of_advance ‹_› ‹_›

theorem weight_next {blocks : BlockReader} {reader after : BodyReader}
    {item : Except GrammarError Element}
    (hnext : reader.next blocks = (some item, after)) :
    Prod.Lex (· < ·) (· < ·) after.weight reader.weight := by
  fun_induction next blocks reader with
  | case1 => simp at hnext
  | case2 reader hfailed element pending hpending =>
    simp only [Prod.mk.injEq] at hnext
    rw [← hnext.2]
    simp only [weight, hpending, List.length_cons]
    exact .right _ (Nat.lt_succ_self _)
  | case3 => simp at hnext
  | case4 reader hfailed hpending hrest fault hadvance =>
    simp only [Prod.mk.injEq] at hnext
    rw [← hnext.2]
    exact .left _ _ (by simp [hfailed])
  | case5 reader hfailed hpending hrest middle hadvance ih =>
    have hshorter := length_rest_of_advance hrest hadvance
    have hstep := ih hnext
    generalize after.weight = final at hstep
    have hless : middle.weight.1 < reader.weight.1 := by
      simp only [weight, hfailed]
      split
      · simp
      · simp
        omega
    cases hstep with
    | left _ _ hlt => exact .left _ _ (Nat.lt_trans hlt hless)
    | right _ hlt => exact .left _ _ hless

/-- Everything the reader hands out, and the reader after it. -/
def drain (blocks : BlockReader) (reader : BodyReader) :
    List (Except GrammarError Element) × BodyReader :=
  match _ : reader.next blocks with
  | (none, after) => ([], after)
  | (some item, after) =>
    let (items, last) := drain blocks after
    (item :: items, last)
termination_by reader.weight
decreasing_by exact weight_next ‹_›

end BodyReader

/-- What a body hands out one by one: elements, and a fault at the end if there is one. -/
def bodyItems (blocks : BlockReader) (body : String) :
    List (Except GrammarError Element) :=
  ((BodyReader.ofBody body).drain blocks).1

/-- The elements of a body, or its first fault. -/
def bodyElements (blocks : BlockReader) (body : String) :
    Except GrammarError (List Element) :=
  (bodyItems blocks body).mapM id

end DocContract
