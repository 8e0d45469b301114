import DocContract.Body
import DocContract.Proofs.BodySegments

/-!
# Reading a body to its end

A reader advances by whole segments, one after the other, to the end of the body or to the
first segment with a fault.  It hands out the elements of the segments before that, then
the fault if there is one, and from then on nothing.
-/

namespace DocContract

/-- A segment that has been read. -/
structure Part where
  segment : Segment
  /-- The lines of the segment. -/
  lines : List Line
  elements : List Element

/-- What a reader hands out of the parts that it reads and of the fault that ends them. -/
def handedOut (parts : List Part) (fault : Option GrammarError) :
    List (Except GrammarError Element) :=
  (parts.flatMap Part.elements).map .ok ++ (fault.map .error).toList

/-- The reader behind a part, with some elements to hand out. -/
def BodyReader.past (reader : BodyReader) (part : Part) (rest : List Line)
    (pending : List Element) : BodyReader :=
  { reader with
    rest
    line := reader.line + part.lines.length
    pending }

/-- A reader advances by parts, up to the end or a fault, and some lines are left. -/
inductive BodyReader.AdvancesBy (blocks : BlockReader) :
    BodyReader → List Part → Option GrammarError → List Line → Prop where
  | done {reader : BodyReader} (hrest : reader.rest = []) :
      AdvancesBy blocks reader [] none []
  | fault {reader : BodyReader} {fault : GrammarError} {segment : Segment}
      {consumed rest : List Line}
      (hadvance : reader.advance blocks = .error fault)
      (hlines : reader.rest = consumed ++ rest) (hspans : segment.Spans consumed rest)
      (hfault : segment.elements blocks reader.line = .error fault) :
      AdvancesBy blocks reader [] (some fault) reader.rest
  | step {reader : BodyReader} {part : Part} {rest : List Line} {parts : List Part}
      {fault : Option GrammarError} {left : List Line}
      (hadvance : reader.advance blocks = .ok (reader.past part rest part.elements))
      (hlines : reader.rest = part.lines ++ rest)
      (hspans : part.segment.Spans part.lines rest)
      (helements : part.segment.elements blocks reader.line = .ok part.elements)
      (hlater : AdvancesBy blocks (reader.past part rest []) parts fault left) :
      AdvancesBy blocks reader (part :: parts) fault left

namespace BodyReader

variable {blocks : BlockReader} {reader after : BodyReader}

/-- What a reader is asked for in the end, when it is asked again and again. -/
def call (blocks : BlockReader) (reader : BodyReader) :
    Nat → Option (Except GrammarError Element)
  | 0 => (reader.next blocks).1
  | count + 1 => call blocks (reader.next blocks).2 count

theorem advance_of_fault
    {fault : GrammarError} (hrest : reader.rest ≠ [])
    (hadvance : reader.advance blocks = .error fault) :
    ∃ (segment : Segment) (consumed rest : List Line), reader.rest = consumed ++ rest ∧
      segment.Spans consumed rest ∧
      segment.elements blocks reader.line = .error fault := by
  unfold advance at hadvance
  split at hadvance
  · contradiction
  · next first lines hlines =>
    obtain ⟨consumed, hconsumed, hspans⟩ := Segment.first_spans first lines
    simp only at hadvance
    split at hadvance
    · contradiction
    · next found hfound =>
      obtain rfl := Except.error.inj hadvance
      exact ⟨_, consumed, _, hlines.trans hconsumed, hspans, hfound⟩

theorem advance_of_ok
    (hrest : reader.rest ≠ []) (hadvance : reader.advance blocks = .ok after) :
    ∃ (part : Part) (rest : List Line), reader.rest = part.lines ++ rest ∧
      part.segment.Spans part.lines rest ∧
      part.segment.elements blocks reader.line = .ok part.elements ∧
      after = reader.past part rest part.elements := by
  unfold advance at hadvance
  split at hadvance
  · contradiction
  · next first lines hlines =>
    obtain ⟨consumed, hconsumed, hspans⟩ := Segment.first_spans first lines
    simp only at hadvance
    split at hadvance
    · next elements helements =>
      obtain rfl := Except.ok.inj hadvance
      refine ⟨⟨_, consumed, elements⟩, _, hlines.trans hconsumed, hspans, helements, ?_⟩
      have hlength := congrArg List.length hconsumed
      rw [List.length_cons, List.length_append] at hlength
      simp [past, hlength]
    · contradiction

/-- However far it has come, a reader goes on to the end or to a fault. -/
theorem exists_advancesBy (blocks : BlockReader) (reader : BodyReader) :
    ∃ parts fault left, reader.AdvancesBy blocks parts fault left := by
  -- Every part takes a line at least, so the lines that are left become fewer.
  induction hlength : reader.rest.length using Nat.strong_induction_on
    generalizing reader with
  | _ length ih =>
    by_cases hrest : reader.rest = []
    · exact ⟨[], none, [], .done hrest⟩
    · cases hadvance : reader.advance blocks with
      | error fault =>
          obtain ⟨segment, consumed, rest, hlines, hspans, hfault⟩ :=
            advance_of_fault hrest hadvance
          exact ⟨[], some fault, reader.rest, .fault hadvance hlines hspans hfault⟩
      | ok after =>
          have hshorter := length_rest_of_advance hrest hadvance
          obtain ⟨part, rest, hlines, hspans, helements, rfl⟩ :=
            advance_of_ok hrest hadvance
          obtain ⟨parts, fault, left, hlater⟩ :=
            ih rest.length (hlength ▸ hshorter) (reader.past part rest []) rfl
          exact ⟨part :: parts, fault, left, .step hadvance hlines hspans helements hlater⟩

theorem AdvancesBy.rest_eq
    {parts : List Part} {fault : Option GrammarError} {left : List Line}
    (hadvances : reader.AdvancesBy blocks parts fault left) :
    reader.rest = parts.flatMap Part.lines ++ left ∧ (fault = none → left = []) := by
  induction hadvances with
  | done hrest => simp [hrest]
  | fault => simp
  | @step reader part rest parts fault left hadvance hlines hspans helements hlater ih =>
      have hrest : rest = parts.flatMap Part.lines ++ left := ih.1
      rw [hlines, hrest, List.flatMap_cons, List.append_assoc]
      exact ⟨rfl, ih.2⟩

theorem AdvancesBy.lines_ne_nil
    {parts : List Part} {fault : Option GrammarError} {left : List Line}
    (hadvances : reader.AdvancesBy blocks parts fault left) :
    ∀ part ∈ parts, part.lines ≠ [] := by
  induction hadvances with
  | done hrest => simp
  | fault => simp
  | step hadvance hlines hspans helements hlater ih =>
      exact List.forall_mem_cons.2 ⟨hspans.ne_nil, ih⟩

/-! ## Handing out -/

theorem next_of_failed (hfailed : reader.failed = true) :
    reader.next blocks = (none, reader) := by
  rw [next, if_pos hfailed]

theorem next_of_pending
    {element : Element} {pending : List Element} (hworks : reader.failed = false)
    (hpending : reader.pending = element :: pending) :
    reader.next blocks = (some (.ok element), { reader with pending }) := by
  rw [next, if_neg (by simp [hworks]), hpending]

theorem next_of_done
    (hworks : reader.failed = false) (hpending : reader.pending = [])
    (hrest : reader.rest = []) :
    reader.next blocks = (none, reader) := by
  rw [next, if_neg (by simp [hworks]), hpending]
  simp [hrest]

theorem next_of_fault
    {fault : GrammarError} (hworks : reader.failed = false)
    (hpending : reader.pending = [])
    (hrest : reader.rest ≠ []) (hadvance : reader.advance blocks = .error fault) :
    reader.next blocks = (some (.error fault), { reader with failed := true }) := by
  rw [next, if_neg (by simp [hworks]), hpending]
  simp only [hrest, dite_false]
  split
  · next found hfound =>
    rw [hadvance] at hfound
    obtain rfl := Except.error.inj hfound
    rfl
  · next after hafter =>
    rw [hadvance] at hafter
    contradiction

theorem next_of_advance
    (hworks : reader.failed = false) (hpending : reader.pending = [])
    (hrest : reader.rest ≠ []) (hadvance : reader.advance blocks = .ok after) :
    reader.next blocks = after.next blocks := by
  rw [next, if_neg (by simp [hworks]), hpending]
  simp only [hrest, dite_false]
  split
  · next found hfound =>
    rw [hadvance] at hfound
    contradiction
  · next middle hmiddle =>
    rw [hadvance] at hmiddle
    obtain rfl := Except.ok.inj hmiddle
    rfl

/-- A reader that has nothing to hand out stays so. -/
theorem next_of_next_none (hnext : reader.next blocks = (none, after)) :
    after.next blocks = (none, after) := by
  fun_induction next blocks reader with
  | case1 reader hfailed =>
      obtain rfl := (Prod.mk.inj hnext).2
      exact next_of_failed hfailed
  | case2 => simp at hnext
  | case3 reader hworks hpending hrest =>
      obtain rfl := (Prod.mk.inj hnext).2
      exact next_of_done (by simpa using hworks) hpending hrest
  | case4 => simp at hnext
  | case5 reader hworks hpending hrest middle hadvance ih => exact ih hnext

theorem call_of_next_none
    (hnext : reader.next blocks = (none, reader)) (count : Nat) :
    reader.call blocks count = none := by
  induction count with
  | zero => rw [call, hnext]
  | succ count ih => rw [call, hnext, ih]

theorem drain_of_next_none (hnext : reader.next blocks = (none, after)) :
    (reader.drain blocks).1 = [] := by
  rw [drain]
  split
  · rfl
  · next item later hlater =>
    rw [hnext] at hlater
    simp at hlater

theorem drain_of_next_some
    {item : Except GrammarError Element}
    (hnext : reader.next blocks = (some item, after)) :
    (reader.drain blocks).1 = item :: (after.drain blocks).1 := by
  rw [drain]
  split
  · next hnone =>
    rw [hnext] at hnone
    simp at hnone
  · next first later hlater =>
    rw [hnext] at hlater
    obtain ⟨hitem, rfl⟩ := Prod.mk.inj hlater
    obtain rfl := Option.some.inj hitem
    rfl

/-- A reader that is asked again and again answers with what draining it collects, and with
nothing after that. -/
theorem call_eq (reader : BodyReader) (count : Nat) :
    reader.call blocks count = (reader.drain blocks).1[count]? := by
  induction count generalizing reader with
  | zero =>
      rcases hnext : reader.next blocks with ⟨_ | item, after⟩
      · rw [call, hnext, drain_of_next_none hnext]
        rfl
      · rw [call, hnext, drain_of_next_some hnext]
        rfl
  | succ count ih =>
      rcases hnext : reader.next blocks with ⟨_ | item, after⟩
      · -- The reader has come to its end, and it is the same that is asked from now on.
        rw [call, hnext, drain_of_next_none hnext]
        exact call_of_next_none (next_of_next_none hnext) count
      · rw [call, hnext, drain_of_next_some hnext, List.getElem?_cons_succ]
        exact ih after

theorem drain_of_next_eq
    {other : BodyReader} (hnext : reader.next blocks = other.next blocks) :
    (reader.drain blocks).1 = (other.drain blocks).1 := by
  rcases hother : other.next blocks with ⟨_ | item, after⟩
  · rw [drain_of_next_none (hnext.trans hother), drain_of_next_none hother]
  · rw [drain_of_next_some (hnext.trans hother), drain_of_next_some hother]

theorem drain_pending
    (hworks : reader.failed = false) (pending : List Element) :
    ({ reader with pending }.drain blocks).1 =
      pending.map .ok ++ ({ reader with pending := [] }.drain blocks).1 := by
  induction pending with
  | nil => rfl
  | cons element pending ih =>
      have hnext : { reader with pending := element :: pending }.next blocks =
          (some (.ok element), { reader with pending }) := next_of_pending hworks rfl
      rw [drain_of_next_some hnext, ih]
      rfl

theorem AdvancesBy.drain_eq
    {parts : List Part} {fault : Option GrammarError} {left : List Line}
    (hadvances : reader.AdvancesBy blocks parts fault left)
    (hworks : reader.failed = false) (hpending : reader.pending = []) :
    (reader.drain blocks).1 = handedOut parts fault := by
  induction hadvances with
  | done hrest =>
      rw [drain_of_next_none (next_of_done hworks hpending hrest)]
      rfl
  | @fault reader fault segment consumed rest hadvance hlines hspans hfault =>
      have hrest : reader.rest ≠ [] := by simp [hlines, hspans.ne_nil]
      have hfails := next_of_fault hworks hpending hrest hadvance
      rw [drain_of_next_some hfails, drain_of_next_none (next_of_failed rfl)]
      rfl
  | @step reader part rest parts fault left hadvance hlines hspans helements hlater ih =>
      have hrest : reader.rest ≠ [] := by simp [hlines, hspans.ne_nil]
      have hlater := ih hworks rfl
      have hpart : ((reader.past part rest part.elements).drain blocks).1 =
          part.elements.map .ok ++ ((reader.past part rest []).drain blocks).1 :=
        @drain_pending blocks (reader.past part rest []) hworks part.elements
      rw [drain_of_next_eq (next_of_advance hworks hpending hrest hadvance), hpart, hlater]
      simp [handedOut]

end BodyReader

theorem mapM_handedOut (parts : List Part) (fault : Option GrammarError) :
    (handedOut parts fault).mapM id =
      match fault with
      | none => .ok (parts.flatMap Part.elements)
      | some fault => .error fault := by
  rw [handedOut]
  induction parts.flatMap Part.elements with
  | nil => cases fault <;> rfl
  | cons element elements ih =>
      rw [List.map_cons, List.cons_append, List.mapM_cons, ih]
      cases fault <;> rfl

/-- A body is read by whole segments, from its first line to its end or to a segment with a
fault. The elements of the segments come in order, then the fault if there is one, and
after that nothing. -/
theorem body_read_by_segments (blocks : BlockReader) (body : String) :
    ∃ lines parts fault left,
      WholeLines body.toList lines ∧
        ({ rest := lines, line := 1, pending := [], failed := false } :
          BodyReader).AdvancesBy blocks parts fault left ∧
        (∀ part ∈ parts, part.lines.flatten ≠ []) ∧
        body.toList = (parts.flatMap Part.lines).flatten ++ left.flatten ∧
        (fault = none → left = []) ∧
        bodyItems blocks body = handedOut parts fault ∧
        (∀ count, (BodyReader.ofBody body).call blocks count =
          (handedOut parts fault)[count]?) ∧
        bodyElements blocks body =
          match fault with
          | none => .ok (parts.flatMap Part.elements)
          | some fault => .error fault := by
  have hlines := wholeLines_splitLines body.toList
  obtain ⟨parts, fault, left, hadvances⟩ :=
    (BodyReader.ofBody body).exists_advancesBy blocks
  obtain ⟨hrest, hend⟩ := hadvances.rest_eq
  have hitems : bodyItems blocks body = handedOut parts fault := hadvances.drain_eq rfl rfl
  refine ⟨_, parts, fault, left, hlines, hadvances, ?_, ?_, hend, hitems, ?_, ?_⟩
  · intro part hpart hempty
    obtain ⟨line, hline⟩ := List.exists_mem_of_ne_nil _ (hadvances.lines_ne_nil part hpart)
    apply hlines.ne_nil line
    · have hread : line ∈ parts.flatMap Part.lines :=
        List.mem_flatMap.2 ⟨part, hpart, hline⟩
      have hmem : line ∈ (BodyReader.ofBody body).rest :=
        hrest ▸ List.mem_append_left left hread
      exact hmem
    · exact List.flatten_eq_nil_iff.1 hempty line hline
  · rw [← List.flatten_append, ← hrest]
    exact (Text.flatten_splitLines body.toList).symm
  · intro count
    rw [BodyReader.call_eq, ← hitems]
    rfl
  · rw [bodyElements, hitems, mapM_handedOut]

end DocContract
