import DocContract.Body

/-!
# Lines of faults

A fault of a body names the line where it was found, or no line at all.  Where a segment
stands decides about that number and about nothing else: with more lines in front of it a
segment has the same elements, or the same fault so many lines further down.
-/

namespace DocContract

/-- The same fault, found `count` lines further down. -/
def GrammarError.shift (count : Nat) : GrammarError → GrammarError
  | unsupportedDirective kind line => unsupportedDirective kind (line + count)
  | malformedDirective kind line fault => malformedDirective kind (line + count) fault
  | unterminatedDirective kind line => unterminatedDirective kind (line + count)
  | tableShape line rows columns => tableShape (line + count) rows columns
  | unsupportedMarkup line snippet => unsupportedMarkup (line + count) snippet
  | fault => fault

section Faults

variable {ε α β : Type} {move : ε → ε}

theorem mapError_bind (attempt : Except ε α) (next : α → Except ε β) :
    (attempt >>= next).mapError move =
      attempt.mapError move >>= fun value => (next value).mapError move := by
  cases attempt <;> rfl

theorem mapM_mapError
    {read moved : α → Except ε β} (hread : ∀ a, moved a = (read a).mapError move)
    (as : List α) :
    as.mapM moved = (as.mapM read).mapError move := by
  induction as with
  | nil => rfl
  | cons a as ih =>
      simp only [List.mapM_cons, mapError_bind, ih, hread]
      rfl

end Faults

theorem Prose.columns_shift (headers : List (List Char)) (count : Nat) :
    (columns headers).mapError (GrammarError.shift count) = columns headers := by
  refine (mapM_mapError (fun header => ?_) headers).symm
  cases Column.ofHeader header <;> rfl

theorem CellTable.header_shift (table : CellTable) (count : Nat) :
    table.header.mapError (GrammarError.shift count) = table.header := by
  refine (mapM_mapError (fun column => ?_) (List.range table.columns)).symm
  cases Column.ofHeader (table.cell ("h-" ++ toString column)) <;> rfl

theorem readDirective_shift
    {α : Type} (reader : Json.Reader α) (kind : List Char) (line count : Nat)
    (content : List Char) :
    readDirective reader kind (line + count) content =
      (readDirective reader kind line content).mapError (GrammarError.shift count) := by
  unfold readDirective
  cases Json.readAll reader content <;> rfl

theorem CellTable.parameters_shift (table : CellTable) (line count : Nat) :
    table.parameters (line + count) =
      (table.parameters line).mapError (GrammarError.shift count) := by
  have hheader := table.header_shift count
  unfold parameters
  by_cases hshape : (table.rowReach < table.rows || table.columnReach < table.columns) =
    true
  · simp only [hshape, if_true]
    rfl
  · simp only [hshape, Bool.false_eq_true, if_false]
    cases hcolumns : table.header with
    | ok columns => rfl
    | error fault =>
        rw [hcolumns] at hheader
        have hsame : fault.shift count = fault := Except.error.inj hheader
        exact congrArg Except.error hsame.symm

/-- Where a directive stands moves its fault and nothing else. -/
theorem directiveElements_shift (kind : List Char) (line count : Nat)
    (content : List Char) :
    directiveElements kind (line + count) content =
      (directiveElements kind line content).mapError (GrammarError.shift count) := by
  unfold directiveElements
  cases DirectiveKind.ofName? kind with
  | none => rfl
  | some known =>
      cases known with
      | parameters =>
          simp only [readDirective_shift, CellTable.parameters_shift, mapError_bind]
          rfl
      | code =>
          simp only [readDirective_shift, mapError_bind]
          rfl
      | callout =>
          simp only [readDirective_shift, mapError_bind]
          rfl
      | image => rfl

theorem Prose.elementsOf_shift
    (line count : Nat) (text : List Char) (node : Markdown.Node) :
    elementsOf (line + count) text node =
      (elementsOf line text node).mapError (GrammarError.shift count) := by
  cases node with
  | table span header rows =>
      simp only [elementsOf, mapError_bind, columns_shift]
      rfl
  | html span =>
      have hline : line + count + Text.countLineFeeds (text.take span.start) =
          line + Text.countLineFeeds (text.take span.start) + count := by omega
      simp only [elementsOf, hline]
      rfl
  | paragraph span => rfl
  | heading span => rfl
  | quote span children => rfl
  | list span items => rfl
  | item span children => rfl
  | code span content => rfl
  | rule span => rfl

theorem Prose.elements_shift
    (blocks : BlockReader) (line count : Nat) (text : List Char) :
    elements blocks (line + count) text =
      (elements blocks line text).mapError (GrammarError.shift count) := by
  unfold elements
  rw [mapError_bind, mapM_mapError (fun node => elementsOf_shift line count text node)]
  rfl

/-- Where a segment stands moves its fault and nothing else. -/
theorem Segment.elements_shift
    (blocks : BlockReader) (segment : Segment) (line count : Nat) :
    segment.elements blocks (line + count) =
      (segment.elements blocks line).mapError (GrammarError.shift count) := by
  cases segment with
  | markdown run => exact Prose.elements_shift blocks line count run.flatten
  | directive kind content => exact directiveElements_shift kind line count content.flatten
  | unclosed kind => rfl

end DocContract
