import DocContract.Proofs.BodyReading

/-!
# Where faults are found

The number of a line is one more than the number of line feeds in front of it.  A reader
counts whole lines and not line feeds, and it counts them segment by segment; both counts
agree wherever something is left to be read.  So a fault of a directive names the line that
opens the directive, and a fault of markup the line on which the block begins.
-/

namespace DocContract

/-- A list that is gone through up to the first fault: everything in front of it has an
answer. -/
theorem exists_of_mapM_eq_error
    {ε α β : Type} {read : α → Except ε β} {as : List α} {fault : ε}
    (hfault : as.mapM read = .error fault) :
    ∃ before a after, as = before ++ a :: after ∧ read a = .error fault ∧
      ∀ earlier ∈ before, ∃ b, read earlier = .ok b := by
  induction as with
  | nil => contradiction
  | cons first as ih =>
      rw [List.mapM_cons] at hfault
      cases hfirst : read first with
      | error found =>
          rw [hfirst] at hfault
          obtain rfl := Except.error.inj hfault
          exact ⟨[], first, as, rfl, hfirst, by simp⟩
      | ok b =>
          have hlater : as.mapM read = .error fault := by
            rw [hfirst] at hfault
            cases hrest : as.mapM read with
            | error found =>
                rw [hrest] at hfault
                exact hfault
            | ok bs =>
                rw [hrest] at hfault
                contradiction
          obtain ⟨before, a, after, rfl, ha, hbefore⟩ := ih hlater
          exact ⟨first :: before, a, after, rfl, ha,
            List.forall_mem_cons.2 ⟨⟨b, hfirst⟩, hbefore⟩⟩

/-- Lines that others follow have one line feed each. -/
theorem WholeLines.countLineFeeds_flatten
    {text : List Char} {before rest : List Line}
    (hlines : WholeLines text (before ++ rest))
    (hrest : rest ≠ []) : Text.countLineFeeds before.flatten = before.length := by
  induction before generalizing text with
  | nil => rfl
  | cons line before ih =>
      generalize hlater : before ++ rest = later at ih
      rw [List.cons_append, hlater] at hlines
      cases hlines with
      | last => exact absurd (List.append_eq_nil_iff.1 hlater).2 hrest
      | @cons start text _ hfeed hwhole =>
          have hcount : Text.countLineFeeds before.flatten = before.length := ih hwhole
          rw [Text.countLineFeeds] at hcount ⊢
          rw [List.flatten_cons, List.count_append, List.count_append, hcount,
            List.count_eq_zero.2 hfeed, List.count_singleton_self, List.length_cons]
          omega

namespace BodyReader

variable {blocks : BlockReader} {body : String} {reader after : BodyReader}

/-- What a reader can be while a body is read: it advances by segments, and it hands out
what it is asked for. -/
inductive Reached (blocks : BlockReader) (body : String) : BodyReader → Prop where
  | start : Reached blocks body (ofBody body)
  | advance {reader after : BodyReader} (hreached : Reached blocks body reader)
      (hadvance : reader.advance blocks = .ok after) : Reached blocks body after
  | next {reader : BodyReader} (hreached : Reached blocks body reader) :
      Reached blocks body (reader.next blocks).2

/-- A reader has some lines of a body behind it and the others before it, and counts
them. -/
structure Behind (body : String) (passed : List Line) (reader : BodyReader) : Prop where
  lines : Text.splitLines body.toList = passed ++ reader.rest
  line_eq : reader.line = passed.length + 1

theorem Behind.of_advance
    {passed : List Line} (hbehind : reader.Behind body passed)
    (hadvance : reader.advance blocks = .ok after) :
    ∃ more, after.Behind body (passed ++ more) := by
  by_cases hrest : reader.rest = []
  · rw [BodyReader.advance, hrest] at hadvance
    obtain rfl := Except.ok.inj hadvance
    exact ⟨[], by simpa using hbehind⟩
  · obtain ⟨part, rest, hlines, -, -, rfl⟩ := advance_of_ok hrest hadvance
    refine ⟨part.lines, ?_, ?_⟩
    · rw [hbehind.lines, hlines, List.append_assoc]
      rfl
    · simp only [past, hbehind.line_eq, List.length_append]
      omega

theorem Behind.of_next
    {passed : List Line} (hbehind : reader.Behind body passed) :
    ∃ more, (reader.next blocks).2.Behind body (passed ++ more) := by
  fun_induction reader.next blocks generalizing passed with
  | case1 | case2 | case3 | case4 =>
      exact ⟨[], by simpa using ⟨hbehind.lines, hbehind.line_eq⟩⟩
  | case5 reader hworks hpending hrest middle hadvance ih =>
      obtain ⟨more, hmiddle⟩ := hbehind.of_advance hadvance
      obtain ⟨others, hlast⟩ := ih hmiddle
      exact ⟨more ++ others, by rwa [← List.append_assoc]⟩

theorem Reached.exists_behind
    (hreached : Reached blocks body reader) : ∃ passed, reader.Behind body passed := by
  induction hreached with
  | start => exact ⟨[], rfl, rfl⟩
  | advance _ hadvance ih =>
      obtain ⟨passed, hbehind⟩ := ih
      obtain ⟨more, hafter⟩ := hbehind.of_advance hadvance
      exact ⟨_, hafter⟩
  | next _ ih =>
      obtain ⟨passed, hbehind⟩ := ih
      obtain ⟨more, hafter⟩ := hbehind.of_next
      exact ⟨_, hafter⟩

theorem Behind.body_eq
    {passed : List Line} (hbehind : reader.Behind body passed) :
    body.toList = passed.flatten ++ reader.rest.flatten := by
  rw [← List.flatten_append, ← hbehind.lines, Text.flatten_splitLines]

theorem Behind.countLineFeeds_eq
    {passed : List Line} (hbehind : reader.Behind body passed) (hrest : reader.rest ≠ []) :
    reader.line = 1 + Text.countLineFeeds passed.flatten := by
  have hlines := wholeLines_splitLines body.toList
  rw [hbehind.lines] at hlines
  rw [hbehind.line_eq, hlines.countLineFeeds_flatten hrest, Nat.add_comm]

end BodyReader

/-! ## The places of faults -/

/-- The line with a number, counted from one, opens a directive of a kind. -/
def OpensAt (body : String) (kind : String) (line : Nat) : Prop :=
  ∃ (before : List Line) (opening : Line) (after : List Line),
    Text.splitLines body.toList = before ++ opening :: after ∧ line = before.length + 1 ∧
      opening.opens? = some kind.toList

/-- The next run of a reader has a block of markup that begins on a line, and the blocks
before it have elements. -/
def MarkupAt (blocks : BlockReader) (body : String) (line : Nat) (snippet : String) :
    Prop :=
  ∃ reader passed run rest, BodyReader.Reached blocks body reader ∧
    reader.Behind body passed ∧ reader.rest = run ++ rest ∧
    (Segment.markdown run).Spans run rest ∧
    ∃ earlier span later, blocks run.flatten = earlier ++ .html span :: later ∧
      (∀ node ∈ earlier, ∃ elements,
        Prose.elementsOf reader.line run.flatten node = .ok elements) ∧
      line = 1 + Text.countLineFeeds (passed.flatten ++ run.flatten.take span.start) ∧
      snippet.toList = (Text.lines (span.extract run.flatten)).headD []

/-- What the fault of a body says about where it was found. -/
inductive GrammarError.Located (blocks : BlockReader) (body : String) :
    GrammarError → Prop where
  | unsupportedDirective {kind : String} {line : Nat} (hopens : OpensAt body kind line) :
      Located blocks body (.unsupportedDirective kind line)
  | malformedDirective {kind : String} {line : Nat} {fault : Json.Fault}
      (hopens : OpensAt body kind line) :
      Located blocks body (.malformedDirective kind line fault)
  | unterminatedDirective {kind : String} {line : Nat} (hopens : OpensAt body kind line) :
      Located blocks body (.unterminatedDirective kind line)
  | tableShape {kind : String} {line rows columns : Nat}
      (hopens : OpensAt body kind line) :
      Located blocks body (.tableShape line rows columns)
  | unsupportedMarkup {line : Nat} {snippet : String}
      (hmarkup : MarkupAt blocks body line snippet) :
      Located blocks body (.unsupportedMarkup line snippet)
  /-- This fault names no line. -/
  | unknownHeader {header : String} : Located blocks body (.unknownHeader header)

/-- The faults of a directive of a kind that opens at a line. -/
inductive GrammarError.OfDirective (kind : String) (line : Nat) : GrammarError → Prop where
  | unsupported : OfDirective kind line (.unsupportedDirective kind line)
  | malformed {fault : Json.Fault} :
      OfDirective kind line (.malformedDirective kind line fault)
  | tableShape {rows columns : Nat} : OfDirective kind line (.tableShape line rows columns)
  | unknownHeader {header : String} : OfDirective kind line (.unknownHeader header)

theorem exists_of_bind_eq_error
    {ε α β : Type} {attempt : Except ε α} {next : α → Except ε β} {fault : ε}
    (hfault : (attempt >>= next) = .error fault) :
    attempt = .error fault ∨ ∃ a, attempt = .ok a ∧ next a = .error fault := by
  cases attempt with
  | error found =>
      obtain rfl := Except.error.inj hfault
      exact .inl rfl
  | ok a => exact .inr ⟨a, rfl, hfault⟩

theorem ofDirective_of_readDirective
    {α : Type} {reader : Json.Reader α} {kind content : List Char} {line : Nat}
    {fault : GrammarError}
    (hfault : readDirective reader kind line content = .error fault) :
    fault.OfDirective (String.ofList kind) line := by
  unfold readDirective at hfault
  split at hfault
  · contradiction
  · obtain rfl := Except.error.inj hfault
    exact .malformed

theorem ofDirective_of_parameters
    {table : CellTable} {kind : String} {line : Nat} {fault : GrammarError}
    (hfault : table.parameters line = .error fault) : fault.OfDirective kind line := by
  unfold CellTable.parameters at hfault
  split at hfault
  · obtain rfl := Except.error.inj hfault
    exact .tableShape
  · rcases exists_of_bind_eq_error hfault with hheader | ⟨columns, -, hrest⟩
    · obtain ⟨-, column, -, -, hcolumn, -⟩ := exists_of_mapM_eq_error hheader
      split at hcolumn
      · exact nomatch hcolumn
      · obtain rfl := Except.error.inj hcolumn
        exact .unknownHeader
    · contradiction

theorem ofDirective_of_directiveElements
    {kind content : List Char} {line : Nat} {fault : GrammarError}
    (hfault : directiveElements kind line content = .error fault) :
    fault.OfDirective (String.ofList kind) line := by
  unfold directiveElements at hfault
  split at hfault
  · obtain rfl := Except.error.inj hfault
    exact .unsupported
  · rcases exists_of_bind_eq_error hfault with hread | ⟨table, -, hrest⟩
    · exact ofDirective_of_readDirective hread
    · rcases exists_of_bind_eq_error hrest with hparameters | ⟨parameters, -, hlast⟩
      · exact ofDirective_of_parameters hparameters
      · contradiction
  · rcases exists_of_bind_eq_error hfault with hread | ⟨codes, -, hrest⟩
    · exact ofDirective_of_readDirective hread
    · contradiction
  · rcases exists_of_bind_eq_error hfault with hread | ⟨callout, -, hrest⟩
    · exact ofDirective_of_readDirective hread
    · contradiction
  · contradiction

theorem GrammarError.OfDirective.located
    {blocks : BlockReader} {body kind : String} {line : Nat} {fault : GrammarError}
    (hof : fault.OfDirective kind line) (hopens : OpensAt body kind line) :
    fault.Located blocks body := by
  cases hof with
  | unsupported => exact .unsupportedDirective hopens
  | malformed => exact .malformedDirective hopens
  | tableShape => exact .tableShape hopens
  | unknownHeader => exact .unknownHeader

/-- A block is refused because it is markup, or because a header in it is not known. -/
theorem exists_of_elementsOf_eq_error
    {line : Nat} {text : List Char} {node : Markdown.Node} {fault : GrammarError}
    (hfault : Prose.elementsOf line text node = .error fault) :
    (∃ header, fault = .unknownHeader header) ∨
      ∃ span, node = .html span ∧ fault = .unsupportedMarkup
        (line + Text.countLineFeeds (text.take span.start))
        (String.ofList ((Text.lines (span.extract text)).headD [])) := by
  cases node with
  | table span header rows =>
      rcases exists_of_bind_eq_error hfault with hcolumns | ⟨columns, -, hrest⟩
      · obtain ⟨-, text, -, -, hheader, -⟩ := exists_of_mapM_eq_error hcolumns
        split at hheader
        · contradiction
        · obtain rfl := Except.error.inj hheader
          exact .inl ⟨_, rfl⟩
      · contradiction
  | html span => exact .inr ⟨span, rfl, (Except.error.inj hfault).symm⟩
  | paragraph | heading | quote | list | item | code | rule => contradiction

namespace BodyReader

variable {blocks : BlockReader} {body : String} {reader : BodyReader}
    {fault : GrammarError}

theorem located_of_advance
    (hreached : Reached blocks body reader)
    (hfault : reader.advance blocks = .error fault) :
    fault.Located blocks body := by
  obtain ⟨passed, hbehind⟩ := hreached.exists_behind
  have hrest : reader.rest ≠ [] := by
    intro hnil
    rw [advance, hnil] at hfault
    contradiction
  obtain ⟨segment, consumed, rest, hlines, hspans, hsegment⟩ :=
    advance_of_fault hrest hfault
  have hopensAt {opening : Line} {kind : List Char} {later : List Line}
      (hfirst : reader.rest = opening :: later) (hopens : opening.opens? = some kind) :
      OpensAt body (String.ofList kind) reader.line :=
    ⟨passed, opening, later, hfirst ▸ hbehind.lines, hbehind.line_eq,
     by simpa using hopens⟩
  cases hspans with
  | @directive opening closing kind content rest hopens hcontent hcloses =>
      exact (ofDirective_of_directiveElements hsegment).located
        (hopensAt (hlines.trans rfl) hopens)
  | @unclosed opening kind lines hopens hcontent =>
      obtain rfl := Except.error.inj hsegment
      exact .unterminatedDirective (hopensAt (hlines.trans rfl) hopens)
  | @markdown first run rest hfirst henclosed hstops =>
      have hrun : (Segment.markdown (first :: run)).Spans (first :: run) rest :=
        .markdown hfirst henclosed hstops
      rcases exists_of_bind_eq_error hsegment with hnodes | ⟨elements, -, hlast⟩
      · obtain ⟨earlier, node, later, hblocks, hnode, hearlier⟩ :=
          exists_of_mapM_eq_error hnodes
        rcases exists_of_elementsOf_eq_error hnode with ⟨header, rfl⟩ | ⟨span, rfl, rfl⟩
        · exact .unknownHeader
        · refine .unsupportedMarkup
            ⟨reader, passed, first :: run, rest, hreached, hbehind, hlines,
            hrun, earlier, span, later, hblocks, hearlier, ?_, by simp⟩
          rw [hbehind.countLineFeeds_eq hrest, Nat.add_assoc]
          simp [Text.countLineFeeds]
      · contradiction

theorem located_of_next
    (hreached : Reached blocks body reader)
    (hfault : (reader.next blocks).1 = some (.error fault)) :
    fault.Located blocks body := by
  fun_induction reader.next blocks with
  | case1 | case2 | case3 => simp at hfault
  | case4 reader hworks hpending hrest found hadvance =>
      obtain rfl : found = fault := by simpa using hfault
      exact located_of_advance hreached hadvance
  | case5 reader hworks hpending hrest middle hadvance ih =>
      exact ih (hreached.advance hadvance) hfault

theorem located_of_mem_drain
    (hreached : Reached blocks body reader)
    (hfault : .error fault ∈ (reader.drain blocks).1) :
    fault.Located blocks body := by
  fun_induction reader.drain blocks with
  | case1 => simp at hfault
  | case2 reader item after hnext items last hdrain ih =>
      rw [hdrain] at ih
      have hafter : Reached blocks body after := by
        have hasked := hreached.next
        rwa [hnext] at hasked
      rcases List.mem_cons.1 hfault with rfl | hlater
      · exact located_of_next hreached (by rw [hnext])
      · exact ih hafter hlater

end BodyReader

/-- While a body is read, the number of the line is one more than the number of line feeds
in front, as long as something is left; and each fault that is found in the body is where
it says. -/
theorem faults_located (blocks : BlockReader) (body : String) :
    (∀ reader, BodyReader.Reached blocks body reader →
      ∃ front, body.toList = front ++ reader.rest.flatten ∧
        (front.length < body.toList.length →
          reader.line = 1 + Text.countLineFeeds front)) ∧
      (∀ fault, .error fault ∈ bodyItems blocks body → fault.Located blocks body) ∧
      ∀ fault, bodyElements blocks body = .error fault → fault.Located blocks body := by
  have hitems : ∀ fault, .error fault ∈ bodyItems blocks body →
      fault.Located blocks body :=
    fun fault => BodyReader.located_of_mem_drain .start
  refine ⟨?_, hitems, ?_⟩
  · intro reader hreached
    obtain ⟨passed, hbehind⟩ := hreached.exists_behind
    refine ⟨passed.flatten, hbehind.body_eq, fun hinside =>
      hbehind.countLineFeeds_eq fun hnil => ?_⟩
    rw [hbehind.body_eq, hnil] at hinside
    simp at hinside
  · intro fault hfault
    obtain ⟨before, item, after, hsplit, rfl, -⟩ := exists_of_mapM_eq_error hfault
    exact hitems fault (hsplit ▸ by simp)

end DocContract
