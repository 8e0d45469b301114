import DocContract.Proofs.BodyReading
import DocContract.Proofs.FaultLines

/-!
# Bodies around a directive

A directive that stands on lines of its own cuts a body in two.  What comes before it is
divided into segments as it is by itself, provided that it leaves no fence open; what comes
after it is read like a body that begins there, apart from the numbers of the lines in its
faults.
-/

namespace DocContract

/-- A line that ends with the only line feed that it has. -/
def Line.IsEnded (line : Line) : Prop :=
  ∃ start, line = start ++ ['\n'] ∧ '\n' ∉ start

/-- A text that is empty or ends with a line feed. -/
def Text.EndsLine (text : List Char) : Prop :=
  text = [] ∨ text.getLast? = some '\n'

theorem Text.splitLines_line_append {line : Line} (hended : line.IsEnded)
    (text : List Char) :
    splitLines (line ++ text) = line :: splitLines text := by
  obtain ⟨start, rfl, hfeed⟩ := hended
  induction start with
  | nil => simp [splitLines]
  | cons c start ih =>
      have hc : c ≠ '\n' := by
        rintro rfl
        simp at hfeed
      have hstart : '\n' ∉ start := fun hmem => hfeed (List.mem_cons_of_mem c hmem)
      rw [List.cons_append, List.cons_append, splitLines, if_neg hc, ih hstart]

theorem Text.splitLines_flatten_append
    {lines : List Line} (hended : ∀ line ∈ lines, line.IsEnded) (text : List Char) :
    splitLines (lines.flatten ++ text) = lines ++ splitLines text := by
  induction lines with
  | nil => rfl
  | cons line lines ih =>
      rw [List.forall_mem_cons] at hended
      rw [List.flatten_cons, List.append_assoc,
        splitLines_line_append hended.1, ih hended.2]
      rfl

theorem WholeLines.isEnded
    {text : List Char} {lines : List Line} (hlines : WholeLines text lines)
    (hends : Text.EndsLine text) : ∀ line ∈ lines, line.IsEnded := by
  induction hlines with
  | nil => simp
  | @last line hne hfeed =>
      rcases hends with hempty | hlast
      · exact absurd hempty hne
      · exact absurd (List.mem_of_getLast? hlast) hfeed
  | @cons start text lines hfeed hlater ih =>
      have hrest : Text.EndsLine text := by
        rcases hends with hempty | hlast
        · simp at hempty
        · cases text with
          | nil => exact .inl rfl
          | cons c text => exact .inr (by simpa [List.getLast?_append] using hlast)
      exact List.forall_mem_cons.2 ⟨⟨start, rfl, hfeed⟩, ih hrest⟩

/-- The lines of a text that ends a line are lines of every longer text. -/
theorem Text.splitLines_append
    {before : List Char} (hends : EndsLine before) (after : List Char) :
    splitLines (before ++ after) = splitLines before ++ splitLines after := by
  have hended : ∀ line ∈ splitLines before, Line.IsEnded line :=
    (wholeLines_splitLines before).isEnded hends
  calc splitLines (before ++ after)
      = splitLines ((splitLines before).flatten ++ after) := by rw [flatten_splitLines]
    _ = splitLines before ++ splitLines after := splitLines_flatten_append hended after

/-- A directive as it is written: whole lines, of which only the last closes it. -/
structure WrittenDirective where
  kind : List Char
  opening : Line
  content : List Line
  closing : Line
  ended : ∀ line ∈ opening :: content ++ [closing], line.IsEnded
  opens : opening.opens? = some kind
  inside : ∀ line ∈ content, line.isClosing = false
  closes : closing.isClosing = true

namespace WrittenDirective

def lines (directive : WrittenDirective) : List Line :=
  directive.opening :: directive.content ++ [directive.closing]

def text (directive : WrittenDirective) : String :=
  String.ofList directive.lines.flatten

def segment (directive : WrittenDirective) : Segment :=
  .directive directive.kind directive.content

theorem spans (directive : WrittenDirective) (rest : List Line) :
    directive.segment.Spans directive.lines rest :=
  .directive directive.opens directive.inside directive.closes

end WrittenDirective

/-- The segments into which lines are divided. -/
def segmentsOf : List Line → List Segment
  | [] => []
  | line :: lines =>
      (Segment.first line lines).1 :: segmentsOf (Segment.first line lines).2
termination_by lines => lines.length
decreasing_by exact Nat.lt_succ_of_le (Segment.length_first_le line lines)

/-- The last run of markdown among some segments. -/
def lastRun? : List Segment → Option (List Line)
  | [] => none
  | .markdown run :: later => some ((lastRun? later).getD run)
  | _ :: later => lastRun? later

/-- The fence that is still open at the end of the last run of a body. -/
def fenceLeftOpen (body : String) : Option Fence :=
  (lastRun? (segmentsOf (Text.splitLines body.toList))).bind openFence

theorem lastRun?_cons_of_some
    {later : List Segment} {run : List Line} (hlast : lastRun? later = some run)
    (segment : Segment) : lastRun? (segment :: later) = some run := by
  cases segment <;> simp [lastRun?, hlast]

namespace BodyReader

variable {blocks : BlockReader} {reader : BodyReader}

theorem advance_of_spans
    {segment : Segment} {consumed rest : List Line}
    (hlines : reader.rest = consumed ++ rest) (hspans : segment.Spans consumed rest) :
    reader.advance blocks =
      (segment.elements blocks reader.line).map fun elements =>
        reader.past ⟨segment, consumed, elements⟩ rest elements := by
  cases hconsumed : consumed with
  | nil => exact absurd hconsumed hspans.ne_nil
  | cons first inner =>
      have hrest : reader.rest = first :: (inner ++ rest) := by rw [hlines, hconsumed]; rfl
      have hfirst : Segment.first first (inner ++ rest) = (segment, rest) :=
        Segment.first_eq_of_spans (by rw [hconsumed]; rfl) hspans
      have hcount : (inner ++ rest).length + 1 - rest.length =
          (first :: inner).length := by
        rw [List.length_append, List.length_cons]
        omega
      unfold advance
      rw [hrest]
      simp only [hfirst, hcount]
      cases segment.elements blocks reader.line <;> rfl

theorem AdvancesBy.of_error
    {segment : Segment} {consumed rest : List Line} {fault : GrammarError}
    (hlines : reader.rest = consumed ++ rest) (hspans : segment.Spans consumed rest)
    (hfault : segment.elements blocks reader.line = .error fault) :
    reader.AdvancesBy blocks [] (some fault) reader.rest := by
  have hadvance : reader.advance blocks = .error fault := by
    rw [advance_of_spans hlines hspans, hfault]
    rfl
  exact .fault hadvance hlines hspans hfault

theorem AdvancesBy.of_ok
    {segment : Segment} {consumed rest : List Line} {elements : List Element}
    {parts : List Part} {fault : Option GrammarError} {left : List Line}
    (hlines : reader.rest = consumed ++ rest) (hspans : segment.Spans consumed rest)
    (helements : segment.elements blocks reader.line = .ok elements)
    (hlater : (reader.past ⟨segment, consumed, elements⟩ rest []).AdvancesBy blocks
      parts fault left) :
    reader.AdvancesBy blocks (⟨segment, consumed, elements⟩ :: parts) fault left := by
  have hadvance : reader.advance blocks =
      .ok (reader.past ⟨segment, consumed, elements⟩ rest elements) := by
    rw [advance_of_spans hlines hspans, helements]
    rfl
  exact .step hadvance hlines hspans helements hlater

/-- A reader that has come to its end has passed the segments of its lines. -/
theorem AdvancesBy.segments_eq
    {parts : List Part} {left : List Line}
    (hadvances : reader.AdvancesBy blocks parts none left) :
    parts.map Part.segment = segmentsOf reader.rest := by
  generalize hfault : none = fault at hadvances
  induction hadvances with
  | done hrest => simp [hrest, segmentsOf]
  | fault => contradiction
  | @step reader part rest parts fault left hadvance hlines hspans helements hlater ih =>
      cases hconsumed : part.lines with
      | nil => exact absurd hconsumed hspans.ne_nil
      | cons first inner =>
          have hrest : reader.rest = first :: (inner ++ rest) := by
            rw [hlines, hconsumed]; rfl
          have hfirst : Segment.first first (inner ++ rest) = (part.segment, rest) :=
            Segment.first_eq_of_spans (by rw [hconsumed]; rfl) hspans
          rw [List.map_cons, ih hfault, hrest, segmentsOf, hfirst]
          rfl

/-- Lines in front of a body move its faults and change nothing else. -/
theorem AdvancesBy.shift
    {parts : List Part} {fault : Option GrammarError} {left : List Line}
    (hadvances : reader.AdvancesBy blocks parts fault left) (count : Nat) :
    ({ reader with line := reader.line + count }).AdvancesBy blocks parts
      (fault.map (GrammarError.shift count)) left := by
  induction hadvances with
  | done hrest => exact .done hrest
  | @fault reader fault segment consumed rest hadvance hlines hspans hfault =>
      have hmoved : segment.elements blocks (reader.line + count) =
          .error (fault.shift count) := by
        rw [Segment.elements_shift, hfault]
        rfl
      exact @of_error blocks { reader with line := reader.line + count } _ _ _ _
        hlines hspans hmoved
  | @step reader part rest parts fault left hadvance hlines hspans helements hlater ih =>
      have hsame : part.segment.elements blocks (reader.line + count) =
          .ok part.elements := by
        rw [Segment.elements_shift, helements]
        rfl
      have hline : reader.line + part.lines.length + count =
          reader.line + count + part.lines.length := by omega
      refine @of_ok blocks { reader with line := reader.line + count } _ _ _ _ _ _
        _ hlines hspans
        hsame ?_
      simpa only [past, hline] using ih

/-! ## Lines behind a body -/

/-- A segment stays the same if lines follow that begin with a directive, unless it is a
run that ends the body in an open fence. -/
theorem spans_append
    {segment : Segment} {consumed rest later : List Line} {next : Line}
    (hspans : segment.Spans consumed rest) (hclosed : ∀ kind, segment ≠ .unclosed kind)
    (hlast : rest = [] → ∀ run, segment = .markdown run → openFence run = none)
    (hopens : next.opens?.isSome = true) :
    segment.Spans consumed (rest ++ next :: later) := by
  cases hspans with
  | directive hopening hcontent hcloses => exact .directive hopening hcontent hcloses
  | @unclosed opening kind lines => exact absurd rfl (hclosed kind)
  | @markdown first run rest hfirst henclosed hstops =>
      refine .markdown hfirst henclosed (.inr ?_)
      rcases hstops with rfl | ⟨stop, behind, rfl, hstop, hfence⟩
      · exact ⟨next, later, rfl, hopens, hlast rfl _ rfl⟩
      · exact ⟨stop, behind ++ next :: later, rfl, hstop, hfence⟩

/-- A body that leaves no fence open is read in the same way when a directive comes after
it. -/
theorem AdvancesBy.append
    {parts behind : List Part} {fault : Option GrammarError}
    {later left : List Line} {next : Line}
    (hadvances : reader.AdvancesBy blocks parts none [])
    (hpending : reader.pending = [])
    (hclosed : ∀ run, lastRun? (parts.map Part.segment) = some run → openFence run = none)
    (hopens : next.opens?.isSome = true)
    (hlater : ({ reader with
        rest := next :: later
        line := reader.line + reader.rest.length } : BodyReader).AdvancesBy blocks
          behind fault left) :
    ({ reader with rest := reader.rest ++ next :: later } : BodyReader).AdvancesBy blocks
      (parts ++ behind) fault left := by
  generalize hnone : none = ending at hadvances
  generalize hnil : ([] : List Line) = remaining at hadvances
  induction hadvances with
  | done hrest => simpa [hrest] using hlater
  | fault => contradiction
  | @step reader part rest parts ending remaining hadvance hlines hspans
      helements hparts ih =>
      subst hnone
      have hunclosed : ∀ kind, part.segment ≠ .unclosed kind := by
        intro kind hkind
        rw [hkind] at helements
        contradiction
      have hlast : rest = [] → ∀ run, part.segment = .markdown run →
          openFence run = none := by
        intro hend run hrun
        have hsegments := hparts.segments_eq
        simp only [past, hend, segmentsOf, List.map_eq_nil_iff] at hsegments
        exact hclosed run (by simp [hsegments, hrun, lastRun?])
      have hline : reader.line + reader.rest.length =
          reader.line + part.lines.length + rest.length := by
        rw [hlines, List.length_append]
        omega
      have hbehind := ih rfl
        (fun run hrun => hclosed run (lastRun?_cons_of_some hrun part.segment))
        (by simpa only [past, hline, hpending] using hlater) rfl hnil
      have hlonger : part.segment.Spans part.lines (rest ++ next :: later) :=
        spans_append hspans hunclosed hlast hopens
      exact @of_ok blocks { reader with rest := reader.rest ++ next :: later } _ _ _ _ _
        _ _
        (by simp [hlines]) hlonger helements hbehind

end BodyReader

theorem bodyItems_of_segment
    {blocks : BlockReader} {body : String} {line : Line} {lines : List Line}
    {segment : Segment}
    (hlines : Text.splitLines body.toList = line :: lines)
    (hfirst : Segment.first line lines = (segment, [])) :
    bodyItems blocks body =
      match segment.elements blocks 1 with
      | .ok elements => elements.map .ok
      | .error fault => [.error fault] := by
  obtain ⟨consumed, hconsumed, hspans⟩ := Segment.first_eq_iff.1 hfirst
  have hrest : (BodyReader.ofBody body).rest = consumed ++ [] := hlines.trans hconsumed
  cases helements : segment.elements blocks 1 with
  | error fault =>
      have hadvances := BodyReader.AdvancesBy.of_error hrest hspans helements
      have hitems : bodyItems blocks body = handedOut [] (some fault) :=
        hadvances.drain_eq rfl rfl
      exact hitems
  | ok elements =>
      have hadvances := BodyReader.AdvancesBy.of_ok hrest hspans helements (.done rfl)
      have hitems : bodyItems blocks body =
          handedOut [⟨segment, consumed, elements⟩] none :=
        hadvances.drain_eq rfl rfl
      simpa [handedOut] using hitems

theorem bodyElements_of_segment
    {blocks : BlockReader} {body : String} {line : Line} {lines : List Line}
    {segment : Segment}
    (hlines : Text.splitLines body.toList = line :: lines)
    (hfirst : Segment.first line lines = (segment, [])) :
    bodyElements blocks body = segment.elements blocks 1 := by
  rw [bodyElements, bodyItems_of_segment hlines hfirst]
  cases segment.elements blocks 1 with
  | error fault => rfl
  | ok elements => simpa [handedOut] using mapM_handedOut [⟨segment, [], elements⟩] none

/-- The number of lines of a body. -/
def lineCount (body : String) : Nat :=
  (Text.splitLines body.toList).length

/-- What a body hands out further down in another body. -/
def shiftItem (count : Nat) : Except GrammarError Element → Except GrammarError Element :=
  Except.mapError (GrammarError.shift count)

theorem map_shiftItem_handedOut (count : Nat) (parts : List Part)
    (fault : Option GrammarError) :
    (handedOut parts fault).map (shiftItem count) =
      handedOut parts (fault.map (GrammarError.shift count)) := by
  have hok : shiftItem count ∘ Except.ok = Except.ok := rfl
  rw [handedOut, handedOut, List.map_append, List.map_map, hok]
  cases fault <;> rfl

theorem handedOut_append
    (parts behind : List Part) (fault : Option GrammarError) :
    handedOut (parts ++ behind) fault = handedOut parts none ++
      handedOut behind fault := by
  simp [handedOut]

/-- A body that can be read is read to its end. -/
theorem exists_advancesBy_of_elements
    {blocks : BlockReader} {body : String} {elements : List Element}
    (helements : bodyElements blocks body = .ok elements) :
    ∃ parts, (BodyReader.ofBody body).AdvancesBy blocks parts none [] := by
  obtain ⟨parts, fault, left, hadvances⟩ :=
    (BodyReader.ofBody body).exists_advancesBy blocks
  have hitems : bodyItems blocks body = handedOut parts fault := hadvances.drain_eq rfl rfl
  rw [bodyElements, hitems, mapM_handedOut] at helements
  cases fault with
  | some fault => contradiction
  | none =>
      have hleft : left = [] := hadvances.rest_eq.2 rfl
      exact ⟨parts, hleft ▸ hadvances⟩

/-- The reader of a body when it has come to a directive. -/
def WrittenDirective.reader (directive : WrittenDirective) (before after : String) :
    BodyReader :=
  { rest := directive.lines ++ Text.splitLines after.toList
    line := 1 + lineCount before
    pending := []
    failed := false }

section Directive

variable {blocks : BlockReader} {before : String} {elements : List Element}
  (directive : WrittenDirective) (after : String)

theorem splitLines_around_directive (hends : Text.EndsLine before.toList) :
    Text.splitLines (before ++ directive.text ++ after).toList =
      Text.splitLines before.toList ++
        (directive.lines ++ Text.splitLines after.toList) := by
  have hinner : Text.splitLines (directive.lines.flatten ++ after.toList) =
      directive.lines ++ Text.splitLines after.toList :=
    Text.splitLines_flatten_append directive.ended after.toList
  rw [String.toList_append, String.toList_append, WrittenDirective.text,
    String.toList_ofList, List.append_assoc, Text.splitLines_append hends, hinner]

theorem lineCount_append_directive (hends : Text.EndsLine before.toList) :
    lineCount (before ++ directive.text) = lineCount before + directive.lines.length := by
  have hlines := splitLines_around_directive directive "" hends
  rw [String.append_empty] at hlines
  rw [lineCount, hlines]
  simp [lineCount, Text.splitLines]

theorem bodyItems_of_advancesBy
    (hends : Text.EndsLine before.toList)
    (hread : bodyElements blocks before = .ok elements)
    (hclosed : fenceLeftOpen before = none)
    {parts : List Part} {fault : Option GrammarError} {left : List Line}
    (hadvances : (directive.reader before after).AdvancesBy blocks parts fault left) :
    bodyItems blocks (before ++ directive.text ++ after) =
      bodyItems blocks before ++ handedOut parts fault := by
  obtain ⟨passed, hpassed⟩ := exists_advancesBy_of_elements hread
  have hruns : ∀ run, lastRun? (passed.map Part.segment) = some run →
      openFence run = none := by
    intro run hrun
    have hlast : lastRun? (segmentsOf (Text.splitLines before.toList)) = some run :=
      hpassed.segments_eq ▸ hrun
    rw [fenceLeftOpen, hlast] at hclosed
    exact hclosed
  have hopens : directive.opening.opens?.isSome = true := by
    rw [directive.opens]
    rfl
  have hwhole : (BodyReader.ofBody (before ++ directive.text ++ after)).AdvancesBy blocks
      (passed ++ parts) fault left := by
    rw [BodyReader.ofBody, splitLines_around_directive directive after hends]
    exact hpassed.append rfl hruns hopens hadvances
  have hitems : bodyItems blocks (before ++ directive.text ++ after) =
      handedOut (passed ++ parts) fault := hwhole.drain_eq rfl rfl
  have hbefore : bodyItems blocks before = handedOut passed none :=
    hpassed.drain_eq rfl rfl
  rw [hitems, hbefore, handedOut_append]

/-- The items of a body with a directive in it are those of what comes before it, those of
the directive and, if it has no fault, those of what comes after it.  Faults of the
directive and of what comes after it name lines further down, by as many as there are lines
in front; nothing else differs. -/
theorem bodyItems_around_directive
    (hends : Text.EndsLine before.toList)
    (hread : bodyElements blocks before = .ok elements)
    (hclosed : fenceLeftOpen before = none) :
    bodyItems blocks (before ++ directive.text ++ after) =
      bodyItems blocks before ++
        match directiveElements directive.kind 1 directive.content.flatten with
        | .ok found => found.map .ok ++
            (bodyItems blocks after).map (shiftItem (lineCount (before ++ directive.text)))
        | .error fault => [.error (fault.shift (lineCount before))] := by
  have hspans := directive.spans (Text.splitLines after.toList)
  have hmoved : directive.segment.elements blocks (1 + lineCount before) =
      (directiveElements directive.kind 1 directive.content.flatten).mapError
        (GrammarError.shift (lineCount before)) :=
    directiveElements_shift directive.kind 1 (lineCount before) directive.content.flatten
  cases hfound : directiveElements directive.kind 1 directive.content.flatten with
  | error fault =>
      rw [hfound] at hmoved
      have hadvances : (directive.reader before after).AdvancesBy blocks []
          (some (fault.shift (lineCount before))) (directive.reader before after).rest :=
        .of_error rfl hspans hmoved
      rw [bodyItems_of_advancesBy directive after hends hread hclosed hadvances]
      rfl
  | ok found =>
      rw [hfound] at hmoved
      obtain ⟨parts, fault, left, hafter⟩ :=
        (BodyReader.ofBody after).exists_advancesBy blocks
      have hitems : bodyItems blocks after = handedOut parts fault :=
        hafter.drain_eq rfl rfl
      have hline : 1 + lineCount before + directive.lines.length =
          1 + lineCount (before ++ directive.text) := by
        rw [lineCount_append_directive directive hends, Nat.add_assoc]
      have hbehind : ((directive.reader before after).past
          ⟨directive.segment, directive.lines, found⟩ (Text.splitLines after.toList)
            []).AdvancesBy
            blocks parts
              (fault.map (GrammarError.shift (lineCount (before ++ directive.text))))
            left := by
        simpa only [BodyReader.past, WrittenDirective.reader, BodyReader.ofBody, hline]
          using
          hafter.shift (lineCount (before ++ directive.text))
      have hadvances := BodyReader.AdvancesBy.of_ok rfl hspans hmoved hbehind
      rw [bodyItems_of_advancesBy directive after hends hread hclosed hadvances, hitems,
        map_shiftItem_handedOut]
      simp [handedOut]

end Directive

/-- Code that looks like a directive, in a fence that is closed. -/
def fencedBody : String := "~~~\n[block:code]\n~~~\n"

def readCallout : WrittenDirective where
  kind := "callout".toList
  opening := "[block:callout]\n".toList
  content := ["\x7b\"body\": \"Read.\"\x7d\n".toList]
  closing := "[/block]\n".toList
  ended := by
    have hended : ∀ start : List Char, '\n' ∉ start → Line.IsEnded (start ++ ['\n']) :=
      fun start hfeed => ⟨start, rfl, hfeed⟩
    simp only [List.cons_append, List.nil_append, List.forall_mem_cons]
    exact ⟨hended "[block:callout]".toList (by decide),
      hended "\x7b\"body\": \"Read.\"\x7d".toList (by decide),
      hended "[/block]".toList (by decide), by simp⟩
  opens := by decide
  inside := by decide
  closes := by decide

theorem bodyItems_around_callout :
    Text.EndsLine fencedBody.toList ∧
      bodyElements Markdown.read fencedBody = .ok [.block ⟨.fencedCode, "[block:code]"⟩] ∧
      fenceLeftOpen fencedBody = none ∧
      bodyItems Markdown.read (fencedBody ++ readCallout.text ++ "[block:code]\n") =
        [.ok (.block ⟨.fencedCode, "[block:code]"⟩), .ok (.block ⟨.blockquote, "Read."⟩),
          .error (.unterminatedDirective "code" 7)] := by
  have hends : Text.EndsLine fencedBody.toList := .inr (by decide)
  have hread : bodyElements Markdown.read fencedBody =
      .ok [.block ⟨.fencedCode, "[block:code]"⟩] := by
    rw [bodyElements_of_segment rfl rfl]
    decide +kernel
  have hclosed : fenceLeftOpen fencedBody = none := by decide +kernel
  have hbefore : bodyItems Markdown.read fencedBody =
      [.ok (.block ⟨.fencedCode, "[block:code]"⟩)] := by
    rw [bodyItems_of_segment rfl rfl]
    decide +kernel
  have hafter : bodyItems Markdown.read "[block:code]\n" =
      [.error (.unterminatedDirective "code" 1)] := by
    rw [bodyItems_of_segment rfl rfl]
    decide +kernel
  have hfound : directiveElements readCallout.kind 1 readCallout.content.flatten =
      .ok [.block ⟨.blockquote, "Read."⟩] := by decide +kernel
  have hcount : lineCount (fencedBody ++ readCallout.text) = 6 := by decide +kernel
  refine ⟨hends, hread, hclosed, ?_⟩
  rw [bodyItems_around_directive readCallout "[block:code]\n" hends hread hclosed,
    hbefore, hafter, hfound, hcount]
  rfl

end DocContract
