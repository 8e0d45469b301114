import DocContract.Proofs.CodeLines

/-!
# Lines of one quotation

Lines that all begin with the mark of a quotation make up one quotation, whatever stands
behind the marks.  The first mark opens it, and each later line enters it again.  Blocks
and containers inside of it begin and end, but every block goes on to the start of a line,
so the quotation is ended by the end of the text only.
-/

namespace DocContract.Markdown

/-- Starts of lines from each of which reading goes on to another.  No fence is opened
there behind a narrow margin. -/
structure Fenceless (S : Place → Prop) : Prop where
  leadsTo : ∀ place, S place → place.LeadsTo S
  not_ahead : ∀ place, S place → ¬ Ahead StartsFence place.rest

section Fenceless

variable {S : Place → Prop} (hS : Fenceless S) {containers : List Container}
    {outline : Outline}
  {place : Place}

include hS

theorem Fenceless.goesOn {Stop : List Char → Prop} : GoesOn Stop S :=
  fun place hplace => .inr (hS.leadsTo place hplace)

theorem Fenceless.onward (offset : Nat) :
    Fenceless fun place => S place ∧ offset < place.offset := by
  refine ⟨fun place hplace => ?_, fun place hplace => hS.not_ahead place hplace.1⟩
  have hleads := hS.leadsTo place hplace.1
  exact ⟨hleads.1, hleads.2, Nat.lt_of_lt_of_le hplace.2 (Nat.le_add_right _ _)⟩

/-- Fenced code ends at the start of a line, or nothing but blanks is left of the line that
closes it. -/
theorem place_fencedLines {indent opened fuel : Nat} {mark : Char} (hmark : IsInLine mark)
    (hplace : S place) :
    let stop := (fencedLines containers indent mark opened fuel place).2
    S stop ∨ stop.LeadsTo S ∧ (blankLine? stop.rest).isSome = true := by
  induction fuel generalizing place with
  | zero => exact .inl hplace
  | succ fuel ih =>
      have hleads := hS.leadsTo place hplace
      rw [fencedLines]
      have hline := within_enterAll containers (.atPlace place)
      generalize enterAll containers (.atPlace place) = entered at *
      have htext := hline.trans (LineStart.within_indent entered.2.2 indent)
      have hclose := htext.trans
        (LineStart.within_indent (entered.2.2.indent indent).2 (4 - indent))
      simp only
      split
      · exact .inl hplace
      · split
        · next n hclosing =>
          split at hclosing
          · contradiction
          · obtain ⟨hstays, hblank⟩ := staysInLine_of_closingFence? hmark hclosing
            exact .inr ⟨hleads.within (hclose.trans hstays.within), hblank⟩
        · exact ih (hleads.within htext).next_throughLineFeed

theorem place_readFence {indent opened : Nat} {mark : Char} (hleads : place.LeadsTo S)
    (hfence : codeFence? place.rest = some (mark, opened)) :
    S (readFence outline place indent mark opened).2 := by
  have hinfo :=
    (staysInLine_of_codeFence? hfence).within.trans (Place.within_advance_inlineSpace _)
  have hfirst := (hleads.within hinfo).next_throughLineFeed
  have hmark := (fence_of_codeFence? hfence).1.isInLine
  have hstop (fuel : Nat) :=
    @place_fencedLines _ hS outline.containers _ indent opened fuel _ hmark hfirst
  simp only [readFence]
  exact place_afterBlankLine hS.goesOn (hstop _)

theorem place_readHtml {ending : Option String} (hleads : place.LeadsTo S) :
    S (readHtml outline place ending).2 := by
  rcases @place_htmlEnd _ outline.containers hS.goesOn (ending.map String.toList)
    (place.rest.length + 1) place hleads
      (Nat.lt_succ_self _) with hnext | ⟨line, hline, hfence, -⟩
  · exact hnext
  · exact absurd hfence (hS.not_ahead line hline)

theorem place_readIndented {pending : Nat} (hleads : place.LeadsTo S) :
    S (readIndented outline place pending).2 := by
  have hextent :=
    @codeExtent_indentedLines _ outline.containers hS.goesOn (place.rest.length + 1)
      pending place.offset false [] place hleads (Nat.lt_succ_self _)
  exact hextent.next

theorem place_readLeaf {indent : Nat} (hleads : place.LeadsTo S)
    (hrest : place.rest ≠ []) :
    S (readLeaf outline place indent).2 := by
  unfold readLeaf
  simp only
  split
  · exact place_readHtml hS hleads
  split
  · next n hbreak => exact hleads.next (throughLineEnd_of_thematicBreak? hbreak)
  split
  · exact hleads.2
  split
  · next mark opened hopen => exact place_readFence hS hleads hopen
  split
  · next stop hstop =>
    exact place_afterBlankLine hS.goesOn (place_of_afterReference? hS.goesOn hleads hstop)
  · exact place_readParagraph hS.goesOn hleads hrest

theorem place_readContent {start : Nat} {line : LineStart}
    (hleads : line.place.LeadsTo S) :
    S (readContent outline start line).2 := by
  have hwithin := line.within_indent 4
  unfold readContent
  split
  · next n hblank => exact hleads.next (throughLineEnd_of_blankLine? hblank)
  · next hblank =>
    have hrest := line.rest_indent_ne_nil hblank 4
    generalize line.indent 4 = indented at *
    simp only
    split
    · exact place_readIndented hS (hleads.within hwithin)
    · exact place_readLeaf hS (hleads.within hwithin) hrest

/-- A block ends at the start of a line. -/
theorem place_readBlock {text : List Char} (hSin : ∀ line, S line → line.In text)
    (hleads : place.LeadsTo S) (hin : place.In text) : S (readBlock outline place).2 := by
  have hwithin := within_enterAll outline.containers (.atPlace place)
  rw [readBlock_eq]
  generalize enterAll outline.containers (.atPlace place) = entered at *
  have hline := hleads.within hwithin
  have hopens :=
    @opens_openContainers text S S (outline.closeTo entered.2.1 place.offset) entered.2.2
      hS.goesOn hSin (place.rest.length + 1) place.offset hline (hin.within hwithin)
      (.inl hline)
  simp only
  split
  · next after next hopening =>
    rw [hopening] at hopens
    cases hopens with
    | lineDone hleaves hnext => exact hnext
  · next after start line hopening =>
    rw [hopening] at hopens
    cases hopens with
    | content hleaves hleads hin hlength hcode hentered =>
        exact place_readContent hS hleads

end Fenceless

namespace Outline

theorem closeTo_eq_closeOne (outline : Outline) {depth : Nat}
    (hdepth : depth < outline.opened.length)
    (stop : Nat) :
    outline.closeTo depth stop = (outline.closeTo (depth + 1) stop).closeOne stop := by
  have hcount : outline.opened.length - depth =
      outline.opened.length - (depth + 1) + 1 := by omega
  rw [closeTo, hcount, List.range_succ, List.foldl_append]
  rfl

theorem length_opened_closeTo (outline : Outline) (depth stop : Nat) :
    (outline.closeTo depth stop).opened.length = min depth outline.opened.length := by
  have hopened := congrArg List.length (outline.closeTo_cases depth stop).2
  rw [List.length_map, List.length_drop, List.length_map] at hopened
  omega

/-- A quotation that begins with the text is open around all blocks. -/
def InQuotation (outline : Outline) : Prop :=
  outline.finished = [] ∧
    ∃ inner children, outline.opened = inner ++
      [{ container := .quote, start := 0, children }]

namespace InQuotation

variable {outline : Outline} (hquote : outline.InQuotation)

include hquote

theorem containers_eq : ∃ containers, outline.containers = .quote :: containers := by
  obtain ⟨-, inner, children, hopened⟩ := hquote
  exact ⟨_, by rw [containers, hopened, List.map_append, List.reverse_append]; rfl⟩

theorem length_opened_pos : 0 < outline.opened.length := by
  obtain ⟨-, inner, children, hopened⟩ := hquote
  simp [hopened]

/-- The innermost container is not the quotation if it is of another kind. -/
theorem one_lt_length_opened {frame : Frame} {frames : List Frame}
    (hopened : outline.opened = frame :: frames) (hframe : frame.container ≠ .quote) :
    1 < outline.opened.length := by
  obtain ⟨-, inner, children, hbottom⟩ := hquote
  cases inner with
  | nil =>
      rw [hbottom, List.nil_append, List.cons.injEq] at hopened
      exact absurd (by rw [← hopened.1]) hframe
  | cons _ inner => simp [hbottom]

theorem add (node : Node) : (outline.add node).InQuotation := by
  obtain ⟨hfinished, inner, children, hopened⟩ := hquote
  cases inner with
  | nil =>
      exact ⟨by simp [Outline.add, hopened, hfinished], [], _,
        by rw [Outline.add, hopened]; rfl⟩
  | cons frame inner =>
      exact ⟨by simp [Outline.add, hopened, hfinished], _ :: inner, _,
        by rw [Outline.add, hopened]; rfl⟩

theorem enter (container : Container) (start : Nat) :
    (outline.enter container start).InQuotation := by
  obtain ⟨hfinished, inner, children, hopened⟩ := hquote
  exact ⟨hfinished, _ :: inner, children, by rw [Outline.enter, hopened]; rfl⟩

theorem bareItem (bareItem : Bool) : { outline with bareItem }.InQuotation := hquote

theorem closeOne (hinner : 1 < outline.opened.length) (stop : Nat) :
    (outline.closeOne stop).InQuotation := by
  obtain ⟨hfinished, inner, children, hopened⟩ := hquote
  cases inner with
  | nil => simp [hopened] at hinner
  | cons frame inner =>
      have hfewer : InQuotation
          { outline with opened := inner ++
            [{ container := .quote, start := 0, children }] } :=
        ⟨hfinished, inner, children, rfl⟩
      rw [Outline.closeOne, hopened]
      exact hfewer.add _

theorem closeTo {depth : Nat} (hdepth : 0 < depth) (stop : Nat) :
    (outline.closeTo depth stop).InQuotation := by
  induction hcount : outline.opened.length - depth generalizing depth with
  | zero =>
      have hsame : outline.closeTo depth stop = outline := by
        rw [Outline.closeTo, hcount]
        rfl
      rwa [hsame]
  | succ count ih =>
      -- With two containers still open, the one that ends next is inside of the quotation.
      have hlength := outline.length_opened_closeTo (depth + 1) stop
      rw [outline.closeTo_eq_closeOne (by omega)]
      exact (@ih (depth + 1) (Nat.succ_pos depth) (by omega)).closeOne (by omega) stop

theorem endList (stop : Nat) : (outline.endList stop).InQuotation := by
  unfold Outline.endList
  split
  · next hopened =>
    exact hquote.closeOne (hquote.one_lt_length_opened hopened (by simp)) stop
  · exact hquote

theorem continueList (start : Nat) (mark : Char) :
    (outline.continueList start mark).InQuotation := by
  unfold Outline.continueList
  split
  · next hopened =>
    split
    · exact hquote
    · exact (hquote.closeOne (hquote.one_lt_length_opened hopened (by simp)) start).enter
        _ _
  · exact hquote.enter _ _

/-- Where all containers end, the quotation is the one block. -/
theorem finished_closeTo_zero (stop : Nat) :
    ∃ children, (outline.closeTo 0 stop).finished =
      [.quote { start := 0, stop } children] := by
  have hlength := outline.length_opened_closeTo 1 stop
  have hpos := hquote.length_opened_pos
  obtain ⟨hfinished, inner, children, hopened⟩ := hquote.closeTo Nat.one_pos stop
  obtain rfl : inner = [] := by
    rw [hopened, List.length_append, List.length_singleton] at hlength
    exact List.length_eq_zero_iff.1 (by omega)
  rw [List.nil_append] at hopened
  refine ⟨children.reverse, ?_⟩
  rw [outline.closeTo_eq_closeOne hpos, Outline.closeOne, hopened]
  simp [Outline.add, hfinished, Frame.close]

end InQuotation

end Outline

/-! ## Blocks inside of the quotation -/

namespace Outline.InQuotation

variable {outline : Outline} (hquote : outline.InQuotation)

include hquote

theorem openContainers (fuel start : Nat) (line : LineStart) :
    (openContainers fuel outline start line).outline.InQuotation := by
  induction fuel generalizing outline line with
  | zero => exact hquote
  | succ fuel ih =>
      rw [Markdown.openContainers]
      simp only
      split
      · exact hquote
      split
      · have hitem := fun at_ mark width =>
          (hquote.continueList at_ mark).enter (.item width) at_
        split
        · exact (hitem _ _ _).bareItem true
        · exact ih (hitem _ _ _) _
      · split
        · have hinner := fun at_ => (hquote.endList start).enter .quote at_
          split
          · exact ih (hinner _) _
          · split <;> exact hinner _
        · exact hquote

theorem readBlank (start : Nat) : (readBlank outline start).InQuotation := by
  unfold Markdown.readBlank
  split
  · next hopened =>
    split
    · have hlength := hquote.one_lt_length_opened hopened (by simp)
      exact (hquote.closeOne hlength start).bareItem false
    · exact hquote
  · exact hquote

theorem readLeaf (place : Place) (indent : Nat) :
    (readLeaf outline place indent).1.InQuotation := by
  rcases readLeaf_cases outline place indent with hsame | ⟨node, hadd⟩
  · rwa [hsame]
  · rw [hadd]
    exact hquote.add node

theorem readContent (start : Nat) (line : LineStart) :
    (readContent outline start line).1.InQuotation := by
  unfold Markdown.readContent
  split
  · exact hquote.readBlank start
  · have hended := (hquote.endList start).bareItem false
    simp only
    split
    · exact hended.add _
    · exact hended.readLeaf _ _

end Outline.InQuotation

section Block

variable {outline : Outline} {place : Place} {rest : List Char}

theorem indent_of_mark (hrest : place.rest = '>' :: rest) (n : Nat) :
    (LineStart.atPlace place).indent n = (n, .atPlace place) := by
  obtain ⟨offset, cs⟩ := place
  obtain rfl : cs = '>' :: rest := hrest
  cases n <;> rfl

/-- A line that begins with a mark enters the quotation. -/
theorem depth_enterAll_pos (hquote : outline.InQuotation)
    (hrest : place.rest = '>' :: rest) :
    0 < (enterAll outline.containers (.atPlace place)).2.1 := by
  obtain ⟨containers, hcontainers⟩ := hquote.containers_eq
  have henter : Container.quote.enter? (.atPlace place) =
      some (((LineStart.atPlace place).advance 1).indent 1).2 := by
    simp only [Container.enter?, indent_of_mark hrest]
    simp only [LineStart.atPlace, hrest]
  rw [hcontainers, enterAll, henter]
  exact Nat.succ_pos _

/-- What a block adds in the containers it opens leaves the quotation open. -/
theorem inQuotation_readBlock_of_opened
    (hopens : (openContainers (place.rest.length + 1)
      (outline.closeTo (enterAll outline.containers (.atPlace place)).2.1 place.offset)
        place.offset
      (enterAll outline.containers (.atPlace place)).2.2).outline.InQuotation) :
    (readBlock outline place).1.InQuotation := by
  rw [readBlock_eq]
  generalize enterAll outline.containers (.atPlace place) = entered at *
  simp only
  split
  · next after next hopening => rwa [hopening] at hopens
  · next after start line hopening =>
    rw [hopening] at hopens
    exact hopens.readContent start line

theorem Outline.InQuotation.readBlock (hquote : outline.InQuotation)
    (hrest : place.rest = '>' :: rest) : (readBlock outline place).1.InQuotation :=
  have hended := hquote.closeTo (depth_enterAll_pos hquote hrest) place.offset
  inQuotation_readBlock_of_opened (hended.openContainers _ _ _)

/-- The first mark opens the quotation. -/
theorem inQuotation_readBlock_first (hoffset : place.offset = 0)
    (hrest : place.rest = '>' :: rest) :
    (readBlock {} place).1.InQuotation := by
  have hentered : (({} : Outline).enter .quote place.offset).InQuotation :=
    ⟨rfl, [], [], by rw [hoffset]; rfl⟩
  have hitem : itemMark? (4 - 4) (.atPlace place) = none :=
    itemMark?_eq_none (by rw [LineStart.atPlace, hrest]; rfl)
  have hopens : (openContainers (place.rest.length + 1) {} place.offset
      (.atPlace place)).outline.InQuotation := by
    rw [openContainers]
    simp only [indent_of_mark hrest, hitem]
    split
    · contradiction
    split
    · split
      · exact hentered.openContainers _ _ _
      · split <;> exact hentered
    · next hother => exact absurd hrest (hother rest)
  exact inQuotation_readBlock_of_opened hopens

end Block

/-- Lines as the reader of blocks ends them, each of which begins with the mark of a
quotation. -/
structure QuotedLines (lines : List Line) : Prop where
  mark : ∀ line ∈ lines, line.head? = some '>'
  read : ∀ before line after, lines = before ++ line :: after → line.IsRead after.flatten

namespace QuotedLines

variable {lines : List Line} (hlines : QuotedLines lines) {outline : Outline}
    {place : Place}

include hlines

theorem exists_cons {before after : List Line} {line : Line}
    (hstarts : StartsLine lines before (line :: after) place) :
    ∃ rest, place.rest = '>' :: rest := by
  have hmem : line ∈ lines := hstarts.lines_eq ▸ by simp
  obtain ⟨rest, rfl⟩ := List.head?_eq_some_iff.1 (hlines.mark line hmem)
  exact ⟨_, hstarts.rest⟩

theorem fenceless :
    Fenceless fun place => ∃ before after, StartsLine lines before after place := by
  constructor
  · rintro place ⟨before, after, hstarts⟩
    cases after with
    | nil =>
        have hrest : place.rest = [] := hstarts.rest
        refine ⟨by rw [hrest]; rfl, before, [], ?_⟩
        rwa [hrest]
    | cons line after =>
        have hleads := hstarts.leadsTo (hlines.read before line after hstarts.lines_eq)
        exact hleads.mono fun next hnext => ⟨_, _, hnext⟩
  · rintro place ⟨before, after, hstarts⟩ ⟨width, text, hrest, -, hfence⟩
    obtain ⟨c, tail, rfl, hmark⟩ := hfence.exists_cons
    cases after with
    | nil => simp [hstarts.rest] at hrest
    | cons line after =>
        obtain ⟨rest, hquoted⟩ := hlines.exists_cons hstarts
        rw [hquoted] at hrest
        cases width with
        | zero => rcases hmark with rfl | rfl <;> simp at hrest
        | succ width => simp [List.replicate_succ] at hrest

/-- A block is read up to the start of a later line. -/
theorem startsLine_readBlock {before after : List Line} {line : Line}
    (hstarts : StartsLine lines before (line :: after) place) :
    (readBlock outline place).2.rest.length < place.rest.length ∧
      ∃ before after, StartsLine lines before after (readBlock outline place).2 := by
  obtain ⟨rest, hrest⟩ := hlines.exists_cons hstarts
  have hleads := hlines.fenceless.leadsTo place ⟨before, line :: after, hstarts⟩
  -- Only later places count, so that every block takes some characters.
  obtain ⟨⟨first, later, hnext⟩, hlater⟩ :=
    @place_readBlock _ (hlines.fenceless.onward place.offset) outline place lines.flatten
      (fun _ ⟨⟨_, _, hline⟩, _⟩ => hline.in_flatten) (hleads.onward (by simp [hrest]))
      hstarts.in_flatten
  have hplace := hstarts.offset_add_length
  have hthere := hnext.offset_add_length
  exact ⟨by omega, first, later, hnext⟩

theorem readBlocks_eq {before after : List Line} (hquote : outline.InQuotation)
    (hstarts : StartsLine lines before after place) :
    ∃ children, readBlocks outline place =
      [.quote { start := 0, stop := lines.flatten.length } children] := by
  induction hsize : place.rest.length using Nat.strong_induction_on
    generalizing outline place before after with
  | _ size ih =>
    subst hsize
    cases after with
    | nil =>
        have hrest : place.rest = [] := hstarts.rest
        have hstop := hstarts.offset_add_length
        rw [hrest, List.length_nil, Nat.add_zero] at hstop
        obtain ⟨children, hfinished⟩ := hquote.finished_closeTo_zero place.offset
        rw [readBlocks, if_pos (by simp [hrest]), hfinished, hstop]
        exact ⟨children, rfl⟩
    | cons line after =>
        obtain ⟨rest, hrest⟩ := hlines.exists_cons hstarts
        obtain ⟨hlength, first, later, hnext⟩ :=
          @startsLine_readBlock _ hlines outline _ _ _ _ hstarts
        rw [readBlocks_of_lt hlength]
        exact ih _ hlength (hquote.readBlock hrest) hnext rfl

/-- Lines that all begin with the mark are one quotation, whatever they say. -/
theorem read_eq (hne : lines ≠ []) :
    ∃ children, Markdown.read lines.flatten =
      [.quote { start := 0, stop := lines.flatten.length } children] := by
  obtain ⟨line, after, rfl⟩ := List.exists_cons_of_ne_nil hne
  have hstarts : StartsLine (line :: after) [] (line :: after)
      { offset := 0, rest := (line :: after).flatten } := ⟨rfl, rfl, rfl⟩
  obtain ⟨rest, hrest⟩ := hlines.exists_cons hstarts
  obtain ⟨hlength, first, later, hnext⟩ :=
    @startsLine_readBlock _ hlines {} _ _ _ _ hstarts
  rw [Markdown.read, readBlocks_of_lt hlength]
  exact hlines.readBlocks_eq (inQuotation_readBlock_first rfl hrest) hnext

end QuotedLines

end DocContract.Markdown
