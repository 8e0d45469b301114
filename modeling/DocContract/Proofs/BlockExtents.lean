import DocContract.Proofs.LeafExtents
import DocContract.Proofs.OutlineLeaves

/-!
# How far one block reaches

Reading one block goes from the start of a line to the start of a later one and adds one
leaf at most. The exceptions are a code fence inside of a container and raw markup that
takes a line in which a fence is opened.
-/

namespace DocContract.Markdown

def Place.In (text : List Char) (place : Place) : Prop :=
  text.drop place.offset = place.rest

theorem Place.In.within {text : List Char} {place later : Place} (hin : place.In text)
    (hwithin : place.Within later) : later.In text := by
  obtain ⟨front, -, rfl, -⟩ := hwithin
  rw [In, advance_offset, ← List.drop_drop, hin, advance_rest]

namespace LineStart

/-- While the columns of a line are counted from its start, a tab fills up all four. -/
theorem indentFrom_missing {offset column n : Nat} {rest : List Char}
    (hcolumn : column + n = 4)
    (hmissing : (indentFrom offset column n rest).1 ≠ 0) :
    ∃ width, rest = List.replicate width ' ' ++
      (indentFrom offset column n rest).2.place.rest ∧
      (indentFrom offset column n rest).2.place.offset = offset + width ∧
      (indentFrom offset column n rest).1 + width = n := by
  induction n generalizing offset column rest with
  | zero => simp [indentFrom] at hmissing
  | succ n ih =>
      cases rest with
      | nil => exact ⟨0, by simp [indentFrom]⟩
      | cons c rest =>
          rw [indentFrom] at hmissing ⊢
          by_cases hspace : c = ' '
          · simp only [if_pos hspace] at hmissing ⊢
            obtain ⟨width, hrest, hoffset, hsum⟩ := ih (by omega) hmissing
            refine ⟨width + 1, ?_, by omega, by omega⟩
            rw [List.replicate_succ, List.cons_append, ← hrest, hspace]
          · by_cases htab : c = '\t'
            · have hwidth : 4 - column % 4 = n + 1 := by omega
              simp [htab, hwidth, indentFrom] at hmissing
            · simp only [if_neg hspace, if_neg htab]
              exact ⟨0, rfl, rfl, rfl⟩

theorem indent_atPlace_missing {place : Place} {missing : Nat} {text : LineStart}
    (hindent : (atPlace place).indent 4 = (missing, text)) (hmissing : missing ≠ 0) :
    place.rest = List.replicate (4 - missing) ' ' ++ text.place.rest ∧
      text.place = place.advance (4 - missing) ∧ missing ≤ 4 := by
  have hfrom : (atPlace place).indent 4 = indentFrom place.offset 0 4 place.rest := rfl
  rw [hfrom] at hindent
  obtain ⟨width, hrest, hoffset, hsum⟩ :=
    @indentFrom_missing place.offset 0 4 place.rest rfl
      (by rw [hindent]; exact hmissing)
  rw [hindent] at hrest hoffset hsum
  obtain rfl : width = 4 - missing := by simp only at hsum; omega
  refine ⟨hrest, ?_, by simp only at hsum; omega⟩
  ext1
  · exact hoffset
  · rw [Place.advance_rest, hrest]
    simp

theorem indent_skipIndent (line : LineStart) : (line.skipIndent.indent 4).1 = 4 := by
  have hpending : line.skipIndent.pending = 0 := rfl
  rw [indent, hpending, if_neg (by decide)]
  simp only [skipIndent, Place.advance_rest, drop_countWhile, Nat.sub_zero]
  cases hrest : line.place.rest.dropWhile fun c => c == ' ' || c == '\t' with
  | nil => rfl
  | cons c rest =>
      have hc := List.head?_dropWhile_not (fun c => c == ' ' || c == '\t') line.place.rest
      rw [hrest] at hc
      have hblank : c ≠ ' ' ∧ c ≠ '\t' := by simpa using hc
      simp [indentFrom, hblank]

theorem blankLine?_cons_of_isInlineSpace {c : Char} (hc : isInlineSpace c = true)
    (rest : List Char) :
    (blankLine? (c :: rest)).isSome = (blankLine? rest).isSome := by
  simp [blankLine?, countWhile, hc]

theorem isSome_blankLine?_of_indentFrom {offset column n : Nat} {rest : List Char}
    (hrest : (indentFrom offset column n rest).2.place.rest = []) :
    (blankLine? rest).isSome = true := by
  induction n using Nat.strong_induction_on generalizing offset column rest with
  | _ n ih =>
    match n, rest with
    | 0, rest =>
        rw [indentFrom] at hrest
        obtain rfl : rest = [] := hrest
        rfl
    | n + 1, [] => rfl
    | n + 1, c :: rest =>
        rw [indentFrom] at hrest
        split at hrest
        · next hspace =>
          rw [blankLine?_cons_of_isInlineSpace (by simp [hspace, isInlineSpace])]
          exact ih n (Nat.lt_succ_self n) hrest
        · split at hrest
          · next htab =>
            rw [blankLine?_cons_of_isInlineSpace (by simp [htab, isInlineSpace])]
            simp only at hrest
            split at hrest
            · obtain rfl : rest = [] := hrest
              rfl
            · exact ih _ (by omega) hrest
          · contradiction

theorem rest_indent_ne_nil (line : LineStart)
    (hblank : blankLine? line.place.rest = none) (n : Nat) :
    (line.indent n).2.place.rest ≠ [] := by
  intro hrest
  rw [indent] at hrest
  split at hrest
  · obtain hrest : line.place.rest = [] := hrest
    rw [hrest] at hblank
    contradiction
  · have hsome := isSome_blankLine?_of_indentFrom hrest
    rw [hblank] at hsome
    contradiction

end LineStart

theorem isInLine_of_isAsciiDigit {c : Char} (hc : isAsciiDigit c = true) : IsInLine c := by
  constructor <;>
    · rintro rfl
      contradiction

theorem staysInLine_of_bullet? {cs : List Char} {bullet : Bullet}
    (hbullet : bullet? cs = some bullet) :
    StaysInLine bullet.width cs := by
  unfold bullet? at hbullet
  split at hbullet
  · contradiction
  next c rest =>
  split at hbullet
  · next hmark =>
    obtain rfl := Option.some.inj hbullet
    refine .cons ?_ (.zero rest)
    simp only [Bool.or_eq_true, beq_iff_eq] at hmark
    rcases hmark with (rfl | rfl) | rfl <;> decide
  simp only at hbullet
  split at hbullet
  · split at hbullet
    · next d back hdrop =>
      split at hbullet
      · next hd =>
        obtain rfl := Option.some.inj hbullet
        have hdigits : ∀ e ∈ (c :: rest).takeWhile isAsciiDigit, IsInLine e := fun e he =>
          isInLine_of_isAsciiDigit (List.mem_takeWhile_imp he)
        have hsplit : c :: rest = ((c :: rest).takeWhile isAsciiDigit ++ [d]) ++ back := by
          rw [List.append_assoc, List.singleton_append, ← hdrop,
            ← countWhile_eq_length_takeWhile,
            drop_countWhile, List.takeWhile_append_dropWhile]
        have hd : IsInLine d := by
          rcases Bool.or_eq_true_iff.1 hd with hd | hd <;>
            exact isInLine_of_beq (by decide) hd
        have hstays := @StaysInLine.of_forall _ back (List.forall_mem_append.2
          ⟨hdigits, List.forall_mem_singleton.2 hd⟩)
        rwa [← hsplit, List.length_append] at hstays
      · contradiction
    · contradiction
  · contradiction

theorem within_of_itemMark? {indent width : Nat} {line text : LineStart} {mark : Char}
    (hmark : itemMark? indent line = some (mark, width, text)) :
    line.place.Within text.place := by
  simp only [itemMark?, Option.bind_eq_bind, Option.bind_eq_some_iff,
    Option.guard_eq_some'] at hmark
  obtain ⟨_, -, bullet, hbullet, _, -, hmark⟩ := hmark
  have hspaced : line.place.Within ((line.advance bullet.width).indent 1).2.place :=
    (staysInLine_of_bullet? hbullet).within.trans
      (LineStart.within_indent (line.advance bullet.width) 1)
  generalize ((line.advance bullet.width).indent 1).2 = spaced at hspaced hmark
  split_ifs at hmark
  · obtain ⟨-, -, rfl⟩ := by simpa using hmark
    exact hspaced
  · obtain ⟨-, -, rfl⟩ := by simpa using hmark
    exact hspaced
  · obtain ⟨-, -, rfl⟩ := by simpa using hmark
    exact hspaced.trans (LineStart.within_indent _ 4)

theorem itemMark?_eq_none {indent : Nat} {line : LineStart}
    (hbullet : bullet? line.place.rest = none) : itemMark? indent line = none := by
  simp [itemMark?, hbullet]

theorem staysInLine_of_startsWithIgnoringCase {word : String} {cs : List Char}
    (hword : ∀ c ∈ word.toList.map Char.toLower, IsInLine c)
    (hstarts : startsWithIgnoringCase word cs = true) : StaysInLine word.length cs := by
  simp only [startsWithIgnoringCase, beq_iff_eq] at hstarts
  have hfront : ∀ c ∈ cs.take word.length, IsInLine c := by
    intro c hc
    have hlower := hword _ (hstarts ▸ List.mem_map_of_mem (f := Char.toLower) hc)
    constructor <;>
      · rintro rfl
        revert hlower
        decide
  have hlength := congrArg List.length hstarts
  rw [List.length_map, List.length_map, String.length_toList] at hlength
  have hstays := @StaysInLine.of_forall _ (cs.drop word.length) hfront
  rwa [hlength, List.take_append_drop] at hstays

theorem throughLineEnd_of_quoteTag? {cs : List Char} {n : Nat}
    (htag : quoteTag? cs = some n) :
    throughLineEnd cs = n := by
  unfold quoteTag? at htag
  split at htag
  · next rest heq =>
    obtain ⟨hopen, rfl⟩ := Prod.mk.inj heq
    simp only [Option.bind_eq_bind, Option.bind_eq_some_iff] at htag
    obtain ⟨name, hname, htag⟩ := htag
    split at htag
    · next rest hclose =>
      obtain ⟨blank, hblank, heq⟩ := Option.bind_eq_some_iff.1 htag
      obtain rfl := Option.some.inj heq
      have hmark : cs.take 2 = ['[', '!'] := by
        simpa using congrArg String.toList hopen
      have hmarked : StaysInLine 2 cs := by
        rw [← List.take_append_drop 2 cs, hmark]
        exact .cons (by decide) (.cons (by decide) (.zero _))
      have hnames : ∀ name ∈ ["note", "tip", "important", "warning", "caution"],
          ((name.toList.map Char.toLower).all fun c => decide (IsInLine c)) = true := by
            decide
      have hinner : ∀ c ∈ name.toList.map Char.toLower, IsInLine c := fun c hc =>
        of_decide_eq_true
          (List.all_eq_true.1 (hnames name (List.mem_of_find?_eq_some hname)) c hc)
      have hnamed :=
        staysInLine_of_startsWithIgnoringCase hinner (by simpa using List.find?_some hname)
      rw [hmarked.throughLineEnd, hnamed.throughLineEnd, hclose,
        throughLineEnd_cons (by decide), throughLineEnd_of_blankLine? hblank]
      omega
    · contradiction
  · contradiction

/-! ## Leaves -/

def IsFenced (text : List Char) (span : Span) : Prop :=
  StartsFence (text.drop span.start)

/-- A leaf that is read otherwise than by looking for fences in every line: a code fence
inside of a container, or raw markup that has taken a line in which a fence is opened. -/
inductive Misread (text : List Char) (S : Place → Prop) : Nat × Node → Prop where
  | enclosed {depth : Nat} {span : Span} {content : List Char} (hdepth : 0 < depth)
      (hfenced : IsFenced text span) : Misread text S (depth, .code span content)
  | html {depth : Nat} {span : Span} {line : Place} (hline : S line)
      (hfence : Ahead StartsFence line.rest) (hstart : span.start ≤ line.offset)
      (hstop : line.offset < span.stop) : Misread text S (depth, .html span)

theorem Misread.mono {text : List Char} {S T : Place → Prop} {leaf : Nat × Node}
    (hmisread : Misread text S leaf) (hST : ∀ place, S place → T place) :
    Misread text T leaf := by
  cases hmisread with
  | enclosed hdepth hfenced => exact .enclosed hdepth hfenced
  | html hline hfence hstart hstop => exact .html (hST _ hline) hfence hstart hstop

/-- Code ends in front of a line that satisfies `E`. -/
def EndsEarly (E : Place → Prop) : Node → Prop
  | .code span _ => span.stop = span.start ∨ ∃ line, E line ∧ span.stop = line.offset
  | _ => True

/-- Reading has gone on to the start of a line.  Or else a leaf has been misread, and fewer
than `size` characters are left. -/
def Proceeds (text : List Char) (S E : Place → Prop) (size : Nat) (outline : Outline)
    (progress : Progress) : Prop :=
  ∃ new, progress.1.leaves = outline.leaves ++ new ∧
    ((∃ leaf ∈ new, Misread text S leaf) ∧ progress.2.rest.length < size ∨
      S progress.2 ∧ ∀ leaf ∈ new, EndsEarly E leaf.2)

section Leaf

variable {text : List Char} {S E : Place → Prop} {size : Nat} {outline : Outline}
    {place : Place}

theorem Proceeds.mono {larger : Nat} {progress : Progress}
    (hproceeds : Proceeds text S E size outline progress) (hsize : size ≤ larger) :
    Proceeds text S E larger outline progress := by
  obtain ⟨new, hnew, hmisread | hnext⟩ := hproceeds
  · exact ⟨new, hnew, .inl ⟨hmisread.1, Nat.lt_of_lt_of_le hmisread.2 hsize⟩⟩
  · exact ⟨new, hnew, .inr hnext⟩

theorem Proceeds.add {node : Node} {stop : Place}
    (hnode : ∀ depth, node.leaves depth = [(depth, node)])
    (hstop : S stop) (hearly : EndsEarly E node) :
    Proceeds text S E size outline (outline.add node, stop) := by
  refine ⟨_, outline.leaves_add node, .inr ⟨hstop, ?_⟩⟩
  simpa [hnode] using hearly

theorem proceeds_readIndented {pending : Nat} (hE : GoesOn BeginsBlock E)
    (hES : ∀ line, E line → S line)
    (hleads : place.LeadsTo E) :
    Proceeds text S E size outline (readIndented outline place pending) := by
  obtain ⟨hnext, hlast⟩ := @codeExtent_indentedLines _ outline.containers hE
    (place.rest.length + 1) pending place.offset false [] place hleads (Nat.lt_succ_self _)
  exact .add (fun _ => rfl) (hES _ hnext) hlast

theorem proceeds_readHtml {ending : Option String} (hS : GoesOn StartsFence S)
    (hleads : place.LeadsTo S) (hrest : place.rest ≠ []) :
    Proceeds text S E place.rest.length outline (readHtml outline place ending) := by
  rcases @place_htmlEnd _ outline.containers hS (ending.map String.toList)
    (place.rest.length + 1)
    place hleads (Nat.lt_succ_self _) with hnext | ⟨line, hline, hfence, hstart, hstop⟩
  · exact .add (fun _ => rfl) hnext trivial
  · refine ⟨_, outline.leaves_add _, .inl ⟨⟨_, List.mem_singleton.2 rfl, ?_⟩, ?_⟩⟩
    · exact .html hline hfence hstart hstop
    · exact (lt_htmlEnd hrest (Nat.succ_pos _)).2

theorem place_readParagraph (hS : GoesOn StartsFence S) (hleads : place.LeadsTo S)
    (hrest : place.rest ≠ []) : S (readParagraph outline place).2 := by
  unfold readParagraph
  split
  · next columns length hhead =>
    exact @place_tableRows _ outline.containers hS columns (place.rest.length + 1) _
      (place_of_tableHead? hS hleads hhead)
  · have hend :=
      @place_paragraphEnd _ outline.containers hS _ _ hleads hrest (Nat.lt_succ_self _)
    split
    · next stop hstop => rwa [hstop] at hend
    · next stop hstop => rwa [hstop] at hend

theorem proceeds_readParagraph (hS : GoesOn StartsFence S) (hleads : place.LeadsTo S)
    (hrest : place.rest ≠ []) :
    Proceeds text S E size outline (readParagraph outline place) := by
  have hnext := @place_readParagraph S outline place hS hleads hrest
  revert hnext
  unfold readParagraph
  split
  · exact fun hnext => .add (fun _ => rfl) hnext trivial
  · split <;> exact fun hnext => .add (fun _ => rfl) hnext trivial

theorem misread_readFence {indent opened : Nat} {mark : Char} (hin : place.In text)
    (hfence : StartsFence place.rest) (hopened : outline.opened ≠ []) :
    ∃ leaf, (readFence outline place indent mark opened).1.leaves =
      outline.leaves ++ [leaf] ∧
      Misread text S leaf := by
  refine ⟨_, outline.leaves_add _, .enclosed (List.length_pos_iff.2 hopened) ?_⟩
  rwa [← hin] at hfence

theorem proceeds_readLeaf {indent : Nat} (hS : GoesOn StartsFence S)
    (hleads : place.LeadsTo S)
    (hrest : place.rest ≠ []) (hin : place.In text)
    (hfence : StartsFence place.rest → outline.opened ≠ []) :
    Proceeds text S E place.rest.length outline (readLeaf outline place indent) := by
  unfold readLeaf
  simp only
  split
  · exact proceeds_readHtml hS hleads hrest
  split
  · next n hbreak =>
    exact .add (fun _ => rfl)
      (hleads.next (throughLineEnd_of_thematicBreak? hbreak)) trivial
  split
  · exact .add (fun _ => rfl) hleads.2 trivial
  split
  · next mark opened hopen =>
    have hstarts : StartsFence place.rest := Option.isSome_of_eq_some hopen
    obtain ⟨leaf, hleaves, hmisread⟩ :=
      @misread_readFence _ S _ _ indent opened mark hin hstarts (hfence hstarts)
    exact ⟨[leaf], hleaves,
      .inl ⟨⟨leaf, List.mem_singleton_self leaf, hmisread⟩, length_readFence_lt hopen⟩⟩
  split
  · next stop hstop =>
    have hplace := place_afterBlankLine hS (place_of_afterReference? hS hleads hstop)
    exact ⟨[], (List.append_nil _).symm, .inr ⟨hplace, by simp⟩⟩
  · exact proceeds_readParagraph hS hleads hrest

end Leaf

/-- Containers have begun on a line: the leaves are the same, and reading goes on in the
line or in one after it.  Unless nothing has begun, the innermost container is not a
list. -/
inductive Opens (text : List Char) (S E : Place → Prop) (outline : Outline)
    (line : LineStart) :
    Opening → Prop where
  | content {after : Outline} {start : Nat} {later : LineStart}
      (hleaves : after.leaves = outline.leaves) (hleads : later.place.LeadsTo S)
      (hin : later.place.In text)
      (hlength : later.place.rest.length ≤ line.place.rest.length)
      (hcode : (later.indent 4).1 = 0 → later.place.LeadsTo E)
      (hentered : after = outline ∧ later = line ∨
        ∀ stop, (after.endList stop).opened ≠ []) :
      Opens text S E outline line (.content after start later)
  | lineDone {after : Outline} {next : Place} (hleaves : after.leaves = outline.leaves)
      (hnext : S next) : Opens text S E outline line (.lineDone after next)

section Opening

variable {text : List Char} {S E : Place → Prop} {outline : Outline} {line : LineStart}

theorem Opens.of_entered {entered : Outline} {inside : LineStart} {opening : Opening}
    (hopens : Opens text S E entered inside opening)
    (hleaves : entered.leaves = outline.leaves)
    (hinside : inside.place.rest.length ≤ line.place.rest.length)
    (hentered : ∀ stop, (entered.endList stop).opened ≠ []) :
    Opens text S E outline line opening := by
  cases hopens with
  | content hafter hleads hin hlength hcode hlater =>
      refine .content (hafter.trans hleaves) hleads hin (hlength.trans hinside)
        hcode (.inr ?_)
      rcases hlater with ⟨rfl, -⟩ | hlater
      · exact hentered
      · exact hlater
  | lineDone hafter hnext => exact .lineDone (hafter.trans hleaves) hnext

/-- A line that no item begins on, behind a narrow margin. -/
def PlainAhead (line : LineStart) : Prop :=
  ∃ width block, line.Margin width block ∧ bullet? block.rest = none

theorem leadsTo_of_indent (hcode : line.place.LeadsTo E ∨ PlainAhead line)
    (hindent : (line.indent 4).1 = 0) : line.place.LeadsTo E := by
  rcases hcode with hleads | ⟨width, block, hmargin, -⟩
  · exact hleads
  · exact absurd hindent hmargin.indent_four.2.1

theorem leadsTo_of_mark (hcode : line.place.LeadsTo E ∨ PlainAhead line) (indent : Nat)
    (hmark : itemMark? indent (line.indent 4).2 ≠ none ∨
      (line.indent 4).2.place.rest.head? = some '>') : line.place.LeadsTo E := by
  rcases hcode with hleads | ⟨width, block, hmargin, hbullet⟩
  · exact hleads
  · have hblock := hmargin.indent_four.2.2.place_eq
    rw [hblock] at hmark
    rcases hmark with hitem | hquote
    · exact absurd (itemMark?_eq_none (hblock ▸ hbullet)) hitem
    · exact absurd hquote hmargin.begins.unquoted

/-- The first line of a quotation goes on in the line after its tag, as if that were
lazy. -/
theorem opens_afterTag (hS : GoesOn StartsFence S) (hSin : ∀ line, S line → line.In text)
    {quoted : Outline} {next : Place} (hnext : S next)
    (hleaves : quoted.leaves = outline.leaves)
    (hentered : ∀ stop, (quoted.endList stop).opened ≠ [])
    (hlength : next.rest.length ≤ line.place.rest.length) :
    Opens text S E outline line
      (let (all, _, inside) := enterAll quoted.containers (.atPlace next)
       let (missing, lazy) := inside.indent 4
       if missing != 0 && interruptsParagraph quoted.containers all lazy.place.rest then
         .lineDone quoted next
       else .content quoted next.offset lazy.skipIndent) := by
  have hlazy := hS.leadsTo_text hnext quoted.containers
  have hwithin := within_text quoted.containers next
  simp only
  generalize enterAll quoted.containers (.atPlace next) = entered at *
  generalize entered.2.2.indent 4 = lazy at *
  obtain ⟨missing, lazy⟩ := lazy
  split
  · exact .lineDone hleaves hnext
  · next hgoes =>
    have hlazy := hlazy fun hmissing =>
      not_startsFence_of_interruptsParagraph (by simpa [hmissing] using hgoes)
    have hskipped := hwithin.trans (LineStart.within_skipIndent lazy)
    refine .content hleaves (hlazy.within (LineStart.within_skipIndent _)) ?_ ?_ ?_
      (.inr hentered)
    · exact (hSin _ hnext).within hskipped
    · exact hskipped.length_le.trans hlength
    · exact fun hzero => absurd hzero (by rw [LineStart.indent_skipIndent]; decide)

theorem opens_openContainers (hS : GoesOn StartsFence S)
    (hSin : ∀ line, S line → line.In text)
    {fuel start : Nat} (hleads : line.place.LeadsTo S) (hin : line.place.In text)
    (hcode : line.place.LeadsTo E ∨ PlainAhead line) :
    Opens text S E outline line (openContainers fuel outline start line) := by
  induction fuel generalizing outline line start with
  | zero =>
      exact .content rfl hleads hin le_rfl (leadsTo_of_indent hcode) (.inl ⟨rfl, rfl⟩)
  | succ fuel ih =>
      have hstays : Opens text S E outline line (.content outline start line) :=
        .content rfl hleads hin le_rfl (leadsTo_of_indent hcode) (.inl ⟨rfl, rfl⟩)
      have hmarked := line.within_indent 4
      have hmark := @leadsTo_of_mark E line hcode
      rw [openContainers]
      generalize line.indent 4 = indented at hmarked hmark ⊢
      simp only
      split
      · exact hstays
      split
      · next mark width inside hitem =>
        have hinside := hmarked.trans (within_of_itemMark? hitem)
        have hcode := (hmark _ (.inl (by rw [hitem]; simp))).within hinside
        split
        · next n hblank =>
          have hnext := (hleads.within hinside).next (throughLineEnd_of_blankLine? hblank)
          exact .lineDone (by simp) hnext
        · refine (ih (hleads.within hinside) (hin.within hinside)
            (.inl hcode)).of_entered ?_
            hinside.length_le ?_
          · simp
          · exact fun stop => List.cons_ne_nil _ _
      · split
        · next rest hquote =>
          have hcode := hmark 0 (.inr (by rw [hquote]; rfl))
          have hpast : indented.2.place.Within (indented.2.advance 1).place :=
            .of_cons hquote (by decide)
          have hinside := hmarked.trans
            (hpast.trans (LineStart.within_indent (indented.2.advance 1) 1))
          generalize ((indented.2.advance 1).indent 1).2 = inside at hinside ⊢
          generalize hquoted :
            (outline.endList start).enter .quote indented.2.place.offset = quoted
          have hleaves : quoted.leaves = outline.leaves := by simp [← hquoted]
          have hentered : ∀ stop, (quoted.endList stop).opened ≠ [] := by
            rw [← hquoted]
            exact fun stop => List.cons_ne_nil _ _
          split
          · exact (ih (hleads.within hinside) (hin.within hinside)
              (.inl (hcode.within hinside))).of_entered hleaves hinside.length_le hentered
          · next n htag =>
            have hnext := (hleads.within hinside).next (throughLineEnd_of_quoteTag? htag)
            exact opens_afterTag hS hSin hnext hleaves hentered
              ((length_advance_le _ _).trans hinside.length_le)
        · exact hstays

end Opening

/-! ## One block -/

section Block

variable {text : List Char} {S E : Place → Prop} {outline : Outline} {place : Place}

/-- A line that enters no container is read from where it starts. -/
theorem enterAll_of_opened_eq_nil {stop start : Nat}
    (hopened :
      ((outline.closeTo (enterAll outline.containers (.atPlace place)).2.1 stop).endList
      start).opened = []) :
    (enterAll outline.containers (.atPlace place)).2.2 = .atPlace place := by
  apply enterAll_of_lists
  rw [← outline.containers_closeTo stop
    (enterAll_depth_le outline.containers (.atPlace place))]
  exact Outline.containers_of_endList hopened

/-- Reads what follows the containers that begin on a line. -/
def readContent (outline : Outline) (start : Nat) (line : LineStart) : Progress :=
  match blankLine? line.place.rest with
  | some n => (readBlank outline start, line.place.advance n)
  | none =>
    let outline := { outline.endList start with bareItem := false }
    let (missing, text) := line.indent 4
    if missing = 0 then readIndented outline text.place text.pending
    else readLeaf outline text.place (4 - missing)

theorem readBlock_eq (outline : Outline) (place : Place) :
    readBlock outline place =
      let (_, depth, line) := enterAll outline.containers (.atPlace place)
      match openContainers (place.rest.length + 1)
        (outline.closeTo depth place.offset) place.offset
        line with
      | .lineDone outline next => (outline, next)
      | .content outline start line => readContent outline start line := rfl

@[simp] theorem leaves_readBlank (outline : Outline) (start : Nat) :
    (readBlank outline start).leaves = outline.leaves := by
  unfold readBlank
  split
  · split <;> simp
  · rfl

theorem Proceeds.of_leaves {size : Nat} {other : Outline} {progress : Progress}
    (hproceeds : Proceeds text S E size other progress)
    (hleaves : other.leaves = outline.leaves) :
    Proceeds text S E size outline progress := by
  obtain ⟨new, hnew, hcases⟩ := hproceeds
  exact ⟨new, hleaves ▸ hnew, hcases⟩

theorem proceeds_readContent {start : Nat} {line : LineStart} (hS : GoesOn StartsFence S)
    (hE : GoesOn BeginsBlock E) (hES : ∀ line, E line → S line)
    (hleads : line.place.LeadsTo S)
    (hin : line.place.In text) (hcode : (line.indent 4).1 = 0 → line.place.LeadsTo E)
    (hfence : (line.indent 4).1 ≠ 0 → StartsFence (line.indent 4).2.place.rest →
      (outline.endList start).opened ≠ []) :
    Proceeds text S E line.place.rest.length outline (readContent outline start line) := by
  have hwithin := line.within_indent 4
  unfold readContent
  split
  · next n hblank =>
    have hnext := hleads.next (throughLineEnd_of_blankLine? hblank)
    exact ⟨[], by simp, .inr ⟨hnext, by simp⟩⟩
  · next hblank =>
    have hrest := line.rest_indent_ne_nil hblank 4
    generalize line.indent 4 = indented at *
    have hleaves : { outline.endList start with bareItem := false }.leaves =
        outline.leaves := by
      simp
    simp only
    split
    · next hzero =>
      exact (proceeds_readIndented hE hES ((hcode hzero).within hwithin)).of_leaves hleaves
    · next hmissing =>
      have hfence : StartsFence indented.2.place.rest →
          { outline.endList start with bareItem := false }.opened ≠ [] := hfence hmissing
      exact ((proceeds_readLeaf hS (hleads.within hwithin) hrest (hin.within hwithin)
        hfence).mono hwithin.length_le).of_leaves hleaves

theorem proceeds_readBlock (hS : GoesOn StartsFence S) (hE : GoesOn BeginsBlock E)
    (hES : ∀ line, E line → S line) (hSin : ∀ line, S line → line.In text)
    (hleads : place.LeadsTo S) (hin : place.In text)
    (hcode : place.LeadsTo E ∨ PlainAhead (.atPlace place))
    (hfence : ¬ Ahead StartsFence place.rest) :
    Proceeds text S E place.rest.length outline (readBlock outline place) := by
  have hwithin := within_enterAll outline.containers (.atPlace place)
  have hcode : (enterAll outline.containers (.atPlace place)).2.2.place.LeadsTo E ∨
      PlainAhead (enterAll outline.containers (.atPlace place)).2.2 := by
    rcases hcode with hcode | ⟨width, block, hmargin, hbullet⟩
    · exact .inl (hcode.within hwithin)
    · obtain ⟨w, -, hmargin⟩ := margin_enterAll outline.containers hmargin
      exact .inr ⟨w, block, hmargin, hbullet⟩
  have htop := @enterAll_of_opened_eq_nil outline place place.offset
  rw [readBlock_eq]
  generalize enterAll outline.containers (.atPlace place) = entered at *
  have hleaves : (outline.closeTo entered.2.1 place.offset).leaves = outline.leaves := by
    simp
  simp only
  generalize outline.closeTo entered.2.1 place.offset = closed at *
  have hopens :=
    @opens_openContainers text S E closed entered.2.2 hS hSin (place.rest.length + 1)
      place.offset (hleads.within hwithin) (hin.within hwithin) hcode
  split
  · next after next hopening =>
    rw [hopening] at hopens
    cases hopens with
    | lineDone hafter hnext => exact ⟨[], by simp [hafter, hleaves], .inr ⟨hnext, by simp⟩⟩
  · next after start line hopening =>
    rw [hopening] at hopens
    cases hopens with
    | content hafter hleads hin hlength hcode hentered =>
        refine ((proceeds_readContent hS hE hES hleads hin hcode ?_).mono
          (hlength.trans hwithin.length_le)).of_leaves (hafter.trans hleaves)
        intro hmissing hstarts hopened
        -- The fence would stand where the line starts, behind a narrow margin.
        rcases hentered with ⟨rfl, rfl⟩ | hentered
        · rw [htop hopened] at hmissing hstarts
          obtain ⟨hrest, -, -⟩ := LineStart.indent_atPlace_missing rfl hmissing
          exact hfence ⟨_, _, hrest,
            Nat.sub_lt (by decide) (Nat.pos_of_ne_zero hmissing), hstarts⟩
        · exact hentered start hopened

theorem StartsFence.bullet?_eq_none {cs : List Char} (hfence : StartsFence cs) :
    bullet? cs = none := by
  obtain ⟨c, rest, rfl, rfl | rfl⟩ := hfence.exists_cons <;>
    simp [bullet?, isAsciiDigit]

theorem openContainers_of_plainAhead {line : LineStart} (hplain : PlainAhead line)
    (fuel : Nat) (outline : Outline) (start : Nat) :
    openContainers fuel outline start line = .content outline start line := by
  obtain ⟨width, block, hmargin, hbullet⟩ := hplain
  cases fuel with
  | zero => rfl
  | succ fuel =>
      obtain ⟨-, hmissing, hblock⟩ := hmargin.indent_four
      have hitem : itemMark? (4 - (line.indent 4).1) (line.indent 4).2 = none :=
        itemMark?_eq_none (hblock.place_eq ▸ hbullet)
      rw [openContainers]
      simp only [if_neg hmissing, hitem]
      split
      · next rest hquote =>
        rw [hblock.place_eq] at hquote
        exact absurd (by rw [hquote]; rfl) hmargin.begins.unquoted
      · rfl

theorem readLeaf_of_startsFence {mark : Char} {opened indent : Nat}
    (hfence : codeFence? place.rest = some (mark, opened)) :
    readLeaf outline place indent = readFence outline place indent mark opened := by
  have hstarts : StartsFence place.rest := Option.isSome_of_eq_some hfence
  obtain ⟨c, rest, hrest, rfl | rfl⟩ := hstarts.exists_cons <;>
    · rw [hrest] at hfence
      simp [readLeaf, hrest, thematicBreak?, headingLevel?, countRun, countWhile, hfence]

/-- Where a fence is opened behind a narrow margin, fenced code is read: inside of a
container, or else from that margin on. -/
theorem readBlock_of_ahead (hin : place.In text) (hahead : Ahead StartsFence place.rest) :
    (readBlock outline place).2.rest.length < place.rest.length ∧
    ((∃ leaf, (readBlock outline place).1.leaves = outline.leaves ++ [leaf] ∧
      Misread text S leaf) ∨
      ∃ top width mark opened, top.opened = [] ∧ top.leaves = outline.leaves ∧ width < 4 ∧
        place.rest = List.replicate width ' ' ++ (place.advance width).rest ∧
        codeFence? (place.advance width).rest = some (mark, opened) ∧
        readBlock outline place =
          readFence top (place.advance width) width mark opened) := by
  obtain ⟨width, fence, hmargin, rfl, hstarts⟩ :=
    margin_of_ahead (fun _ => StartsFence.beginsBlock) hahead
  obtain ⟨⟨mark, opened⟩, hfence⟩ := Option.isSome_iff_exists.1 hstarts
  obtain ⟨w, -, hentered⟩ := margin_enterAll outline.containers hmargin
  have htop := @enterAll_of_opened_eq_nil outline place place.offset place.offset
  rw [readBlock_eq]
  generalize enterAll outline.containers (.atPlace place) = entered at *
  have hleaves : (outline.closeTo entered.2.1 place.offset).leaves = outline.leaves := by
    simp
  simp only
  generalize outline.closeTo entered.2.1 place.offset = closed at *
  rw [openContainers_of_plainAhead ⟨w, _, hentered, hstarts.bullet?_eq_none⟩]
  obtain ⟨hwidth, hmissing, hblock⟩ := hentered.indent_four
  have hread : readContent closed place.offset entered.2.2 =
      readFence { closed.endList place.offset with bareItem := false }
        (place.advance width) w mark
        opened := by
    have hw := hentered.narrow
    simp only [readContent, hentered.blankLine?_eq_none, if_neg hmissing, hblock.place_eq]
    rw [readLeaf_of_startsFence hfence, hwidth, Nat.sub_sub_self (Nat.le_of_lt hw)]
  simp only [hread]
  refine ⟨Nat.lt_of_lt_of_le (length_readFence_lt hfence) (length_advance_le _ _), ?_⟩
  by_cases hopened : (closed.endList place.offset).opened = []
  · right
    have hw : w = width := by
      rw [htop hopened] at hentered
      have hoffset := hentered.offset.symm.trans hmargin.offset
      exact Nat.add_left_cancel hoffset
    exact ⟨{ closed.endList place.offset with bareItem := false }, width, mark,
      opened, hopened,
      by simp [hleaves], hmargin.narrow, hmargin.spaces, hfence, by rw [hw]⟩
  · left
    have hsound : (place.advance width).In text := by
      rw [Place.In, Place.advance_offset, ← List.drop_drop, hin, Place.advance_rest]
    obtain ⟨leaf, hnew, hmisread⟩ := @misread_readFence text S
      { closed.endList place.offset with bareItem := false } _ w opened mark hsound
        hstarts hopened
    exact ⟨leaf, by simpa [hleaves] using hnew, hmisread⟩

end Block

def Opening.outline : Opening → Outline
  | content outline _ _ | lineDone outline _ => outline

section Blocks

variable {outline : Outline} {place : Place}

theorem prefix_add (outline : Outline) (node : Node) :
    outline.leaves <+: (outline.add node).leaves :=
  ⟨_, (outline.leaves_add node).symm⟩

theorem leaves_openContainers (fuel : Nat) (outline : Outline) (start : Nat)
    (line : LineStart) :
    (openContainers fuel outline start line).outline.leaves = outline.leaves := by
  induction fuel generalizing outline line with
  | zero => rfl
  | succ fuel ih =>
      rw [openContainers]
      simp only
      split
      · rfl
      split
      · split
        · simp [Opening.outline]
        · rw [ih]
          simp
      · split
        · split
          · rw [ih]
            simp
          · split <;> simp [Opening.outline]
        · rfl

/-- A leaf block adds one block to the innermost container, or none. -/
theorem readLeaf_cases (outline : Outline) (place : Place) (indent : Nat) :
    (readLeaf outline place indent).1 = outline ∨
      ∃ node, (readLeaf outline place indent).1 = outline.add node := by
  unfold readLeaf
  simp only
  split
  · exact .inr ⟨_, rfl⟩
  split
  · exact .inr ⟨_, rfl⟩
  split
  · exact .inr ⟨_, rfl⟩
  split
  · exact .inr ⟨_, rfl⟩
  split
  · exact .inl rfl
  · unfold readParagraph
    split
    · exact .inr ⟨_, rfl⟩
    · split <;> exact .inr ⟨_, rfl⟩

theorem prefix_readLeaf (outline : Outline) (place : Place) (indent : Nat) :
    outline.leaves <+: (readLeaf outline place indent).1.leaves := by
  rcases readLeaf_cases outline place indent with hsame | ⟨node, hadd⟩
  · simp [hsame]
  · rw [hadd]
    exact prefix_add outline node

theorem prefix_readContent (outline : Outline) (start : Nat) (line : LineStart) :
    outline.leaves <+: (readContent outline start line).1.leaves := by
  have hleaves : { outline.endList start with bareItem := false }.leaves =
    outline.leaves := by simp
  unfold readContent
  split
  · simp
  · rw [← hleaves]
    simp only
    split
    · exact prefix_add _ _
    · exact prefix_readLeaf _ _ _

theorem prefix_readBlock (outline : Outline) (place : Place) :
    outline.leaves <+: (readBlock outline place).1.leaves := by
  rw [readBlock_eq]
  simp only
  have hopening := leaves_openContainers (place.rest.length + 1)
    (outline.closeTo (enterAll outline.containers (.atPlace place)).2.1 place.offset)
      place.offset
    (enterAll outline.containers (.atPlace place)).2.2
  rw [Outline.leaves_closeTo] at hopening
  split
  · next after next heq =>
    rw [heq] at hopening
    exact hopening ▸ List.prefix_rfl
  · next after start line heq =>
    rw [heq] at hopening
    exact hopening ▸ prefix_readContent after start line

theorem leaves_readBlocks_of_nil (hrest : place.rest = []) :
    leavesAll 0 (readBlocks outline place) = outline.leaves := by
  rw [readBlocks, if_pos (by simp [hrest]), Outline.finished_closeTo]

theorem readBlocks_of_lt
    (hlength : (readBlock outline place).2.rest.length < place.rest.length) :
    readBlocks outline place =
      readBlocks (readBlock outline place).1 (readBlock outline place).2 := by
  have hrest : ¬ place.rest.isEmpty = true := by
    rw [List.isEmpty_iff]
    intro hnil
    simp [hnil] at hlength
  rw [readBlocks, if_neg hrest]
  simp only [dif_pos hlength]

/-- Leaves that have been read are leaves of the text. -/
theorem prefix_readBlocks (outline : Outline) (place : Place) :
    outline.leaves <+: leavesAll 0 (readBlocks outline place) := by
  induction hsize : place.rest.length using Nat.strong_induction_on
    generalizing outline place with
  | _ size ih =>
    subst hsize
    by_cases hlength : (readBlock outline place).2.rest.length < place.rest.length
    · rw [readBlocks_of_lt hlength]
      exact (prefix_readBlock outline place).trans (ih _ hlength _ _ rfl)
    · have hread : leavesAll 0 (readBlocks outline place) = outline.leaves := by
        rw [readBlocks]
        split
        · exact outline.finished_closeTo _
        · simp only [dif_neg hlength]
          exact outline.finished_closeTo _
      exact hread ▸ List.prefix_rfl

end Blocks

end DocContract.Markdown
