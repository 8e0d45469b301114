import DocContract.Proofs.LineMargins
import Mathlib.Data.Option.Basic

/-!
# How far leaf blocks reach

Paragraphs, tables, definitions and indented code end at the start of a line, and they
never take a line in which a code fence is opened.  Raw markup may take such a line.
-/

namespace DocContract.Markdown

variable {S : Place → Prop} {containers : List Container}

def ParagraphEnd.place : ParagraphEnd → Place
  | plain place | heading place => place

theorem length_advance_throughLineEnd {place : Place} (hrest : place.rest ≠ []) :
    (place.advance (throughLineEnd place.rest)).rest.length < place.rest.length := by
  have hpos := throughLineEnd_pos hrest
  have hlength := List.length_pos_iff.2 hrest
  simp only [Place.advance_rest, List.length_drop]
  omega

theorem LineStart.rest_ne_nil {line : LineStart} (hend : line.atEnd = false) :
    line.place.rest ≠ [] := by
  rintro hrest
  simp [atEnd, hrest] at hend

theorem not_startsFence_of_interruptsParagraph {current : Bool} {cs : List Char}
    (hnone : interruptsParagraph containers current cs = false) : ¬ StartsFence cs := by
  intro hfence
  simp [interruptsParagraph, hfence.interrupts] at hnone

theorem place_paragraphEnd (hS : GoesOn StartsFence S) {fuel : Nat} {place : Place}
    (hleads : place.LeadsTo S) (hrest : place.rest ≠ [])
    (hfuel : place.rest.length < fuel) :
    S (paragraphEnd containers fuel place).place := by
  induction fuel generalizing place with
  | zero => omega
  | succ fuel ih =>
      have hnext := hleads.2
      have hshorter := length_advance_throughLineEnd hrest
      rw [paragraphEnd]
      generalize place.advance (throughLineEnd place.rest) = next at hnext hshorter
      have htext := hS.leadsTo_text hnext containers
      have hwithin := within_text containers next
      simp only at htext ⊢
      generalize enterAll containers (.atPlace next) = entered at *
      generalize entered.2.2.indent 4 = indented at *
      obtain ⟨missing, text⟩ := indented
      split
      · next n hunderline =>
        split at hunderline
        · contradiction
        · have hleads := htext fun _ hfence => by
            simp [hfence.headingUnderline?_eq_none] at hunderline
          exact hleads.next (throughLineEnd_of_headingUnderline? hunderline)
      · split
        · exact hnext
        · next hgoes =>
          split
          · exact hnext
          · next hend =>
            have hleads := htext fun hmissing =>
              not_startsFence_of_interruptsParagraph (by simpa [hmissing] using hgoes)
            have hskip := hwithin.trans text.within_skipIndent
            refine ih (hleads.within text.within_skipIndent)
              (LineStart.rest_ne_nil (Bool.not_eq_true _ ▸ hend)) ?_
            exact Nat.lt_of_le_of_lt hskip.length_le (by omega)

theorem isInLine_of_isAsciiPunctuation {c : Char} (hc : isAsciiPunctuation c = true) :
    IsInLine c := by
  constructor <;>
    · rintro rfl
      contradiction

theorem staysInLine_cellLength (cs : List Char) : StaysInLine (cellLength cs) cs := by
  fun_induction cellLength cs with
  | case1 => exact .zero _
  | case2 rest ih => exact .cons (by decide) (.cons (by decide) (.cons (by decide) ih))
  | case3 d rest hbar hd ih =>
      exact .cons (by decide) (.cons (isInLine_of_isAsciiPunctuation hd) ih)
  | case4 d rest hbar hd ih => exact .cons (by decide) ih
  | case5 => exact .zero _
  | case6 c rest hescaped hbars hend ih =>
      simp only [Bool.or_eq_true, beq_iff_eq, not_or] at hend
      exact .cons ⟨hend.1.2, hend.2⟩ ih

theorem cellLength_pos {c : Char} (rest : List Char) (hc : IsInLine c) (hbar : c ≠ '|') :
    0 < cellLength (c :: rest) := by
  unfold cellLength
  split
  · contradiction
  · exact Nat.succ_pos _
  · split <;> exact Nat.succ_pos _
  · next heq =>
    obtain ⟨rfl, rfl⟩ := List.cons.inj heq
    simp [hbar, hc.1, hc.2]

/-- The place behind the bar that a cell may begin with. -/
def Place.afterBar (place : Place) : Place :=
  match place.rest with
  | '|' :: _ => place.advance 1
  | _ => place

theorem Place.afterBar_cases (place : Place) :
    place.Within place.afterBar ∧
      (place.afterBar = place ∧ place.rest.head? ≠ some '|' ∨
        place.afterBar.rest.length < place.rest.length) := by
  unfold afterBar
  split
  · next rest hrest => exact ⟨.of_cons hrest (by decide), .inr (by simp [hrest])⟩
  · next hrest =>
    refine ⟨.refl _, .inl ⟨rfl, fun hhead => ?_⟩⟩
    obtain ⟨rest, heq⟩ := List.head?_eq_some_iff.1 hhead
    exact hrest rest heq

theorem rowCells_succ (fuel : Nat) (place : Place) :
    rowCells (fuel + 1) place =
      let text := place.afterBar.advance (countWhile isInlineSpace place.afterBar.rest)
      match lineEnd? text.rest with
      | some n => ([], text.advance n)
      | none =>
        let stop := text.advance (cellLength text.rest)
        let (cells, after) := rowCells fuel stop
        ({ start := place.afterBar.offset, stop := stop.offset } :: cells, after) := rfl

/-- A cell takes a character at least: its bar, the blanks in front of its text, or its
text. -/
theorem length_afterCell {place text : Place}
    (htext : place.afterBar.advance (countWhile isInlineSpace place.afterBar.rest) = text)
    (hend : lineEnd? text.rest = none) :
    (text.advance (cellLength text.rest)).rest.length < place.rest.length := by
  obtain ⟨hbar, hprogress⟩ := place.afterBar_cases
  have hblanks := (htext ▸ place.afterBar.within_advance_inlineSpace).length_le
  have hcell := (staysInLine_cellLength text.rest).within.length_le
  rcases hprogress with ⟨hbarless, hhead⟩ | hshorter
  · rw [hbarless] at htext hblanks
    cases hrest : text.rest with
    | nil =>
        rw [hrest] at hend
        contradiction
    | cons c rest =>
        rw [hrest] at hend hcell
        by_cases hc : c = '|'
        · have hpos : countWhile isInlineSpace place.rest ≠ 0 := by
            intro hzero
            rw [hzero, Place.advance_zero] at htext
            simp [htext, hrest, hc] at hhead
          have hlength := congrArg List.length (htext ▸ hrest)
          simp only [Place.advance_rest, List.length_drop, List.length_cons] at hlength
          simp only [Place.advance_rest, List.length_drop, hrest, List.length_cons]
            at hcell ⊢
          omega
        · have hpos := cellLength_pos rest ((lineEnd?_eq_none_iff c rest).1 hend) hc
          simp only [Place.advance_rest, List.length_drop, hrest, List.length_cons]
            at hblanks ⊢
          omega
  · exact Nat.lt_of_le_of_lt (hcell.trans hblanks) hshorter

theorem place_rowCells {fuel : Nat} {place : Place} (hleads : place.LeadsTo S)
    (hfuel : place.rest.length < fuel) : S (rowCells fuel place).2 := by
  induction fuel generalizing place with
  | zero => omega
  | succ fuel ih =>
      rw [rowCells_succ]
      generalize htext : place.afterBar.advance
        (countWhile isInlineSpace place.afterBar.rest) = text
      have hblanks := htext ▸ place.afterBar.within_advance_inlineSpace
      have hleads := hleads.within (place.afterBar_cases.1.trans hblanks)
      simp only
      split
      · next n hend => exact hleads.next (throughLineEnd_of_lineEnd? hend)
      · next hend =>
        have hcell := (staysInLine_cellLength text.rest).within
        exact ih (hleads.within hcell)
          (Nat.lt_of_lt_of_le (length_afterCell htext hend) (by omega))

theorem place_tableRows (hS : GoesOn StartsFence S) {columns fuel : Nat} {place : Place}
    (hplace : S place) : S (tableRows containers columns fuel place).2 := by
  induction fuel generalizing place with
  | zero => exact hplace
  | succ fuel ih =>
      rw [tableRows]
      have hline := hS.enterAll_cases (fun _ => StartsFence.beginsBlock) hplace containers
      generalize enterAll containers (.atPlace place) = entered at *
      simp only
      split
      · exact hplace
      · next hgoes =>
        have hleads : entered.2.2.skipIndent.place.LeadsTo S := by
          rcases hline with ⟨width, text, hmargin, hfence⟩ | hleads
          · simp [hmargin.skipIndent, hfence.interrupts] at hgoes
          · exact hleads.within entered.2.2.within_skipIndent
        split
        · exact hplace
        · next cells after hcells hrow =>
          have hafter := place_rowCells hleads (Nat.lt_succ_self _)
          rw [hrow] at hafter
          exact ih hafter

/-- The rows of a table are found with places counted from the start of its first line. -/
theorem GoesOn.shift {Stop : List Char → Prop} (hS : GoesOn Stop S) (n : Nat) :
    GoesOn Stop fun place => S ⟨n + place.offset, place.rest⟩ := by
  intro place hplace
  rcases hS _ hplace with hahead | hleads
  · exact .inl hahead
  · refine .inr ⟨hleads.1, ?_⟩
    have hnext := hleads.2
    rw [Place.advance, Nat.add_assoc] at hnext
    exact hnext

theorem place_of_tableHead? (hS : GoesOn StartsFence S) {place : Place}
    {columns length : Nat}
    (hleads : place.LeadsTo S)
    (hhead : tableHead? containers place.rest = some (columns, length)) :
    S (place.advance length) := by
  simp only [tableHead?, Option.bind_eq_bind, Option.bind_eq_some_iff] at hhead
  obtain ⟨n, hbars, -, -, -, -, ⟨found, width⟩, hrow, -, -, heq⟩ := hhead
  obtain ⟨rfl, rfl⟩ := Prod.mk.inj (Option.some.inj heq)
  have hnext : S (place.advance n) := hleads.next (throughLineEnd_of_bars hbars)
  have hline := @GoesOn.enterAll_cases _ _ ⟨n, place.rest.drop n⟩ (hS.shift place.offset)
    (fun _ => StartsFence.beginsBlock) hnext containers
  have hwithin := within_enterAll containers (.atPlace ⟨n, place.rest.drop n⟩)
  generalize (enterAll containers (.atPlace ⟨n, place.rest.drop n⟩)).2.2 = line at *
  rcases hline with ⟨margin, text, hmargin, hfence⟩ | hleads
  · rw [hmargin.spaces, hfence.delimiterRow?_eq_none] at hrow
    contradiction
  · have hnext := hleads.next (throughLineEnd_of_delimiterRow? hrow)
    obtain ⟨front, -, hplace, -⟩ := hwithin
    rw [hplace] at hnext ⊢
    simpa [LineStart.atPlace, Place.advance, Nat.add_assoc] using hnext

/-! ## Definitions -/

theorem leadsTo_of_labelContinuation? (hS : GoesOn StartsFence S) {place : Place}
    {text : LineStart} (hplace : S place)
    (htext : labelContinuation? containers place = some text) :
    text.place.LeadsTo S := by
  have hleads := hS.leadsTo_text hplace containers
  unfold labelContinuation? at htext
  generalize enterAll containers (.atPlace place) = entered at *
  simp only at hleads htext
  split at htext
  · next hzero =>
    obtain rfl := Option.some.inj htext
    exact hleads fun hmissing => absurd hzero hmissing
  · split at htext
    · contradiction
    · next hgoes =>
      obtain rfl := Option.some.inj htext
      simp only [Bool.or_eq_true, not_or, Bool.not_eq_true] at hgoes
      exact hleads fun _ => not_startsFence_of_interruptsParagraph hgoes.1

theorem labelContinuation?_of_continuation? {place : Place} {text : LineStart}
    (htext : continuation? containers place = some text) :
    labelContinuation? containers place = some text := by
  unfold continuation? at htext
  unfold labelContinuation?
  generalize enterAll containers (.atPlace place) = entered at *
  simp only at htext ⊢
  split at htext
  · next hzero => rwa [if_pos hzero]
  · next hmissing =>
    split at htext
    · contradiction
    · next hgoes =>
      simp only [Bool.or_eq_true, not_or, Bool.not_eq_true] at hgoes
      simpa [hmissing, hgoes.1, hgoes.2] using htext

theorem leadsTo_of_continuation? (hS : GoesOn StartsFence S) {place : Place}
    {text : LineStart}
    (hplace : S place) (htext : continuation? containers place = some text) :
    text.place.LeadsTo S :=
  leadsTo_of_labelContinuation? hS hplace (labelContinuation?_of_continuation? htext)

theorem isInLine_of_isAsciiSpace {c : Char} (hspace : ¬ isAsciiSpace c = true) :
    IsInLine c := by
  constructor <;>
    · rintro rfl
      exact hspace (by decide)

theorem Place.LeadsTo.past {place : Place} {c : Char} {rest : List Char}
    (hleads : place.LeadsTo S) (hrest : place.rest = c :: rest) (hc : IsInLine c) :
    (place.advance 1).LeadsTo S :=
  hleads.within (.of_cons hrest hc)

theorem Place.LeadsTo.past_two {place : Place} {c d : Char} {rest : List Char}
    (hleads : place.LeadsTo S) (hrest : place.rest = c :: d :: rest) (hc : IsInLine c)
    (hd : IsInLine d) : (place.advance 2).LeadsTo S := by
  have hlater : (place.advance 1).rest = d :: rest := by simp [hrest]
  simpa using (hleads.past hrest hc).past hlater hd

theorem leadsTo_of_afterLabel? (hS : GoesOn StartsFence S) {fuel : Nat}
    {visible lineEnded : Bool} {place after : Place} (hleads : place.LeadsTo S)
    (hafter : afterLabel? containers fuel visible lineEnded place = some after) :
    after.LeadsTo S := by
  induction fuel generalizing visible lineEnded place with
  | zero => contradiction
  | succ fuel ih =>
      rw [afterLabel?] at hafter
      split at hafter
      · contradiction
      next c rest hrest =>
      split at hafter
      · contradiction
      split at hafter
      · next hclose =>
        split at hafter
        · obtain rfl := Option.some.inj hafter
          exact hleads.past hrest (isInLine_of_beq (by decide) hclose)
        · contradiction
      split at hafter
      · next hescape =>
        simp only [Bool.and_eq_true, beq_iff_eq] at hescape
        cases rest with
        | nil => simp at hescape
        | cons d rest =>
            have hd : isAsciiPunctuation d = true := by simpa using hescape.2
            exact ih (hleads.past_two hrest (hescape.1 ▸ by decide)
              (isInLine_of_isAsciiPunctuation hd)) hafter
      split at hafter
      · split at hafter
        · next n hend =>
          split at hafter
          · contradiction
          · obtain ⟨line, hline, hafter⟩ := Option.bind_eq_some_iff.1 hafter
            have hnext := hleads.next (throughLineEnd_of_lineEnd? (hrest ▸ hend))
            exact ih (leadsTo_of_labelContinuation? hS hnext hline) hafter
        · next hend =>
          exact ih (hleads.past hrest ((lineEnd?_eq_none_iff c rest).1 hend)) hafter
      · next hspace =>
        exact ih (hleads.past hrest (isInLine_of_isAsciiSpace hspace)) hafter

/-- White space that ends in nothing runs to the end of its line. -/
theorem isSome_blankLine?_of_afterSpace? (opened : List Container) {place : Place}
    (hafter : ∀ next, afterSpace? opened place ≠ some (next, false)) :
    (blankLine? place.rest).isSome = true := by
  unfold afterSpace? at hafter
  simp only at hafter
  split at hafter
  · exact absurd rfl (hafter _)
  · next n hend => simpa [blankLine?] using Option.isSome_of_eq_some hend

theorem leadsTo_of_afterSpace? (hS : GoesOn StartsFence S) {place next : Place}
    {newLine : Bool}
    (hleads : place.LeadsTo S)
    (hafter : afterSpace? containers place = some (next, newLine)) :
    next.LeadsTo S := by
  have htext := hleads.within place.within_advance_inlineSpace
  unfold afterSpace? at hafter
  simp only at hafter
  split at hafter
  · obtain ⟨rfl, -⟩ := Prod.mk.inj (Option.some.inj hafter)
    exact htext
  · next n hend =>
    simp only [Option.bind_eq_bind, Option.bind_eq_some_iff] at hafter
    obtain ⟨line, hline, -, -, heq⟩ := hafter
    obtain ⟨rfl, -⟩ := Prod.mk.inj (Option.some.inj heq)
    have hnext := htext.next (throughLineEnd_of_lineEnd? hend)
    exact (leadsTo_of_continuation? hS hnext hline).within
      line.place.within_advance_inlineSpace

theorem StaysInLine.of_map {found : Option Nat} {n : Nat} {c : Char} {cs : List Char}
    (hfound : found.map (· + 1) = some n) (hc : IsInLine c)
    (hstays : ∀ {m}, found = some m → StaysInLine m cs) : StaysInLine n (c :: cs) := by
  obtain ⟨m, hm, rfl⟩ := Option.map_eq_some_iff.1 hfound
  exact .cons hc (hstays hm)

theorem StaysInLine.of_map_escaped {found : Option Nat} {n : Nat} {d : Char}
    {cs : List Char}
    (hfound : found.map (· + 2) = some n) (hd : isAsciiPunctuation d = true)
    (hstays : ∀ {m}, found = some m → StaysInLine m cs) :
    StaysInLine n ('\\' :: d :: cs) := by
  obtain ⟨m, hm, rfl⟩ := Option.map_eq_some_iff.1 hfound
  exact .cons (by decide) (.cons (isInLine_of_isAsciiPunctuation hd) (hstays hm))

theorem staysInLine_of_bracketedDestination? {cs : List Char} {n : Nat}
    (hlength : bracketedDestination? cs = some n) : StaysInLine n cs := by
  fun_induction bracketedDestination? cs generalizing n with
  | case1 => contradiction
  | case2 d rest hd ih => exact .of_map_escaped hlength hd ih
  | case3 d rest hd ih => exact .of_map hlength (by decide) ih
  | case4 => contradiction
  | case5 c rest hescaped hend hclose =>
      obtain rfl := Option.some.inj hlength
      exact .cons (isInLine_of_beq (by decide) hclose) (.zero _)
  | case6 c rest hescaped hend hclose ih =>
      simp only [Bool.or_eq_true, beq_iff_eq, not_or] at hend
      exact .of_map hlength ⟨hend.1.1, hend.1.2⟩ ih

theorem isInLine_of_lt {c : Char} (hc : ¬ c.toNat ≤ 0x20) : IsInLine c := by
  constructor <;>
    · rintro rfl
      exact hc (by decide)

theorem staysInLine_of_plainDestination? {limit nest : Nat} {cs : List Char} {n : Nat}
    (hlength : plainDestination? limit nest cs = some n) : StaysInLine n cs := by
  fun_induction plainDestination? limit nest cs generalizing n with
  | case1 => exact Option.some.inj hlength ▸ .zero _
  | case2 => contradiction
  | case3 nest d rest hd ih => exact .of_map_escaped hlength hd ih
  | case4 nest d rest hd ih => exact .of_map hlength (by decide) ih
  | case5 => exact Option.some.inj hlength ▸ .zero _
  | case6 => contradiction
  | case7 => contradiction
  | case8 nest c rest hescaped hc hopen hlimit ih =>
      exact .of_map hlength (isInLine_of_lt hc) ih
  | case9 => exact Option.some.inj hlength ▸ .zero _
  | case10 c rest hescaped hc hopen hclose nest ih =>
      exact .of_map hlength (isInLine_of_lt hc) ih
  | case11 nest c rest hescaped hc hopen hclose ih =>
      exact .of_map hlength (isInLine_of_lt hc) ih

theorem staysInLine_of_destination? {cs : List Char} {n : Nat}
    (hlength : destination? cs = some n) :
    StaysInLine n cs := by
  unfold destination? at hlength
  split at hlength
  · exact .of_map hlength (by decide) staysInLine_of_bracketedDestination?
  · exact staysInLine_of_plainDestination? hlength

theorem leadsTo_of_afterTitleText? (hS : GoesOn StartsFence S) {close : Char} {fuel : Nat}
    {place after : Place} (hclose : IsInLine close) (hleads : place.LeadsTo S)
    (hafter : afterTitleText? containers close fuel place = some after) :
    after.LeadsTo S := by
  induction fuel generalizing place with
  | zero => contradiction
  | succ fuel ih =>
      rw [afterTitleText?] at hafter
      split at hafter
      · contradiction
      next c rest hrest =>
      split at hafter
      · next hc =>
        obtain rfl := Option.some.inj hafter
        exact hleads.past hrest (isInLine_of_beq hclose hc)
      split at hafter
      · contradiction
      split at hafter
      · next hend =>
        obtain ⟨line, hline, hafter⟩ := Option.bind_eq_some_iff.1 hafter
        obtain ⟨n, hn⟩ : ∃ n, lineEnd? (c :: rest) = some n := by
          apply Option.ne_none_iff_exists'.1
          rw [Ne, lineEnd?_eq_none_iff]
          rintro ⟨hfeed, hreturn⟩
          simp [hfeed, hreturn] at hend
        rw [hn] at hline
        have hnext := hleads.next (throughLineEnd_of_lineEnd? (hrest ▸ hn))
        exact ih ((leadsTo_of_continuation? hS hnext hline).within line.within_skipIndent)
          hafter
      next hinner =>
      have hc : IsInLine c := by simpa [IsInLine] using hinner
      split at hafter
      · split at hafter
        · next d rest =>
          split at hafter
          · exact ih (hleads.past hrest hc) hafter
          · next hd =>
            exact ih (hleads.past_two hrest hc (by simpa [IsInLine] using hd)) hafter
        · contradiction
      · exact ih (hleads.past hrest hc) hafter

theorem leadsTo_of_afterTitle? (hS : GoesOn StartsFence S) {place after : Place}
    (hleads : place.LeadsTo S) (hafter : afterTitle? containers place = some after) :
    after.LeadsTo S := by
  unfold afterTitle? at hafter
  simp only at hafter
  split at hafter
  · next rest hrest =>
    exact leadsTo_of_afterTitleText? hS (by decide) (hleads.past hrest (by decide)) hafter
  · next rest hrest =>
    exact leadsTo_of_afterTitleText? hS (by decide) (hleads.past hrest (by decide)) hafter
  · next rest hrest =>
    exact leadsTo_of_afterTitleText? hS (by decide) (hleads.past hrest (by decide)) hafter
  · contradiction

theorem Place.LeadsTo.past_head {place : Place} {c : Char} (hleads : place.LeadsTo S)
    (hhead : (place.rest.head? == some c) = true) (hc : IsInLine c) :
    (place.advance 1).LeadsTo S := by
  obtain ⟨rest, hrest⟩ := List.head?_eq_some_iff.1 (beq_iff_eq.1 hhead)
  exact hleads.past hrest hc

/-- A definition ends at the start of a line, or nothing but blanks is left of its line. -/
theorem place_of_afterReference? (hS : GoesOn StartsFence S) {place stop : Place}
    (hleads : place.LeadsTo S) (hstop : afterReference? containers place = some stop) :
    S stop ∨ stop.LeadsTo S ∧ (blankLine? stop.rest).isSome = true := by
  simp only [afterReference?, Option.bind_eq_bind, Option.bind_eq_some_iff,
    Option.guard_eq_some'] at hstop
  obtain ⟨_, hopen, label, hlabel, _, hcolon, ⟨target, ended⟩, htarget, length,
    hlength, _, -, hstop⟩ := hstop
  have hlabelLeads := leadsTo_of_afterLabel? hS (hleads.past_head hopen (by decide)) hlabel
  have htargetLeads := leadsTo_of_afterSpace? hS
    (hlabelLeads.past_head hcolon (by decide)) htarget
  have huntitled := htargetLeads.within (staysInLine_of_destination? hlength).within
  generalize target.advance length = untitled at hstop huntitled
  split at hstop
  · next hspace =>
    obtain rfl := Option.some.inj hstop
    exact .inr ⟨huntitled, isSome_blankLine?_of_afterSpace? containers (by simp [hspace])⟩
  · next next newLine hspace =>
    have hnext := leadsTo_of_afterSpace? hS huntitled hspace
    split at hstop
    · contradiction
    split at hstop
    · next after htitle =>
      obtain rfl := Option.some.inj hstop
      simp only [Option.bind_eq_some_iff] at htitle
      obtain ⟨titled, htitled, n, hblank, heq⟩ := htitle
      obtain rfl := Option.some.inj heq
      have htitledLeads := leadsTo_of_afterTitle? hS hnext htitled
      exact .inl (htitledLeads.next (throughLineEnd_of_blankLine? hblank))
    · split at hstop
      · next hended =>
        obtain rfl := Option.some.inj hstop
        exact .inr ⟨huntitled,
          isSome_blankLine?_of_afterSpace? containers (by simp [hspace, hended])⟩
      · contradiction

/-- Blank lines do not hide where a definition ends. -/
theorem place_afterBlankLine (hS : GoesOn StartsFence S) {stop : Place}
    (hstop : S stop ∨ stop.LeadsTo S ∧ (blankLine? stop.rest).isSome = true) :
    S (stop.advance ((blankLine? stop.rest).getD 0)) := by
  cases hblank : blankLine? stop.rest with
  | none =>
      rw [hblank] at hstop
      exact hstop.resolve_right fun hright => by simp at hright
  | some n =>
      have hleads : stop.LeadsTo S := by
        rcases hstop with hstop | ⟨hleads, -⟩
        · refine (hS stop hstop).resolve_left fun hahead => ?_
          obtain ⟨width, text, hmargin, -⟩ :=
            margin_of_ahead (fun _ => StartsFence.beginsBlock) hahead
          have hnone := hmargin.blankLine?_eq_none
          rw [LineStart.atPlace, hblank] at hnone
          contradiction
        · exact hleads
      exact hleads.next (throughLineEnd_of_blankLine? hblank)

/-! ## Indented code -/

theorem length_lt_of_within_nextLine {place later : Place}
    (hwithin : (place.advance (throughLineFeed place.rest)).Within later)
    (hrest : later.rest ≠ []) :
    later.rest.length < place.rest.length := by
  have hlength := hwithin.length_le
  have hpos := List.length_pos_iff.2 hrest
  simp only [Place.advance_rest, List.length_drop] at hlength
  have hfeed :=
    throughLineFeed_pos (List.length_pos_iff.1 (show 0 < place.rest.length by omega))
  omega

/-- How far indented code reaches that ends at `stop` if no more lines follow: the place
after it and the end of its last line satisfy `S`. -/
structure CodeExtent (S : Place → Prop) (stop : Nat) (found : List Char × Nat × Place) :
    Prop where
  next : S found.2.2
  last : found.2.1 = stop ∨ ∃ line, S line ∧ found.2.1 = line.offset

/-- Indented code goes on until a block stands behind a narrow margin. -/
theorem codeExtent_indentedLines (hS : GoesOn BeginsBlock S) {fuel pending stop : Nat}
    {blank : Bool} {blanks : List Char} {place : Place} (hleads : place.LeadsTo S)
    (hfuel : place.rest.length < fuel) :
    CodeExtent S stop (indentedLines containers fuel pending blank blanks stop place) := by
  induction fuel generalizing pending blank blanks stop place with
  | zero => omega
  | succ fuel ih =>
      have hnext := hleads.next_throughLineFeed
      have hline := hS.enterAll_cases (fun _ => id) hnext containers
      have hlength := @length_lt_of_within_nextLine place _ (within_text containers _)
      rw [indentedLines]
      generalize place.advance (throughLineFeed place.rest) = next at hnext hline hlength ⊢
      generalize enterAll containers (.atPlace next) = entered at *
      simp only
      generalize htaken : (if blank = true then _ else _ : List Char × List Char × Nat) =
        taken
      have htakenStop : taken.2.2 = stop ∨ ∃ line, S line ∧ taken.2.2 = line.offset := by
        rw [← htaken]
        split
        · exact .inl rfl
        · exact .inr ⟨next, hnext, rfl⟩
      split
      · exact ⟨hnext, htakenStop⟩
      · next hgoes =>
        simp only [Bool.or_eq_true, Bool.not_eq_true', not_or, List.isEmpty_iff] at hgoes
        obtain ⟨⟨-, hcode⟩, hrest⟩ := hgoes
        have hleads : (entered.2.2.indent 4).2.place.LeadsTo S := by
          rcases hline with ⟨width, text, hmargin, -⟩ | hleads
          · obtain ⟨-, hmissing, htext⟩ := hmargin.indent_four
            simp [hmissing, htext.atEnd_eq_false] at hcode
          · exact hleads.within (LineStart.within_indent _ 4)
        obtain ⟨hnext, hlast⟩ :=
          @ih _ _ _ _ _ hleads (Nat.lt_of_lt_of_le (hlength hrest) (by omega))
        refine ⟨hnext, ?_⟩
        rcases hlast with hlast | hlast
        · exact htakenStop.imp hlast.trans fun ⟨line, hline, hoffset⟩ =>
            ⟨line, hline, hlast.trans hoffset⟩
        · exact .inr hlast

theorem length_advance_le (place : Place) (n : Nat) :
    (place.advance n).rest.length ≤ place.rest.length := by
  rw [Place.advance_rest, List.length_drop]
  exact Nat.sub_le _ _

theorem le_htmlEnd (ending : Option (List Char)) (fuel : Nat) (place : Place) :
    let (stop, next) := htmlEnd containers ending fuel place
    place.offset ≤ stop ∧ next.rest.length ≤ place.rest.length := by
  simp only
  induction fuel generalizing place with
  | zero => exact ⟨le_rfl, le_rfl⟩
  | succ fuel ih =>
      have hnext : place.offset ≤ (place.advance (throughLineFeed place.rest)).offset :=
        Nat.le_add_right _ _
      have hlength := length_advance_le place (throughLineFeed place.rest)
      rw [htmlEnd]
      generalize place.advance (throughLineFeed place.rest) = next at hnext hlength ⊢
      have hline := within_enterAll containers (.atPlace next)
      simp only
      split_ifs
      · exact ⟨hnext, hlength⟩
      · exact ⟨hnext.trans hline.offset_le, hlength⟩
      · have hlater := ih (enterAll containers (.atPlace next)).2.2.place
        exact ⟨(hnext.trans hline.offset_le).trans hlater.1,
          (hlater.2.trans hline.length_le).trans hlength⟩

theorem lt_htmlEnd {ending : Option (List Char)} {fuel : Nat} {place : Place}
    (hrest : place.rest ≠ []) (hfuel : 0 < fuel) :
    let (stop, next) := htmlEnd containers ending fuel place
    place.offset < stop ∧ next.rest.length < place.rest.length := by
  obtain ⟨fuel, rfl⟩ := Nat.exists_eq_succ_of_ne_zero (Nat.ne_of_gt hfuel)
  have hpos := throughLineFeed_pos hrest
  have hnext : place.offset < (place.advance (throughLineFeed place.rest)).offset :=
    Nat.lt_add_of_pos_right hpos
  have hlength : (place.advance (throughLineFeed place.rest)).rest.length <
      place.rest.length := by
    rw [Place.advance_rest, List.length_drop]
    exact Nat.sub_lt (List.length_pos_iff.2 hrest) hpos
  rw [htmlEnd]
  generalize place.advance (throughLineFeed place.rest) = next at hnext hlength ⊢
  have hline := within_enterAll containers (.atPlace next)
  simp only
  split_ifs
  · exact ⟨hnext, hlength⟩
  · exact ⟨Nat.lt_of_lt_of_le hnext hline.offset_le, hlength⟩
  · have hlater :=
      @le_htmlEnd containers ending fuel (enterAll containers (.atPlace next)).2.2.place
    exact ⟨Nat.lt_of_lt_of_le hnext (hline.offset_le.trans hlater.1),
      Nat.lt_of_le_of_lt (hlater.2.trans hline.length_le) hlength⟩

/-- Raw markup ends at the start of a line, or it has taken a line in which a fence is
opened. -/
theorem place_htmlEnd (hS : GoesOn StartsFence S)
    {ending : Option (List Char)} {fuel : Nat}
    {place : Place} (hleads : place.LeadsTo S) (hfuel : place.rest.length < fuel) :
    S (htmlEnd containers ending fuel place).2 ∨
      ∃ line, S line ∧ Ahead StartsFence line.rest ∧ place.offset ≤ line.offset ∧
        line.offset < (htmlEnd containers ending fuel place).1 := by
  induction fuel generalizing place with
  | zero => omega
  | succ fuel ih =>
      have hnext := hleads.next_throughLineFeed
      have hoffset : place.offset ≤ (place.advance (throughLineFeed place.rest)).offset :=
        Nat.le_add_right _ _
      have hlength := @length_lt_of_within_nextLine place _ (within_enterAll containers
        (.atPlace (place.advance (throughLineFeed place.rest))))
      rw [htmlEnd]
      generalize place.advance (throughLineFeed place.rest) =
        next at hnext hoffset hlength ⊢
      have hline := within_enterAll containers (.atPlace next)
      generalize enterAll containers (.atPlace next) = entered at *
      simp only
      split_ifs with hended hblank
      · exact .inl hnext
      · exact .inl hnext
      · simp only [Bool.or_eq_true, not_or, List.isEmpty_iff] at hblank
        have hshorter := Nat.lt_of_lt_of_le (hlength hblank.1) (Nat.lt_succ_iff.1 hfuel)
        rcases hS next hnext with hfence | hleads
        · refine .inr ⟨next, hnext, hfence, hoffset, Nat.lt_of_le_of_lt hline.offset_le ?_⟩
          exact (lt_htmlEnd hblank.1 (Nat.zero_lt_of_lt hshorter)).1
        · rcases ih (hleads.within hline) hshorter with hend | ⟨line, hS, hfence, hle, hlt⟩
          · exact .inl hend
          · exact .inr ⟨line, hS, hfence, (hoffset.trans hline.offset_le).trans hle, hlt⟩

theorem length_fencedLines_le (indent : Nat) (mark : Char) (opened fuel : Nat)
    (place : Place) :
    (fencedLines containers indent mark opened fuel place).2.rest.length ≤
      place.rest.length := by
  induction fuel generalizing place with
  | zero => exact le_rfl
  | succ fuel ih =>
      rw [fencedLines]
      have hline := within_enterAll containers (.atPlace place)
      generalize enterAll containers (.atPlace place) = entered at *
      have htext := hline.trans (LineStart.within_indent entered.2.2 indent)
      have hclose := htext.trans
        (LineStart.within_indent (entered.2.2.indent indent).2 (4 - indent))
      simp only
      split
      · exact le_rfl
      · split
        · exact (length_advance_le _ _).trans hclose.length_le
        · exact (ih _).trans ((length_advance_le _ _).trans htext.length_le)

theorem length_readFence_lt {outline : Outline} {place : Place} {mark : Char}
    {indent opened : Nat}
    (hfence : codeFence? place.rest = some (mark, opened)) :
    (readFence outline place indent mark opened).2.rest.length < place.rest.length := by
  have hopened : 0 < opened := by
    unfold codeFence? at hfence
    split at hfence
    · split at hfence
      · simp only [Option.ite_none_left_eq_some, Bool.or_eq_true,
          decide_eq_true_eq, not_or, Option.some.injEq, Prod.mk.injEq] at hfence
        omega
      · contradiction
    · contradiction
  have hrest : 0 < place.rest.length := by
    apply List.length_pos_iff.2
    intro hnil
    rw [hnil] at hfence
    contradiction
  have hinfo : (place.advance opened).rest.length < place.rest.length := by
    rw [Place.advance_rest, List.length_drop]
    omega
  simp only [readFence]
  refine Nat.lt_of_le_of_lt (length_advance_le _ _) ?_
  refine Nat.lt_of_le_of_lt (length_fencedLines_le _ _ _ _ _) ?_
  exact Nat.lt_of_le_of_lt ((length_advance_le _ _).trans (length_advance_le _ _)) hinfo

end DocContract.Markdown
