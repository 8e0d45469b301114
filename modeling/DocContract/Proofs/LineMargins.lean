import DocContract.Proofs.MarkdownLines

/-!
# Where reading goes on

A reader that has come to the end of a line goes on at the start of the next one.  There it
stops if a code fence stands behind a narrow margin: such a line begins a block whatever
containers are open.
-/

namespace DocContract.Markdown

/-- A text that begins a block: it is not blank, and no margin or quotation is left in
front of it. -/
structure BeginsBlock (cs : List Char) : Prop where
  visible : blankLine? cs = none
  margin : cs.head? ≠ some ' ' ∧ cs.head? ≠ some '\t'
  unquoted : cs.head? ≠ some '>'

theorem BeginsBlock.exists_cons {cs : List Char} (hbegins : BeginsBlock cs) :
    ∃ c rest, cs = c :: rest ∧ IsInLine c ∧ c ≠ ' ' ∧ c ≠ '\t' ∧ c ≠ '>' := by
  obtain ⟨hvisible, hmargin, hunquoted⟩ := hbegins
  cases cs with
  | nil => contradiction
  | cons c rest =>
      refine ⟨c, rest, rfl, ?_, ?_⟩
      · by_contra hend
        rw [← lineEnd?_eq_none_iff c rest] at hend
        have hspace : isInlineSpace c = false := by
          by_contra hspace
          rw [Bool.not_eq_false] at hspace
          exact hend ((lineEnd?_eq_none_iff c rest).2 (isInLine_of_isInlineSpace hspace))
        simp [blankLine?, countWhile, hspace, hend] at hvisible
      · simpa [and_assoc] using And.intro hmargin hunquoted

/-- A line of which a margin of `width` spaces is left, less than four, in front of a
block. -/
structure LineStart.Margin (line : LineStart) (width : Nat) (text : Place) : Prop where
  pending : line.pending = 0
  spaces : line.place.rest = List.replicate width ' ' ++ text.rest
  offset : text.offset = line.place.offset + width
  narrow : width < 4
  begins : BeginsBlock text.rest

namespace LineStart

theorem indentFrom_replicate (offset column n width : Nat) {c : Char} (rest : List Char)
    (hc : c ≠ ' ' ∧ c ≠ '\t') :
    indentFrom offset column n (List.replicate width ' ' ++ c :: rest) =
      (n - width,
        { place := { offset := offset + min n width
                     rest := List.replicate (width - n) ' ' ++ c :: rest }
          column := column + min n width
          pending := 0 }) := by
  induction n generalizing offset column width with
  | zero => simp [indentFrom]
  | succ n ih =>
      cases width with
      | zero => simp [indentFrom, hc]
      | succ width =>
          rw [List.replicate_succ, List.cons_append, indentFrom, if_pos rfl, ih]
          simp [Nat.succ_min_succ, Nat.add_assoc, Nat.add_comm 1]

variable {line : LineStart} {width : Nat} {text : Place}

theorem Margin.indent (hmargin : line.Margin width text) (n : Nat) :
    (line.indent n).1 = n - width ∧ (line.indent n).2.Margin (width - n) text := by
  obtain ⟨hpending, hspaces, hoffset, hnarrow, hbegins⟩ := hmargin
  obtain ⟨c, rest, htext, -, hspace, htab, -⟩ := hbegins.exists_cons
  have hindent : line.indent n =
      indentFrom line.place.offset line.column n line.place.rest := by
    rw [LineStart.indent, hpending]
    split
    · next hn =>
      obtain rfl := Nat.le_zero.1 hn
      simp [indentFrom]
    · rfl
  rw [hindent, hspaces, htext, indentFrom_replicate _ _ _ _ _ ⟨hspace, htab⟩]
  refine ⟨rfl, rfl, ?_, ?_, ?_, hbegins⟩
  · rw [htext]
  · simp only
    omega
  · omega

theorem Margin.place_eq (hmargin : line.Margin 0 text) : line.place = text :=
  Place.ext hmargin.offset.symm hmargin.spaces

theorem Margin.atEnd_eq_false (hmargin : line.Margin width text) : line.atEnd = false := by
  obtain ⟨c, rest, htext, ⟨hfeed, hreturn⟩, -⟩ := hmargin.begins.exists_cons
  rw [atEnd, hmargin.spaces]
  cases width with
  | zero => simp [htext, hfeed, hreturn]
  | succ width => simp [List.replicate_succ]

/-- Behind a narrow margin four columns of indentation are never there. -/
theorem Margin.indent_four (hmargin : line.Margin width text) :
    (line.indent 4).1 = 4 - width ∧ (line.indent 4).1 ≠ 0 ∧
      (line.indent 4).2.Margin 0 text := by
  have hnarrow := hmargin.narrow
  obtain ⟨hmissing, htext⟩ := hmargin.indent 4
  rw [Nat.sub_eq_zero_of_le (Nat.le_of_lt hnarrow)] at htext
  exact ⟨hmissing, by omega, htext⟩

theorem Margin.skipIndent (hmargin : line.Margin width text) :
    line.skipIndent.place = text := by
  obtain ⟨c, rest, htext, -, hspace, htab, -⟩ := hmargin.begins.exists_cons
  have hplace : line.skipIndent.place = line.place.advance width := by
    simp only [LineStart.skipIndent]
    rw [hmargin.spaces, htext,
      countWhile_replicate_append _ _ rfl (by simp [hspace, htab])]
  rw [hplace]
  ext1
  · exact hmargin.offset.symm
  · simp [hmargin.spaces]

theorem Margin.blankLine?_eq_none (hmargin : line.Margin width text) :
    blankLine? line.place.rest = none := by
  have hvisible := hmargin.begins.visible
  rw [hmargin.spaces]
  clear hmargin
  induction width with
  | zero => exact hvisible
  | succ width ih =>
      simp only [blankLine?, Option.map_eq_none_iff] at ih ⊢
      simpa [List.replicate_succ, countWhile, isInlineSpace] using ih

end LineStart

theorem Container.margin_of_enter? {container : Container}
    {line inside : LineStart} {width : Nat}
    {text : Place} (hmargin : line.Margin width text)
    (henter : container.enter? line = some inside) :
    ∃ w ≤ width, inside.Margin w text := by
  cases container with
  | list mark =>
      obtain rfl := Option.some.inj henter
      exact ⟨width, le_rfl, hmargin⟩
  | item indent =>
      simp only [enter?] at henter
      split at henter
      · obtain rfl := Option.some.inj henter
        exact ⟨width - indent, Nat.sub_le _ _, (hmargin.indent indent).2⟩
      · contradiction
  | quote =>
      -- Three columns are enough to pass the margin, and no mark of a quotation follows
      -- it.
      have htext := (hmargin.indent 3).2
      rw [Nat.sub_eq_zero_of_le (Nat.le_of_lt_succ hmargin.narrow)] at htext
      simp only [enter?] at henter
      split at henter
      · next rest hmark =>
        rw [htext.place_eq] at hmark
        exact absurd (by rw [hmark]; rfl) hmargin.begins.unquoted
      · contradiction

theorem margin_enterAll (containers : List Container) {line : LineStart} {width : Nat}
    {text : Place} (hmargin : line.Margin width text) :
    ∃ w ≤ width, (enterAll containers line).2.2.Margin w text := by
  induction containers generalizing line width with
  | nil => exact ⟨width, le_rfl, hmargin⟩
  | cons container containers ih =>
      rw [enterAll]
      split
      · exact ⟨width, le_rfl, hmargin⟩
      · next inside henter =>
        obtain ⟨w, hw, hinside⟩ := container.margin_of_enter? hmargin henter
        obtain ⟨u, hu, hrest⟩ := ih hinside
        exact ⟨u, hu.trans hw, hrest⟩

/-- Whether a code fence is opened at the front of a text. -/
def StartsFence (cs : List Char) : Prop :=
  (codeFence? cs).isSome = true

namespace StartsFence

variable {cs : List Char}

theorem exists_cons (hfence : StartsFence cs) :
    ∃ c rest, cs = c :: rest ∧ (c = '\x60' ∨ c = '~') := by
  unfold StartsFence codeFence? at hfence
  split at hfence
  · next c rest =>
    split at hfence
    · next hmark => exact ⟨c, rest, rfl, by simpa using hmark⟩
    · contradiction
  · contradiction

theorem beginsBlock (hfence : StartsFence cs) : BeginsBlock cs := by
  obtain ⟨c, rest, rfl, rfl | rfl⟩ := hfence.exists_cons <;>
    exact ⟨rfl, by simp, by simp⟩

theorem interrupts (hfence : StartsFence cs) (current inTable : Bool) :
    interrupts current inTable cs = true := by
  have hsome : (codeFence? cs).isSome = true := hfence
  simp [Markdown.interrupts, hsome]

theorem headingUnderline?_eq_none (hfence : StartsFence cs) :
    headingUnderline? cs = none := by
  obtain ⟨c, rest, rfl, rfl | rfl⟩ := hfence.exists_cons <;> rfl

theorem delimiterRow?_eq_none (hfence : StartsFence cs) (width : Nat) :
    delimiterRow? (List.replicate width ' ' ++ cs) = none := by
  obtain ⟨c, rest, rfl, rfl | rfl⟩ := hfence.exists_cons <;>
    simp [delimiterRow?, delimiterRow?.go, countRun, countWhile_replicate_append, lineEnd?]

end StartsFence

/-- The line of a place ends with a line feed or with the text, and the place after it
satisfies `S`. -/
def Place.LeadsTo (S : Place → Prop) (place : Place) : Prop :=
  throughLineFeed place.rest = throughLineEnd place.rest ∧
    S (place.advance (throughLineEnd place.rest))

namespace Place.LeadsTo

variable {S T : Place → Prop} {place later : Place}

theorem mono (hleads : place.LeadsTo S) (hST : ∀ next, S next → T next) :
    place.LeadsTo T :=
  ⟨hleads.1, hST _ hleads.2⟩

theorem within (hleads : place.LeadsTo S) (hwithin : place.Within later) :
    later.LeadsTo S := by
  obtain ⟨front, hrest, rfl, hfront⟩ := hwithin
  obtain ⟨hfeed, hnext⟩ := hleads
  rw [hrest, throughLineFeed_append hfront, throughLineEnd_append hfront] at hfeed
  rw [hrest, throughLineEnd_append hfront, ← advance_advance] at hnext
  exact ⟨Nat.add_left_cancel hfeed, hnext⟩

theorem next {n : Nat} (hleads : place.LeadsTo S) (hn : throughLineEnd place.rest = n) :
    S (place.advance n) :=
  hn ▸ hleads.2

theorem next_throughLineFeed (hleads : place.LeadsTo S) :
    S (place.advance (throughLineFeed place.rest)) :=
  hleads.next hleads.1.symm

/-- Where something is left to read, reading goes on to a later place. -/
theorem onward (hleads : place.LeadsTo S) (hrest : place.rest ≠ []) :
    place.LeadsTo fun next => S next ∧ place.offset < next.offset :=
  ⟨hleads.1, hleads.2, Nat.lt_add_of_pos_right (throughLineEnd_pos hrest)⟩

end Place.LeadsTo

/-- What stands at the front of a text, behind a narrow margin at most. -/
def Ahead (P : List Char → Prop) (cs : List Char) : Prop :=
  ∃ width text, cs = List.replicate width ' ' ++ text ∧ width < 4 ∧ P text

theorem Ahead.mono {P Q : List Char → Prop} {cs : List Char} (hahead : Ahead P cs)
    (hPQ : ∀ cs, P cs → Q cs) : Ahead Q cs := by
  obtain ⟨width, text, hcs, hwidth, htext⟩ := hahead
  exact ⟨width, text, hcs, hwidth, hPQ text htext⟩

theorem margin_of_ahead {Stop : List Char → Prop} {place : Place}
    (hstop : ∀ cs, Stop cs → BeginsBlock cs) (hahead : Ahead Stop place.rest) :
    ∃ width text, (LineStart.atPlace place).Margin width text ∧
      text = place.advance width ∧
      Stop text.rest := by
  obtain ⟨width, text, hrest, hnarrow, hbegins⟩ := hahead
  have htext : (place.advance width).rest = text := by simp [hrest]
  exact ⟨width, place.advance width, ⟨rfl, by rw [htext]; exact hrest, rfl, hnarrow,
    htext ▸ hstop text hbegins⟩, rfl, htext ▸ hbegins⟩

/-- Starts of lines from each of which reading goes on to another, unless `Stop` stands
there. -/
def GoesOn (Stop : List Char → Prop) (S : Place → Prop) : Prop :=
  ∀ place, S place → Ahead Stop place.rest ∨ place.LeadsTo S

namespace GoesOn

variable {Stop : List Char → Prop} {S : Place → Prop} {place : Place}

theorem enterAll_cases (hS : GoesOn Stop S) (hstop : ∀ cs, Stop cs → BeginsBlock cs)
    (hplace : S place) (containers : List Container) :
    (∃ width text, (enterAll containers (.atPlace place)).2.2.Margin width text ∧
        Stop text.rest) ∨
      (enterAll containers (.atPlace place)).2.2.place.LeadsTo S := by
  rcases hS place hplace with hahead | hleads
  · obtain ⟨width, text, hmargin, -, htext⟩ := margin_of_ahead hstop hahead
    obtain ⟨w, -, hline⟩ := margin_enterAll containers hmargin
    exact .inl ⟨w, text, hline, htext⟩
  · exact .inr (hleads.within (within_enterAll containers (.atPlace place)))

theorem mono {Halt : List Char → Prop} (hS : GoesOn Stop S)
    (hstop : ∀ cs, Stop cs → Halt cs) :
    GoesOn Halt S :=
  fun place hplace => (hS place hplace).imp (fun hahead => hahead.mono hstop) id

theorem onward (hS : GoesOn Stop S) (offset : Nat) :
    GoesOn Stop fun place => S place ∧ offset < place.offset := by
  intro place hplace
  refine (hS place hplace.1).imp id fun hleads => ⟨hleads.1, hleads.2, ?_⟩
  exact Nat.lt_of_lt_of_le hplace.2 (Nat.le_add_right _ _)

/-- Reading goes on in a line that is indented by four columns, or that opens no fence. -/
theorem leadsTo_text (hS : GoesOn StartsFence S) (hplace : S place)
    (containers : List Container) :
    let (missing, text) := (enterAll containers (.atPlace place)).2.2.indent 4
    (missing ≠ 0 → ¬ StartsFence text.place.rest) → text.place.LeadsTo S := by
  simp only
  intro hgoes
  rcases hS.enterAll_cases (fun _ => StartsFence.beginsBlock) hplace containers with
    ⟨width, fence, hmargin, hfence⟩ | hleads
  · obtain ⟨-, hmissing, htext⟩ := hmargin.indent_four
    rw [htext.place_eq] at hgoes
    exact absurd hfence (hgoes hmissing)
  · exact hleads.within (LineStart.within_indent _ 4)

end GoesOn

/-- The text of a line, behind its containers and its indentation. -/
theorem within_text (containers : List Container) (place : Place) :
    place.Within ((enterAll containers (.atPlace place)).2.2.indent 4).2.place :=
  (within_enterAll containers (.atPlace place)).trans (LineStart.within_indent _ 4)

end DocContract.Markdown
