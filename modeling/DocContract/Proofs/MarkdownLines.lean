import DocContract.Markdown.Reader
import Mathlib.Data.List.TakeWhile
import Mathlib.Tactic.SplitIfs

/-!
# Places on a line of a markup text

Reading goes on from a place to places further on in the same line, and at the end of the
line to the start of the next one.  Whatever reads through the end of a line reads equally
many characters.
-/

namespace DocContract.Markdown

@[ext] theorem Place.ext {place other : Place} (hoffset : place.offset = other.offset)
    (hrest : place.rest = other.rest) : place = other := by
  cases place
  cases other
  simp_all

@[simp] theorem Place.advance_zero (place : Place) : place.advance 0 = place := rfl

@[simp] theorem Place.advance_advance (place : Place) (m n : Nat) :
    (place.advance m).advance n = place.advance (m + n) := by
  simp [advance, Nat.add_assoc]

@[simp] theorem Place.advance_offset (place : Place) (n : Nat) :
    (place.advance n).offset = place.offset + n := rfl

@[simp] theorem Place.advance_rest (place : Place) (n : Nat) :
    (place.advance n).rest = place.rest.drop n := rfl

/-- A character that does not belong to what ends a line. -/
def IsInLine (c : Char) : Prop :=
  c ≠ '\n' ∧ c ≠ '\r'

instance : DecidablePred IsInLine := fun _ => inferInstanceAs (Decidable (_ ∧ _))

theorem isInLine_of_isInlineSpace {c : Char} (hspace : isInlineSpace c = true) :
    IsInLine c := by
  constructor <;>
    · rintro rfl
      simp [isInlineSpace] at hspace

theorem isInLine_of_beq {c d : Char} (hd : IsInLine d) (hc : (c == d) = true) :
    IsInLine c :=
  (beq_iff_eq.1 hc) ▸ hd

/-- The first `n` characters of a text are there and do not end a line. -/
def StaysInLine (n : Nat) (cs : List Char) : Prop :=
  ∃ front back, cs = front ++ back ∧ front.length = n ∧ ∀ c ∈ front, IsInLine c

namespace StaysInLine

theorem of_forall {front back : List Char} (hfront : ∀ c ∈ front, IsInLine c) :
    StaysInLine front.length (front ++ back) :=
  ⟨front, back, rfl, rfl, hfront⟩

theorem zero (cs : List Char) : StaysInLine 0 cs :=
  ⟨[], cs, rfl, rfl, by simp⟩

theorem cons {n : Nat} {c : Char} {cs : List Char} (hc : IsInLine c)
    (hstays : StaysInLine n cs) :
    StaysInLine (n + 1) (c :: cs) := by
  obtain ⟨front, back, rfl, rfl, hfront⟩ := hstays
  exact ⟨c :: front, back, rfl, rfl, List.forall_mem_cons.2 ⟨hc, hfront⟩⟩

theorem add {m n : Nat} {cs : List Char} (hstays : StaysInLine m cs)
    (hlater : StaysInLine n (cs.drop m)) : StaysInLine (m + n) cs := by
  obtain ⟨front, back, rfl, rfl, hfront⟩ := hstays
  rw [List.drop_left] at hlater
  obtain ⟨inner, back, rfl, rfl, hinner⟩ := hlater
  rw [← List.append_assoc, ← List.length_append]
  exact .of_forall (List.forall_mem_append.2 ⟨hfront, hinner⟩)

end StaysInLine

theorem countWhile_eq_length_takeWhile (p : Char → Bool) (cs : List Char) :
    countWhile p cs = (cs.takeWhile p).length := by
  induction cs with
  | nil => rfl
  | cons c cs ih =>
      rw [countWhile, List.takeWhile_cons]
      split <;> simp [ih]

theorem drop_countWhile (p : Char → Bool) (cs : List Char) :
    cs.drop (countWhile p cs) = cs.dropWhile p := by
  induction cs with
  | nil => rfl
  | cons c cs ih =>
      rw [countWhile, List.dropWhile_cons]
      split <;> simp [ih]

theorem countWhile_replicate_append {p : Char → Bool} {mark c : Char} (n : Nat)
    (rest : List Char)
    (hmark : p mark = true) (hc : p c = false) :
    countWhile p (List.replicate n mark ++ c :: rest) = n := by
  induction n with
  | zero => simp [countWhile, hc]
  | succ n ih => simpa [List.replicate_succ, countWhile, hmark] using ih

theorem staysInLine_countWhile {p : Char → Bool} (hp : ∀ c, p c = true → IsInLine c)
    (cs : List Char) : StaysInLine (countWhile p cs) cs := by
  have hfront : ∀ c ∈ cs.takeWhile p, IsInLine c :=
    fun c hc => hp c (List.mem_takeWhile_imp hc)
  have hstays := @StaysInLine.of_forall _ (cs.dropWhile p) hfront
  rwa [List.takeWhile_append_dropWhile, ← countWhile_eq_length_takeWhile] at hstays

/-- A place further on in the line of another. -/
def Place.Within (place later : Place) : Prop :=
  ∃ front : List Char, place.rest = front ++ later.rest ∧
    later = place.advance front.length ∧ ∀ c ∈ front, IsInLine c

namespace Place.Within

variable {place middle later : Place}

theorem refl (place : Place) : place.Within place :=
  ⟨[], rfl, rfl, by simp⟩

theorem trans (hmiddle : place.Within middle) (hlater : middle.Within later) :
    place.Within later := by
  obtain ⟨front, hrest, heq, hfront⟩ := hmiddle
  obtain ⟨back, hback, hlater, hinner⟩ := hlater
  refine ⟨front ++ back, by rw [hrest, hback, List.append_assoc], ?_, ?_⟩
  · rw [hlater, heq, advance_advance, List.length_append]
  · exact List.forall_mem_append.2 ⟨hfront, hinner⟩

theorem offset_le (hwithin : place.Within later) : place.offset ≤ later.offset := by
  obtain ⟨front, -, rfl, -⟩ := hwithin
  exact Nat.le_add_right _ _

theorem length_le (hwithin : place.Within later) :
    later.rest.length ≤ place.rest.length := by
  obtain ⟨front, hrest, -, -⟩ := hwithin
  rw [hrest, List.length_append]
  exact Nat.le_add_left _ _

theorem of_cons {c : Char} {rest : List Char} (hrest : place.rest = c :: rest)
    (hc : IsInLine c) :
    place.Within (place.advance 1) :=
  ⟨[c], by simp [hrest], rfl, by simpa using hc⟩

end Place.Within

theorem StaysInLine.within {n : Nat} {place : Place} (hstays : StaysInLine n place.rest) :
    place.Within (place.advance n) := by
  obtain ⟨front, back, hrest, rfl, hfront⟩ := hstays
  exact ⟨front, by simp [hrest], rfl, hfront⟩

theorem Place.within_advance_inlineSpace (place : Place) :
    place.Within (place.advance (countWhile isInlineSpace place.rest)) :=
  (staysInLine_countWhile (fun _ => isInLine_of_isInlineSpace) place.rest).within

namespace LineStart

theorem within_indentFrom (offset column n : Nat) (rest : List Char) :
    Place.Within ⟨offset, rest⟩ (indentFrom offset column n rest).2.place := by
  induction n using Nat.strong_induction_on generalizing offset column rest with
  | _ n ih =>
    match n, rest with
    | 0, rest =>
        rw [indentFrom]
        exact .refl _
    | n + 1, [] => exact .refl _
    | n + 1, c :: rest =>
        have hpast (hc : IsInLine c) :
            Place.Within ⟨offset, c :: rest⟩ ⟨offset + 1, rest⟩ :=
          .of_cons rfl hc
        rw [indentFrom]
        split
        · next hc =>
          exact (hpast (by simp [hc, IsInLine])).trans (ih n (Nat.lt_succ_self n) _ _ _)
        · split
          · next hc =>
            have hpast := hpast (by simp [hc, IsInLine])
            simp only
            split
            · exact hpast
            · exact hpast.trans (ih _ (by omega) _ _ _)
          · exact .refl _

theorem within_indent (line : LineStart) (n : Nat) :
    line.place.Within (line.indent n).2.place := by
  rw [indent]
  split
  · exact .refl _
  · exact within_indentFrom _ _ _ _

theorem within_skipIndent (line : LineStart) :
    line.place.Within line.skipIndent.place := by
  refine (staysInLine_countWhile (fun c hc => ?_) line.place.rest).within
  rcases Bool.or_eq_true_iff.1 hc with hc | hc <;> exact isInLine_of_beq (by decide) hc

end LineStart

theorem Container.within_of_enter? {container : Container} {line inside : LineStart}
    (henter : container.enter? line = some inside) : line.place.Within inside.place := by
  cases container with
  | list mark =>
      obtain rfl := Option.some.inj henter
      exact .refl _
  | item indent =>
      have hindent := line.within_indent indent
      simp only [enter?] at henter
      split at henter
      · obtain rfl := Option.some.inj henter
        exact hindent
      · contradiction
  | quote =>
      have hindent := line.within_indent 3
      simp only [enter?] at henter
      split at henter
      · next rest hmark =>
        obtain rfl := Option.some.inj henter
        have hmarked : (line.indent 3).2.place.Within
            ((line.indent 3).2.advance 1).place :=
          .of_cons hmark (by decide)
        exact hindent.trans (hmarked.trans (LineStart.within_indent _ 1))
      · contradiction

theorem within_enterAll (containers : List Container) (line : LineStart) :
    line.place.Within (enterAll containers line).2.2.place := by
  induction containers generalizing line with
  | nil => exact .refl _
  | cons container containers ih =>
      rw [enterAll]
      split
      · exact .refl _
      · next inside henter => exact (container.within_of_enter? henter).trans (ih inside)

/-! ## Through the end of a line -/

theorem lineEnd?_eq_none_iff (c : Char) (rest : List Char) :
    lineEnd? (c :: rest) = none ↔ IsInLine c := by
  unfold lineEnd? IsInLine
  split <;> simp_all

theorem throughLineEnd_of_lineEnd? {cs : List Char} {n : Nat}
    (hend : lineEnd? cs = some n) :
    throughLineEnd cs = n := by
  cases cs with
  | nil =>
      obtain rfl := Option.some.inj hend
      rfl
  | cons c rest => rw [throughLineEnd, hend]

theorem throughLineEnd_cons {c : Char} (hc : IsInLine c) (rest : List Char) :
    throughLineEnd (c :: rest) = throughLineEnd rest + 1 := by
  rw [throughLineEnd, (lineEnd?_eq_none_iff c rest).2 hc]

theorem throughLineEnd_append {front : List Char} (hfront : ∀ c ∈ front, IsInLine c)
    (cs : List Char) :
    throughLineEnd (front ++ cs) = front.length + throughLineEnd cs := by
  induction front with
  | nil => simp
  | cons c front ih =>
      rw [List.forall_mem_cons] at hfront
      rw [List.cons_append, throughLineEnd_cons hfront.1, ih hfront.2, List.length_cons]
      omega

theorem throughLineFeed_append {front : List Char} (hfront : ∀ c ∈ front, IsInLine c)
    (cs : List Char) :
    throughLineFeed (front ++ cs) = front.length + throughLineFeed cs := by
  induction front with
  | nil => simp
  | cons c front ih =>
      rw [List.forall_mem_cons] at hfront
      rw [List.cons_append, throughLineFeed, if_neg hfront.1.1, ih hfront.2,
        List.length_cons]
      omega

theorem throughLineEnd_pos {cs : List Char} (hcs : cs ≠ []) : 0 < throughLineEnd cs := by
  cases cs with
  | nil => contradiction
  | cons c rest =>
      rw [throughLineEnd]
      split
      · next n hend =>
        unfold lineEnd? at hend
        split at hend <;> simp_all <;> omega
      · exact Nat.succ_pos _

theorem throughLineFeed_pos {cs : List Char} (hcs : cs ≠ []) : 0 < throughLineFeed cs := by
  cases cs with
  | nil => contradiction
  | cons c rest =>
      rw [throughLineFeed]
      split <;> exact Nat.succ_pos _

theorem StaysInLine.throughLineEnd {n : Nat} {cs : List Char} (hstays : StaysInLine n cs) :
    throughLineEnd cs = n + throughLineEnd (cs.drop n) := by
  obtain ⟨front, back, rfl, rfl, hfront⟩ := hstays
  rw [throughLineEnd_append hfront, List.drop_left]

theorem throughLineEnd_of_blankLine? {cs : List Char} {n : Nat}
    (hblank : blankLine? cs = some n) :
    throughLineEnd cs = n := by
  obtain ⟨m, hend, rfl⟩ := Option.map_eq_some_iff.1 hblank
  have hblanks := staysInLine_countWhile (fun _ => isInLine_of_isInlineSpace) cs
  rw [hblanks.throughLineEnd, throughLineEnd_of_lineEnd? hend]

theorem throughLineEnd_of_headingUnderline? {cs : List Char} {n : Nat}
    (hunderline : headingUnderline? cs = some n) : throughLineEnd cs = n := by
  unfold headingUnderline? at hunderline
  split at hunderline
  · next c rest =>
    split at hunderline
    · next hmark =>
      have hc : IsInLine c := by
        rcases Bool.or_eq_true_iff.1 hmark with hc | hc <;>
          exact isInLine_of_beq (by decide) hc
      obtain ⟨m, hblank, rfl⟩ := Option.map_eq_some_iff.1 hunderline
      have hrun : StaysInLine (countRun c (c :: rest)) (c :: rest) :=
        staysInLine_countWhile (fun _ => isInLine_of_beq hc) _
      rw [hrun.throughLineEnd, throughLineEnd_of_blankLine? hblank]
    · contradiction
  · contradiction

theorem throughLineEnd_of_thematicBreak?_go {mark : Char} {marks length n : Nat}
    {cs : List Char}
    (hbreak : thematicBreak?.go mark marks length cs = some n) :
    n = length + throughLineEnd cs := by
  induction cs generalizing marks length with
  | nil =>
      rw [thematicBreak?.go] at hbreak
      split at hbreak
      · obtain rfl := Option.some.inj hbreak
        rfl
      · contradiction
  | cons c rest ih =>
      rw [thematicBreak?.go] at hbreak
      split at hbreak
      · next m hend =>
        rw [throughLineEnd_of_lineEnd? hend]
        split at hbreak
        · exact (Option.some.inj hbreak).symm
        · contradiction
      · next hend =>
        rw [throughLineEnd_cons ((lineEnd?_eq_none_iff c rest).1 hend)]
        split at hbreak
        · have := ih hbreak
          omega
        · split at hbreak
          · have := ih hbreak
            omega
          · contradiction

theorem throughLineEnd_of_thematicBreak? {cs : List Char} {n : Nat}
    (hbreak : thematicBreak? cs = some n) : throughLineEnd cs = n := by
  unfold thematicBreak? at hbreak
  split at hbreak
  · split at hbreak
    · simpa using (throughLineEnd_of_thematicBreak?_go hbreak).symm
    · contradiction
  · contradiction

theorem throughLineEnd_of_delimiterRow?_go {columns length : Nat}
    {fresh dashed barred : Bool} {cs : List Char} {row : Nat × Nat}
    (hrow : delimiterRow?.go columns length fresh dashed barred cs = some row) :
    row.2 = length + throughLineEnd cs := by
  induction cs generalizing columns length fresh dashed barred with
  | nil =>
      rw [delimiterRow?.go] at hrow
      simp only [Option.ite_none_right_eq_some, Option.some.injEq] at hrow
      rw [← hrow.2]
      rfl
  | cons c rest ih =>
      rw [delimiterRow?.go] at hrow
      split at hrow
      · next m hend =>
        simp only [Option.ite_none_right_eq_some, Option.some.injEq] at hrow
        rw [throughLineEnd_of_lineEnd? hend, ← hrow.2]
      · next hend =>
        rw [throughLineEnd_cons ((lineEnd?_eq_none_iff c rest).1 hend)]
        split_ifs at hrow
        all_goals
          have hlength := ih hrow
          omega

theorem throughLineEnd_of_delimiterRow? {cs : List Char} {row : Nat × Nat}
    (hrow : delimiterRow? cs = some row) : throughLineEnd cs = row.2 := by
  have hspaces : StaysInLine (countRun ' ' cs) cs :=
    staysInLine_countWhile (fun _ => isInLine_of_beq (by decide)) cs
  have hindent := hspaces.throughLineEnd
  unfold delimiterRow? at hrow
  simp only at hrow
  split at hrow
  · contradiction
  · split at hrow
    · next rest hbar =>
      rw [throughLineEnd_of_delimiterRow?_go hrow, hindent, hbar,
        throughLineEnd_cons (by decide)]
      omega
    · rw [throughLineEnd_of_delimiterRow?_go hrow, hindent]

theorem throughLineEnd_of_bars_go {count length n : Nat} {afterLast : List Char}
    {escaped : Bool} {cs : List Char}
    (hlength : (bars.go count afterLast length escaped cs).length = some n) :
    n = length + throughLineEnd cs := by
  induction cs generalizing count afterLast length escaped with
  | nil => contradiction
  | cons c rest ih =>
      rw [bars.go] at hlength
      split at hlength
      · next hc =>
        obtain ⟨m, hend⟩ : ∃ m, lineEnd? (c :: rest) = some m := by
          apply Option.ne_none_iff_exists'.1
          rw [Ne, lineEnd?_eq_none_iff]
          rintro ⟨hfeed, hreturn⟩
          simp [hfeed, hreturn] at hc
        rw [throughLineEnd_of_lineEnd? hend]
        simpa [hend] using hlength.symm
      · next hc =>
        have hinner : IsInLine c := by
          simpa [IsInLine] using hc
        rw [throughLineEnd_cons hinner]
        split at hlength <;>
          · have := ih hlength
            omega

theorem throughLineEnd_of_bars {cs : List Char} {n : Nat}
    (hlength : (bars cs).length = some n) :
    throughLineEnd cs = n := by
  simpa using (throughLineEnd_of_bars_go hlength).symm

end DocContract.Markdown
