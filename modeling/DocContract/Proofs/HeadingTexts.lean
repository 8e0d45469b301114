import DocContract.Proofs.ComputedBodies
import DocContract.Proofs.WrittenHtml
import Mathlib.Data.List.DropRight

/-!
# The text of a heading

A heading is read from its raw text alone, which begins with number signs or else ends with
an underline.  So an underlined text may not begin with a number sign, and it keeps its
underline if it does.  Number signs at the end are taken off behind a space, and only
there: behind a tab they are left.
-/

namespace DocContract

namespace Text

theorem dropEndWhile_sublist (p : Char → Bool) (text : List Char) :
    (dropEndWhile p text).Sublist text :=
  (List.rdropWhile_prefix p text : _ <+: text).sublist

theorem trim_sublist (text : List Char) : (trim text).Sublist text :=
  (dropEndWhile_sublist isBlank _).trans (List.dropWhile_sublist isBlank)

theorem dropEndWhile_append_of_pos {p : Char → Bool} (front : List Char) {back : List Char}
    (hback : ∀ c ∈ back, p c = true) :
    dropEndWhile p (front ++ back) = dropEndWhile p front := by
  rw [dropEndWhile, List.reverse_append,
    List.dropWhile_append_of_pos (by simpa using hback)]
  rfl

theorem dropEndWhile_eq_self {p : Char → Bool} {text : List Char}
    (hlast : ∀ c ∈ text.getLast?, p c = false) : dropEndWhile p text = text := by
  refine List.rdropWhile_eq_self_iff.2 fun hne => ?_
  simpa using hlast _ (List.getLast?_eq_some_getLast hne)

/-- A text that is trimmed has no blanks at its ends. -/
theorem ends_of_trim {text : List Char} (htrim : trim text = text) :
    (∀ c ∈ text.head?, isBlank c = false) ∧ ∀ c ∈ text.getLast?, isBlank c = false := by
  have hshorter : (trim text).length ≤ (trimStart text).length :=
    (dropEndWhile_sublist isBlank _).length_le
  have hstart : trimStart text = text := by
    refine (List.dropWhile_suffix isBlank).eq_of_length_le ?_
    rwa [htrim] at hshorter
  constructor
  · intro c hc
    have hhead := List.head?_dropWhile_not isBlank text
    rw [← trimStart, hstart, Option.mem_def.1 hc] at hhead
    simpa using hhead
  · intro c hc
    rw [trim, hstart] at htrim
    have hne : text ≠ [] := by
      rintro rfl
      contradiction
    have hlast := List.rdropWhile_eq_self_iff.1 htrim hne
    rw [List.getLast?_eq_some_getLast hne, Option.mem_some_iff] at hc
    simpa [hc] using hlast

theorem trim_of_ends {text : List Char} (hhead : ∀ c ∈ text.head?, isBlank c = false)
    (hlast : ∀ c ∈ text.getLast?, isBlank c = false) : trim text = text := by
  cases text with
  | nil => rfl
  | cons c text =>
      rw [trim, trimStart, List.dropWhile_cons_of_neg (by simp [hhead c rfl])]
      exact dropEndWhile_eq_self hlast

theorem trim_of_forall {text : List Char} (htext : ∀ c ∈ text, isBlank c = false) :
    trim text = text :=
  trim_of_ends (fun c hc => htext c (List.mem_of_mem_head? hc)) fun c hc =>
    htext c (List.mem_of_getLast? hc)

theorem trim_append_left {front : List Char} (hfront : ∀ c ∈ front, isBlank c = true)
    (text : List Char) : trim (front ++ text) = trim text := by
  rw [trim, trimStart, List.dropWhile_append_of_pos hfront]
  rfl

theorem trim_append_right (text : List Char) {back : List Char}
    (hback : ∀ c ∈ back, isBlank c = true) : trim (text ++ back) = trim text := by
  rw [trim, trim, trimStart, trimStart, List.dropWhile_append]
  split
  · next hblank =>
    rw [List.isEmpty_iff.1 hblank, List.dropWhile_eq_nil_iff.2 hback]
  · exact dropEndWhile_append_of_pos _ hback

end Text

namespace Prose

/-- A text without the number signs at its end, if it has no others or a space precedes
them. -/
def withoutClosing (text : List Char) : List Char :=
  let unclosed := Text.dropEndWhile (· == '#') text
  if unclosed.isEmpty || unclosed.getLast? == some ' ' then Text.trim unclosed else text

/-- The number signs at the end of a text make up the text, or a space precedes them. -/
def EndsWithMarks (text : List Char) : Prop :=
  ∃ (front : List Char) (count : Nat), 0 < count ∧
    text = front ++ List.replicate count '#' ∧
    (front = [] ∨ front.getLast? = some ' ')

theorem isBlank_of_mem_marks {count : Nat} :
    ∀ c ∈ List.replicate count '#', Text.isBlank c = false :=
  fun _ hc => List.eq_of_mem_replicate hc ▸ rfl

theorem beq_of_mem_marks {count : Nat} :
    ∀ c ∈ List.replicate count '#', (c == '#') = true :=
  fun _ hc => beq_iff_eq.2 (List.eq_of_mem_replicate hc)

theorem dropEndWhile_marks {front : List Char} (hfront : front.getLast? ≠ some '#')
    (count : Nat) :
    Text.dropEndWhile (· == '#') (front ++ List.replicate count '#') = front := by
  rw [Text.dropEndWhile_append_of_pos front beq_of_mem_marks]
  refine Text.dropEndWhile_eq_self fun c hc => beq_false_of_ne ?_
  rintro rfl
  exact hfront hc

/-- A text ends with some number signs, maybe with none. -/
theorem exists_marks (text : List Char) :
    ∃ (front : List Char) (count : Nat), text = front ++ List.replicate count '#' ∧
      front.getLast? ≠ some '#' := by
  induction text using List.reverseRecOn with
  | nil => exact ⟨[], 0, rfl, by simp⟩
  | append_singleton text c ih =>
      by_cases hc : c = '#'
      · obtain ⟨front, count, rfl, hfront⟩ := ih
        refine ⟨front, count + 1, ?_, hfront⟩
        rw [List.append_assoc, hc, ← List.replicate_succ']
      · exact ⟨text ++ [c], 0, by simp, by simpa using hc⟩

theorem endsWithMarks_append_iff {front : List Char} (hfront : front.getLast? ≠ some '#')
    (count : Nat) :
    EndsWithMarks (front ++ List.replicate count '#') ↔
      0 < count ∧ (front = [] ∨ front.getLast? = some ' ') := by
  constructor
  · rintro ⟨other, marks, hmarks, htext, hother⟩
    have hlast : other.getLast? ≠ some '#' := by rcases hother with h | h <;> simp [h]
    have hsame := congrArg (Text.dropEndWhile (· == '#')) htext
    rw [dropEndWhile_marks hfront, dropEndWhile_marks hlast] at hsame
    subst hsame
    have hcount : count = marks := by simpa using congrArg List.length htext
    exact ⟨hcount ▸ hmarks, hother⟩
  · exact fun ⟨hcount, hspace⟩ => ⟨front, count, hcount, rfl, hspace⟩

theorem withoutClosing_append {front : List Char} (hfront : front.getLast? ≠ some '#')
    (count : Nat) :
    withoutClosing (front ++ List.replicate count '#') =
      if front = [] ∨ front.getLast? = some ' ' then Text.trim front
      else front ++ List.replicate count '#' := by
  rw [withoutClosing, dropEndWhile_marks hfront]
  simp only [Bool.or_eq_true, List.isEmpty_iff, beq_iff_eq]

theorem withoutClosing_marks (count : Nat) :
    withoutClosing (List.replicate count '#') = [] :=
  withoutClosing_append (by simp : ([] : List Char).getLast? ≠ some '#') count

theorem withoutClosing_sublist (text : List Char) :
    (withoutClosing text).Sublist text := by
  simp only [withoutClosing]
  split
  · exact (Text.trim_sublist _).trans (Text.dropEndWhile_sublist _ _)
  · exact .refl text

theorem withoutClosing_eq_self_iff {text : List Char} (htrim : Text.trim text = text) :
    withoutClosing text = text ↔ ¬ EndsWithMarks text := by
  obtain ⟨front, count, rfl, hfront⟩ := exists_marks text
  rw [withoutClosing_append hfront, endsWithMarks_append_iff hfront]
  by_cases hspace : front = [] ∨ front.getLast? = some ' '
  · rw [if_pos hspace]
    cases count with
    | zero => simpa using htrim
    | succ count =>
        refine iff_of_false (fun hsame => ?_) (not_not.2 ⟨Nat.succ_pos count, hspace⟩)
        have hlength := (Text.trim_sublist front).length_le
        rw [hsame, List.length_append, List.length_replicate] at hlength
        omega
  · rw [if_neg hspace]
    exact iff_of_true rfl fun hends => hspace hends.2

theorem isBlank_of_spaces {space : List Char} (hspace : ∀ c ∈ space, c = ' ' ∨ c = '\t') :
    ∀ c ∈ space, Text.isBlank c = true := by
  intro c hc
  rcases hspace c hc with rfl | rfl <;> rfl

theorem withoutClosing_closed_iff {text space : List Char} {marks : Nat}
    (htrim : Text.trim text = text) (hne : text ≠ []) (hspace : space ≠ [])
    (hblank : ∀ c ∈ space, c = ' ' ∨ c = '\t') (hmarks : 0 < marks) :
    withoutClosing (text ++ space ++ List.replicate marks '#') = text ↔
      space.getLast? = some ' ' := by
  have hlast : (text ++ space).getLast? = space.getLast? :=
    List.getLast?_append_of_ne_nil _ hspace
  have hmark : (text ++ space).getLast? ≠ some '#' := by
    rw [hlast]
    intro hmark
    rcases hblank '#' (List.mem_of_getLast? hmark) with h | h <;> contradiction
  rw [withoutClosing_append hmark, hlast]
  by_cases hclosed : space.getLast? = some ' '
  · rw [if_pos (.inr hclosed)]
    refine iff_of_true ?_ hclosed
    exact (Text.trim_append_right text (isBlank_of_spaces hblank)).trans htrim
  · rw [if_neg (by simp [hne, hclosed])]
    refine iff_of_false (fun hsame => ?_) hclosed
    have hlength := congrArg List.length hsame
    rw [List.length_append, List.length_replicate, List.length_append] at hlength
    omega

/-! ## Texts behind number signs -/

theorem headingText_of_mark {raw tail : List Char} (hraw : Text.trim raw = '#' :: tail) :
    headingText raw = withoutClosing (Text.trim (tail.dropWhile (· == '#'))) := by
  rw [headingText, hraw]
  rfl

theorem headingText_numbered {level : Nat} (hlevel : 0 < level) {rest : List Char}
    (hlast : ∀ c ∈ rest.getLast?, Text.isBlank c = false) :
    headingText (List.replicate level '#' ++ ' ' :: rest) =
      withoutClosing (Text.trim rest) := by
  obtain ⟨level, rfl⟩ : ∃ fewer, level = fewer + 1 := ⟨level - 1, by omega⟩
  have hspace : ∀ c ∈ [' '], Text.isBlank c = true := isBlank_of_spaces (by simp)
  have htrim := Text.trim_append_left hspace rest
  by_cases hne : rest = []
  · have hmarks : Text.trim (List.replicate (level + 1) '#') =
        List.replicate (level + 1) '#' :=
      Text.trim_of_forall isBlank_of_mem_marks
    have hraw := (Text.trim_append_right _ hspace).trans hmarks
    rw [hne, headingText_of_mark hraw, List.dropWhile_eq_nil_iff.2 beq_of_mem_marks]
  · have hraw : Text.trim (List.replicate (level + 1) '#' ++ ' ' :: rest) =
        '#' :: (List.replicate level '#' ++ ' ' :: rest) := by
      refine Text.trim_of_ends (fun c hc => ?_) ?_
      · obtain rfl : '#' = c := by simpa [List.replicate_succ] using hc
        rfl
      · rwa [List.append_cons, List.getLast?_append_of_ne_nil _ hne]
    rw [headingText_of_mark hraw, List.dropWhile_append_of_pos beq_of_mem_marks,
      List.dropWhile_cons_of_neg (by simp), ← htrim]
    rfl

/-- What stands below the text of a heading. -/
structure IsUnderline (underline : List Char) : Prop where
  ne_nil : underline ≠ []
  marks : ∀ c ∈ underline, c = '=' ∨ c = '-'

theorem headingText_of_split {raw text underline : List Char} (hraw : Text.trim raw = raw)
    (hmark : raw.head? ≠ some '#') (hsplit : splitLastLine? raw = some (text, underline))
    (hall : (Text.trim underline).all (fun c => c == '=' || c == '-') = true) :
    headingText raw = Text.trim text := by
  simp only [headingText, hraw]
  split
  · contradiction
  · simp only [hsplit, hall, if_true]

namespace IsUnderline

variable {underline : List Char} (hunderline : IsUnderline underline)

include hunderline

theorem isBlank_eq_false : ∀ c ∈ underline, Text.isBlank c = false := by
  intro c hc
  rcases hunderline.marks c hc with rfl | rfl <;> rfl

theorem trim_append {text : List Char} (hhead : ∀ c ∈ text.head?, Text.isBlank c = false)
    (hne : text ≠ []) :
    Text.trim (text ++ '\n' :: underline) = text ++ '\n' :: underline := by
  refine Text.trim_of_ends ?_ ?_
  · rwa [List.head?_append_of_ne_nil _ hne]
  · intro c hc
    rw [List.append_cons, List.getLast?_append_of_ne_nil _ hunderline.ne_nil] at hc
    exact hunderline.isBlank_eq_false c (List.mem_of_getLast? hc)

theorem splitLastLine?_append (text : List Char) :
    splitLastLine? (text ++ '\n' :: underline) = some (text, underline) := by
  have hfeed : '\n' ∉ underline.reverse := by
    rw [List.mem_reverse]
    intro hfeed
    rcases hunderline.marks _ hfeed with h | h <;> contradiction
  rw [splitLastLine?, List.reverse_append, List.reverse_cons, List.append_assoc,
    List.singleton_append, Text.splitAt?_of_not_mem hfeed]
  simp

theorem headingText_eq {text : List Char} (htrim : Text.trim text = text) (hne : text ≠ [])
    (hmark : text.head? ≠ some '#') : headingText (text ++ '\n' :: underline) = text := by
  have hraw := hunderline.trim_append (Text.ends_of_trim htrim).1 hne
  have hall : (Text.trim underline).all (fun c => c == '=' || c == '-') = true := by
    simpa [Text.trim_of_forall hunderline.isBlank_eq_false] using hunderline.marks
  rw [headingText_of_split hraw ?_ (hunderline.splitLastLine?_append text) hall, htrim]
  rwa [List.head?_append_of_ne_nil _ hne]

/-- Behind a number sign the underline is not looked for, and a number sign is lost. -/
theorem headingText_ne {text : List Char} (hmark : text.head? = some '#') :
    headingText (text ++ '\n' :: underline) ≠ text := by
  obtain ⟨tail, rfl⟩ := List.head?_eq_some_iff.1 hmark
  have hhead : ∀ c ∈ ('#' :: tail).head?, Text.isBlank c = false := by
    intro c hc
    obtain rfl : '#' = c := by simpa using hc
    rfl
  have hraw := hunderline.trim_append hhead (List.cons_ne_nil _ _)
  have hnone : underline.count '#' = 0 := by
    refine List.count_eq_zero.2 fun hmem => ?_
    rcases hunderline.marks _ hmem with h | h <;> contradiction
  intro hsame
  have hfewer : (headingText ('#' :: tail ++ '\n' :: underline)).count '#' ≤
      (tail ++ '\n' :: underline).count '#' := by
    rw [headingText_of_mark hraw]
    refine List.Sublist.count_le '#' ?_
    exact (withoutClosing_sublist _).trans
      ((Text.trim_sublist _).trans (List.dropWhile_sublist _))
  rw [hsame, List.count_append, List.count_cons, List.count_cons, hnone] at hfewer
  have hfeed : ('\n' == '#') = false := rfl
  simp only [hfeed, beq_self_eq_true, if_true, Bool.false_eq_true, if_false] at hfewer
  omega

end IsUnderline

/-- The text between the marks of a heading is read as it stands if it does not begin with
a number sign above an underline, if it does not end with marks of its own and none follow,
and if the marks that follow it stand behind a space; and not otherwise. -/
theorem heading_text_exact {text : List Char} (htrim : Text.trim text = text) :
    (text ≠ [] → ∀ underline, IsUnderline underline →
      (headingText (text ++ '\n' :: underline) = text ↔ text.head? ≠ some '#')) ∧
    ∀ level > 0,
      (headingText (List.replicate level '#' ++ ' ' :: text) = text ↔
        ¬ EndsWithMarks text) ∧
      ∀ space marks, space ≠ [] → (∀ c ∈ space, c = ' ' ∨ c = '\t') → 0 < marks →
        (headingText (List.replicate level '#' ++
            ' ' :: (text ++ space ++ List.replicate marks '#')) = text ↔
          text = [] ∨ space.getLast? = some ' ') := by
  refine ⟨fun hne underline hunderline => ?_, fun level hlevel => ⟨?_, ?_⟩⟩
  · by_cases hmark : text.head? = some '#'
    · exact iff_of_false (hunderline.headingText_ne hmark) (not_not.2 hmark)
    · exact iff_of_true (hunderline.headingText_eq htrim hne hmark) hmark
  · rw [headingText_numbered hlevel (Text.ends_of_trim htrim).2, htrim,
      withoutClosing_eq_self_iff htrim]
  · intro space marks hspace hblank hmarks
    have hclosing : List.replicate marks '#' ≠ [] := by simpa using Nat.ne_of_gt hmarks
    have hlast : ∀ c ∈ (text ++ space ++ List.replicate marks '#').getLast?,
        Text.isBlank c = false := by
      intro c hc
      rw [List.getLast?_append_of_ne_nil _ hclosing] at hc
      exact isBlank_of_mem_marks c (List.mem_of_getLast? hc)
    rw [headingText_numbered hlevel hlast]
    by_cases hne : text = []
    · rw [hne, List.nil_append, Text.trim_append_left (isBlank_of_spaces hblank),
        Text.trim_of_forall isBlank_of_mem_marks, withoutClosing_marks]
      exact iff_of_true rfl (.inl rfl)
    · have hhead : ∀ c ∈ (text ++ space ++ List.replicate marks '#').head?,
          Text.isBlank c = false := by
        rw [List.append_assoc, List.head?_append_of_ne_nil _ hne]
        exact (Text.ends_of_trim htrim).1
      rw [Text.trim_of_ends hhead hlast,
        withoutClosing_closed_iff htrim hne hspace hblank hmarks, or_iff_right hne]

theorem heading_text_exact_sharp :
    let text := "#1 C#".toList
    Text.trim text = text ∧ headingText (text ++ '\n' :: List.replicate 3 '-') ≠ text ∧
      headingText
        (List.replicate 2 '#' ++ ' ' :: (text ++ ['\t', ' '] ++ List.replicate 3 '#')) =
        text := by
  intro text
  have htrim : Text.trim text = text := by decide +kernel
  obtain ⟨hunderlined, hnumbered⟩ := heading_text_exact htrim
  have hne : text ≠ [] := by decide +kernel
  have hmark : text.head? = some '#' := by decide +kernel
  have hunderline : IsUnderline (List.replicate 3 '-') :=
    ⟨by decide, fun _ hc => .inr (List.eq_of_mem_replicate hc)⟩
  refine ⟨htrim, fun hsame => (hunderlined hne _ hunderline).1 hsame hmark, ?_⟩
  exact ((hnumbered 2 (by decide)).2 _ 3 (by decide) (by simp) (by decide)).2 (.inr rfl)

/-- Both are headings: the first keeps its underline, and the second the number sign behind
a tab. -/
theorem heading_marks_kept :
    let hashtag := "#hashtag".toList
    let title := "Title".toList
    let underline := List.replicate 3 '='
    Text.trim hashtag = hashtag ∧ IsUnderline underline ∧
      headingText (hashtag ++ '\n' :: underline) ≠ hashtag ∧
      Text.trim title = title ∧ '#' ∉ title ∧
      headingText (List.replicate 1 '#' ++ ' ' ::
        (title ++ ['\t'] ++ List.replicate 1 '#')) ≠ title ∧
      bodyElements Markdown.read (String.ofList "#hashtag\n===\n\n# Title\t#\n".toList) =
        .ok [textElement .heading "hashtag\n===".toList,
          textElement .heading "Title\t#".toList] := by
  have hunderline : IsUnderline (List.replicate 3 '=') :=
    ⟨by decide, fun _ hc => .inl (List.eq_of_mem_replicate hc)⟩
  refine ⟨by decide +kernel, hunderline,
    by decide +kernel, by decide +kernel, by decide +kernel, by decide +kernel, ?_⟩
  exact bodyElements_of_spells (.literal _) (by decide +kernel)

end Prose

end DocContract
