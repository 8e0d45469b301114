import DocContract.Proofs.BodyComposition
import DocContract.Proofs.BlockExtents
import Mathlib.Data.List.Basic

/-!
# Fences told line by line

The lines of a run are told apart at line feeds, and the fences in them by what is left of
a line without blanks.  The reader of blocks ends lines at carriage returns too, and takes
spaces and tabs only for blanks.  On lines without such differences both see the same
fences.
-/

namespace DocContract

open Markdown

/-- A line, or what is left of it, ends in front of a text where the reader of blocks ends
it. -/
def Line.IsRead (line : Line) (after : List Char) : Prop :=
  ∃ inner ending, line = inner ++ ending ∧ (∀ c ∈ inner, IsInLine c) ∧
    (ending = ['\n'] ∨ ending = ['\r', '\n'] ∨ ending = [] ∧ after = [])

theorem Text.withoutLineEnd_append (line : List Char) :
    ∃ ending, line = withoutLineEnd line ++ ending ∧
      (ending = ['\n'] ∨ ending = ['\r', '\n'] ∨ ending = [] ∧
       line.getLast? ≠ some '\n') := by
  unfold withoutLineEnd
  split
  · next rest hrest =>
    exact ⟨['\r', '\n'], by simpa using congrArg List.reverse hrest, .inr (.inl rfl)⟩
  · next rest hreturn hrest =>
    exact ⟨['\n'], by simpa using congrArg List.reverse hrest, .inl rfl⟩
  · next hfeed hreturn =>
    refine ⟨[], by simp, .inr (.inr ⟨rfl, fun hlast => ?_⟩)⟩
    rw [← List.head?_reverse] at hlast
    obtain ⟨rest, hrest⟩ := List.head?_eq_some_iff.1 hlast
    exact hreturn rest hrest

namespace Line.IsRead

variable {line : Line} {after : List Char}

/-- A line without a second line feed, and with a carriage return at its end at most. -/
theorem of_returns {line : Line} {after : List Char} (hfeed : '\n' ∉ line.dropLast)
    (hreturns : '\r' ∉ Text.withoutLineEnd line) (hlast : '\n' ∉ line → after = []) :
    line.IsRead after := by
  obtain ⟨ending, hline, hending⟩ := Text.withoutLineEnd_append line
  generalize Text.withoutLineEnd line = inner at hline hreturns
  subst hline
  have hinner (hfeed : '\n' ∉ inner) : ∀ c ∈ inner, IsInLine c := fun c hc =>
    ⟨ne_of_mem_of_not_mem hc hfeed, ne_of_mem_of_not_mem hc hreturns⟩
  rcases hending with rfl | rfl | ⟨rfl, hend⟩
  · rw [List.dropLast_concat] at hfeed
    exact ⟨inner, ['\n'], rfl, hinner hfeed, .inl rfl⟩
  · have hdrop : (inner ++ ['\r', '\n']).dropLast = inner ++ ['\r'] := by
      rw [List.append_cons, List.dropLast_concat]
    rw [hdrop, List.mem_append, not_or] at hfeed
    exact ⟨inner, ['\r', '\n'], rfl, hinner hfeed.1, .inr (.inl rfl)⟩
  · rw [List.append_nil] at hfeed hlast hend
    have hnone : '\n' ∉ inner := fun hmem =>
      hfeed (List.mem_dropLast_of_mem_of_ne_getLast? hmem (Ne.symm hend))
    exact ⟨inner, [], rfl, hinner hnone, .inr (.inr ⟨rfl, hlast hnone⟩)⟩

theorem of_cons {c : Char} (hread : IsRead (c :: line) after) (hc : IsInLine c) :
    line.IsRead after := by
  obtain ⟨inner, ending, hline, hinner, hending⟩ := hread
  cases inner with
  | nil =>
      rw [List.nil_append] at hline
      subst hline
      rcases hending with heq | heq | ⟨heq, -⟩ <;> simp_all [IsInLine]
  | cons d inner =>
      obtain ⟨rfl, rfl⟩ := List.cons.inj hline
      exact ⟨inner, ending, rfl, (List.forall_mem_cons.1 hinner).2, hending⟩

theorem after_eq_nil (hread : IsRead [] after) : after = [] := by
  obtain ⟨inner, ending, hline, -, hending⟩ := hread
  obtain ⟨rfl, rfl⟩ := List.append_eq_nil_iff.1 hline.symm
  simpa using hending

/-- What stands at the front of the text and does not end a line stands at the front of the
line. -/
theorem exists_append {front back : List Char} (hread : line.IsRead after)
    (hfront : ∀ c ∈ front, IsInLine c) (htext : line ++ after = front ++ back) :
    ∃ rest, line = front ++ rest ∧ back = rest ++ after ∧ IsRead rest after := by
  induction front generalizing line with
  | nil => exact ⟨line, rfl, htext.symm, hread⟩
  | cons c front ih =>
      rw [List.forall_mem_cons] at hfront
      cases line with
      | nil => simp [hread.after_eq_nil] at htext
      | cons d line =>
          rw [List.cons_append, List.cons_append, List.cons.injEq] at htext
          obtain ⟨rfl, htext⟩ := htext
          obtain ⟨rest, rfl, hback, hrest⟩ := ih (hread.of_cons hfront.1) hfront.2 htext
          exact ⟨rest, rfl, hback, hrest⟩

theorem of_replicate {width : Nat} {rest : List Char}
    (hread : IsRead (List.replicate width ' ' ++ rest) after) : IsRead rest after := by
  induction width with
  | zero => exact hread
  | succ width ih =>
      rw [List.replicate_succ, List.cons_append] at hread
      exact ih (hread.of_cons (by decide))

theorem span_append {p : Char → Bool} (hp : ∀ c, p c = true → IsInLine c)
    (hread : line.IsRead after) :
    (line ++ after).takeWhile p = line.takeWhile p ∧
      (line ++ after).dropWhile p = line.dropWhile p ++ after ∧
      IsRead (line.dropWhile p) after := by
  induction line with
  | nil =>
      obtain rfl := hread.after_eq_nil
      simpa using hread
  | cons c line ih =>
      by_cases hc : p c = true
      · simpa [List.takeWhile_cons, List.dropWhile_cons, hc] using ih
          (hread.of_cons (hp c hc))
      · simpa [List.takeWhile_cons, List.dropWhile_cons, hc] using hread

theorem throughLineEnd_append (hread : line.IsRead after) :
    throughLineEnd (line ++ after) = line.length := by
  obtain ⟨inner, ending, rfl, hinner, hending⟩ := hread
  rw [List.append_assoc, Markdown.throughLineEnd_append hinner, List.length_append]
  rcases hending with rfl | rfl | ⟨rfl, rfl⟩ <;> simp [throughLineEnd, lineEnd?]

theorem throughLineFeed_append (hread : line.IsRead after) :
    throughLineFeed (line ++ after) = line.length := by
  obtain ⟨inner, ending, rfl, hinner, hending⟩ := hread
  rw [List.append_assoc, Markdown.throughLineFeed_append hinner, List.length_append]
  rcases hending with rfl | rfl | ⟨rfl, rfl⟩ <;> simp [throughLineFeed]

/-- The end of a line does not count when a mark is looked for in it. -/
theorem contains_takeWhile {mark : Char} (hread : line.IsRead after)
    (hmark : IsInLine mark) :
    ((line ++ after).takeWhile (· != '\n')).contains mark = line.contains mark := by
  obtain ⟨inner, ending, rfl, hinner, hending⟩ := hread
  have hfront : ∀ c ∈ inner, (c != '\n') = true := fun c hc => by
    simpa using (hinner c hc).1
  rw [List.append_assoc, List.takeWhile_append_of_pos hfront]
  rcases hending with rfl | rfl | ⟨rfl, rfl⟩ <;> simp [hmark.1, hmark.2]

theorem atLineEnd_iff (hread : line.IsRead after) :
    atLineEnd (line ++ after) = true ↔ ∀ c ∈ line, c = '\r' ∨ c = '\n' := by
  obtain ⟨inner, ending, rfl, hinner, hending⟩ := hread
  cases inner with
  | nil => rcases hending with rfl | rfl | ⟨rfl, rfl⟩ <;> simp [atLineEnd, lineEnd?]
  | cons c inner =>
      have hc := hinner c (List.mem_cons_self ..)
      have hnone := (lineEnd?_eq_none_iff c (inner ++ ending ++ after)).2 hc
      simp only [List.cons_append, atLineEnd, hnone, Option.isSome_none,
        Bool.false_eq_true, false_iff, List.forall_mem_cons, not_and_or, not_or]
      exact .inl ⟨hc.2, hc.1⟩

end Line.IsRead

theorem Line.le_indentation_go (width : Nat) (cs : List Char) :
    width ≤ indentation.go width cs := by
  induction cs generalizing width with
  | nil => exact le_rfl
  | cons c cs ih =>
      rw [indentation.go]
      split
      · exact (Nat.le_succ _).trans (ih _)
      · split
        · exact (Nat.le_add_right _ _).trans (ih _)
        · exact le_rfl

theorem Line.indentation_go_replicate (width count : Nat) (cs : List Char) :
    indentation.go width (List.replicate count ' ' ++ cs) =
      indentation.go (width + count) cs := by
  induction count generalizing width with
  | zero => rfl
  | succ count ih =>
      rw [List.replicate_succ, List.cons_append, indentation.go, if_pos rfl, ih,
        Nat.add_assoc, Nat.add_comm 1]

/-- A margin that ends in neither a space nor a tab is as wide as it is long. -/
theorem Line.indentation_replicate (width : Nat) {c : Char} (rest : List Char)
    (hspace : c ≠ ' ')
    (htab : c ≠ '\t') : indentation (List.replicate width ' ' ++ c :: rest) = width := by
  rw [indentation, indentation_go_replicate, indentation.go, if_neg hspace, if_neg htab,
    Nat.zero_add]

theorem Line.four_le_indentation {width : Nat} {rest : List Char} :
    4 ≤ indentation (List.replicate width ' ' ++ '\t' :: rest) := by
  have hgo := le_indentation_go (0 + width + (4 - (0 + width) % 4)) rest
  rw [indentation, indentation_go_replicate, indentation.go]
  rw [if_neg (by decide), if_pos rfl]
  omega

theorem Line.width_le_indentation {width : Nat} {cs : List Char} :
    width ≤ indentation (List.replicate width ' ' ++ cs) := by
  rw [indentation, indentation_go_replicate]
  simpa using le_indentation_go (0 + width) cs

theorem Text.isBlank_of_mem_replicate (width : Nat) :
    ∀ d ∈ List.replicate width ' ', isBlank d = true :=
  fun _ hd => (List.mem_replicate.1 hd).2 ▸ rfl

theorem Text.trimStart_replicate (width : Nat) {c : Char} (rest : List Char)
    (hc : isBlank c = false) :
    trimStart (List.replicate width ' ' ++ c :: rest) = c :: rest := by
  rw [trimStart, List.dropWhile_append_of_pos (isBlank_of_mem_replicate width),
    List.dropWhile_cons_of_neg (by simp [hc])]

/-- The marks that fences are made of. -/
def IsFenceMark (mark : Char) : Prop :=
  mark = '\x60' ∨ mark = '~'

theorem IsFenceMark.isBlank_eq_false {mark : Char} (hmark : IsFenceMark mark) :
    Text.isBlank mark = false := by
  rcases hmark with rfl | rfl <;> rfl

theorem IsFenceMark.isInLine {mark : Char} (hmark : IsFenceMark mark) : IsInLine mark := by
  rcases hmark with rfl | rfl <;> decide

/-- Behind a narrow margin a line opens the fence that the reader of blocks finds there. -/
theorem Fence.opened?_replicate {width : Nat} {mark : Char} {rest after : List Char}
    (hmark : IsFenceMark mark) (hwidth : width < 4)
    (hread : Line.IsRead (mark :: rest) after) :
    Fence.opened? (List.replicate width ' ' ++ mark :: rest) =
      (codeFence? (mark :: rest ++ after)).map fun (mark, size) => { mark, size } := by
  have hspace : mark ≠ ' ' ∧ mark ≠ '\t' := by rcases hmark with rfl | rfl <;> decide
  obtain ⟨hmarks, htail, hinfo⟩ :=
    hread.span_append (p := (· == mark)) fun _ => isInLine_of_beq hmark.isInLine
  have hcontains := @Line.IsRead.contains_takeWhile _ _ '\x60' hinfo (by decide)
  rw [← htail] at hcontains
  have htrim := Text.trimStart_replicate width rest hmark.isBlank_eq_false
  have hindent := Line.indentation_replicate width rest hspace.1 hspace.2
  have hbeq : (mark == '\x60' || mark == '~') = true := by
    rcases hmark with rfl | rfl <;> rfl
  rw [Fence.opened?, if_neg (by omega), htrim, List.cons_append, codeFence?]
  simp only [hbeq, Bool.true_and, if_true, countRun, drop_countWhile]
  simp only [countWhile_eq_length_takeWhile, ← List.cons_append, hmarks, hcontains]
  generalize (List.takeWhile (· == mark) (mark :: rest)).length = size
  generalize (List.dropWhile (· == mark) (mark :: rest)).contains '\x60' = ticked
  cases hticks : mark == '\x60' && ticked with
  | true => simp
  | false =>
      by_cases hsize : 3 ≤ size
      · simp [hsize, Nat.not_lt.2 hsize]
      · simp [hsize, Nat.lt_of_not_ge hsize]

/-- The marks of a fence stand behind spaces and tabs only, if a line begins with such
marks; and if nothing but blanks follows them, these are spaces.  Carriage returns stand in
front of line feeds. -/
structure Line.IsPlain (line : Line) : Prop where
  returns : '\r' ∉ Text.withoutLineEnd line
  margin : ∀ mark ∈ (Text.trimStart line).head?, IsFenceMark mark →
    ∀ c ∈ line.takeWhile Text.isBlank, c = ' ' ∨ c = '\t'
  ending : ∀ mark ∈ (Text.trimStart line).head?, IsFenceMark mark →
    Text.isBlankText ((Text.trimStart line).dropWhile (· == mark)) = true →
      ∀ c ∈ (Text.trimStart line).dropWhile (· == mark), c = ' ' ∨ c = '\r' ∨ c = '\n'

theorem Text.withoutLineEnd_append_ending {start ending : List Char}
    (hstart : ∀ c ∈ start.getLast?, c ≠ '\n' ∧ c ≠ '\r')
    (hending : ending = [] ∨ ending = ['\n'] ∨ ending = ['\r', '\n']) :
    withoutLineEnd (start ++ ending) = start := by
  rcases List.eq_nil_or_concat start with rfl | ⟨init, c, rfl⟩
  · rcases hending with rfl | rfl | rfl <;> rfl
  · obtain ⟨hfeed, hreturn⟩ := hstart c (by simp)
    rcases hending with rfl | rfl | rfl <;> simp [withoutLineEnd, hfeed, hreturn]

/-- A line is plain if all blanks in front of its end are spaces. -/
theorem Line.isPlain_of_spaces {start ending : List Char}
    (hstart : (start.all fun c => !Text.isBlank c || c == ' ') = true)
    (hending : ending = [] ∨ ending = ['\n'] ∨ ending = ['\r', '\n']) :
    IsPlain (start ++ ending) := by
  have hspaces : ∀ c ∈ start, Text.isBlank c = true → c = ' ' := by
    intro c hc hblank
    simpa [hblank] using List.all_eq_true.1 hstart c hc
  have hends : ∀ c ∈ ending, c = '\r' ∨ c = '\n' := by
    rcases hending with rfl | rfl | rfl <;> simp
  refine ⟨fun hreturn => ?_, fun mark hhead hmark c hc => ?_,
    fun mark hhead hmark hblank c hc => ?_⟩
  · have hwithout : Text.withoutLineEnd (start ++ ending) = start := by
      refine Text.withoutLineEnd_append_ending (fun c hlast => ?_) hending
      have hc := hspaces c (List.mem_of_getLast? hlast)
      constructor <;>
        · rintro rfl
          exact absurd (hc rfl) (by decide)
    rw [hwithout] at hreturn
    exact absurd (hspaces '\r' hreturn rfl) (by decide)
  · rw [List.takeWhile_append] at hc
    split at hc
    · -- A line of blanks has no mark.
      next hall =>
      have hstart := (List.takeWhile_prefix Text.isBlank).eq_of_length hall
      have hblank : Text.isBlankText (start ++ ending) = true := by
        refine List.all_eq_true.2 fun d hd =>
          (List.mem_append.1 hd).elim (fun hd => ?_) fun hd => ?_
        · exact List.mem_takeWhile_imp (hstart ▸ hd)
        · rcases hends d hd with rfl | rfl <;> rfl
      rw [Text.trimStart_of_isBlankText hblank] at hhead
      contradiction
    · exact .inl
        (hspaces c ((List.takeWhile_sublist _).subset hc) (List.mem_takeWhile_imp hc))
  · have hmem : c ∈ start ++ ending :=
      (List.dropWhile_sublist _).subset ((List.dropWhile_sublist _).subset hc)
    rcases List.mem_append.1 hmem with hstart | hend
    · exact .inl (hspaces c hstart (List.all_eq_true.1 hblank c hc))
    · exact .inr (hends c hend)

/-- A line with some spaces in front of anything else. -/
theorem Line.exists_replicate {line : Line} (hline : ∃ c ∈ line, c ≠ ' ') :
    ∃ width c rest, line = List.replicate width ' ' ++ c :: rest ∧ c ≠ ' ' := by
  induction line with
  | nil => simp at hline
  | cons d line ih =>
      by_cases hd : d = ' '
      · obtain ⟨c, hc, hspace⟩ := hline
        have hlater : c ∈ line :=
          (List.mem_cons.1 hc).resolve_left fun heq => hspace (heq ▸ hd)
        obtain ⟨width, e, rest, rfl, he⟩ := ih ⟨c, hlater, hspace⟩
        exact ⟨width + 1, e, rest, by rw [List.replicate_succ, List.cons_append, hd], he⟩
      · exact ⟨0, d, line, rfl, hd⟩

/-- In a plain line nothing but spaces stands in front of the marks that it begins with. -/
theorem Line.IsPlain.eq_of_trimStart {width : Nat} {c mark : Char} {rest tail : List Char}
    (hplain : IsPlain (List.replicate width ' ' ++ c :: rest)) (hspace : c ≠ ' ')
    (htab : c ≠ '\t')
    (htrim : Text.trimStart (List.replicate width ' ' ++ c :: rest) = mark :: tail)
    (hmark : IsFenceMark mark) : c = mark ∧ rest = tail := by
  have hblank : Text.isBlank c = false := by
    by_contra hblank
    have hmem : c ∈ (List.replicate width ' ' ++ c :: rest).takeWhile Text.isBlank := by
      rw [List.takeWhile_append_of_pos (Text.isBlank_of_mem_replicate width),
        List.takeWhile_cons_of_pos (by simpa using hblank)]
      simp
    exact (hplain.margin mark (by rw [htrim]; rfl) hmark c hmem).elim hspace htab
  rw [Text.trimStart_replicate width rest hblank] at htrim
  exact List.cons.inj htrim

theorem Fence.trimStart_of_opened? {line : Line} {fence : Fence}
    (hopened : Fence.opened? line = some fence) :
    line.indentation ≤ 3 ∧ ∃ mark tail, Text.trimStart line = mark :: tail ∧
      IsFenceMark mark := by
  unfold opened? at hopened
  split at hopened
  · contradiction
  · next hnarrow =>
    refine ⟨Nat.le_of_not_lt hnarrow, ?_⟩
    split at hopened
    · contradiction
    · next mark tail htrim =>
      refine ⟨mark, tail, htrim, ?_⟩
      simp only [Option.ite_none_right_eq_some, Bool.and_eq_true,
        Bool.or_eq_true, beq_iff_eq]
        at hopened
      exact hopened.1.1.1

theorem Text.exists_ne_space_of_trimStart {line tail : List Char} {mark : Char}
    (htrim : trimStart line = mark :: tail) (hmark : IsFenceMark mark) :
    ∃ c ∈ line, c ≠ ' ' := by
  refine ⟨mark, ?_, ?_⟩
  · exact (List.dropWhile_sublist _).subset (htrim ▸ List.mem_cons_self ..)
  · rintro rfl
    rcases hmark with h | h <;> simp at h

/-- A margin of less than four columns consists of that many spaces. -/
theorem Line.lt_four_of_indentation {width : Nat} {c : Char} {rest : List Char}
    (hindent : indentation (List.replicate width ' ' ++ c :: rest) ≤ 3) :
    width < 4 ∧ c ≠ '\t' := by
  refine ⟨Nat.lt_succ_of_le (width_le_indentation.trans hindent), ?_⟩
  rintro rfl
  exact absurd (four_le_indentation.trans hindent) (by decide)

/-- Where a plain line opens a fence, the reader of blocks finds one behind a narrow
margin. -/
theorem Line.IsPlain.ahead_of_opened? {line : Line} {after : List Char} {fence : Fence}
    (hplain : line.IsPlain) (hread : line.IsRead after)
    (hopened : Fence.opened? line = some fence) :
    Ahead StartsFence (line ++ after) := by
  obtain ⟨hindent, mark, tail, htrim, hmark⟩ := Fence.trimStart_of_opened? hopened
  obtain ⟨width, c, rest, rfl, hspace⟩ :=
    exists_replicate (Text.exists_ne_space_of_trimStart htrim hmark)
  obtain ⟨hwidth, htab⟩ := lt_four_of_indentation hindent
  obtain ⟨rfl, rfl⟩ := hplain.eq_of_trimStart hspace htab htrim hmark
  have hrest := hread.of_replicate
  rw [Fence.opened?_replicate hmark hwidth hrest] at hopened
  have hfence := Option.isSome_of_eq_some hopened
  rw [Option.isSome_map] at hfence
  exact ⟨width, c :: rest ++ after, by rw [List.append_assoc], hwidth, hfence⟩

/-- Only a line that opens a fence has one behind its margin. -/
theorem Fence.opened?_of_ahead {line : Line} {width size : Nat} {mark : Char}
    {after cs : List Char} (hread : line.IsRead after) (hwidth : width < 4)
    (htext : line ++ after = List.replicate width ' ' ++ cs)
    (hfence : codeFence? cs = some (mark, size)) :
    Fence.opened? line = some { mark, size } := by
  have hstarts : StartsFence cs := Option.isSome_of_eq_some hfence
  obtain ⟨c, tail, rfl, hmark⟩ := hstarts.exists_cons
  have hfront : ∀ d ∈ List.replicate width ' ' ++ [c], IsInLine d := by
    intro d hd
    rcases List.mem_append.1 hd with hd | hd
    · rw [(List.mem_replicate.1 hd).2]
      decide
    · rw [List.mem_singleton.1 hd]
      exact IsFenceMark.isInLine hmark
  obtain ⟨rest, rfl, rfl, hrest⟩ := hread.exists_append hfront (by simpa using htext)
  rw [List.append_assoc, List.singleton_append] at hread ⊢
  rw [opened?_replicate hmark hwidth hread.of_replicate, List.cons_append, hfence]
  rfl

/-! ## Closing fences -/

namespace Markdown.LineStart

theorem indent_of_pending {line : LineStart} (hpending : line.pending = 0) (n : Nat) :
    line.indent n = indentFrom line.place.offset line.column n line.place.rest := by
  rw [indent, hpending, Nat.sub_zero]
  split
  · next hn =>
    obtain rfl := Nat.le_zero.1 hn
    rcases line with ⟨⟨offset, rest⟩, column, pending⟩
    obtain rfl : pending = 0 := hpending
    simp [indentFrom]
  · rfl

theorem indentFrom_spaces (offset column : Nat) {n margin : Nat} (cs : List Char)
    (hn : n ≤ margin) :
    indentFrom offset column n (List.replicate margin ' ' ++ cs) =
      (0,
        { place := { offset := offset + n, rest := List.replicate (margin - n) ' ' ++ cs }
          column := column + n
          pending := 0 }) := by
  induction n generalizing offset column margin with
  | zero => simp [indentFrom]
  | succ n ih =>
      obtain ⟨margin, rfl⟩ := Nat.exists_eq_add_of_le' hn
      rw [show margin + (n + 1) = (margin + n) + 1 from rfl, List.replicate_succ,
        List.cons_append, indentFrom, if_pos rfl, ih _ _ (Nat.le_add_left n margin)]
      simp [Nat.add_assoc, Nat.add_comm 1]

/-- Four columns are there when a tab comes before them. -/
theorem indentFrom_tab (offset : Nat) {column n : Nat} (margin : Nat) (rest : List Char)
    (hcolumn : column + n = 4) :
    (indentFrom offset column n (List.replicate margin ' ' ++ '\t' :: rest)).1 = 0 := by
  induction margin generalizing offset column n with
  | zero =>
      cases n with
      | zero => rw [indentFrom]
      | succ n =>
          have hwidth : 4 - column % 4 = n + 1 := by omega
          simp [indentFrom, hwidth]
  | succ margin ih =>
      cases n with
      | zero => rw [indentFrom]
      | succ n =>
          rw [List.replicate_succ, List.cons_append, indentFrom, if_pos rfl]
          exact ih _ (by omega)

/-- Columns of a tab that are not used are left for the next margin. -/
theorem pending_indentFrom_tab (offset : Nat) {column n margin : Nat} (rest : List Char)
    (hmargin : margin < n) (hcolumn : column + n ≤ 4) :
    (indentFrom offset column n (List.replicate margin ' ' ++ '\t' :: rest)).2.pending =
      4 - (column + n) := by
  induction margin generalizing offset column n with
  | zero =>
      obtain ⟨n, rfl⟩ := Nat.exists_eq_succ_of_ne_zero (Nat.ne_of_gt hmargin)
      have hwidth : 4 - column % 4 = 4 - column := by omega
      rw [List.replicate_zero, List.nil_append, indentFrom, if_neg (by decide), if_pos rfl]
      simp only [hwidth]
      split
      · exact Nat.sub_sub _ _ _
      · next hfull =>
        have hzero : n + 1 - (4 - column) = 0 := by omega
        rw [hzero, indentFrom]
        simp only
        omega
  | succ margin ih =>
      obtain ⟨n, rfl⟩ :=
        Nat.exists_eq_succ_of_ne_zero (Nat.ne_of_gt (Nat.zero_lt_of_lt hmargin))
      rw [List.replicate_succ, List.cons_append, indentFrom, if_pos rfl,
        ih _ (Nat.lt_of_succ_lt_succ hmargin) (by omega)]
      omega

/-- Reading a margin in two steps reads it up to four columns; a tab always fills them
up. -/
theorem indent_indent {place : Place} {width margin : Nat} {c : Char} {rest : List Char}
    (hwidth : width < 4) (hrest : place.rest = List.replicate margin ' ' ++ c :: rest)
    (hspace : c ≠ ' ') :
    let (missing, close) := ((atPlace place).indent width).2.indent (4 - width)
    if margin < 4 ∧ c ≠ '\t' then missing ≠ 0 ∧ close.place = place.advance margin
    else missing = 0 := by
  have hfirst : (atPlace place).indent width =
      indentFrom place.offset 0 width place.rest :=
    indent_of_pending rfl width
  simp only [hfirst, hrest]
  split
  · next hnarrow =>
    have hc : c ≠ ' ' ∧ c ≠ '\t' := ⟨hspace, hnarrow.2⟩
    rw [indentFrom_replicate _ _ _ _ _ hc, indent_of_pending rfl,
      indentFrom_replicate _ _ _ _ _ hc]
    refine ⟨by simp only; omega, ?_⟩
    have hzero : margin - width - (4 - width) = 0 := by omega
    ext1
    · simp only [Place.advance_offset]
      omega
    · simp [hrest, hzero]
  · next hwide =>
    by_cases hmargin : 4 ≤ margin
    · rw [indentFrom_spaces _ _ _ ((Nat.le_of_lt hwidth).trans hmargin),
        indent_of_pending rfl, indentFrom_spaces _ _ _ (by omega)]
    · obtain rfl : c = '\t' := by
        by_contra htab
        exact hwide ⟨Nat.lt_of_not_le hmargin, htab⟩
      by_cases hinside : width ≤ margin
      · rw [indentFrom_spaces _ _ _ hinside, indent_of_pending rfl]
        exact indentFrom_tab _ _ _ (by simp only; omega)
      · have hpending :=
          pending_indentFrom_tab place.offset rest (Nat.lt_of_not_le hinside)
            (show 0 + width ≤ 4 by omega)
        rw [indent, if_pos (by omega)]

end Markdown.LineStart

theorem Markdown.isSome_blankLine?_of_atLineEnd {cs : List Char}
    (hend : atLineEnd cs = true) :
    (blankLine? cs).isSome = true := by
  cases cs with
  | nil => rfl
  | cons c rest =>
      have hspace : isInlineSpace c = false := by
        by_contra hspace
        rw [Bool.not_eq_false] at hspace
        rw [atLineEnd, (lineEnd?_eq_none_iff c rest).2 (isInLine_of_isInlineSpace hspace)]
          at hend
        contradiction
      simpa [blankLine?, countWhile, hspace, atLineEnd] using hend

/-- A closing fence is followed by nothing but blanks. -/
theorem Markdown.staysInLine_of_closingFence? {mark : Char} {size n : Nat} {cs : List Char}
    (hmark : IsInLine mark) (hclose : closingFence? mark size cs = some n) :
    StaysInLine n cs ∧ (blankLine? (cs.drop n)).isSome = true := by
  unfold closingFence? at hclose
  split at hclose
  · obtain rfl := Option.some.inj hclose
    exact ⟨.zero _, rfl⟩
  · simp only [Option.ite_none_right_eq_some, Bool.and_eq_true, Option.some.injEq]
      at hclose
    obtain ⟨⟨-, hend⟩, rfl⟩ := hclose
    have hmarks : StaysInLine (countRun mark cs) cs :=
      staysInLine_countWhile (fun _ => isInLine_of_beq hmark) cs
    have hblanks : StaysInLine (countRun ' ' (cs.drop (countRun mark cs)))
        (cs.drop (countRun mark cs)) :=
      staysInLine_countWhile (fun _ => isInLine_of_beq (by decide)) _
    exact ⟨hmarks.add hblanks, isSome_blankLine?_of_atLineEnd hend⟩

namespace Line.IsPlain

variable {margin size : Nat} {c mark : Char} {rest after : List Char}

/-- What follows the marks of a fence in a plain line ends the line if it is blank. -/
theorem blank_iff {tail : List Char} (hread : Line.IsRead tail after)
    (hplain : Text.isBlankText tail = true → ∀ d ∈ tail, d = ' ' ∨ d = '\r' ∨ d = '\n') :
    Text.isBlankText tail = true ↔ ∀ d ∈ tail.dropWhile (· == ' '), d = '\r' ∨
      d = '\n' := by
  constructor
  · intro hblank
    obtain ⟨-, -, hlater⟩ :=
      hread.span_append (p := (· == ' ')) fun _ => isInLine_of_beq (by decide)
    obtain ⟨inner, ending, hsplit, hinner, hending⟩ := hlater
    cases inner with
    | nil =>
        rw [hsplit]
        rcases hending with rfl | rfl | ⟨rfl, -⟩ <;> simp
    | cons d inner =>
        -- The first character that is no space would have to end the line.
        have hd := List.head?_dropWhile_not (· == ' ') tail
        rw [hsplit] at hd
        have hmem : d ∈ tail :=
          (List.dropWhile_sublist (· == ' ')).subset
            (by rw [hsplit]; exact List.mem_cons_self ..)
        have hinline := hinner d (List.mem_cons_self ..)
        rcases hplain hblank d hmem with rfl | rfl | rfl
        · simp at hd
        · exact absurd rfl hinline.2
        · exact absurd rfl hinline.1
  · intro hend
    rw [Text.isBlankText, List.all_eq_true]
    intro d hd
    rw [← @List.takeWhile_append_dropWhile _ (· == ' ') tail, List.mem_append] at hd
    rcases hd with hd | hd
    · have hspace : (d == ' ') = true := @List.mem_takeWhile_imp _ (· == ' ') tail d hd
      rw [beq_iff_eq.1 hspace]
      rfl
    · rcases hend d hd with rfl | rfl <;> rfl

theorem closingFence?_cons (mark c : Char) (size : Nat) (cs : List Char) :
    closingFence? mark size (c :: cs) =
      let run := countRun mark (c :: cs)
      let blanks := countRun ' ' ((c :: cs).drop run)
      if size ≤ run && atLineEnd ((c :: cs).drop (run + blanks)) then some (run + blanks)
      else none := rfl

/-- Behind a narrow margin a plain line closes a fence where the reader of blocks finds it
closed. -/
theorem closedBy_eq (hplain : IsPlain (List.replicate margin ' ' ++ c :: rest))
    (hmark : IsFenceMark mark) (hsize : 0 < size) (hmargin : margin < 4)
    (hspace : c ≠ ' ') (htab : c ≠ '\t') (hread : Line.IsRead (c :: rest) after) :
    Fence.closedBy { mark, size } (List.replicate margin ' ' ++ c :: rest) =
      (closingFence? mark size (c :: rest ++ after)).isSome := by
  rw [List.cons_append, closingFence?_cons, ← List.cons_append]
  by_cases hc : c = mark
  · subst hc
    have htrim := Text.trimStart_replicate margin rest hmark.isBlank_eq_false
    obtain ⟨hmarks, htail, hend⟩ := hread.span_append (p := (· == c))
      fun _ => isInLine_of_beq hmark.isInLine
    have hending := hplain.ending c (by rw [htrim]; rfl) hmark
    rw [htrim] at hending
    have hindent := Line.indentation_replicate margin rest hspace htab
    simp only [Fence.closedBy, hindent, htrim, countRun, ← List.drop_drop, drop_countWhile]
    simp only [countWhile_eq_length_takeWhile, hmarks, htail]
    generalize (c :: rest).dropWhile (· == c) = tail at *
    have hblank : Text.isBlankText tail =
        atLineEnd ((tail ++ after).dropWhile (· == ' ')) := by
      obtain ⟨-, hspaces, hlater⟩ := hend.span_append (p := (· == ' '))
        fun _ => isInLine_of_beq (by decide)
      rw [hspaces, Bool.eq_iff_iff, blank_iff hend hending, hlater.atLineEnd_iff]
    rw [hblank, decide_eq_true (Nat.le_of_lt_succ hmargin), Bool.true_and]
    split <;> simp_all
  · have hzero : countRun mark (c :: rest ++ after) = 0 := by
      simp [countRun, countWhile, hc]
    have hopen : Fence.closedBy { mark, size }
        (List.replicate margin ' ' ++ c :: rest) = false := by
      by_contra hclosed
      simp only [Fence.closedBy, Bool.not_eq_false, Bool.and_eq_true, decide_eq_true_eq]
        at hclosed
      have hmarks := Nat.lt_of_lt_of_le hsize hclosed.1.2
      cases htrim : Text.trimStart (List.replicate margin ' ' ++ c :: rest) with
      | nil => simp [htrim] at hmarks
      | cons d tail =>
          obtain rfl : d = mark := by
            by_contra hd
            simp [htrim, hd] at hmarks
          exact hc (hplain.eq_of_trimStart hspace htab htrim hmark).1
    simp only [hopen, hzero]
    simp [Nat.ne_of_gt hsize]

end Line.IsPlain

/-! ## Lines that open directives -/

/-- A fence as a line opens it. -/
structure Fence.IsOpened (fence : Fence) : Prop where
  mark : IsFenceMark fence.mark
  size : 0 < fence.size

theorem Fence.isOpened_of_opened? {line : Line} {fence : Fence}
    (hopened : Fence.opened? line = some fence) : fence.IsOpened := by
  unfold opened? at hopened
  split at hopened
  · contradiction
  · split at hopened
    · contradiction
    · simp only [Option.ite_none_right_eq_some, Bool.and_eq_true,
        Bool.or_eq_true, beq_iff_eq, decide_eq_true_eq, Option.some.injEq] at hopened
      obtain ⟨⟨⟨hmark, hsize⟩, -⟩, rfl⟩ := hopened
      exact ⟨hmark, Nat.zero_lt_of_lt hsize⟩

theorem Fence.isOpened_after {before : Option Fence} {line : Line}
    (hbefore : ∀ fence ∈ before, fence.IsOpened) :
    ∀ fence ∈ after before line, fence.IsOpened := by
  cases before with
  | none => exact fun fence hopened => isOpened_of_opened? hopened
  | some open_ =>
      intro fence hopened
      rw [after] at hopened
      split at hopened
      · contradiction
      · exact hbefore fence hopened

theorem isOpened_of_openFence {lines : List Line} {fence : Fence}
    (hopen : openFence lines = some fence) : fence.IsOpened := by
  have hfold : ∀ before : Option Fence, (∀ f ∈ before, f.IsOpened) →
      ∀ f ∈ lines.foldl Fence.after before, f.IsOpened := by
    clear hopen
    induction lines with
    | nil => exact fun before hbefore => hbefore
    | cons line lines ih => exact fun before hbefore => ih _ (Fence.isOpened_after hbefore)
  exact hfold none (by simp) fence hopen

theorem Line.trimStart_of_opens? {line : Line} (hopens : line.opens?.isSome = true) :
    line.indentation ≤ 3 ∧ ∃ tail, Text.trimStart line = '[' :: tail := by
  obtain ⟨kind, hkind⟩ := Option.isSome_iff_exists.1 hopens
  simp only [opens?, Option.bind_eq_bind, Option.bind_eq_some_iff, Option.guard_eq_some']
    at hkind
  obtain ⟨_, hindent, rest, hprefix, -⟩ := hkind
  refine ⟨Nat.le_of_lt_succ hindent, ?_⟩
  cases htrim : Text.trim line with
  | nil =>
      rw [htrim] at hprefix
      contradiction
  | cons c tail =>
      rw [htrim] at hprefix
      obtain rfl : c = '[' := by
        by_contra hc
        have hnone : Text.dropPrefix? "[block:".toList (c :: tail) = none :=
          if_neg fun heq => hc heq.symm
        rw [hnone] at hprefix
        contradiction
      exact Text.head_of_trim htrim

/-- A line that opens a directive neither opens a fence nor closes one. -/
theorem Fence.after_of_opens? {line : Line} {fence : Option Fence}
    (hopens : line.opens?.isSome = true)
    (hfence : ∀ f, fence = some f → f.IsOpened) :
    Fence.after fence line = fence := by
  obtain ⟨-, tail, htrim⟩ := Line.trimStart_of_opens? hopens
  cases fence with
  | none =>
      rw [Fence.after]
      by_contra hopened
      obtain ⟨f, hf⟩ := Option.ne_none_iff_exists'.1 hopened
      obtain ⟨-, mark, rest, hmark, hfence⟩ := trimStart_of_opened? hf
      rw [htrim] at hmark
      obtain ⟨rfl, -⟩ := List.cons.inj hmark
      rcases hfence with h | h <;> contradiction
  | some f =>
      obtain ⟨hmark, hsize⟩ := hfence f rfl
      have hopen : f.closedBy line = false := by
        have hhead : ('[' == f.mark) = false := by
          rcases hmark with h | h <;> rw [h] <;> rfl
        simp [closedBy, htrim, hhead, Nat.ne_of_gt hsize]
      rw [Fence.after, hopen]
      rfl

/-- What comes in a line before something that does not end it does not end it either. -/
theorem Line.IsRead.isInLine_of_append {front tail after : List Char} {d : Char}
    (hread : IsRead (front ++ d :: tail) after) (hd : IsInLine d) :
    ∀ c ∈ front, IsInLine c := by
  induction front with
  | nil => simp
  | cons c front ih =>
      have hc : IsInLine c := by
        obtain ⟨inner, ending, hline, hinner, hending⟩ := hread
        cases inner with
        | nil =>
            rcases hending with rfl | rfl | ⟨rfl, -⟩
            · simp at hline
            · obtain ⟨-, hline⟩ : c = '\r' ∧ front ++ d :: tail = ['\n'] := by
                simpa using hline
              cases front with
              | nil => exact absurd (List.cons.inj hline).1 hd.1
              | cons => simp at hline
            · simp at hline
        | cons e inner =>
            obtain ⟨rfl, -⟩ := List.cons.inj hline
            exact hinner _ (List.mem_cons_self ..)
      exact List.forall_mem_cons.2 ⟨hc, ih (hread.of_cons hc)⟩

theorem blankLine?_eq_none_of_append {front tail : List Char} {d : Char}
    (hfront : ∀ c ∈ front, IsInLine c) (hd : IsInLine d)
    (hvisible : isInlineSpace d = false) :
    blankLine? (front ++ d :: tail) = none := by
  induction front with
  | nil => simp [blankLine?, countWhile, hvisible, (lineEnd?_eq_none_iff d tail).2 hd]
  | cons c front ih =>
      rw [List.forall_mem_cons] at hfront
      by_cases hc : isInlineSpace c = true
      · have hcons := LineStart.blankLine?_cons_of_isInlineSpace hc (front ++ d :: tail)
        rw [ih hfront.2] at hcons
        simpa using hcons
      · have hend := (lineEnd?_eq_none_iff c (front ++ d :: tail)).2 hfront.1
        simp [blankLine?, countWhile, hc, hend]

theorem isAsciiDigit_of_isBlank {c : Char} (hblank : Text.isBlank c = true) :
    isAsciiDigit c = false := by
  by_contra hdigit
  simp only [isAsciiDigit, Bool.not_eq_false, Bool.and_eq_true,
    decide_eq_true_eq, Char.le_def, UInt32.le_iff_toNat_le] at hdigit
  simp only [Text.isBlank, Char.toNat, Bool.or_eq_true, Bool.and_eq_true,
    decide_eq_true_eq, beq_iff_eq] at hblank
  have hzero : '0'.val.toNat = 48 := rfl
  have hnine : '9'.val.toNat = 57 := rfl
  omega

/-- In the reading of blocks a line that opens a directive begins a block, but no item of a
list. -/
theorem Line.ahead_of_opens? {line : Line} {after : List Char}
    (hopens : line.opens?.isSome = true) (hread : line.IsRead after) :
    Ahead (fun cs => BeginsBlock cs ∧ bullet? cs = none) (line ++ after) := by
  obtain ⟨hindent, tail, htrim⟩ := trimStart_of_opens? hopens
  have hmem : '[' ∈ line :=
    (List.dropWhile_sublist _).subset (htrim ▸ List.mem_cons_self ..)
  obtain ⟨width, c, rest, rfl, hspace⟩ := exists_replicate ⟨'[', hmem, by decide⟩
  obtain ⟨hwidth, htab⟩ := lt_four_of_indentation hindent
  have hrest := hread.of_replicate
  -- The first character behind the margin is blank in a wider sense, or the bracket.
  have hc : c = '[' ∨ Text.isBlank c = true := by
    by_contra hc
    rw [not_or] at hc
    rw [Text.trimStart_replicate width rest (by simpa using hc.2)] at htrim
    exact hc.1 (List.cons.inj htrim).1
  refine ⟨width, c :: rest ++ after, by rw [List.append_assoc], hwidth, ⟨?_, ?_, ?_⟩, ?_⟩
  · have hbracket : '[' ∈ c :: rest := by
      rcases List.mem_append.1 hmem with hmargin | hbracket
      · exact absurd (List.mem_replicate.1 hmargin).2 (by decide)
      · exact hbracket
    obtain ⟨front, later, hsplit⟩ := List.append_of_mem hbracket
    rw [hsplit] at hrest ⊢
    rw [List.append_assoc, List.cons_append]
    exact blankLine?_eq_none_of_append (hrest.isInLine_of_append (by decide))
      (by decide) rfl
  · simp [hspace, htab]
  · rcases hc with rfl | hblank
    · simp
    · rw [List.cons_append, List.head?_cons, Ne, Option.some.injEq]
      rintro rfl
      contradiction
  · have hdigit : isAsciiDigit c = false :=
      hc.elim (fun h => h ▸ rfl) isAsciiDigit_of_isBlank
    have hmark : c ≠ '-' ∧ c ≠ '+' ∧ c ≠ '*' := by
      rcases hc with rfl | hblank
      · decide
      · refine ⟨?_, ?_, ?_⟩ <;>
          · rintro rfl
            contradiction
    simp [bullet?, hmark, hdigit]

end DocContract
