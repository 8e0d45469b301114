import DocContract.Proofs.ComputedBodies
import DocContract.Proofs.FenceLines
import DocContract.Proofs.WrittenHtml

/-!
# Lines that open a directive

A line opens a directive if it has a narrow margin and begins with an opening bracket, the
marker and a closing bracket behind the kind.  Nothing is asked of the rest of the line,
and nothing is kept of it: a directive is read as if its first line ended with the bracket,
and prose behind the bracket is lost.
-/

namespace DocContract

theorem Text.dropPrefix?_eq_some_iff {cs text rest : List Char} :
    dropPrefix? cs text = some rest ↔ text = cs ++ rest := by
  induction cs generalizing text with
  | nil => simp [dropPrefix?]
  | cons c cs ih =>
      cases text with
      | nil => simp [dropPrefix?]
      | cons d text =>
          by_cases hc : c = d
          · rw [dropPrefix?, if_pos hc, ih, hc, List.cons_append, List.cons.injEq]
            simp
          · rw [dropPrefix?, if_neg hc, List.cons_append, List.cons.injEq]
            simp [Ne.symm hc]

/-- A line has at most three spaces in front of what is neither a space nor a tab. -/
def Line.HasNarrowMargin (line : Line) : Prop :=
  ∃ (width : Nat) (rest : List Char), width < 4 ∧ line = List.replicate width ' ' ++ rest ∧
    ∀ c ∈ rest.head?, c ≠ ' ' ∧ c ≠ '\t'

theorem Line.hasNarrowMargin_iff {line : Line} :
    line.HasNarrowMargin ↔ line.indentation < 4 := by
  constructor
  · rintro ⟨width, rest, hwidth, rfl, hrest⟩
    cases rest with
    | nil =>
        rw [indentation, indentation_go_replicate, indentation.go]
        omega
    | cons c rest =>
        obtain ⟨hspace, htab⟩ := hrest c rfl
        rwa [indentation_replicate width rest hspace htab]
  · intro hindent
    by_cases htext : ∃ c ∈ line, c ≠ ' '
    · obtain ⟨width, c, rest, rfl, hspace⟩ := exists_replicate htext
      obtain ⟨hwidth, htab⟩ := lt_four_of_indentation (Nat.le_of_lt_succ hindent)
      refine ⟨width, c :: rest, hwidth, rfl, fun d hd => ?_⟩
      obtain rfl : c = d := by simpa using hd
      exact ⟨hspace, htab⟩
    · push Not at htext
      have hline : line = List.replicate line.length ' ' ++ [] := by
        simpa using List.eq_replicate_iff.2 ⟨rfl, htext⟩
      rw [hline] at hindent
      exact ⟨line.length, [], width_le_indentation.trans_lt hindent, hline, by simp⟩

/-- Behind a narrow margin, a line has the name of a kind in brackets, and then some
text. -/
structure Line.OpensWith (line : Line) (name tail : List Char) : Prop where
  margin : line.HasNarrowMargin
  text : Text.trim line = "[block:".toList ++ name ++ ']' :: tail
  name_ends : ']' ∉ name

theorem Line.opens?_eq_some_iff {line : Line} {kind : List Char} :
    line.opens? = some kind ↔ ∃ name tail, line.OpensWith name tail ∧
      Text.trim name = kind := by
  simp only [opens?, Option.bind_eq_bind, Option.bind_eq_some_iff, Option.guard_eq_some',
    Option.pure_def, Option.some.injEq, Text.dropPrefix?_eq_some_iff]
  constructor
  · rintro ⟨_, hindent, rest, htext, ⟨name, tail⟩, hsplit, hkind⟩
    obtain ⟨rfl, hname⟩ := Text.splitAt?_eq_some_iff.1 hsplit
    refine ⟨name, tail, ⟨hasNarrowMargin_iff.2 hindent, ?_, hname⟩, hkind⟩
    rw [htext, List.append_assoc]
  · rintro ⟨name, tail, hopens, hkind⟩
    refine ⟨(), hasNarrowMargin_iff.1 hopens.margin, name ++ ']' :: tail, ?_,
      (name, tail), ?_, hkind⟩
    · rw [hopens.text, List.append_assoc]
    · exact Text.splitAt?_eq_some_iff.2 ⟨rfl, hopens.name_ends⟩

/-- A line says only once what stands in its brackets and behind them. -/
theorem Line.OpensWith.unique {line : Line} {name tail name' tail' : List Char}
    (hopens : line.OpensWith name tail) (hopens' : line.OpensWith name' tail') :
    name = name' ∧ tail = tail' := by
  have htext := hopens.text.symm.trans hopens'.text
  rw [List.append_assoc, List.append_assoc, List.append_cancel_left_eq] at htext
  have hsplit := Text.splitAt?_of_not_mem hopens.name_ends tail
  rw [htext, Text.splitAt?_of_not_mem hopens'.name_ends tail', Option.some.injEq,
    Prod.mk.injEq] at hsplit
  exact ⟨hsplit.1.symm, hsplit.2.symm⟩

/-- The opening line of a directive that has nothing behind the bracket. -/
def bareLine (name : List Char) : Line :=
  "[block:".toList ++ name ++ [']', '\n']

theorem opensWith_bareLine {name : List Char} (hname : ']' ∉ name) :
    (bareLine name).OpensWith name [] := by
  have hopening : Text.isBlank '[' = false := rfl
  have hclosing : Text.isBlank ']' = false := rfl
  have hfeed : Text.isBlank '\n' = true := rfl
  have hmark : "[block:".toList = '[' :: "block:".toList := by decide +kernel
  have hline : bareLine name = '[' :: ("block:".toList ++ name ++ [']', '\n']) :=
    congrArg (· ++ name ++ [']', '\n']) hmark
  refine ⟨Line.hasNarrowMargin_iff.2 ?_, ?_, hname⟩
  · rw [hline, Line.indentation, Line.indentation.go, if_neg (by decide),
      if_neg (by decide)]
    exact Nat.zero_lt_succ 3
  · rw [hline, Text.trim, Text.trimStart, List.dropWhile_cons_of_neg (by simp [hopening])]
    simp [Text.trimEnd, Text.dropEndWhile, hclosing, hfeed]

/-- That only bare lines open a directive holds at the lines that have nothing behind the
bracket, and at no others.  What stands there makes no difference to what is read. -/
theorem opening_line_text (line : Line) :
    (∀ kind, line.opens? = some kind ↔
      ∃ name tail, line.OpensWith name tail ∧ Text.trim name = kind) ∧
    ((∀ kind, line.opens? = some kind ↔
        ∃ name, line.OpensWith name [] ∧ Text.trim name = kind) ↔
      ∀ name tail, line.OpensWith name tail → tail = []) ∧
    ∀ name tail, line.OpensWith name tail →
      ∀ (blocks : BlockReader) (reader : BodyReader) lines,
        BodyReader.advance blocks { reader with rest := line :: lines } =
          BodyReader.advance blocks { reader with rest := bareLine name :: lines } := by
  refine ⟨fun kind => Line.opens?_eq_some_iff, ⟨?_, ?_⟩, ?_⟩
  · intro honly name tail hopens
    obtain ⟨bare, hbare, -⟩ :=
      (honly _).1 (Line.opens?_eq_some_iff.2 ⟨name, tail, hopens, rfl⟩)
    exact (hopens.unique hbare).2
  · intro hbare kind
    rw [Line.opens?_eq_some_iff]
    constructor
    · rintro ⟨name, tail, hopens, hkind⟩
      obtain rfl := hbare name tail hopens
      exact ⟨name, hopens, hkind⟩
    · exact fun ⟨name, hopens, hkind⟩ => ⟨name, [], hopens, hkind⟩
  · intro name tail hopens blocks reader lines
    have hkind (front : Line) (after : List Char) (hfront : front.OpensWith name after) :
        front.opens? = some (Text.trim name) :=
      Line.opens?_eq_some_iff.2 ⟨name, after, hfront, rfl⟩
    have hfirst : Segment.first line lines = Segment.first (bareLine name) lines := by
      rw [Segment.first, Segment.first, hkind line tail hopens,
        hkind _ _ (opensWith_bareLine hopens.name_ends)]
    simp only [BodyReader.advance, hfirst]

/-- The rest of the line is lost, and so are the lines up to a closing line. -/
theorem prose_behind_bracket_lost :
    let line : Line := "[block:image] Retired.\n".toList
    line.OpensWith "image".toList " Retired.".toList ∧ (∀ name, ¬ line.OpensWith name []) ∧
      line.opens? = some "image".toList ∧
      bodyElements Markdown.read
        (String.ofList "[block:image] Retired.\n[/block]\n".toList) = .ok [] := by
  intro line
  have hopens : line.OpensWith "image".toList " Retired.".toList := by
    refine ⟨Line.hasNarrowMargin_iff.2 ?_, ?_, ?_⟩ <;> decide +kernel
  refine ⟨hopens, fun name hbare => ?_, by decide +kernel, ?_⟩
  · exact absurd (hopens.unique hbare).2 (by decide)
  · exact bodyElements_of_spells (.literal _) (by decide +kernel)

end DocContract
