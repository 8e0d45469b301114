import DocContract.Proofs.HeadingTexts
import DocContract.Proofs.QuotedLines
import DocContract.Proofs.RecognisedDirectives

/-!
# The text of a quotation

A text is quoted by a mark and a space in front of each of its lines.  What is read of the
quotation is the text itself, apart from blanks around it: from each line one mark is taken
off and one space behind it, so that the marks of inner quotations and the indentation
behind the mark are left.  A body of quoted lines is one element, whatever markup or
directives are quoted.
-/

namespace DocContract

namespace Text

theorem withoutLineEnd_of_notMem {line ending : List Char} (hfeed : '\n' ∉ line)
    (hreturn : '\r' ∉ line) (hending : ending = [] ∨ ending = ['\n']) :
    withoutLineEnd (line ++ ending) = line := by
  refine withoutLineEnd_append_ending (fun c hlast => ?_) (hending.imp_right .inl)
  have hmem := List.mem_of_getLast? hlast
  exact ⟨ne_of_mem_of_not_mem hmem hfeed, ne_of_mem_of_not_mem hmem hreturn⟩

end Text

/-- A text is divided into whole lines in one way only. -/
theorem WholeLines.splitLines_eq {text : List Char} {lines : List Line}
    (hlines : WholeLines text lines) : Text.splitLines text = lines := by
  induction hlines with
  | nil => rfl
  | @last line hne hfeed =>
      have hsplit := wholeLines_splitLines line
      generalize Text.splitLines line = lines at hsplit
      cases hsplit with
      | nil => contradiction
      | last => rfl
      | cons => simp at hfeed
  | @cons start text lines hfeed hlater ih =>
      rw [List.append_cons, Text.splitLines_line_append ⟨start, rfl, hfeed⟩, ih]

theorem Text.lines_append {line : List Char} (hfeed : '\n' ∉ line) (hreturn : '\r' ∉ line)
    (rest : List Char) : lines (line ++ '\n' :: rest) = line :: lines rest := by
  rw [lines, List.append_cons, splitLines_line_append ⟨line, rfl, hfeed⟩, List.map_cons,
    withoutLineEnd_of_notMem hfeed hreturn (.inr rfl), lines]

theorem Text.lines_of_notMem {line : List Char} (hne : line ≠ []) (hfeed : '\n' ∉ line)
    (hreturn : '\r' ∉ line) : lines line = [line] := by
  have hwithout := withoutLineEnd_of_notMem hfeed hreturn (.inl rfl)
  rw [List.append_nil] at hwithout
  rw [lines, (WholeLines.last hne hfeed).splitLines_eq, List.map_singleton, hwithout]

/-- Without carriage returns the reader of blocks ends the lines of a text alike. -/
theorem WholeLines.isRead {text : List Char} {lines before after : List Line} {line : Line}
    (hlines : WholeLines text lines) (hreturn : '\r' ∉ text)
    (hsplit : lines = before ++ line :: after) : line.IsRead after.flatten := by
  obtain ⟨hfeed, hlast⟩ := hlines.of_append hsplit
  have hline : '\r' ∉ line := by
    intro hmem
    rw [← Text.flatten_splitLines text, hlines.splitLines_eq, hsplit] at hreturn
    exact hreturn (List.mem_flatten.2 ⟨line, by simp, hmem⟩)
  refine .of_returns hfeed (fun hmem => hline ?_) fun hnone => ?_
  · obtain ⟨ending, hwithout, -⟩ := Text.withoutLineEnd_append line
    rw [hwithout]
    exact List.mem_append_left _ hmem
  · rw [hlast hnone]
    rfl

namespace Prose

open Markdown

/-- A body of lines that all begin with the mark is read as one quotation. -/
theorem bodyElements_of_quotedLines {text : List Char}
    (hlines : QuotedLines (Text.splitLines text))
    (hne : text ≠ []) :
    bodyElements Markdown.read (String.ofList text) =
      .ok [textElement .blockquote (quoteText text)] := by
  have hflatten := Text.flatten_splitLines text
  obtain ⟨first, later, hsplit⟩ :
      ∃ (first : Line) (later : List Line), Text.splitLines text = first :: later := by
    refine List.exists_cons_of_ne_nil fun hnil => hne ?_
    rw [← hflatten, hnil]
    rfl
  have hopens : ∀ line ∈ first :: later, line.opens? = none := by
    intro line hline
    obtain ⟨rest, rfl⟩ := List.head?_eq_some_iff.1 (hlines.mark line (hsplit ▸ hline))
    by_contra hopens
    obtain ⟨-, tail, htrim⟩ :=
      Line.trimStart_of_opens? (Option.isSome_iff_ne_none.2 hopens)
    rw [Text.trimStart, List.dropWhile_cons_of_neg (by decide)] at htrim
    exact absurd (List.cons.inj htrim).1 (by decide)
  have hspans : (Segment.markdown (first :: later)).Spans (first :: later) [] := by
    refine .markdown (hopens first (by simp))
      (fun before line after hrun hsome => ?_) (.inl rfl)
    rw [hopens line (by simp [hrun])] at hsome
    contradiction
  have hsegment : Segment.first first later = (.markdown (first :: later), []) :=
    Segment.first_eq_of_spans (List.append_nil _).symm hspans
  obtain ⟨children, hread⟩ := hlines.read_eq (by simp [hsplit])
  rw [bodyElements_of_segment (by rw [String.toList_ofList, hsplit]) hsegment,
    Segment.elements, ← hsplit, elements, hread, hflatten]
  simp [elementsOf, Span.extract, bind, Except.bind, pure, Except.pure]

/-- A line with a mark and a space in front of it. -/
def quoteLine (line : List Char) : List Char :=
  '>' :: ' ' :: line

/-- A text and its quotation, which has a mark and a space in front of each line.  What
comes after the last line feed may count as a line when it is empty. -/
inductive QuotedAs : List Char → List Char → Prop where
  | nil : QuotedAs [] []
  | last {line : List Char} (hfeed : '\n' ∉ line) : QuotedAs line (quoteLine line)
  | cons {line text quoted : List Char} (hfeed : '\n' ∉ line)
      (hlater : QuotedAs text quoted) :
      QuotedAs (line ++ '\n' :: text) (quoteLine line ++ '\n' :: quoted)

/-- The quotation of a text in which an empty line is not marked after the last line
feed. -/
def quote (text : List Char) : List Char :=
  (Text.splitLines text).flatMap quoteLine

theorem quotedAs_quote (text : List Char) : QuotedAs text (quote text) := by
  have hlines := wholeLines_splitLines text
  rw [quote]
  generalize Text.splitLines text = lines at hlines
  induction hlines with
  | nil => exact .nil
  | last hne hfeed => simpa using QuotedAs.last hfeed
  | cons hfeed hlater ih => simpa [quoteLine] using QuotedAs.cons hfeed ih

theorem quotedAs_flatten {lines : List Line} (hended : ∀ line ∈ lines, line.IsEnded) :
    QuotedAs lines.flatten (lines.flatMap quoteLine ++ quoteLine []) := by
  induction lines with
  | nil => exact .last (by simp)
  | cons line lines ih =>
      rw [List.forall_mem_cons] at hended
      obtain ⟨⟨start, rfl, hfeed⟩, hlater⟩ := hended
      simpa [quoteLine] using QuotedAs.cons hfeed (ih hlater)

/-- An empty line after the last line feed may be marked as well. -/
theorem quotedAs_concat {text : List Char} (hends : Text.EndsLine text) :
    QuotedAs text (quote text ++ quoteLine []) := by
  have hquoted := quotedAs_flatten ((wholeLines_splitLines text).isEnded hends)
  rwa [Text.flatten_splitLines] at hquoted

theorem withoutQuoteMark_quoteLine (line : List Char) :
    withoutQuoteMark (quoteLine line) = line := by
  rw [withoutQuoteMark, quoteLine, Text.trimStart, List.dropWhile_cons_of_neg (by decide)]
  rfl

theorem notMem_quoteLine {line : List Char} {c : Char} (hc : c ∉ line) (hmark : c ≠ '>')
    (hspace : c ≠ ' ') : c ∉ quoteLine line := by
  simp [quoteLine, hmark, hspace, hc]

namespace QuotedAs

variable {text quoted : List Char} (hquoted : QuotedAs text quoted)

include hquoted

theorem return_notMem (hreturn : '\r' ∉ text) : '\r' ∉ quoted := by
  induction hquoted with
  | nil => exact hreturn
  | last hfeed => exact notMem_quoteLine hreturn (by decide) (by decide)
  | cons hfeed hlater ih =>
      simp only [List.mem_append, List.mem_cons, not_or] at hreturn ⊢
      exact ⟨notMem_quoteLine hreturn.1 (by decide) (by decide), hreturn.2.1,
        ih hreturn.2.2⟩

theorem exists_wholeLines :
    ∃ lines, WholeLines quoted lines ∧ ∀ line ∈ lines, line.head? = some '>' := by
  induction hquoted with
  | nil => exact ⟨[], .nil, by simp⟩
  | @last line hfeed =>
      have hmarked := notMem_quoteLine hfeed (by decide) (by decide)
      exact ⟨[quoteLine line], .last (List.cons_ne_nil _ _) hmarked, by simp [quoteLine]⟩
  | @cons line text quoted hfeed hlater ih =>
      obtain ⟨lines, hlines, hmarks⟩ := ih
      have hmarked := notMem_quoteLine hfeed (by decide) (by decide)
      refine ⟨_, .cons hmarked hlines, List.forall_mem_cons.2 ⟨rfl, hmarks⟩⟩

theorem quotedLines (hreturn : '\r' ∉ text) : QuotedLines (Text.splitLines quoted) := by
  obtain ⟨lines, hlines, hmarks⟩ := hquoted.exists_wholeLines
  rw [hlines.splitLines_eq]
  exact ⟨hmarks, fun _ _ _ hsplit => hlines.isRead (hquoted.return_notMem hreturn) hsplit⟩

/-- A quotation begins with a mark, so blanks are trimmed from its end only. -/
theorem trim_eq_trimEnd : Text.trim quoted = Text.trimEnd quoted := by
  cases hquoted with
  | nil => rfl
  | last | cons => rw [Text.trim, quoteLine, Text.trimStart]; rfl

/-- Joined without their marks, the lines of a quotation are the text but for a line feed
at its end. -/
theorem exists_joinWith_append (hreturn : '\r' ∉ text) :
    ∃ back, text = Text.joinWith ['\n']
      ((Text.lines quoted).map withoutQuoteMark) ++ back ∧
      ∀ c ∈ back, Text.isBlank c = true := by
  induction hquoted with
  | nil => exact ⟨[], rfl, by simp⟩
  | @last line hfeed =>
      have hmarked := notMem_quoteLine hfeed (by decide) (by decide)
      have hreturn := notMem_quoteLine hreturn (by decide) (by decide)
      have hne : quoteLine line ≠ [] := List.cons_ne_nil _ _
      refine ⟨[], ?_, by simp⟩
      rw [Text.lines_of_notMem hne hmarked hreturn, List.map_singleton,
        withoutQuoteMark_quoteLine, Text.joinWith, List.append_nil]
  | @cons line text quoted hfeed hlater ih =>
      rw [List.mem_append, List.mem_cons, not_or, not_or] at hreturn
      obtain ⟨back, htext, hback⟩ := ih hreturn.2.2
      have hmarked := notMem_quoteLine hfeed (by decide) (by decide)
      have hreturn := notMem_quoteLine hreturn.1 (by decide) (by decide)
      rw [Text.lines_append hmarked hreturn, List.map_cons, withoutQuoteMark_quoteLine]
      cases hlines : (Text.lines quoted).map withoutQuoteMark with
      | nil =>
          -- The line feed of the last line is not put back.
          rw [hlines] at htext
          exact ⟨'\n' :: back, by rw [htext]; rfl, List.forall_mem_cons.2 ⟨rfl, hback⟩⟩
      | cons first later =>
          rw [hlines] at htext
          exact ⟨back, by simp [htext, Text.joinWith], hback⟩

theorem quoteText_eq (hreturn : '\r' ∉ text) : quoteText quoted = Text.trim text := by
  obtain ⟨back, htext, hback⟩ := hquoted.exists_joinWith_append hreturn
  rw [quoteText, ← Text.trim_append_right _ hback, ← htext]

end QuotedAs

/-- What is read of a quotation is the quoted text without the blanks around it.  One level
of marks is taken off: of a quotation that is quoted again only blanks at the end are lost.
A body that is a quotation has no other element. -/
theorem quotation_text_exact {text : List Char} (hreturn : '\r' ∉ text) :
    QuotedAs text (quote text) ∧
    (Text.EndsLine text → QuotedAs text (quote text ++ quoteLine [])) ∧
    ∀ quoted, QuotedAs text quoted →
      quoteText quoted = Text.trim text ∧
      (∀ outer, QuotedAs quoted outer → quoteText outer = Text.trimEnd quoted) ∧
      (quoted ≠ [] → bodyElements Markdown.read (String.ofList quoted) =
        .ok [textElement .blockquote (Text.trim text)]) := by
  refine ⟨quotedAs_quote text, quotedAs_concat, fun quoted hquoted => ?_⟩
  have htext := hquoted.quoteText_eq hreturn
  refine ⟨htext, fun outer houter => ?_, fun hne => ?_⟩
  · rw [houter.quoteText_eq (hquoted.return_notMem hreturn), hquoted.trim_eq_trimEnd]
  · rw [bodyElements_of_quotedLines (hquoted.quotedLines hreturn) hne, htext]

/-- Empty lines, an inner mark behind an indentation, a fence and a directive are quoted,
and the empty line at the end is marked as well. -/
theorem quotation_text_exact_nested :
    let text := "\n >  a\n~~~\n   [block:api]\n\n".toList
    let quoted := "> \n>  >  a\n> ~~~\n>    [block:api]\n> \n> ".toList
    '\r' ∉ text ∧ QuotedAs text quoted ∧
      quoteText quoted = ">  a\n~~~\n   [block:api]".toList ∧
      quoteText (quote quoted) = "> \n>  >  a\n> ~~~\n>    [block:api]\n> \n>".toList ∧
      bodyElements Markdown.read (String.ofList quoted) =
        .ok [textElement .blockquote ">  a\n~~~\n   [block:api]".toList] := by
  intro text quoted
  have hreturn : '\r' ∉ text := by decide +kernel
  obtain ⟨-, hconcat, hexact⟩ := quotation_text_exact hreturn
  have hmarked : quote text ++ quoteLine [] = quoted := by decide +kernel
  have htrim : Text.trim text = ">  a\n~~~\n   [block:api]".toList := by decide +kernel
  have htrimEnd : Text.trimEnd quoted =
      "> \n>  >  a\n> ~~~\n>    [block:api]\n> \n>".toList := by
    decide +kernel
  have hquoted : QuotedAs text quoted := hmarked ▸ hconcat (.inr (by decide +kernel))
  obtain ⟨htext, hnested, hread⟩ := hexact quoted hquoted
  refine ⟨hreturn, hquoted, htext.trans htrim, ?_, htrim ▸ hread (by decide +kernel)⟩
  rw [hnested _ (quotedAs_quote quoted), htrimEnd]

end Prose

end DocContract
