import DocContract.Proofs.BodyComposition
import Mathlib.Data.List.Forall2

/-!
# Bodies read by computation

The reader of a body hands out one element at a time.  What it hands out in all is also
found by recursion on the number of lines, segment after segment, which can be computed.
The computation begins with the characters of the body; those of a text that is put
together from literals are the characters of the literals.
-/

namespace DocContract

/-- The elements of at most `fuel` lines, of which the first has the number `line`. -/
def elementsOfLines (blocks : BlockReader) :
    Nat → Nat → List Line → Except GrammarError (List Element)
  | 0, _, _ => .ok []
  | _ + 1, _, [] => .ok []
  | fuel + 1, line, first :: lines =>
    let (segment, rest) := Segment.first first lines
    match segment.elements blocks line with
    | .error fault => .error fault
    | .ok elements =>
      (elementsOfLines blocks fuel (line + (lines.length + 1 - rest.length)) rest).map
        (elements ++ ·)

section Reading

variable {blocks : BlockReader} {reader : BodyReader}

theorem elementsOfLines_nil (fuel line : Nat) :
    elementsOfLines blocks fuel line [] = .ok [] := by
  cases fuel <;> rfl

theorem elementsOfLines_of_spans
    {segment : Segment} {consumed rest : List Line} (hspans : segment.Spans consumed rest)
    (fuel line : Nat) :
    elementsOfLines blocks (fuel + 1) line (consumed ++ rest) =
      match segment.elements blocks line with
      | .error fault => .error fault
      | .ok elements =>
        (elementsOfLines blocks fuel (line + consumed.length) rest).map
          (elements ++ ·) := by
  cases hconsumed : consumed with
  | nil => exact absurd hconsumed hspans.ne_nil
  | cons first inner =>
      have hfirst : Segment.first first (inner ++ rest) = (segment, rest) :=
        Segment.first_eq_of_spans (by rw [hconsumed]; rfl) hspans
      have hcount : (inner ++ rest).length + 1 - rest.length =
          (first :: inner).length := by
        rw [List.length_append, List.length_cons]
        omega
      rw [List.cons_append, elementsOfLines, hfirst]
      simp only [hcount]

theorem BodyReader.AdvancesBy.elementsOfLines_eq
    {parts : List Part} {fault : Option GrammarError} {left : List Line}
    (hadvances : reader.AdvancesBy blocks parts fault left)
    {fuel : Nat} (hfuel : reader.rest.length ≤ fuel) :
    elementsOfLines blocks fuel reader.line reader.rest =
      (handedOut parts fault).mapM id := by
  induction hadvances generalizing fuel with
  | done hrest =>
      rw [hrest, elementsOfLines_nil]
      rfl
  | fault hadvance hlines hspans hfault =>
      have hsome := List.length_pos_iff.2 hspans.ne_nil
      rw [hlines, List.length_append] at hfuel
      obtain ⟨fuel, rfl⟩ : ∃ less, fuel = less + 1 :=
        Nat.exists_eq_succ_of_ne_zero (by omega)
      rw [hlines, elementsOfLines_of_spans hspans, hfault]
      rfl
  | @step reader part rest parts fault left hadvance hlines hspans helements hlater ih =>
      have hsome := List.length_pos_iff.2 hspans.ne_nil
      rw [hlines, List.length_append] at hfuel
      obtain ⟨fuel, rfl⟩ : ∃ less, fuel = less + 1 :=
        Nat.exists_eq_succ_of_ne_zero (by omega)
      have hrest : elementsOfLines blocks fuel (reader.line + part.lines.length) rest =
          (handedOut parts fault).mapM id := ih (show rest.length ≤ fuel by omega)
      rw [hlines, elementsOfLines_of_spans hspans, helements]
      simp only [hrest, mapM_handedOut, List.flatMap_cons]
      cases fault <;> rfl

theorem bodyElements_eq_elementsOfLines (blocks : BlockReader) (body : String) :
    bodyElements blocks body =
      elementsOfLines blocks (Text.splitLines body.toList).length 1
        (Text.splitLines body.toList) := by
  obtain ⟨parts, fault, left, hadvances⟩ :=
    (BodyReader.ofBody body).exists_advancesBy blocks
  have hitems : bodyItems blocks body = handedOut parts fault := hadvances.drain_eq rfl rfl
  rw [bodyElements, hitems]
  exact (hadvances.elementsOfLines_eq (Nat.le_refl _)).symm

end Reading

/-- A text has the given characters. -/
def Spells (text : String) (cs : List Char) : Prop :=
  text.toList = cs

namespace Spells

theorem literal (cs : List Char) : Spells (String.ofList cs) cs :=
  String.toList_ofList

theorem append {first second : String} {cs ds : List Char} (hfirst : Spells first cs)
    (hsecond : Spells second ds) : Spells (first ++ second) (cs ++ ds) := by
  rw [Spells, String.toList_append, hfirst, hsecond]

/-- Lines that are joined into a body, each with a line feed. -/
theorem lines {texts : List String} {css : List (List Char)}
    (hlines : List.Forall₂ Spells texts css) :
    Spells (String.join (texts.map (· ++ "\n"))) (css.flatMap (· ++ ['\n'])) := by
  rw [Spells, String.toList_join]
  induction hlines with
  | nil => rfl
  | cons hfirst hlater ih =>
      have hfeed : "\n".toList = ['\n'] := rfl
      rw [List.map_cons, List.flatMap_cons, List.flatMap_cons, ih, String.toList_append,
        hfirst, hfeed]

end Spells

theorem bodyElements_of_spells
    {blocks : BlockReader} {body : String} {cs : List Char} {elements : List Element}
    (hspells : Spells body cs)
    (hread : elementsOfLines blocks (Text.splitLines cs).length 1 (Text.splitLines cs) =
      .ok elements) :
    bodyElements blocks body = .ok elements := by
  rw [bodyElements_eq_elementsOfLines, hspells]
  exact hread

end DocContract
