import DocContract.Code.Printer
import DocContract.Proofs.AlikeSchemas
import DocContract.Proofs.DiscriminatorKeys
import Mathlib.Data.List.Dedup
import Mathlib.Data.Prod.Lex
import Mathlib.Order.Bounds.Basic

/-!
# The look-up of a closed union

What a closed union dispatches on is computed three times: as a set of values, as the list
that the comment of its declaration shows, and as the cases of its look-up.  The list is
made field by field, the cases stand in order, and a value that several fields have selects
the field of the first case.  All three hold the same pairs, and the first case of a value
is that of the field whose name comes first.
-/

namespace DocContract

open DocContract.Code
    (Arm DocComment closedUnionDoc dispatchArms sortArms symbolItems ticked)

/-- The names of the fields that belong to a variant and have a value. -/
def ClosedUnion.carriers (union : ClosedUnion) (value : String) : Set String :=
  {name | ∃ field ∈ union.fields,
    field.typeSpecific = true ∧ value ∈ field.discriminatorValues ∧ field.name = name}

theorem ClosedUnion.mem_dispatchValues_iff_nonempty (union : ClosedUnion)
    (value : String) :
    value ∈ union.dispatchValues ↔ (union.carriers value).Nonempty := by
  rw [mem_dispatchValues_iff]
  constructor
  · rintro ⟨field, hfield, hspecific, hvalue⟩
    exact ⟨field.name, field, hfield, hspecific, hvalue, rfl⟩
  · rintro ⟨-, field, hfield, hspecific, hvalue, -⟩
    exact ⟨field, hfield, hspecific, hvalue⟩

theorem ClosedUnion.dispatchValues_ascend (union : ClosedUnion) :
    Ascending textBefore union.dispatchValues :=
  ascending_ascending textBefore_strictlyOrders _

namespace Code

/-- What a look-up with some cases answers for the value of the key: the field of the first
case that has the value. -/
def answer : List Arm → String → Option String
  | [], _ => none
  | arm :: later, value => if arm.value = value then some arm.field else answer later value

theorem answer_eq_none_iff (arms : List Arm) (value : String) :
    answer arms value = none ↔ value ∉ arms.map Arm.value := by
  induction arms with
  | nil => simp [answer]
  | cons arm later ih =>
      rw [answer, List.map_cons, List.mem_cons, not_or, ← ih]
      split
      · next hvalue => simp [hvalue]
      · next hother => simp [Ne.symm hother]

/-- What cases are ordered by. -/
def Arm.key (arm : Arm) : String ×ₗ String :=
  toLex (arm.value, arm.field)

theorem Arm.before_iff (a b : Arm) : a.before b = true ↔ a.key < b.key := by
  rw [before, Bool.or_eq_true, Bool.and_eq_true, textBefore_iff, textBefore_iff,
    beq_iff_eq, key, key, Prod.Lex.toLex_lt_toLex]

theorem sortArms_perm (arms : List Arm) : (sortArms arms).Perm arms :=
  List.mergeSort_perm _ _

theorem sortArms_sorted (arms : List Arm) :
    (sortArms arms).Pairwise fun a b => a.key ≤ b.key := by
  refine pairwise_mergeSort_of_key Arm.key (fun a b => ?_) arms
  rw [Bool.not_eq_true', ← not_lt, ← Arm.before_iff, Bool.not_eq_true]

/-- There is one way to put cases in order. -/
theorem sortArms_eq {arms sorted : List Arm}
    (hsorted : sorted.Pairwise fun a b => a.key ≤ b.key)
    (hperm : sorted.Perm arms) : sortArms arms = sorted := by
  refine ((sortArms_perm arms).trans hperm.symm).eq_of_pairwise ?_
    (sortArms_sorted arms) hsorted
  intro a b _ _ hab hba
  obtain ⟨hvalue, hfield⟩ := Prod.mk.inj (toLex.injective (le_antisymm hab hba))
  cases a
  cases b
  rw [Arm.mk.injEq]
  exact ⟨hvalue, hfield⟩

section Ordered

variable {arms : List Arm}

theorem values_le_of_sorted (hsorted : arms.Pairwise fun a b => a.key ≤ b.key) :
    (arms.map Arm.value).Pairwise (· ≤ ·) := by
  refine List.pairwise_map.2 (hsorted.imp fun {a b} hle => ?_)
  rcases (Prod.Lex.toLex_le_toLex).1 hle with hlt | ⟨hsame, -⟩
  · exact hlt.le
  · exact hsame.le

/-- Cases in order answer with the least of the fields that have a value. -/
theorem answer_eq_some_iff (hsorted : arms.Pairwise fun a b => a.key ≤ b.key)
    (value name : String) :
    answer arms value = some name ↔ IsLeast {field | ⟨value, field⟩ ∈ arms} name := by
  induction arms with
  | nil => simp [answer, IsLeast]
  | cons arm later ih =>
      rw [List.pairwise_cons] at hsorted
      rw [answer]
      split
      · next hvalue =>
        -- The first case comes before all others with its value.
        have hleast : IsLeast {field | ⟨value, field⟩ ∈ arm :: later} arm.field := by
          subst hvalue
          refine ⟨List.mem_cons_self, fun field hfield => ?_⟩
          rcases List.mem_cons.1 hfield with hsame | hlater
          · rw [← hsame]
          · rcases (Prod.Lex.toLex_le_toLex).1 (hsorted.1 _ hlater) with hlt | ⟨-, hle⟩
            · exact absurd hlt (lt_irrefl _)
            · exact hle
        constructor
        · rintro hname
          obtain rfl := Option.some.inj hname
          exact hleast
        · exact fun hname => congrArg some (hleast.unique hname)
      · next hother =>
        have hlater : {field | (⟨value, field⟩ : Arm) ∈ arm :: later} =
            {field | ⟨value, field⟩ ∈ later} := by
          ext field
          have hne : (⟨value, field⟩ : Arm) ≠ arm := by
            rintro rfl
            exact hother rfl
          simp [hne]
        rw [ih hsorted.2, hlater]

end Ordered

theorem mem_dispatchArms_iff (union : ClosedUnion) (value name : String) :
    ⟨value, name⟩ ∈ dispatchArms union.fields ↔ name ∈ union.carriers value := by
  simp only [dispatchArms, List.mem_flatMap, List.mem_filter, List.mem_map, Arm.mk.injEq]
  constructor
  · rintro ⟨field, ⟨hfield, hspecific⟩, found, hvalue, rfl, rfl⟩
    exact ⟨field, hfield, hspecific, hvalue, rfl⟩
  · rintro ⟨field, hfield, hspecific, hvalue, rfl⟩
    exact ⟨field, ⟨hfield, hspecific⟩, value, hvalue, rfl, rfl⟩

theorem mem_values_dispatchArms_iff (union : ClosedUnion) (value : String) :
    value ∈ (dispatchArms union.fields).map Arm.value ↔ value ∈ union.dispatchValues := by
  rw [ClosedUnion.mem_dispatchValues_iff_nonempty, List.mem_map]
  constructor
  · rintro ⟨⟨_, name⟩, harm, rfl⟩
    exact ⟨name, (mem_dispatchArms_iff union _ name).1 harm⟩
  · rintro ⟨name, hname⟩
    exact ⟨⟨value, name⟩, (mem_dispatchArms_iff union value name).2 hname, rfl⟩

theorem dispatchArms_eq_nil_iff (union : ClosedUnion) :
    dispatchArms union.fields = [] ↔ union.dispatchValues = [] := by
  simp only [← List.map_eq_nil_iff (f := Arm.value), List.eq_nil_iff_forall_not_mem,
    mem_values_dispatchArms_iff]

/-- Cases that agree with what a union dispatches on: their patterns, taken once, are its
values in ascending order, and for each value the look-up answers with the first of the
fields that have it. -/
structure Dispatches (union : ClosedUnion) (arms : List Arm) : Prop where
  values_le : (arms.map Arm.value).Pairwise (· ≤ ·)
  values_eq : (arms.map Arm.value).dedup = union.dispatchValues
  answer_eq_none_iff : ∀ value, answer arms value = none ↔ value ∉ union.dispatchValues
  answer_eq_some_iff : ∀ value name,
    answer arms value = some name ↔ IsLeast (union.carriers value) name

theorem dispatches_sortArms (union : ClosedUnion) :
    Dispatches union (sortArms (dispatchArms union.fields)) := by
  have hperm := sortArms_perm (dispatchArms union.fields)
  have hsorted := sortArms_sorted (dispatchArms union.fields)
  have hvalues (value : String) :
      value ∈ (sortArms (dispatchArms union.fields)).map Arm.value ↔
        value ∈ union.dispatchValues := by
    rw [(hperm.map Arm.value).mem_iff, mem_values_dispatchArms_iff]
  have hle := values_le_of_sorted hsorted
  refine ⟨hle, ?_, ?_, ?_⟩
  · have hascend : Ascending textBefore
        ((sortArms (dispatchArms union.fields)).map Arm.value).dedup := by
      refine (hle.sublist (List.dedup_sublist _)).imp₂ ?_ (List.nodup_dedup _)
      exact fun a b hab hne => (textBefore_iff a b).2 (lt_of_le_of_ne hab hne)
    refine hascend.eq_of_mem_iff textBefore_strictlyOrders union.dispatchValues_ascend
      fun value => ?_
    rw [List.mem_dedup, hvalues]
  · intro value
    rw [Code.answer_eq_none_iff, hvalues]
  · intro value name
    rw [Code.answer_eq_some_iff hsorted]
    simp only [hperm.mem_iff, mem_dispatchArms_iff, Set.ofPred_mem_eq]

/-- The line of a comment that shows a case. -/
def Arm.listed (arm : Arm) : String :=
  "\n- " ++ ticked arm.value ++ ": " ++ ticked arm.field

theorem text_of_listed (key : String) (listed : List Arm) :
    Dispatch.text { key, entries := listed.map fun arm => ([arm.value], arm.field) } =
      "Dispatches on " ++ ticked key ++ ":" ++ String.join (listed.map Arm.listed) := by
  have hline (arm : Arm) : "\n- " ++ ", ".intercalate ([arm.value].map ticked) ++ ": " ++
      ticked arm.field = arm.listed := by
    rw [List.map_singleton, String.intercalate_singleton, Arm.listed]
  unfold Dispatch.text
  rw [List.map_map]
  exact congrArg (_ ++ String.join ·) (List.map_congr_left fun arm _ => hline arm)

/-- A comment that ends in a list of cases under a key, or has no such list if there are no
cases. -/
structure DocComment.Lists (doc : DocComment) (key : String) (listed : List Arm) :
    Prop where
  dispatch_eq_none_iff : doc.dispatch = none ↔ listed = []
  dispatch_eq : ∀ dispatch, doc.dispatch = some dispatch →
    dispatch = { key, entries := listed.map fun arm => ([arm.value], arm.field) }
  fullText_eq : listed ≠ [] → doc.fullText =
    (if doc.text = "" then "" else doc.text ++ "\n\n") ++
      ("Dispatches on " ++ ticked key ++ ":" ++ String.join (listed.map Arm.listed))

theorem closedUnionDoc_lists {union : ClosedUnion} (hkey : union.discriminatorKey ≠ "") :
    (closedUnionDoc union).Lists union.discriminatorKey (dispatchArms union.fields) := by
  have hdispatch : (closedUnionDoc union).dispatch =
      if dispatchArms union.fields = [] then none
      else some
        { key := union.discriminatorKey
          entries := (dispatchArms union.fields).map fun arm =>
            ([arm.value], arm.field) } := by
    simp [closedUnionDoc, hkey]
  refine ⟨?_, ?_, ?_⟩
  · rw [hdispatch]
    split <;> simp [*]
  · intro dispatch hsome
    rw [hdispatch] at hsome
    split at hsome
    · contradiction
    · exact (Option.some.inj hsome).symm
  · intro hcases
    rw [if_neg hcases] at hdispatch
    rw [DocComment.fullText, hdispatch]
    simp only [text_of_listed, String.isEmpty_iff]

end Code

/-- The look-up of a closed union that has a key agrees with what the union dispatches on,
and so does the list in the comment of the structure: it holds the cases of the look-up,
and there is one whenever the union dispatches on some value. -/
theorem lookup_agrees_with_comment {graph : SymbolGraph} {union : ClosedUnion}
    {items : List Code.Item} (hkey : union.discriminatorKey ≠ "")
    (hitems : symbolItems graph (.closedUnion union) = .ok items) :
    ∃ doc ident decls key arms,
      items = [.struct doc ident none decls, .lookup ident key arms] ∧
        Code.Dispatches union arms ∧
        (doc.dispatch = none ↔ union.dispatchValues = []) ∧
        ∃ listed, doc.Lists union.discriminatorKey listed ∧ listed.Perm arms := by
  obtain ⟨ident, decls, key, -, -, -, rfl⟩ := (closedUnionItems_eq_ok_iff hkey).1 hitems
  have hlists := Code.closedUnionDoc_lists hkey
  refine ⟨_, ident, decls, key, _, rfl, Code.dispatches_sortArms union, ?_, _, hlists,
    (Code.sortArms_perm _).symm⟩
  rw [hlists.dispatch_eq_none_iff, Code.dispatchArms_eq_nil_iff]

/-- Two variants of the union share a value, and a field that belongs to none has
another. -/
def mediaUnion : ClosedUnion where
  name := "Media"
  comment := "A file."
  discriminatorKey := "type"
  fields :=
    [{ name := "type", type := .string },
     { name := "url", type := .string, typeSpecific := true
       discriminator := some (.values ["external", "file"]) },
     { name := "caption", type := .string, discriminator := some (.values ["image"]) },
     { name := "blob", type := .any, typeSpecific := true
       discriminator := some (.values ["file"]) }]

theorem sortArms_media :
    sortArms (dispatchArms mediaUnion.fields) =
      [⟨"external", "url"⟩, ⟨"file", "blob"⟩, ⟨"file", "url"⟩] :=
  Code.sortArms_eq (by decide +kernel) (by decide +kernel)

theorem lookup_agrees_with_comment_media :
    mediaUnion.discriminatorKey ≠ "" ∧
      ∃ items, symbolItems { documents := [], shared := [], memberships := [] }
          (.closedUnion mediaUnion) = .ok items ∧
        ∃ doc ident decls key arms,
          items = [.struct doc ident none decls, .lookup ident key arms] ∧
            Code.Dispatches mediaUnion arms ∧
            (doc.dispatch = none ↔ mediaUnion.dispatchValues = []) ∧
            ∃ listed, doc.Lists mediaUnion.discriminatorKey listed ∧ listed.Perm arms := by
  have hkey : mediaUnion.discriminatorKey ≠ "" := by decide
  have hitems : symbolItems { documents := [], shared := [], memberships := [] }
      (.closedUnion mediaUnion) = .ok
        [.struct (closedUnionDoc mediaUnion) ⟨"Media".toList, false⟩ none
          [⟨"", "type", ⟨"type".toList, true⟩, .text, false⟩,
           ⟨"", "url", ⟨"url".toList, false⟩, .text, true⟩,
           ⟨"", "caption", ⟨"caption".toList, false⟩, .text, true⟩,
           ⟨"", "blob", ⟨"blob".toList, false⟩, .json, true⟩],
         .lookup ⟨"Media".toList, false⟩ ⟨"type".toList, true⟩
          [⟨"external", "url"⟩, ⟨"file", "blob"⟩, ⟨"file", "url"⟩]] := by
    rw [closedUnionItems_eq_ok_iff hkey, sortArms_media]
    exact ⟨_, _, _, by decide +kernel, by decide +kernel, by decide +kernel, rfl⟩
  exact ⟨hkey, _, hitems, lookup_agrees_with_comment hkey hitems⟩

end DocContract
