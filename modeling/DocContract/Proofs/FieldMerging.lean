import DocContract.Proofs.AscendingSets

/-!
# What merged fields retain

Fields of one name merge when their outlines agree: everything but the comment and the
values of the discriminator.  So the fields that have been gathered from some offers are
determined by which offers there were, apart from their order and from which comment was
kept.
-/

namespace DocContract

/-- The form of a discriminator, without its values. -/
def Discriminator.outline : Discriminator → Discriminator
  | .values _ => .values []
  | .notEmpty => .notEmpty

/-- What two fields of one name must agree in to be merged. -/
def Field.outline (field : Field) : Field :=
  { field with
    comment := "",
    discriminator := field.discriminator.map Discriminator.outline }

/-- A comment of which only remains whether there is one. -/
def blurComment (comment : String) : String :=
  if comment = "" then "" else "…"

/-- A field of which the wording of the comment is forgotten. -/
def Field.blurred (field : Field) : Field :=
  { field with comment := blurComment field.comment }

@[simp] theorem Field.outline_name (field : Field) : field.outline.name = field.name := rfl

theorem blurComment_eq_iff (a b : String) :
    blurComment a = blurComment b ↔ (a = "" ↔ b = "") := by
  unfold blurComment
  by_cases ha : a = "" <;> by_cases hb : b = "" <;> simp [ha, hb]

/-- Two discriminators merge if both have values, and else only if they are the same. -/
theorem Field.mergeDiscriminators_cases
    {current added merged : Option Discriminator}
    (hmerge : mergeDiscriminators current added = some merged) :
    (∃ values values', current = some (.values values) ∧
        added = some (.values values') ∧
        merged = some (.values (unionTexts values values'))) ∨
      (current = added ∧ merged = added ∧ ∀ values, added ≠ some (.values values)) := by
  rcases current with _ | ⟨values | _⟩ <;> rcases added with _ | ⟨values' | _⟩ <;>
    simp [mergeDiscriminators] at hmerge ⊢ <;> simp [← hmerge]

theorem Field.exists_mergeDiscriminators
    {current added : Option Discriminator}
    (houtline : current.map Discriminator.outline = added.map Discriminator.outline) :
    ∃ merged, mergeDiscriminators current added = some merged := by
  rcases current with _ | ⟨values | _⟩ <;> rcases added with _ | ⟨values' | _⟩ <;>
    simp_all [mergeDiscriminators, Discriminator.outline]

theorem Field.outline_eq_iff (a b : Field) :
    a.outline = b.outline ↔
      a.name = b.name ∧ a.sameShape b = true ∧
        a.discriminator.map Discriminator.outline =
          b.discriminator.map Discriminator.outline := by
  simp only [outline, mk.injEq, sameShape, Bool.and_eq_true, beq_iff_eq, true_and]
  constructor
  · rintro ⟨hname, htype, hoptional, homit, hspecific, hdiscriminator, hliteral⟩
    exact ⟨hname, ⟨⟨⟨⟨htype, hoptional⟩, homit⟩, hspecific⟩, hliteral⟩, hdiscriminator⟩
  · rintro ⟨hname, ⟨⟨⟨⟨htype, hoptional⟩, homit⟩, hspecific⟩, hliteral⟩, hdiscriminator⟩
    exact ⟨hname, htype, hoptional, homit, hspecific, hdiscriminator, hliteral⟩

theorem Field.exists_absorb?_of_outline_eq
    {field added : Field} (houtline : field.outline = added.outline) :
    ∃ merged, field.absorb? added = some merged := by
  obtain ⟨-, hshape, hdiscriminator⟩ := (outline_eq_iff field added).1 houtline
  obtain ⟨discriminator, hmerge⟩ := exists_mergeDiscriminators hdiscriminator
  exact ⟨_, by rw [absorb?, if_pos hshape, hmerge]; rfl⟩

/-- What becomes of two fields that merge. -/
structure Field.Merges (field added merged : Field) : Prop where
  outline_left : merged.outline = field.outline
  outline_right : merged.outline = added.outline
  mem_values : ∀ value, value ∈ merged.discriminatorValues ↔
    value ∈ field.discriminatorValues ∨ value ∈ added.discriminatorValues
  values_ascend : Ascending textBefore field.discriminatorValues →
    Ascending textBefore merged.discriminatorValues
  comment_eq : merged.comment = if field.comment = "" then added.comment else field.comment

theorem Field.merges_of_absorb?
    {field added merged : Field} (hname : field.name = added.name)
    (habsorb : field.absorb? added = some merged) : field.Merges added merged := by
  unfold absorb? at habsorb
  split at habsorb
  · next hshape =>
    obtain ⟨discriminator, hmerge, rfl⟩ := Option.map_eq_some_iff.1 habsorb
    rcases mergeDiscriminators_cases hmerge with
      ⟨values, values', hvalues, hvalues', rfl⟩ | ⟨hsame, rfl, hnone⟩
    · have houtline : field.outline = added.outline := by
        rw [outline_eq_iff, hvalues, hvalues']
        exact ⟨hname, hshape, rfl⟩
      constructor
      · simp [outline, hvalues, Discriminator.outline]
      · rw [← houtline]
        simp [outline, hvalues, Discriminator.outline]
      · simp [discriminatorValues, hvalues, hvalues']
      · simpa [discriminatorValues, hvalues] using
          fun hascend => Ascending.unionTexts hascend values'
      · simp
    · have houtline : field.outline = added.outline := by
        rw [outline_eq_iff, hsame]
        exact ⟨hname, hshape, rfl⟩
      have hempty : ∀ f : Field, f.discriminator = added.discriminator →
          f.discriminatorValues = [] := by
        intro f hf
        rw [discriminatorValues, hf]
        split
        · next values hvalues => exact (hnone values hvalues).elim
        · rfl
      constructor
      · simp [outline, hsame]
      · rw [← houtline]
        simp [outline, hsame]
      · intro value
        rw [hempty added rfl, hempty field hsame,
          hempty { field with discriminator := added.discriminator, comment := _ } rfl]
        simp
      · intro _
        rw [hempty { field with discriminator := added.discriminator, comment := _ } rfl]
        exact List.Pairwise.nil
      · simp
  · contradiction

theorem Field.Merges.name_eq
    {field added merged : Field} (hmerges : field.Merges added merged) :
    merged.name = field.name := by
  rw [← outline_name, hmerges.outline_left, outline_name]

/-- A field is added at the end, or absorbed by the one of its name. -/
theorem mergeField?_cases
    {fields merged : List Field} {added stored : Field}
    (hmerge : mergeField? fields added = some (merged, stored)) :
    (added.name ∉ fields.map Field.name ∧ merged = fields ++ [added] ∧ stored = added) ∨
      ∃ before field after,
        fields = before ++ field :: after ∧
          merged = before ++ stored :: after ∧
          field.name = added.name ∧ field.Merges added stored := by
  induction fields generalizing merged with
  | nil =>
      simp only [mergeField?, Option.some.injEq, Prod.mk.injEq] at hmerge
      obtain ⟨rfl, rfl⟩ := hmerge
      exact Or.inl ⟨by simp, rfl, rfl⟩
  | cons first fields ih =>
      unfold mergeField? at hmerge
      split at hmerge
      · next hname =>
        obtain ⟨absorbed, habsorb, hpair⟩ := Option.map_eq_some_iff.1 hmerge
        simp only [Prod.mk.injEq] at hpair
        obtain ⟨rfl, rfl⟩ := hpair
        exact Or.inr ⟨[], first, fields, rfl, rfl, hname,
          Field.merges_of_absorb? hname habsorb⟩
      · next hname =>
        obtain ⟨⟨later, kept⟩, hlater, hpair⟩ := Option.map_eq_some_iff.1 hmerge
        simp only [Prod.mk.injEq] at hpair
        obtain ⟨rfl, rfl⟩ := hpair
        rcases ih hlater with ⟨hnew, rfl, rfl⟩ | ⟨before, field, after, rfl, rfl, hfield⟩
        · refine Or.inl ⟨?_, rfl, rfl⟩
          simp only [List.map_cons, List.mem_cons, not_or]
          exact ⟨fun heq => hname heq.symm, hnew⟩
        · exact Or.inr ⟨first :: before, field, after, rfl, rfl, hfield⟩

theorem exists_mergeField?
    {fields : List Field} {added : Field}
    (houtline : ∀ field ∈ fields, field.name = added.name →
      field.outline = added.outline) :
    ∃ merged stored, mergeField? fields added = some (merged, stored) := by
  induction fields with
  | nil => exact ⟨_, _, rfl⟩
  | cons first fields ih =>
      rw [List.forall_mem_cons] at houtline
      unfold mergeField?
      split
      · next hname =>
        obtain ⟨absorbed, habsorb⟩ :=
          Field.exists_absorb?_of_outline_eq (houtline.1 hname)
        exact ⟨_, _, by rw [habsorb]; rfl⟩
      · obtain ⟨merged, stored, hmerge⟩ := ih houtline.2
        exact ⟨_, _, by rw [hmerge]; rfl⟩

/-! ## What a list has been gathered from -/

/-- A field holds what was offered under its name. -/
structure FieldGathers (offered : List Field) (field : Field) : Prop where
  outline_eq : ∀ offer ∈ offered, offer.name = field.name → offer.outline = field.outline
  mem_values : ∀ value, value ∈ field.discriminatorValues ↔
    ∃ offer ∈ offered, offer.name = field.name ∧ value ∈ offer.discriminatorValues
  values_ascend : Ascending textBefore field.discriminatorValues
  comment_eq : field.comment = "" ↔
    ∀ offer ∈ offered, offer.name = field.name → offer.comment = ""

/-- A list holds one field for every name that was offered. -/
structure FieldsGather (offered fields : List Field) : Prop where
  nodup : (fields.map Field.name).Nodup
  mem_names : ∀ name, name ∈ fields.map Field.name ↔ name ∈ offered.map Field.name
  gathers : ∀ field ∈ fields, FieldGathers offered field

theorem FieldsGather.nil : FieldsGather [] [] := by
  constructor <;> simp

theorem FieldGathers.of_fresh
    {offered : List Field} {added : Field}
    (hfresh : ∀ offer ∈ offered, offer.name ≠ added.name)
    (hascend : Ascending textBefore added.discriminatorValues) :
    FieldGathers (offered ++ [added]) added := by
  have honly : ∀ offer ∈ offered ++ [added], offer.name = added.name → offer = added := by
    intro offer hoffer hname
    rcases List.mem_append.1 hoffer with hold | hnew
    · exact (hfresh offer hold hname).elim
    · exact List.mem_singleton.1 hnew
  have hadded : added ∈ offered ++ [added] := by simp
  constructor
  · intro offer hoffer hname
    rw [honly offer hoffer hname]
  · intro value
    constructor
    · exact fun hvalue => ⟨added, hadded, rfl, hvalue⟩
    · rintro ⟨offer, hoffer, hname, hvalue⟩
      exact honly offer hoffer hname ▸ hvalue
  · exact hascend
  · constructor
    · intro hblank offer hoffer hname
      rw [honly offer hoffer hname, hblank]
    · exact fun hall => hall added hadded rfl

theorem FieldGathers.append_of_ne
    {offered : List Field} {field added : Field}
    (hgathers : FieldGathers offered field) (hname : added.name ≠ field.name) :
    FieldGathers (offered ++ [added]) field := by
  constructor
  · intro offer hoffer hsame
    rcases List.mem_append.1 hoffer with hold | hnew
    · exact hgathers.outline_eq offer hold hsame
    · rw [List.mem_singleton.1 hnew] at hsame
      exact (hname hsame).elim
  · intro value
    rw [hgathers.mem_values]
    simp [or_and_right, exists_or, hname]
  · exact hgathers.values_ascend
  · rw [hgathers.comment_eq]
    simp [or_imp, forall_and, hname]

theorem FieldGathers.append_of_merges
    {offered : List Field} {field added stored : Field}
    (hgathers : FieldGathers offered field) (hname : field.name = added.name)
    (hmerges : field.Merges added stored) :
    FieldGathers (offered ++ [added]) stored := by
  have hstored : stored.name = field.name := hmerges.name_eq
  constructor
  · intro offer hoffer hsame
    rcases List.mem_append.1 hoffer with hold | hnew
    · rw [hgathers.outline_eq offer hold (hsame.trans hstored), hmerges.outline_left]
    · rw [List.mem_singleton.1 hnew, hmerges.outline_right]
  · intro value
    rw [hmerges.mem_values, hgathers.mem_values, hstored]
    simp [or_and_right, exists_or, hname]
  · exact hmerges.values_ascend hgathers.values_ascend
  · have hcomment : stored.comment = "" ↔ field.comment = "" ∧ added.comment = "" := by
      rw [hmerges.comment_eq]
      split
      · next hblank => simp [hblank]
      · next hkept => simp [hkept]
    rw [hcomment, hgathers.comment_eq, hstored]
    simp [or_imp, forall_and, hname]

theorem FieldsGather.append_fresh
    {offered fields : List Field} {added : Field} (hgather : FieldsGather offered fields)
    (hascend : Ascending textBefore added.discriminatorValues)
    (hnew : added.name ∉ fields.map Field.name) :
    FieldsGather (offered ++ [added]) (fields ++ [added]) := by
  constructor
  · rw [List.map_append, List.nodup_append]
    refine ⟨hgather.nodup, List.nodup_singleton _, ?_⟩
    intro name hmem other hother hsame
    rw [List.map_singleton, List.mem_singleton] at hother
    exact hnew (hother ▸ hsame ▸ hmem)
  · intro name
    rw [List.map_append, List.map_append, List.mem_append, List.mem_append,
      hgather.mem_names]
  · intro field hfield
    rcases List.mem_append.1 hfield with hold | hlast
    · refine (hgather.gathers field hold).append_of_ne fun hsame => hnew ?_
      exact hsame ▸ List.mem_map_of_mem hold
    · rw [List.mem_singleton.1 hlast]
      refine FieldGathers.of_fresh (fun offer hoffer hsame => hnew ?_) hascend
      exact (hgather.mem_names _).2 (hsame ▸ List.mem_map_of_mem hoffer)

theorem FieldsGather.replace_merged
    {offered before after : List Field} {field added stored : Field}
    (hgather : FieldsGather offered (before ++ field :: after))
    (hname : field.name = added.name) (hmerges : field.Merges added stored) :
    FieldsGather (offered ++ [added]) (before ++ stored :: after) := by
  have hnames :
      (before ++ stored :: after).map Field.name =
        (before ++ field :: after).map Field.name := by
    simp [hmerges.name_eq]
  have hdistinct : ∀ f, f ∈ before ∨ f ∈ after → added.name ≠ f.name := by
    intro f hf hsame
    have hnodup := hgather.nodup
    rw [List.map_append, List.map_cons, List.nodup_middle, List.nodup_cons,
      ← List.map_append] at hnodup
    refine hnodup.1 ?_
    rw [hname, hsame]
    exact List.mem_map_of_mem (List.mem_append.2 hf)
  constructor
  · rw [hnames]
    exact hgather.nodup
  · intro name
    rw [hnames, hgather.mem_names, List.map_append, List.mem_append]
    refine ⟨Or.inl, fun hmem => hmem.elim id fun hlast => ?_⟩
    rw [List.map_singleton, List.mem_singleton] at hlast
    exact (hgather.mem_names _).1 (by simp [hlast, hname])
  · intro other hother
    rcases List.mem_append.1 hother with hbefore | hrest
    · exact (hgather.gathers other (by simp [hbefore])).append_of_ne
        (hdistinct other (Or.inl hbefore))
    · rcases List.mem_cons.1 hrest with rfl | hafter
      · exact (hgather.gathers field (by simp)).append_of_merges hname hmerges
      · exact (hgather.gathers other (by simp [hafter])).append_of_ne
          (hdistinct other (Or.inr hafter))

/-- A field that is merged is gathered, whether it is new or not. -/
theorem FieldsGather.merge
    {offered fields merged : List Field} {added stored : Field}
    (hgather : FieldsGather offered fields)
    (hascend : Ascending textBefore added.discriminatorValues)
    (hmerge : mergeField? fields added = some (merged, stored)) :
    FieldsGather (offered ++ [added]) merged := by
  rcases mergeField?_cases hmerge with
    ⟨hnew, rfl, rfl⟩ | ⟨before, field, after, rfl, rfl, hname, hmerges⟩
  · exact hgather.append_fresh hascend hnew
  · exact hgather.replace_merged hname hmerges

theorem FieldsGather.exists_merge
    {offered fields : List Field} {added : Field}
    (hgather : FieldsGather offered fields)
    (houtline : ∀ offer ∈ offered, offer.name = added.name →
      offer.outline = added.outline) :
    ∃ merged stored, mergeField? fields added = some (merged, stored) := by
  refine exists_mergeField? fun field hfield hname => ?_
  obtain ⟨offer, hoffer, hsame⟩ :=
    List.mem_map.1 ((hgather.mem_names field.name).1 (List.mem_map_of_mem hfield))
  rw [← (hgather.gathers field hfield).outline_eq offer hoffer hsame]
  exact houtline offer hoffer (hsame.trans hname)

theorem Field.discriminator_eq_of_outline_eq
    {a b : Field} (houtline : a.outline = b.outline)
    (hvalues : a.discriminatorValues = b.discriminatorValues) :
    a.discriminator = b.discriminator := by
  obtain ⟨-, -, hdiscriminator⟩ := (outline_eq_iff a b).1 houtline
  revert hvalues hdiscriminator
  unfold discriminatorValues
  rcases a.discriminator with _ | ⟨values | _⟩ <;>
    rcases b.discriminator with _ | ⟨values' | _⟩ <;>
    simp [Discriminator.outline]

theorem FieldGathers.blurred_eq
    {offered others : List Field} {a b : Field}
    (ha : FieldGathers offered a) (hb : FieldGathers others b)
    (hname : a.name = b.name) (hmem : ∀ offer, offer ∈ offered ↔ offer ∈ others)
    (hnames : a.name ∈ offered.map Field.name) : a.blurred = b.blurred := by
  obtain ⟨offer, hoffer, hsame⟩ := List.mem_map.1 hnames
  have houtline : a.outline = b.outline := by
    rw [← ha.outline_eq offer hoffer hsame,
      hb.outline_eq offer ((hmem offer).1 hoffer) (hsame.trans hname)]
  have hvalues : a.discriminatorValues = b.discriminatorValues := by
    refine ha.values_ascend.eq_of_mem_iff textBefore_strictlyOrders hb.values_ascend ?_
    intro value
    rw [ha.mem_values, hb.mem_values, hname]
    simp only [hmem]
  have hcomment : a.comment = "" ↔ b.comment = "" := by
    rw [ha.comment_eq, hb.comment_eq, hname]
    simp only [hmem]
  have hdiscriminator := Field.discriminator_eq_of_outline_eq houtline hvalues
  cases a
  cases b
  simp_all [Field.outline, Field.blurred, blurComment_eq_iff]

theorem FieldsGather.blurred_subset
    {offered others fields fields' : List Field}
    (hfields : FieldsGather offered fields) (hfields' : FieldsGather others fields')
    (hmem : ∀ offer, offer ∈ offered ↔ offer ∈ others)
    {field : Field} (hfield : field ∈ fields.map Field.blurred) :
    field ∈ fields'.map Field.blurred := by
  obtain ⟨a, ha, rfl⟩ := List.mem_map.1 hfield
  have hoffered : a.name ∈ offered.map Field.name :=
    (hfields.mem_names _).1 (List.mem_map_of_mem ha)
  obtain ⟨offer, hoffer, hsame⟩ := List.mem_map.1 hoffered
  obtain ⟨b, hb, hname⟩ := List.mem_map.1
    ((hfields'.mem_names a.name).2
      (hsame ▸ List.mem_map_of_mem ((hmem offer).1 hoffer)))
  rw [(hfields.gathers a ha).blurred_eq (hfields'.gathers b hb) hname.symm hmem hoffered]
  exact List.mem_map_of_mem hb

/-- Fields are gathered alike in whatever order they are offered. -/
theorem FieldsGather.blurred_perm
    {offered others fields fields' : List Field}
    (hfields : FieldsGather offered fields) (hfields' : FieldsGather others fields')
    (hmem : ∀ offer, offer ∈ offered ↔ offer ∈ others) :
    (fields.map Field.blurred).Perm (fields'.map Field.blurred) := by
  have hnodup : ∀ {fs : List Field}, (fs.map Field.name).Nodup →
      (fs.map Field.blurred).Nodup := by
    intro fs hfs
    refine List.Nodup.of_map Field.name ?_
    rwa [List.map_map]
  refine (List.perm_ext_iff_of_nodup (hnodup hfields.nodup) (hnodup hfields'.nodup)).2 ?_
  intro field
  exact ⟨hfields.blurred_subset hfields' hmem,
    hfields'.blurred_subset hfields fun offer => (hmem offer).symm⟩

end DocContract
