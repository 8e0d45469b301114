import DocContract.Proofs.SymbolTables

/-!
# Fields as unions of offers

Fields are added to a symbol one after the other, and each is merged with the one of its
name.  Whether all of them can be added does not depend on their order: it depends on
whether any two offers of one name agree.  What comes out is, for every name, the union of
its offers, in the order in which the names were offered first, and adding one of the
offers again leaves it as it is.
-/

namespace DocContract

/-- Two discriminators that are both absent, both of any value, or both of certain
values. -/
inductive Discriminator.SameForm : Option Discriminator → Option Discriminator → Prop where
  | absent : SameForm none none
  | notEmpty : SameForm (some .notEmpty) (some .notEmpty)
  | values {values others : List String} :
      SameForm (some (.values values)) (some (.values others))

theorem Discriminator.sameForm_iff (a b : Option Discriminator) :
    SameForm a b ↔ a.map outline = b.map outline := by
  constructor
  · intro hform
    cases hform <;> rfl
  · intro houtline
    rcases a with _ | ⟨values | _⟩ <;> rcases b with _ | ⟨others | _⟩
    case none.none => exact .absent
    case some.values.some.values => exact .values
    case some.notEmpty.some.notEmpty => exact .notEmpty
    all_goals simp [outline] at houtline

/-- What two offers of one name have to agree in. -/
structure Field.Agrees (a b : Field) : Prop where
  type_eq : a.type = b.type
  optional_eq : a.optional = b.optional
  omitEmpty_eq : a.omitEmpty = b.omitEmpty
  typeSpecific_eq : a.typeSpecific = b.typeSpecific
  literal_eq : a.literal = b.literal
  discriminators : Discriminator.SameForm a.discriminator b.discriminator

theorem Field.outline_eq_iff_agrees {a b : Field} (hname : a.name = b.name) :
    a.outline = b.outline ↔ a.Agrees b := by
  rw [outline_eq_iff, ← Discriminator.sameForm_iff]
  simp only [sameShape, Bool.and_eq_true, beq_iff_eq]
  constructor
  · rintro ⟨-, ⟨⟨⟨⟨htype, hoptional⟩, homit⟩, hspecific⟩, hliteral⟩, hform⟩
    exact ⟨htype, hoptional, homit, hspecific, hliteral, hform⟩
  · intro h
    exact ⟨hname,
      ⟨⟨⟨⟨h.type_eq, h.optional_eq⟩, h.omitEmpty_eq⟩, h.typeSpecific_eq⟩, h.literal_eq⟩,
      h.discriminators⟩

def OffersAgree (offers : List Field) : Prop :=
  ∀ a ∈ offers, ∀ b ∈ offers, a.name = b.name → a.Agrees b

theorem OffersAgree.outline_eq
    {offers : List Field} (hagree : OffersAgree offers) {a b : Field} (ha : a ∈ offers)
    (hb : b ∈ offers) (hname : a.name = b.name) : a.outline = b.outline :=
  (Field.outline_eq_iff_agrees hname).2 (hagree a ha b hb hname)

/-- The first comment among the offers of a name that says anything. -/
def firstComment (offers : List Field) (name : String) : String :=
  (((offers.filter (·.name == name)).map Field.comment).find? (· != "")).getD ""

theorem firstComment_append (offers others : List Field) (name : String) :
    firstComment (offers ++ others) name =
      if firstComment offers name = "" then firstComment others name
      else firstComment offers name := by
  unfold firstComment
  rw [List.filter_append, List.map_append, List.find?_append]
  cases hfirst : ((offers.filter (·.name == name)).map Field.comment).find? (· != "") with
  | none => simp
  | some comment =>
      have hspeaks : comment ≠ "" := by simpa using List.find?_some hfirst
      simp [hspeaks]

theorem firstComment_singleton (field : Field) (name : String) :
    firstComment [field] name = if field.name = name then field.comment else "" := by
  unfold firstComment
  by_cases hname : field.name = name
  · by_cases hblank : field.comment = "" <;> simp [hname, hblank]
  · simp [hname]

theorem firstComment_of_notMem
    {offers : List Field} {name : String} (hnew : name ∉ offers.map Field.name) :
    firstComment offers name = "" := by
  have hnone : offers.filter (·.name == name) = [] := by
    rw [List.filter_eq_nil_iff]
    intro field hfield hname
    exact hnew (List.mem_map.2 ⟨field, hfield, by simpa using hname⟩)
  rw [firstComment, hnone]
  rfl

/-- Fields that unite some offers: one for each name, in the order in which the names were
offered first, with all values and the first comment. -/
structure FieldsUnite (offers fields : List Field) : Prop where
  gather : FieldsGather offers fields
  names_eq : fields.map Field.name = (offers.map Field.name).eraseDups
  comment_eq : ∀ field ∈ fields, field.comment = firstComment offers field.name

theorem FieldsUnite.nil : FieldsUnite [] [] :=
  ⟨.nil, rfl, by simp⟩

section Merging

variable {offers fields merged : List Field} {added stored : Field}

theorem FieldsUnite.offersAgree (hunite : FieldsUnite offers fields) :
    OffersAgree offers := by
  intro a ha b hb hname
  obtain ⟨field, hfield, hsame⟩ :=
    List.mem_map.1 ((hunite.gather.mem_names a.name).2 (List.mem_map_of_mem ha))
  have hgathers := hunite.gather.gathers field hfield
  rw [← Field.outline_eq_iff_agrees hname, hgathers.outline_eq a ha hsame.symm,
    hgathers.outline_eq b hb (hname.symm.trans hsame.symm)]

theorem FieldsUnite.mem_names_iff (hunite : FieldsUnite offers fields) (name : String) :
    name ∈ fields.map Field.name ↔ name ∈ offers.map Field.name :=
  hunite.gather.mem_names name

/-- A field that is merged is united with the offers before it. -/
theorem FieldsUnite.merge
    (hunite : FieldsUnite offers fields)
    (hascend : Ascending textBefore added.discriminatorValues)
    (hmerge : mergeField? fields added = some (merged, stored)) :
    FieldsUnite (offers ++ [added]) merged := by
  have hcomment (field : Field) (hfield : field ∈ fields)
    (hother : added.name ≠ field.name) :
      field.comment = firstComment (offers ++ [added]) field.name := by
    rw [firstComment_append, firstComment_singleton, if_neg hother,
      ← hunite.comment_eq field hfield]
    split
    · next hblank => exact hblank
    · rfl
  refine ⟨hunite.gather.merge hascend hmerge, ?_, ?_⟩
  · rw [List.map_append, List.eraseDups_append, ← hunite.names_eq]
    rcases mergeField?_cases hmerge with
      ⟨hnew, rfl, rfl⟩ | ⟨before, field, after, rfl, rfl, hname, hmerges⟩
    · have hoffered := (hunite.mem_names_iff stored.name).not.1 hnew
      simp only [List.map_append, List.map_singleton]
      rw [List.removeAll, List.filter_cons_of_pos (by simpa using hoffered),
        List.filter_nil]
      rfl
    · have hoffered : added.name ∈ offers.map Field.name :=
        (hunite.mem_names_iff added.name).1 (by simp [hname])
      rw [List.map_singleton, List.removeAll,
        List.filter_cons_of_neg (by simpa using hoffered), List.filter_nil]
      simp [hmerges.name_eq]
  · rcases mergeField?_cases hmerge with
      ⟨hnew, rfl, rfl⟩ | ⟨before, field, after, rfl, rfl, hname, hmerges⟩
    · intro field hfield
      rcases List.mem_append.1 hfield with hold | hlast
      · exact hcomment field hold fun hsame => hnew (hsame ▸ List.mem_map_of_mem hold)
      · obtain rfl := List.mem_singleton.1 hlast
        have hoffered := (hunite.mem_names_iff field.name).not.1 hnew
        rw [firstComment_append, firstComment_of_notMem hoffered, firstComment_singleton]
        simp
    · have hdistinct := hunite.gather.nodup
      rw [List.map_append, List.map_cons, List.nodup_middle, List.nodup_cons,
        ← List.map_append]
        at hdistinct
      have hother (other : Field) (hmem : other ∈ before ++ after) :
          added.name ≠ other.name :=
        fun hsame => hdistinct.1 (hname ▸ hsame ▸ List.mem_map_of_mem hmem)
      intro other hmem
      rcases List.mem_append.1 hmem with hbefore | hrest
      · exact hcomment other (by simp [hbefore]) (hother other (by simp [hbefore]))
      · rcases List.mem_cons.1 hrest with rfl | hafter
        · rw [firstComment_append, firstComment_singleton, hmerges.name_eq,
            if_pos hname.symm, hmerges.comment_eq, hunite.comment_eq field (by simp)]
        · exact hcomment other (by simp [hafter]) (hother other (by simp [hafter]))

theorem mergeField?_of_notMem (hnew : added.name ∉ fields.map Field.name) :
    mergeField? fields added = some (fields ++ [added], added) := by
  induction fields with
  | nil => rfl
  | cons first fields ih =>
      rw [List.map_cons, List.mem_cons, not_or] at hnew
      rw [mergeField?, if_neg fun hname => hnew.1 hname.symm, ih hnew.2]
      rfl

/-- Merging an offer that has nothing new. -/
theorem mergeField?_of_absorb?_eq_self
    (hnodup : (fields.map Field.name).Nodup) (hmem : stored ∈ fields)
    (hname : stored.name = added.name)
    (habsorb : stored.absorb? added = some stored) :
    mergeField? fields added = some (fields, stored) := by
  induction fields with
  | nil => simp at hmem
  | cons first fields ih =>
      rw [List.map_cons, List.nodup_cons] at hnodup
      rcases List.mem_cons.1 hmem with rfl | hlater
      · rw [mergeField?, if_pos hname, habsorb]
        rfl
      · have hother : first.name ≠ added.name := by
          intro hsame
          exact hnodup.1 (hsame.trans hname.symm ▸ List.mem_map_of_mem hlater)
        rw [mergeField?, if_neg hother, ih hnodup.2 hlater]
        rfl

theorem unionTexts_of_subset
    {set added : List String} (hset : Ascending textBefore set) (hsubset : added ⊆ set) :
    unionTexts set added = set := by
  refine (hset.unionTexts added).eq_of_mem_iff textBefore_strictlyOrders hset
    fun text => ?_
  rw [mem_unionTexts]
  exact or_iff_left_of_imp fun hmem => hsubset hmem

/-- An offer is absorbed without a trace by a field that holds it already. -/
theorem Field.absorb?_eq_self
    (houtline : stored.outline = added.outline)
    (hascend : Ascending textBefore stored.discriminatorValues)
    (hvalues : added.discriminatorValues ⊆ stored.discriminatorValues)
    (hcomment : stored.comment = "" → added.comment = "") :
    stored.absorb? added = some stored := by
  obtain ⟨-, hshape, hform⟩ := (outline_eq_iff _ _).1 houtline
  have hmerge : mergeDiscriminators stored.discriminator added.discriminator =
      some stored.discriminator := by
    rw [← Discriminator.sameForm_iff] at hform
    rw [discriminatorValues] at hascend
    unfold discriminatorValues at hvalues
    generalize stored.discriminator = current at *
    generalize added.discriminator = offered at *
    cases hform with
    | absent => rfl
    | notEmpty => rfl
    | values => rw [mergeDiscriminators, unionTexts_of_subset hascend hvalues]
  have hkept : (if stored.comment.isEmpty then added.comment else stored.comment) =
      stored.comment := by
    by_cases hblank : stored.comment = "" <;> simp [hblank, hcomment]
  rw [absorb?, if_pos hshape, hmerge, Option.map_some, hkept]

/-- An offer that has been united is merged again without a trace. -/
theorem FieldsUnite.exists_merge_self
    (hunite : FieldsUnite offers fields) (hoffer : added ∈ offers) :
    ∃ stored, mergeField? fields added = some (fields, stored) := by
  obtain ⟨stored, hstored, hname⟩ :=
    List.mem_map.1 ((hunite.mem_names_iff added.name).2 (List.mem_map_of_mem hoffer))
  have hgathers := hunite.gather.gathers stored hstored
  refine ⟨stored, mergeField?_of_absorb?_eq_self hunite.gather.nodup hstored hname ?_⟩
  apply Field.absorb?_eq_self
  · exact (hgathers.outline_eq added hoffer hname.symm).symm
  · exact hgathers.values_ascend
  · exact fun value hvalue =>
      (hgathers.mem_values value).2 ⟨added, hoffer, hname.symm, hvalue⟩
  · exact fun hblank => hgathers.comment_eq.1 hblank added hoffer hname.symm

end Merging

/-! ## Many fields -/

def mergeFields? (fields : List Field) : List Field → Option (List Field)
  | [] => some fields
  | added :: later =>
    match mergeField? fields added with
    | some (merged, _) => mergeFields? merged later
    | none => none

section Merging

variable {offers fields merged added : List Field}

theorem mergeFields?_cons_eq_some_iff {first : Field} {later : List Field} :
    mergeFields? fields (first :: later) = some merged ↔
      ∃ middle stored, mergeField? fields first = some (middle, stored) ∧
        mergeFields? middle later = some merged := by
  rw [mergeFields?]
  split
  · next middle stored hmerge => simp [hmerge]
  · next hnone => simp [hnone]

theorem FieldsUnite.mergeFields
    (hunite : FieldsUnite offers fields)
    (hascend : ∀ field ∈ added, Ascending textBefore field.discriminatorValues)
    (hmerge : mergeFields? fields added = some merged) :
    FieldsUnite (offers ++ added) merged := by
  induction added generalizing offers fields with
  | nil =>
      obtain rfl := Option.some.inj hmerge
      rwa [List.append_nil]
  | cons first later ih =>
      rw [List.forall_mem_cons] at hascend
      obtain ⟨middle, stored, hfirst, hlater⟩ := mergeFields?_cons_eq_some_iff.1 hmerge
      rw [List.append_cons]
      exact ih (hunite.merge hascend.1 hfirst) hascend.2 hlater

theorem FieldsUnite.exists_mergeFields
    (hunite : FieldsUnite offers fields)
    (hascend : ∀ field ∈ added, Ascending textBefore field.discriminatorValues)
    (hagree : OffersAgree (offers ++ added)) :
    ∃ merged, mergeFields? fields added = some merged := by
  induction added generalizing offers fields with
  | nil => exact ⟨fields, rfl⟩
  | cons first later ih =>
      rw [List.forall_mem_cons] at hascend
      have hmem : first ∈ offers ++ first :: later := by simp
      obtain ⟨middle, stored, hfirst⟩ :=
          hunite.gather.exists_merge fun offer hoffer hname =>
        hagree.outline_eq (List.mem_append_left _ hoffer) hmem hname
      rw [List.append_cons] at hagree
      obtain ⟨merged, hlater⟩ := ih (hunite.merge hascend.1 hfirst) hascend.2 hagree
      exact ⟨merged, mergeFields?_cons_eq_some_iff.2 ⟨middle, stored, hfirst, hlater⟩⟩

/-- In another order the fields can be merged as well, and comments apart the same comes
out. -/
theorem FieldsUnite.exists_mergeFields_of_perm
    (hunite : FieldsUnite offers fields)
    (hascend : ∀ field ∈ added, Ascending textBefore field.discriminatorValues)
    (hmerge : mergeFields? fields added = some merged) {others : List Field}
    (hperm : others.Perm added) :
    ∃ merged', mergeFields? fields others = some merged' ∧
      FieldsUnite (offers ++ others) merged' ∧
      (merged'.map Field.blurred).Perm (merged.map Field.blurred) := by
  have hmerged := hunite.mergeFields hascend hmerge
  have hmem (field : Field) : field ∈ offers ++ others ↔ field ∈ offers ++ added := by
    rw [List.mem_append, List.mem_append, hperm.mem_iff]
  have hascends : ∀ field ∈ others, Ascending textBefore field.discriminatorValues :=
    fun field hfield => hascend field (hperm.mem_iff.1 hfield)
  have hagree : OffersAgree (offers ++ others) := fun a ha b hb =>
    hmerged.offersAgree a ((hmem a).1 ha) b ((hmem b).1 hb)
  obtain ⟨merged', hmerge'⟩ := hunite.exists_mergeFields hascends hagree
  have hmerged' := hunite.mergeFields hascends hmerge'
  exact ⟨merged', hmerge', hmerged', hmerged'.gather.blurred_perm hmerged.gather hmem⟩

theorem mergeFields?_of_nodup {before : List Field}
    (hnodup : ((before ++ fields).map Field.name).Nodup) :
    mergeFields? before fields = some (before ++ fields) := by
  induction fields generalizing before with
  | nil => rw [mergeFields?, List.append_nil]
  | cons first later ih =>
      have hnew : first.name ∉ before.map Field.name := by
        rw [List.map_append, List.map_cons, List.nodup_middle, List.nodup_cons,
          List.mem_append, not_or] at hnodup
        exact hnodup.1.1
      rw [List.append_cons] at hnodup ⊢
      exact mergeFields?_cons_eq_some_iff.2 ⟨_, _, mergeField?_of_notMem hnew, ih hnodup⟩

/-- Fields with different names unite themselves. -/
theorem FieldsUnite.self
    (hnodup : (fields.map Field.name).Nodup)
    (hascend : ∀ field ∈ fields, Ascending textBefore field.discriminatorValues) :
    FieldsUnite fields fields :=
  FieldsUnite.nil.mergeFields hascend (mergeFields?_of_nodup hnodup)

end Merging

theorem Symbol.withFields_withFields (symbol : Symbol) (fields others : List Field) :
    (symbol.withFields fields).withFields others = symbol.withFields others := by
  cases symbol <;> rfl

theorem Symbol.TakesFields.withFields
    {symbol : Symbol} (htakes : symbol.TakesFields) (fields : List Field) :
    (symbol.withFields fields).TakesFields := by
  rwa [TakesFields, withFields_kind]

namespace SymbolTable

/-- Adds fields to the symbol with a name, one after the other. -/
def attachAll (target : String) (table : SymbolTable) :
    List Field → Except SchemaError SymbolTable
  | [] => .ok table
  | added :: later =>
    match table.attach target added with
    | .ok (table, _) => attachAll target table later
    | .error fault => .error fault

variable {before after result : SymbolTable} {symbol : Symbol}

/-- A field is added to the first symbol with the name. -/
theorem attach_append_eq_ok_iff
    (htakes : symbol.TakesFields) (hfirst : symbol.name ∉ before.names)
    {added stored : Field} :
    attach symbol.name added (before ++ symbol :: after) = .ok (result, stored) ↔
      ∃ fields, mergeField? symbol.fields added = some (fields, stored) ∧
        result = before ++ symbol.withFields fields :: after := by
  induction before generalizing result with
  | nil =>
      rw [List.nil_append, attach, if_pos rfl]
      constructor
      · intro hattach
        split at hattach
        · next updated kept hupdated =>
          obtain ⟨rfl, rfl⟩ := Prod.mk.inj (Except.ok.inj hattach)
          obtain ⟨-, fields, hmerge, rfl⟩ := (Symbol.attach_eq_ok_iff _ _ _ _).1 hupdated
          exact ⟨fields, hmerge, rfl⟩
        · contradiction
      · rintro ⟨fields, hmerge, rfl⟩
        rw [(Symbol.attach_eq_ok_iff symbol _ added stored).2
          ⟨htakes, fields, hmerge, rfl⟩]
        rfl
  | cons other before ih =>
      rw [names_cons, List.mem_cons, not_or] at hfirst
      rw [List.cons_append, attach, if_neg fun hname => hfirst.1 hname.symm]
      constructor
      · intro hattach
        split at hattach
        · next table kept hlater =>
          obtain ⟨rfl, rfl⟩ := Prod.mk.inj (Except.ok.inj hattach)
          obtain ⟨fields, hmerge, rfl⟩ := (ih hfirst.2).1 hlater
          exact ⟨fields, hmerge, rfl⟩
        · contradiction
      · rintro ⟨fields, hmerge, rfl⟩
        rw [(ih hfirst.2).2 ⟨fields, hmerge, rfl⟩]
        rfl

theorem attach_withFields
    (htakes : symbol.TakesFields) (hfirst : symbol.name ∉ before.names)
    {fields merged : List Field}
    {added stored : Field} (hmerge : mergeField? fields added = some (merged, stored)) :
    attach symbol.name added (before ++ symbol.withFields fields :: after) =
      .ok (before ++ symbol.withFields merged :: after, stored) := by
  have hname : (symbol.withFields fields).name = symbol.name :=
    symbol.withFields_name fields
  have hattach : attach (symbol.withFields fields).name added
      (before ++ symbol.withFields fields :: after) =
        .ok (before ++ (symbol.withFields fields).withFields merged :: after, stored) :=
    (attach_append_eq_ok_iff (htakes.withFields fields) (by rwa [hname])).2
      ⟨merged, by rwa [htakes.withFields_fields], rfl⟩
  rwa [hname, Symbol.withFields_withFields] at hattach

theorem attachAll_eq_ok_iff
    (htakes : symbol.TakesFields) (hfirst : symbol.name ∉ before.names)
    (added : List Field) :
    attachAll symbol.name (before ++ symbol :: after) added = .ok result ↔
      ∃ fields, mergeFields? symbol.fields added = some fields ∧
        result = before ++ symbol.withFields fields :: after := by
  induction added generalizing symbol with
  | nil =>
      have hsame : symbol.withFields symbol.fields = symbol := by
        cases symbol <;> rfl
      simp [attachAll, mergeFields?, hsame, eq_comm]
  | cons first later ih =>
      have hstep (fields : List Field) : attachAll symbol.name
          (before ++ symbol.withFields fields :: after) later = .ok result ↔
            ∃ merged, mergeFields? fields later = some merged ∧
              result = before ++ symbol.withFields merged :: after := by
        have hlater := ih (htakes.withFields fields) (by rwa [Symbol.withFields_name])
        simpa only [Symbol.withFields_name, htakes.withFields_fields,
          Symbol.withFields_withFields]
          using hlater
      rw [attachAll]
      constructor
      · intro hall
        split at hall
        · next table stored hattach =>
          obtain ⟨fields, hmerge, rfl⟩ := (attach_append_eq_ok_iff htakes hfirst).1 hattach
          obtain ⟨merged, hlater, rfl⟩ := (hstep fields).1 hall
          exact ⟨merged, mergeFields?_cons_eq_some_iff.2 ⟨fields, stored, hmerge, hlater⟩,
            rfl⟩
        · contradiction
      · rintro ⟨merged, hall, rfl⟩
        obtain ⟨fields, stored, hmerge, hlater⟩ := mergeFields?_cons_eq_some_iff.1 hall
        rw [(attach_append_eq_ok_iff htakes hfirst).2 ⟨fields, hmerge, rfl⟩]
        exact (hstep fields).2 ⟨merged, hlater, rfl⟩

end SymbolTable

/-- Fields, whose values ascend as everywhere, can be added to a record or closed union one
after the other if any two of one name agree, and only then.  What comes out unites them
with those that were there.  In another order they can be added as well, and the fields are
the same but for their order and the wording of comments; and adding one of them again
changes nothing. -/
theorem attached_fields_unite
    {before after : SymbolTable} {symbol : Symbol} (htakes : symbol.TakesFields)
    (hfirst : symbol.name ∉ before.names) (hnodup : (symbol.fields.map Field.name).Nodup)
    {added : List Field}
    (hascend : ∀ field ∈ symbol.fields ++ added,
      Ascending textBefore field.discriminatorValues) :
    ((∃ result,
        SymbolTable.attachAll symbol.name (before ++ symbol :: after) added = .ok result) ↔
        OffersAgree (symbol.fields ++ added)) ∧
      ∀ result,
        SymbolTable.attachAll symbol.name (before ++ symbol :: after) added = .ok result →
        ∃ fields, result = before ++ symbol.withFields fields :: after ∧
          FieldsUnite (symbol.fields ++ added) fields ∧
          (∀ others, others.Perm added → ∃ fields',
            SymbolTable.attachAll symbol.name (before ++ symbol :: after) others =
                .ok (before ++ symbol.withFields fields' :: after) ∧
              FieldsUnite (symbol.fields ++ others) fields' ∧
              (fields'.map Field.blurred).Perm (fields.map Field.blurred)) ∧
          ∀ field ∈ symbol.fields ++ added, ∃ stored,
            SymbolTable.attach symbol.name field result = .ok (result, stored) := by
  rw [List.forall_mem_append] at hascend
  have hself := FieldsUnite.self hnodup hascend.1
  have hall (added : List Field) (result : SymbolTable) :
      SymbolTable.attachAll symbol.name (before ++ symbol :: after) added = .ok result ↔
        ∃ fields, mergeFields? symbol.fields added = some fields ∧
          result = before ++ symbol.withFields fields :: after :=
    SymbolTable.attachAll_eq_ok_iff htakes hfirst added
  constructor
  · constructor
    · rintro ⟨result, hresult⟩
      obtain ⟨fields, hmerge, -⟩ := (hall added _).1 hresult
      exact (hself.mergeFields hascend.2 hmerge).offersAgree
    · intro hagree
      obtain ⟨fields, hmerge⟩ := hself.exists_mergeFields hascend.2 hagree
      exact ⟨_, (hall added _).2 ⟨fields, hmerge, rfl⟩⟩
  · intro result hresult
    obtain ⟨fields, hmerge, rfl⟩ := (hall added _).1 hresult
    have hunite := hself.mergeFields hascend.2 hmerge
    refine ⟨fields, rfl, hunite, ?_, ?_⟩
    · intro others hperm
      obtain ⟨fields', hmerge', hunite', hblurred⟩ :=
        hself.exists_mergeFields_of_perm hascend.2 hmerge hperm
      exact ⟨fields', (hall others _).2 ⟨fields', hmerge', rfl⟩, hunite', hblurred⟩
    · intro field hfield
      obtain ⟨stored, hagain⟩ := hunite.exists_merge_self hfield
      exact ⟨stored, SymbolTable.attach_withFields htakes hfirst hagain⟩

/-- A union that has its key and one variant. -/
def fileSymbol : Symbol :=
  .closedUnion
    { name := "File"
      comment := ""
      discriminatorKey := "type"
      fields :=
        [{ name := "type", type := .string },
         { name := "url", type := .string, typeSpecific := true
           discriminator := some (.values ["external"]) }] }

/-- A field that the union has, with another value and a comment, and a new one that comes
twice. -/
def fileOffers : List Field :=
  [{ name := "url", type := .string, comment := "Where it is.", typeSpecific := true
     discriminator := some (.values ["external", "file"]) },
   { name := "caption", type := .string, optional := true },
   { name := "caption", type := .string, comment := "What it shows.", optional := true }]

theorem attached_fields_unite_file :
    fileSymbol.TakesFields ∧ fileSymbol.name ∉ SymbolTable.names [] ∧
      (fileSymbol.fields.map Field.name).Nodup ∧
      (∀ field ∈ fileSymbol.fields ++ fileOffers,
        Ascending textBefore field.discriminatorValues) ∧
      ∃ result,
        SymbolTable.attachAll fileSymbol.name [fileSymbol] fileOffers = .ok result ∧
        OffersAgree (fileSymbol.fields ++ fileOffers) ∧
        ∃ fields, result = [fileSymbol.withFields fields] ∧
          FieldsUnite (fileSymbol.fields ++ fileOffers) fields := by
  have htakes : fileSymbol.TakesFields := .inr rfl
  have hfirst : fileSymbol.name ∉ SymbolTable.names [] := by decide
  have hnodup : (fileSymbol.fields.map Field.name).Nodup := by decide
  have hascend : ∀ field ∈ fileSymbol.fields ++ fileOffers,
      Ascending textBefore field.discriminatorValues := by
    unfold Ascending
    decide +kernel
  obtain ⟨hagree, hunite⟩ :=
    @attached_fields_unite [] [] fileSymbol htakes hfirst hnodup fileOffers hascend
  have hresult : SymbolTable.attachAll fileSymbol.name [fileSymbol] fileOffers = .ok
      [fileSymbol.withFields
        [{ name := "type", type := .string },
         { name := "url", type := .string, comment := "Where it is.", typeSpecific := true
           discriminator := some (.values ["external", "file"]) },
         { name := "caption", type := .string, comment := "What it shows.",
           optional := true }]] := by
    decide +kernel
  obtain ⟨fields, hsame, hfields, -, -⟩ := hunite _ hresult
  exact ⟨htakes, hfirst, hnodup, hascend, _, hresult, hagree.1 ⟨_, hresult⟩, fields,
    hsame, hfields⟩

end DocContract
