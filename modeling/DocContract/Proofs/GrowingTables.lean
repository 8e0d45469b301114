import DocContract.Proofs.Sessions

/-!
# Tables only grow

A change of a table appends a symbol, fills in a comment, appends a field or adds values to
the discriminator of a field.  Each of these keeps what was there: names stay where they
are, and a symbol or a field keeps all that was said of it.  By induction the same holds of
any number of changes, and whatever is true of new symbols and kept by the three changes of
a symbol is true of every symbol of a table.
-/

namespace DocContract

open Relation (ReflTransGen)

/-- Names are only appended, and whatever has a name becomes something that it may
become. -/
structure GrowsBy {α : Type} (name : α → String) (becomes : α → α → Prop)
    (before after : List α) :
    Prop where
  names : before.map name <+: after.map name
  kept : ∀ a ∈ before, ∃ b ∈ after, becomes a b

/-- A field keeps its outline, which is all but its comment and the values of its
discriminator. -/
structure Field.Grows (before after : Field) : Prop where
  outline_eq : after.outline = before.outline
  comment_eq : before.comment ≠ "" → after.comment = before.comment
  values_subset : ∀ value ∈ before.discriminatorValues, value ∈ after.discriminatorValues

/-- A symbol keeps its outline, which is all but its comment and its fields. -/
structure Symbol.Grows (before after : Symbol) : Prop where
  outline_eq : after.outline = before.outline
  comment_eq : before.comment ≠ "" → after.comment = before.comment
  fields_grow : GrowsBy Field.name Field.Grows before.fields after.fields

/-- The symbols of a table stay in their order, and new ones come after them. -/
def SymbolTable.Grows (before after : SymbolTable) : Prop :=
  GrowsBy Symbol.name Symbol.Grows before after

section GrowsBy

variable {α : Type} {name : α → String} {becomes : α → α → Prop}

theorem GrowsBy.refl (hrefl : ∀ a, becomes a a) (as : List α) :
    GrowsBy name becomes as as :=
  ⟨List.prefix_rfl, fun a ha => ⟨a, ha, hrefl a⟩⟩

theorem GrowsBy.trans
    (htrans : ∀ {a b c}, becomes a b → becomes b c → becomes a c) {as bs cs : List α}
    (hab : GrowsBy name becomes as bs) (hbc : GrowsBy name becomes bs cs) :
    GrowsBy name becomes as cs := by
  constructor
  · exact hab.names.trans hbc.names
  · intro a ha
    obtain ⟨b, hb, hleft⟩ := hab.kept a ha
    obtain ⟨c, hc, hright⟩ := hbc.kept b hb
    exact ⟨c, hc, htrans hleft hright⟩

theorem GrowsBy.append (hrefl : ∀ a, becomes a a) (as bs : List α) :
    GrowsBy name becomes as (as ++ bs) := by
  constructor
  · rw [List.map_append]
    exact List.prefix_append _ _
  · intro a ha
    exact ⟨a, List.mem_append_left bs ha, hrefl a⟩

theorem GrowsBy.replace
    (hrefl : ∀ a, becomes a a) {a b : α} (hname : name b = name a) (hbecomes : becomes a b)
    (before after : List α) :
    GrowsBy name becomes (before ++ a :: after) (before ++ b :: after) := by
  constructor
  · have hnames : (before ++ b :: after).map name = (before ++ a :: after).map name := by
      simp [hname]
    exact hnames ▸ List.prefix_rfl
  · intro c hc
    rw [List.mem_append, List.mem_cons] at hc
    rcases hc with hbefore | rfl | hafter
    · exact ⟨c, by simp [hbefore], hrefl c⟩
    · exact ⟨b, by simp, hbecomes⟩
    · exact ⟨c, by simp [hafter], hrefl c⟩

end GrowsBy

theorem Field.Grows.refl (field : Field) : field.Grows field :=
  ⟨rfl, fun _ => rfl, fun _ hvalue => hvalue⟩

theorem Field.Grows.trans {a b c : Field} (hab : a.Grows b) (hbc : b.Grows c) :
    a.Grows c := by
  constructor
  · exact hbc.outline_eq.trans hab.outline_eq
  · intro hcomment
    have hkept : b.comment = a.comment := hab.comment_eq hcomment
    have hkept' : c.comment = b.comment := by
      apply hbc.comment_eq
      rwa [hkept]
    exact hkept'.trans hkept
  · intro value hvalue
    exact hbc.values_subset value (hab.values_subset value hvalue)

theorem Symbol.Grows.refl (symbol : Symbol) : symbol.Grows symbol :=
  ⟨rfl, fun _ => rfl, GrowsBy.refl Field.Grows.refl _⟩

theorem Symbol.Grows.trans {a b c : Symbol} (hab : a.Grows b) (hbc : b.Grows c) :
    a.Grows c := by
  constructor
  · exact hbc.outline_eq.trans hab.outline_eq
  · intro hcomment
    have hkept : b.comment = a.comment := hab.comment_eq hcomment
    have hkept' : c.comment = b.comment := by
      apply hbc.comment_eq
      rwa [hkept]
    exact hkept'.trans hkept
  · exact GrowsBy.trans (fun hleft hright => hleft.trans hright) hab.fields_grow
      hbc.fields_grow

theorem Field.Merges.grows {field added merged : Field}
    (hmerges : field.Merges added merged) :
    field.Grows merged := by
  constructor
  · exact hmerges.outline_left
  · intro hcomment
    rw [hmerges.comment_eq, if_neg hcomment]
  · intro value hvalue
    exact (hmerges.mem_values value).2 (Or.inl hvalue)

theorem growsBy_of_mergeField?
    {fields merged : List Field} {added stored : Field}
    (hmerge : mergeField? fields added = some (merged, stored)) :
    GrowsBy Field.name Field.Grows fields merged := by
  rcases mergeField?_cases hmerge with
    ⟨-, rfl, -⟩ | ⟨before, field, after, rfl, rfl, -, hmerges⟩
  · exact GrowsBy.append Field.Grows.refl fields [added]
  · exact GrowsBy.replace Field.Grows.refl hmerges.name_eq hmerges.grows before after

theorem nodup_of_mergeField?
    {fields merged : List Field} {added stored : Field}
    (hmerge : mergeField? fields added = some (merged, stored))
    (hnodup : (fields.map Field.name).Nodup) : (merged.map Field.name).Nodup := by
  rcases mergeField?_cases hmerge with
    ⟨hnew, rfl, -⟩ | ⟨before, field, after, rfl, rfl, -, hmerges⟩
  · have hnames :
        (fields ++ [added]).map Field.name =
          (fields.map Field.name).concat added.name := by
      simp
    rw [hnames]
    exact hnodup.concat hnew
  · have hnames :
        (before ++ stored :: after).map Field.name =
          (before ++ field :: after).map Field.name := by
      simp [hmerges.name_eq]
    rwa [hnames]

theorem Symbol.grows_adoptComment (existing offered : Symbol) :
    existing.Grows (existing.adoptComment offered) := by
  constructor
  · exact adoptComment_outline existing offered
  · intro hcomment
    cases existing <;> cases offered <;>
      simp_all [adoptComment, comment, keptComment_eq]
  · rw [adoptComment_fields]
    exact GrowsBy.refl Field.Grows.refl _

theorem Symbol.TakesFields.grows_withFields
    {symbol : Symbol} (htakes : symbol.TakesFields) {fields : List Field}
    (hgrow : GrowsBy Field.name Field.Grows symbol.fields fields) :
    symbol.Grows (symbol.withFields fields) := by
  constructor
  · exact withFields_outline symbol fields
  · intro _
    exact withFields_comment symbol fields
  · rwa [htakes.withFields_fields]

/-! ## What a change does to a table -/

theorem SymbolTable.intern_cases
    {table after : SymbolTable} {symbol : Symbol}
    (hintern : SymbolTable.intern symbol table = .ok after) :
    after = table ++ [symbol] ∨
      ∃ before existing later,
        table = before ++ existing :: later ∧
          after = before ++ existing.adoptComment symbol :: later := by
  induction table generalizing after with
  | nil =>
      simp only [intern, Except.ok.injEq] at hintern
      exact Or.inl hintern.symm
  | cons first rest ih =>
      unfold intern at hintern
      split at hintern
      · split at hintern
        · simp only [Except.ok.injEq] at hintern
          exact Or.inr ⟨[], first, rest, rfl, hintern.symm⟩
        · contradiction
      · split at hintern
        · next added hadded =>
          simp only [Except.ok.injEq] at hintern
          subst hintern
          rcases ih hadded with rfl | ⟨before, existing, later, rfl, rfl⟩
          · exact Or.inl rfl
          · exact Or.inr ⟨first :: before, existing, later, rfl, rfl⟩
        · contradiction

theorem SymbolTable.attach_cases
    {table after : SymbolTable} {target : String} {added stored : Field}
    (hattach : SymbolTable.attach target added table = .ok (after, stored)) :
    ∃ before symbol later fields,
      table = before ++ symbol :: later ∧
        after = before ++ symbol.withFields fields :: later ∧
        symbol.TakesFields ∧ mergeField? symbol.fields added = some (fields, stored) := by
  induction table generalizing after with
  | nil => simp [attach] at hattach
  | cons first rest ih =>
      unfold attach at hattach
      split at hattach
      · split at hattach
        · next updated kept hupdated =>
          simp only [Except.ok.injEq, Prod.mk.injEq] at hattach
          obtain ⟨rfl, rfl⟩ := hattach
          obtain ⟨htakes, fields, hmerge, rfl⟩ :=
            (Symbol.attach_eq_ok_iff _ _ _ _).1 hupdated
          exact ⟨[], first, rest, fields, rfl, rfl, htakes, hmerge⟩
        · contradiction
      · split at hattach
        · next extended kept hextended =>
          simp only [Except.ok.injEq, Prod.mk.injEq] at hattach
          obtain ⟨rfl, rfl⟩ := hattach
          obtain ⟨before, symbol, later, fields, rfl, rfl, htakes, hmerge⟩ := ih hextended
          exact ⟨first :: before, symbol, later, fields, rfl, rfl, htakes, hmerge⟩
        · contradiction

theorem SymbolTable.Change.grows
    {table after : SymbolTable} (hchange : table.Change after) : table.Grows after := by
  cases hchange with
  | declared _ hintern =>
      rcases intern_cases hintern with rfl | ⟨before, existing, later, rfl, rfl⟩
      · exact GrowsBy.append Symbol.Grows.refl table _
      · exact GrowsBy.replace Symbol.Grows.refl (Symbol.adoptComment_name _ _)
          (Symbol.grows_adoptComment _ _) before later
  | extended hattach =>
      obtain ⟨before, symbol, later, fields, rfl, rfl, htakes, hmerge⟩ :=
        attach_cases hattach
      exact GrowsBy.replace Symbol.Grows.refl (Symbol.withFields_name _ _)
        (htakes.grows_withFields (growsBy_of_mergeField? hmerge)) before later

theorem SymbolTable.grows_of_changes
    {table after : SymbolTable} (hchanges : ReflTransGen SymbolTable.Change table after) :
    table.Grows after := by
  induction hchanges with
  | refl => exact GrowsBy.refl Symbol.Grows.refl table
  | tail _ hchange ih =>
      exact GrowsBy.trans (fun hleft hright => hleft.trans hright) ih hchange.grows

/-- A property that new symbols have and that no change of a symbol takes away. -/
structure Symbol.Invariant (P : Symbol → Prop) : Prop where
  of_new : ∀ symbol : Symbol, symbol.IsNew → P symbol
  adopt : ∀ existing offered : Symbol, P existing → P (existing.adoptComment offered)
  extend : ∀ (symbol : Symbol) (fields : List Field) (added stored : Field), P symbol →
    symbol.TakesFields → mergeField? symbol.fields added = some (fields, stored) →
      P (symbol.withFields fields)

theorem forall_mem_replace
    {P : Symbol → Prop} {before later : List Symbol} {symbol updated : Symbol}
    (hall : ∀ other ∈ before ++ symbol :: later, P other)
    (hupdated : P symbol → P updated) :
    ∀ other ∈ before ++ updated :: later, P other := by
  intro other hother
  rw [List.mem_append, List.mem_cons] at hother
  rcases hother with hbefore | rfl | hlater
  · exact hall other (by simp [hbefore])
  · exact hupdated (hall symbol (by simp))
  · exact hall other (by simp [hlater])

theorem Symbol.Invariant.of_change
    {P : Symbol → Prop} (hinvariant : Symbol.Invariant P) {table after : SymbolTable}
    (hchange : table.Change after) (hall : ∀ symbol ∈ table, P symbol) :
    ∀ symbol ∈ after, P symbol := by
  cases hchange with
  | declared hnew hintern =>
      rcases SymbolTable.intern_cases
        hintern with rfl | ⟨before, existing, later, rfl, rfl⟩
      · intro symbol hsymbol
        rw [List.mem_append, List.mem_singleton] at hsymbol
        rcases hsymbol with hold | rfl
        · exact hall symbol hold
        · exact hinvariant.of_new symbol hnew
      · exact forall_mem_replace hall (hinvariant.adopt existing _)
  | extended hattach =>
      obtain ⟨before, symbol, later, fields, rfl, rfl, htakes, hmerge⟩ :=
        SymbolTable.attach_cases hattach
      exact forall_mem_replace hall fun hsymbol =>
        hinvariant.extend symbol fields _ _ hsymbol htakes hmerge

theorem Symbol.Invariant.of_changes
    {P : Symbol → Prop} (hinvariant : Symbol.Invariant P) {table : SymbolTable}
    (hchanges : ReflTransGen SymbolTable.Change [] table) :
    ∀ symbol ∈ table, P symbol := by
  induction hchanges with
  | refl => simp
  | tail _ hchange ih => exact hinvariant.of_change hchange ih

theorem Symbol.invariant_named : Symbol.Invariant fun symbol => symbol.isNamed = true := by
  constructor
  · exact fun symbol hnew => hnew.named
  · intro existing offered hnamed
    simpa [isNamed] using hnamed
  · intro symbol fields added stored hnamed _ _
    simpa [isNamed] using hnamed

theorem Symbol.invariant_nodup :
    Symbol.Invariant fun symbol => (symbol.fields.map Field.name).Nodup := by
  constructor
  · intro symbol hnew
    rw [hnew.fields_eq]
    exact symbol.fieldsGather_seed.nodup
  · intro existing offered hfields
    rwa [adoptComment_fields]
  · intro symbol fields added stored hfields htakes hmerge
    rw [htakes.withFields_fields]
    exact nodup_of_mergeField? hmerge hfields

/-- What holds of every table: a symbol is found under its own name and under no other, and
no name stands twice.  There are no checks among the symbols. -/
structure SymbolTable.WellFormed (table : SymbolTable) : Prop where
  names_nodup : table.names.Nodup
  get?_iff : ∀ key symbol, table.get? key = some symbol ↔ symbol ∈ table ∧
    symbol.name = key
  fields_nodup : ∀ symbol ∈ table, (symbol.fields.map Field.name).Nodup
  named : ∀ symbol ∈ table, symbol.isNamed = true

theorem SymbolTable.wellFormed_of_changes
    {table : SymbolTable} (hchanges : ReflTransGen SymbolTable.Change [] table) :
    table.WellFormed := by
  have hnodup : table.names.Nodup := nodup_of_changes hchanges
  constructor
  · exact hnodup
  · exact get?_eq_some_iff hnodup
  · exact Symbol.invariant_nodup.of_changes hchanges
  · exact Symbol.invariant_named.of_changes hchanges

end DocContract
