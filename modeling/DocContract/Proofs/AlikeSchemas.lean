import DocContract.Proofs.GatheredRegistries
import DocContract.Proofs.SchemaValidation
import Mathlib.Data.List.Forall2

/-!
# Schemas that are alike

Registries that have gathered the same contributions differ in the order of fields and in
which comments were kept, and in nothing else.  No test of a schema looks at either, so
such registries are finished together or not at all, and what they are finished to differs
no more than they do.
-/

namespace DocContract

/-- Two symbols differ in the order of their fields and in the wording of comments at
most. -/
structure Symbol.Alike (a b : Symbol) : Prop where
  outline_eq : a.outline = b.outline
  comment_iff : a.comment = "" ↔ b.comment = ""
  fields_perm : (a.fields.map Field.blurred).Perm (b.fields.map Field.blurred)

/-- Two registries have the same names, memberships and checks, and symbols that are
alike. -/
structure Registry.Alike (a b : Registry) : Prop where
  names : ∀ name, name ∈ a.symbols.names ↔ name ∈ b.symbols.names
  symbols : ∀ s ∈ a.symbols, ∀ t ∈ b.symbols, s.name = t.name → s.Alike t
  memberships : ∀ m, m ∈ a.memberships ↔ m ∈ b.memberships
  checks : a.checks = b.checks

/-- Two finished schemas have shared symbols that are alike, one by one, and agree in all
else. -/
structure SymbolGraph.Alike (a b : SymbolGraph) : Prop where
  documents : a.documents = b.documents
  shared : List.Forall₂ Symbol.Alike a.shared b.shared
  memberships : a.memberships = b.memberships

theorem Symbol.Alike.refl (symbol : Symbol) : symbol.Alike symbol :=
  ⟨rfl, Iff.rfl, .refl _⟩

theorem Symbol.Alike.symm {a b : Symbol} (halike : a.Alike b) : b.Alike a :=
  ⟨halike.outline_eq.symm, halike.comment_iff.symm, halike.fields_perm.symm⟩

theorem Registry.Alike.symm {a b : Registry} (halike : a.Alike b) : b.Alike a := by
  constructor
  · exact fun name => (halike.names name).symm
  · exact fun s hs t ht hname => (halike.symbols t ht s hs hname.symm).symm
  · exact fun m => (halike.memberships m).symm
  · exact halike.checks.symm

section Contributions

open Contribution

variable {contributions others : List Contribution}

theorem Symbol.Gathers.alike
    {a b : Symbol} (ha : a.Gathers contributions) (hb : b.Gathers others)
    (hmem : ∀ c, c ∈ contributions ↔ c ∈ others) (hname : a.name = b.name) :
    a.Alike b := by
  have hdeclared : ∀ symbol, Declared contributions symbol ↔ Declared others symbol :=
    fun symbol => ⟨Declared.mono fun c => (hmem c).1, Declared.mono fun c => (hmem c).2⟩
  obtain ⟨symbol, hsymbol, hsame⟩ := ha.declared
  have houtline : a.outline = b.outline := by
    rw [← ha.outline_eq symbol hsymbol hsame,
      hb.outline_eq symbol ((hdeclared symbol).1 hsymbol) (hsame.trans hname)]
  constructor
  · exact houtline
  · rw [ha.comment_eq, hb.comment_eq, hname]
    simp only [hdeclared]
  · refine ha.fields_gather.blurred_perm hb.fields_gather fun field => ?_
    rw [hname, seed_eq_of_outline_eq houtline, List.mem_append, List.mem_append,
      mem_offers_iff, mem_offers_iff, hmem]

theorem Registry.Gathers.mem_names
    {registry : Registry} (hgathers : registry.Gathers contributions) (name : String) :
    name ∈ registry.symbols.names ↔
      ∃ symbol, Declared contributions symbol ∧ symbol.name = name := by
  constructor
  · intro hmem
    cases hget : registry.symbols.get? name with
    | none => exact ((SymbolTable.get?_eq_none_iff _ _).1 hget hmem).elim
    | some existing =>
        rw [← (SymbolTable.mem_of_get? hget).2]
        exact (hgathers.symbol_gathers name existing hget).declared
  · rintro ⟨symbol, hdeclared, rfl⟩
    by_contra habsent
    exact (hgathers.untouched _ ((SymbolTable.get?_eq_none_iff _ _).2 habsent)).1
      symbol hdeclared rfl

/-- What has been gathered does not depend on the order of the contributions. -/
theorem Registry.Gathers.alike
    {a b : Registry} (ha : a.Gathers contributions) (hb : b.Gathers others)
    (hmem : ∀ c, c ∈ contributions ↔ c ∈ others) : a.Alike b := by
  constructor
  · intro name
    rw [ha.mem_names, hb.mem_names]
    simp only [Declared, hmem]
  · intro s hs t ht hname
    have hget := (SymbolTable.get?_eq_some_iff ha.nodup_names s.name s).2 ⟨hs, rfl⟩
    have hget' := (SymbolTable.get?_eq_some_iff hb.nodup_names t.name t).2 ⟨ht, rfl⟩
    exact (ha.symbol_gathers _ s hget).alike (hb.symbol_gathers _ t hget') hmem hname
  · intro m
    rw [ha.mem_memberships, hb.mem_memberships, hmem]
  · refine ha.checks_ascend.eq_of_recorded_iff hb.checks_ascend
      fun target argument payload => ?_
    rw [ha.recorded_iff, hb.recorded_iff, hmem]

end Contributions

/-! ## Consistency -/

theorem Field.eq_of_blurred_eq {a b : Field} (hblurred : a.blurred = b.blurred) :
    a = { b with comment := a.comment } := by
  cases a
  cases b
  simp_all [blurred]

section Symbols

variable {a b : Symbol}

theorem Symbol.Alike.name_eq (halike : a.Alike b) : a.name = b.name :=
  name_eq_of_outline_eq halike.outline_eq

theorem Symbol.Alike.exists_field (halike : a.Alike b) {field : Field}
    (hfield : field ∈ b.fields) :
    ∃ comment, { field with comment } ∈ a.fields := by
  obtain ⟨other, hother, hblurred⟩ :=
    List.mem_map.1 (halike.fields_perm.mem_iff.2 (List.mem_map_of_mem hfield))
  exact ⟨other.comment, Field.eq_of_blurred_eq hblurred ▸ hother⟩

theorem ClosedUnion.mem_dispatchValues_iff (union : ClosedUnion) (value : String) :
    value ∈ union.dispatchValues ↔
      ∃ field ∈ union.fields, field.typeSpecific = true ∧
        value ∈ field.discriminatorValues := by
  simp [dispatchValues, and_assoc]

theorem Symbol.mem_fieldValues_iff (fields : List Field) (key value : String) :
    value ∈ fieldValues fields key ↔
      ∃ field ∈ fields, field.name = key ∧
        (field.literal = some value ∨ value ∈ field.discriminatorValues) := by
  simp [fieldValues, and_assoc]

theorem Symbol.Alike.mem_fieldValues (halike : a.Alike b) {key value : String}
    (hvalue : value ∈ fieldValues b.fields key) : value ∈ fieldValues a.fields key := by
  rw [mem_fieldValues_iff] at hvalue ⊢
  obtain ⟨field, hfield, hname, hpresents⟩ := hvalue
  obtain ⟨comment, hother⟩ := halike.exists_field hfield
  exact ⟨_, hother, hname, hpresents⟩

theorem Symbol.exists_closedUnion (hkind : a.kind = .closedUnion) :
    ∃ u, a = .closedUnion u := by
  cases a with
  | closedUnion u => exact ⟨u, rfl⟩
  | record => contradiction
  | openUnion => contradiction
  | literal => contradiction
  | unmarshalCheck => contradiction

theorem Symbol.exists_openUnion (hkind : a.kind = .openUnion) : ∃ u, a = .openUnion u := by
  cases a with
  | openUnion u => exact ⟨u, rfl⟩
  | record => contradiction
  | closedUnion => contradiction
  | literal => contradiction
  | unmarshalCheck => contradiction

theorem Symbol.discriminatorValues_of_kind_ne (hkind : a.kind ≠ .closedUnion)
    (key : String) :
    a.discriminatorValues key = fieldValues a.fields key := by
  cases a with
  | closedUnion u => exact (hkind rfl).elim
  | record => rfl
  | openUnion => rfl
  | literal => rfl
  | unmarshalCheck => rfl

/-- Symbols that are alike present the same values. -/
theorem Symbol.Alike.mem_discriminatorValues (halike : a.Alike b) {key value : String}
    (hvalue : value ∈ b.discriminatorValues key) : value ∈ a.discriminatorValues key := by
  have hkinds : a.kind = b.kind := kind_eq_of_outline_eq halike.outline_eq
  by_cases hkind : b.kind = .closedUnion
  · obtain ⟨v, rfl⟩ := exists_closedUnion (hkinds.trans hkind)
    obtain ⟨u, rfl⟩ := exists_closedUnion hkind
    have houtline := halike.outline_eq
    simp only [outline, closedUnion.injEq, ClosedUnion.mk.injEq] at houtline
    simp only [discriminatorValues, houtline.2.2.1] at hvalue ⊢
    split at hvalue
    · next hkey =>
      rw [if_pos hkey, ClosedUnion.mem_dispatchValues_iff]
      obtain ⟨field, hfield, hspecific, hpresents⟩ :=
        (ClosedUnion.mem_dispatchValues_iff _ _).1 hvalue
      obtain ⟨comment, hother⟩ := halike.exists_field hfield
      exact ⟨_, hother, hspecific, hpresents⟩
    · next hkey =>
      rw [if_neg hkey]
      exact halike.mem_fieldValues hvalue
  · rw [discriminatorValues_of_kind_ne hkind] at hvalue
    rw [discriminatorValues_of_kind_ne (hkinds ▸ hkind)]
    exact halike.mem_fieldValues hvalue

end Symbols

section Registries

variable {a b : Registry} {documents : List DocumentSymbols}

theorem Registry.Alike.exists_symbol (halike : a.Alike b) {symbol : Symbol}
    (hsymbol : symbol ∈ b.symbols) : ∃ other ∈ a.symbols, other.Alike symbol := by
  obtain ⟨other, hother, hname⟩ :=
    List.mem_map.1 ((halike.names symbol.name).2 (List.mem_map_of_mem hsymbol))
  exact ⟨other, hother, halike.symbols other hother symbol hsymbol hname⟩

theorem Registry.Alike.exists_knows (halike : a.Alike b) {symbol : Symbol}
    (hknows : b.Knows documents symbol) :
    ∃ other, a.Knows documents other ∧ other.Alike symbol := by
  rcases hknows with hshared | hdocument
  · obtain ⟨other, hother, hsymbol⟩ := halike.exists_symbol hshared
    exact ⟨other, Or.inl hother, hsymbol⟩
  · exact ⟨symbol, Or.inr hdocument, .refl symbol⟩

theorem Registry.Alike.exists_offers (halike : a.Alike b) {membership : Membership}
    {symbol : Symbol} (hoffers : b.Offers documents membership symbol) :
    ∃ other, a.Offers documents membership other ∧ other.Alike symbol := by
  unfold Offers at hoffers ⊢
  split at hoffers
  · exact halike.exists_symbol hoffers
  · exact ⟨symbol, hoffers, .refl symbol⟩

/-- A schema that is like a consistent one is consistent. -/
theorem Registry.Consistent.of_alike (hconsistent : a.Consistent documents)
    (halike : a.Alike b) : b.Consistent documents := by
  have htarget : ∀ name, (∃ target, a.Knows documents target ∧ target.name = name) →
      ∃ target, b.Knows documents target ∧ target.name = name := by
    rintro name ⟨target, hknows, rfl⟩
    obtain ⟨other, hother, hsame⟩ := halike.symm.exists_knows hknows
    exact ⟨other, hother, hsame.name_eq⟩
  constructor
  · intro union hknows field hfield hspecific
    obtain ⟨other, hother, hsame⟩ := halike.exists_knows hknows
    obtain ⟨u, rfl⟩ :=
      Symbol.exists_closedUnion (Symbol.kind_eq_of_outline_eq hsame.outline_eq)
    obtain ⟨comment, hmem⟩ := hsame.exists_field hfield
    exact hconsistent.told u hother { field with comment } hmem hspecific
  · intro symbol hknows field hfield name hname
    obtain ⟨other, hother, hsame⟩ := halike.exists_knows hknows
    obtain ⟨comment, hmem⟩ := hsame.exists_field hfield
    exact htarget name (hconsistent.resolved other hother _ hmem name hname)
  · intro membership hmem
    obtain ⟨union, hunion, hname, member, hoffers, hmember, hvalues⟩ :=
      hconsistent.discerned membership ((halike.memberships membership).2 hmem)
    obtain ⟨other, hother, hsame⟩ := halike.symm.exists_symbol hunion
    obtain ⟨u, rfl⟩ :=
      Symbol.exists_openUnion (Symbol.kind_eq_of_outline_eq hsame.outline_eq)
    have houtline := hsame.outline_eq
    simp only [Symbol.outline, Symbol.openUnion.injEq, OpenUnion.mk.injEq] at houtline
    obtain ⟨other, hoffered, hsame'⟩ := halike.symm.exists_offers hoffers
    obtain ⟨value, hvalue⟩ := List.exists_mem_of_ne_nil _ hvalues
    refine ⟨u, hother, houtline.1.trans hname, other, hoffered,
      hsame'.name_eq.trans hmember, ?_⟩
    rw [houtline.2.2]
    exact List.ne_nil_of_mem (hsame'.mem_discriminatorValues hvalue)
  · intro check hcheck
    exact htarget _ (hconsistent.targeted check (halike.checks ▸ hcheck))

theorem forall₂_of_map_eq
    {α β : Type} {f : α → β} {R : α → α → Prop} {as bs : List α}
    (hmap : as.map f = bs.map f) (hR : ∀ a ∈ as, ∀ b ∈ bs, f a = f b → R a b) :
    List.Forall₂ R as bs := by
  induction as generalizing bs with
  | nil =>
      obtain rfl : bs = [] := List.map_eq_nil_iff.1 hmap.symm
      exact .nil
  | cons a as ih =>
      obtain ⟨b, bs, rfl, hhead, htail⟩ := List.map_eq_cons_iff.1 hmap.symm
      refine .cons (hR a List.mem_cons_self b List.mem_cons_self hhead.symm) ?_
      exact ih htail.symm fun x hx y hy =>
        hR x (List.mem_cons_of_mem a hx) y (List.mem_cons_of_mem b hy)

/-- Put in order, symbols of two tables with the same names stand side by side. -/
theorem SymbolTable.forall₂_sortByText
    {table other : SymbolTable} {R : Symbol → Symbol → Prop}
    (htable : table.names.Nodup) (hother : other.names.Nodup)
    (hnames : ∀ name, name ∈ table.names ↔ name ∈ other.names)
    (hR : ∀ s ∈ table, ∀ t ∈ other, s.name = t.name → R s t) :
    List.Forall₂ R (sortByText Symbol.name table) (sortByText Symbol.name other) := by
  have hperm := sortByText_perm Symbol.name table
  have hperm' := sortByText_perm Symbol.name other
  have hsame : ((sortByText Symbol.name table).map Symbol.name).Perm
      ((sortByText Symbol.name other).map Symbol.name) :=
    (hperm.map _).trans
      (((List.perm_ext_iff_of_nodup htable hother).2 hnames).trans (hperm'.map _).symm)
  refine forall₂_of_map_eq (f := Symbol.name) ?_ fun s hs t ht =>
    hR s (hperm.mem_iff.1 hs) t (hperm'.mem_iff.1 ht)
  have hsorted : ∀ {names : SymbolTable}, names.names.Nodup →
      ((sortByText Symbol.name names).map Symbol.name).Pairwise (· < ·) :=
    fun hnodup => List.pairwise_map.2 (sortByText_pairwise _ hnodup)
  refine hsame.eq_of_pairwise ?_ (hsorted htable) (hsorted hother)
  exact fun a b _ _ hab hba => (lt_asymm hab hba).elim

/-- Registries that are alike are finished together or not at all. -/
theorem Registry.Alike.exists_finalize_iff (halike : a.Alike b)
    (ha : NamesDistinct a documents) (hb : NamesDistinct b documents) :
    (∃ graph, a.finalize documents = .ok graph) ↔
      ∃ graph, b.finalize documents = .ok graph := by
  rw [Registry.exists_finalize_iff ha, Registry.exists_finalize_iff hb]
  exact ⟨fun hconsistent => hconsistent.of_alike halike,
    fun hconsistent => hconsistent.of_alike halike.symm⟩

theorem Registry.Alike.memberships_eq (halike : a.Alike b) :
    ascending (fun a b => keyBefore a.key b.key) a.memberships =
      ascending (fun a b => keyBefore a.key b.key) b.memberships := by
  refine (ascending_ascending membershipOrder _).eq_of_mem_iff membershipOrder
    (ascending_ascending membershipOrder _) fun m => ?_
  rw [mem_ascending membershipOrder, mem_ascending membershipOrder, halike.memberships]

theorem Registry.Alike.graph_alike (halike : a.Alike b)
    (ha : a.symbols.names.Nodup) (hb : b.symbols.names.Nodup) {graph other : SymbolGraph}
    (hgraph : a.finalize documents = .ok graph)
    (hother : b.finalize documents = .ok other) :
    graph.Alike other := by
  rw [eq_of_finalize_eq_ok hgraph, eq_of_finalize_eq_ok hother]
  constructor
  · rfl
  · rw [halike.checks]
    exact List.rel_append
      (SymbolTable.forall₂_sortByText ha hb halike.names halike.symbols)
      (List.forall₂_same.2 fun symbol _ => .refl symbol)
  · exact halike.memberships_eq

theorem Registry.Alike.graph_eq (halike : a.Alike b)
    (ha : a.symbols.names.Nodup) (hb : b.symbols.names.Nodup)
    (hget : ∀ name, a.symbols.get? name = b.symbols.get? name) {graph other : SymbolGraph}
    (hgraph : a.finalize documents = .ok graph)
    (hother : b.finalize documents = .ok other) :
    graph = other := by
  have hsorted : sortByText Symbol.name a.symbols = sortByText Symbol.name b.symbols := by
    rw [← List.forall₂_eq_eq_eq]
    refine SymbolTable.forall₂_sortByText ha hb halike.names fun s hs t ht hname => ?_
    have hs' := (SymbolTable.get?_eq_some_iff ha s.name s).2 ⟨hs, rfl⟩
    have ht' := (SymbolTable.get?_eq_some_iff hb s.name t).2 ⟨ht, hname.symm⟩
    rw [hget, ht', Option.some.injEq] at hs'
    exact hs'.symm
  rw [eq_of_finalize_eq_ok hgraph, eq_of_finalize_eq_ok hother, hsorted, halike.checks,
    halike.memberships_eq]

end Registries

end DocContract
