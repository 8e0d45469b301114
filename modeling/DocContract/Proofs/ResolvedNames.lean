import DocContract.Emission
import DocContract.Proofs.CanonicalGraphs
import DocContract.Proofs.SchemaValidation

/-!
# What the names of a module refer to

A module declares a type for each symbol of its scope and refers to types by their names,
of which any module can be meant.  A schema that is finished knows every name that a field,
a member or a check refers to; so each type that is referred to is declared, and by just as
many modules as there are scopes with a symbol for it.  It does not look at what members
and checks apply a type to, and nothing keeps two documents from declaring the same type, a
symbol from having the name of a type that is always there, or a field from naming a
parameter that its record does not have.
-/

namespace DocContract

open DocContract.Code
open DocContract.Naming (Ident)

namespace Code

def TypeExpr.mentioned : TypeExpr → List Ident
  | declared ident => [ident]
  | applied ident argument => ident :: argument.mentioned
  | sequence item => item.mentioned
  | map value => value.mentioned
  | _ => []

def TypeExpr.parameters : TypeExpr → List Ident
  | parameter ident => [ident]
  | applied _ argument => argument.parameters
  | sequence item => item.parameters
  | map value => value.parameters
  | _ => []

def Item.declared? : Item → Option Ident
  | struct _ ident _ _ => some ident
  | enumeration _ ident _ => some ident
  | wrapper _ ident => some ident
  | constant ident _ => some ident
  | _ => none

def Variant.mentioned (variant : Variant) : List Ident :=
  variant.member :: variant.argument.toList

def DecodeTest.mentioned (test : DecodeTest) : List Ident :=
  test.target :: test.argument.toList

def Item.mentioned : Item → List Ident
  | struct _ _ _ fields => fields.flatMap (·.type.mentioned)
  | lookup ident _ _ => [ident]
  | enumeration _ _ variants => variants.flatMap Variant.mentioned
  | decodeTest test => test.mentioned
  | decodeTests tests => tests.flatMap DecodeTest.mentioned
  | _ => []

def Item.Bound : Item → Prop
  | struct _ _ parameter fields =>
    ∀ field ∈ fields, ∀ ident ∈ field.type.parameters, parameter = some ident
  | _ => True

end Code

def TypeRef.parameterNames : TypeRef → List String
  | parameter name => [name]
  | generic _ argument => argument.parameterNames
  | list item => item.parameterNames
  | map value => value.parameterNames
  | _ => []

def Symbol.typeParameter? : Symbol → Option String
  | record r => r.typeParameter
  | _ => none

def Symbol.Closed (symbol : Symbol) : Prop :=
  ∀ field ∈ symbol.fields,
    ∀ name ∈ field.type.parameterNames, symbol.typeParameter? = some name

theorem names_of_ofTypeRef {type : TypeRef} {expr : TypeExpr}
    (hexpr : TypeExpr.ofTypeRef type = .ok expr) :
    (∀ ident ∈ expr.mentioned, ∃ name ∈ type.referencedNames, typeIdent name = .ok ident) ∧
      ∀ ident ∈ expr.parameters,
      ∃ name ∈ type.parameterNames, typeIdent name = .ok ident := by
  induction type generalizing expr with
  | string | timestamp | boolean | integer | number | any =>
      obtain rfl := Except.ok.inj hexpr
      simp [TypeExpr.mentioned, TypeExpr.parameters]
  | named name =>
      obtain ⟨ident, hident, rfl⟩ := (map_eq_ok_iff _ _ _).1 hexpr
      simpa [TypeExpr.mentioned, TypeExpr.parameters, TypeRef.referencedNames] using hident
  | parameter name =>
      obtain ⟨ident, hident, rfl⟩ := (map_eq_ok_iff _ _ _).1 hexpr
      simpa [TypeExpr.mentioned, TypeExpr.parameters, TypeRef.parameterNames] using hident
  | list item ih =>
      obtain ⟨inner, hinner, rfl⟩ := (map_eq_ok_iff _ _ _).1 hexpr
      have hinside := ih hinner
      exact hinside
  | map value ih =>
      obtain ⟨inner, hinner, rfl⟩ := (map_eq_ok_iff _ _ _).1 hexpr
      have hinside := ih hinner
      exact hinside
  | generic name argument ih =>
      obtain ⟨ident, hident, hrest⟩ := exists_of_bind_eq_ok hexpr
      obtain ⟨inner, hinner, hall⟩ := exists_of_bind_eq_ok hrest
      obtain rfl := Except.ok.inj hall
      obtain ⟨hmentioned, hparameters⟩ := ih hinner
      refine ⟨?_, hparameters⟩
      intro other hother
      rw [TypeRef.referencedNames]
      rcases List.mem_cons.1 hother with rfl | hinside
      · exact ⟨name, List.mem_cons_self, hident⟩
      · obtain ⟨inside, hmem, hinside⟩ := hmentioned other hinside
        exact ⟨inside, List.mem_cons_of_mem _ hmem, hinside⟩

theorem exists_left_of_forall₂ {α β : Type} {R : α → β → Prop} {as : List α} {bs : List β}
    (hall : List.Forall₂ R as bs) {b : β} (hb : b ∈ bs) : ∃ a ∈ as, R a b := by
  induction hall with
  | nil => simp at hb
  | @cons a _ _ _ hfirst _ ih =>
      rcases List.mem_cons.1 hb with rfl | hlater
      · exact ⟨a, List.mem_cons_self, hfirst⟩
      · obtain ⟨other, hother, hrelated⟩ := ih hlater
        exact ⟨other, List.mem_cons_of_mem _ hother, hrelated⟩

/-- A list that is made one by one, up to the first fault. -/
theorem forall₂_of_each {ε α β : Type} {one : α → Except ε β}
    (each : List α → Except ε (List β))
    (hnil : each [] = .ok [])
    (hcons : ∀ a as, each (a :: as) = do return (← one a) :: (← each as))
    {as : List α} {bs : List β} (hall : each as = .ok bs) :
    List.Forall₂ (fun a b => one a = .ok b) as bs := by
  induction as generalizing bs with
  | nil =>
      obtain rfl := Except.ok.inj (hnil.symm.trans hall)
      exact .nil
  | cons a as ih =>
      rw [hcons] at hall
      obtain ⟨first, hfirst, hrest⟩ := exists_of_bind_eq_ok hall
      obtain ⟨later, hlater, hall⟩ := exists_of_bind_eq_ok hrest
      obtain rfl := Except.ok.inj hall
      exact .cons hfirst (ih hlater)

theorem forall₂_of_fieldDecls {fields : List Field} {decls : List FieldDecl}
    (hdecls : fieldDecls fields = .ok decls) :
    List.Forall₂ (fun field decl => FieldDecl.ofField field = .ok decl) fields decls :=
  forall₂_of_each fieldDecls rfl (fun _ _ => rfl) hdecls

theorem forall₂_of_variants {memberships : List Membership} {vs : List Variant}
    (hvariants : variants memberships = .ok vs) :
    List.Forall₂ (fun m variant => Variant.ofMembership m = .ok variant) memberships vs :=
  forall₂_of_each variants rfl (fun _ _ => rfl) hvariants

theorem type_of_ofField {field : Field} {decl : FieldDecl}
    (hdecl : FieldDecl.ofField field = .ok decl) :
    TypeExpr.ofTypeRef field.type = .ok decl.type := by
  obtain ⟨ident, -, hrest⟩ := exists_of_bind_eq_ok hdecl
  obtain ⟨type, htype, hall⟩ := exists_of_bind_eq_ok hrest
  obtain rfl := Except.ok.inj hall
  exact htype

def Membership.typeNames (m : Membership) : List String :=
  m.member :: m.typeArgument.toList

def UnmarshalCheck.typeNames (check : UnmarshalCheck) : List String :=
  check.target :: check.typeArgument.toList

theorem mentioned_of_ofMembership {m : Membership} {variant : Variant}
    (hvariant : Variant.ofMembership m = .ok variant) :
    ∀ ident ∈ variant.mentioned, ∃ name ∈ m.typeNames, typeIdent name = .ok ident := by
  obtain ⟨member, hmember, hrest⟩ := exists_of_bind_eq_ok hvariant
  rw [Membership.typeNames]
  cases hargument : m.typeArgument with
  | none =>
      simp only [hargument] at hrest
      obtain rfl := Except.ok.inj hrest
      simpa [Variant.mentioned] using hmember
  | some argument =>
      simp only [hargument] at hrest
      obtain ⟨ident, -, hrest⟩ := exists_of_bind_eq_ok hrest
      obtain ⟨applied, happlied, hall⟩ := exists_of_bind_eq_ok hrest
      obtain rfl := Except.ok.inj hall
      simp [Variant.mentioned, hmember, happlied]

theorem mentioned_of_ofCheck {check : UnmarshalCheck} {test : DecodeTest}
    (htest : DecodeTest.ofCheck check = .ok test) :
    ∀ ident ∈ test.mentioned, ∃ name ∈ check.typeNames, typeIdent name = .ok ident := by
  obtain ⟨target, htarget, hrest⟩ := exists_of_bind_eq_ok htest
  obtain ⟨argument, hargument, hrest⟩ := exists_of_bind_eq_ok hrest
  obtain ⟨name, -, hall⟩ := exists_of_bind_eq_ok hrest
  obtain rfl := Except.ok.inj hall
  rw [UnmarshalCheck.typeNames]
  cases happlied : check.typeArgument with
  | none =>
      rw [happlied] at hargument
      obtain rfl := Except.ok.inj hargument
      simpa [DecodeTest.mentioned] using htarget
  | some applied =>
      rw [happlied] at hargument
      obtain ⟨ident, hident, rfl⟩ := (map_eq_ok_iff _ _ _).1 hargument
      simp [DecodeTest.mentioned, htarget, hident]

/-- A symbol, or a membership of the schema, refers to a name. -/
def Symbol.RefersTo (graph : SymbolGraph) (symbol : Symbol) (name : String) : Prop :=
  name = symbol.name ∨ (∃ field ∈ symbol.fields, name ∈ field.type.referencedNames) ∨
    ∃ m ∈ graph.memberships, name = m.member

def Symbol.argument? : Symbol → Option String
  | unmarshalCheck check => check.typeArgument
  | _ => none

/-- A check, or a membership of the schema, applies a type to the one of this name. -/
def Symbol.AppliesTo (graph : SymbolGraph) (symbol : Symbol) (name : String) : Prop :=
  symbol.argument? = some name ∨ ∃ m ∈ graph.memberships, m.typeArgument = some name

def Symbol.Mentions (graph : SymbolGraph) (symbol : Symbol) (name : String) : Prop :=
  symbol.RefersTo graph name ∨ symbol.AppliesTo graph name

theorem Symbol.mentions_of_mem_memberships {graph : SymbolGraph} (symbol : Symbol)
    {m : Membership}
    (hm : m ∈ graph.memberships) {name : String} (hname : name ∈ m.typeNames) :
    symbol.Mentions graph name := by
  rcases List.mem_cons.1 hname with rfl | hargument
  · exact Or.inl (Or.inr (Or.inr ⟨m, hm, rfl⟩))
  · exact Or.inr (Or.inr ⟨m, hm, Option.mem_toList.1 hargument⟩)

theorem UnmarshalCheck.mentions (graph : SymbolGraph) {check : UnmarshalCheck}
    {name : String}
    (hname : name ∈ check.typeNames) :
    (Symbol.unmarshalCheck check).Mentions graph name := by
  rcases List.mem_cons.1 hname with rfl | hargument
  · exact Or.inl (Or.inl rfl)
  · exact Or.inr (Or.inl (Option.mem_toList.1 hargument))

structure Symbol.Renders (graph : SymbolGraph) (symbol : Symbol) (items : List Item) :
    Prop where
  declared_iff : ∀ ident, (∃ item ∈ items, item.declared? = some ident) ↔
    symbol.isNamed = true ∧ typeIdent symbol.name = .ok ident
  mentioned : ∀ item ∈ items, ∀ ident ∈ item.mentioned,
    ∃ name, typeIdent name = .ok ident ∧ symbol.Mentions graph name
  bound : symbol.Closed → ∀ item ∈ items, item.Bound

section Structures

variable (graph : SymbolGraph) {symbol : Symbol} (doc : DocComment) (ident : Ident)
  (parameter : Option Ident) {decls : List FieldDecl}
  (hdecls : fieldDecls symbol.fields = .ok decls)

include hdecls

theorem mentioned_struct :
    ∀ other ∈ (Item.struct doc ident parameter decls).mentioned,
      ∃ name, typeIdent name = .ok other ∧ symbol.Mentions graph name := by
  intro other hother
  obtain ⟨decl, hdecl, hother⟩ := List.mem_flatMap.1 hother
  obtain ⟨field, hfield, hmade⟩ :=
    exists_left_of_forall₂ (forall₂_of_fieldDecls hdecls) hdecl
  obtain ⟨name, hname, hsame⟩ :=
    (names_of_ofTypeRef (type_of_ofField hmade)).1 other hother
  exact ⟨name, hsame, Or.inl (Or.inr (Or.inl ⟨field, hfield, hname⟩))⟩

theorem bound_struct {parameter : Option Ident}
    (hparameter : typeIdent? symbol.typeParameter? = .ok parameter)
    (hclosed : symbol.Closed) :
    (Item.struct doc ident parameter decls).Bound := by
  intro decl hdecl other hother
  obtain ⟨field, hfield, hmade⟩ :=
    exists_left_of_forall₂ (forall₂_of_fieldDecls hdecls) hdecl
  obtain ⟨name, hname, hsame⟩ :=
    (names_of_ofTypeRef (type_of_ofField hmade)).2 other hother
  rw [hclosed field hfield name hname, typeIdent?, hsame] at hparameter
  exact (Except.ok.inj hparameter).symm

end Structures

/-- An item that declares the type of a symbol. -/
theorem Symbol.renders_item {graph : SymbolGraph} (symbol : Symbol) {item : Item}
    {ident : Ident}
    (hnamed : symbol.isNamed = true) (hident : typeIdent symbol.name = .ok ident)
    (hdeclared : item.declared? = some ident)
    (hmentioned : ∀ other ∈ item.mentioned,
      ∃ name, typeIdent name = .ok other ∧ symbol.Mentions graph name)
    (hbound : symbol.Closed → item.Bound) : symbol.Renders graph [item] := by
  constructor
  · simp [hnamed, hident, hdeclared]
  · rwa [List.forall_mem_singleton]
  · rwa [List.forall_mem_singleton]

/-- The items that declare a symbol, and the identifiers and parts that they are made
of. -/
inductive Symbol.DeclaredBy (graph : SymbolGraph) : Symbol → List Item → Prop
  | record {record : Record} {ident : Ident} {parameter : Option Ident}
      {decls : List FieldDecl}
      (hident : typeIdent record.name = .ok ident)
      (hparameter : typeIdent? record.typeParameter = .ok parameter)
      (hdecls : fieldDecls record.fields = .ok decls) :
      DeclaredBy graph (.record record)
        [.struct { text := record.comment } ident parameter decls]
  | keylessUnion {union : ClosedUnion} {ident : Ident} {decls : List FieldDecl}
      (hident : typeIdent union.name = .ok ident)
      (hdecls : fieldDecls union.fields = .ok decls)
      (hkeyless : union.discriminatorKey = "") :
      DeclaredBy graph (.closedUnion union)
        [.struct (closedUnionDoc union) ident none decls]
  | closedUnion {union : ClosedUnion} {ident key : Ident} {decls : List FieldDecl}
      (hident : typeIdent union.name = .ok ident)
      (hdecls : fieldDecls union.fields = .ok decls)
      (hkey : fieldIdent union.discriminatorKey = .ok key) :
      DeclaredBy graph (.closedUnion union)
        [.struct (closedUnionDoc union) ident none decls,
          .lookup ident key (sortArms (dispatchArms union.fields))]
  | wrapper {union : OpenUnion} {ident : Ident} (hident : typeIdent union.name = .ok ident)
      (hvariants : variants (graph.membersOf union.name) = .ok []) :
      DeclaredBy graph (.openUnion union) [.wrapper (openUnionDoc union graph) ident]
  | enumeration {union : OpenUnion} {ident : Ident} {vs : List Variant}
      (hident : typeIdent union.name = .ok ident)
      (hvariants : variants (graph.membersOf union.name) = .ok vs) :
      DeclaredBy graph (.openUnion union)
        [.enumeration (openUnionDoc union graph) ident vs]
  | constant {literal : Literal} {ident : Ident}
      (hident : typeIdent literal.name = .ok ident) :
      DeclaredBy graph (.literal literal) [.constant ident literal.value]
  | decodeTest {check : UnmarshalCheck} {test : DecodeTest}
      (htest : DecodeTest.ofCheck check = .ok test) :
      DeclaredBy graph (.unmarshalCheck check) [.decodeTest test]

theorem Symbol.declaredBy_of_symbolItems {graph : SymbolGraph} {symbol : Symbol}
    {items : List Item}
    (hitems : symbolItems graph symbol = .ok items) : symbol.DeclaredBy graph items := by
  cases symbol with
  | record record =>
      obtain ⟨item, hitem, hall⟩ := exists_of_bind_eq_ok hitems
      obtain rfl := Except.ok.inj hall
      obtain ⟨ident, hident, hrest⟩ := exists_of_bind_eq_ok hitem
      obtain ⟨parameter, hparameter, hrest⟩ := exists_of_bind_eq_ok hrest
      obtain ⟨decls, hdecls, hall⟩ := exists_of_bind_eq_ok hrest
      obtain rfl := Except.ok.inj hall
      exact .record hident hparameter hdecls
  | closedUnion union =>
      obtain ⟨ident, hident, hrest⟩ := exists_of_bind_eq_ok hitems
      obtain ⟨decls, hdecls, hrest⟩ := exists_of_bind_eq_ok hrest
      split at hrest
      · next hkeyless =>
        obtain rfl := Except.ok.inj hrest
        exact .keylessUnion hident hdecls (String.isEmpty_iff.1 hkeyless)
      · obtain ⟨key, hkey, hall⟩ := exists_of_bind_eq_ok hrest
        obtain rfl := Except.ok.inj hall
        exact .closedUnion hident hdecls hkey
  | openUnion union =>
      obtain ⟨item, hitem, hall⟩ := exists_of_bind_eq_ok hitems
      obtain rfl := Except.ok.inj hall
      obtain ⟨ident, hident, hrest⟩ := exists_of_bind_eq_ok hitem
      obtain ⟨vs, hvariants, hall⟩ := exists_of_bind_eq_ok hrest
      cases vs with
      | nil =>
          obtain rfl := Except.ok.inj hall
          exact .wrapper hident hvariants
      | cons first later =>
          obtain rfl := Except.ok.inj hall
          exact .enumeration hident hvariants
  | literal literal =>
      obtain ⟨item, hitem, hall⟩ := exists_of_bind_eq_ok hitems
      obtain rfl := Except.ok.inj hall
      obtain ⟨ident, hident, hall⟩ := exists_of_bind_eq_ok hitem
      obtain rfl := Except.ok.inj hall
      exact .constant hident
  | unmarshalCheck check =>
      obtain ⟨test, htest, hall⟩ := exists_of_bind_eq_ok hitems
      obtain rfl := Except.ok.inj hall
      exact .decodeTest htest

theorem ClosedUnion.renders_struct (graph : SymbolGraph) {union : ClosedUnion}
    {ident : Ident} {decls : List FieldDecl} (hident : typeIdent union.name = .ok ident)
    (hdecls : fieldDecls union.fields = .ok decls) :
    (Symbol.closedUnion union).Renders graph
      [.struct (closedUnionDoc union) ident none decls] := by
  have hfields : fieldDecls (Symbol.closedUnion union).fields = .ok decls := hdecls
  apply Symbol.renders_item (.closedUnion union) rfl hident rfl
  · exact mentioned_struct graph _ ident none hfields
  · exact bound_struct _ ident hfields rfl

theorem Symbol.renders_of_symbolItems {graph : SymbolGraph} {symbol : Symbol}
    {items : List Item}
    (hitems : symbolItems graph symbol = .ok items) : symbol.Renders graph items := by
  cases declaredBy_of_symbolItems hitems with
  | @record record ident parameter decls hident hparameter hdecls =>
      have hfields : fieldDecls (Symbol.record record).fields = .ok decls := hdecls
      apply renders_item (.record record) rfl hident rfl
      · exact mentioned_struct graph _ ident parameter hfields
      · exact bound_struct _ ident hfields hparameter
  | keylessUnion hident hdecls hkeyless =>
      exact ClosedUnion.renders_struct graph hident hdecls
  | @closedUnion union ident key decls hident hdecls hkey =>
      have hstruct := ClosedUnion.renders_struct graph hident hdecls
      -- The look-up declares nothing and belongs to the type of the union itself.
      constructor
      · intro other
        rw [← hstruct.declared_iff]
        simp [Item.declared?]
      · rw [List.forall_mem_cons, List.forall_mem_singleton]
        refine ⟨hstruct.mentioned _ (List.mem_singleton_self _), ?_⟩
        intro other hother
        obtain rfl := List.mem_singleton.1 hother
        exact ⟨union.name, hident, Or.inl (Or.inl rfl)⟩
      · intro hclosed
        rw [List.forall_mem_cons, List.forall_mem_singleton]
        exact ⟨hstruct.bound hclosed _ (List.mem_singleton_self _), trivial⟩
  | @wrapper union ident hident hvariants =>
      apply renders_item (.openUnion union) rfl hident rfl
      · simp [Item.mentioned]
      · exact fun _ => trivial
  | @enumeration union ident vs hident hvariants =>
      apply renders_item (.openUnion union) rfl hident rfl
      · intro other hother
        obtain ⟨variant, hvariant, hother⟩ := List.mem_flatMap.1 hother
        obtain ⟨m, hm, hmade⟩ :=
          exists_left_of_forall₂ (forall₂_of_variants hvariants) hvariant
        obtain ⟨name, hname, hsame⟩ := mentioned_of_ofMembership hmade other hother
        have hmember : m ∈ graph.memberships := (List.mem_filter.1 hm).1
        exact ⟨name, hsame, mentions_of_mem_memberships _ hmember hname⟩
      · exact fun _ => trivial
  | @constant literal ident hident =>
      apply renders_item (.literal literal) rfl hident rfl
      · simp [Item.mentioned]
      · exact fun _ => trivial
  | @decodeTest check test htest =>
      constructor
      · simp [Item.declared?, isNamed, kind]
      · rw [List.forall_mem_singleton]
        intro other hother
        obtain ⟨name, hname, hsame⟩ := mentioned_of_ofCheck htest other hother
        exact ⟨name, hsame, check.mentions graph hname⟩
      · simp [Item.Bound]

/-! ## Modules of scopes -/

/-- A scope has a symbol with the type of this name. -/
def SymbolTable.Presents (table : SymbolTable) (ident : Ident) : Prop :=
  ∃ symbol ∈ table, symbol.isNamed = true ∧ typeIdent symbol.name = .ok ident

instance (table : SymbolTable) (ident : Ident) : Decidable (table.Presents ident) :=
  inferInstanceAs (Decidable (∃ symbol ∈ table, _ ∧ _))

structure SymbolTable.Renders (graph : SymbolGraph) (table : SymbolTable)
    (items : List Item) : Prop where
  declared_iff : ∀ ident, (∃ item ∈ items, item.declared? = some ident) ↔
    table.Presents ident
  mentioned : ∀ item ∈ items, ∀ ident ∈ item.mentioned,
    ∃ name, typeIdent name = .ok ident ∧ ∃ symbol ∈ table, symbol.Mentions graph name
  bound : ∀ item ∈ items, ¬ item.Bound → ∃ symbol ∈ table, ¬ symbol.Closed ∧
    ∃ ident, item.declared? = some ident ∧ typeIdent symbol.name = .ok ident

section Tables

variable {graph : SymbolGraph} {symbol : Symbol} {table : SymbolTable}
    {items first : List Item}

theorem SymbolTable.renders_nil : SymbolTable.Renders graph [] [] := by
  constructor <;> simp [Presents]

theorem Code.Item.exists_declared_of_not_bound {item : Item} (hunbound : ¬ item.Bound) :
    ∃ ident, item.declared? = some ident := by
  cases item with
  | struct doc ident parameter fields => exact ⟨ident, rfl⟩
  | _ => exact absurd trivial hunbound

theorem SymbolTable.presents_cons_iff (ident : Ident) :
    SymbolTable.Presents (symbol :: table) ident ↔
      (symbol.isNamed = true ∧ typeIdent symbol.name = .ok ident) ∨
      table.Presents ident := by
  simp [Presents]

theorem Symbol.Renders.append (hsymbol : symbol.Renders graph first)
    (htable : table.Renders graph items) :
    SymbolTable.Renders graph (symbol :: table) (first ++ items) := by
  constructor
  · intro ident
    rw [SymbolTable.presents_cons_iff, ← hsymbol.declared_iff, ← htable.declared_iff]
    simp only [List.mem_append, or_and_right, exists_or]
  · intro item hitem ident hident
    rcases List.mem_append.1 hitem with hfirst | hlater
    · obtain ⟨name, hname, hrefers⟩ := hsymbol.mentioned item hfirst ident hident
      exact ⟨name, hname, symbol, List.mem_cons_self, hrefers⟩
    · obtain ⟨name, hname, other, hother, hrefers⟩ :=
        htable.mentioned item hlater ident hident
      exact ⟨name, hname, other, List.mem_cons_of_mem _ hother, hrefers⟩
  · intro item hitem hunbound
    rcases List.mem_append.1 hitem with hfirst | hlater
    · obtain ⟨ident, hdeclared⟩ := item.exists_declared_of_not_bound hunbound
      have hopen : ¬ symbol.Closed :=
        fun hclosed => hunbound (hsymbol.bound hclosed item hfirst)
      have hname := ((hsymbol.declared_iff ident).1 ⟨item, hfirst, hdeclared⟩).2
      exact ⟨symbol, List.mem_cons_self, hopen, ident, hdeclared, hname⟩
    · obtain ⟨other, hother, hopen⟩ := htable.bound item hlater hunbound
      exact ⟨other, List.mem_cons_of_mem _ hother, hopen⟩

theorem SymbolTable.renders_of_documentItems
    (hitems : documentItems graph table = .ok items) : table.Renders graph items := by
  induction table generalizing items with
  | nil =>
      obtain rfl := Except.ok.inj hitems
      exact renders_nil
  | cons symbol table ih =>
      obtain ⟨first, hfirst, hrest⟩ := exists_of_bind_eq_ok hitems
      obtain ⟨later, hlater, hall⟩ := exists_of_bind_eq_ok hrest
      obtain rfl := Except.ok.inj hall
      exact (Symbol.renders_of_symbolItems hfirst).append (ih hlater)

theorem SharedItems.mem_all_iff (shared : SharedItems) (item : Item) :
    item ∈ shared.all ↔
      item ∈ shared.items ∨ shared.tests ≠ [] ∧ item = .decodeTests shared.tests := by
  rw [all, List.mem_append]
  cases shared.tests <;> simp

theorem SharedItems.exists_declared_iff (shared : SharedItems) (ident : Ident) :
    (∃ item ∈ shared.all, item.declared? = some ident) ↔
      ∃ item ∈ shared.items, item.declared? = some ident := by
  simp only [shared.mem_all_iff]
  constructor
  · rintro ⟨item, hitem | ⟨-, rfl⟩, hdeclared⟩
    · exact ⟨item, hitem, hdeclared⟩
    · contradiction
  · rintro ⟨item, hitem, hdeclared⟩
    exact ⟨item, Or.inl hitem, hdeclared⟩

/-- A check adds a test to those at the end of the shared scope. -/
theorem SymbolTable.Renders.check {shared : SharedItems} {check : UnmarshalCheck}
    {test : DecodeTest} (htest : DecodeTest.ofCheck check = .ok test)
    (htable : table.Renders graph shared.all) :
    SymbolTable.Renders graph (.unmarshalCheck check :: table)
      { shared with tests := test :: shared.tests }.all := by
  have hall (item : Item) (hitem : item ∈ shared.items) : item ∈ shared.all :=
    (shared.mem_all_iff item).2 (Or.inl hitem)
  constructor
  · intro ident
    rw [SharedItems.exists_declared_iff, presents_cons_iff, ← htable.declared_iff,
      SharedItems.exists_declared_iff]
    simp [Symbol.isNamed, Symbol.kind]
  · intro item hitem ident hident
    rcases (SharedItems.mem_all_iff _ item).1 hitem with hitem | ⟨-, rfl⟩
    · obtain ⟨name, hname, other, hother, hrefers⟩ :=
        htable.mentioned item (hall item hitem) ident hident
      exact ⟨name, hname, other, List.mem_cons_of_mem _ hother, hrefers⟩
    · rw [Item.mentioned, List.flatMap_cons, List.mem_append] at hident
      rcases hident with hfirst | hlater
      · obtain ⟨name, hname, hsame⟩ := mentioned_of_ofCheck htest ident hfirst
        exact ⟨name, hsame, _, List.mem_cons_self, check.mentions graph hname⟩
      · have htests : shared.tests ≠ [] := by
          rintro hnone
          simp [hnone] at hlater
        have hmem :=
          (shared.mem_all_iff (.decodeTests shared.tests)).2 (Or.inr ⟨htests, rfl⟩)
        obtain ⟨name, hname, other, hother, hrefers⟩ :=
          htable.mentioned _ hmem ident hlater
        exact ⟨name, hname, other, List.mem_cons_of_mem _ hother, hrefers⟩
  · intro item hitem hunbound
    rcases (SharedItems.mem_all_iff _ item).1 hitem with hitem | ⟨-, rfl⟩
    · obtain ⟨other, hother, hopen⟩ := htable.bound item (hall item hitem) hunbound
      exact ⟨other, List.mem_cons_of_mem _ hother, hopen⟩
    · exact absurd trivial hunbound

theorem SymbolTable.renders_of_sharedItems {shared : SharedItems}
    (hitems : sharedItems graph table = .ok shared) : table.Renders graph shared.all := by
  induction table generalizing shared with
  | nil =>
      obtain rfl := Except.ok.inj hitems
      exact renders_nil
  | cons symbol table ih =>
      cases symbol with
      | unmarshalCheck check =>
          obtain ⟨test, htest, hrest⟩ := exists_of_bind_eq_ok hitems
          obtain ⟨later, hlater, hall⟩ := exists_of_bind_eq_ok hrest
          obtain rfl := Except.ok.inj hall
          exact (ih hlater).check htest
      | _ =>
          obtain ⟨first, hfirst, hrest⟩ := exists_of_bind_eq_ok hitems
          obtain ⟨later, hlater, hall⟩ := exists_of_bind_eq_ok hrest
          obtain rfl := Except.ok.inj hall
          have happend := (Symbol.renders_of_symbolItems hfirst).append (ih hlater)
          rwa [SharedItems.all, ← List.append_assoc] at happend

/-- The items of the shared scope are those of its symbols, and its tests are those of its
checks. -/
structure SharedItems.MadeFrom (graph : SymbolGraph) (table : SymbolTable)
    (shared : SharedItems) :
    Prop where
  items : ∀ item ∈ shared.items,
    ∃ symbol ∈ table, ∃ items, symbolItems graph symbol = .ok items ∧ item ∈ items
  tests : ∀ test ∈ shared.tests,
    ∃ check, .unmarshalCheck check ∈ table ∧ DecodeTest.ofCheck check = .ok test
  complete : ∀ symbol ∈ table, symbol.isNamed = true →
    ∃ items, symbolItems graph symbol = .ok items ∧ items ⊆ shared.items

theorem SharedItems.MadeFrom.tests_cons {later : SharedItems} {check : UnmarshalCheck}
    {test : DecodeTest}
    (hlater : later.MadeFrom graph table) (htest : DecodeTest.ofCheck check = .ok test) :
    SharedItems.MadeFrom graph (.unmarshalCheck check :: table)
      { later with tests := test :: later.tests } := by
  constructor
  · intro item hitem
    obtain ⟨symbol, hsymbol, hmade⟩ := hlater.items item hitem
    exact ⟨symbol, List.mem_cons_of_mem _ hsymbol, hmade⟩
  · intro other hother
    rcases List.mem_cons.1 hother with rfl | hother
    · exact ⟨check, List.mem_cons_self, htest⟩
    · obtain ⟨made, hmade, hsame⟩ := hlater.tests other hother
      exact ⟨made, List.mem_cons_of_mem _ hmade, hsame⟩
  · intro symbol hsymbol hnamed
    rcases List.mem_cons.1 hsymbol with rfl | hsymbol
    · contradiction
    · exact hlater.complete symbol hsymbol hnamed

theorem SharedItems.MadeFrom.items_append {later : SharedItems}
    (hlater : later.MadeFrom graph table)
    (hfirst : symbolItems graph symbol = .ok first) :
    SharedItems.MadeFrom graph (symbol :: table)
      { later with items := first ++ later.items } := by
  constructor
  · intro item hitem
    rcases List.mem_append.1 hitem with hitem | hitem
    · exact ⟨symbol, List.mem_cons_self, first, hfirst, hitem⟩
    · obtain ⟨other, hother, hmade⟩ := hlater.items item hitem
      exact ⟨other, List.mem_cons_of_mem _ hother, hmade⟩
  · intro test htest
    obtain ⟨check, hcheck, hmade⟩ := hlater.tests test htest
    exact ⟨check, List.mem_cons_of_mem _ hcheck, hmade⟩
  · intro other hother hnamed
    rcases List.mem_cons.1 hother with rfl | hother
    · exact ⟨first, hfirst, List.subset_append_left _ _⟩
    · obtain ⟨items, hitems, hsub⟩ := hlater.complete other hother hnamed
      exact ⟨items, hitems, List.subset_append_of_subset_right _ hsub⟩

theorem SharedItems.madeFrom_of_sharedItems {shared : SharedItems}
    (hitems : sharedItems graph table = .ok shared) : shared.MadeFrom graph table := by
  induction table generalizing shared with
  | nil =>
      obtain rfl := Except.ok.inj hitems
      constructor <;> simp
  | cons symbol table ih =>
      cases symbol with
      | unmarshalCheck check =>
          obtain ⟨test, htest, hrest⟩ := exists_of_bind_eq_ok hitems
          obtain ⟨later, hlater, hall⟩ := exists_of_bind_eq_ok hrest
          obtain rfl := Except.ok.inj hall
          exact (ih hlater).tests_cons htest
      | _ =>
          obtain ⟨first, hfirst, hrest⟩ := exists_of_bind_eq_ok hitems
          obtain ⟨later, hlater, hall⟩ := exists_of_bind_eq_ok hrest
          obtain rfl := Except.ok.inj hall
          exact (ih hlater).items_append hfirst

end Tables

/-! ## Names that a finished schema knows -/

def SymbolGraph.scopes (graph : SymbolGraph) : List SymbolTable :=
  graph.documents.map (·.symbols) ++ [graph.shared]

/-- The table in which a membership finds its member: the shared one, or that of the first
document of its name. -/
def Membership.ownTable (m : Membership) (shared : SymbolTable)
    (documents : List DocumentSymbols) :
    SymbolTable :=
  match m.document with
  | some document => ((documents.find? (·.document == document)).map (·.symbols)).getD []
  | none => shared

/-- The validation of a membership, which answers the union and the member that it has
found. -/
def Membership.resolve (shared : SymbolTable) (documents : List DocumentSymbols)
    (m : Membership) :
    Except SchemaError (OpenUnion × Symbol) :=
  match shared.get? m.union with
  | some (.openUnion union) =>
    match (m.ownTable shared documents).get? m.member with
    | some member =>
      if (member.discriminatorValues union.discriminatorKey).isEmpty then
        .error (.unresolvedDiscriminator m.union m.member)
      else .ok (union, member)
    | none => .error (.unknownSymbol m.member)
  | some other => .error (.kindConflict m.union other.kind .openUnion)
  | none => .error (.unknownSymbol m.union)

section Resolving

variable (shared : SymbolTable) (documents : List DocumentSymbols) (m : Membership)

theorem Membership.validate_eq_resolve :
    m.validate shared documents = (m.resolve shared documents).map fun _ => () := by
  unfold validate resolve ownTable
  cases shared.get? m.union with
  | none => rfl
  | some symbol =>
      cases symbol with
      | openUnion union =>
          dsimp only [bind, Except.bind]
          generalize SymbolTable.get? _ m.member = found
          cases found with
          | none => rfl
          | some member =>
              dsimp only
              split <;> rfl
      | record | closedUnion | literal | unmarshalCheck => rfl

theorem Membership.resolve_eq_ok_iff (union : OpenUnion) (member : Symbol) :
    m.resolve shared documents = .ok (union, member) ↔
      shared.get? m.union = some (.openUnion union) ∧
        (m.ownTable shared documents).get? m.member = some member ∧
        member.discriminatorValues union.discriminatorKey ≠ [] := by
  unfold resolve
  constructor
  · intro hresolve
    split at hresolve
    · next other hunion =>
      split at hresolve
      · next found hmember =>
        split at hresolve
        · contradiction
        · next hvalues =>
          obtain ⟨rfl, rfl⟩ := Prod.mk.inj (Except.ok.inj hresolve)
          exact ⟨hunion, hmember, fun hnone => hvalues (List.isEmpty_iff.2 hnone)⟩
      · contradiction
    · contradiction
    · contradiction
  · rintro ⟨hunion, hmember, hvalues⟩
    simp only [hunion, hmember, List.isEmpty_iff, if_neg hvalues]

end Resolving

theorem Membership.mem_of_mem_ownTable {m : Membership} {shared : SymbolTable}
    {documents : List DocumentSymbols} {symbol : Symbol}
    (hsymbol : symbol ∈ m.ownTable shared documents) :
    symbol ∈ shared ++ documents.flatMap (·.symbols) := by
  unfold ownTable at hsymbol
  cases hdocument : m.document with
  | none =>
      rw [hdocument] at hsymbol
      exact List.mem_append_left _ hsymbol
  | some name =>
      simp only [hdocument] at hsymbol
      cases hfind : documents.find? (·.document == name) with
      | none => simp [hfind] at hsymbol
      | some document =>
          rw [hfind] at hsymbol
          have hmem : document ∈ documents := List.mem_of_find?_eq_some hfind
          exact List.mem_append_right _ (List.mem_flatMap.2 ⟨document, hmem, hsymbol⟩)

theorem Membership.exists_member_of_validate
    {m : Membership} {shared : SymbolTable} {documents : List DocumentSymbols}
    (hvalid : m.validate shared documents = .ok ()) :
    ∃ symbol ∈ shared ++ documents.flatMap (·.symbols), symbol.name = m.member := by
  rw [validate_eq_resolve] at hvalid
  obtain ⟨⟨union, member⟩, hresolve, -⟩ := (map_eq_ok_iff _ _ _).1 hvalid
  obtain ⟨-, hmember, -⟩ := (resolve_eq_ok_iff _ _ _ _ _).1 hresolve
  obtain ⟨hmem, hname⟩ := SymbolTable.mem_of_get? hmember
  exact ⟨member, mem_of_mem_ownTable hmem, hname⟩

/-- The named symbols of a schema in the order in which they are validated. -/
def Registry.inOrder (registry : Registry) (documents : List DocumentSymbols) :
    List Symbol :=
  sortByText Symbol.name registry.symbols ++
    (sortByText (·.document) documents).flatMap (·.symbols)

theorem Registry.mem_inOrder_iff (registry : Registry) (documents : List DocumentSymbols)
    (symbol : Symbol) :
    symbol ∈ registry.inOrder documents ↔ registry.Knows documents symbol := by
  rw [inOrder, List.mem_append, List.mem_flatMap, (sortByText_perm _ _).mem_iff, Knows]
  simp only [(sortByText_perm _ _).mem_iff]

theorem mem_of_known {known : List String} {name : String} {fault : SchemaError}
    (hvalid : (if known.contains name then .ok () else .error fault) =
      (.ok () : Except SchemaError Unit)) : name ∈ known := by
  by_cases hknown : known.contains name
  · exact List.contains_iff_mem.1 hknown
  · rw [if_neg hknown] at hvalid
    contradiction

section Finished

variable {registry : Registry} {documents : List DocumentSymbols} {graph : SymbolGraph}
  (hfinal : registry.finalize documents = .ok graph)

include hfinal

theorem mem_scopes_cases {table : SymbolTable} (htable : table ∈ graph.scopes)
    {symbol : Symbol}
    (hsymbol : symbol ∈ table) :
    symbol ∈ registry.inOrder documents ∨
      ∃ check ∈ registry.checks, symbol = .unmarshalCheck check := by
  obtain rfl := Registry.eq_of_finalize_eq_ok hfinal
  rw [SymbolGraph.scopes, List.mem_append, List.mem_map, List.mem_singleton] at htable
  rw [Registry.inOrder, List.mem_append]
  rcases htable with ⟨document, hdocument, rfl⟩ | rfl
  · exact Or.inl (Or.inr (List.mem_flatMap.2 ⟨document, hdocument, hsymbol⟩))
  · rcases List.mem_append.1 hsymbol with hshared | hcheck
    · exact Or.inl (Or.inl hshared)
    · obtain ⟨check, hmem, rfl⟩ := List.mem_map.1 hcheck
      exact Or.inr ⟨check, hmem, rfl⟩

theorem exists_scope_of_mem_inOrder {symbol : Symbol}
    (hsymbol : symbol ∈ registry.inOrder documents) :
    ∃ table ∈ graph.scopes, symbol ∈ table := by
  obtain rfl := Registry.eq_of_finalize_eq_ok hfinal
  rcases List.mem_append.1 hsymbol with hshared | hown
  · exact ⟨_, List.mem_append_right _ (List.mem_singleton_self _),
      List.mem_append_left _ hshared⟩
  · obtain ⟨document, hdocument, hmem⟩ := List.mem_flatMap.1 hown
    exact ⟨document.symbols, List.mem_append_left _ (List.mem_map_of_mem hdocument), hmem⟩

theorem validate_of_finalize :
    (∀ symbol ∈ registry.inOrder documents, ∀ field ∈ symbol.fields,
        ∀ name ∈ field.type.referencedNames, name ∈
          (registry.inOrder documents).map Symbol.name) ∧
      (∀ m ∈ graph.memberships, m.validate (sortByText Symbol.name registry.symbols)
        (sortByText (·.document) documents) = .ok ()) ∧
      ∀ check ∈ registry.checks, check.target ∈
        (registry.inOrder documents).map Symbol.name := by
  rw [registry.finalize_eq documents] at hfinal
  obtain ⟨_, hsites, rfl⟩ := (map_eq_ok_iff _ _ _).1 hfinal
  have hvalid := (firstFault_eq_ok_iff _ _).1 hsites
  rw [← Registry.inOrder, List.forall_mem_append, List.forall_mem_append] at hvalid
  obtain ⟨⟨hsymbols, hmemberships⟩, hchecks⟩ := hvalid
  refine ⟨?_, ?_, ?_⟩
  · intro symbol hsymbol field hfield name hname
    have hsite : Site.reference name ∈ symbol.sites :=
      (symbol.mem_sites_iff _).2 ⟨field, hfield, hname⟩
    exact mem_of_known (hsymbols _ (List.mem_flatMap.2 ⟨symbol, hsymbol, hsite⟩))
  · intro m hm
    exact hmemberships _ (List.mem_map_of_mem hm)
  · intro check hcheck
    exact mem_of_known (hchecks _ (List.mem_map_of_mem hcheck))

/-- Every name that is referred to is the name of a symbol that was put in order. -/
theorem mem_names_of_refersTo {table : SymbolTable} (htable : table ∈ graph.scopes)
    {symbol : Symbol} (hsymbol : symbol ∈ table) {name : String}
    (hrefers : symbol.RefersTo graph name) :
    name ∈ (registry.inOrder documents).map Symbol.name := by
  obtain ⟨hfields, hmemberships, hchecks⟩ := validate_of_finalize hfinal
  rcases hrefers with rfl | ⟨field, hfield, hname⟩ | ⟨m, hm, rfl⟩
  · rcases mem_scopes_cases hfinal htable hsymbol with hmem | ⟨check, hcheck, rfl⟩
    · exact List.mem_map_of_mem hmem
    · exact hchecks check hcheck
  · rcases mem_scopes_cases hfinal htable hsymbol with hmem | ⟨check, hcheck, rfl⟩
    · exact hfields symbol hmem field hfield name hname
    · contradiction
  · obtain ⟨member, hmem, hname⟩ :=
      Membership.exists_member_of_validate (hmemberships m hm)
    exact List.mem_map.2 ⟨member, hmem, hname⟩

end Finished

/-- A document that some builder has made, in some workshop. -/
def DocumentSymbols.MadeByBuilder (document : DocumentSymbols) : Prop :=
  ∃ history builder, builder.document = document.document ∧
    (Workshop.after history).tables builder = document.symbols

theorem DocumentSymbols.MadeByBuilder.wellFormed {document : DocumentSymbols}
    (hmade : document.MadeByBuilder) : document.symbols.WellFormed := by
  obtain ⟨history, builder, -, htable⟩ := hmade
  rw [← htable]
  exact (Workshop.wellFormed_after history).own builder

theorem exists_presents_of_refersTo {history : List Act} {documents : List DocumentSymbols}
    {graph : SymbolGraph} (hmade : ∀ document ∈ documents, document.MadeByBuilder)
    (hfinal : (Workshop.after history).registry.finalize documents = .ok graph)
    {table : SymbolTable} (htable : table ∈ graph.scopes) {symbol : Symbol}
    (hsymbol : symbol ∈ table) {name : String} (hrefers : symbol.RefersTo graph name)
    {ident : Ident} (hident : typeIdent name = .ok ident) :
    ∃ other ∈ graph.scopes, other.Presents ident := by
  have hname := mem_names_of_refersTo hfinal htable hsymbol hrefers
  obtain ⟨target, htarget, rfl⟩ := List.mem_map.1 hname
  obtain ⟨other, hother, hmem⟩ := exists_scope_of_mem_inOrder hfinal htarget
  have hnamed : target.isNamed = true := by
    rcases (Registry.mem_inOrder_iff _ _ _).1
      htarget with hshared | ⟨document, hdocument, hown⟩
    · exact (Workshop.wellFormed_after history).shared.named target hshared
    · exact (hmade document hdocument).wellFormed.named target hown
  exact ⟨other, hother, target, hmem, hnamed, hident⟩

/-! ## Modules of a schema -/

def Module.declared (module : Module) : List Ident :=
  module.items.filterMap Item.declared?

def Module.mentioned (module : Module) : List Ident :=
  module.items.flatMap Item.mentioned

/-- The names that types are applied to by members of open unions and by checks. -/
def SymbolGraph.arguments (graph : SymbolGraph) : List String :=
  graph.memberships.filterMap (·.typeArgument) ++
    graph.scopes.flatten.filterMap Symbol.argument?

theorem SymbolGraph.mem_arguments {graph : SymbolGraph} {table : SymbolTable}
    (htable : table ∈ graph.scopes) {symbol : Symbol} (hsymbol : symbol ∈ table)
    {name : String}
    (happlies : symbol.AppliesTo graph name) : name ∈ graph.arguments := by
  rw [arguments, List.mem_append, List.mem_filterMap, List.mem_filterMap]
  rcases happlies with hargument | hmember
  · exact Or.inr ⟨symbol, List.mem_flatten.2 ⟨table, htable, hsymbol⟩, hargument⟩
  · exact Or.inl hmember

/-- The modules of a schema: those of the documents, and then the shared one. -/
structure SymbolGraph.Emits (graph : SymbolGraph) (documents : List Module)
    (shared : Module) :
    Prop where
  documents : List.Forall₂
    (fun document module => documentModule graph document = .ok module)
    graph.documents documents
  shared : sharedModule graph = .ok shared

section Emitted

variable {graph : SymbolGraph} {documents : List Module} {shared : Module}

theorem SymbolTable.renders_of_documentModule {document : DocumentSymbols}
    {module : Module}
    (hmodule : documentModule graph document = .ok module) :
    SymbolTable.Renders graph document.symbols module.items := by
  obtain ⟨ident, -, hrest⟩ := exists_of_bind_eq_ok hmodule
  obtain ⟨items, hitems, hall⟩ := exists_of_bind_eq_ok hrest
  obtain rfl := Except.ok.inj hall
  exact renders_of_documentItems hitems

theorem SymbolTable.renders_of_sharedModule {module : Module}
    (hmodule : sharedModule graph = .ok module) :
    SymbolTable.Renders graph graph.shared module.items := by
  obtain ⟨items, hitems, hall⟩ := exists_of_bind_eq_ok hmodule
  obtain rfl := Except.ok.inj hall
  exact renders_of_sharedItems hitems

theorem SymbolGraph.Emits.forall₂ (hemits : graph.Emits documents shared) :
    List.Forall₂ (fun table module => SymbolTable.Renders graph table module.items)
      graph.scopes
      (documents ++ [shared]) := by
  rw [scopes]
  apply List.rel_append
  · rw [List.forall₂_map_left_iff]
    exact hemits.documents.imp fun _ _ hmodule =>
      SymbolTable.renders_of_documentModule hmodule
  · exact .cons (SymbolTable.renders_of_sharedModule hemits.shared) .nil

theorem Module.mem_declared_iff (module : Module) (ident : Ident) :
    ident ∈ module.declared ↔ ∃ item ∈ module.items, item.declared? = some ident := by
  rw [declared, List.mem_filterMap]

end Emitted

theorem countP_eq_of_forall₂ {α β : Type} {R : α → β → Prop} {p : α → Bool} {q : β → Bool}
    (hsame : ∀ a b, R a b → p a = q b) {as : List α} {bs : List β}
    (hall : List.Forall₂ R as bs) :
    as.countP p = bs.countP q := by
  induction hall with
  | nil => rfl
  | cons hfirst _ ih => rw [List.countP_cons, List.countP_cons, ih, hsame _ _ hfirst]

/-- Each module of a schema that is finished declares the types of the symbols of its scope
and no others.  So every type that is mentioned is declared, by just as many modules as
there are scopes with a symbol for it, unless a type is applied to it and no symbol has its
name.  A field has another parameter than its structure only if it belongs to a symbol
whose fields name one that is not its own. -/
theorem references_resolve
    {history : List Act} {documents : List DocumentSymbols} {graph : SymbolGraph}
    {modules : List Module} {shared : Module}
    (hmade : ∀ document ∈ documents, document.MadeByBuilder)
    (hfinal : (Workshop.after history).registry.finalize documents = .ok graph)
    (hemits : graph.Emits modules shared) :
    List.Forall₂ (fun table module => ∀ ident, ident ∈ module.declared ↔
        SymbolTable.Presents table ident) graph.scopes (modules ++ [shared]) ∧
      (∀ module ∈ modules ++ [shared], ∀ ident ∈ module.mentioned,
        (∃ other ∈ modules ++ [shared], ident ∈ other.declared) ∨
          ∃ name ∈ graph.arguments, typeIdent name = .ok ident ∧
            ∀ table ∈ graph.scopes, ∀ symbol ∈ table, symbol.name ≠ name) ∧
      (∀ ident, (modules ++ [shared]).countP (fun module => ident ∈ module.declared) =
        graph.scopes.countP fun table => SymbolTable.Presents table ident) ∧
      ∀ module ∈ modules ++ [shared], ∀ item ∈ module.items, ¬ item.Bound →
        ∃ table ∈ graph.scopes, ∃ symbol ∈ table, ¬ symbol.Closed ∧
          ∃ ident, item.declared? = some ident ∧ typeIdent symbol.name = .ok ident := by
  have hrenders := hemits.forall₂
  have hdeclares : List.Forall₂ (fun table module => ∀ ident, ident ∈ module.declared ↔
      SymbolTable.Presents table ident) graph.scopes (modules ++ [shared]) := by
    refine hrenders.imp fun table module hscope ident => ?_
    rw [module.mem_declared_iff, hscope.declared_iff]
  refine ⟨hdeclares, ?_, ?_, ?_⟩
  · intro module hmodule ident hident
    obtain ⟨item, hitem, hident⟩ := List.mem_flatMap.1 hident
    obtain ⟨table, htable, hscope⟩ := exists_left_of_forall₂ hrenders hmodule
    obtain ⟨name, hname, symbol, hsymbol, hmentions⟩ :=
      hscope.mentioned item hitem ident hident
    have hdeclared {table : SymbolTable} (htable : table ∈ graph.scopes) {symbol : Symbol}
        (hsymbol : symbol ∈ table) (hrefers : symbol.RefersTo graph name) :
        ∃ other ∈ modules ++ [shared], ident ∈ other.declared := by
      obtain ⟨other, hother, hpresents⟩ :=
        exists_presents_of_refersTo hmade hfinal htable hsymbol hrefers hname
      obtain ⟨declaring, hdeclaring, hsame⟩ := exists_left_of_forall₂ hdeclares.flip hother
      exact ⟨declaring, hdeclaring, (hsame ident).2 hpresents⟩
    rcases hmentions with hrefers | happlies
    · exact Or.inl (hdeclared htable hsymbol hrefers)
    · rw [or_iff_not_imp_left]
      intro hundeclared
      refine ⟨name, SymbolGraph.mem_arguments htable hsymbol happlies, hname, ?_⟩
      rintro other hother target htarget rfl
      exact hundeclared (hdeclared hother htarget (Or.inl rfl))
  · intro ident
    symm
    apply countP_eq_of_forall₂ _ hdeclares
    intro table module hsame
    exact decide_eq_decide.2 (hsame ident).symm
  · intro module hmodule item hitem hunbound
    obtain ⟨table, htable, hscope⟩ := exists_left_of_forall₂ hrenders hmodule
    exact ⟨table, htable, hscope.bound item hitem hunbound⟩

def pageHistory : List Act :=
  [.build ⟨"page", 0⟩ (.addSharedRecord "Icon" ""),
   .build ⟨"page", 0⟩ (.addRecord "Page" ""),
   .build ⟨"page", 0⟩
     (.addField ⟨"Page", .document⟩ ⟨"icon", "", "", ""⟩ (.named "Icon") [])]

def pageDocument : DocumentSymbols :=
  ⟨"page", [.record ⟨"Page", "", none, [{ name := "icon", type := .named "Icon" }]⟩]⟩

def pageSchema : SymbolGraph where
  documents := [pageDocument]
  shared := [.record ⟨"Icon", "", none, []⟩]
  memberships := []

def moduleNamed (name : String) (items : List Item) : Module where
  ident := { text := name.toList, raw := false }
  items

def structNamed (name : String) (fields : List FieldDecl) : Item :=
  .struct { text := "" } { text := name.toList, raw := false } none fields

def fieldOf (name : String) (type : TypeExpr) : FieldDecl where
  comment := ""
  name
  ident := { text := name.toList, raw := false }
  type
  optional := false

theorem references_resolve_page :
    (∀ document ∈ [pageDocument], document.MadeByBuilder) ∧
      (Workshop.after pageHistory).registry.finalize [pageDocument] = .ok pageSchema ∧
      ∃ page shared, pageSchema.Emits [page] shared ∧
      page.mentioned = [⟨"Icon".toList, false⟩] ∧
        ∃ other ∈ [page, shared], ⟨"Icon".toList, false⟩ ∈ other.declared := by
  have hmade : ∀ document ∈ [pageDocument], document.MadeByBuilder := by
    rw [List.forall_mem_singleton]
    exact ⟨pageHistory, ⟨"page", 0⟩, rfl, rfl⟩
  have hfinal : (Workshop.after pageHistory).registry.finalize [pageDocument] =
      .ok pageSchema := by
    decide +kernel
  have hemits : pageSchema.Emits
      [moduleNamed "page"
        [structNamed "Page" [fieldOf "icon" (.declared ⟨"Icon".toList, false⟩)]]]
      (moduleNamed "global" [structNamed "Icon" []]) := by
    constructor
    · refine .cons ?_ .nil
      decide +kernel
    · decide +kernel
  refine ⟨hmade, hfinal, _, _, hemits, rfl, ?_⟩
  have hresolves :=
    (references_resolve hmade hfinal hemits).2.1 _ List.mem_cons_self _ List.mem_cons_self
  apply hresolves.resolve_right
  rintro ⟨name, hname, -⟩
  contradiction

/-- Both documents have a record of the same name, and one of them a record with the name
of a type that is always there; the shared record refers to the first, and to a parameter
that it does not have, and a check applies the first to a type that no symbol has. -/
def ambiguousHistory : List Act :=
  [.build ⟨"page", 0⟩ (.addRecord "Item" ""),
   .build ⟨"user", 0⟩ (.addRecord "Item" ""),
   .build ⟨"user", 0⟩ (.addRecord "string" ""),
   .build ⟨"page", 0⟩ (.addSharedRecord "Box" ""),
   .build ⟨"page", 0⟩ (.addField ⟨"Box", .shared⟩ ⟨"item", "", "", ""⟩ (.named "Item") []),
   .build ⟨"page", 0⟩
     (.addField ⟨"Box", .shared⟩ ⟨"value", "", "", ""⟩ (.parameter "T") []),
   .build ⟨"page", 0⟩ (.addUnmarshalCheck ⟨"Item", .document⟩ "1" (some "Missing"))]

def ambiguousSchema : SymbolGraph where
  documents :=
    [⟨"page", [.emptyRecord "Item" "" none]⟩,
     ⟨"user", [.emptyRecord "Item" "" none, .emptyRecord "string" "" none]⟩]
  shared :=
    [.record ⟨"Box", "", none,
      [{ name := "item", type := .named "Item" },
       { name := "value", type := .parameter "T" }]⟩,
     .unmarshalCheck ⟨"Item", some "Missing", ["1"]⟩]
  memberships := []

theorem finalize_ambiguous :
    (Workshop.after ambiguousHistory).registry.finalize ambiguousSchema.documents =
      .ok ambiguousSchema := by
  have hsorted :
      sortByText DocumentSymbols.document ambiguousSchema.documents =
        ambiguousSchema.documents := by
    apply List.mergeSort_of_pairwise
    decide +kernel
  rw [Registry.finalize, hsorted]
  decide +kernel

/-- A type that two other modules declare, one that no module declares, a parameter of no
declaration, and a record that is declared as a type that is always there. -/
theorem ambiguous_references :
    (∀ document ∈ ambiguousSchema.documents, document.MadeByBuilder) ∧
      (Workshop.after ambiguousHistory).registry.finalize ambiguousSchema.documents =
        .ok ambiguousSchema ∧
      ∃ page user shared, ambiguousSchema.Emits [page, user] shared ∧
        (⟨"Item".toList, false⟩ ∈ shared.mentioned ∧
         ⟨"Item".toList, false⟩ ∉ shared.declared ∧
          ⟨"Item".toList, false⟩ ∈ page.declared ∧
          ⟨"Item".toList, false⟩ ∈ user.declared) ∧
        (⟨"Missing".toList, false⟩ ∈ shared.mentioned ∧
          ∀ module ∈ [page, user, shared], ⟨"Missing".toList, false⟩ ∉ module.declared) ∧
        (∃ item ∈ shared.items, ¬ item.Bound) ∧
        ⟨"String".toList, false⟩ ∈ user.declared := by
  refine ⟨?_, finalize_ambiguous,
    moduleNamed "page" [structNamed "Item" []],
    moduleNamed "user" [structNamed "Item" [], structNamed "String" []],
    moduleNamed "global"
      [structNamed "Box"
        [fieldOf "item" (.declared ⟨"Item".toList, false⟩),
         fieldOf "value" (.parameter ⟨"T".toList, false⟩)],
       .decodeTests
        [⟨⟨"item_missing_decodes_documented_examples".toList, false⟩,
          ⟨"Item".toList, false⟩,
          some ⟨"Missing".toList, false⟩, ["1"]⟩]], ?_, ?_, ?_, ?_, ?_⟩
  · rw [ambiguousSchema, List.forall_mem_cons, List.forall_mem_singleton]
    exact ⟨⟨ambiguousHistory, ⟨"page", 0⟩, rfl, rfl⟩,
      ⟨ambiguousHistory, ⟨"user", 0⟩, rfl, rfl⟩⟩
  · constructor
    · refine .cons ?_ (.cons ?_ .nil)
      · decide +kernel
      · decide +kernel
    · decide +kernel
  · decide
  · decide
  · refine ⟨_, List.mem_cons_self, ?_⟩
    simp [structNamed, fieldOf, Item.Bound, TypeExpr.parameters]
  · decide

end DocContract
