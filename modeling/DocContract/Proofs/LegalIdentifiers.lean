import DocContract.Proofs.DeclaredIdentifiers
import DocContract.Proofs.ModuleFiles

/-!
# Identifiers are legal

Names can be made of the letters of any script, and a case mapping can change how many
there are; what gets into the generated code is an ASCII identifier all the same.  One that
is a keyword is written in raw form, and only where a field, a module or a test is named;
words that are no identifiers in any form are refused.  So whatever makes identifiers out
of such texts has no reason to give up.
-/

namespace DocContract

open DocContract.Code
open DocContract.Naming (Ident)

namespace Naming

def IsAsciiLetter (c : Char) : Prop :=
  'a' ≤ c ∧ c ≤ 'z' ∨ 'A' ≤ c ∧ c ≤ 'Z'

def IsAsciiDigit (c : Char) : Prop :=
  '0' ≤ c ∧ c ≤ '9'

/-- A text is an identifier: an ASCII letter or an underscore, and then letters, digits and
underscores. -/
def IsAsciiIdentifier (text : List Char) : Prop :=
  ∃ first later, text = first :: later ∧ (IsAsciiLetter first ∨ first = '_') ∧
    ∀ c ∈ later, IsAsciiLetter c ∨ IsAsciiDigit c ∨ c = '_'

theorem isAlpha_iff (c : Char) : c.isAlpha = true ↔ IsAsciiLetter c := by
  have hupper : c.isUpper = true ↔ 'A' ≤ c ∧ c ≤ 'Z' := decide_eq_true_iff
  have hlower : c.isLower = (decide ('a' ≤ c) && decide (c ≤ 'z')) := rfl
  have hletter : c.isAlpha = (c.isUpper || c.isLower) := rfl
  rw [hletter, Bool.or_eq_true, hupper, hlower, Bool.and_eq_true, decide_eq_true_iff,
    decide_eq_true_iff, or_comm, IsAsciiLetter]

theorem isDigit_iff (c : Char) : c.isDigit = true ↔ IsAsciiDigit c := by
  simp [Char.isDigit, IsAsciiDigit, Char.le_def]

theorem isIdentifier_iff (text : List Char) :
    isIdentifier text = true ↔ IsAsciiIdentifier text := by
  cases text with
  | nil => simp [isIdentifier, IsAsciiIdentifier]
  | cons first later =>
      simp only [isIdentifier, beginsIdentifier, isIdentifierChar, Char.isAlphanum,
        Bool.and_eq_true,
        Bool.or_eq_true, List.all_eq_true, beq_iff_eq, isAlpha_iff, isDigit_iff, or_assoc]
      constructor
      · rintro ⟨hfirst, hlater⟩
        exact ⟨first, later, rfl, hfirst, hlater⟩
      · rintro ⟨c, cs, hsame, hfirst, hlater⟩
        obtain ⟨rfl, rfl⟩ := List.cons.inj hsame
        exact ⟨hfirst, hlater⟩

/-- An identifier that can be written, in raw form just if it is a keyword. -/
structure Ident.IsLegal (ident : Ident) : Prop where
  identifier : IsAsciiIdentifier ident.text
  raw_iff : ident.raw = true ↔ String.ofList ident.text ∈ keywords
  not_reserved : String.ofList ident.text ∉ ["self", "Self", "super", "crate", "_"]

theorem Ident.isLegal_iff (text : List Char) (raw : Bool) :
    (⟨text, raw⟩ : Ident).IsLegal ↔
      isIdentifier text = true ∧ raw = isKeyword text ∧ isReserved text = false := by
  have hkeyword : isKeyword text = true ↔ String.ofList text ∈ keywords := by
    rw [isKeyword, List.contains_iff_mem]
  have hreserved : isReserved text = false ↔
      String.ofList text ∉ ["self", "Self", "super", "crate", "_"] := by
    rw [isReserved, ← Bool.not_eq_true, List.contains_iff_mem, reservedNames]
  rw [isIdentifier_iff, Bool.eq_iff_iff, hkeyword, hreserved]
  constructor
  · exact fun hlegal => ⟨hlegal.identifier, hlegal.raw_iff, hlegal.not_reserved⟩
  · rintro ⟨hidentifier, hraw, hother⟩
    exact ⟨hidentifier, hraw, hother⟩

end Naming

/-- A type gets an identifier just if it is legal without a mark. -/
theorem typeIdent_eq_ok_iff (name : String) (ident : Ident) :
    typeIdent name = .ok ident ↔
      ident = ⟨Naming.pascalCase name.toList, false⟩ ∧ ident.IsLegal := by
  refine (answer_eq_ok_iff _ _ ident _).trans ?_
  rw [and_comm]
  refine and_congr_right ?_
  rintro rfl
  rw [Naming.Ident.isLegal_iff, eq_comm (a := false), Bool.and_eq_true, Bool.and_eq_true,
    Bool.not_eq_true', Bool.not_eq_true', and_assoc]

/-- A field gets an identifier just if it is legal, as a keyword in raw form. -/
theorem fieldIdent_eq_ok_iff (name : String) (ident : Ident) :
    fieldIdent name = .ok ident ↔
      ident = ⟨Naming.snakeCase name.toList,
        Naming.isKeyword (Naming.snakeCase name.toList)⟩ ∧ ident.IsLegal := by
  refine (answer_eq_ok_iff _ _ ident _).trans ?_
  rw [and_comm]
  refine and_congr_right ?_
  rintro rfl
  rw [Naming.Ident.isLegal_iff, Bool.and_eq_true, Bool.not_eq_true',
    eq_self_iff_true, true_and]

namespace Code

/-- The identifiers with which an item names types, its own among them. -/
def Item.typeIdents : Item → List Ident
  | struct _ ident parameter fields =>
    ident :: parameter.toList ++
      fields.flatMap fun field => field.type.mentioned ++ field.type.parameters
  | lookup ident _ _ => [ident]
  | enumeration _ ident variants =>
    ident :: variants.flatMap fun variant => variant.ident :: variant.mentioned
  | wrapper _ ident => [ident]
  | constant ident _ => [ident]
  | decodeTest test => test.mentioned
  | decodeTests tests => tests.flatMap DecodeTest.mentioned

/-- The identifiers with which an item names fields and tests. -/
def Item.fieldIdents : Item → List Ident
  | struct _ _ _ fields => fields.map (·.ident)
  | lookup _ key _ => [key]
  | decodeTest test => [test.name]
  | decodeTests tests => tests.map (·.name)
  | _ => []

/-- All identifiers of an item are made of names. -/
structure Item.Derived (item : Item) : Prop where
  types : ∀ ident ∈ item.typeIdents, ∃ name, typeIdent name = .ok ident
  fields : ∀ ident ∈ item.fieldIdents, ∃ name, fieldIdent name = .ok ident

end Code

theorem derived_struct {doc : DocComment} {name : String} {ident : Ident}
    {parameter? : Option String} {parameter : Option Ident} {fields : List Field}
    {decls : List FieldDecl} (hident : typeIdent name = .ok ident)
    (hparameter : typeIdent? parameter? = .ok parameter)
    (hdecls : fieldDecls fields = .ok decls) :
    (Item.struct doc ident parameter decls).Derived := by
  have hmade := forall₂_of_fieldDecls hdecls
  constructor
  · intro other hother
    simp only [Item.typeIdents, List.cons_append, List.mem_cons, List.mem_append] at hother
    rcases hother with rfl | hother | hother
    · exact ⟨name, hident⟩
    · cases parameter? with
      | none =>
          obtain rfl := Except.ok.inj hparameter
          simp at hother
      | some parameterName =>
          obtain ⟨made, hname, rfl⟩ := (map_eq_ok_iff _ _ _).1 hparameter
          obtain rfl := Option.some.inj (Option.mem_toList.1 hother)
          exact ⟨parameterName, hname⟩
    · obtain ⟨decl, hdecl, hother⟩ := List.mem_flatMap.1 hother
      obtain ⟨field, -, hfield⟩ := exists_left_of_forall₂ hmade hdecl
      obtain ⟨hmentioned, hparameters⟩ := names_of_ofTypeRef (type_of_ofField hfield)
      rcases List.mem_append.1 hother with hother | hother
      · obtain ⟨found, -, hfound⟩ := hmentioned other hother
        exact ⟨found, hfound⟩
      · obtain ⟨found, -, hfound⟩ := hparameters other hother
        exact ⟨found, hfound⟩
  · intro other hother
    obtain ⟨decl, hdecl, rfl⟩ := List.mem_map.1 hother
    obtain ⟨field, -, hfield⟩ := exists_left_of_forall₂ hmade hdecl
    exact ⟨decl.name, fieldIdent_of_ofField hfield⟩

theorem derived_enumeration {doc : DocComment} {name : String} {ident : Ident}
    {members : List Membership} {vs : List Variant} (hident : typeIdent name = .ok ident)
    (hvariants : variants members = .ok vs) : (Item.enumeration doc ident vs).Derived := by
  constructor
  · intro other hother
    rcases List.mem_cons.1 hother with rfl | hother
    · exact ⟨name, hident⟩
    · obtain ⟨variant, hvariant, hother⟩ := List.mem_flatMap.1 hother
      obtain ⟨m, -, hmade⟩ :=
        exists_left_of_forall₂ (forall₂_of_variants hvariants) hvariant
      rcases List.mem_cons.1 hother with rfl | hother
      · exact ⟨_, typeIdent_of_ofMembership hmade⟩
      · obtain ⟨found, -, hfound⟩ := mentioned_of_ofMembership hmade other hother
        exact ⟨found, hfound⟩
  · simp [Item.fieldIdents]

/-- An item that names nothing but its own type. -/
theorem derived_of_typeIdents {item : Item} {name : String} {ident : Ident}
    (hident : typeIdent name = .ok ident) (htypes : item.typeIdents = [ident])
    (hfields : item.fieldIdents = []) : item.Derived := by
  constructor
  · rw [htypes, List.forall_mem_singleton]
    exact ⟨name, hident⟩
  · simp [hfields]

theorem derived_decodeTest {check : UnmarshalCheck} {test : DecodeTest}
    (htest : DecodeTest.ofCheck check = .ok test) : (Item.decodeTest test).Derived := by
  constructor
  · intro other hother
    obtain ⟨found, -, hfound⟩ := mentioned_of_ofCheck htest other hother
    exact ⟨found, hfound⟩
  · obtain ⟨target, -, hrest⟩ := exists_of_bind_eq_ok htest
    obtain ⟨argument, -, hrest⟩ := exists_of_bind_eq_ok hrest
    obtain ⟨ident, hname, hall⟩ := exists_of_bind_eq_ok hrest
    obtain rfl := Except.ok.inj hall
    exact List.forall_mem_singleton.2 ⟨testName check, hname⟩

theorem derived_decodeTests {tests : List DecodeTest}
    (htests : ∀ test ∈ tests, (Item.decodeTest test).Derived) :
    (Item.decodeTests tests).Derived := by
  constructor
  · intro other hother
    obtain ⟨test, htest, hother⟩ := List.mem_flatMap.1 hother
    exact (htests test htest).types other hother
  · intro other hother
    obtain ⟨test, htest, rfl⟩ := List.mem_map.1 hother
    exact (htests test htest).fields test.name (List.mem_singleton_self _)

theorem derived_of_symbolItems {graph : SymbolGraph} {symbol : Symbol} {items : List Item}
    (hitems : symbolItems graph symbol = .ok items) : ∀ item ∈ items, item.Derived := by
  have hnone : typeIdent? none = .ok none := rfl
  cases Symbol.declaredBy_of_symbolItems hitems with
  | record hident hparameter hdecls =>
      exact List.forall_mem_singleton.2 (derived_struct hident hparameter hdecls)
  | keylessUnion hident hdecls hkeyless =>
      exact List.forall_mem_singleton.2 (derived_struct hident hnone hdecls)
  | @closedUnion union ident key decls hident hdecls hkey =>
      rw [List.forall_mem_cons, List.forall_mem_singleton]
      refine ⟨derived_struct hident hnone hdecls, ?_, ?_⟩
      · exact List.forall_mem_singleton.2 ⟨union.name, hident⟩
      · exact List.forall_mem_singleton.2 ⟨union.discriminatorKey, hkey⟩
  | wrapper hident hvariants =>
      exact List.forall_mem_singleton.2 (derived_of_typeIdents hident rfl rfl)
  | enumeration hident hvariants =>
      exact List.forall_mem_singleton.2 (derived_enumeration hident hvariants)
  | constant hident =>
      exact List.forall_mem_singleton.2 (derived_of_typeIdents hident rfl rfl)
  | decodeTest htest => exact List.forall_mem_singleton.2 (derived_decodeTest htest)

theorem derived_of_documentItems {graph : SymbolGraph} {table : SymbolTable}
    {items : List Item}
    (hitems : documentItems graph table = .ok items) : ∀ item ∈ items, item.Derived := by
  induction table generalizing items with
  | nil =>
      obtain rfl := Except.ok.inj hitems
      simp
  | cons symbol table ih =>
      obtain ⟨first, hfirst, hrest⟩ := exists_of_bind_eq_ok hitems
      obtain ⟨later, hlater, hall⟩ := exists_of_bind_eq_ok hrest
      obtain rfl := Except.ok.inj hall
      exact List.forall_mem_append.2 ⟨derived_of_symbolItems hfirst, ih hlater⟩

/-! ## Modules -/

/-- All identifiers of an item are legal, and keywords stand in none of the places of
types. -/
structure Code.Item.IsLegal (item : Item) : Prop where
  types : ∀ ident ∈ item.typeIdents, ident.IsLegal ∧ ident.raw = false
  fields : ∀ ident ∈ item.fieldIdents, ident.IsLegal

structure Module.IsLegal (module : Module) : Prop where
  ident : module.ident.IsLegal
  items : ∀ item ∈ module.items, item.IsLegal

theorem isLegal_of_typeIdent {name : String} {ident : Ident}
    (hident : typeIdent name = .ok ident) :
    ident.IsLegal ∧ ident.raw = false := by
  obtain ⟨hmade, hlegal⟩ := (typeIdent_eq_ok_iff name ident).1 hident
  exact ⟨hlegal, by rw [hmade]⟩

theorem isLegal_of_fieldIdent {name : String} {ident : Ident}
    (hident : fieldIdent name = .ok ident) : ident.IsLegal :=
  ((fieldIdent_eq_ok_iff name ident).1 hident).2

theorem Code.Item.Derived.isLegal {item : Item} (hderived : item.Derived) :
    item.IsLegal := by
  constructor
  · intro ident hident
    obtain ⟨name, hname⟩ := hderived.types ident hident
    exact isLegal_of_typeIdent hname
  · intro ident hident
    obtain ⟨name, hname⟩ := hderived.fields ident hident
    exact isLegal_of_fieldIdent hname

theorem isLegal_of_documentModule {graph : SymbolGraph} {document : DocumentSymbols}
    {module : Module} (hmodule : documentModule graph document = .ok module) :
    module.IsLegal := by
  obtain ⟨ident, hident, hrest⟩ := exists_of_bind_eq_ok hmodule
  obtain ⟨items, hitems, hall⟩ := exists_of_bind_eq_ok hrest
  obtain rfl := Except.ok.inj hall
  exact ⟨isLegal_of_fieldIdent hident, fun item hitem =>
    (derived_of_documentItems hitems item hitem).isLegal⟩

theorem isLegal_sharedIdent : sharedIdent.IsLegal := by
  have hmade : fieldIdent "global" = .ok sharedIdent := by decide +kernel
  exact isLegal_of_fieldIdent hmade

theorem isLegal_of_sharedModule {graph : SymbolGraph} {module : Module}
    (hmodule : sharedModule graph = .ok module) : module.IsLegal := by
  obtain ⟨shared, hshared, hall⟩ := exists_of_bind_eq_ok hmodule
  obtain rfl := Except.ok.inj hall
  have hmade := SharedItems.madeFrom_of_sharedItems hshared
  refine ⟨isLegal_sharedIdent, fun item hitem => ?_⟩
  rcases (shared.mem_all_iff item).1 hitem with hitem | ⟨-, rfl⟩
  · obtain ⟨symbol, -, items, hitems, hmem⟩ := hmade.items item hitem
    exact (derived_of_symbolItems hitems item hmem).isLegal
  · refine (derived_decodeTests fun test htest => ?_).isLegal
    obtain ⟨check, -, hcheck⟩ := hmade.tests test htest
    exact derived_decodeTest hcheck

theorem isLegal_of_declaredModules {graph : SymbolGraph} {idents : List Ident}
    (hmodules : declaredModules graph = .ok idents) : ∀ ident ∈ idents, ident.IsLegal := by
  obtain ⟨later, rfl, hlater⟩ := declaredModules_cases hmodules
  have hmade := forall₂_of_each moduleIdents rfl (fun _ _ => rfl) hlater
  rw [List.forall_mem_cons]
  refine ⟨isLegal_sharedIdent, fun ident hident => ?_⟩
  obtain ⟨name, -, hname⟩ := exists_left_of_forall₂ hmade hident
  exact isLegal_of_fieldIdent hname

/-- A name gets an identifier just if it is legal: that of a type without a mark, that of a
field as a keyword in raw form.  So all identifiers of all modules are legal, and where
identifiers are made only a text that is none, or a reserved word in raw form, could be a
reason to panic. -/
theorem identifiers_legal {panics : Ident → Prop}
    (hpanics : ∀ ident, panics ident → ¬ Naming.IsAsciiIdentifier ident.text ∨
      ident.raw = true ∧
        String.ofList ident.text ∈ ["self", "Self", "super", "crate", "_"]) :
    (∀ name ident, typeIdent name = .ok ident ↔
      ident = ⟨Naming.pascalCase name.toList, false⟩ ∧ ident.IsLegal) ∧
    (∀ name ident, fieldIdent name = .ok ident ↔
      ident = ⟨Naming.snakeCase name.toList,
        Naming.isKeyword (Naming.snakeCase name.toList)⟩ ∧ ident.IsLegal) ∧
    (∀ graph : SymbolGraph,
      (∀ document module, documentModule graph document = .ok module → module.IsLegal) ∧
      (∀ module, sharedModule graph = .ok module → module.IsLegal) ∧
      ∀ idents, declaredModules graph = .ok idents → ∀ ident ∈ idents, ident.IsLegal) ∧
    ∀ ident : Ident, ident.IsLegal → ¬ panics ident := by
  refine ⟨typeIdent_eq_ok_iff, fieldIdent_eq_ok_iff, fun graph => ⟨?_, ?_, ?_⟩, ?_⟩
  · exact fun document module => isLegal_of_documentModule
  · exact fun module => isLegal_of_sharedModule
  · exact fun idents => isLegal_of_declaredModules
  · intro ident hlegal hpanic
    rcases hpanics ident hpanic with hother | ⟨-, hreserved⟩
    · exact hother hlegal.identifier
    · exact hlegal.not_reserved hreserved

/-- The small form of the sign for kelvins is a letter of ASCII. -/
example : Naming.fieldIdent? ['\u212a'] = some ⟨['k'], false⟩ := by
  decide +kernel

/-- A text that is no ASCII identifier panics, and so does a reserved word in raw form. -/
def panicsAt (ident : Ident) : Prop :=
  Naming.isIdentifier ident.text = false ∨ ident.raw = true ∧
    Naming.isReserved ident.text = true

theorem identifiers_legal_keyword :
    (∀ ident, panicsAt ident → ¬ Naming.IsAsciiIdentifier ident.text ∨
      ident.raw = true ∧ String.ofList ident.text ∈
        ["self", "Self", "super", "crate", "_"]) ∧
    fieldIdent "Type" = .ok ⟨"type".toList, true⟩ ∧ ¬ panicsAt ⟨"type".toList, true⟩ ∧
    fieldIdent "Self" ≠ .ok ⟨"self".toList, false⟩ ∧
    typeIdent "self" ≠ .ok ⟨"Self".toList, false⟩ := by
  have hpanics : ∀ ident, panicsAt ident → ¬ Naming.IsAsciiIdentifier ident.text ∨
      ident.raw = true ∧ String.ofList ident.text ∈
        ["self", "Self", "super", "crate", "_"] := by
    rintro ident (hother | ⟨hraw, hreserved⟩)
    · left
      rw [← Naming.isIdentifier_iff, hother]
      exact Bool.false_ne_true
    · right
      exact ⟨hraw, List.contains_iff_mem.1 hreserved⟩
  have hmade : fieldIdent "Type" = .ok ⟨"type".toList, true⟩ := by decide +kernel
  obtain ⟨htypes, hfields, -, hnone⟩ := identifiers_legal hpanics
  refine ⟨hpanics, hmade, hnone _ ((hfields _ _).1 hmade).2, ?_, ?_⟩
  · intro hself
    exact ((hfields _ _).1 hself).2.not_reserved (by decide)
  · intro hself
    exact ((htypes _ _).1 hself).2.not_reserved (by decide)

end DocContract
