import DocContract.Proofs.ResolvedNames
import DocContract.Proofs.TypeNames

/-!
# The key of a closed union

A closed union with a key is declared with a text field for it.  A later declaration
changes no more than the comment of the union, and a field that is added under the name of
the key is refused unless it is such a field again.  So the look-up that is generated for
the union always reads a text field that must be there, and this field selects no variant.
-/

namespace DocContract

open DocContract.Code (FieldDecl TypeExpr closedUnionDoc dispatchArms fieldDecls fieldIdent
  mayBeAbsent sortArms symbolItems typeIdent)

/-- A required text field that stands for nothing but the key of a union. -/
structure Field.IsKey (key : String) (field : Field) : Prop where
  name_eq : field.name = key
  type_eq : field.type = .string
  optional_eq : field.optional = false
  omitEmpty_eq : field.omitEmpty = false
  typeSpecific_eq : field.typeSpecific = false
  discriminator_eq : field.discriminator = none
  literal_eq : field.literal = none

/-- Being the key is decided by what a merge keeps. -/
theorem Field.isKey_iff (key : String) (field : Field) :
    field.IsKey key ↔ field.outline = { name := key, type := .string } := by
  constructor
  · intro hkey
    simp [outline, hkey.name_eq, hkey.type_eq, hkey.optional_eq, hkey.omitEmpty_eq,
      hkey.typeSpecific_eq, hkey.discriminator_eq, hkey.literal_eq]
  · intro houtline
    simp only [outline, mk.injEq, Option.map_eq_none_iff, true_and] at houtline
    obtain ⟨hname, htype, hoptional, homit, hspecific, hdiscriminator, hliteral⟩ :=
      houtline
    exact ⟨hname, htype, hoptional, homit, hspecific, hdiscriminator, hliteral⟩

/-- The first field is the key, and no other has its name. -/
def LedByKey (key : String) (fields : List Field) : Prop :=
  ∃ first later, fields = first :: later ∧ first.IsKey key ∧ key ∉ later.map Field.name

theorem LedByKey.merge {key : String} {fields merged : List Field} {added stored : Field}
    (hled : LedByKey key fields)
    (hmerge : mergeField? fields added = some (merged, stored)) :
    LedByKey key merged := by
  obtain ⟨first, later, rfl, hfirst, hlater⟩ := hled
  rcases mergeField?_cases hmerge with
    ⟨hnew, rfl, -⟩ | ⟨before, field, after, hsplit, rfl, -, hmerges⟩
  · refine ⟨first, later ++ [added], rfl, hfirst, ?_⟩
    have hother : key ≠ added.name := by
      rintro rfl
      exact hnew (by simp [hfirst.name_eq])
    simp [List.map_append, hlater, hother]
  · cases before with
    | nil =>
        obtain ⟨rfl, rfl⟩ := List.cons.inj hsplit
        refine ⟨stored, later, rfl, ?_, hlater⟩
        rw [Field.isKey_iff, hmerges.outline_left, ← Field.isKey_iff]
        exact hfirst
    | cons head before =>
        obtain ⟨rfl, rfl⟩ := List.cons.inj hsplit
        refine ⟨first, before ++ stored :: after, rfl, hfirst, ?_⟩
        simpa [hmerges.name_eq] using hlater

/-- The key of a closed union that has one. -/
def Symbol.key? : Symbol → Option String
  | closedUnion u => if u.discriminatorKey = "" then none else some u.discriminatorKey
  | _ => none

theorem Symbol.key?_eq_of_outline_eq {a b : Symbol} (houtline : a.outline = b.outline) :
    a.key? = b.key? := by
  cases a <;> cases b <;> simp_all [outline, key?]

theorem Symbol.key?_closedUnion {union : ClosedUnion}
    (hkey : union.discriminatorKey ≠ "") :
    (closedUnion union).key? = some union.discriminatorKey :=
  if_neg hkey

theorem Symbol.ledByKey_seed {symbol : Symbol} {key : String}
    (hkey : symbol.key? = some key) :
    LedByKey key symbol.seed := by
  cases symbol with
  | closedUnion u =>
      by_cases hempty : u.discriminatorKey = ""
      · simp [key?, hempty] at hkey
      · obtain rfl : u.discriminatorKey = key := by simpa [key?, hempty] using hkey
        refine ⟨{ name := u.discriminatorKey, type := .string }, [], ?_, ?_, by simp⟩
        · simp [seed, hempty]
        · exact ⟨rfl, rfl, rfl, rfl, rfl, rfl, rfl⟩
  | record => contradiction
  | openUnion => contradiction
  | literal => contradiction
  | unmarshalCheck => contradiction

theorem Symbol.invariant_ledByKey :
    Symbol.Invariant fun symbol =>
      ∀ key, symbol.key? = some key → LedByKey key symbol.fields := by
  constructor
  · intro symbol hnew key hkey
    rw [hnew.fields_eq]
    exact ledByKey_seed hkey
  · intro existing offered hled key hkey
    rw [key?_eq_of_outline_eq (adoptComment_outline existing offered)] at hkey
    rw [adoptComment_fields]
    exact hled key hkey
  · intro symbol fields added stored hled htakes hmerge key hkey
    rw [key?_eq_of_outline_eq (withFields_outline symbol fields)] at hkey
    rw [htakes.withFields_fields]
    exact (hled key hkey).merge hmerge

theorem Workshop.HasTable.changes {history : List Act} {table : SymbolTable}
    (htable : (after history).HasTable table) :
    Relation.ReflTransGen SymbolTable.Change [] table := by
  have hdevelops : ({} : Workshop).Develops (after history) := develops_run {} history
  rcases htable with rfl | ⟨builder, rfl⟩
  · exact Registry.symbols_changes hdevelops.registry
  · exact hdevelops.tables builder

theorem ofField_of_isKey {key : String} {field : Field} (hkey : field.IsKey key)
    {decl : FieldDecl}
    (hdecl : FieldDecl.ofField field = .ok decl) :
    decl.name = key ∧ fieldIdent key = .ok decl.ident ∧ decl.type = .text ∧
      decl.optional = false := by
  obtain ⟨ident, hident, hrest⟩ := exists_of_bind_eq_ok hdecl
  obtain ⟨type, htype, hall⟩ := exists_of_bind_eq_ok hrest
  obtain rfl := Except.ok.inj hall
  rw [hkey.type_eq] at htype
  obtain rfl := Except.ok.inj htype
  refine ⟨hkey.name_eq, hkey.name_eq ▸ hident, rfl, ?_⟩
  simp [mayBeAbsent, hkey.optional_eq, hkey.omitEmpty_eq, hkey.discriminator_eq]

theorem name_of_ofField {field : Field} {decl : FieldDecl}
    (hdecl : FieldDecl.ofField field = .ok decl) : decl.name = field.name := by
  obtain ⟨ident, -, hrest⟩ := exists_of_bind_eq_ok hdecl
  obtain ⟨type, -, hall⟩ := exists_of_bind_eq_ok hrest
  obtain rfl := Except.ok.inj hall
  rfl

theorem names_of_fieldDecls {fields : List Field} {decls : List FieldDecl}
    (hdecls : fieldDecls fields = .ok decls) :
    decls.map FieldDecl.name = fields.map Field.name := by
  have hall := forall₂_of_fieldDecls hdecls
  clear hdecls
  induction hall with
  | nil => rfl
  | cons hfirst _ ih => rw [List.map_cons, List.map_cons, name_of_ofField hfirst, ih]

theorem field_ne_of_mem_dispatchArms {key : String} {fields : List Field}
    (hled : LedByKey key fields) : ∀ arm ∈ dispatchArms fields, arm.field ≠ key := by
  obtain ⟨first, later, rfl, hfirst, hlater⟩ := hled
  intro arm harm
  rw [dispatchArms, List.filter_cons_of_neg (by simp [hfirst.typeSpecific_eq])] at harm
  obtain ⟨field, hfield, harm⟩ := List.mem_flatMap.1 harm
  obtain ⟨value, -, rfl⟩ := List.mem_map.1 harm
  rintro rfl
  exact hlater (List.mem_map_of_mem (List.mem_of_mem_filter hfield))

/-- The items of a union that has a key: the structure and the look-up. -/
theorem closedUnionItems_eq_ok_iff {graph : SymbolGraph} {union : ClosedUnion}
    {items : List Code.Item} (hkey : union.discriminatorKey ≠ "") :
    symbolItems graph (.closedUnion union) = .ok items ↔
      ∃ ident decls key,
        typeIdent union.name = .ok ident ∧ fieldDecls union.fields = .ok decls ∧
          fieldIdent union.discriminatorKey = .ok key ∧
          items = [.struct (closedUnionDoc union) ident none decls,
            .lookup ident key (sortArms (dispatchArms union.fields))] := by
  constructor
  · intro hitems
    cases Symbol.declaredBy_of_symbolItems hitems with
    | keylessUnion hname hdecls hkeyless => exact absurd hkeyless hkey
    | closedUnion hname hdecls hident => exact ⟨_, _, _, hname, hdecls, hident, rfl⟩
  · rintro ⟨ident, decls, key, hname, hdecls, hident, rfl⟩
    have hblank : ¬ union.discriminatorKey.isEmpty = true := by simpa using hkey
    simp only [symbolItems, Code.closedUnionItems, hname, hdecls, hident, hblank]
    rfl

/-- The first field of the structure is the one that the look-up reads. -/
theorem closedUnionItems_cases {graph : SymbolGraph} {union : ClosedUnion} {first : Field}
    {later : List Field} {items : List Code.Item} (hkey : union.discriminatorKey ≠ "")
    (hfields : union.fields = first :: later)
    (hitems : symbolItems graph (.closedUnion union) = .ok items) :
    ∃ doc ident decl decls key,
      items = [.struct doc ident none (decl :: decls),
        .lookup ident key (sortArms (dispatchArms union.fields))] ∧
        FieldDecl.ofField first = .ok decl ∧ fieldDecls later = .ok decls ∧
          fieldIdent union.discriminatorKey = .ok key := by
  obtain ⟨ident, all, key, -, hall, hident, rfl⟩ :=
    (closedUnionItems_eq_ok_iff hkey).1 hitems
  rw [hfields] at hall
  obtain ⟨decl, hdecl, hall⟩ := exists_of_bind_eq_ok hall
  obtain ⟨decls, hdecls, hall⟩ := exists_of_bind_eq_ok hall
  obtain rfl := Except.ok.inj hall
  exact ⟨_, ident, decl, decls, key, rfl, hdecl, hdecls, hident⟩

/-- After any history, the first field of a closed union that has a key is a required text
field for the key, no other field has its name, and the values that the union dispatches on
are those of the other fields.  Where the union is generated, the look-up reads the first
field of the structure, a text that must be there, and none of its cases leads to that
field. -/
theorem key_read_as_text {history : List Act} {table : SymbolTable}
    (htable : (Workshop.after history).HasTable table) {union : ClosedUnion}
    (hunion : .closedUnion union ∈ table) (hkey : union.discriminatorKey ≠ "") :
    ∃ first later, union.fields = first :: later ∧ first.IsKey union.discriminatorKey ∧
      union.discriminatorKey ∉ later.map Field.name ∧
      union.dispatchValues = { union with fields := later }.dispatchValues ∧
      ∀ graph items, symbolItems graph (.closedUnion union) = .ok items →
        ∃ doc ident decl decls key arms,
          items = [.struct doc ident none (decl :: decls), .lookup ident key arms] ∧
            decl.name = union.discriminatorKey ∧ decl.ident = key ∧ decl.type = .text ∧
            decl.optional = false ∧ union.discriminatorKey ∉ decls.map FieldDecl.name ∧
            ∀ arm ∈ arms, arm.field ≠ union.discriminatorKey := by
  have hled :=
    Symbol.invariant_ledByKey.of_changes htable.changes (.closedUnion union) hunion
      union.discriminatorKey (Symbol.key?_closedUnion hkey)
  have harms := field_ne_of_mem_dispatchArms hled
  obtain ⟨first, later, hfields, hfirst, hlater⟩ := hled
  refine ⟨first, later, hfields, hfirst, hlater, ?_, ?_⟩
  · have hskipped : union.fields.filter (·.typeSpecific) =
        later.filter (·.typeSpecific) := by
      rw [show union.fields = first :: later from hfields,
        List.filter_cons_of_neg (by simp [hfirst.typeSpecific_eq])]
    rw [ClosedUnion.dispatchValues, ClosedUnion.dispatchValues, hskipped]
  · intro graph items hitems
    obtain ⟨doc, ident, decl, decls, key, rfl, hdecl, hdecls, hident⟩ :=
      closedUnionItems_cases hkey hfields hitems
    obtain ⟨hname, hsame, htype, hoptional⟩ := ofField_of_isKey hfirst hdecl
    refine ⟨doc, ident, decl, decls, key, _, rfl, hname, ?_, htype, hoptional, ?_, ?_⟩
    · exact Except.ok.inj (hsame.symm.trans hident)
    · rwa [names_of_fieldDecls hdecls]
    · intro arm harm
      exact harms arm ((List.mergeSort_perm _ _).mem_iff.1 harm)

/-- The union is declared again with another key, and fields are added under the name of
its key: one that only has a comment, and two that are refused. -/
def fileHistory : List Act :=
  [.build ⟨"file", 0⟩ (.addSharedClosedUnion "File" "type" ""),
   .build ⟨"page", 0⟩ (.addSharedClosedUnion "File" "kind" "A file."),
   .build ⟨"page", 0⟩
     (.addField ⟨"File", .shared⟩ ⟨"type", "", "Where it is.", ""⟩ .string []),
   .build ⟨"page", 0⟩
     (.addField ⟨"File", .shared⟩ ⟨"type", "", "", ""⟩ .string [.optional]),
   .direct (.addField "File"
     { name := "type", type := .string, discriminator := some (.values ["external"]) }),
   .build ⟨"file", 0⟩ (.addField ⟨"File", .shared⟩ ⟨"url", "", "", ""⟩ .string
     [.typeSpecific, .optional, .discriminatorValue "external"])]

def fileUnion : ClosedUnion where
  name := "File"
  comment := "A file."
  discriminatorKey := "type"
  fields :=
    [{ name := "type", type := .string, comment := "Where it is." },
     { name := "url", type := .string, optional := true, typeSpecific := true
       discriminator := some (.values ["external"]) }]

theorem key_read_as_text_file :
    .closedUnion fileUnion ∈ (Workshop.after fileHistory).registry.symbols ∧
      fileUnion.discriminatorKey ≠ "" ∧
      ∃ items, symbolItems { documents := [], shared := [], memberships := [] }
          (.closedUnion fileUnion) = .ok items ∧
        ∃ doc ident decl decls key arms,
          items = [.struct doc ident none (decl :: decls), .lookup ident key arms] ∧
            decl.name = "type" ∧ decl.ident = key ∧ decl.type = .text ∧
            decl.optional = false ∧
            "type" ∉ decls.map FieldDecl.name ∧ ∀ arm ∈ arms, arm.field ≠ "type" := by
  have hunion : .closedUnion fileUnion ∈
      (Workshop.after fileHistory).registry.symbols := by
    decide +kernel
  have hkey : fileUnion.discriminatorKey ≠ "" := by decide
  obtain ⟨first, later, -, -, -, -, hlookup⟩ := key_read_as_text (.inl rfl) hunion hkey
  have hitems : symbolItems { documents := [], shared := [], memberships := [] }
      (.closedUnion fileUnion) = .ok
        [.struct (Code.closedUnionDoc fileUnion) ⟨"File".toList, false⟩ none
          [⟨"Where it is.", "type", ⟨"type".toList, true⟩, .text, false⟩,
           ⟨"", "url", ⟨"url".toList, false⟩, .text, true⟩],
         .lookup ⟨"File".toList, false⟩ ⟨"type".toList, true⟩ [⟨"external", "url"⟩]] := by
    decide +kernel
  exact ⟨hunion, hkey, _, hitems, hlookup _ _ hitems⟩

end DocContract
