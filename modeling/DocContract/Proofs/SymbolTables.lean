import DocContract.Proofs.FieldMerging

/-!
# Symbol tables by name

A table is read through `SymbolTable.get?`.  Declaring a symbol and adding a field change
what is read under one name, and whether they are refused depends on that name alone.  No
name is ever taken away or entered twice.
-/

namespace DocContract

namespace Symbol

/-- The comment of a symbol; constants and checks have none. -/
def comment : Symbol → String
  | record r => r.comment
  | closedUnion u => u.comment
  | openUnion u => u.comment
  | literal _ => ""
  | unmarshalCheck _ => ""

/-- What a declaration fixes of a symbol: all but its comment and its fields. -/
def outline : Symbol → Symbol
  | record r => record { r with comment := "", fields := [] }
  | closedUnion u => closedUnion { u with comment := "", fields := [] }
  | openUnion u => openUnion { u with comment := "" }
  | symbol => symbol

/-- A symbol with other fields, if it can have any. -/
def withFields : Symbol → List Field → Symbol
  | record r, fields => record { r with fields }
  | closedUnion u, fields => closedUnion { u with fields }
  | symbol, _ => symbol

def TakesFields (symbol : Symbol) : Prop :=
  symbol.kind = .record ∨ symbol.kind = .closedUnion

theorem name_eq_of_outline_eq {a b : Symbol} (houtline : a.outline = b.outline) :
    a.name = b.name := by
  cases a <;> cases b <;> simp_all [outline, name]

theorem kind_eq_of_outline_eq {a b : Symbol} (houtline : a.outline = b.outline) :
    a.kind = b.kind := by
  cases a <;> cases b <;> simp_all [outline, kind]

@[simp] theorem outline_kind (symbol : Symbol) : symbol.outline.kind = symbol.kind := by
  cases symbol <;> rfl

theorem eq_of_outline_eq {a b : Symbol}
    (houtline : a.outline = b.outline) (hcomment : a.comment = b.comment)
    (hfields : a.fields = b.fields) : a = b := by
  cases a with
  | record r =>
      cases b <;> simp_all [outline, comment, fields]
      next r' => cases r; cases r'; simp_all
  | closedUnion u =>
      cases b <;> simp_all [outline, comment, fields]
      next u' => cases u; cases u'; simp_all
  | openUnion u =>
      cases b <;> simp_all [outline, comment, fields]
      next u' => cases u; cases u'; simp_all
  | literal l => cases b <;> simp_all [outline]
  | unmarshalCheck c => cases b <;> simp_all [outline]

@[simp] theorem adoptComment_name (current offered : Symbol) :
    (current.adoptComment offered).name = current.name := by
  cases current <;> cases offered <;> rfl

@[simp] theorem adoptComment_kind (current offered : Symbol) :
    (current.adoptComment offered).kind = current.kind := by
  cases current <;> cases offered <;> rfl

@[simp] theorem adoptComment_fields (current offered : Symbol) :
    (current.adoptComment offered).fields = current.fields := by
  cases current <;> cases offered <;> rfl

@[simp] theorem adoptComment_outline (current offered : Symbol) :
    (current.adoptComment offered).outline = current.outline := by
  cases current <;> cases offered <;> rfl

theorem keptComment_eq (current offered : String) :
    keptComment current offered = if current = "" then offered else current := by
  unfold keptComment
  by_cases hblank : current = "" <;> simp [hblank]

theorem adoptComment_comment {current offered : Symbol}
    (hkind : current.kind = offered.kind) :
    (current.adoptComment offered).comment =
      if current.comment = "" then offered.comment else current.comment := by
  cases current <;> cases offered <;> first
    | contradiction
    | exact keptComment_eq _ _
    | rfl

@[simp] theorem withFields_name (symbol : Symbol) (fields : List Field) :
    (symbol.withFields fields).name = symbol.name := by
  cases symbol <;> rfl

@[simp] theorem withFields_kind (symbol : Symbol) (fields : List Field) :
    (symbol.withFields fields).kind = symbol.kind := by
  cases symbol <;> rfl

@[simp] theorem withFields_comment (symbol : Symbol) (fields : List Field) :
    (symbol.withFields fields).comment = symbol.comment := by
  cases symbol <;> rfl

@[simp] theorem withFields_outline (symbol : Symbol) (fields : List Field) :
    (symbol.withFields fields).outline = symbol.outline := by
  cases symbol <;> rfl

theorem TakesFields.withFields_fields {symbol : Symbol} (htakes : symbol.TakesFields)
    (fields : List Field) : (symbol.withFields fields).fields = fields := by
  cases symbol <;> simp_all [TakesFields, kind, withFields, Symbol.fields]

/-- The fields with which a symbol is declared. -/
def seed : Symbol → List Field
  | closedUnion u =>
    if u.discriminatorKey.isEmpty then [] else
      [{ name := u.discriminatorKey, type := .string }]
  | _ => []

theorem seed_eq_of_outline_eq {a b : Symbol} (houtline : a.outline = b.outline) :
    a.seed = b.seed := by
  cases a <;> cases b <;> simp_all [outline, seed]

theorem fieldsGather_seed (symbol : Symbol) : FieldsGather symbol.seed symbol.seed := by
  cases symbol with
  | closedUnion u =>
      simp only [seed]
      split
      · exact FieldsGather.nil
      · exact FieldsGather.nil.merge List.Pairwise.nil rfl
  | record => exact FieldsGather.nil
  | openUnion => exact FieldsGather.nil
  | literal => exact FieldsGather.nil
  | unmarshalCheck => exact FieldsGather.nil

/-- A symbol as it is declared: no check, and without fields that were added. -/
structure IsNew (symbol : Symbol) : Prop where
  named : symbol.isNamed = true
  fields_eq : symbol.fields = symbol.seed

theorem isNew_emptyRecord (name comment : String) (typeParameter : Option String) :
    (emptyRecord name comment typeParameter).IsNew := ⟨rfl, rfl⟩

theorem isNew_emptyClosedUnion (name key comment : String) :
    (emptyClosedUnion name key comment).IsNew := ⟨rfl, rfl⟩

theorem isNew_openUnion (union : OpenUnion) : (openUnion union).IsNew := ⟨rfl, rfl⟩

theorem isNew_literal (constant : Literal) : (literal constant).IsNew := ⟨rfl, rfl⟩

/-- Adding a field to a symbol merges it into the fields and leaves the rest. -/
theorem attach_eq_ok_iff (symbol updated : Symbol) (added stored : Field) :
    symbol.attach added = .ok (updated, stored) ↔
      symbol.TakesFields ∧
        ∃ fields, mergeField? symbol.fields added = some (fields, stored) ∧
          updated = symbol.withFields fields := by
  cases symbol with
  | record r =>
      cases hmerge : mergeField? r.fields added <;>
        simp [attach, fields, TakesFields, kind, withFields, hmerge, Prod.ext_iff,
          eq_comm, and_comm]
  | closedUnion u =>
      cases hmerge : mergeField? u.fields added <;>
        simp [attach, fields, TakesFields, kind, withFields, hmerge, Prod.ext_iff,
          eq_comm, and_comm]
  | openUnion u => simp [attach, TakesFields, kind]
  | literal l => simp [attach, TakesFields, kind]
  | unmarshalCheck c => simp [attach, TakesFields, kind]

end Symbol

namespace SymbolTable

@[simp] theorem names_cons (symbol : Symbol) (table : SymbolTable) :
    names (symbol :: table) = symbol.name :: table.names := rfl

@[simp] theorem get?_nil (name : String) : get? [] name = none := rfl

theorem get?_cons (symbol : Symbol) (table : SymbolTable) (name : String) :
    get? (symbol :: table) name = if symbol.name =
      name then some symbol else get? table name := by
  unfold get?
  by_cases hname : symbol.name = name
  · rw [List.find?_cons_of_pos (by simpa using hname), if_pos hname]
  · rw [List.find?_cons_of_neg (by simpa using hname), if_neg hname]

theorem mem_of_get? {table : SymbolTable} {name : String} {symbol : Symbol}
    (hget : table.get? name = some symbol) : symbol ∈ table ∧ symbol.name = name :=
  ⟨List.mem_of_find?_eq_some hget, by simpa using List.find?_some hget⟩

theorem get?_eq_none_iff (table : SymbolTable) (name : String) :
    table.get? name = none ↔ name ∉ table.names := by
  simp [get?, names]

theorem get?_eq_some_iff {table : SymbolTable} (hnodup : table.names.Nodup)
    (name : String) (symbol : Symbol) :
    table.get? name = some symbol ↔ symbol ∈ table ∧ symbol.name = name := by
  constructor
  · exact mem_of_get?
  · rintro ⟨hmem, rfl⟩
    cases hget : table.get? symbol.name with
    | none =>
        rw [get?_eq_none_iff] at hget
        exact (hget (List.mem_map_of_mem hmem)).elim
    | some other =>
        obtain ⟨hother, hname⟩ := mem_of_get? hget
        rw [List.inj_on_of_nodup_map hnodup hother hmem hname]

/-! ## Declaring a symbol -/

/-- A declaration is refused only if its name belongs to a symbol of another kind. -/
theorem exists_intern_iff (table : SymbolTable) (symbol : Symbol) :
    (∃ after, table.intern symbol = .ok after) ↔
      ∀ existing, table.get? symbol.name = some existing →
        existing.kind = symbol.kind := by
  induction table with
  | nil => simp [intern]
  | cons existing later ih =>
      rw [get?_cons]
      unfold intern
      split
      · split
        · next hkind => simpa using hkind
        · next hkind => simpa using hkind
      · rw [← ih]
        cases intern symbol later <;> simp

theorem get?_of_intern
    {table after : SymbolTable} {symbol : Symbol}
    (hintern : intern symbol table = .ok after) (name : String) :
    after.get? name =
      if symbol.name = name then
        some
          (((table.get? name).map fun existing => existing.adoptComment symbol).getD
            symbol)
      else table.get? name := by
  induction table generalizing after with
  | nil =>
      simp only [intern, Except.ok.injEq] at hintern
      subst hintern
      rw [get?_cons]
      simp
  | cons existing later ih =>
      unfold intern at hintern
      split at hintern
      · next hname =>
        split at hintern
        · simp only [Except.ok.injEq] at hintern
          subst hintern
          rw [get?_cons, get?_cons, Symbol.adoptComment_name, hname]
          split <;> simp
        · contradiction
      · next hname =>
        split at hintern
        · next rest hrest =>
          simp only [Except.ok.injEq] at hintern
          subst hintern
          rw [get?_cons, get?_cons, ih hrest]
          split
          · next hsame =>
            rw [if_neg fun heq => hname (hsame.trans heq.symm)]
          · rfl
        · contradiction

theorem names_of_intern
    {table after : SymbolTable} {symbol : Symbol}
    (hintern : intern symbol table = .ok after) :
    after.names =
      if symbol.name ∈ table.names then table.names else table.names ++ [symbol.name] := by
  induction table generalizing after with
  | nil =>
      simp only [intern, Except.ok.injEq] at hintern
      subst hintern
      simp [names]
  | cons existing later ih =>
      unfold intern at hintern
      split at hintern
      · next hname =>
        split at hintern
        · simp only [Except.ok.injEq] at hintern
          subst hintern
          simp [names, hname]
        · contradiction
      · next hname =>
        split at hintern
        · next rest hrest =>
          simp only [Except.ok.injEq] at hintern
          subst hintern
          have hne : symbol.name ≠ existing.name := fun heq => hname heq.symm
          rw [names_cons, names_cons, ih hrest]
          by_cases hmem : symbol.name ∈ names later
          · rw [if_pos hmem, if_pos (List.mem_cons_of_mem _ hmem)]
          · rw [if_neg hmem, if_neg (by simp [hne, hmem])]
            rfl
        · contradiction

theorem nodup_of_intern
    {table after : SymbolTable} {symbol : Symbol}
    (hnodup : table.names.Nodup) (hintern : intern symbol table = .ok after) :
    after.names.Nodup := by
  rw [names_of_intern hintern]
  split
  · exact hnodup
  · next hnew =>
    rw [List.nodup_append]
    refine ⟨hnodup, List.nodup_singleton _, ?_⟩
    intro name hmem other hother hsame
    rw [List.mem_singleton] at hother
    exact hnew (hother ▸ hsame ▸ hmem)

/-- A field is added to the symbol with the name of the target, and to no other. -/
theorem get?_of_attach
    {table after : SymbolTable} {target : String} {added stored : Field}
    (hattach : attach target added table = .ok (after, stored)) :
    ∃ symbol updated,
      table.get? target = some symbol ∧
        symbol.attach added = .ok (updated, stored) ∧
        ∀ name, after.get? name = if target =
          name then some updated else table.get? name := by
  induction table generalizing after with
  | nil => simp [attach] at hattach
  | cons first later ih =>
      unfold attach at hattach
      split at hattach
      · next hname =>
        split at hattach
        · next updated kept hupdated =>
          simp only [Except.ok.injEq, Prod.mk.injEq] at hattach
          obtain ⟨rfl, rfl⟩ := hattach
          have hsame : updated.name = target := by
            obtain ⟨-, fields, -, rfl⟩ := (Symbol.attach_eq_ok_iff _ _ _ _).1 hupdated
            rw [Symbol.withFields_name, hname]
          refine ⟨first, updated,
            by rw [get?_cons, if_pos hname], hupdated, fun name => ?_⟩
          rw [get?_cons, get?_cons, hsame, hname]
          split <;> rfl
        · contradiction
      · next hname =>
        split at hattach
        · next rest kept hrest =>
          simp only [Except.ok.injEq, Prod.mk.injEq] at hattach
          obtain ⟨rfl, rfl⟩ := hattach
          obtain ⟨symbol, updated, hget, hupdated, hafter⟩ := ih hrest
          refine ⟨symbol, updated, by rw [get?_cons, if_neg hname, hget], hupdated,
            fun name => ?_⟩
          rw [get?_cons, get?_cons, hafter]
          split
          · next hfirst =>
            rw [if_neg fun heq => hname (hfirst.trans heq.symm)]
          · rfl
        · contradiction

theorem exists_attach
    {table : SymbolTable} {target : String} {added stored : Field}
    {symbol updated : Symbol}
    (hget : table.get? target = some symbol)
    (hattach : symbol.attach added = .ok (updated, stored)) :
    ∃ after, attach target added table = .ok (after, stored) := by
  induction table with
  | nil => simp at hget
  | cons first later ih =>
      rw [get?_cons] at hget
      unfold attach
      split at hget
      · next hname =>
        simp only [Option.some.injEq] at hget
        subst hget
        rw [if_pos hname, hattach]
        exact ⟨_, rfl⟩
      · next hname =>
        obtain ⟨after, hafter⟩ := ih hget
        rw [if_neg hname, hafter]
        exact ⟨_, rfl⟩

theorem names_of_attach
    {table after : SymbolTable} {target : String} {added stored : Field}
    (hattach : attach target added table = .ok (after, stored)) :
    after.names = table.names := by
  induction table generalizing after with
  | nil => simp [attach] at hattach
  | cons first later ih =>
      unfold attach at hattach
      split at hattach
      · split at hattach
        · next updated kept hupdated =>
          simp only [Except.ok.injEq, Prod.mk.injEq] at hattach
          obtain ⟨rfl, rfl⟩ := hattach
          obtain ⟨-, fields, -, rfl⟩ := (Symbol.attach_eq_ok_iff _ _ _ _).1 hupdated
          rw [names_cons, names_cons, Symbol.withFields_name]
        · contradiction
      · split at hattach
        · next rest kept hrest =>
          simp only [Except.ok.injEq, Prod.mk.injEq] at hattach
          obtain ⟨rfl, rfl⟩ := hattach
          rw [names_cons, names_cons, ih hrest]
        · contradiction

end SymbolTable

end DocContract
