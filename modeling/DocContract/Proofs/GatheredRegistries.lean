import DocContract.Proofs.SharedContributions

/-!
# What contributions add up to

A registry gathers some contributions when it holds what they contribute and nothing else.
An accepted contribution keeps that, and whether a contribution is accepted can be told
from those that have been gathered.  So neither depends on the order of the contributions,
as long as a symbol is declared before it is extended.
-/

namespace DocContract

namespace Contribution

/-- What every step contributes: symbols without fields of their own, and fields in
order. -/
def WellFormed : Contribution → Prop
  | declare symbol => symbol.kind ≠ .literal ∧ symbol.fields = symbol.seed
  | extend _ field => Ascending textBefore field.discriminatorValues
  | _ => True

/-- A symbol is declared by one of some contributions. -/
def Declared (contributions : List Contribution) (symbol : Symbol) : Prop :=
  ∃ contribution ∈ contributions, contribution.symbol? = some symbol

/-- The fields that are added to the symbol with a name. -/
def offers (name : String) (contributions : List Contribution) : List Field :=
  contributions.filterMap fun
    | extend target field => if target = name then some field else none
    | _ => none

/-- Symbols of one name and kind are declared alike; constants are compared when they are
declared. -/
def Agree (contributions : List Contribution) : Prop :=
  ∀ a b, Declared contributions a → Declared contributions b →
    a.name = b.name → a.kind = b.kind → a.kind ≠ .literal → a.outline = b.outline

/-- After some contributions, others extend only what has been declared. -/
def TargetsDeclared : List Contribution → List Contribution → Prop
  | _, [] => True
  | past, contribution :: later =>
    (∀ target field, contribution = extend target field →
        ∃ symbol, Declared past symbol ∧ symbol.name = target) ∧
      TargetsDeclared (past ++ [contribution]) later

theorem declared_append_iff (earlier later : List Contribution) (symbol : Symbol) :
    Declared (earlier ++ later) symbol ↔ Declared earlier symbol ∨
      Declared later symbol := by
  simp [Declared, or_and_right, exists_or]

theorem declared_singleton_iff (contribution : Contribution) (symbol : Symbol) :
    Declared [contribution] symbol ↔ contribution.symbol? = some symbol := by
  simp [Declared]

theorem mem_offers_iff (name : String) (contributions : List Contribution)
    (field : Field) :
    field ∈ offers name contributions ↔ extend name field ∈ contributions := by
  unfold offers
  rw [List.mem_filterMap]
  constructor
  · rintro ⟨contribution, hmem, hfield⟩
    split at hfield
    · split at hfield
      · next htarget =>
        simp only [Option.some.injEq] at hfield
        exact htarget ▸ hfield ▸ hmem
      · contradiction
    · contradiction
  · exact fun hmem => ⟨_, hmem, if_pos rfl⟩

theorem offers_append (name : String) (earlier later : List Contribution) :
    offers name (earlier ++ later) = offers name earlier ++ offers name later :=
  List.filterMap_append

theorem offers_singleton_eq_nil
    {contribution : Contribution} {name : String}
    (hfield : ∀ field, contribution ≠ extend name field) :
    offers name [contribution] = [] := by
  refine List.eq_nil_iff_forall_not_mem.2 fun field hmem => hfield field ?_
  rw [mem_offers_iff, List.mem_singleton] at hmem
  exact hmem.symm

theorem ne_extend_of_symbol?
    {contribution : Contribution} {symbol : Symbol}
    (hsymbol : contribution.symbol? = some symbol) (name : String) (field : Field) :
    contribution ≠ extend name field := by
  rintro rfl
  contradiction

theorem WellFormed.fields_eq_seed
    {contribution : Contribution} (hwell : contribution.WellFormed) {symbol : Symbol}
    (hsymbol : contribution.symbol? = some symbol) : symbol.fields = symbol.seed := by
  cases contribution with
  | declare other => exact Option.some.inj hsymbol ▸ hwell.2
  | constant value => exact Option.some.inj hsymbol ▸ rfl
  | extend => contradiction
  | register => contradiction
  | check => contradiction

theorem Agree.mono {contributions others : List Contribution}
    (hagree : Agree contributions) (hmem : ∀ c ∈ others, c ∈ contributions) :
    Agree others := by
  intro a b ⟨c, hc, hca⟩ ⟨d, hd, hdb⟩
  exact hagree a b ⟨c, hmem c hc, hca⟩ ⟨d, hmem d hd, hdb⟩

theorem Declared.mono
    {contributions others : List Contribution} (hmem : ∀ c ∈ others, c ∈ contributions)
    {symbol : Symbol} (hdeclared : Declared others symbol) :
    Declared contributions symbol := by
  obtain ⟨c, hc, hsymbol⟩ := hdeclared
  exact ⟨c, hmem c hc, hsymbol⟩

theorem TargetsDeclared.of_forall
    {past contributions : List Contribution}
    (htarget : ∀ target field, extend target field ∈ contributions →
      ∃ symbol, Declared past symbol ∧ symbol.name = target) :
    TargetsDeclared past contributions := by
  induction contributions generalizing past with
  | nil => trivial
  | cons first later ih =>
      constructor
      · rintro target field rfl
        exact htarget target field List.mem_cons_self
      · refine ih fun target field hmem => ?_
        obtain ⟨symbol, hdeclared, hname⟩ :=
          htarget target field (List.mem_cons_of_mem _ hmem)
        exact ⟨symbol, hdeclared.mono fun c => List.mem_append_left _, hname⟩

theorem TargetsDeclared.append
    {past contributions later : List Contribution}
    (htargets : TargetsDeclared past contributions)
    (hlater : TargetsDeclared (past ++ contributions) later) :
    TargetsDeclared past (contributions ++ later) := by
  induction contributions generalizing past with
  | nil => simpa using hlater
  | cons first rest ih =>
      rw [List.append_cons] at hlater
      exact ⟨htargets.1, ih htargets.2 hlater⟩

end Contribution

open Contribution

/-- A symbol holds what was declared under its name and added to it. -/
structure Symbol.Gathers (contributions : List Contribution) (symbol : Symbol) : Prop where
  declared : ∃ other, Declared contributions other ∧ other.name = symbol.name
  outline_eq : ∀ other, Declared contributions other → other.name = symbol.name →
    other.outline = symbol.outline
  comment_eq : symbol.comment = "" ↔
    ∀ other, Declared contributions other → other.name = symbol.name → other.comment = ""
  fields_gather : FieldsGather
    (symbol.seed ++ offers symbol.name contributions) symbol.fields
  takes_fields : offers symbol.name contributions ≠ [] → symbol.TakesFields

section Symbols

variable {past : List Contribution} {contribution : Contribution} {symbol : Symbol}

theorem Symbol.Gathers.append_of_unrelated
    (hgathers : symbol.Gathers past)
    (hother : ∀ other, contribution.symbol? = some other → other.name ≠ symbol.name)
    (hfield : ∀ field, contribution ≠ extend symbol.name field) :
    symbol.Gathers (past ++ [contribution]) := by
  have hdeclared : ∀ other, other.name = symbol.name →
      (Declared (past ++ [contribution]) other ↔ Declared past other) := by
    intro other hname
    rw [declared_append_iff, declared_singleton_iff]
    exact or_iff_left fun hsymbol => hother other hsymbol hname
  have hsame : offers symbol.name (past ++ [contribution]) = offers symbol.name past := by
    rw [offers_append, offers_singleton_eq_nil hfield, List.append_nil]
  constructor
  · obtain ⟨other, hpast, hname⟩ := hgathers.declared
    exact ⟨other, (hdeclared other hname).2 hpast, hname⟩
  · intro other hpast hname
    exact hgathers.outline_eq other ((hdeclared other hname).1 hpast) hname
  · rw [hgathers.comment_eq]
    constructor
    · intro hblank other hpast hname
      exact hblank other ((hdeclared other hname).1 hpast) hname
    · intro hblank other hpast hname
      exact hblank other ((hdeclared other hname).2 hpast) hname
  · rw [hsame]
    exact hgathers.fields_gather
  · rw [hsame]
    exact hgathers.takes_fields

theorem Symbol.gathers_of_fresh
    (hnew : ∀ other, Declared past other → other.name ≠ symbol.name)
    (hoffers : offers symbol.name past = [])
    (hsymbol : contribution.symbol? = some symbol) (hseed : symbol.fields = symbol.seed) :
    symbol.Gathers (past ++ [contribution]) := by
  have hdeclared : ∀ other, other.name = symbol.name →
      (Declared (past ++ [contribution]) other ↔ other = symbol) := by
    intro other hname
    rw [declared_append_iff, declared_singleton_iff, hsymbol, Option.some.injEq]
    exact ⟨fun h => h.elim (fun hpast => (hnew other hpast hname).elim) Eq.symm,
      fun h => Or.inr h.symm⟩
  have hnone : offers symbol.name (past ++ [contribution]) = [] := by
    rw [offers_append, hoffers, offers_singleton_eq_nil (ne_extend_of_symbol? hsymbol _),
      List.append_nil]
  constructor
  · exact ⟨symbol, (hdeclared symbol rfl).2 rfl, rfl⟩
  · intro other hpast hname
    rw [(hdeclared other hname).1 hpast]
  · constructor
    · intro hblank other hpast hname
      rw [(hdeclared other hname).1 hpast, hblank]
    · exact fun hblank => hblank symbol ((hdeclared symbol rfl).2 rfl) rfl
  · rw [hnone, List.append_nil, hseed]
    exact symbol.fieldsGather_seed
  · exact fun hsome => (hsome hnone).elim

theorem Symbol.Gathers.adoptComment
    {offered : Symbol} (hgathers : symbol.Gathers past)
    (hsymbol : contribution.symbol? = some offered) (hname : offered.name = symbol.name)
    (houtline : symbol.outline = offered.outline) :
    (symbol.adoptComment offered).Gathers (past ++ [contribution]) := by
  have hseed : (symbol.adoptComment offered).seed = symbol.seed :=
    seed_eq_of_outline_eq (adoptComment_outline symbol offered)
  have hoffers :
      offers symbol.name (past ++ [contribution]) = offers symbol.name past := by
    rw [offers_append, offers_singleton_eq_nil (ne_extend_of_symbol? hsymbol _),
      List.append_nil]
  constructor
  · refine ⟨offered, ?_, by rw [hname, adoptComment_name]⟩
    rw [declared_append_iff, declared_singleton_iff]
    exact Or.inr hsymbol
  · intro other hother hsame
    rw [adoptComment_name] at hsame
    rw [adoptComment_outline]
    rw [declared_append_iff, declared_singleton_iff, hsymbol] at hother
    rcases hother with hpast | hnew
    · exact hgathers.outline_eq other hpast hsame
    · rw [houtline, Option.some.inj hnew]
  · rw [adoptComment_comment (kind_eq_of_outline_eq houtline), adoptComment_name]
    have hkept :
        (if symbol.comment = "" then offered.comment else symbol.comment) = "" ↔
          symbol.comment = "" ∧ offered.comment = "" := by
      split
      · next hblank => simp [hblank]
      · next hkept => simp [hkept]
    rw [hkept, hgathers.comment_eq]
    simp only [declared_append_iff, declared_singleton_iff, hsymbol, Option.some.injEq]
    constructor
    · rintro ⟨hpast, hblank⟩ other (hother | rfl) hsame
      · exact hpast other hother hsame
      · exact hblank
    · intro hall
      exact ⟨fun other hother hsame => hall other (Or.inl hother) hsame,
        hall offered (Or.inr rfl) hname⟩
  · rw [hseed, adoptComment_name, hoffers, adoptComment_fields]
    exact hgathers.fields_gather
  · rw [adoptComment_name, hoffers, TakesFields, adoptComment_kind]
    exact hgathers.takes_fields

theorem Symbol.Gathers.attach
    {updated : Symbol} {added stored : Field} (hgathers : symbol.Gathers past)
    (hascend : Ascending textBefore added.discriminatorValues)
    (hattach : symbol.attach added = .ok (updated, stored)) :
    updated.Gathers (past ++ [extend symbol.name added]) := by
  obtain ⟨htakes, fields, hmerge, rfl⟩ := (attach_eq_ok_iff _ _ _ _).1 hattach
  have hdeclared : ∀ other,
      Declared (past ++ [extend symbol.name added]) other ↔ Declared past other := by
    intro other
    rw [declared_append_iff, declared_singleton_iff]
    simp [symbol?]
  have hoffers :
      offers symbol.name (past ++ [extend symbol.name added]) =
        offers symbol.name past ++ [added] := by
    rw [offers_append]
    simp [offers]
  have hseed : (symbol.withFields fields).seed = symbol.seed :=
    seed_eq_of_outline_eq (withFields_outline symbol fields)
  constructor
  · simpa only [hdeclared, withFields_name] using hgathers.declared
  · simpa only [hdeclared, withFields_name, withFields_outline] using hgathers.outline_eq
  · simpa only [hdeclared, withFields_name, withFields_comment] using hgathers.comment_eq
  · rw [hseed, withFields_name, hoffers, htakes.withFields_fields, ← List.append_assoc]
    exact hgathers.fields_gather.merge hascend hmerge
  · intro _
    rw [TakesFields, withFields_kind]
    exact htakes

end Symbols

/-! ## A registry that gathers contributions -/

/-- A registry holds what was contributed to it. -/
structure Registry.Gathers (contributions : List Contribution) (registry : Registry) :
    Prop where
  nodup_names : registry.symbols.names.Nodup
  symbol_gathers : ∀ name symbol, registry.symbols.get? name = some symbol →
    symbol.Gathers contributions
  untouched : ∀ name, registry.symbols.get? name = none →
    (∀ symbol, Declared contributions symbol → symbol.name ≠ name) ∧
      offers name contributions = []
  mem_memberships : ∀ m, m ∈ registry.memberships ↔ .register m ∈ contributions
  checks_ascend : ChecksAscend registry.checks
  recorded_iff : ∀ target typeArgument payload,
    PayloadRecorded registry.checks target typeArgument payload ↔
      .check target payload typeArgument ∈ contributions

theorem Registry.gathers_empty : Registry.Gathers [] {} := by
  constructor
  · exact List.nodup_nil
  · simp
  · exact fun name _ => ⟨by simp [Declared], rfl⟩
  · simp
  · exact ⟨.nil, by simp, by simp⟩
  · simp [PayloadRecorded]

section Registries

variable {past : List Contribution} {registry after : Registry}
    {contribution : Contribution}

theorem Registry.Gathers.get?_of_declared
    (hgathers : registry.Gathers past) {symbol : Symbol}
    (hdeclared : Declared past symbol) :
    ∃ existing, registry.symbols.get? symbol.name = some existing ∧
      existing.Gathers past ∧ symbol.outline = existing.outline := by
  cases hget : registry.symbols.get? symbol.name with
  | none => exact ((hgathers.untouched _ hget).1 symbol hdeclared rfl).elim
  | some existing =>
      have hexisting := hgathers.symbol_gathers _ existing hget
      exact ⟨existing, rfl, hexisting, hexisting.outline_eq symbol hdeclared
        (SymbolTable.mem_of_get? hget).2.symm⟩

/-- An accepted declaration agrees with the symbol that has its name. -/
theorem Registry.Gathers.outline_eq_of_run
    (hgathers : registry.Gathers past) (hwell : contribution.WellFormed)
    (hagree : Agree (past ++ [contribution]))
    (hrun : contribution.run registry = .ok after)
    {symbol existing : Symbol} (hsymbol : contribution.symbol? = some symbol)
    (hget : registry.symbols.get? symbol.name = some existing) :
    existing.outline = symbol.outline := by
  have hname : existing.name = symbol.name := (SymbolTable.mem_of_get? hget).2
  obtain ⟨symbols, hintern, -⟩ := intern_of_run hsymbol hrun
  have hkind : existing.kind = symbol.kind :=
    (SymbolTable.exists_intern_iff _ _).1 ⟨symbols, hintern⟩ existing hget
  obtain rfl | ⟨value, rfl, rfl⟩ := symbol?_cases hsymbol
  · obtain ⟨declared, hdeclared, hsame⟩ := (hgathers.symbol_gathers _ _ hget).declared
    have houtline : declared.outline = existing.outline :=
      (hgathers.symbol_gathers _ _ hget).outline_eq declared hdeclared hsame
    have hkind' : declared.kind = symbol.kind :=
      (Symbol.kind_eq_of_outline_eq houtline).trans hkind
    rw [← houtline]
    refine hagree declared symbol ?_ ?_ (hsame.trans hname) hkind' (hkind' ▸ hwell.1)
    · exact (declared_append_iff _ _ _).2 (Or.inl hdeclared)
    · exact (declared_append_iff _ _ _).2 (Or.inr ((declared_singleton_iff _ _).2 hsymbol))
  · -- Constants may share a name, so what is compared is the value.
    have hvalue := ((Registry.internLiteral_eq_ok_iff _ _ _).1 hrun).1
    cases existing with
    | literal l =>
        have hsame : l.value = value := hvalue l hget
        obtain ⟨name, value'⟩ := l
        obtain rfl : value' = value := hsame
        obtain rfl : name = literalName value' := hname
        rfl
    | record => contradiction
    | closedUnion => contradiction
    | openUnion => contradiction
    | unmarshalCheck => contradiction

/-- A declaration that agrees with the symbol of its name is accepted. -/
theorem Contribution.exists_run_of_declared
    {symbol : Symbol} (hsymbol : contribution.symbol? = some symbol)
    (houtline : ∀ existing, registry.symbols.get? symbol.name = some existing →
      existing.outline = symbol.outline) :
    ∃ after, contribution.run registry = .ok after := by
  have hintern : ∃ after, registry.intern symbol = .ok after := by
    obtain ⟨symbols, hsymbols⟩ := (SymbolTable.exists_intern_iff registry.symbols symbol).2
      fun existing hget => Symbol.kind_eq_of_outline_eq (houtline existing hget)
    exact ⟨_, (Registry.intern_eq_ok_iff _ _ _).2 ⟨symbols, hsymbols, rfl⟩⟩
  obtain rfl | ⟨value, rfl, rfl⟩ := symbol?_cases hsymbol
  · exact hintern
  · obtain ⟨after, hafter⟩ := hintern
    refine ⟨after, (Registry.internLiteral_eq_ok_iff _ _ _).2
      ⟨fun existing hget => ?_, hafter⟩⟩
    have hsame := houtline _ hget
    simp only [Symbol.outline, Symbol.literal.injEq] at hsame
    rw [hsame]

/-- An accepted contribution changes a symbol, or adds a membership, or adds a payload. -/
theorem Contribution.run_cases (hrun : contribution.run registry = .ok after) :
    (∃ symbols, (registry.symbols.names.Nodup → symbols.names.Nodup) ∧
        after = { registry with symbols } ∧ (∀ m, contribution ≠ .register m) ∧
        ∀ target payload typeArgument, contribution ≠ .check target payload typeArgument) ∨
      (∃ m, contribution = .register m ∧ after = registry.register m) ∨
      ∃ target payload typeArgument, contribution = .check target payload typeArgument ∧
        after = registry.check target payload typeArgument := by
  cases contribution with
  | declare symbol =>
      obtain ⟨symbols, hintern, rfl⟩ := intern_of_run rfl hrun
      exact Or.inl ⟨symbols, fun hnodup => SymbolTable.nodup_of_intern hnodup hintern, rfl,
        by simp, by simp⟩
  | constant value =>
      obtain ⟨symbols, hintern, rfl⟩ := intern_of_run rfl hrun
      exact Or.inl ⟨symbols, fun hnodup => SymbolTable.nodup_of_intern hnodup hintern, rfl,
        by simp, by simp⟩
  | extend target field =>
      obtain ⟨symbols, stored, hattach, rfl⟩ := run_extend_eq_ok_iff.1 hrun
      exact Or.inl ⟨symbols, fun hnodup =>
        SymbolTable.names_of_attach hattach ▸ hnodup, rfl, by simp, by simp⟩
  | register membership =>
      exact Or.inr (Or.inl ⟨membership, rfl, (Except.ok.inj hrun).symm⟩)
  | check target payload typeArgument =>
      exact Or.inr (Or.inr ⟨target, payload, typeArgument, rfl, (Except.ok.inj hrun).symm⟩)

theorem Contribution.nodup_of_run
    (hrun : contribution.run registry = .ok after)
    (hnodup : registry.symbols.names.Nodup) :
    after.symbols.names.Nodup := by
  rcases run_cases hrun with
    ⟨symbols, hkeeps, rfl, -⟩ | ⟨m, -, rfl⟩ | ⟨target, payload, _, -, rfl⟩
  · exact hkeeps hnodup
  · exact hnodup
  · exact hnodup

theorem Contribution.mem_memberships_of_run
    (hrun : contribution.run registry = .ok after) (m : Membership) :
    m ∈ after.memberships ↔ m ∈ registry.memberships ∨ contribution = .register m := by
  rcases run_cases hrun with
    ⟨symbols, -, rfl, hother, -⟩ | ⟨m', rfl, rfl⟩ | ⟨target, payload, _, rfl, rfl⟩
  · simp [hother]
  · simp [Registry.register, eq_comm]
  · simp [Registry.check]

theorem Contribution.recorded_of_run
    (hrun : contribution.run registry = .ok after)
    (target : String) (typeArgument : Option String) (payload : String) :
    PayloadRecorded after.checks target typeArgument payload ↔
      PayloadRecorded registry.checks target typeArgument payload ∨
        contribution = .check target payload typeArgument := by
  rcases run_cases hrun with
    ⟨symbols, -, rfl, -, hother⟩ | ⟨m, rfl, rfl⟩ | ⟨target', payload',
      typeArgument', rfl, rfl⟩
  · simp [hother]
  · simp [Registry.register]
  · rw [Registry.check, payloadRecorded_recordCheck, or_comm, Contribution.check.injEq]
    refine or_congr_right ⟨?_, ?_⟩
    · rintro ⟨rfl, rfl, rfl⟩
      exact ⟨rfl, rfl, rfl⟩
    · rintro ⟨rfl, rfl, rfl⟩
      exact ⟨rfl, rfl, rfl⟩

theorem Contribution.checksAscend_of_run
    (hrun : contribution.run registry = .ok after)
    (hchecks : ChecksAscend registry.checks) :
    ChecksAscend after.checks := by
  rcases run_cases hrun with
    ⟨symbols, -, rfl, -⟩ | ⟨m, -, rfl⟩ | ⟨target, payload, typeArgument, -, rfl⟩
  · exact hchecks
  · exact hchecks
  · exact hchecks.record target payload typeArgument

/-- What is read under a name goes on to gather what is contributed under it. -/
theorem Registry.Gathers.symbol_of_run
    (hgathers : registry.Gathers past) (hwell : contribution.WellFormed)
    (hagree : Agree (past ++ [contribution]))
    (hrun : contribution.run registry = .ok after)
    {name : String} {symbol : Symbol} (hget : after.symbols.get? name = some symbol) :
    symbol.Gathers (past ++ [contribution]) := by
  -- The name is declared, or a field is added under it, or it is not concerned.
  rw [get?_of_run hrun] at hget
  by_cases hsymbol : ∃ offered, contribution.symbol? = some offered ∧ offered.name = name
  · obtain ⟨offered, hsymbol, rfl⟩ := hsymbol
    rw [cell_of_symbol? hsymbol, if_pos rfl, Option.some.injEq] at hget
    cases hexisting : registry.symbols.get? offered.name with
    | none =>
        obtain ⟨hnew, hoffers⟩ := hgathers.untouched _ hexisting
        obtain rfl : offered = symbol := by simpa [hexisting, Symbol.redeclared] using hget
        exact Symbol.gathers_of_fresh hnew hoffers hsymbol
          (WellFormed.fields_eq_seed hwell hsymbol)
    | some existing =>
        obtain rfl : existing.adoptComment offered = symbol := by
          simpa [hexisting, Symbol.redeclared] using hget
        exact (hgathers.symbol_gathers _ existing hexisting).adoptComment hsymbol
          (SymbolTable.mem_of_get? hexisting).2.symm
          (hgathers.outline_eq_of_run hwell hagree hrun hsymbol hexisting)
  · push Not at hsymbol
    by_cases hfield : ∃ field, contribution = .extend name field
    · obtain ⟨field, rfl⟩ := hfield
      obtain ⟨symbols, stored, hattach, -⟩ := run_extend_eq_ok_iff.1 hrun
      obtain ⟨existing, updated, hexisting, hupdated, -⟩ :=
        SymbolTable.get?_of_attach hattach
      obtain rfl : updated = symbol := by
        simpa [cell, hexisting, Symbol.extended_eq_of_attach hupdated] using hget
      obtain rfl : existing.name = name := (SymbolTable.mem_of_get? hexisting).2
      exact (hgathers.symbol_gathers _ existing hexisting).attach hwell hupdated
    · push Not at hfield
      rw [cell_of_unrelated hsymbol hfield] at hget
      obtain rfl : symbol.name = name := (SymbolTable.mem_of_get? hget).2
      exact (hgathers.symbol_gathers _ symbol hget).append_of_unrelated hsymbol hfield

theorem Registry.Gathers.untouched_of_run
    (hgathers : registry.Gathers past) (hrun : contribution.run registry = .ok after)
    {name : String} (hget : after.symbols.get? name = none) :
    (∀ symbol, Declared (past ++ [contribution]) symbol → symbol.name ≠ name) ∧
      offers name (past ++ [contribution]) = [] := by
  rw [get?_of_run hrun] at hget
  have hsymbol : ∀ symbol, contribution.symbol? = some symbol → symbol.name ≠ name := by
    rintro symbol hsymbol rfl
    rw [cell_of_symbol? hsymbol, if_pos rfl] at hget
    contradiction
  have hfield : ∀ field, contribution ≠ .extend name field := by
    rintro field rfl
    obtain ⟨symbols, stored, hattach, -⟩ := run_extend_eq_ok_iff.1 hrun
    obtain ⟨existing, updated, hexisting, -⟩ := SymbolTable.get?_of_attach hattach
    simp [cell, hexisting] at hget
  rw [cell_of_unrelated hsymbol hfield] at hget
  obtain ⟨hnew, hoffers⟩ := hgathers.untouched name hget
  constructor
  · intro symbol hdeclared
    rw [declared_append_iff, declared_singleton_iff] at hdeclared
    exact hdeclared.elim (hnew symbol) (hsymbol symbol)
  · rw [offers_append, hoffers, offers_singleton_eq_nil hfield, List.append_nil]

/-- An accepted contribution is gathered. -/
theorem Registry.Gathers.run
    (hgathers : registry.Gathers past) (hwell : contribution.WellFormed)
    (hagree : Agree (past ++ [contribution]))
    (hrun : contribution.run registry = .ok after) :
    after.Gathers (past ++ [contribution]) := by
  constructor
  · exact nodup_of_run hrun hgathers.nodup_names
  · exact fun name symbol hget => hgathers.symbol_of_run hwell hagree hrun hget
  · exact fun name hget => hgathers.untouched_of_run hrun hget
  · intro m
    rw [mem_memberships_of_run hrun, hgathers.mem_memberships, List.mem_append,
      List.mem_singleton, eq_comm]
  · exact checksAscend_of_run hrun hgathers.checks_ascend
  · intro target typeArgument payload
    rw [recorded_of_run hrun, hgathers.recorded_iff, List.mem_append, List.mem_singleton,
      eq_comm]

end Registries

/-! ## What is accepted in any order -/

/-- Contributions do not contradict each other, in whatever order they are made. -/
structure Contribution.Harmonious (contributions : List Contribution) : Prop where
  outlines : ∀ a b, Declared contributions a → Declared contributions b → a.name = b.name →
    a.outline = b.outline
  takes_fields : ∀ symbol, Declared contributions symbol →
    offers symbol.name contributions ≠ [] → symbol.TakesFields
  fields : ∀ symbol, Declared contributions symbol →
    ∀ f ∈ symbol.seed ++ offers symbol.name contributions,
      ∀ g ∈ symbol.seed ++ offers symbol.name contributions,
        f.name = g.name → f.outline = g.outline

section Order

variable {past contributions : List Contribution} {registry after : Registry}
  {contribution : Contribution}

theorem Contribution.offers_mono
    {others : List Contribution} (hmem : ∀ c ∈ others, c ∈ contributions) {name : String}
    {field : Field} (hfield : field ∈ offers name others) :
    field ∈ offers name contributions := by
  rw [mem_offers_iff] at hfield ⊢
  exact hmem _ hfield

theorem Contribution.Harmonious.mono
    {others : List Contribution} (hharmony : Harmonious contributions)
    (hmem : ∀ c ∈ others, c ∈ contributions) : Harmonious others := by
  have hseeded : ∀ (symbol : Symbol), ∀ f ∈ symbol.seed ++ offers symbol.name others,
      f ∈ symbol.seed ++ offers symbol.name contributions := by
    intro symbol f hf
    rw [List.mem_append] at hf ⊢
    exact hf.imp_right (offers_mono hmem)
  constructor
  · exact fun a b ha hb => hharmony.outlines a b (ha.mono hmem) (hb.mono hmem)
  · intro symbol hsymbol hsome
    obtain ⟨field, hfield⟩ := List.exists_mem_of_ne_nil _ hsome
    exact hharmony.takes_fields symbol (hsymbol.mono hmem)
      (List.ne_nil_of_mem (offers_mono hmem hfield))
  · intro symbol hsymbol f hf g hg
    exact hharmony.fields symbol (hsymbol.mono hmem) f (hseeded symbol f hf) g
      (hseeded symbol g hg)

/-- What has been gathered does not contradict itself. -/
theorem Registry.Gathers.harmonious (hgathers : registry.Gathers past) :
    Harmonious past := by
  constructor
  · intro a b ha hb hname
    obtain ⟨existing, hget, -, hexisting⟩ := hgathers.get?_of_declared ha
    obtain ⟨other, hget', -, hother⟩ := hgathers.get?_of_declared hb
    rw [← hname, hget, Option.some.injEq] at hget'
    rw [hexisting, hother, hget']
  · intro symbol hsymbol hsome
    obtain ⟨existing, hget, hexisting, houtline⟩ := hgathers.get?_of_declared hsymbol
    have hname := Symbol.name_eq_of_outline_eq houtline
    rw [Symbol.TakesFields, Symbol.kind_eq_of_outline_eq houtline]
    exact hexisting.takes_fields (hname ▸ hsome)
  · intro symbol hsymbol f hf g hg hname
    obtain ⟨existing, hget, hexisting, houtline⟩ := hgathers.get?_of_declared hsymbol
    rw [Symbol.seed_eq_of_outline_eq houtline, Symbol.name_eq_of_outline_eq houtline]
      at hf hg
    obtain ⟨field, hfield, hsame⟩ := List.mem_map.1
      ((hexisting.fields_gather.mem_names f.name).2 (List.mem_map_of_mem hf))
    have hgather := hexisting.fields_gather.gathers field hfield
    rw [hgather.outline_eq f hf hsame.symm,
      hgather.outline_eq g hg (hname.symm.trans hsame.symm)]

/-- A contribution that contradicts nothing is accepted, if it extends only what is
there. -/
theorem Registry.Gathers.exists_run
    (hgathers : registry.Gathers past) (hharmony : Harmonious (past ++ [contribution]))
    (htarget : ∀ target field, contribution = .extend target field →
      ∃ symbol, Declared past symbol ∧ symbol.name = target) :
    ∃ after, contribution.run registry = .ok after := by
  have hearlier : ∀ c ∈ past, c ∈ past ++ [contribution] := fun c => List.mem_append_left _
  by_cases hsymbol : ∃ symbol, contribution.symbol? = some symbol
  · obtain ⟨symbol, hsymbol⟩ := hsymbol
    refine exists_run_of_declared hsymbol fun existing hget => ?_
    have hexisting := hgathers.symbol_gathers _ existing hget
    obtain ⟨declared, hdeclared, hname⟩ := hexisting.declared
    rw [← hexisting.outline_eq declared hdeclared hname]
    refine hharmony.outlines declared symbol (hdeclared.mono hearlier) ?_
      (hname.trans (SymbolTable.mem_of_get? hget).2)
    exact (declared_append_iff _ _ _).2 (Or.inr ((declared_singleton_iff _ _).2 hsymbol))
  · cases contribution with
    | declare symbol => exact (hsymbol ⟨_, rfl⟩).elim
    | constant value => exact (hsymbol ⟨_, rfl⟩).elim
    | register membership => exact ⟨_, rfl⟩
    | check target payload typeArgument => exact ⟨_, rfl⟩
    | extend target field =>
        obtain ⟨symbol, hdeclared, rfl⟩ := htarget target field rfl
        obtain ⟨existing, hget, hexisting, houtline⟩ := hgathers.get?_of_declared hdeclared
        have hnew : field ∈ offers symbol.name (past ++ [.extend symbol.name field]) := by
          simp [mem_offers_iff]
        have hseed : existing.seed = symbol.seed :=
          (Symbol.seed_eq_of_outline_eq houtline).symm
        have hname : existing.name = symbol.name := (SymbolTable.mem_of_get? hget).2
        have htakes : existing.TakesFields := by
          rw [Symbol.TakesFields, ← Symbol.kind_eq_of_outline_eq houtline]
          exact hharmony.takes_fields symbol (hdeclared.mono hearlier)
            (List.ne_nil_of_mem hnew)
        have houtlines : ∀ offer ∈ existing.seed ++ offers existing.name past,
            offer.name = field.name → offer.outline = field.outline := by
          intro offer hoffer hsame
          rw [hseed, hname, List.mem_append] at hoffer
          refine hharmony.fields symbol (hdeclared.mono hearlier) offer ?_ field
            (List.mem_append_right _ hnew) hsame
          exact List.mem_append.2 (hoffer.imp_right (offers_mono hearlier))
        obtain ⟨fields, stored, hmerge⟩ := hexisting.fields_gather.exists_merge houtlines
        have hattach := (Symbol.attach_eq_ok_iff _ _ _ _).2 ⟨htakes, fields, hmerge, rfl⟩
        obtain ⟨symbols, hsymbols⟩ := SymbolTable.exists_attach hget hattach
        exact ⟨_, run_extend_eq_ok_iff.2 ⟨symbols, stored, hsymbols, rfl⟩⟩

/-- Accepted contributions are gathered. -/
theorem Registry.Gathers.runAll
    (hgathers : registry.Gathers past) (hwell : ∀ c ∈ contributions, c.WellFormed)
    (hagree : Agree (past ++ contributions))
    (hrun : Contribution.runAll registry contributions = .ok after) :
    after.Gathers (past ++ contributions) := by
  induction contributions generalizing past registry with
  | nil =>
      obtain rfl : registry = after := by simpa using hrun
      rwa [List.append_nil]
  | cons first later ih =>
      rw [List.forall_mem_cons] at hwell
      rw [List.append_cons] at hagree ⊢
      cases hfirst : first.run registry with
      | ok between =>
          rw [runAll_cons_of_ok hfirst] at hrun
          have hbetween := hgathers.run hwell.1
            (hagree.mono fun c => List.mem_append_left _) hfirst
          exact ih hbetween hwell.2 hagree hrun
      | error fault =>
          rw [runAll_cons_of_error hfirst] at hrun
          contradiction

/-- Contributions that contradict neither each other nor the past are accepted. -/
theorem Registry.Gathers.exists_runAll
    (hgathers : registry.Gathers past) (hwell : ∀ c ∈ contributions, c.WellFormed)
    (hagree : Agree (past ++ contributions))
    (hharmony : Harmonious (past ++ contributions))
    (htargets : TargetsDeclared past contributions) :
    ∃ after, Contribution.runAll registry contributions = .ok after := by
  induction contributions generalizing past registry with
  | nil => exact ⟨registry, rfl⟩
  | cons first later ih =>
      rw [List.forall_mem_cons] at hwell
      rw [List.append_cons] at hagree hharmony
      obtain ⟨between, hfirst⟩ := hgathers.exists_run
        (hharmony.mono fun c => List.mem_append_left _) htargets.1
      have hbetween :=
        hgathers.run hwell.1 (hagree.mono fun c => List.mem_append_left _) hfirst
      obtain ⟨after, hafter⟩ := ih hbetween hwell.2 hagree hharmony htargets.2
      exact ⟨after, by rw [runAll_cons_of_ok hfirst, hafter]⟩

end Order

end DocContract
