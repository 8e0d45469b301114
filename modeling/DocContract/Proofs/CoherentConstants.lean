import DocContract.Proofs.RefusedActs
import DocContract.Proofs.SchemaValidation
import DocContract.Proofs.TypeNames

/-!
# Fields with a constant

A field with a constant refers to a symbol of the shared scope that has this constant as
its value.  The symbol is declared before the field is added, no act takes it away or gives
its name to another, and what is merged into the field agrees with it.  So the type of a
field tells its constant, and the finished schema never lacks it.
-/

namespace DocContract

theorem quoteless_of_literalValue? {text value : String}
    (hvalue : literalValue? text = some value) :
    value ≠ "" ∧ '"' ∉ value.toList := by
  unfold literalValue? at hvalue
  split at hvalue
  · split at hvalue
    · next inner hinner =>
      split at hvalue
      · cases hvalue
      · next hplain =>
        simp only [Bool.or_eq_true, List.isEmpty_iff, List.contains_iff_mem, not_or]
          at hplain
        have hchars : value.toList = inner.reverse := by
          rw [← Option.some.inj hvalue, String.toList_ofList]
        constructor
        · rintro rfl
          exact hplain.1 (by simpa using hchars.symm)
        · simpa [hchars] using hplain.2
    · cases hvalue
  · cases hvalue

/-- A field holds a constant, and the symbol of its type is declared for this constant. -/
structure Field.Holds (symbols : SymbolTable) (field : Field) (value : String) : Prop where
  ne_empty : value ≠ ""
  quote_notMem : '"' ∉ value.toList
  type_eq : field.type = .named (literalName value)
  discriminator_eq : field.discriminator = none
  declared : symbols.get? (literalName value) = some (.literal ⟨literalName value, value⟩)

def Field.Coherent (symbols : SymbolTable) (field : Field) : Prop :=
  ∀ value, field.literal = some value → field.Holds symbols value

/-- The fields of a table are coherent with the shared symbols. -/
def SymbolTable.Coherent (symbols table : SymbolTable) : Prop :=
  ∀ symbol ∈ table, ∀ field ∈ symbol.fields, field.Coherent symbols

theorem Field.Coherent.of_outline_eq {symbols : SymbolTable} {field other : Field}
    (hcoherent : field.Coherent symbols) (houtline : other.outline = field.outline) :
    other.Coherent symbols := by
  simp only [outline, mk.injEq, true_and] at houtline
  obtain ⟨-, htype, -, -, -, hdiscriminator, hliteral⟩ := houtline
  intro value hvalue
  have hholds := hcoherent value (hliteral ▸ hvalue)
  have hnone : other.discriminator = none := by
    simpa [hholds.discriminator_eq] using hdiscriminator
  exact ⟨hholds.ne_empty, hholds.quote_notMem, htype.trans hholds.type_eq, hnone,
    hholds.declared⟩

theorem Field.coherent_of_literal_eq_none {symbols : SymbolTable} {field : Field}
    (hnone : field.literal = none) : field.Coherent symbols := by
  intro value hvalue
  rw [hnone] at hvalue
  contradiction

theorem SymbolTable.Grows.get?_literal {before after : SymbolTable}
    (hgrows : before.Grows after)
    (hnodup : after.names.Nodup) {constant : Literal} {name : String}
    (hget : before.get? name = some (.literal constant)) :
    after.get? name = some (.literal constant) := by
  obtain ⟨hmem, hname⟩ := mem_of_get? hget
  obtain ⟨symbol, hsymbol, hbecomes⟩ := hgrows.kept _ hmem
  have hsame : symbol = .literal constant := by
    have houtline := hbecomes.outline_eq
    cases symbol <;> first | contradiction | exact houtline
  rw [get?_eq_some_iff hnodup]
  exact ⟨hsame ▸ hsymbol, hname⟩

section Growing

variable {before after : SymbolTable} (hgrows : before.Grows after)
    (hnodup : after.names.Nodup)

include hgrows hnodup

theorem Field.Coherent.mono {field : Field} (hcoherent : field.Coherent before) :
    field.Coherent after := by
  intro value hvalue
  have hholds := hcoherent value hvalue
  exact { hholds with declared := hgrows.get?_literal hnodup hholds.declared }

theorem SymbolTable.Coherent.mono {table : SymbolTable}
    (hcoherent : Coherent before table) :
    Coherent after table :=
  fun symbol hsymbol field hfield =>
    (hcoherent symbol hsymbol field hfield).mono hgrows hnodup

end Growing

theorem literal_of_mem_seed {symbol : Symbol} {field : Field}
    (hfield : field ∈ symbol.seed) :
    field.literal = none := by
  cases symbol with
  | closedUnion u =>
      simp only [Symbol.seed] at hfield
      split at hfield
      · contradiction
      · obtain rfl := List.mem_singleton.1 hfield
        rfl
  | record | openUnion | literal | unmarshalCheck => contradiction

theorem Field.Coherent.merge {symbols : SymbolTable} {fields merged : List Field}
    {added stored : Field} (hfields : ∀ field ∈ fields, field.Coherent symbols)
    (hadded : added.Coherent symbols)
    (hmerge : mergeField? fields added = some (merged, stored)) :
    ∀ field ∈ merged, field.Coherent symbols := by
  rcases mergeField?_cases hmerge with
    ⟨-, rfl, -⟩ | ⟨before, field, after, rfl, rfl, -, hmerges⟩
  · intro field hfield
    rcases List.mem_append.1 hfield with hold | hnew
    · exact hfields field hold
    · obtain rfl := List.mem_singleton.1 hnew
      exact hadded
  · intro other hother
    rw [List.mem_append, List.mem_cons] at hother
    rcases hother with hbefore | rfl | hafter
    · exact hfields other (by simp [hbefore])
    · exact hadded.of_outline_eq hmerges.outline_right
    · exact hfields other (by simp [hafter])

theorem SymbolTable.Coherent.intern {symbols table after : SymbolTable} {symbol : Symbol}
    (hcoherent : Coherent symbols table) (hnew : symbol.IsNew)
    (hintern : SymbolTable.intern symbol table = .ok after) : Coherent symbols after := by
  rcases intern_cases hintern with rfl | ⟨before, existing, later, rfl, rfl⟩
  · intro other hother field hfield
    rcases List.mem_append.1 hother with hold | hlast
    · exact hcoherent other hold field hfield
    · obtain rfl := List.mem_singleton.1 hlast
      rw [hnew.fields_eq] at hfield
      exact Field.coherent_of_literal_eq_none (literal_of_mem_seed hfield)
  · apply forall_mem_replace hcoherent
    intro hfields
    rwa [Symbol.adoptComment_fields]

theorem SymbolTable.Coherent.attach {symbols table after : SymbolTable} {target : String}
    {added stored : Field} (hcoherent : Coherent symbols table)
    (hadded : added.Coherent symbols)
    (hattach : SymbolTable.attach target added table = .ok (after, stored)) :
    Coherent symbols after := by
  obtain ⟨before, symbol, later, fields, rfl, rfl, htakes, hmerge⟩ := attach_cases hattach
  apply forall_mem_replace hcoherent
  intro hfields
  rw [htakes.withFields_fields]
  exact Field.Coherent.merge hfields hadded hmerge

structure BuildState.Coherent (state : BuildState) : Prop where
  nodup : state.registry.symbols.names.Nodup
  shared : SymbolTable.Coherent state.registry.symbols state.registry.symbols
  own : SymbolTable.Coherent state.registry.symbols state.symbols

theorem Registry.Change.keeps_names {registry after : Registry}
    (hchange : registry.Change after)
    (hnodup : registry.symbols.names.Nodup) :
    registry.symbols.Grows after.symbols ∧ after.symbols.names.Nodup := by
  have hchanges := Registry.symbols_changes (.single hchange)
  refine ⟨SymbolTable.grows_of_changes hchanges, ?_⟩
  cases hchange with
  | symbols hsymbols => exact SymbolTable.nodup_of_change hnodup hsymbols
  | registered => exact hnodup
  | checked => exact hnodup

/-- The shared symbols change to others that are coherent with those before. -/
theorem BuildState.Coherent.share {state : BuildState} (hcoherent : state.Coherent)
    {registry : Registry} (hchange : state.registry.Change registry)
    (hshared : SymbolTable.Coherent state.registry.symbols registry.symbols) :
    BuildState.Coherent { state with registry } := by
  obtain ⟨hgrows, hnodup⟩ := hchange.keeps_names hcoherent.nodup
  exact ⟨hnodup, hshared.mono hgrows hnodup, hcoherent.own.mono hgrows hnodup⟩

theorem BuildState.Coherent.declare {state : BuildState} (hcoherent : state.Coherent)
    {symbol : Symbol} (hnew : symbol.IsNew) : (state.declare symbol).2.Coherent := by
  unfold BuildState.declare
  split
  · next symbols hsymbols =>
    exact { hcoherent with own := hcoherent.own.intern hnew hsymbols }
  · exact hcoherent

theorem BuildState.Coherent.intern {state : BuildState} (hcoherent : state.Coherent)
    {symbol : Symbol} (hnew : symbol.IsNew) {registry : Registry}
    (hintern : state.registry.intern symbol = .ok registry) :
    BuildState.Coherent { state with registry } := by
  apply hcoherent.share (Registry.change_of_intern hnew hintern)
  unfold Registry.intern at hintern
  split at hintern
  · next symbols hsymbols =>
    obtain rfl := Except.ok.inj hintern
    exact hcoherent.shared.intern hnew hsymbols
  · contradiction

theorem BuildState.Coherent.declareShared {state : BuildState} (hcoherent : state.Coherent)
    {symbol : Symbol} (hnew : symbol.IsNew) : (state.declareShared symbol).2.Coherent := by
  unfold BuildState.declareShared
  split
  · next registry hregistry => exact hcoherent.intern hnew hregistry
  · exact hcoherent

theorem BuildState.Coherent.attach {state : BuildState} (hcoherent : state.Coherent)
    (target : SymbolRef) {added : Field} (hadded : added.Coherent state.registry.symbols) :
    (state.attach target added).2.Coherent := by
  unfold BuildState.attach
  split
  · split
    · next symbols stored hsymbols =>
      exact { hcoherent with own := hcoherent.own.attach hadded hsymbols }
    · exact hcoherent
  · split
    · next registry stored hregistry =>
      apply hcoherent.share (Registry.change_of_attach hregistry)
      unfold Registry.attach at hregistry
      split at hregistry
      · next symbols kept hsymbols =>
        obtain ⟨rfl, -⟩ := Prod.mk.inj (Except.ok.inj hregistry)
        exact hcoherent.shared.attach hadded hsymbols
      · contradiction
    · exact hcoherent

theorem Registry.get?_of_internLiteral {registry after : Registry} {value : String}
    (hintern : registry.internLiteral value = .ok after) :
    after.symbols.get? (literalName value) =
      some (.literal ⟨literalName value, value⟩) := by
  rcases internLiteral_cases hintern with ⟨rfl, hget⟩ | ⟨hnew, rfl⟩
  · exact hget
  · have hnone : List.find? (·.name == literalName value) registry.symbols = none :=
      (SymbolTable.get?_eq_none_iff registry.symbols _).2 hnew
    rw [SymbolTable.get?, List.find?_append, hnone, Option.none_or]
    exact List.find?_cons_of_pos (beq_self_eq_true (literalName value))

theorem BuildState.Coherent.attachLiteral {state : BuildState} (hcoherent : state.Coherent)
    (target : SymbolRef) (parameter : Parameter) :
    (state.attachLiteral target parameter).2.Coherent := by
  unfold BuildState.attachLiteral
  split
  · exact hcoherent
  · next value hvalue =>
    split
    · exact hcoherent
    · next registry hregistry =>
      obtain ⟨hempty, hquote⟩ := quoteless_of_literalValue? hvalue
      have hintern := ((Registry.internLiteral_eq_ok_iff _ _ _).1 hregistry).2
      apply (hcoherent.intern (Symbol.isNew_literal _) hintern).attach target
      intro constant hconstant
      obtain rfl := Option.some.inj hconstant
      exact ⟨hempty, hquote, rfl, rfl, Registry.get?_of_internLiteral hregistry⟩

theorem literal_withOptions (field : Field) (options : List FieldOption) :
    (field.withOptions options).literal = field.literal := by
  unfold Field.withOptions
  induction options generalizing field with
  | nil => rfl
  | cons option options ih =>
      rw [List.foldl_cons, ih]
      unfold Field.withOption
      split
      · rfl
      · rfl
      · rfl
      · rfl
      · split <;> rfl

theorem BuildState.Coherent.run {state : BuildState} (hcoherent : state.Coherent)
    (document : String) (step : BuildStep) : (step.run document state).2.Coherent := by
  cases step with
  | addRecord | addGenericRecord =>
      exact hcoherent.declare (Symbol.isNew_emptyRecord _ _ _)
  | addClosedUnion => exact hcoherent.declare (Symbol.isNew_emptyClosedUnion _ _ _)
  | addSharedRecord => exact hcoherent.declareShared (Symbol.isNew_emptyRecord _ _ _)
  | addSharedClosedUnion =>
      exact hcoherent.declareShared (Symbol.isNew_emptyClosedUnion _ _ _)
  | addOpenUnion => exact hcoherent.declareShared (Symbol.isNew_openUnion _)
  | registerMember => exact ⟨hcoherent.nodup, hcoherent.shared, hcoherent.own⟩
  | addField target parameter type options =>
      rw [BuildStep.run]
      apply hcoherent.attach target
      exact Field.coherent_of_literal_eq_none (literal_withOptions _ options)
  | addLiteralField target parameter =>
      rw [BuildStep.run]
      exact hcoherent.attachLiteral target parameter
  | addUnmarshalCheck => exact ⟨hcoherent.nodup, hcoherent.shared, hcoherent.own⟩

/-! ## Builders keep workshops coherent -/

namespace Workshop

def built (steps : List (Builder × BuildStep)) : Workshop :=
  after (steps.map fun (builder, step) => .build builder step)

def Coherent (workshop : Workshop) : Prop :=
  ∀ builder,
    BuildState.Coherent
      { registry := workshop.registry, symbols := workshop.tables builder }

theorem Coherent.build {workshop : Workshop} (hcoherent : workshop.Coherent)
    (builder : Builder)
    (step : BuildStep) : (workshop.take (.build builder step)).Coherent := by
  intro other
  have hafter := (hcoherent builder).run builder.document step
  have hgrows := (workshop.develops_take (.build builder step)).grows.shared
  by_cases hsame : other = builder
  · subst hsame
    simpa only [take, Function.update_self] using hafter
  · refine ⟨hafter.nodup, hafter.shared, ?_⟩
    simp only [take, Function.update_of_ne hsame]
    exact (hcoherent other).own.mono hgrows hafter.nodup

theorem coherent_built (steps : List (Builder × BuildStep)) : (built steps).Coherent := by
  have hrun : ∀ (steps : List (Builder × BuildStep)) {workshop : Workshop},
      workshop.Coherent →
      (workshop.run (steps.map fun (builder, step) => .build builder step)).Coherent := by
    intro steps
    induction steps with
    | nil => exact fun hcoherent => hcoherent
    | cons entry steps ih => exact fun hcoherent => ih (hcoherent.build entry.1 entry.2)
  apply hrun steps
  intro builder
  constructor
  · exact List.nodup_nil
  · simp [SymbolTable.Coherent]
  · simp [SymbolTable.Coherent]

def HasField (workshop : Workshop) (field : Field) : Prop :=
  ∃ table, workshop.HasTable table ∧ ∃ symbol ∈ table, field ∈ symbol.fields

theorem Coherent.holds {workshop : Workshop} (hcoherent : workshop.Coherent)
    {field : Field}
    (hfield : workshop.HasField field) {value : String}
    (hvalue : field.literal = some value) :
    field.Holds workshop.registry.symbols value := by
  obtain ⟨table, htable, symbol, hsymbol, hmem⟩ := hfield
  rcases htable with rfl | ⟨builder, rfl⟩
  · exact (hcoherent ⟨"", 0⟩).shared symbol hsymbol field hmem value hvalue
  · exact (hcoherent builder).own symbol hsymbol field hmem value hvalue

end Workshop

theorem Membership.member_of_validate {shared : SymbolTable}
    {documents : List DocumentSymbols}
    {name : String} (hname : name ∈ shared.names) {m : Membership}
    (hm : m.validate shared documents = .error (.unknownSymbol name)) :
    m.member = name ∧ m.document ≠ none := by
  rw [Membership.validate] at hm
  cases hunion : shared.get? m.union with
  | none =>
      rw [hunion] at hm
      obtain rfl := SchemaError.unknownSymbol.inj (Except.error.inj hm)
      exact absurd hname ((SymbolTable.get?_eq_none_iff _ _).1 hunion)
  | some symbol =>
      rw [hunion] at hm
      cases symbol with
      | openUnion union =>
          simp only [bind, Except.bind] at hm
          split at hm
          · next hmember =>
            obtain rfl := SchemaError.unknownSymbol.inj (Except.error.inj hm)
            refine ⟨rfl, ?_⟩
            intro hdocument
            rw [hdocument] at hmember
            exact absurd hname ((SymbolTable.get?_eq_none_iff _ _).1 hmember)
          · split at hm <;> simp at hm
      | record | closedUnion | literal | unmarshalCheck => simp [bind, Except.bind] at hm

section Finishing

variable {registry : Registry} {name : String} (hname : name ∈ registry.symbols.names)
  (documents : List DocumentSymbols)

/-- The names that are known when a schema is finished. -/
def Registry.knownNames (registry : Registry) (documents : List DocumentSymbols) :
    List String :=
  (sortByText Symbol.name registry.symbols ++
    (sortByText DocumentSymbols.document documents).flatMap (·.symbols)).map Symbol.name

include hname

theorem mem_names_sortByText :
    name ∈ SymbolTable.names (sortByText Symbol.name registry.symbols) :=
  ((sortByText_perm Symbol.name registry.symbols).map Symbol.name).mem_iff.2 hname

theorem Registry.mem_knownNames : name ∈ registry.knownNames documents := by
  rw [knownNames, List.map_append, List.mem_append]
  exact .inl (mem_names_sortByText hname)

/-- A membership is the only thing that a declared name can be missing for. -/
theorem membership_of_unknown {ordered : List DocumentSymbols} {site : Site}
    (hsite : site.validate (sortByText Symbol.name registry.symbols) ordered
      (registry.knownNames documents) = .error (.unknownSymbol name)) :
    ∃ m, site = .membership m ∧ m.member = name ∧ m.document ≠ none := by
  have hknown := Registry.mem_knownNames hname documents
  have hshared := mem_names_sortByText hname
  cases site with
  | variant union field =>
      rw [Site.validate] at hsite
      split at hsite <;> simp at hsite
  | reference other =>
      rw [Site.validate] at hsite
      split at hsite
      · contradiction
      · next hmissing =>
        obtain rfl := SchemaError.unknownSymbol.inj (Except.error.inj hsite)
        exact absurd (List.contains_iff_mem.2 hknown) hmissing
  | membership m => exact ⟨m, rfl, Membership.member_of_validate hshared hsite⟩
  | check check =>
      rw [Site.validate, UnmarshalCheck.validate] at hsite
      split at hsite
      · contradiction
      · next hmissing =>
        obtain rfl := SchemaError.unknownSymbol.inj (Except.error.inj hsite)
        exact absurd (List.contains_iff_mem.2 hknown) hmissing

theorem Registry.membership_of_finalize
    (hfinalize : registry.finalize documents = .error (.unknownSymbol name)) :
    ∃ m ∈ registry.memberships, m.member = name ∧ m.document ≠ none := by
  rw [registry.finalize_eq documents, map_eq_error_iff, firstFault_eq_error_iff]
    at hfinalize
  obtain ⟨before, site, after, hsites, -, hsite⟩ := hfinalize
  obtain ⟨m, rfl, hmember, hdocument⟩ := membership_of_unknown hname documents hsite
  refine ⟨m, ?_, hmember, hdocument⟩
  have hmem : Site.membership m ∈ before ++ Site.membership m :: after := by simp
  rw [← hsites, List.mem_append, List.mem_append] at hmem
  rcases hmem with (hsymbol | hmembership) | hcheck
  · obtain ⟨symbol, -, hsite⟩ := List.mem_flatMap.1 hsymbol
    rcases List.mem_append.1 hsite with hvariant | hreference
    · cases symbol <;> simp at hvariant
    · simp at hreference
  · obtain ⟨other, hother, hsame⟩ := List.mem_map.1 hmembership
    obtain rfl := Site.membership.inj hsame
    rwa [mem_ascending membershipOrder] at hother
  · simp at hcheck

end Finishing

/-- However builders have taken turns, a field with a constant refers to the shared symbol
that has this constant as its value, two such fields of one type hold one constant, and
every constant is named after its value.  When the schema is finished the type of the field
is always found: if its name is found missing at all, then for a member of a document that
does not have it. -/
theorem constants_coherent (steps : List (Builder × BuildStep)) :
    (∀ field, (Workshop.built steps).HasField field → ∀ value, field.literal = some value →
      field.Holds (Workshop.built steps).registry.symbols value ∧
      (∀ other, (Workshop.built steps).HasField other → other.type = field.type →
        ∀ constant, other.literal = some constant → constant = value) ∧
      ∀ documents,
        field.validate ((Workshop.built steps).registry.knownNames documents) = .ok () ∧
        ((Workshop.built steps).registry.finalize documents =
            .error (.unknownSymbol (literalName value)) →
          ∃ m ∈ (Workshop.built steps).registry.memberships,
            m.member = literalName value ∧ m.document ≠ none)) ∧
    ∀ constant : Literal, .literal constant ∈ (Workshop.built steps).registry.symbols →
      constant.name = literalName constant.value := by
  have hcoherent := Workshop.coherent_built steps
  constructor
  · intro field hfield value hvalue
    have hholds := hcoherent.holds hfield hvalue
    refine ⟨hholds, ?_, fun documents => ?_⟩
    · intro other hother htype constant hconstant
      have hsame := hcoherent.holds hother hconstant
      have hname : literalName constant = literalName value := by
        rw [hsame.type_eq, hholds.type_eq] at htype
        exact TypeRef.named.inj htype
      have hdeclared := hsame.declared
      rw [hname, hholds.declared] at hdeclared
      exact (congrArg Literal.value (Symbol.literal.inj (Option.some.inj hdeclared))).symm
    · have hname : literalName value ∈ (Workshop.built steps).registry.symbols.names := by
        obtain ⟨hmem, hsame⟩ := SymbolTable.mem_of_get? hholds.declared
        exact hsame ▸ List.mem_map_of_mem hmem
      refine ⟨?_, Registry.membership_of_finalize hname documents⟩
      have hknown := Registry.mem_knownNames hname documents
      simp [Field.validate, hholds.type_eq, TypeRef.referencedNames, hknown]
  · intro constant hconstant
    exact Workshop.constantsNamed_after _ _ hconstant constant rfl

/-- A record with one constant field. -/
example :
    let workshop := Workshop.built
      [(⟨"page", 0⟩, .addRecord "Page" ""),
       (⟨"page", 0⟩, .addLiteralField ⟨"Page", .document⟩ ⟨"object", "", "", "\"page\""⟩)]
    workshop.registry.symbols = [.literal ⟨"AlwaysPage", "page"⟩] ∧
      workshop.tables ⟨"page", 0⟩ = [.record ⟨"Page", "", none,
        [{ name := "object", type := .named "AlwaysPage", literal := some "page" }]⟩] := by
  decide +kernel

end DocContract
