import DocContract.Proofs.Sessions
import Mathlib.Data.List.Perm.Basic

/-!
# When a schema holds together

A schema is consistent when every variant of a closed union is told by some value, every
name that a type refers to exists, every member of an open union exists and presents a
value under its key, and every check has a target.  `Registry.finalize` accepts just the
consistent schemas.  Of one that is not it reports the first flaw, where the places that
can be flawed are visited in an order that does not depend on the order in which the schema
was built.
-/

namespace DocContract

/-- A symbol stands in the shared table or in the table of a document. -/
def Registry.Knows (registry : Registry) (documents : List DocumentSymbols)
    (symbol : Symbol) :
    Prop :=
  symbol ∈ registry.symbols ∨ ∃ document ∈ documents, symbol ∈ document.symbols

/-- A symbol stands in the table in which a membership finds its member. -/
def Registry.Offers (registry : Registry) (documents : List DocumentSymbols)
    (membership : Membership) (symbol : Symbol) : Prop :=
  match membership.document with
  | none => symbol ∈ registry.symbols
  | some name =>
      ∃ document ∈ documents, document.document = name ∧ symbol ∈ document.symbols

/-- A schema holds together. -/
structure Registry.Consistent (registry : Registry) (documents : List DocumentSymbols) :
    Prop where
  told : ∀ union, registry.Knows documents (.closedUnion union) →
    ∀ field ∈ union.fields, field.typeSpecific = true → field.discriminatorValues ≠ []
  resolved : ∀ symbol, registry.Knows documents symbol →
    ∀ field ∈ symbol.fields, ∀ name ∈ field.type.referencedNames,
      ∃ target, registry.Knows documents target ∧ target.name = name
  discerned : ∀ membership ∈ registry.memberships,
    ∃ union, .openUnion union ∈ registry.symbols ∧ union.name = membership.union ∧
      ∃ member, registry.Offers documents membership member ∧
        member.name = membership.member ∧
        member.discriminatorValues union.discriminatorKey ≠ []
  targeted : ∀ check ∈ registry.checks,
    ∃ target, registry.Knows documents target ∧ target.name = check.target

/-- A place of a schema that can be flawed. -/
inductive Site where
  /-- A field of a closed union. -/
  | variant (union : ClosedUnion) (field : Field)
  /-- A name in the type of a field. -/
  | reference (name : String)
  | membership (membership : Membership)
  | check (check : UnmarshalCheck)

/-- What is wrong at a place. -/
inductive Registry.Flawed (registry : Registry) (documents : List DocumentSymbols) :
    Site → SchemaError → Prop where
  | untold {union : ClosedUnion} {field : Field}
      (hspecific : field.typeSpecific = true) (hvalues : field.discriminatorValues = []) :
      Flawed registry documents (.variant union field)
        (.unresolvedDiscriminator union.name field.name)
  | dangling {name : String}
      (hnone : ∀ symbol, registry.Knows documents symbol → symbol.name ≠ name) :
      Flawed registry documents (.reference name) (.unknownSymbol name)
  | noUnion {m : Membership}
      (hnone : ∀ symbol ∈ registry.symbols, symbol.name ≠ m.union) :
      Flawed registry documents (.membership m) (.unknownSymbol m.union)
  | otherKind {m : Membership} {symbol : Symbol}
      (hsymbol : symbol ∈ registry.symbols) (hname : symbol.name = m.union)
      (hkind : symbol.kind ≠ .openUnion) :
      Flawed registry documents (.membership m)
        (.kindConflict m.union symbol.kind .openUnion)
  | noMember {m : Membership} {union : OpenUnion}
      (hunion : .openUnion union ∈ registry.symbols) (hname : union.name = m.union)
      (hnone : ∀ symbol, registry.Offers documents m symbol → symbol.name ≠ m.member) :
      Flawed registry documents (.membership m) (.unknownSymbol m.member)
  | noValue {m : Membership} {union : OpenUnion} {member : Symbol}
      (hunion : .openUnion union ∈ registry.symbols) (hname : union.name = m.union)
      (hoffers : registry.Offers documents m member) (hmember : member.name = m.member)
      (hvalues : member.discriminatorValues union.discriminatorKey = []) :
      Flawed registry documents (.membership m) (.unresolvedDiscriminator m.union m.member)
  | untargeted {check : UnmarshalCheck}
      (hnone : ∀ symbol, registry.Knows documents symbol → symbol.name ≠ check.target) :
      Flawed registry documents (.check check) (.unknownSymbol check.target)

/-- The places of a symbol: those of a closed union itself, and then those of its
fields. -/
def Symbol.sites (symbol : Symbol) : List Site :=
  (match symbol with
    | .closedUnion union => union.fields.map (Site.variant union)
    | _ => []) ++
    symbol.fields.flatMap fun field => field.type.referencedNames.map Site.reference

/-- The order in which a schema is visited: the shared symbols and then the documents by
name, then the memberships and the checks by what they are ordered by. -/
def Registry.VisitedAs (registry : Registry) (documents : List DocumentSymbols)
    (sites : List Site) : Prop :=
  ∃ (shared : SymbolTable) (ordered : List DocumentSymbols)
    (memberships : List Membership),
    shared.Perm registry.symbols ∧
      shared.Pairwise (fun a b => a.name < b.name) ∧
      ordered.Perm documents ∧
      ordered.Pairwise (fun a b => a.document < b.document) ∧
      (∀ m, m ∈ memberships ↔ m ∈ registry.memberships) ∧
      memberships.Pairwise (fun a b => keyBefore a.key b.key = true) ∧
      registry.checks.Pairwise (fun a b => keyBefore a.key b.key = true) ∧
      sites =
        (shared ++ ordered.flatMap (·.symbols)).flatMap Symbol.sites ++
          memberships.map Site.membership ++ registry.checks.map Site.check

theorem firstFault_append
    {α : Type} (test : α → Except SchemaError Unit) (as bs : List α) :
    firstFault test (as ++ bs) = (firstFault test as >>= fun _ => firstFault test bs) := by
  induction as with
  | nil => rfl
  | cons a as ih =>
      rw [List.cons_append, firstFault, firstFault]
      cases test a with
      | ok => exact ih
      | error fault => rfl

theorem firstFault_map
    {α β : Type} (test : β → Except SchemaError Unit) (f : α → β) (as : List α) :
    firstFault test (as.map f) = firstFault (fun a => test (f a)) as := by
  induction as with
  | nil => rfl
  | cons a as ih => simp only [List.map_cons, firstFault, ih]

theorem firstFault_flatMap
    {α β : Type} (test : β → Except SchemaError Unit) (f : α → List β) (as : List α) :
    firstFault test (as.flatMap f) = firstFault (fun a => firstFault test (f a)) as := by
  induction as with
  | nil => rfl
  | cons a as ih =>
      rw [List.flatMap_cons, firstFault_append, ih, firstFault]
      cases firstFault test (f a) <;> rfl

theorem firstFault_eq_ok_iff
    {α : Type} (test : α → Except SchemaError Unit) (as : List α) :
    firstFault test as = .ok () ↔ ∀ a ∈ as, test a = .ok () := by
  induction as with
  | nil => simp [firstFault]
  | cons a as ih =>
      simp only [firstFault, List.forall_mem_cons]
      cases htest : test a with
      | ok => simpa using ih
      | error fault => simp

theorem firstFault_eq_error_iff
    {α : Type} (test : α → Except SchemaError Unit) (as : List α) (fault : SchemaError) :
    firstFault test as = .error fault ↔
      ∃ before a after, as = before ++ a :: after ∧
        (∀ b ∈ before, test b = .ok ()) ∧ test a = .error fault := by
  induction as with
  | nil => simp [firstFault]
  | cons first as ih =>
      simp only [firstFault]
      cases htest : test first with
      | ok =>
          rw [ih]
          constructor
          · rintro ⟨before, a, after, rfl, hbefore, ha⟩
            refine ⟨first :: before, a, after, rfl, ?_, ha⟩
            exact List.forall_mem_cons.2 ⟨htest, hbefore⟩
          · rintro ⟨before, a, after, hsplit, hbefore, ha⟩
            cases before with
            | nil =>
                obtain ⟨rfl, rfl⟩ := List.cons.inj hsplit
                rw [htest] at ha
                contradiction
            | cons b before =>
                obtain ⟨rfl, rfl⟩ := List.cons.inj hsplit
                exact ⟨before, a, after, rfl, (List.forall_mem_cons.1 hbefore).2, ha⟩
      | error found =>
          constructor
          · intro hfound
            exact ⟨[], first, as, rfl, by simp, htest.trans hfound⟩
          · rintro ⟨before, a, after, hsplit, hbefore, ha⟩
            cases before with
            | nil =>
                obtain ⟨rfl, rfl⟩ := List.cons.inj hsplit
                exact htest.symm.trans ha
            | cons b before =>
                obtain ⟨rfl, rfl⟩ := List.cons.inj hsplit
                rw [(List.forall_mem_cons.1 hbefore).1] at htest
                contradiction

/-- The test of one place, against the tables in order. -/
def Site.validate (shared : SymbolTable) (documents : List DocumentSymbols)
    (known : List String) : Site → Except SchemaError Unit
  | variant union field =>
    if field.typeSpecific && field.discriminatorValues.isEmpty then
      .error (.unresolvedDiscriminator union.name field.name)
    else .ok ()
  | reference name => if known.contains name then .ok () else .error (.unknownSymbol name)
  | membership m => m.validate shared documents
  | check c => c.validate known

section Visiting

variable {shared : SymbolTable} {documents : List DocumentSymbols} {known : List String}

theorem ClosedUnion.validate_eq_firstFault (union : ClosedUnion) :
    union.validate =
      firstFault (Site.validate shared documents known)
        (union.fields.map (Site.variant union)) := by
  rw [firstFault_map]
  unfold ClosedUnion.validate
  induction union.fields with
  | nil => rfl
  | cons field fields ih =>
      rw [List.find?_cons]
      simp only [firstFault, Site.validate]
      cases htold : field.typeSpecific && field.discriminatorValues.isEmpty with
      | true => rfl
      | false => exact ih

theorem Field.validate_eq_firstFault (field : Field) :
    field.validate known =
      firstFault (Site.validate shared documents known)
        (field.type.referencedNames.map Site.reference) := by
  rw [firstFault_map]
  unfold Field.validate
  induction field.type.referencedNames with
  | nil => rfl
  | cons name names ih =>
      rw [List.find?_cons]
      simp only [firstFault, Site.validate]
      cases hknown : known.contains name with
      | true => exact ih
      | false => rfl

theorem Symbol.validate_eq_firstFault (symbol : Symbol) :
    symbol.validate known =
      firstFault (Site.validate shared documents known) symbol.sites := by
  have hfields :
      firstFault (Field.validate known) symbol.fields =
        firstFault (Site.validate shared documents known)
          (symbol.fields.flatMap fun field =>
            field.type.referencedNames.map Site.reference) := by
    rw [firstFault_flatMap]
    congr 1
    funext field
    exact field.validate_eq_firstFault
  unfold Symbol.validate Symbol.sites
  rw [firstFault_append, hfields]
  cases symbol with
  | closedUnion union =>
      have hunion : union.validate = firstFault (Site.validate shared documents known)
          (union.fields.map (Site.variant union)) := union.validate_eq_firstFault
      dsimp only
      rw [hunion]
  | record r => rfl
  | openUnion u => rfl
  | literal l => rfl
  | unmarshalCheck c => rfl

end Visiting

/-- A finished schema is what was put in order, if no place that is visited is refused. -/
theorem Registry.finalize_eq (registry : Registry) (documents : List DocumentSymbols) :
    let shared := sortByText Symbol.name registry.symbols
    let ordered := sortByText (·.document) documents
    let memberships := ascending (fun a b => keyBefore a.key b.key) registry.memberships
    let all := shared ++ ordered.flatMap (·.symbols)
    registry.finalize documents =
      (firstFault (Site.validate shared ordered (all.map Symbol.name))
        (all.flatMap Symbol.sites ++ memberships.map Site.membership ++
          registry.checks.map Site.check)).map
        fun _ =>
          { documents := ordered
            shared := shared ++ registry.checks.map .unmarshalCheck
            memberships } := by
  intro shared ordered memberships all
  have hsymbols :
      firstFault (Symbol.validate (all.map Symbol.name)) all =
        firstFault (Site.validate shared ordered (all.map Symbol.name))
          (all.flatMap Symbol.sites) := by
    rw [firstFault_flatMap]
    congr 1
    funext symbol
    exact symbol.validate_eq_firstFault
  have hmemberships :
      firstFault (Membership.validate shared ordered) memberships =
        firstFault (Site.validate shared ordered (all.map Symbol.name))
          (memberships.map Site.membership) := by
    rw [firstFault_map]
    rfl
  have hchecks :
      firstFault (UnmarshalCheck.validate (all.map Symbol.name)) registry.checks =
        firstFault (Site.validate shared ordered (all.map Symbol.name))
          (registry.checks.map Site.check) := by
    rw [firstFault_map]
    rfl
  rw [firstFault_append, firstFault_append, ← hsymbols, ← hmemberships, ← hchecks]
  change
    (firstFault (Symbol.validate (all.map Symbol.name)) all >>= fun _ =>
      firstFault (Membership.validate shared ordered) memberships >>= fun _ =>
        firstFault (UnmarshalCheck.validate (all.map Symbol.name))
          registry.checks >>= fun _ =>
          Except.ok _) = _
  cases firstFault (Symbol.validate (all.map Symbol.name)) all with
  | error fault => rfl
  | ok =>
      cases firstFault (Membership.validate shared ordered) memberships with
      | error fault => rfl
      | ok =>
          cases firstFault (UnmarshalCheck.validate (all.map Symbol.name))
            registry.checks <;>
            rfl

theorem Registry.eq_of_finalize_eq_ok
    {registry : Registry} {documents : List DocumentSymbols} {graph : SymbolGraph}
    (hfinalize : registry.finalize documents = .ok graph) :
    graph =
      { documents := sortByText (·.document) documents
        shared :=
          sortByText Symbol.name registry.symbols ++ registry.checks.map .unmarshalCheck
        memberships :=
          ascending (fun a b => keyBefore a.key b.key) registry.memberships } := by
  rw [registry.finalize_eq documents] at hfinalize
  revert hfinalize
  cases firstFault (Site.validate _ _ _) _ with
  | ok => exact fun hfinalize => (Except.ok.inj hfinalize).symm
  | error fault => exact fun hfinalize => nomatch hfinalize

/-! ## Putting in order -/

/-- What is sorted by a test for the order of keys ascends by its keys. -/
theorem pairwise_mergeSort_of_key {α κ : Type} [LinearOrder κ] (key : α → κ)
    {le : α → α → Bool}
    (hle : ∀ a b, le a b = true ↔ key a ≤ key b) (as : List α) :
    (as.mergeSort le).Pairwise fun a b => key a ≤ key b := by
  have hsorted : (as.mergeSort le).Pairwise fun a b => le a b = true := by
    refine List.pairwise_mergeSort ?_ ?_ as
    · intro a b c hab hbc
      rw [hle] at hab hbc ⊢
      exact le_trans hab hbc
    · intro a b
      rw [Bool.or_eq_true, hle, hle]
      exact le_total _ _
  exact hsorted.imp fun {a b} => (hle a b).1

section Sorting

variable {α : Type} (key : α → String)

theorem sortByText_perm (as : List α) : (sortByText key as).Perm as :=
  List.mergeSort_perm _ _

theorem sortByText_sorted (as : List α) :
    (sortByText key as).Pairwise fun a b => key a ≤ key b := by
  refine pairwise_mergeSort_of_key key (fun a b => ?_) as
  simp only [textBefore, Bool.not_eq_true', decide_eq_false_iff_not, not_lt]

theorem sortByText_pairwise {as : List α} (hnodup : (as.map key).Nodup) :
    (sortByText key as).Pairwise fun a b => key a < key b := by
  have hdistinct : (sortByText key as).Pairwise fun a b => key a ≠ key b := by
    rw [← List.pairwise_map]
    exact ((sortByText_perm key as).map key).nodup_iff.2 hnodup
  exact (sortByText_sorted key as).imp₂
    (fun a b hle hne => lt_of_le_of_ne hle hne) hdistinct

end Sorting

/-- The tables in order hold what the registry and the documents hold. -/
structure InOrder (registry : Registry) (documents : List DocumentSymbols)
    (shared : SymbolTable) (ordered : List DocumentSymbols) : Prop where
  shared_perm : shared.Perm registry.symbols
  ordered_perm : ordered.Perm documents
  shared_nodup : shared.names.Nodup
  ordered_nodup : (ordered.map (·.document)).Nodup
  tables_nodup : ∀ document ∈ ordered, document.symbols.names.Nodup

section Verdict

variable {registry : Registry} {documents ordered : List DocumentSymbols}
    {shared : SymbolTable}

theorem InOrder.knows_iff (horder : InOrder registry documents shared ordered)
    (symbol : Symbol) :
    registry.Knows documents symbol ↔ symbol ∈ shared ++ ordered.flatMap (·.symbols) := by
  rw [List.mem_append, List.mem_flatMap, horder.shared_perm.mem_iff]
  simp only [Registry.Knows, horder.ordered_perm.mem_iff]

theorem InOrder.contains_iff (horder : InOrder registry documents shared ordered)
    (name : String) :
    ((shared ++ ordered.flatMap (·.symbols)).map Symbol.name).contains name = true ↔
      ∃ symbol, registry.Knows documents symbol ∧ symbol.name = name := by
  simp only [List.contains_iff_mem, List.mem_map, horder.knows_iff]

/-- The table in which a membership is looked up. -/
theorem InOrder.offered_iff (horder : InOrder registry documents shared ordered)
    (m : Membership) (name : String) (symbol : Symbol) :
    (SymbolTable.get?
      (match m.document with
        | some document =>
          ((ordered.find? (·.document == document)).map (·.symbols)).getD []
        | none => shared) name) = some symbol ↔
      registry.Offers documents m symbol ∧ symbol.name = name := by
  unfold Registry.Offers
  cases m.document with
  | none =>
      rw [SymbolTable.get?_eq_some_iff horder.shared_nodup, horder.shared_perm.mem_iff]
  | some document =>
      dsimp only
      cases hfind : ordered.find? (·.document == document) with
      | none =>
          rw [List.find?_eq_none] at hfind
          simp only [Option.map_none, Option.getD_none, SymbolTable.get?_nil, reduceCtorEq,
            false_iff, not_and]
          rintro ⟨found, hfound, hname, -⟩
          have hmem := horder.ordered_perm.mem_iff.2 hfound
          exact (hfind found hmem (by simpa using hname)).elim
      | some found =>
          have hfound : found ∈ ordered := List.mem_of_find?_eq_some hfind
          have hdocument : found.document = document := by
            simpa using List.find?_some hfind
          rw [Option.map_some, Option.getD_some,
            SymbolTable.get?_eq_some_iff (horder.tables_nodup found hfound)]
          refine and_congr_left fun _ => ⟨fun hmem => ?_, ?_⟩
          · exact ⟨found, horder.ordered_perm.mem_iff.1 hfound, hdocument, hmem⟩
          · rintro ⟨other, hother, hname, hmem⟩
            have hsame : other = found :=
              List.inj_on_of_nodup_map horder.ordered_nodup
                (horder.ordered_perm.mem_iff.2 hother) hfound (hname.trans hdocument.symm)
            exact hsame ▸ hmem

theorem InOrder.shared_get?_iff (horder : InOrder registry documents shared ordered)
    (name : String) (symbol : Symbol) :
    shared.get? name = some symbol ↔ symbol ∈ registry.symbols ∧ symbol.name = name := by
  rw [SymbolTable.get?_eq_some_iff horder.shared_nodup, horder.shared_perm.mem_iff]

theorem InOrder.eq_of_get? (horder : InOrder registry documents shared ordered)
    {name : String} {symbol : Symbol} (hget : shared.get? name = some symbol)
    {other : Symbol} (hother : other ∈ registry.symbols) (hname : other.name = name) :
    other = symbol := by
  have hsame := (horder.shared_get?_iff name other).2 ⟨hother, hname⟩
  rw [hget] at hsame
  exact (Option.some.inj hsame).symm

/-- A membership whose union is open is refused for its member only. -/
theorem InOrder.openMembership_error_iff
    (horder : InOrder registry documents shared ordered)
    {m : Membership} {union : OpenUnion}
    (hget : shared.get? m.union = some (.openUnion union))
    (fault : SchemaError) :
    m.validate shared ordered = .error fault ↔
      registry.Flawed documents (.membership m) fault := by
  have hunion := (horder.shared_get?_iff _ _).1 hget
  have hoffered := horder.offered_iff m m.member
  simp only [Membership.validate, hget]
  revert hoffered
  generalize SymbolTable.get? _ m.member = found
  intro hoffered
  cases found with
  | none =>
      have hnone : ∀ symbol, registry.Offers documents m symbol →
          symbol.name ≠ m.member := by
        intro symbol hoffers hname
        have hfound := (hoffered symbol).2 ⟨hoffers, hname⟩
        contradiction
      constructor
      · intro hfault
        cases hfault
        exact .noMember hunion.1 hunion.2 hnone
      · intro hflawed
        cases hflawed with
        | noUnion habsent => exact (habsent _ hunion.1 hunion.2).elim
        | otherKind hsymbol hname hkind =>
            exact (hkind (horder.eq_of_get? hget hsymbol hname ▸ rfl)).elim
        | noMember => rfl
        | noValue _ _ hoffers hmember => exact (hnone _ hoffers hmember).elim
  | some member =>
      have hmember := (hoffered member).1 rfl
      have hsole : ∀ symbol, registry.Offers documents m symbol → symbol.name = m.member →
          symbol = member := by
        intro symbol hoffers hname
        exact (Option.some.inj ((hoffered symbol).2 ⟨hoffers, hname⟩)).symm
      constructor
      · intro hfault
        change (if _ then _ else _) = _ at hfault
        split at hfault
        · next hempty =>
          cases hfault
          exact .noValue hunion.1 hunion.2 hmember.1 hmember.2 (List.isEmpty_iff.1 hempty)
        · contradiction
      · intro hflawed
        cases hflawed with
        | noUnion habsent => exact (habsent _ hunion.1 hunion.2).elim
        | otherKind hsymbol hname hkind =>
            exact (hkind (horder.eq_of_get? hget hsymbol hname ▸ rfl)).elim
        | noMember _ _ hnone => exact (hnone member hmember.1 hmember.2).elim
        | @noValue _ other _ hother hname hoffers hname' hvalues =>
            have hkey : other = union :=
              Symbol.openUnion.inj (horder.eq_of_get? hget hother hname)
            rw [hsole _ hoffers hname', hkey] at hvalues
            change (if _ then _ else _) = _
            rw [if_pos (List.isEmpty_iff.2 hvalues)]

theorem InOrder.membership_error_iff (horder : InOrder registry documents shared ordered)
    (m : Membership) (fault : SchemaError) :
    m.validate shared ordered = .error fault ↔
      registry.Flawed documents (.membership m) fault := by
  cases hget : shared.get? m.union with
  | none =>
      have hnone : ∀ symbol ∈ registry.symbols, symbol.name ≠ m.union := by
        intro symbol hsymbol hname
        have hsome := (horder.shared_get?_iff _ _).2 ⟨hsymbol, hname⟩
        rw [hget] at hsome
        contradiction
      simp only [Membership.validate, hget]
      constructor
      · intro hfault
        cases hfault
        exact .noUnion hnone
      · intro hflawed
        cases hflawed with
        | noUnion => rfl
        | otherKind hsymbol hname => exact (hnone _ hsymbol hname).elim
        | noMember hunion hname => exact (hnone _ hunion hname).elim
        | noValue hunion hname => exact (hnone _ hunion hname).elim
  | some symbol =>
      by_cases hkind : symbol.kind = .openUnion
      · cases symbol with
        | openUnion union => exact horder.openMembership_error_iff hget fault
        | record | closedUnion | literal | unmarshalCheck => contradiction
      · have hsymbol := (horder.shared_get?_iff _ _).1 hget
        have hvalidate :
            m.validate shared ordered =
              .error (.kindConflict m.union symbol.kind .openUnion) := by
          simp only [Membership.validate, hget]
          cases symbol with
          | openUnion union => exact (hkind rfl).elim
          | record | closedUnion | literal | unmarshalCheck => rfl
        rw [hvalidate]
        constructor
        · intro hfault
          cases hfault
          exact .otherKind hsymbol.1 hsymbol.2 hkind
        · intro hflawed
          cases hflawed with
          | noUnion habsent => exact (habsent _ hsymbol.1 hsymbol.2).elim
          | otherKind hother hname => rw [horder.eq_of_get? hget hother hname]
          | noMember hunion hname =>
              exact (hkind (horder.eq_of_get? hget hunion hname ▸ rfl)).elim
          | noValue hunion hname =>
              exact (hkind (horder.eq_of_get? hget hunion hname ▸ rfl)).elim

/-- A name is refused iff nothing has it. -/
theorem InOrder.not_contains_iff (horder : InOrder registry documents shared ordered)
    (name : String) :
    ¬ ((shared ++ ordered.flatMap (·.symbols)).map Symbol.name).contains name = true ↔
      ∀ symbol, registry.Knows documents symbol → symbol.name ≠ name := by
  rw [horder.contains_iff]
  push Not
  rfl

/-- A place is refused with just what is wrong there. -/
theorem InOrder.site_error_iff (horder : InOrder registry documents shared ordered)
    (site : Site) (fault : SchemaError) :
    site.validate shared ordered
        ((shared ++ ordered.flatMap (·.symbols)).map Symbol.name) = .error fault ↔
      registry.Flawed documents site fault := by
  cases site with
  | variant union field =>
      simp only [Site.validate]
      constructor
      · intro hfault
        split at hfault
        · next huntold =>
          rw [Bool.and_eq_true, List.isEmpty_iff] at huntold
          cases hfault
          exact .untold huntold.1 huntold.2
        · contradiction
      · rintro ⟨hspecific, hvalues⟩
        simp [hspecific, hvalues]
  | reference name =>
      have hknown := horder.not_contains_iff name
      simp only [Site.validate]
      constructor
      · intro hfault
        split at hfault
        · contradiction
        · next hunknown =>
          cases hfault
          exact .dangling (hknown.1 hunknown)
      · intro hflawed
        cases hflawed with
        | dangling hnone => rw [if_neg (hknown.2 hnone)]
  | membership m => exact horder.membership_error_iff m fault
  | check c =>
      have hknown := horder.not_contains_iff c.target
      simp only [Site.validate, UnmarshalCheck.validate]
      constructor
      · intro hfault
        split at hfault
        · contradiction
        · next hunknown =>
          cases hfault
          exact .untargeted (hknown.1 hunknown)
      · intro hflawed
        cases hflawed with
        | untargeted hnone => rw [if_neg (hknown.2 hnone)]

theorem InOrder.site_ok_iff (horder : InOrder registry documents shared ordered)
    (site : Site) :
    site.validate shared ordered
        ((shared ++ ordered.flatMap (·.symbols)).map Symbol.name) = .ok () ↔
      ∀ fault, ¬ registry.Flawed documents site fault := by
  simp only [← horder.site_error_iff site]
  cases site.validate shared ordered _ with
  | ok => simp
  | error fault => simp

end Verdict

/-! ## Acceptance -/

/-- The places that are visited. -/
def Registry.Visits (registry : Registry) (documents : List DocumentSymbols) : Site → Prop
  | .variant union field =>
      registry.Knows documents (.closedUnion union) ∧ field ∈ union.fields
  | .reference name => ∃ symbol, registry.Knows documents symbol ∧
      ∃ field ∈ symbol.fields, name ∈ field.type.referencedNames
  | .membership m => m ∈ registry.memberships
  | .check c => c ∈ registry.checks

theorem Symbol.mem_sites_iff (symbol : Symbol) (site : Site) :
    site ∈ symbol.sites ↔
      match site with
      | .variant union field => symbol = .closedUnion union ∧ field ∈ union.fields
      | .reference name => ∃ field ∈ symbol.fields, name ∈ field.type.referencedNames
      | .membership _ => False
      | .check _ => False := by
  cases symbol with
  | closedUnion union =>
      cases site with
      | variant other field =>
          simp only [sites, List.mem_append, List.mem_map, List.mem_flatMap,
            Site.variant.injEq,
            reduceCtorEq, and_false, exists_false, or_false, closedUnion.injEq]
          constructor
          · rintro ⟨_, hfield, rfl, rfl⟩
            exact ⟨rfl, hfield⟩
          · rintro ⟨rfl, hfield⟩
            exact ⟨field, hfield, rfl, rfl⟩
      | reference | membership | check => simp [sites]
  | record | openUnion | literal | unmarshalCheck => cases site <;> simp [sites]

theorem InOrder.mem_sites_iff
    {registry : Registry} {documents ordered : List DocumentSymbols} {shared : SymbolTable}
    (horder : InOrder registry documents shared ordered)
    {memberships : List Membership}
    (hmemberships : ∀ m, m ∈ memberships ↔ m ∈ registry.memberships)
    (site : Site) :
    site ∈ (shared ++ ordered.flatMap (·.symbols)).flatMap Symbol.sites ++
        memberships.map Site.membership ++ registry.checks.map Site.check ↔
      registry.Visits documents site := by
  rw [List.mem_append, List.mem_append, List.mem_flatMap]
  simp only [← horder.knows_iff, Symbol.mem_sites_iff]
  cases site with
  | variant union field =>
      simp only [Registry.Visits, List.mem_map, reduceCtorEq, and_false,
        exists_false, or_false]
      constructor
      · rintro ⟨symbol, hknows, rfl, hfield⟩
        exact ⟨hknows, hfield⟩
      · rintro ⟨hknows, hfield⟩
        exact ⟨_, hknows, rfl, hfield⟩
  | reference name => simp [Registry.Visits]
  | membership m => simp [Registry.Visits, hmemberships]
  | check c => simp [Registry.Visits]

theorem InOrder.eq_of_name_eq
    {registry : Registry} {documents ordered : List DocumentSymbols} {shared : SymbolTable}
    (horder : InOrder registry documents shared ordered) {a b : Symbol}
    (ha : a ∈ registry.symbols) (hb : b ∈ registry.symbols) (hname : a.name = b.name) :
    a = b :=
  List.inj_on_of_nodup_map horder.shared_nodup (horder.shared_perm.mem_iff.2 ha)
    (horder.shared_perm.mem_iff.2 hb) hname

theorem InOrder.eq_of_offers
    {registry : Registry} {documents ordered : List DocumentSymbols} {shared : SymbolTable}
    (horder : InOrder registry documents shared ordered) {m : Membership} {a b : Symbol}
    (ha : registry.Offers documents m a) (hb : registry.Offers documents m b)
    (hname : a.name = b.name) : a = b := by
  have hfirst := (horder.offered_iff m b.name a).2 ⟨ha, hname⟩
  rw [(horder.offered_iff m b.name b).2 ⟨hb, rfl⟩] at hfirst
  exact (Option.some.inj hfirst).symm

/-- In a consistent schema no place is flawed. -/
theorem InOrder.not_flawed_of_consistent
    {registry : Registry} {documents ordered : List DocumentSymbols} {shared : SymbolTable}
    (horder : InOrder registry documents shared ordered)
    (hconsistent : registry.Consistent documents) {site : Site}
    (hvisits : registry.Visits documents site) (fault : SchemaError) :
    ¬ registry.Flawed documents site fault := by
  intro hflawed
  cases hflawed with
  | untold hspecific hvalues =>
      exact hconsistent.told _ hvisits.1 _ hvisits.2 hspecific hvalues
  | dangling hnone =>
      obtain ⟨symbol, hknows, field, hfield, hname⟩ := hvisits
      obtain ⟨target, htarget, hsame⟩ :=
        hconsistent.resolved symbol hknows field hfield _ hname
      exact hnone target htarget hsame
  | noUnion hnone =>
      obtain ⟨union, hunion, hname, -⟩ := hconsistent.discerned _ hvisits
      exact hnone _ hunion hname
  | otherKind hsymbol hname hkind =>
      obtain ⟨union, hunion, hname', -⟩ := hconsistent.discerned _ hvisits
      have hsame := horder.eq_of_name_eq hsymbol hunion (hname.trans hname'.symm)
      exact hkind (hsame ▸ rfl)
  | noMember _ _ hnone =>
      obtain ⟨-, -, -, member, hoffers, hmember, -⟩ := hconsistent.discerned _ hvisits
      exact hnone member hoffers hmember
  | noValue hunion hname hoffers hmember hvalues =>
      obtain ⟨union', hunion', hname', member', hoffers', hmember', hvalues'⟩ :=
        hconsistent.discerned _ hvisits
      have hkey :=
        Symbol.openUnion.inj
          (horder.eq_of_name_eq hunion hunion' (hname.trans hname'.symm))
      have hsame := horder.eq_of_offers hoffers hoffers' (hmember.trans hmember'.symm)
      rw [hkey, hsame] at hvalues
      exact hvalues' hvalues
  | untargeted hnone =>
      obtain ⟨target, htarget, hsame⟩ := hconsistent.targeted _ hvisits
      exact hnone target htarget hsame

/-- A membership at which nothing is wrong has an open union and a member with a value. -/
theorem Registry.discerned_of_not_flawed
    {registry : Registry} {documents : List DocumentSymbols} {m : Membership}
    (hnone : ∀ fault, ¬ registry.Flawed documents (.membership m) fault) :
    ∃ union, .openUnion union ∈ registry.symbols ∧ union.name = m.union ∧
      ∃ member, registry.Offers documents m member ∧ member.name = m.member ∧
        member.discriminatorValues union.discriminatorKey ≠ [] := by
  obtain ⟨symbol, hsymbol, hname⟩ :
      ∃ symbol ∈ registry.symbols, symbol.name = m.union := by
    by_contra habsent
    push Not at habsent
    exact hnone _ (.noUnion habsent)
  obtain ⟨union, rfl⟩ : ∃ union, symbol = .openUnion union := by
    by_contra hother
    refine hnone _ (.otherKind hsymbol hname fun hkind => hother ?_)
    cases symbol with
    | openUnion union => exact ⟨union, rfl⟩
    | record | closedUnion | literal | unmarshalCheck => contradiction
  obtain ⟨member, hoffers, hmember⟩ :
      ∃ member, registry.Offers documents m member ∧ member.name = m.member := by
    by_contra habsent
    push Not at habsent
    exact hnone _ (.noMember hsymbol hname habsent)
  exact ⟨union, hsymbol, hname, member, hoffers, hmember, fun hvalues =>
    hnone _ (.noValue hsymbol hname hoffers hmember hvalues)⟩

theorem InOrder.consistent_iff
    {registry : Registry} {documents ordered : List DocumentSymbols} {shared : SymbolTable}
    (horder : InOrder registry documents shared ordered) :
    registry.Consistent documents ↔
      ∀ site, registry.Visits documents site →
        ∀ fault, ¬ registry.Flawed documents site fault := by
  constructor
  · exact fun hconsistent site hvisits fault =>
      horder.not_flawed_of_consistent hconsistent hvisits fault
  · intro hnone
    constructor
    · intro union hknows field hfield hspecific hvalues
      exact hnone (.variant union field) ⟨hknows, hfield⟩ _ (.untold hspecific hvalues)
    · intro symbol hknows field hfield name hname
      by_contra habsent
      push Not at habsent
      exact hnone (.reference name) ⟨symbol, hknows, field, hfield, hname⟩ _
        (.dangling habsent)
    · intro m hm
      exact Registry.discerned_of_not_flawed (hnone (.membership m) hm)
    · intro check hcheck
      by_contra habsent
      push Not at habsent
      exact hnone (.check check) hcheck _ (.untargeted habsent)

/-- Tables in which every name stands once. -/
structure NamesDistinct (registry : Registry) (documents : List DocumentSymbols) :
    Prop where
  shared_nodup : registry.symbols.names.Nodup
  documents_nodup : (documents.map DocumentSymbols.document).Nodup
  tables_nodup : ∀ document ∈ documents, document.symbols.names.Nodup

theorem Registry.Reachable.namesDistinct
    {registry : Registry} {documents : List DocumentSymbols}
    (hreach : registry.Reachable) (hbuilt : ∀ document ∈ documents, document.Built)
    (hnames : (documents.map DocumentSymbols.document).Nodup) :
    NamesDistinct registry documents :=
  ⟨hreach.nodup_names, hnames, fun document hdocument =>
   (hbuilt document hdocument).nodup_names⟩

theorem NamesDistinct.inOrder
    {registry : Registry} {documents : List DocumentSymbols}
    (hdistinct : NamesDistinct registry documents) :
    InOrder registry documents (sortByText Symbol.name registry.symbols)
      (sortByText (·.document) documents) := by
  have hshared := sortByText_perm Symbol.name registry.symbols
  have hordered := sortByText_perm (·.document) documents
  constructor
  · exact hshared
  · exact hordered
  · exact (hshared.map Symbol.name).nodup_iff.2 hdistinct.shared_nodup
  · exact (hordered.map _).nodup_iff.2 hdistinct.documents_nodup
  · intro document hdocument
    exact hdistinct.tables_nodup document (hordered.mem_iff.1 hdocument)

theorem map_eq_error_iff
    {ε α β : Type} (f : α → β) (outcome : Except ε α) (fault : ε) :
    outcome.map f = .error fault ↔ outcome = .error fault := by
  cases outcome <;> simp [Except.map]

theorem map_eq_ok_iff
    {ε α β : Type} (f : α → β) (outcome : Except ε α) (b : β) :
    outcome.map f = .ok b ↔ ∃ a, outcome = .ok a ∧ f a = b := by
  cases outcome <;> simp [Except.map]

theorem exists_of_bind_eq_ok
    {ε α β : Type} {outcome : Except ε α} {f : α → Except ε β} {b : β}
    (hbind : (outcome >>= f) = .ok b) : ∃ a, outcome = .ok a ∧ f a = .ok b := by
  cases outcome with
  | error fault => contradiction
  | ok a => exact ⟨a, rfl, hbind⟩

theorem exists_map_eq_ok_iff
    {ε β : Type} (f : Unit → β) (outcome : Except ε Unit) :
    (∃ b, outcome.map f = .ok b) ↔ outcome = .ok () := by
  cases outcome <;> simp [Except.map]

/-- The first flaw in the order of the visit is reported. -/
theorem Registry.finalize_eq_error_iff
    {registry : Registry} {documents : List DocumentSymbols}
    (hdistinct : NamesDistinct registry documents) (fault : SchemaError) :
    let shared := sortByText Symbol.name registry.symbols
    let ordered := sortByText (·.document) documents
    let memberships := ascending (fun a b => keyBefore a.key b.key) registry.memberships
    registry.finalize documents = .error fault ↔
      ∃ before site after,
        (shared ++ ordered.flatMap (·.symbols)).flatMap Symbol.sites ++
            memberships.map Site.membership ++ registry.checks.map Site.check =
          before ++ site :: after ∧
        (∀ earlier ∈ before, ∀ other, ¬ registry.Flawed documents earlier other) ∧
        registry.Flawed documents site fault := by
  intro shared ordered memberships
  have horder := hdistinct.inOrder
  rw [registry.finalize_eq documents, map_eq_error_iff, firstFault_eq_error_iff]
  simp only [horder.site_ok_iff, horder.site_error_iff]
  rfl

/-- A schema is finished iff it is consistent. -/
theorem Registry.exists_finalize_iff
    {registry : Registry} {documents : List DocumentSymbols}
    (hdistinct : NamesDistinct registry documents) :
    (∃ graph, registry.finalize documents = .ok graph) ↔
      registry.Consistent documents := by
  have horder := hdistinct.inOrder
  rw [registry.finalize_eq documents, exists_map_eq_ok_iff, firstFault_eq_ok_iff,
    horder.consistent_iff]
  simp only [horder.site_ok_iff, horder.mem_sites_iff (mem_ascending membershipOrder · _)]

/-- Finishing accepts just the consistent schemas, and of any other it reports what is
wrong at the first flawed place: shared symbols by name, documents by name, memberships by
member, union, document and type argument, and checks by target and type argument. -/
theorem finalize_accepts_consistent
    {registry : Registry} {documents : List DocumentSymbols}
    (hreach : registry.Reachable) (hbuilt : ∀ document ∈ documents, document.Built)
    (hnames : (documents.map DocumentSymbols.document).Nodup) :
    ((∃ graph, registry.finalize documents = .ok graph) ↔ registry.Consistent documents) ∧
      ∃ sites, registry.VisitedAs documents sites ∧
        ∀ fault, registry.finalize documents = .error fault ↔
          ∃ before site after, sites = before ++ site :: after ∧
            (∀ earlier ∈ before, ∀ other, ¬ registry.Flawed documents earlier other) ∧
            registry.Flawed documents site fault := by
  have hdistinct := hreach.namesDistinct hbuilt hnames
  refine ⟨Registry.exists_finalize_iff hdistinct, _, ?_,
    Registry.finalize_eq_error_iff hdistinct⟩
  exact ⟨_, _, _, sortByText_perm _ _, sortByText_pairwise _ hdistinct.shared_nodup,
    sortByText_perm _ _, sortByText_pairwise _ hdistinct.documents_nodup,
    fun m => mem_ascending membershipOrder m _, ascending_ascending membershipOrder _,
    hreach.checksAscend.keys, rfl⟩

/-- A document registers a member that presents no value. -/
def silentMember : Session :=
  .after
    [.build "emoji" (.addOpenUnion "Icon" "type"),
     .build "emoji" (.addRecord "Emoji" ""),
     .build "emoji" (.registerMember ⟨"Icon", .shared⟩ ⟨"Emoji", .document⟩ none)]

theorem finalize_silentMember :
    silentMember.registry.Reachable ∧
      DocumentSymbols.Built ⟨"emoji", silentMember.tables "emoji"⟩ ∧
      silentMember.registry.finalize [⟨"emoji", silentMember.tables "emoji"⟩] =
        .error (.unresolvedDiscriminator "Icon" "Emoji") := by
  have hreach : silentMember.Reachable := Session.reachable_after _
  have hregistry : silentMember.registry.Reachable := ⟨_, hreach, rfl⟩
  have hbuilt : DocumentSymbols.Built ⟨"emoji", silentMember.tables "emoji"⟩ :=
    ⟨_, hreach, rfl⟩
  refine ⟨hregistry, hbuilt, ?_⟩
  obtain ⟨-, sites,
    ⟨shared, ordered, memberships, hshared, -, hordered, -, hmem, hascend, -,
    hsites⟩, herror⟩ :=
    finalize_accepts_consistent hregistry (List.forall_mem_singleton.2 hbuilt)
      (List.nodup_singleton _)
  have hshared' : shared = [.openUnion ⟨"Icon", "", "type"⟩] :=
    List.perm_singleton.1 hshared
  have hordered' : ordered = [⟨"emoji", [.emptyRecord "Emoji" "" none]⟩] :=
    List.perm_singleton.1 hordered
  have hmemberships : memberships = [⟨"Icon", "Emoji", some "emoji", none⟩] :=
    Ascending.eq_of_mem_iff membershipOrder hascend (List.pairwise_singleton _ _) hmem
  rw [herror]
  subst hshared' hordered' hmemberships
  refine ⟨[], .membership ⟨"Icon", "Emoji", some "emoji", none⟩, [], hsites, by simp, ?_⟩
  have hunion : .openUnion ⟨"Icon", "", "type"⟩ ∈ silentMember.registry.symbols :=
    List.mem_singleton_self _
  have hoffers :
      silentMember.registry.Offers [⟨"emoji", silentMember.tables "emoji"⟩]
        ⟨"Icon", "Emoji", some "emoji", none⟩ (.emptyRecord "Emoji" "" none) :=
    ⟨_, List.mem_singleton_self _, rfl, List.mem_singleton_self _⟩
  exact .noValue hunion rfl hoffers rfl rfl

end DocContract
