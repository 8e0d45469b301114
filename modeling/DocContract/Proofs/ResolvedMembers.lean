import DocContract.Code.Printer
import DocContract.Proofs.DeclaredIdentifiers

/-!
# Members of open unions

The members of open unions are looked up twice.  The validation reads the tables that were
put in order by name, and the emission reads the finished schema, which holds the checks as
well; a check has the name of its target, and other scopes can have symbols of the same
name.  Both find the same union and the same member, and these are what the registry and
the documents had before anything was sorted.  So the comment of an enumeration says of
each of its variants by which values it is told.
-/

namespace DocContract

open DocContract.Code
    (DocComment Item Variant symbolItems ticked typeIdent typeIdent? variants)

section Sorting

variable {α : Type} (key : α → String) (as : List α) (k : String)

/-- Elements with the same text keep their order. -/
theorem filter_sortByText :
    (sortByText key as).filter (fun a => key a == k) = as.filter fun a => key a == k := by
  have hordered : (as.filter fun a => key a == k).Pairwise fun a b =>
      (!textBefore (key b) (key a)) = true := by
    refine List.pairwise_of_forall_mem_list fun a ha b hb => ?_
    have hsame : key a = key b := by
      rw [beq_iff_eq.1 (List.mem_filter.1 ha).2, beq_iff_eq.1 (List.mem_filter.1 hb).2]
    simp [textBefore, hsame]
  have hsub : (as.filter fun a => key a == k).Sublist (sortByText key as) := by
    apply List.sublist_mergeSort _ _ hordered List.filter_sublist
    · intro a b c
      simp only [textBefore, Bool.not_eq_true', decide_eq_false_iff_not, not_lt]
      exact le_trans
    · intro a b
      simpa only [textBefore, Bool.or_eq_true, Bool.not_eq_true',
        decide_eq_false_iff_not, not_lt] using
        le_total (key a) (key b)
  have hkept : (as.filter fun a => key a == k).Sublist
      ((sortByText key as).filter fun a => key a == k) := by
    simpa only [List.filter_filter, Bool.and_self] using hsub.filter fun a => key a == k
  refine (hkept.eq_of_length ?_).symm
  exact ((sortByText_perm key as).filter _).length_eq.symm

theorem find?_sortByText :
    (sortByText key as).find? (fun a => key a == k) = as.find? fun a => key a == k := by
  rw [← List.head?_filter, filter_sortByText, List.head?_filter]

end Sorting

theorem SymbolTable.get?_sortByText (table : SymbolTable) (name : String) :
    SymbolTable.get? (sortByText Symbol.name table) name = table.get? name :=
  find?_sortByText Symbol.name table name

/-- A membership is resolved alike before and after the tables are put in order. -/
theorem Membership.resolve_sortByText (shared : SymbolTable)
    (documents : List DocumentSymbols)
    (m : Membership) :
    m.resolve (sortByText Symbol.name shared) (sortByText (·.document) documents) =
      m.resolve shared documents := by
  have htable : (m.ownTable (sortByText Symbol.name shared)
      (sortByText (·.document) documents)).get? m.member =
        (m.ownTable shared documents).get? m.member := by
    unfold ownTable
    cases m.document with
    | none => exact SymbolTable.get?_sortByText shared m.member
    | some document => simp only [find?_sortByText]
  unfold resolve
  rw [SymbolTable.get?_sortByText, htable]

/-- Among symbols that are no checks, the first of a name is the first that is named so. -/
theorem find?_named {table : SymbolTable}
    (hnamed : ∀ symbol ∈ table, symbol.isNamed = true)
    (name : String) :
    List.find? (fun symbol => symbol.isNamed && symbol.name == name) table =
      table.get? name := by
  have hsame : table.filter (fun symbol => symbol.isNamed && symbol.name == name) =
      table.filter (·.name == name) :=
    List.filter_congr fun symbol hsymbol => by rw [hnamed symbol hsymbol, Bool.true_and]
  rw [← List.head?_filter, hsame, List.head?_filter, SymbolTable.get?]

/-- The tables of documents and the shared table are well formed, and so is the empty
one. -/
theorem Membership.wellFormed_ownTable {shared : SymbolTable}
    {documents : List DocumentSymbols}
    (hshared : shared.WellFormed) (hmade : ∀ document ∈ documents, document.MadeByBuilder)
    (m : Membership) : (m.ownTable shared documents).WellFormed := by
  unfold ownTable
  cases m.document with
  | none => exact hshared
  | some name =>
      dsimp only
      cases hfind : documents.find? (·.document == name) with
      | none => exact SymbolTable.wellFormed_of_changes .refl
      | some document =>
          exact (hmade document (List.mem_of_find?_eq_some hfind)).wellFormed

section Finished

variable {history : List Act} {documents : List DocumentSymbols} {graph : SymbolGraph}
  (hmade : ∀ document ∈ documents, document.MadeByBuilder)
  (hfinal : (Workshop.after history).registry.finalize documents = .ok graph)

include hfinal

/-- The checks that come after the symbols of the shared scope are never found. -/
theorem find?_shared (name : String) :
    List.find? (fun symbol => symbol.isNamed && symbol.name == name) graph.shared =
      (Workshop.after history).registry.symbols.get? name := by
  have hchecks : List.find? (fun symbol => symbol.isNamed && symbol.name == name)
      ((Workshop.after history).registry.checks.map Symbol.unmarshalCheck) = none := by
    simp [Symbol.isNamed, Symbol.kind]
  rw [Registry.eq_of_finalize_eq_ok hfinal, List.find?_append, hchecks, Option.or_none,
    find?_named (Workshop.named_sortByText history), SymbolTable.get?_sortByText]

/-- A shared symbol is found before all others of its name. -/
theorem SymbolGraph.lookup_of_get? {name : String} {symbol : Symbol}
    (hget : (Workshop.after history).registry.symbols.get? name = some symbol) :
    graph.lookup name = some symbol := by
  rw [lookup, List.find?_append, find?_shared hfinal, hget, Option.some_or]

include hmade

theorem SymbolGraph.member_eq_get? (m : Membership) :
    graph.member m =
      (m.ownTable (Workshop.after history).registry.symbols documents).get? m.member := by
  unfold member scopeOf? Membership.ownTable
  cases m.document with
  | none => exact find?_shared hfinal m.member
  | some name =>
      have hdocuments : graph.documents = sortByText (·.document) documents := by
        rw [Registry.eq_of_finalize_eq_ok hfinal]
      dsimp only
      rw [hdocuments, find?_sortByText]
      cases hfind : documents.find? (·.document == name) with
      | none => rfl
      | some document =>
          have hdocument : document ∈ documents := List.mem_of_find?_eq_some hfind
          exact find?_named (hmade document hdocument).wellFormed.named m.member

end Finished

/-- What a finished schema makes of a membership: the union and the member that its
validation has found, which the schema finds as well.  No other symbol of the member's own
table has its name. -/
structure SymbolGraph.Resolves (graph : SymbolGraph) (registry : Registry)
    (documents : List DocumentSymbols) (m : Membership) (union : OpenUnion)
    (member : Symbol) :
    Prop where
  validated : m.resolve (sortByText Symbol.name registry.symbols)
    (sortByText (·.document) documents) = .ok (union, member)
  lookup_eq : graph.lookup m.union = some (.openUnion union)
  member_eq : graph.member m = some member
  union_name : union.name = m.union
  union_mem : .openUnion union ∈ graph.shared
  name_eq : member.name = m.member
  mem_ownTable : member ∈ m.ownTable registry.symbols documents
  eq_of_name : ∀ other ∈ m.ownTable registry.symbols documents, other.name = m.member →
    other = member
  named : member.isNamed = true
  values_ne_nil : member.discriminatorValues union.discriminatorKey ≠ []

section Finished

variable {history : List Act} {documents : List DocumentSymbols} {graph : SymbolGraph}
  (hmade : ∀ document ∈ documents, document.MadeByBuilder)
  (hfinal : (Workshop.after history).registry.finalize documents = .ok graph)

include hmade hfinal

theorem SymbolGraph.exists_resolves {m : Membership} (hm : m ∈ graph.memberships) :
    ∃ union member,
      graph.Resolves (Workshop.after history).registry documents m union member := by
  have hvalid := (validate_of_finalize hfinal).2.1 m hm
  rw [Membership.validate_eq_resolve] at hvalid
  obtain ⟨⟨union, member⟩, hresolve, -⟩ := (map_eq_ok_iff _ _ _).1 hvalid
  have hfound := hresolve
  rw [Membership.resolve_sortByText, Membership.resolve_eq_ok_iff] at hfound
  obtain ⟨hunion, hmember, hvalues⟩ := hfound
  have hown := m.wellFormed_ownTable (Workshop.wellFormed_after history).shared hmade
  obtain ⟨hmem, hname⟩ := (hown.get?_iff _ _).1 hmember
  obtain ⟨hshared, hunionName⟩ := SymbolTable.mem_of_get? hunion
  refine ⟨union, member, hresolve, lookup_of_get? hfinal hunion, ?_, hunionName, ?_,
    hname, hmem, ?_, hown.named member hmem, hvalues⟩
  · rw [member_eq_get? hmade hfinal, hmember]
  · rw [Registry.eq_of_finalize_eq_ok hfinal]
    exact List.mem_append_left _ ((sortByText_perm _ _).mem_iff.2 hshared)
  · intro other hother hsame
    have hget := (hown.get?_iff m.member other).2 ⟨hother, hsame⟩
    rw [hmember] at hget
    exact (Option.some.inj hget).symm

end Finished

/-! ## What an enumeration shows -/

namespace Code

/-- The line of a comment that says by which values a field or a member is told. -/
def bullet (values : List String) (target : String) : String :=
  "\n- " ++ ", ".intercalate (values.map ticked) ++ ": " ++ ticked target

theorem Dispatch.text_eq (dispatch : Dispatch) :
    dispatch.text = "Dispatches on " ++ ticked dispatch.key ++ ":" ++
      String.join (dispatch.entries.map fun entry => bullet entry.1 entry.2) := rfl

/-- A variant that stands for a membership. -/
structure Variant.StandsFor (variant : Variant) (m : Membership) : Prop where
  member : typeIdent m.member = .ok variant.member
  ident : typeIdent m.variantName = .ok variant.ident
  argument : typeIdent? m.typeArgument = .ok variant.argument

theorem Variant.standsFor_of_ofMembership {m : Membership} {variant : Variant}
    (hvariant : Variant.ofMembership m = .ok variant) : variant.StandsFor m := by
  have hident := typeIdent_of_ofMembership hvariant
  obtain ⟨member, hmember, hrest⟩ := exists_of_bind_eq_ok hvariant
  cases hargument : m.typeArgument with
  | none =>
      rw [hargument] at hrest
      obtain rfl := Except.ok.inj hrest
      exact ⟨hmember, hident, by rw [hargument, typeIdent?]⟩
  | some argument =>
      rw [hargument] at hrest
      obtain ⟨ident, -, hrest⟩ := exists_of_bind_eq_ok hrest
      obtain ⟨applied, happlied, hall⟩ := exists_of_bind_eq_ok hrest
      obtain rfl := Except.ok.inj hall
      refine ⟨hmember, hident, ?_⟩
      rw [hargument, typeIdent?, happlied]
      rfl

end Code

/-- A comment and variants that show the members of an open union: they are its
memberships, once each and in ascending order, and each has a bullet with the values that
tell it and a variant. -/
structure SymbolGraph.Enumerates (graph : SymbolGraph) (registry : Registry)
    (documents : List DocumentSymbols) (union : OpenUnion) (doc : DocComment)
    (vs : List Variant) :
    Prop where
  mem_iff : ∀ m, m ∈ graph.membersOf union.name ↔ m ∈ registry.memberships ∧
    m.union = union.name
  nodup : (graph.membersOf union.name).Nodup
  members_ascend : (graph.membersOf union.name).Pairwise fun a b => a.member ≤ b.member
  bullets : ∃ lines,
    doc.fullText = (if union.comment = "" then "" else union.comment ++ "\n\n") ++
      ("Dispatches on " ++ ticked union.discriminatorKey ++ ":" ++ String.join lines) ∧
    List.Forall₂ (fun m line =>
      ∃ member, graph.Resolves registry documents m union member ∧
      line = Code.bullet (member.discriminatorValues union.discriminatorKey) m.member)
      (graph.membersOf union.name) lines
  variants : List.Forall₂ (fun m (variant : Variant) => variant.StandsFor m)
    (graph.membersOf union.name) vs

theorem fullText_openUnionDoc (union : OpenUnion) (graph : SymbolGraph) :
    (Code.openUnionDoc union graph).fullText =
      (if union.comment = "" then "" else union.comment ++ "\n\n") ++
        ("Dispatches on " ++ ticked union.discriminatorKey ++ ":" ++
          String.join ((graph.membersOf union.name).map fun m =>
            Code.bullet (Code.memberValues graph union.discriminatorKey m) m.member)) := by
  simp only [DocComment.fullText, Code.openUnionDoc, Code.Dispatch.text_eq, List.map_map,
    String.isEmpty_iff]
  rfl

section Finished

variable {history : List Act} {documents : List DocumentSymbols} {graph : SymbolGraph}
  (hmade : ∀ document ∈ documents, document.MadeByBuilder)
  (hfinal : (Workshop.after history).registry.finalize documents = .ok graph)

include hfinal

theorem members_le_of_finalize (union : String) :
    (graph.membersOf union).Pairwise fun a b => a.member ≤ b.member := by
  refine ((Workshop.canonicalFor_of_finalize hfinal).memberships_ascend.filter _).imp
    fun {a b} hlt => ?_
  rcases Prod.Lex.toLex_lt_toLex.1 hlt with hbefore | ⟨hsame, -⟩
  · exact hbefore.le
  · exact hsame.le

theorem mem_membersOf_iff (union : String) (m : Membership) :
    m ∈ graph.membersOf union ↔
      m ∈ (Workshop.after history).registry.memberships ∧ m.union = union := by
  rw [SymbolGraph.membersOf, List.mem_filter, beq_iff_eq,
    (Workshop.memberships_of_finalize hfinal).2, Workshop.mem_memberships_after]

include hmade

/-- The values in the bullet of a membership are those by which its validation tells the
member. -/
theorem exists_bullet {union : OpenUnion}
    (hlookup : graph.lookup union.name = some (.openUnion union))
    {m : Membership} (hm : m ∈ graph.membersOf union.name) :
    ∃ member, graph.Resolves (Workshop.after history).registry documents m union member ∧
      Code.bullet (Code.memberValues graph union.discriminatorKey m) m.member =
        Code.bullet (member.discriminatorValues union.discriminatorKey) m.member := by
  obtain ⟨hmem, hunion⟩ := List.mem_filter.1 hm
  obtain ⟨found, member, hresolves⟩ := SymbolGraph.exists_resolves hmade hfinal hmem
  have hfound : found = union := by
    have hsame := hresolves.lookup_eq
    rw [beq_iff_eq.1 hunion, hlookup] at hsame
    exact (Symbol.openUnion.inj (Option.some.inj hsame)).symm
  subst hfound
  exact ⟨member, hresolves, by rw [Code.memberValues, hresolves.member_eq]⟩

theorem enumerates_of_symbolItems {union : OpenUnion}
    (hlookup : graph.lookup union.name = some (.openUnion union)) {m : Membership}
    (hm : m ∈ graph.membersOf union.name) {items : List Item}
    (hitems : symbolItems graph (.openUnion union) = .ok items) :
    ∃ doc ident vs, items = [.enumeration doc ident vs] ∧
      graph.Enumerates (Workshop.after history).registry documents union doc vs := by
  have hone {vs : List Variant}
    (hvariants : variants (graph.membersOf union.name) = .ok vs) :
      vs ≠ [] := by
    rintro rfl
    rw [List.forall₂_nil_right_iff.1 (forall₂_of_variants hvariants)] at hm
    contradiction
  cases Symbol.declaredBy_of_symbolItems hitems with
  | wrapper hident hvariants => exact absurd rfl (hone hvariants)
  | @enumeration _ ident vs hident hvariants =>
      refine ⟨_, ident, vs, rfl, mem_membersOf_iff hfinal _, nodup_membersOf hfinal _,
        members_le_of_finalize hfinal _, ⟨_, fullText_openUnionDoc union graph, ?_⟩, ?_⟩
      · rw [List.forall₂_map_right_iff, List.forall₂_same]
        exact fun m hm => exists_bullet hmade hfinal hlookup hm
      · exact (forall₂_of_variants hvariants).imp fun _ _ =>
          Variant.standsFor_of_ofMembership

end Finished

/-- For each membership of a finished schema the emission finds the union and the member
that the validation has found.  The shared module has an enumeration for the union: its
comment has a bullet and it has a variant for each membership of the union, in ascending
order of the members, and the bullet shows the values by which the member is told, of which
there is one at least. -/
theorem members_resolved {history : List Act} {documents : List DocumentSymbols}
    {graph : SymbolGraph}
    (hmade : ∀ document ∈ documents, document.MadeByBuilder)
    (hfinal : (Workshop.after history).registry.finalize documents = .ok graph)
    {m : Membership}
    (hm : m ∈ graph.memberships) :
    ∃ union member,
      graph.Resolves (Workshop.after history).registry documents m union member ∧
      (∀ items, symbolItems graph (.openUnion union) = .ok items →
        ∃ doc ident vs, items = [.enumeration doc ident vs] ∧
          graph.Enumerates (Workshop.after history).registry documents union doc vs) ∧
      ∀ module, sharedModule graph = .ok module →
        ∃ items, symbolItems graph (.openUnion union) = .ok items ∧
          items ⊆ module.items := by
  obtain ⟨union, member, hresolves⟩ := SymbolGraph.exists_resolves hmade hfinal hm
  refine ⟨union, member, hresolves, ?_, ?_⟩
  · intro items hitems
    have hlookup := hresolves.lookup_eq
    rw [← hresolves.union_name] at hlookup
    apply enumerates_of_symbolItems hmade hfinal hlookup _ hitems (m := m)
    exact List.mem_filter.2 ⟨hm, beq_iff_eq.2 hresolves.union_name.symm⟩
  · intro module hmodule
    obtain ⟨shared, hshared, hall⟩ := exists_of_bind_eq_ok hmodule
    obtain rfl := Except.ok.inj hall
    have hmade := SharedItems.madeFrom_of_sharedItems hshared
    obtain ⟨items, hitems, hsub⟩ := hmade.complete _ hresolves.union_mem rfl
    exact ⟨items, hitems, List.Subset.trans hsub (List.subset_append_left _ _)⟩

/-- Two documents have a member of one name, and each is found in its own. -/
theorem members_resolved_user :
    (∀ document ∈ emojiSchema.documents, document.MadeByBuilder) ∧
      (Workshop.after emojiHistory).registry.finalize emojiSchema.documents =
        .ok emojiSchema ∧
      ⟨"Icon", "Emoji", some "user", none⟩ ∈ emojiSchema.memberships ∧
      emojiSchema.Resolves (Workshop.after emojiHistory).registry emojiSchema.documents
        ⟨"Icon", "Emoji", some "user", none⟩ ⟨"Icon", "", "type"⟩ userEmoji ∧
      ∃ doc ident vs, iconItem = .enumeration doc ident vs ∧
        emojiSchema.Enumerates (Workshop.after emojiHistory).registry emojiSchema.documents
          ⟨"Icon", "", "type"⟩ doc vs := by
  have hm : (⟨"Icon", "Emoji", some "user", none⟩ : Membership) ∈
      emojiSchema.memberships := by
    decide
  refine ⟨madeByBuilder_emoji, finalize_emoji, hm, ?_⟩
  obtain ⟨union, member, hresolves, henumerates, -⟩ :=
    members_resolved madeByBuilder_emoji finalize_emoji hm
  have hunion : union = ⟨"Icon", "", "type"⟩ := by
    have hlookup := hresolves.lookup_eq
    have hfound : emojiSchema.lookup "Icon" = some (.openUnion ⟨"Icon", "", "type"⟩) := by
      decide +kernel
    rw [hfound] at hlookup
    exact (Symbol.openUnion.inj (Option.some.inj hlookup)).symm
  have hmember : member = userEmoji := by
    have hfound : emojiSchema.member ⟨"Icon", "Emoji", some "user", none⟩ =
        some userEmoji := by
      decide +kernel
    exact Option.some.inj (hresolves.member_eq.symm.trans hfound)
  subst hunion hmember
  obtain ⟨doc, ident, vs, hitem, hshows⟩ := henumerates _ symbolItems_icon
  exact ⟨hresolves, doc, ident, vs, (List.cons.inj hitem).1, hshows⟩

end DocContract
