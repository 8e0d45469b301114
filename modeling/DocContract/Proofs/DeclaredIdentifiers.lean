import DocContract.Proofs.CanonicalGraphs
import DocContract.Proofs.DiscriminatorKeys

/-!
# Identifiers of fields and variants

No structure has two fields of one name, and no enumeration two variants for one
membership, but the identifiers are made of the words of names.  Two fields have one
identifier between them just if their names have the same words, and two variants just if
member and type argument, written one after the other, have.  The document that a member
comes from is not part of the name of its variant.
-/

namespace DocContract

open DocContract.Code
    (FieldDecl Item Variant fieldDecls fieldIdent symbolItems typeIdent variants)
open DocContract.Naming (Ident IsAscii letters pascalCase snakeCase words)

/-- What two names have in common that get one identifier. -/
structure NamesClash (recase : List Char → List Char) (a b : String) : Prop where
  letters_eq : IsAscii a.toList → IsAscii b.toList → letters a.toList = letters b.toList
  eq_of_settled : recase a.toList = a.toList → recase b.toList = b.toList → a = b

namespace Naming

theorem letters_append (first second : List Char) :
    letters (first ++ second) = letters first ++ letters second := by
  rw [letters, List.filter_append, List.map_append]
  rfl

theorem letters_joinWith (texts : List (List Char)) :
    letters (Text.joinWith ['_'] texts) = texts.flatMap letters := by
  have hseparator : letters ['_'] = [] := by decide
  induction texts with
  | nil => rfl
  | cons text later ih =>
      cases later with
      | nil => rw [Text.joinWith, List.flatMap_singleton]
      | cons next later =>
          have hjoin : Text.joinWith ['_'] (text :: next :: later) =
              text ++ ['_'] ++ Text.joinWith ['_'] (next :: later) := rfl
          rw [hjoin, letters_append, letters_append, hseparator, ih, List.append_nil]
          rfl

theorem letters_of_alphanum {word : List Char} (hall : ∀ c ∈ word, c.isAlphanum = true) :
    letters word = word.map Char.toLower := by
  rw [letters, List.filter_eq_self.2 hall]

theorem letters_lowercase {word : List Char} (hascii : IsAscii word) :
    letters (Text.lowercase word) = letters word := by
  have hkept : word.filter (Char.isAlphanum ∘ Char.toLower) =
      word.filter Char.isAlphanum :=
    List.filter_congr fun c hc => isAlphanum_toLower (hascii c hc)
  rw [lowercase_ascii hascii, letters, List.filter_map, hkept, List.map_map]
  apply List.map_congr_left
  intro c hc
  exact toLower_toLower (hascii c (List.mem_of_mem_filter hc))

/-- The name of a field has the letters and digits of the name that it is made of. -/
theorem letters_snakeCase {name : List Char} (hascii : IsAscii name) :
    letters (snakeCase name) = letters name := by
  have hwords : ∀ word ∈ words .unicode name,
      letters (Text.lowercase word) = word.map Char.toLower := by
    intro word hword
    have hword' : IsAscii word := isAscii_of_mem_words hascii hword
    rw [letters_lowercase hword', letters_of_alphanum]
    intro c hc
    rw [← isAlphanumeric_ascii (hword' c hc)]
    exact (mem_of_mem_words hword hc).2
  have hsame : name.filter CharClasses.unicode.isAlphanumeric =
      name.filter Char.isAlphanum :=
    List.filter_congr fun c hc => isAlphanumeric_ascii (hascii c hc)
  rw [snakeCase, letters_joinWith, List.flatMap_map, List.flatMap_congr hwords,
    letters, ← hsame, ← flatten_words, List.map_flatten, List.flatMap_def]

end Naming

theorem NamesClash.of_snakeCase_eq {a b : String}
    (hsame : snakeCase a.toList = snakeCase b.toList) :
    NamesClash snakeCase a b := by
  constructor
  · intro hascii hascii'
    rw [← Naming.letters_snakeCase hascii, hsame, Naming.letters_snakeCase hascii']
  · intro hsettled hsettled'
    rw [hsettled, hsettled'] at hsame
    exact String.toList_injective hsame

theorem NamesClash.of_pascalCase_eq {a b : String}
    (hsame : pascalCase a.toList = pascalCase b.toList) : NamesClash pascalCase a b := by
  constructor
  · intro hascii hascii'
    rw [← Naming.map_toLower_pascalCase hascii, hsame,
      Naming.map_toLower_pascalCase hascii']
  · intro hsettled hsettled'
    rw [hsettled, hsettled'] at hsame
    exact String.toList_injective hsame

theorem fieldIdent_of_ofField {field : Field} {decl : FieldDecl}
    (hdecl : FieldDecl.ofField field = .ok decl) :
    fieldIdent decl.name = .ok decl.ident := by
  obtain ⟨ident, hident, hrest⟩ := exists_of_bind_eq_ok hdecl
  obtain ⟨type, -, hall⟩ := exists_of_bind_eq_ok hrest
  obtain rfl := Except.ok.inj hall
  exact hident

section Fields

variable {fields : List Field} {decls : List FieldDecl}
    (hdecls : fieldDecls fields = .ok decls)

include hdecls

theorem ident_of_fieldDecls {decl : FieldDecl} (hdecl : decl ∈ decls) :
    decl.ident =
      ⟨snakeCase decl.name.toList, Naming.isKeyword (snakeCase decl.name.toList)⟩ := by
  obtain ⟨field, -, hmade⟩ := exists_left_of_forall₂ (forall₂_of_fieldDecls hdecls) hdecl
  exact (eq_of_fieldIdent (fieldIdent_of_ofField hmade)).1

theorem nodup_idents_of_fieldDecls :
    (decls.map (·.ident)).Nodup ↔
      (decls.map fun decl => snakeCase decl.name.toList).Nodup := by
  have hinjective : Function.Injective fun text =>
      (⟨text, Naming.isKeyword text⟩ : Ident) :=
    fun a b hsame => congrArg Ident.text hsame
  have hidents : decls.map (·.ident) =
      (decls.map fun decl => snakeCase decl.name.toList).map
        fun text => ⟨text, Naming.isKeyword text⟩ := by
    rw [List.map_map]
    exact List.map_congr_left fun decl hdecl => ident_of_fieldDecls hdecls hdecl
  rw [hidents, List.nodup_map_iff hinjective]

end Fields

/-- The name that the variant of a member is made of. -/
def Membership.variantName (m : Membership) : String :=
  match m.typeArgument with
  | none => m.member
  | some argument => Code.variantName m argument

theorem typeIdent_of_ofMembership {m : Membership} {variant : Variant}
    (hvariant : Variant.ofMembership m = .ok variant) :
    typeIdent m.variantName = .ok variant.ident := by
  obtain ⟨member, hmember, hrest⟩ := exists_of_bind_eq_ok hvariant
  rw [Membership.variantName]
  cases hargument : m.typeArgument with
  | none =>
      rw [hargument] at hrest
      obtain rfl := Except.ok.inj hrest
      exact hmember
  | some argument =>
      rw [hargument] at hrest
      obtain ⟨ident, hident, hrest⟩ := exists_of_bind_eq_ok hrest
      obtain ⟨applied, -, hall⟩ := exists_of_bind_eq_ok hrest
      obtain rfl := Except.ok.inj hall
      exact hident

section Variants

variable {members : List Membership} {vs : List Variant}
    (hvariants : variants members = .ok vs)

include hvariants

theorem idents_of_variants :
    vs.map (·.ident) = members.map fun m => ⟨pascalCase m.variantName.toList, false⟩ := by
  have hall := forall₂_of_variants hvariants
  clear hvariants
  induction hall with
  | nil => rfl
  | cons hfirst _ ih =>
      rw [List.map_cons, List.map_cons, ih,
        eq_of_typeIdent (typeIdent_of_ofMembership hfirst)]

theorem nodup_idents_of_variants :
    (vs.map (·.ident)).Nodup ↔
      (members.map fun m => pascalCase m.variantName.toList).Nodup := by
  have hinjective : Function.Injective fun text => (⟨text, false⟩ : Ident) :=
    fun a b hsame => congrArg Ident.text hsame
  rw [idents_of_variants hvariants, ← List.nodup_map_iff hinjective, List.map_map]
  rfl

end Variants

/-- When all members of a union are named as types and are applied to none, their variants
have different names just if no two of them have one name in different scopes. -/
theorem nodup_variantNames_iff {graph : SymbolGraph} {union : String}
    (hnodup : (graph.membersOf union).Nodup)
    (hsettled : ∀ m ∈ graph.membersOf union, m.typeArgument = none ∧ Settled m.member) :
    ((graph.membersOf union).map fun m => pascalCase m.variantName.toList).Nodup ↔
      ∀ m ∈ graph.membersOf union, ∀ other ∈ graph.membersOf union,
        m.member = other.member → m.document = other.document := by
  have hname : ∀ m ∈ graph.membersOf union, pascalCase m.variantName.toList =
      m.member.toList := by
    intro m hm
    obtain ⟨hargument, hmember⟩ := hsettled m hm
    rw [Membership.variantName, hargument]
    exact hmember
  rw [List.nodup_map_iff_inj_on hnodup]
  constructor
  · intro hinjective m hm other hother hsame
    rw [hinjective m hm other hother (by rw [hname m hm, hname other hother, hsame])]
  · intro hdocuments m hm other hother hsame
    rw [hname m hm, hname other hother] at hsame
    have hmember : m.member = other.member := String.toList_injective hsame
    have hunion : m.union = other.union := by
      rw [beq_iff_eq.1 (List.mem_filter.1 hm).2, beq_iff_eq.1 (List.mem_filter.1 hother).2]
    have hargument : m.typeArgument = other.typeArgument := by
      rw [(hsettled m hm).1, (hsettled other hother).1]
    have hdocument := hdocuments m hm other hother hmember
    cases m
    cases other
    simp_all only

/-! ## Items -/

/-- What the item of a symbol is made of. -/
inductive Code.Item.MadeFor (graph : SymbolGraph) (symbol : Symbol) : Item → Prop
  | struct {doc ident parameter decls} (hdecls : fieldDecls symbol.fields = .ok decls) :
      MadeFor graph symbol (.struct doc ident parameter decls)
  | enumeration {union doc ident vs} (hunion : symbol = .openUnion union)
      (hvariants : variants (graph.membersOf union.name) = .ok vs) :
      MadeFor graph symbol (.enumeration doc ident vs)
  | lookup {ident key arms} : MadeFor graph symbol (.lookup ident key arms)
  | wrapper {doc ident} : MadeFor graph symbol (.wrapper doc ident)
  | constant {ident value} : MadeFor graph symbol (.constant ident value)
  | decodeTest {test} : MadeFor graph symbol (.decodeTest test)

theorem madeFor_of_symbolItems {graph : SymbolGraph} {symbol : Symbol} {items : List Item}
    (hitems : symbolItems graph symbol = .ok items) :
    ∀ item ∈ items, item.MadeFor graph symbol := by
  cases Symbol.declaredBy_of_symbolItems hitems with
  | record hident hparameter hdecls => exact List.forall_mem_singleton.2 (.struct hdecls)
  | keylessUnion hident hdecls hkeyless =>
      exact List.forall_mem_singleton.2 (.struct hdecls)
  | closedUnion hident hdecls hkey =>
      rw [List.forall_mem_cons, List.forall_mem_singleton]
      exact ⟨.struct hdecls, .lookup⟩
  | wrapper hident hvariants => exact List.forall_mem_singleton.2 .wrapper
  | enumeration hident hvariants =>
      exact List.forall_mem_singleton.2 (.enumeration rfl hvariants)
  | constant hident => exact List.forall_mem_singleton.2 .constant
  | decodeTest htest => exact List.forall_mem_singleton.2 .decodeTest

section Finished

variable {history : List Act} {documents : List DocumentSymbols} {graph : SymbolGraph}
  (hmade : ∀ document ∈ documents, document.MadeByBuilder)
  (hfinal : (Workshop.after history).registry.finalize documents = .ok graph)

include hfinal

/-- The members of an open union stand in a finished schema once each. -/
theorem nodup_membersOf (union : String) : (graph.membersOf union).Nodup := by
  have hascend := (Workshop.memberships_of_finalize hfinal).1
  exact (hascend.nodup membershipOrder).filter _

include hmade

theorem nodup_fields_of_finalize {table : SymbolTable} (htable : table ∈ graph.scopes)
    {symbol : Symbol} (hsymbol : symbol ∈ table) :
    (symbol.fields.map Field.name).Nodup := by
  rcases mem_scopes_cases hfinal htable hsymbol with hmem | ⟨check, -, rfl⟩
  · rcases (Registry.mem_inOrder_iff _ _ _).1
      hmem with hshared | ⟨document, hdocument, hown⟩
    · exact (Workshop.wellFormed_after history).shared.fields_nodup symbol hshared
    · exact (hmade document hdocument).wellFormed.fields_nodup symbol hown
  · exact List.nodup_nil

/-- In a finished schema no structure has two fields of one name, and no open union one
member twice. Two fields have one identifier just if their names have the same words: these
names agree up to case and the characters between words, and one at least is not written as
a field is.  Two variants have one identifier just if the names they are made of have.
When all members of a union are named as types and are applied to none, its variants are
told apart just if no two scopes have a member of one name. -/
theorem identifiers_of_declarations {table : SymbolTable} (htable : table ∈ graph.scopes)
    {symbol : Symbol} (hsymbol : symbol ∈ table) {items : List Item}
    (hitems : symbolItems graph symbol = .ok items) :
    (∀ doc ident parameter decls, .struct doc ident parameter decls ∈ items →
      (decls.map (·.name)).Nodup ∧
      ((decls.map (·.ident)).Nodup ↔
        (decls.map fun decl => snakeCase decl.name.toList).Nodup) ∧
      ∀ a ∈ decls, ∀ b ∈ decls, a.ident = b.ident → NamesClash snakeCase a.name b.name) ∧
    ∀ doc ident vs, .enumeration doc ident vs ∈ items →
      ∃ union, symbol = .openUnion union ∧ (graph.membersOf union.name).Nodup ∧
        List.Forall₂ (fun m variant => typeIdent m.variantName = .ok variant.ident)
          (graph.membersOf union.name) vs ∧
        ((vs.map (·.ident)).Nodup ↔
          ((graph.membersOf union.name).map fun m =>
            pascalCase m.variantName.toList).Nodup) ∧
        (∀ m ∈ graph.membersOf union.name, ∀ other ∈ graph.membersOf union.name,
          pascalCase m.variantName.toList = pascalCase other.variantName.toList →
            NamesClash pascalCase m.variantName other.variantName) ∧
        ((∀ m ∈ graph.membersOf union.name, m.typeArgument = none ∧ Settled m.member) →
          ((vs.map (·.ident)).Nodup ↔
            ∀ m ∈ graph.membersOf union.name, ∀ other ∈ graph.membersOf union.name,
              m.member = other.member → m.document = other.document)) := by
  have hitem := madeFor_of_symbolItems hitems
  constructor
  · intro doc ident parameter decls hstruct
    cases hitem _ hstruct with | struct hdecls =>
    have hnames : (decls.map (·.name)).Nodup := by
      rw [names_of_fieldDecls hdecls]
      exact nodup_fields_of_finalize hmade hfinal htable hsymbol
    refine ⟨hnames, nodup_idents_of_fieldDecls hdecls, ?_⟩
    intro a ha b hb hsame
    rw [ident_of_fieldDecls hdecls ha, ident_of_fieldDecls hdecls hb] at hsame
    exact .of_snakeCase_eq (congrArg Ident.text hsame)
  · intro doc ident vs henumeration
    cases hitem _ henumeration with | @enumeration union _ _ _ hunion hvariants =>
    have hnodup := nodup_membersOf hfinal union.name
    refine ⟨union, hunion, hnodup, ?_, nodup_idents_of_variants hvariants, ?_, ?_⟩
    · exact (forall₂_of_variants hvariants).imp fun _ _ => typeIdent_of_ofMembership
    · exact fun m _ other _ hsame => .of_pascalCase_eq hsame
    · intro hsettled
      rw [nodup_idents_of_variants hvariants]
      exact nodup_variantNames_iff hnodup hsettled

end Finished

def emojiType : Parameter :=
  ⟨"type", "\"emoji\"", "", ""⟩

/-- Two documents have a record of the same name, both are members of one union, and one of
them has two fields whose names have the same words. -/
def emojiHistory : List Act :=
  [.build ⟨"icon", 0⟩ (.addRecord "Emoji" ""),
   .build ⟨"icon", 0⟩ (.addLiteralField ⟨"Emoji", .document⟩ emojiType),
   .build ⟨"icon", 0⟩ (.addOpenUnion "Icon" "type"),
   .build ⟨"icon", 0⟩ (.registerMember ⟨"Icon", .shared⟩ ⟨"Emoji", .document⟩ none),
   .build ⟨"user", 0⟩ (.addRecord "Emoji" ""),
   .build ⟨"user", 0⟩ (.addLiteralField ⟨"Emoji", .document⟩ emojiType),
   .build ⟨"user", 0⟩ (.registerMember ⟨"Icon", .shared⟩ ⟨"Emoji", .document⟩ none),
   .build ⟨"user", 0⟩ (.addField ⟨"Emoji", .document⟩ ⟨"userName", "", "", ""⟩ .string []),
   .build ⟨"user", 0⟩
     (.addField ⟨"Emoji", .document⟩ ⟨"user_name", "", "", ""⟩ .string [])]

def typeField : Field :=
  { name := "type", type := .named "AlwaysEmoji", literal := some "emoji" }

def iconEmoji : Symbol :=
  .record ⟨"Emoji", "", none, [typeField]⟩

def userEmoji : Symbol :=
  .record ⟨"Emoji", "", none,
    [typeField, { name := "userName", type := .string },
      { name := "user_name", type := .string }]⟩

def emojiSchema : SymbolGraph where
  documents := [⟨"icon", [iconEmoji]⟩, ⟨"user", [userEmoji]⟩]
  shared := [.literal ⟨"AlwaysEmoji", "emoji"⟩, .openUnion ⟨"Icon", "", "type"⟩]
  memberships :=
    [⟨"Icon", "Emoji", some "icon", none⟩, ⟨"Icon", "Emoji", some "user", none⟩]

theorem madeByBuilder_emoji :
    ∀ document ∈ emojiSchema.documents, document.MadeByBuilder := by
  rw [emojiSchema, List.forall_mem_cons, List.forall_mem_singleton]
  exact ⟨⟨emojiHistory, ⟨"icon", 0⟩, rfl, by decide +kernel⟩,
    ⟨emojiHistory, ⟨"user", 0⟩, rfl, by decide +kernel⟩⟩

theorem finalize_emoji :
    (Workshop.after emojiHistory).registry.finalize emojiSchema.documents =
      .ok emojiSchema := by
  have hdocuments : sortByText DocumentSymbols.document emojiSchema.documents =
      emojiSchema.documents := by
    apply List.mergeSort_of_pairwise
    decide +kernel
  have hshared : (Workshop.after emojiHistory).registry.symbols = emojiSchema.shared := by
    decide +kernel
  have hsorted : sortByText Symbol.name emojiSchema.shared = emojiSchema.shared := by
    apply List.mergeSort_of_pairwise
    decide +kernel
  rw [Registry.finalize, hdocuments, hshared, hsorted]
  decide +kernel

def typeDecl : FieldDecl :=
  { fieldOf "type" (.declared ⟨"AlwaysEmoji".toList, false⟩)
    with ident := ⟨"type".toList, true⟩ }

def userNameDecl : FieldDecl :=
  { fieldOf "userName" .text with ident := ⟨"user_name".toList, false⟩ }

def userEmojiDecls : List FieldDecl :=
  [typeDecl, userNameDecl, fieldOf "user_name" .text]

def emojiVariant : Variant where
  ident := ⟨"Emoji".toList, false⟩
  member := ⟨"Emoji".toList, false⟩
  argument := none

def iconItem : Item :=
  .enumeration
    { text := ""
      dispatch := some ⟨"type", [(["emoji"], "Emoji"), (["emoji"], "Emoji")]⟩ }
    ⟨"Icon".toList, false⟩ [emojiVariant, emojiVariant]

theorem symbolItems_userEmoji :
    symbolItems emojiSchema userEmoji = .ok [structNamed "Emoji" userEmojiDecls] := by
  decide +kernel

theorem symbolItems_icon :
    symbolItems emojiSchema (.openUnion ⟨"Icon", "", "type"⟩) = .ok [iconItem] := by
  decide +kernel

theorem identifiers_of_declarations_emoji :
    (∀ document ∈ emojiSchema.documents, document.MadeByBuilder) ∧
      (Workshop.after emojiHistory).registry.finalize emojiSchema.documents =
        .ok emojiSchema ∧
      symbolItems emojiSchema userEmoji = .ok [structNamed "Emoji" userEmojiDecls] ∧
      (userEmojiDecls.map (·.name)).Nodup ∧ NamesClash snakeCase "userName" "user_name" ∧
      symbolItems emojiSchema (.openUnion ⟨"Icon", "", "type"⟩) = .ok [iconItem] ∧
      (emojiSchema.membersOf "Icon").Nodup ∧
      (([emojiVariant, emojiVariant].map (·.ident)).Nodup ↔
        ∀ m ∈ emojiSchema.membersOf "Icon", ∀ other ∈ emojiSchema.membersOf "Icon",
          m.member = other.member → m.document = other.document) := by
  have hown : [userEmoji] ∈ emojiSchema.scopes := by decide
  have hshared : emojiSchema.shared ∈ emojiSchema.scopes := by decide
  have hicon : .openUnion ⟨"Icon", "", "type"⟩ ∈ emojiSchema.shared := by decide
  obtain ⟨hnames, -, hclash⟩ :=
    (identifiers_of_declarations madeByBuilder_emoji finalize_emoji hown
      (List.mem_singleton_self _) symbolItems_userEmoji).1
        _ _ _ _ (List.mem_singleton_self _)
  obtain ⟨union, hunion, hmembers, -, -, -, hsettles⟩ :=
    (identifiers_of_declarations madeByBuilder_emoji finalize_emoji hshared hicon
      symbolItems_icon).2 _ _ _ (List.mem_singleton_self _)
  obtain rfl := Symbol.openUnion.inj hunion
  refine ⟨madeByBuilder_emoji, finalize_emoji, symbolItems_userEmoji, hnames, ?_,
    symbolItems_icon, hmembers, hsettles ?_⟩
  · have hfirst : userNameDecl ∈ userEmojiDecls := by decide
    have hsecond : fieldOf "user_name" .text ∈ userEmojiDecls := by decide
    exact hclash _ hfirst _ hsecond rfl
  · unfold Settled
    decide +kernel

/-- A structure with two fields of one identifier, and an enumeration with two variants of
one. -/
theorem duplicate_identifiers :
    (∀ document ∈ emojiSchema.documents, document.MadeByBuilder) ∧
      (Workshop.after emojiHistory).registry.finalize emojiSchema.documents =
        .ok emojiSchema ∧
      (∃ table ∈ emojiSchema.scopes, userEmoji ∈ table) ∧
      symbolItems emojiSchema userEmoji = .ok [structNamed "Emoji" userEmojiDecls] ∧
      ¬ (userEmojiDecls.map (·.ident)).Nodup ∧
      (∃ table ∈ emojiSchema.scopes, .openUnion ⟨"Icon", "", "type"⟩ ∈ table) ∧
      symbolItems emojiSchema (.openUnion ⟨"Icon", "", "type"⟩) = .ok [iconItem] ∧
      ¬ ([emojiVariant, emojiVariant].map (·.ident)).Nodup :=
  ⟨madeByBuilder_emoji, finalize_emoji,
   by decide, symbolItems_userEmoji, by decide, by decide, symbolItems_icon, by decide⟩

end DocContract
