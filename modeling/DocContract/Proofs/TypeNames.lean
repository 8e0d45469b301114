import DocContract.Code.Declaration
import DocContract.Proofs.NameWords
import DocContract.Proofs.RegistryEdits

/-!
# Names of types

A scope has no two symbols of one name, but the name of a type is made of the words of a
name, and so two symbols of a scope can have one type between them.  Their names are then
the same up to case and the characters between words, and the name of one of them at least
is not the name of its type.  The name of a constant is made of words already, and it is
the name of its type unless two words of the value run together.
-/

namespace DocContract

open DocContract.Code (EmitError fieldIdent typeIdent)
open Relation (ReflTransGen)
open DocContract.Naming
    (Ident IsAscii KeptApart capitalized letters pascalCase snakeCase words)

def Symbol.NamedForValue (symbol : Symbol) : Prop :=
  ∀ constant, symbol = .literal constant → constant.name = literalName constant.value

theorem Symbol.NamedForValue.adoptComment {existing : Symbol}
    (hnamed : existing.NamedForValue)
    (offered : Symbol) : (existing.adoptComment offered).NamedForValue := by
  cases existing with
  | literal constant => cases offered <;> exact hnamed
  | _ => cases offered <;> simp [NamedForValue, Symbol.adoptComment]

theorem Symbol.NamedForValue.withFields {symbol : Symbol} (hnamed : symbol.NamedForValue)
    (fields : List Field) : (symbol.withFields fields).NamedForValue := by
  cases symbol with
  | record => simp [NamedForValue, Symbol.withFields]
  | closedUnion => simp [NamedForValue, Symbol.withFields]
  | openUnion => exact hnamed
  | literal => exact hnamed
  | unmarshalCheck => exact hnamed

theorem Symbol.AsDeclared.namedForValue {symbol : Symbol} (hdeclared : symbol.AsDeclared) :
    symbol.NamedForValue := by
  rintro constant rfl
  cases hdeclared
  rfl

def Registry.ConstantsNamed (registry : Registry) : Prop :=
  ∀ symbol ∈ registry.symbols, symbol.NamedForValue

theorem Registry.ConstantsNamed.edit {registry after : Registry}
    (hnamed : registry.ConstantsNamed)
    (hedit : registry.Edit after) : after.ConstantsNamed := by
  cases hedit with
  | @declared symbol symbols hdeclared hintern =>
      rcases SymbolTable.intern_cases
        hintern with rfl | ⟨before, existing, later, hbefore, rfl⟩
      · intro other hother
        rw [List.mem_append, List.mem_singleton] at hother
        rcases hother with hold | rfl
        · exact hnamed other hold
        · exact hdeclared.namedForValue
      · rw [ConstantsNamed, hbefore] at hnamed
        exact forall_mem_replace hnamed fun hexisting => hexisting.adoptComment symbol
  | extended hattach =>
      obtain ⟨before, symbol, later, fields, hbefore, rfl, -, -⟩ :=
        SymbolTable.attach_cases hattach
      rw [ConstantsNamed, hbefore] at hnamed
      exact forall_mem_replace hnamed fun hsymbol => hsymbol.withFields fields
  | registered => exact hnamed
  | checked => exact hnamed

theorem Registry.ConstantsNamed.edits {registry after : Registry}
    (hnamed : registry.ConstantsNamed)
    (hedits : ReflTransGen Registry.Edit registry after) :
    after.ConstantsNamed := by
  induction hedits with
  | refl => exact hnamed
  | tail _ hedit ih => exact ih.edit hedit

/-- Whatever has been done, constants are named for their values. -/
theorem Workshop.constantsNamed_after (history : List Act) :
    (after history).registry.ConstantsNamed := by
  have hnone : Registry.ConstantsNamed {} := by
    simp [Registry.ConstantsNamed]
  exact hnone.edits (edits_after history)

/-- The name of a symbol is the name of its type. -/
def Settled (name : String) : Prop :=
  pascalCase name.toList = name.toList

/-- A name is answered with the identifier that is made of it, just if a test allows it. -/
theorem answer_eq_ok_iff (test : Bool) (made ident : Ident) (fault : EmitError) :
    (match if test then some made else none with
      | some ident => Except.ok ident
      | none => .error fault) = .ok ident ↔ test = true ∧ ident = made := by
  cases test <;> simp [eq_comm]

theorem eq_of_typeIdent {name : String} {ident : Ident}
    (hident : typeIdent name = .ok ident) :
    ident = ⟨pascalCase name.toList, false⟩ :=
  ((answer_eq_ok_iff _ _ ident _).1 hident).2

theorem eq_of_fieldIdent {name : String} {ident : Ident}
    (hident : fieldIdent name = .ok ident) :
    ident = ⟨snakeCase name.toList, Naming.isKeyword (snakeCase name.toList)⟩ ∧
      Naming.isIdentifier (snakeCase name.toList) = true := by
  obtain ⟨hfits, hmade⟩ := (answer_eq_ok_iff _ _ ident _).1 hident
  exact ⟨hmade, (Bool.and_eq_true_iff.1 hfits).1⟩

theorem text_of_typeIdent {name : String} {ident : Ident}
    (hident : typeIdent name = .ok ident) :
    ident.text = pascalCase name.toList := by
  rw [eq_of_typeIdent hident]

/-- The name of a constant is the name of its type, just if no two words of the value run
together. -/
theorem settled_literalName_iff {value : String} (hascii : IsAscii value.toList) :
    Settled (literalName value) ↔ KeptApart (words .unicode value.toList) := by
  have halwaysWord : Naming.IsWord "always".toList := by
    constructor
    · decide
    · simp
  have hwords : ∀ word ∈ "always".toList :: words .unicode value.toList,
      Naming.IsWord word :=
    List.forall_mem_cons.2
      ⟨halwaysWord, fun word hword => Naming.isWord_of_mem_words hascii hword⟩
  have hname : (literalName value).toList =
      ("always".toList :: words .unicode value.toList).flatMap capitalized := by
    have halways : capitalized "always".toList = "Always".toList := by decide +kernel
    have hvalue : (String.ofList (pascalCase value.toList)).toList =
        pascalCase value.toList :=
      String.toList_ofList
    rw [List.flatMap_cons, halways, ← pascalCase, literalName,
      String.toList_append, hvalue]
  have hlong (next : List Char) : Naming.runsTogether "always".toList next = false :=
    Naming.runsTogether_eq_false_of_length (by decide)
  rw [Settled, hname, Naming.pascalCase_flatMap_capitalized_eq_iff hwords,
    KeptApart, KeptApart]
  cases words .unicode value.toList with
  | nil => simp
  | cons word later => rw [List.isChain_cons_cons, and_iff_right (hlong word)]

def Workshop.HasTable (workshop : Workshop) (table : SymbolTable) : Prop :=
  table = workshop.registry.symbols ∨ ∃ builder, table = workshop.tables builder

theorem Workshop.eq_of_name_eq {history : List Act} {table : SymbolTable}
    (htable : (after history).HasTable table) {a b : Symbol} (ha : a ∈ table)
    (hb : b ∈ table)
    (hname : a.name = b.name) : a = b := by
  have hnodup : table.names.Nodup := by
    rcases htable with rfl | ⟨builder, rfl⟩
    · exact (wellFormed_after history).shared.names_nodup
    · exact ((wellFormed_after history).own builder).names_nodup
  exact List.inj_on_of_nodup_map hnodup ha hb hname

theorem eq_of_typeIdent_of_settled {a b : String} {ident : Ident}
    (ha : typeIdent a = .ok ident) (hb : typeIdent b = .ok ident) (hsettled : Settled a)
    (hsettled' : Settled b) : a = b := by
  have htext : pascalCase a.toList = pascalCase b.toList := by
    rw [← text_of_typeIdent ha, ← text_of_typeIdent hb]
  rw [hsettled, hsettled'] at htext
  exact String.toList_injective htext

theorem letters_eq_of_typeIdent {a b : String} {ident : Ident}
    (ha : typeIdent a = .ok ident) (hb : typeIdent b = .ok ident)
    (hascii : IsAscii a.toList)
    (hascii' : IsAscii b.toList) : letters a.toList = letters b.toList := by
  rw [← Naming.map_toLower_pascalCase hascii, ← Naming.map_toLower_pascalCase hascii',
    ← text_of_typeIdent ha, ← text_of_typeIdent hb]

/-- After any history, the names of two symbols of a scope that have one type between them
agree up to case and the characters between words, and one of the names is not that of its
type.  Two constants never have one name.  The name of a constant is that of its type, just
if no two words of the value run together, and the constants of such values have different
types. -/
theorem type_names_of_history (history : List Act) :
    (∀ table, (Workshop.after history).HasTable table → ∀ a ∈ table, ∀ b ∈ table, ∀ ident,
      typeIdent a.name = .ok ident → typeIdent b.name = .ok ident →
        (IsAscii a.name.toList → IsAscii b.name.toList →
          letters a.name.toList = letters b.name.toList) ∧
        (Settled a.name → Settled b.name → a = b)) ∧
      ∀ u : Literal, .literal u ∈ (Workshop.after history).registry.symbols →
        u.name = literalName u.value ∧
        (IsAscii u.value.toList →
          (Settled u.name ↔ KeptApart (words .unicode u.value.toList))) ∧
        ∀ v : Literal, .literal v ∈ (Workshop.after history).registry.symbols →
          u.value ≠ v.value → u.name ≠ v.name ∧
          (IsAscii u.value.toList → IsAscii v.value.toList →
            KeptApart (words .unicode u.value.toList) →
            KeptApart (words .unicode v.value.toList) →
              ∀ ident, typeIdent u.name = .ok ident → typeIdent v.name ≠ .ok ident) := by
  have hnamed := Workshop.constantsNamed_after history
  have hsettles : ∀ w : Literal, .literal w ∈ (Workshop.after history).registry.symbols →
      IsAscii w.value.toList →
      (Settled w.name ↔ KeptApart (words .unicode w.value.toList)) := by
    intro w hw hascii
    rw [hnamed _ hw w rfl, settled_literalName_iff hascii]
  constructor
  · intro table htable a ha b hb ident hident hident'
    constructor
    · exact letters_eq_of_typeIdent hident hident'
    · intro hsettled hsettled'
      apply Workshop.eq_of_name_eq htable ha hb
      exact eq_of_typeIdent_of_settled hident hident' hsettled hsettled'
  · intro u hu
    refine ⟨hnamed _ hu u rfl, hsettles u hu, ?_⟩
    intro v hv hvalue
    have hne : u.name ≠ v.name := by
      intro hname
      have hsymbol := Workshop.eq_of_name_eq (.inl rfl) hu hv hname
      exact hvalue (congrArg Literal.value (Symbol.literal.inj hsymbol))
    refine ⟨hne, ?_⟩
    intro hascii hascii' hapart hapart' ident hident hident'
    have hsettled := (hsettles u hu hascii).2 hapart
    have hsettled' := (hsettles v hv hascii').2 hapart'
    exact hne (eq_of_typeIdent_of_settled hident hident' hsettled hsettled')

/-- The words of the second value run together in the name of its constant. -/
def clashingHistory : List Act :=
  [.direct (.internLiteral "ab"), .direct (.internLiteral "aB"),
   .build ⟨"page", 0⟩ (.addRecord "FooBar" ""),
   .build ⟨"page", 0⟩ (.addRecord "foo_bar" "")]

/-- Two constants, and two records of one document, that have one type between them. -/
theorem type_names_clash :
    (Workshop.after clashingHistory).registry.symbols =
        [.literal ⟨"AlwaysAb", "ab"⟩, .literal ⟨"AlwaysAB", "aB"⟩] ∧
      typeIdent "AlwaysAb" = .ok ⟨"AlwaysAb".toList, false⟩ ∧
      typeIdent "AlwaysAB" = .ok ⟨"AlwaysAb".toList, false⟩ ∧
      (Workshop.after clashingHistory).tables ⟨"page", 0⟩ =
        [.emptyRecord "FooBar" "" none, .emptyRecord "foo_bar" "" none] ∧
      typeIdent "FooBar" = .ok ⟨"FooBar".toList, false⟩ ∧
      typeIdent "foo_bar" = .ok ⟨"FooBar".toList, false⟩ := by
  decide +kernel

end DocContract
