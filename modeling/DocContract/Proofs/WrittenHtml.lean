import DocContract.Html.Tree
import Mathlib.Data.Bool.AllAny
import Mathlib.Data.List.TakeWhile

/-!
# Reading written HTML

What tags, attributes and raw text are read as when they were written with care: names of
small letters, values in double quotes that hold no such quote, and raw text without angle
brackets.
-/

namespace DocContract

theorem Text.splitAt?_of_not_mem
    {sep : Char} {cs : List Char} (hsep : sep ∉ cs) (rest : List Char) :
    Text.splitAt? sep (cs ++ sep :: rest) = some (cs, rest) := by
  induction cs with
  | nil => simp [splitAt?]
  | cons c cs ih =>
      rw [List.mem_cons, not_or] at hsep
      have hc : c ≠ sep := Ne.symm hsep.1
      simp [splitAt?, hc, ih hsep.2]

theorem Text.splitAt?_eq_some_iff {sep : Char} {text left right : List Char} :
    Text.splitAt? sep text = some (left, right) ↔ text = left ++ sep :: right ∧
      sep ∉ left := by
  constructor
  · intro hsplit
    induction text generalizing left with
    | nil => simp [splitAt?] at hsplit
    | cons c text ih =>
        rw [splitAt?] at hsplit
        by_cases hc : c = sep
        · rw [if_pos hc, Option.some.injEq, Prod.mk.injEq] at hsplit
          obtain ⟨rfl, rfl⟩ := hsplit
          simp [hc]
        · rw [if_neg hc, Option.map_eq_some_iff] at hsplit
          obtain ⟨⟨front, back⟩, hlater, heq⟩ := hsplit
          obtain ⟨rfl, rfl⟩ := Prod.mk.inj heq
          obtain ⟨rfl, hfront⟩ := ih hlater
          simp [Ne.symm hc, hfront]
  · rintro ⟨rfl, hsep⟩
    exact splitAt?_of_not_mem hsep right

/-- A text up to the first character that ends it. -/
theorem Text.span_until
    {ends : Char → Bool} {cs : List Char} (hcs : ∀ c ∈ cs, ends c = false) {c : Char}
    (hc : ends c = true) (rest : List Char) :
    (cs ++ c :: rest).takeWhile (!ends ·) = cs ∧
      (cs ++ c :: rest).dropWhile (!ends ·) = c :: rest := by
  have hkept : ∀ d ∈ cs, (!ends d) = true := by
    intro d hd
    rw [hcs d hd]
    rfl
  constructor
  · rw [List.takeWhile_append_of_pos hkept]
    simp [hc]
  · rw [List.dropWhile_append_of_pos hkept]
    simp [hc]

namespace Html

theorem normalizeLineEnds_cons {c : Char} (hc : c ≠ '\r') (cs : List Char) :
    normalizeLineEnds (c :: cs) = c :: normalizeLineEnds cs := by
  rw [normalizeLineEnds]
  · exact fun _ hreturn _ => hc hreturn
  · exact hc

theorem normalizeLineEnds_of_not_mem {cs : List Char} (hcs : '\r' ∉ cs)
    (rest : List Char) :
    normalizeLineEnds (cs ++ rest) = cs ++ normalizeLineEnds rest := by
  induction cs with
  | nil => rfl
  | cons c cs ih =>
      rw [List.mem_cons, not_or] at hcs
      have hc : c ≠ '\r' := Ne.symm hcs.1
      rw [List.cons_append, normalizeLineEnds_cons hc, ih hcs.2, List.cons_append]

theorem normalizeLineEnds_eq_self {cs : List Char} (hcs : '\r' ∉ cs) :
    normalizeLineEnds cs = cs := by
  have hnil := normalizeLineEnds_of_not_mem hcs []
  rwa [List.append_nil, normalizeLineEnds, List.append_nil] at hnil

/-- A line end that is in one text does not reach into the text after it. -/
theorem normalizeLineEnds_append {c : Char} (hc : c ≠ '\n') (cs rest : List Char) :
    normalizeLineEnds (cs ++ c :: rest) = normalizeLineEnds cs ++
      normalizeLineEnds (c :: rest) := by
  fun_induction normalizeLineEnds cs with
  | case1 => rfl
  | case2 cs ih => simp [normalizeLineEnds, ih]
  | case3 cs hnext ih =>
      have hlater : ∀ later, cs ++ c :: rest ≠ '\n' :: later := by
        intro later hlater
        cases cs with
        | nil => exact hc (List.cons.inj hlater).1
        | cons d cs => exact hnext cs (congrArg (· :: cs) (List.cons.inj hlater).1)
      rw [List.cons_append, normalizeLineEnds, ih, List.cons_append]
      exact hlater
  | case4 d cs hnext hd ih =>
      rw [List.cons_append, normalizeLineEnds_cons hd, ih, List.cons_append]

theorem mem_normalizeLineEnds {c : Char} {cs : List Char} (hc : c ∈ normalizeLineEnds cs) :
    c = '\n' ∨ c ∈ cs := by
  fun_induction normalizeLineEnds cs with
  | case1 => simp at hc
  | case2 cs ih => grind
  | case3 cs hnext ih => grind
  | case4 d cs hnext hd ih => grind

/-- A small letter, a digit or a hyphen. -/
def IsNameChar (c : Char) : Prop :=
  c.isLower ∨ c.isDigit ∨ c = '-'

instance : DecidablePred IsNameChar := fun c =>
  inferInstanceAs (Decidable (c.isLower ∨ c.isDigit ∨ c = '-'))

theorem IsNameChar.toNat_lt {c : Char} (hc : IsNameChar c) : c.toNat < 128 := by
  have hlower_iff : c.isLower = (decide ('a' ≤ c) && decide (c ≤ 'z')) := rfl
  simp only [IsNameChar, hlower_iff, Char.isDigit, Bool.and_eq_true, decide_eq_true_eq,
    UInt32.le_iff_toNat_le] at hc
  rcases hc with hlower | hdigit | rfl
  · have hbound : c.toNat ≤ 122 := hlower.2
    omega
  · have hbound : c.toNat ≤ 57 := hdigit.2
    omega
  · decide

/-- What is true of all these characters is seen by going through them. -/
theorem IsNameChar.forall_codes
    {P : Char → Prop} (hcodes : ∀ n < 128, IsNameChar (Char.ofNat n) → P (Char.ofNat n))
    {c : Char}
    (hc : IsNameChar c) : P c := by
  have hcode : Char.ofNat c.toNat = c := Char.ofNat_toNat c
  have hall := hcodes c.toNat hc.toNat_lt
  rw [hcode] at hall
  exact hall hc

/-- A name of small letters, digits and hyphens that begins with a letter. -/
structure IsPlainName (name : List Char) : Prop where
  chars : ∀ c ∈ name, IsNameChar c
  begins : ∃ c later, name = c :: later ∧ c.isLower = true

theorem not_isPlainName_nil : ¬IsPlainName [] := by
  intro hname
  obtain ⟨c, later, hnil, -⟩ := hname.begins
  exact List.cons_ne_nil c later hnil.symm

theorem isPlainName_cons_iff {c : Char} {later : List Char} :
    IsPlainName (c :: later) ↔
      (c :: later).all (fun d => decide (IsNameChar d)) = true ∧ c.isLower = true := by
  rw [List.all_iff_forall_prop]
  constructor
  · intro hname
    obtain ⟨_, _, heq, hlower⟩ := hname.begins
    rw [← (List.cons.inj heq).1] at hlower
    exact ⟨hname.chars, hlower⟩
  · intro ⟨hchars, hlower⟩
    exact ⟨hchars, c, later, rfl, hlower⟩

instance : DecidablePred IsPlainName
  | [] => isFalse not_isPlainName_nil
  | _ :: _ => decidable_of_iff _ isPlainName_cons_iff.symm

/-- A character that ends the name of an attribute. -/
def endsAttributeName (c : Char) : Bool :=
  isSpace c || c == '/' || c == '>' || c == '='

theorem IsNameChar.endsAttributeName_eq {c : Char} (hc : IsNameChar c) :
    endsAttributeName c = false :=
  IsNameChar.forall_codes (P := fun c => endsAttributeName c = false) (by decide) hc

theorem IsNameChar.nameChar_eq {c : Char} (hc : IsNameChar c) : nameChar c = c :=
  IsNameChar.forall_codes (P := fun c => nameChar c = c) (by decide) hc

theorem IsNameChar.toLower_eq {c : Char} (hc : IsNameChar c) : c.toLower = c :=
  IsNameChar.forall_codes (P := fun c => c.toLower = c) (by decide) hc

theorem IsNameChar.ne_return {c : Char} (hc : IsNameChar c) : c ≠ '\r' := by
  rintro rfl
  revert hc
  decide

theorem map_nameChar {name : List Char} (hname : IsPlainName name) :
    name.map nameChar = name := by
  have hsame : ∀ c ∈ name, nameChar c = id c := fun c hc => (hname.chars c hc).nameChar_eq
  rw [List.map_congr_left hsame, List.map_id]

theorem attributeName_written
    {name : List Char} (hname : IsPlainName name) (rest : List Char) :
    attributeName (name ++ '=' :: rest) = (name, '=' :: rest) := by
  have hplain : ∀ c ∈ name, endsAttributeName c = false :=
    fun c hc => (hname.chars c hc).endsAttributeName_eq
  obtain ⟨htaken, hleft⟩ := Text.span_until hplain (c := '=') rfl rest
  have hsame : name.map nameChar = name := map_nameChar hname
  have hbegins : ∀ other, name ++ '=' :: rest ≠ '=' :: other := by
    intro other hother
    obtain ⟨c, later, rfl, hlower⟩ := hname.begins
    have hc : c = '=' := (List.cons.inj hother).1
    rw [hc] at hlower
    contradiction
  rw [attributeName]
  · simp only [endsAttributeName] at htaken hleft
    simp only [htaken, hleft, hsame]
  · exact hbegins

theorem reference?_of_lookup
    {name chars : List Char} (hname : name.all isAsciiAlphanumeric = true)
    (hlookup : lookupName name = some chars) (rest : List Char) :
    reference? (name ++ ';' :: rest) = some (chars, rest) := by
  have hletters : (name ++ ';' :: rest).takeWhile isAsciiAlphanumeric = name := by
    rw [List.takeWhile_append_of_pos (List.all_eq_true.1 hname)]
    simp [isAsciiAlphanumeric]
  have hterminated : terminatedReference? (name ++ ';' :: rest) = some (chars, rest) := by
    simp [terminatedReference?, hletters, hlookup]
  have hnumber : ∀ digits, name ++ ';' :: rest ≠ '#' :: digits := by
    intro digits hdigits
    cases name with
    | nil => simp at hdigits
    | cons c name =>
        have hc : c = '#' := (List.cons.inj hdigits).1
        have hletter := List.all_eq_true.1 hname c List.mem_cons_self
        rw [hc] at hletter
        contradiction
  rw [reference?, namedReference?, hterminated]
  exact hnumber

theorem decodeValue_of_reference
    {cs chars rest : List Char} (hread : reference? cs = some (chars, rest)) :
    decodeValue ('&' :: cs) = chars ++ decodeValue rest := by
  rw [decodeValue]
  split
  · next other after hother =>
    rw [hread] at hother
    obtain ⟨rfl, rfl⟩ := Prod.mk.inj (Option.some.inj hother)
    rfl
  · next hnone =>
    rw [hread] at hnone
    contradiction

theorem decodeValue_cons
    {c : Char} (hamp : c ≠ '&') (hnull : c ≠ '\x00') (cs : List Char) :
    decodeValue (c :: cs) = c :: decodeValue cs := by
  rw [decodeValue]
  · exact hamp
  · exact hnull

/-! ## Raw text -/

theorem afterRawText_of_not_mem (name : String) {cs : List Char} (hcs : '<' ∉ cs)
    (rest : List Char) : afterRawText name (cs ++ rest) = afterRawText name rest := by
  induction cs with
  | nil => rfl
  | cons c cs ih =>
      rw [List.mem_cons, not_or] at hcs
      have hc : c ≠ '<' := Ne.symm hcs.1
      rw [List.cons_append, afterRawText, ih hcs.2]
      exact fun _ hbracket _ => hc hbracket

theorem attributeValue?_quoted {value : List Char} (hquote : '"' ∉ value)
    (rest : List Char) :
    attributeValue? ('"' :: (value ++ '"' :: rest)) = some (decodeValue value, rest) := by
  have hbegins : ('"' :: (value ++ '"' :: rest)).dropWhile isSpace =
      '"' :: (value ++ '"' :: rest) := rfl
  simp only [attributeValue?, hbegins, Text.splitAt?_of_not_mem hquote, Option.map_some]

/-- An attribute in double quotes is read, and what follows it is read as if it had not
been there, unless an attribute of the same name comes before it. -/
theorem tagRest?_attribute
    {attributes : List (List Char × List Char)} {name value : List Char}
    (hname : IsPlainName name) (hquote : '"' ∉ value)
    (hnew : attributes.lookup name = none) (fuel : Nat) (rest : List Char) :
    tagRest? (fuel + 1) attributes
      (' ' :: (name ++ '=' :: '"' :: (value ++ '"' :: rest))) =
      tagRest? fuel ((name, decodeValue value) :: attributes) rest := by
  have hread := attributeName_written hname ('"' :: (value ++ '"' :: rest))
  obtain ⟨c, later, rfl, -⟩ := hname.begins
  have hends := (hname.chars c List.mem_cons_self).endsAttributeName_eq
  simp only [endsAttributeName, Bool.or_eq_false_iff, beq_eq_false_iff_ne] at hends
  obtain ⟨⟨⟨hspace, hslash⟩, hbracket⟩, -⟩ := hends
  have hbegins :
    (' ' :: (c :: later ++ '=' :: '"' :: (value ++ '"' :: rest))).dropWhile isSpace =
      c :: later ++ '=' :: '"' :: (value ++ '"' :: rest) := by
    rw [List.dropWhile_cons_of_pos rfl, List.cons_append,
      List.dropWhile_cons_of_neg (by simp [hspace])]
  have hequals : ('=' :: '"' :: (value ++ '"' :: rest)).dropWhile isSpace =
      '=' :: '"' :: (value ++ '"' :: rest) := rfl
  rw [tagRest?, hbegins]
  split
  · next hnone => simp at hnone
  · next hclose => exact absurd (List.cons.inj hclose).1 hbracket
  · next hclose => exact absurd (List.cons.inj hclose).1 hslash
  · next hclose => exact absurd (List.cons.inj hclose).1 hslash
  · simp only [hread, hequals, attributeValue?_quoted hquote, hnew]
    rfl

/-- A character that ends the name of a tag. -/
def endsTagName (c : Char) : Bool :=
  isSpace c || c == '/' || c == '>'

def Tag.bare (name : String) : Tag :=
  { name, attributes := [], selfClosing := false }

section Tags

variable {name : String} (hname : IsPlainName name.toList)
include hname

theorem tag?_written
    {c : Char} {rest after : List Char} {attributes : List (List Char × List Char)}
    {selfClosing : Bool} (hends : endsTagName c = true)
    (hrest : tagRest? ((c :: rest).length + 1) [] (c :: rest) =
      some (attributes, selfClosing, after)) :
    tag? (name.toList ++ c :: rest) = some ({ name, attributes, selfClosing }, after) := by
  have hplain : ∀ d ∈ name.toList, endsTagName d = false := by
    intro d hd
    have hattribute := (hname.chars d hd).endsAttributeName_eq
    rw [endsAttributeName, Bool.or_eq_false_iff] at hattribute
    exact hattribute.1
  obtain ⟨htaken, hleft⟩ := Text.span_until hplain hends rest
  simp only [endsTagName] at htaken hleft
  simp only [tag?, htaken, hleft, map_nameChar hname, String.ofList_toList, hrest]
  rfl

theorem tag?_bare (rest : List Char) :
    tag? (name.toList ++ '>' :: rest) = some (Tag.bare name, rest) :=
  tag?_written hname rfl rfl

end Tags

section Tokens

variable {name : List Char} {later rest : List Char} {tag : Tag} (hname : IsPlainName name)
  (htag : tag? (name ++ later) = some (tag, rest))
include hname htag

theorem token?_start (foreign : Bool) :
    token? foreign ('<' :: (name ++ later)) = some (.start tag, rest) := by
  obtain ⟨c, behind, rfl, hlower⟩ := hname.begins
  have hletter : c.isAlpha = true := Bool.or_eq_true_iff.2 (.inr hlower)
  rw [List.cons_append] at htag ⊢
  rw [token?, if_pos hletter, htag]
  · rfl
  · rintro rfl
    contradiction
  · rintro rfl
    contradiction
  · rintro rest rfl
    contradiction
  · rintro d rest rfl
    contradiction

theorem token?_stop (foreign : Bool) :
    token? foreign ('<' :: '/' :: (name ++ later)) = some (.stop tag.name, rest) := by
  obtain ⟨c, behind, rfl, hlower⟩ := hname.begins
  have hletter : c.isAlpha = true := Bool.or_eq_true_iff.2 (.inr hlower)
  rw [List.cons_append] at htag ⊢
  rw [token?, if_pos hletter, htag]
  · rfl
  · rintro rfl
    contradiction

end Tokens

section Bare

variable {name : String} (hname : IsPlainName name.toList) (foreign : Bool)
    (rest : List Char)
include hname

theorem token?_start_bare :
    token? foreign ('<' :: (name.toList ++ '>' :: rest)) =
      some (.start (.bare name), rest) :=
  token?_start hname (tag?_bare hname rest) foreign

theorem token?_stop_bare :
    token? foreign ('<' :: '/' :: (name.toList ++ '>' :: rest)) =
      some (.stop name, rest) :=
  token?_stop hname (tag?_bare hname rest) foreign

end Bare

theorem token?_doctype (foreign : Bool) (rest : List Char) :
    token? foreign ("<!DOCTYPE html>".toList ++ rest) = some (.doctype, rest) := by
  simp [token?, markedDeclaration, afterBracket]

theorem token?_lineEnd (foreign : Bool) (rest : List Char) :
    token? foreign ('\n' :: '<' :: rest) = some (.text true, '<' :: rest) := by
  simp [token?, isSpace]

theorem afterRawText_close
    {name : String} (hname : IsPlainName name.toList) {cs : List Char} (hcs : '<' ∉ cs)
    (rest : List Char) :
    afterRawText name (cs ++ '<' :: '/' :: (name.toList ++ '>' :: rest)) = rest := by
  have hstarts : startsTagName name (name.toList ++ '>' :: rest) = true := by
    have hlower : name.toList.map Char.toLower = name.toList := by
      have hsame : ∀ c ∈ name.toList, c.toLower = id c :=
        fun c hc => (hname.chars c hc).toLower_eq
      rw [List.map_congr_left hsame, List.map_id]
    have hlength : name.length = name.toList.length := String.length_toList.symm
    simp [startsTagName, hlength, hlower]
  rw [afterRawText_of_not_mem name hcs, afterRawText, if_pos hstarts, tag?_bare hname]
  rfl

namespace Tree

/-- What a token that is read makes of a tree, and what comes after the token. -/
def accept (tree : Tree) (token : Token) : Tree × Content :=
  tree.take token (tree.opened.length + 20)

section Reading

variable {tree after : Tree} {name : String} {cs rest : List Char}

theorem read_token
    {token : Token} {content : Content}
    (htoken : ∀ foreign, token? foreign cs = some (token, rest))
    (haccept : tree.accept token = (after, content))
    (hshorter : (afterContentOf content rest).length < cs.length) :
    tree.read cs = after.read (afterContentOf content rest) := by
  rw [accept] at haccept
  rw [read]
  simp only [htoken, haccept, hshorter]
  rfl

theorem read_markup
    {token : Token} (htoken : ∀ foreign, token? foreign cs = some (token, rest))
    (haccept : tree.accept token = (after, .markup)) (hshorter : rest.length < cs.length) :
    tree.read cs = after.read rest :=
  read_token htoken haccept hshorter

section Tags

variable (hname : IsPlainName name.toList)
include hname

theorem read_start
    (haccept : tree.accept (.start (.bare name)) = (after, .markup)) :
    tree.read ('<' :: (name.toList ++ '>' :: rest)) = after.read rest := by
  have htoken := fun foreign => token?_start_bare hname foreign rest
  apply read_markup htoken haccept
  simp only [List.length_cons, List.length_append]
  omega

theorem read_stop
    (haccept : tree.accept (.stop name) = (after, .markup)) :
    tree.read ('<' :: '/' :: (name.toList ++ '>' :: rest)) = after.read rest := by
  have htoken := fun foreign => token?_stop_bare hname foreign rest
  apply read_markup htoken haccept
  simp only [List.length_cons, List.length_append]
  omega

/-- An element that holds raw text is read with its text and its closing tag. -/
theorem read_raw
    (haccept : tree.accept (.start (.bare name)) = (after, .raw name))
    {text : List Char} (htext : '<' ∉ text) :
    tree.read
        ('<' ::
         (name.toList ++ '>' :: (text ++ '<' :: '/' :: (name.toList ++ '>' :: rest)))) =
      after.read rest := by
  have htoken := fun foreign => token?_start_bare hname foreign
    (text ++ '<' :: '/' :: (name.toList ++ '>' :: rest))
  have hcontent : afterContentOf (.raw name)
      (text ++ '<' :: '/' :: (name.toList ++ '>' :: rest)) = rest :=
    afterRawText_close hname htext rest
  have hread := read_token htoken haccept
  rw [hcontent] at hread
  apply hread
  simp only [List.length_cons, List.length_append]
  omega

end Tags

theorem read_doctype (haccept : tree.accept .doctype = (after, .markup)) :
    tree.read ("<!DOCTYPE html>".toList ++ rest) = after.read rest := by
  have hlength : "<!DOCTYPE html>".toList.length = 15 := by decide
  apply read_markup (fun foreign => token?_doctype foreign rest) haccept
  rw [List.length_append, hlength]
  omega

theorem read_lineEnd (haccept : tree.accept (.text true) = (after, .markup)) :
    tree.read ('\n' :: '<' :: rest) = after.read ('<' :: rest) := by
  apply read_markup (fun foreign => token?_lineEnd foreign rest) haccept
  simp

theorem read_lastLineEnd (haccept : tree.accept (.text true) = (after, .markup)) :
    tree.read ['\n'] = after := by
  have htoken : ∀ foreign, token? foreign ['\n'] = some (.text true, []) := fun _ => rfl
  have hnil : after.read [] = after := by
    rw [read]
    rfl
  rw [read_markup htoken haccept (by simp), hnil]

end Reading

end Tree

end Html

end DocContract
