import DocContract.Json.Record
import DocContract.Json.Writer
import Mathlib.Data.List.Forall2
import Mathlib.Data.List.TakeDrop

/-!
# Reading what was written

A reader takes the compact form of a value from the front of any text and leaves the rest.
Strings come back character by character, since every escape stands for the character that
was escaped.  Arrays, objects and records come back if their elements and members do; a
record must know its members and find each once.  A number comes back from the front of a
text that goes on with the next member or the end of an object.
-/

namespace DocContract.Json

/-- A reader takes a value that was written, and finds some result in it. -/
def ReadsBack {α : Type} (reader : Reader α) (value : Value) (result : α) : Prop :=
  ∀ rest, reader (value.compact ++ rest) = .ok (result, rest)

theorem skipBlank_cons {c : Char} (hc : isBlank c = false) (rest : List Char) :
    skipBlank (c :: rest) = c :: rest := by
  rw [skipBlank, List.dropWhile_cons_of_neg]
  simp [hc]

theorem hexDigit?_digitChar {n : Nat} (hn : n < 16) :
    hexDigit? (Nat.digitChar n) = some n := by
  revert n
  decide

/-- The code of a control character is read as the character. -/
theorem escape_code {c : Char} (hcontrol : c.toNat < 0x20) (rest : List Char) :
    escape ('u' :: '0' :: '0' :: Nat.digitChar (c.toNat / 16) ::
      Nat.digitChar (c.toNat % 16) ::
      rest) = .ok (c, rest) := by
  have hhigh : c.toNat / 16 < 16 := by omega
  have hlow : c.toNat % 16 < 16 := Nat.mod_lt _ (by omega)
  have hvalue : hexValue? '0' '0' (Nat.digitChar (c.toNat / 16))
    (Nat.digitChar (c.toNat % 16)) =
      some c.toNat := by
    have hzero : hexDigit? '0' = some 0 := rfl
    have hsum : 16 * (c.toNat / 16) + c.toNat % 16 = c.toNat := Nat.div_add_mod _ _
    simp [hexValue?, hzero, hexDigit?_digitChar hhigh, hexDigit?_digitChar hlow, hsum]
  have hfour : hexFour ('0' :: '0' :: Nat.digitChar (c.toNat / 16) ::
      Nat.digitChar (c.toNat % 16) :: rest) = .ok (c.toNat, rest) := by
    rw [hexFour, hvalue]
  have hsurrogate : ¬ 0xD800 ≤ c.toNat := by omega
  have hlate : ¬ 0xDC00 ≤ c.toNat := by omega
  simp [escape, hfour, hsurrogate, hlate, bind, Except.bind, pure, Except.pure]

/-- A character that was written takes one step to read. -/
theorem stringBody_escapeChar (c : Char) (fuel : Nat) (taken rest : List Char) :
    stringBody (fuel + 1) taken (escapeChar c ++ rest) =
      stringBody fuel (c :: taken) rest := by
  unfold escapeChar
  split
  · rfl
  · rfl
  · rfl
  · rfl
  · rfl
  · rfl
  · rfl
  · next hquote hbackslash _ _ _ _ _ =>
    by_cases hcontrol : c.toNat < 0x20
    · have hescape := escape_code hcontrol rest
      simp [hcontrol, stringBody, hescape, bind, Except.bind]
    · have hplain : c ≠ '"' := hquote
      have hplain' : c ≠ '\\' := hbackslash
      simp [hcontrol, stringBody, hplain, hplain']

theorem stringBody_written
    {s : List Char} {fuel : Nat} (hfuel : s.length < fuel) (taken rest : List Char) :
    stringBody fuel taken (s.flatMap escapeChar ++ '"' :: rest) =
      .ok (taken.reverse ++ s, rest) := by
  induction s generalizing fuel taken with
  | nil =>
      have hsome : fuel ≠ 0 := by omega
      obtain ⟨fuel, rfl⟩ := Nat.exists_eq_succ_of_ne_zero hsome
      simp [stringBody]
  | cons c s ih =>
      have hsome : fuel ≠ 0 := by omega
      obtain ⟨fuel, rfl⟩ := Nat.exists_eq_succ_of_ne_zero hsome
      have hfuel' : s.length < fuel := by simpa using hfuel
      rw [List.flatMap_cons, List.append_assoc, Nat.succ_eq_add_one, stringBody_escapeChar,
        ih hfuel']
      simp

theorem escapeChar_ne_nil (c : Char) : escapeChar c ≠ [] := by
  unfold escapeChar
  split
  case h_8 => split <;> simp
  all_goals simp

theorem length_le_escaped (s : List Char) : s.length ≤ (s.flatMap escapeChar).length := by
  induction s with
  | nil => simp
  | cons c s ih =>
      have hsome : 0 < (escapeChar c).length := List.length_pos_iff.2 (escapeChar_ne_nil c)
      simp only [List.flatMap_cons, List.length_append, List.length_cons]
      omega

theorem stringAfterQuote_written (s rest : List Char) :
    stringAfterQuote (s.flatMap escapeChar ++ '"' :: rest) = .ok (s, rest) := by
  have hlength := length_le_escaped s
  have hfuel : s.length < (s.flatMap escapeChar ++ '"' :: rest).length := by
    simp only [List.length_append, List.length_cons]
    omega
  exact stringBody_written hfuel [] rest

theorem writeText_append (s rest : List Char) :
    writeText s ++ rest = '"' :: (s.flatMap escapeChar ++ '"' :: rest) := by
  simp [writeText]

theorem readsBack_text (s : String) : ReadsBack text (.text s) s := by
  intro rest
  rw [Value.compact, writeText_append, text, chars, skipBlank_cons (c := '"') rfl]
  simp [stringAfterQuote_written, bind, Except.bind, pure, Except.pure]

theorem readsBack_flag (b : Bool) : ReadsBack flag (.flag b) b := by
  intro rest
  cases b with
  | false => rfl
  | true => rfl

theorem readsBack_choice
    {α : Type} {choices : List (String × α)} {name : String} {value : α}
    (hnamed : named choices name.toList = .ok value) :
    ReadsBack (choice choices) (.text name) value := by
  intro rest
  rw [Value.compact, writeText_append, choice, choiceBeside, skipBlank_cons (c := '"') rfl]
  simp [stringAfterQuote_written, hnamed, bind, Except.bind, pure, Except.pure]

/-- What comes after a member of an object: the next member, or the end of the object. -/
def EndsMember (rest : List Char) : Prop :=
  ∃ c later, rest = c :: later ∧ (c = ',' ∨ c = '\x7d')

theorem decimalValue_toString (n : Nat) : decimalValue (toString n).toList = n := by
  have hdigits : (toString n).toList = Nat.toDigits 10 n := by simp
  rw [hdigits]
  exact Nat.ofDigitChars_ten_toDigits

theorem isDigit_of_mem_toString {n : Nat} {c : Char} (hc : c ∈ (toString n).toList) :
    ('0' ≤ c && c ≤ '9') = true := by
  have hdigits : c ∈ Nat.toDigits 10 n := by simpa using hc
  have hdigit : c.isDigit = true :=
    Nat.isDigit_of_mem_toDigits (by omega) (by omega) hdigits
  simpa [Char.isDigit, Char.le_def] using hdigit

theorem exists_toString_eq (n : Nat) :
    ∃ c cs, (toString n).toList = c :: cs ∧ ('0' ≤ c && c ≤ '9') = true := by
  obtain ⟨c, cs, hdigits⟩ :=
    List.exists_cons_of_ne_nil (l := (toString n).toList) (by simp)
  refine ⟨c, cs, hdigits, isDigit_of_mem_toString (n := n) ?_⟩
  rw [hdigits]
  exact List.mem_cons_self

theorem digitChar_ne_zero {n : Nat} (hn : n < 10) (hzero : n ≠ 0) :
    Nat.digitChar n ≠ '0' := by
  revert n
  decide

/-- A number that is not zero does not begin with a zero. -/
theorem head?_toDigits {n : Nat} (hzero : n ≠ 0) :
    (Nat.toDigits 10 n).head? ≠ some '0' := by
  induction n using Nat.strongRecOn with
  | ind n ih =>
    rw [Nat.toDigits_eq_if (by omega)]
    by_cases hsmall : n < 10
    · rw [if_pos hsmall, List.head?_cons, ne_eq, Option.some.injEq]
      exact digitChar_ne_zero hsmall hzero
    · rw [if_neg hsmall, List.head?_append_of_ne_nil _ Nat.toDigits_ne_nil]
      exact ih (n / 10) (by omega) (by omega)

theorem positive_of_digit {c : Char} (hdigit : ('0' ≤ c && c ≤ '9') = true)
    (hzero : c ≠ '0') :
    ('1' ≤ c && c ≤ '9') = true := by
  have hcode : c.val.toNat ≠ 48 := fun hsame => hzero (Char.ext (UInt32.toNat_inj.1 hsame))
  simp only [Bool.and_eq_true, decide_eq_true_eq, Char.le_def, UInt32.le_iff_toNat_le]
    at hdigit ⊢
  have hlow : 48 ≤ c.val.toNat := hdigit.1
  exact ⟨show 49 ≤ c.val.toNat by omega, hdigit.2⟩

theorem ne_of_digit {c d : Char} (hdigit : ('0' ≤ c && c ≤ '9') = true)
    (hother : ('0' ≤ d && d ≤ '9') = false) : c ≠ d := by
  rintro rfl
  exact Bool.noConfusion (hdigit.symm.trans hother)

theorem isBlank_of_digit {c : Char} (hdigit : ('0' ≤ c && c ≤ '9') = true) :
    isBlank c = false := by
  have hspace : c ≠ ' ' := ne_of_digit hdigit (by decide)
  have hfeed : c ≠ '\n' := ne_of_digit hdigit (by decide)
  have htab : c ≠ '\t' := ne_of_digit hdigit (by decide)
  have hreturn : c ≠ '\r' := ne_of_digit hdigit (by decide)
  simp [isBlank, hspace, hfeed, htab, hreturn]

theorem length_toString_le {n : Nat} (hn : n < UInt64.size) :
    (toString n).toList.length ≤ 20 := by
  have hdigits : (toString n).toList = Nat.toDigits 10 n := by simp
  rw [hdigits, Nat.length_toDigits_le_iff (by omega) (by omega)]
  exact Nat.lt_trans hn (by decide)

/-- A number of 64 bits is in the range of a double. -/
theorem not_tooLarge {n : Nat} (hn : n < UInt64.size) :
    Numeral.tooLarge
      { negative := false, whole := (toString n).toList, fraction := none,
        exponent := none } =
        false := by
  have hlength := length_toString_le hn
  have hsmall : n < Nat.pow 2 1024 - Nat.pow 2 970 := Nat.lt_trans hn (by decide +kernel)
  simp only [Numeral.tooLarge, Option.getD_none, List.append_nil, List.length_nil,
    decimalValue_toString]
  split
  · rfl
  · split
    · omega
    · rw [if_pos (by decide), decide_eq_false_iff_not, Nat.not_le]
      exact (Nat.mul_one n).symm ▸ hsmall

section Numbers

variable {rest : List Char} (hends : EndsMember rest)

include hends

theorem digits_written (n : Nat) :
    digits ((toString n).toList ++ rest) = ((toString n).toList, rest) := by
  obtain ⟨c, later, rfl, hc⟩ := hends
  have hstops : ('0' ≤ c && c ≤ '9') = false := by
    rcases hc with rfl | rfl <;> decide
  have hgoes (d : Char) (hd : d ∈ (toString n).toList) : ('0' ≤ d && d ≤ '9') = true :=
    isDigit_of_mem_toString hd
  rw [digits, List.span_eq_takeWhile_dropWhile, List.takeWhile_append_of_pos hgoes,
    List.dropWhile_append_of_pos hgoes, List.takeWhile_cons_of_neg (by simp [hstops]),
    List.dropWhile_cons_of_neg (by simp [hstops]), List.append_nil]

theorem wholeDigits_written (early : Fault) (n : Nat) :
    wholeDigits early ((toString n).toList ++ rest) = .ok ((toString n).toList, rest) := by
  by_cases hzero : n = 0
  · subst hzero
    obtain ⟨c, later, rfl, rfl | rfl⟩ := hends <;> rfl
  · have hspan := digits_written hends n
    have hhead := head?_toDigits hzero
    obtain ⟨c, cs, hdigits, hdigit⟩ := exists_toString_eq n
    have hfirst : c ≠ '0' := by
      rintro rfl
      simp_all
    rw [hdigits, List.cons_append] at hspan
    rw [hdigits, List.cons_append, wholeDigits,
      if_pos (positive_of_digit hdigit hfirst), hspan]
    exact hfirst

theorem numeral_written (n : Nat) : numeral .truncated ((toString n).toList ++ rest) =
    .ok ({ negative := false, whole := (toString n).toList, fraction := none,
           exponent := none }, rest) := by
  have hwhole := wholeDigits_written hends .truncated n
  have hfraction : fractionPart .truncated rest = .ok (none, rest) := by
    obtain ⟨c, later, rfl, rfl | rfl⟩ := hends <;> rfl
  have hexponent : exponentPart .truncated rest = .ok (none, rest) := by
    obtain ⟨c, later, rfl, rfl | rfl⟩ := hends <;> rfl
  obtain ⟨c, cs, hdigits, hdigit⟩ := exists_toString_eq n
  rw [hdigits, List.cons_append] at hwhole ⊢
  have hsign : c ≠ '-' := ne_of_digit hdigit (by decide)
  simp [numeral, hsign, hwhole, hfraction, hexponent, bind, Except.bind, pure, Except.pure]

theorem natural_written {n : Nat} (hn : n < UInt64.size) :
    natural ((Value.natural n).compact ++ rest) = .ok (n, rest) := by
  have hnumeral := numeral_written hends n
  have hfits := not_tooLarge hn
  obtain ⟨c, cs, hdigits, hdigit⟩ := exists_toString_eq n
  have hvalue : decimalValue (c :: cs) = n := hdigits ▸ decimalValue_toString n
  have hbegins := skipBlank_cons (isBlank_of_digit hdigit)
  rw [hdigits] at hnumeral hfits
  rw [List.cons_append] at hnumeral
  rw [Value.compact, hdigits, List.cons_append]
  simp [natural, hbegins, beginsNumber, hdigit, number, hnumeral, hfits,
    Numeral.natural?, hvalue, hn, bind, Except.bind, pure, Except.pure]

end Numbers

/-! ## Arrays -/

/-- Elements as they are written, with a comma in front unless they are the first. -/
def Value.elementsFrom (first : Bool) : List Value → List Char
  | [] => []
  | value :: values =>
    (if first then [] else [',']) ++ value.compact ++ Value.elementsFrom false values

def Value.IsObject : Value → Prop
  | .object _ => True
  | _ => False

theorem Value.compactElements_eq (values : List Value) :
    Value.compactElements values = Value.elementsFrom true values := by
  induction values with
  | nil => simp [compactElements, elementsFrom]
  | cons value values ih =>
      cases values with
      | nil => simp [compactElements, elementsFrom]
      | cons next later =>
          rw [compactElements, ih]
          · simp [elementsFrom]
          · simp

theorem Value.IsObject.exists_compact_eq {value : Value} (hobject : value.IsObject) :
    ∃ cs, value.compact = '\x7b' :: cs := by
  cases value with
  | object members => exact ⟨_, by rw [compact, List.cons_append]⟩
  | null => exact hobject.elim
  | flag b => exact hobject.elim
  | natural n => exact hobject.elim
  | text s => exact hobject.elim
  | array elements => exact hobject.elim

theorem nextElement?_written
    {value : Value} (hobject : value.IsObject) (first : Bool) (rest : List Char) :
    nextElement? first ((if first then [] else [',']) ++ value.compact ++ rest) =
      .ok (some (value.compact ++ rest)) := by
  obtain ⟨cs, hcs⟩ := hobject.exists_compact_eq
  rw [hcs]
  cases first with
  | false => rfl
  | true => rfl

theorem length_le_elementsFrom (first : Bool) {values : List Value}
    (hobjects : ∀ value ∈ values, value.IsObject) :
    values.length ≤ (Value.elementsFrom first values).length := by
  induction values generalizing first with
  | nil => simp
  | cons value values ih =>
      rw [List.forall_mem_cons] at hobjects
      obtain ⟨cs, hcs⟩ := hobjects.1.exists_compact_eq
      have hlater := ih false hobjects.2
      simp only [Value.elementsFrom, hcs, List.length_append, List.length_cons]
      omega

section Elements

variable {α : Type} {reader : Reader α} {values : List Value} {results : List α}

theorem elements_written
    (hread : List.Forall₂ (ReadsBack reader) values results)
    (hobjects : ∀ value ∈ values, value.IsObject) (first : Bool) (rest : List Char)
    {fuel : Nat} (hfuel : values.length < fuel) :
    elements reader fuel first (Value.elementsFrom first values ++ ']' :: rest) =
      .ok (results, ']' :: rest) := by
  induction hread generalizing first fuel with
  | nil =>
      have hsome : fuel ≠ 0 := by omega
      obtain ⟨fuel, rfl⟩ := Nat.exists_eq_succ_of_ne_zero hsome
      rfl
  | cons hvalue hlater ih =>
      have hsome : fuel ≠ 0 := by omega
      obtain ⟨fuel, rfl⟩ := Nat.exists_eq_succ_of_ne_zero hsome
      rw [List.forall_mem_cons] at hobjects
      have hnext := nextElement?_written hobjects.1 first
      have hshorter := ih hobjects.2 false (by simpa using hfuel)
      rw [Value.elementsFrom, List.append_assoc, elements, hnext]
      simp [hvalue _, hshorter, bind, Except.bind, pure, Except.pure]

theorem readsBack_array
    (hread : List.Forall₂ (ReadsBack reader) values results)
    (hobjects : ∀ value ∈ values, value.IsObject) :
    ReadsBack (array reader) (.array values) results := by
  intro rest
  have hlength := length_le_elementsFrom true hobjects
  have hfuel : values.length <
      (Value.elementsFrom true values ++ ']' :: rest).length + 1 := by
    rw [List.length_append]
    omega
  have hwritten := elements_written hread hobjects true rest hfuel
  have hclose : closeArray (']' :: rest) = .ok rest := rfl
  rw [Value.compact, Value.compactElements_eq, List.cons_append, List.cons_append,
    List.append_assoc, List.singleton_append, array, skipBlank_cons (c := '[') rfl]
  simp only [hwritten, hclose, bind, Except.bind, pure, Except.pure]

end Elements

/-- Members as they are written, with a comma in front unless they are the first. -/
def Value.membersFrom (first : Bool) : List (String × Value) → List Char
  | [] => []
  | (key, value) :: members =>
    (if first then [] else [',']) ++ writeText key.toList ++ ':' :: value.compact ++
      Value.membersFrom false members

/-- A record knows all members of an object, finds each once, and is built from them. -/
inductive MembersRead {σ : Type} (known : List (Member σ)) :
    σ → List (String × Value) → σ → Prop where
  | nil {record : σ} : MembersRead known record [] record
  | cons {record next built : σ} {key : String} {value : Value}
      {members : List (String × Value)}
      {member : Member σ}
      (hfind : known.find? (fun member => member.name.toList == key.toList) = some member)
      (hnew : member.filled record = false)
      (hread : ∀ rest, EndsMember rest →
        member.read record (value.compact ++ rest) = .ok (next, rest))
      (hlater : MembersRead known next members built) :
      MembersRead known record ((key, value) :: members) built

theorem Value.compactMembers_eq (members : List (String × Value)) :
    Value.compactMembers members = Value.membersFrom true members := by
  induction members with
  | nil => simp [compactMembers, membersFrom]
  | cons member members ih =>
      obtain ⟨key, value⟩ := member
      cases members with
      | nil => simp [compactMembers, membersFrom]
      | cons next later =>
          rw [compactMembers, ih]
          · simp [membersFrom]
          · simp

theorem nextKey?_written (key : String) (first : Bool) (rest : List Char) :
    nextKey? first ((if first then [] else [',']) ++ writeText key.toList ++ rest) =
      .ok (some (key.toList.flatMap escapeChar ++ '"' :: rest)) := by
  rw [List.append_assoc, writeText_append]
  cases first with
  | false => rfl
  | true => rfl

theorem length_le_membersFrom (first : Bool) (members : List (String × Value)) :
    members.length ≤ (Value.membersFrom first members).length := by
  induction members generalizing first with
  | nil => simp
  | cons member members ih =>
      have hlater := ih false
      simp only [Value.membersFrom, List.length_append, List.length_cons]
      omega

theorem endsMember_membersFrom (members : List (String × Value)) (rest : List Char) :
    EndsMember (Value.membersFrom false members ++ '\x7d' :: rest) := by
  cases members with
  | nil => exact ⟨'\x7d', rest, rfl, .inr rfl⟩
  | cons member members => exact ⟨',', _, rfl, .inl rfl⟩

section Members

variable {σ α : Type} {known : List (Member σ)} {members : List (String × Value)}

theorem namedMembers_written
    {record built : σ} (hread : MembersRead known record members built) (first : Bool)
    (rest : List Char) {fuel : Nat} (hfuel : members.length < fuel) :
    namedMembers known fuel first record
      (Value.membersFrom first members ++ '\x7d' :: rest) =
      .ok (built, '\x7d' :: rest) := by
  induction hread generalizing first fuel with
  | nil =>
      have hsome : fuel ≠ 0 := by omega
      obtain ⟨fuel, rfl⟩ := Nat.exists_eq_succ_of_ne_zero hsome
      rfl
  | @cons record next built key value members member hfind hnew hread hlater ih =>
      have hsome : fuel ≠ 0 := by omega
      obtain ⟨fuel, rfl⟩ := Nat.exists_eq_succ_of_ne_zero hsome
      have hshorter := ih false (by simpa using hfuel)
      have hcolon : ∀ rest, colon (':' :: rest) = .ok rest := fun _ => rfl
      have hvalue := hread _ (endsMember_membersFrom members rest)
      rw [Value.membersFrom, List.append_assoc, List.append_assoc, namedMembers,
        nextKey?_written]
      simp [stringAfterQuote_written, hfind, hnew, hcolon, hvalue, hshorter,
        bind, Except.bind]

theorem readsBack_record
    {empty built : σ} {finish : σ → Option α} {result : α}
    (hread : MembersRead known empty members built)
    (hfinish : finish built = some result) :
    ReadsBack (record known empty finish) (.object members) result := by
  intro rest
  have hlength := length_le_membersFrom true members
  have hfuel : members.length <
      (Value.membersFrom true members ++ '\x7d' :: rest).length + 1 := by
    rw [List.length_append]
    omega
  have hwritten := namedMembers_written hread true rest hfuel
  have hclose : closeObject ('\x7d' :: rest) = .ok rest := rfl
  rw [Value.compact, Value.compactMembers_eq, List.cons_append, List.cons_append,
    List.append_assoc, List.singleton_append, record, skipBlank_cons (c := '\x7b') rfl]
  simp only [hwritten, hfinish, hclose, bind, Except.bind, pure, Except.pure]

end Members

section Fields

variable {σ α : Type} {get : σ → Option α} {set : σ → α → σ} {reader : Reader α}
    {value : Value}
  {result : α} {rest : List Char}

theorem read_ofField_of_reader (name : String) (record : σ)
    (hread : reader (value.compact ++ rest) = .ok (result, rest)) :
    (Member.ofField name get set reader).read record (value.compact ++ rest) =
      .ok (set record result, rest) := by
  simp [Member.ofField, hread, bind, Except.bind, pure, Except.pure]

theorem read_ofField (name : String) (hread : ReadsBack reader value result) (record : σ)
    (rest : List Char) (_ : EndsMember rest) :
    (Member.ofField name get set reader).read record (value.compact ++ rest) =
      .ok (set record result, rest) :=
  read_ofField_of_reader name record (hread rest)

end Fields

section Objects

variable {α : Type} {reader : Reader α} {named : List (String × Value)}
    {results : List (String × α)}
  (hread : List.Forall₂
    (fun member result => member.1 = result.1 ∧ ReadsBack reader member.2 result.2)
    named results)

include hread

theorem members_written (first : Bool) (rest : List Char) {fuel : Nat}
    (hfuel : named.length < fuel) :
    members reader fuel first (Value.membersFrom first named ++ '\x7d' :: rest) =
      .ok (results, '\x7d' :: rest) := by
  induction hread generalizing first fuel with
  | nil =>
      have hsome : fuel ≠ 0 := by omega
      obtain ⟨fuel, rfl⟩ := Nat.exists_eq_succ_of_ne_zero hsome
      rfl
  | @cons member result named results hmember _ ih =>
      obtain ⟨key, value⟩ := member
      obtain ⟨rfl, hvalue⟩ := hmember
      have hsome : fuel ≠ 0 := by omega
      obtain ⟨fuel, rfl⟩ := Nat.exists_eq_succ_of_ne_zero hsome
      have hshorter := ih false (by simpa using hfuel)
      have hcolon : ∀ rest, colon (':' :: rest) = .ok rest := fun _ => rfl
      rw [Value.membersFrom, List.append_assoc, List.append_assoc, members,
        nextKey?_written]
      simp [stringAfterQuote_written, hcolon, hvalue _, hshorter, bind, Except.bind,
        pure, Except.pure]

theorem readsBack_object : ReadsBack (object reader) (.object named) results := by
  intro rest
  have hlength := length_le_membersFrom true named
  have hfuel : named.length <
      (Value.membersFrom true named ++ '\x7d' :: rest).length + 1 := by
    rw [List.length_append]
    omega
  have hwritten := members_written hread true rest hfuel
  have hclose : closeObject ('\x7d' :: rest) = .ok rest := rfl
  rw [Value.compact, Value.compactMembers_eq, List.cons_append, List.cons_append,
    List.append_assoc, List.singleton_append, object, skipBlank_cons (c := '\x7b') rfl]
  simp only [hwritten, hclose, bind, Except.bind, pure, Except.pure]

end Objects

theorem readsBack_optional
    {α : Type} {reader : Reader α} {value : Value} {result : α} (hobject : value.IsObject)
    (hread : ReadsBack reader value result) :
    ReadsBack (optional reader) value (some result) := by
  intro rest
  obtain ⟨cs, hcs⟩ := hobject.exists_compact_eq
  have hbegins := skipBlank_cons (c := '\x7b') rfl (cs ++ rest)
  have hvalue := hread rest
  rw [hcs, List.cons_append] at hvalue ⊢
  simp [optional, hbegins, hvalue, bind, Except.bind, pure, Except.pure]

theorem readAll_compact
    {α : Type} {reader : Reader α} {value : Value} {result : α}
    (hread : ReadsBack reader value result) :
    readAll reader value.compact = .ok result := by
  have hvalue := hread []
  rw [List.append_nil] at hvalue
  rw [readAll, hvalue]
  rfl

theorem readAll_compact_line
    {α : Type} {reader : Reader α} {value : Value} {result : α}
    (hread : ReadsBack reader value result) :
    readAll reader (value.compact ++ ['\n']) = .ok result := by
  rw [readAll, hread ['\n']]
  rfl

/-- A text without control characters. -/
def Visible (cs : List Char) : Prop :=
  ∀ c ∈ cs, 0x20 ≤ c.toNat

@[simp] theorem visible_nil : Visible [] := by
  simp [Visible]

@[simp] theorem visible_cons {c : Char} {cs : List Char} :
    Visible (c :: cs) ↔ 0x20 ≤ c.toNat ∧ Visible cs := by
  simp [Visible]

@[simp] theorem visible_append {cs ds : List Char} :
    Visible (cs ++ ds) ↔ Visible cs ∧ Visible ds := by
  simp [Visible, or_imp, forall_and]

theorem le_toNat_digitChar {n : Nat} (hn : n < 16) : 0x20 ≤ (Nat.digitChar n).toNat := by
  revert n
  decide

theorem visible_escapeChar (c : Char) : Visible (escapeChar c) := by
  unfold escapeChar
  split
  case h_8 =>
    by_cases hcontrol : c.toNat < 0x20
    · have hhigh : c.toNat / 16 < 16 := by omega
      have hlow : c.toNat % 16 < 16 := Nat.mod_lt _ (by omega)
      simp [hcontrol, le_toNat_digitChar hhigh, le_toNat_digitChar hlow]
    · simp [hcontrol, Nat.le_of_not_lt hcontrol]
  all_goals simp

@[simp] theorem visible_writeText (s : List Char) : Visible (writeText s) := by
  have hbody : Visible (s.flatMap escapeChar) := by
    intro c hc
    obtain ⟨d, hd, hcd⟩ := List.mem_flatMap.1 hc
    exact visible_escapeChar d c hcd
  simp [writeText, hbody]

theorem visible_digits (n : Nat) : Visible (toString n).toList := by
  intro c hc
  have hdigits : c ∈ Nat.toDigits 10 n := by simpa using hc
  have hdigit : c.isDigit = true :=
    Nat.isDigit_of_mem_toDigits (by omega) (by omega) hdigits
  simp only [Char.isDigit, Bool.and_eq_true, decide_eq_true_eq, ge_iff_le,
    UInt32.le_iff_toNat_le] at hdigit
  have hlow : 48 ≤ c.toNat := hdigit.1
  omega

mutual

/-- Whatever is written, control characters in its texts are written by their codes. -/
theorem Value.visible_compact : ∀ value : Value, Visible value.compact
  | .null => by simp [compact]
  | .flag true => by simp [compact]
  | .flag false => by simp [compact]
  | .natural n => by simpa only [compact] using visible_digits n
  | .text s => by simp [compact]
  | .array elements => by simp [compact, Value.visible_compactElements elements]
  | .object members => by simp [compact, Value.visible_compactMembers members]

theorem Value.visible_compactElements :
    ∀ values : List Value, Visible (compactElements values)
  | [] => by simp [compactElements]
  | [value] => by simp [compactElements, Value.visible_compact value]
  | value :: next :: later => by
      have hlater := Value.visible_compactElements (next :: later)
      simp [compactElements, Value.visible_compact value, hlater]

theorem Value.visible_compactMembers :
    ∀ members : List (String × Value), Visible (compactMembers members)
  | [] => by simp [compactMembers]
  | [(key, value)] => by simp [compactMembers, Value.visible_compact value]
  | (key, value) :: next :: later => by
      have hlater := Value.visible_compactMembers (next :: later)
      simp [compactMembers, Value.visible_compact value, hlater]

end

end DocContract.Json
