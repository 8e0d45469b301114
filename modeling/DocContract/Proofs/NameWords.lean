import DocContract.Naming.Identifier
import Mathlib.Data.List.Chain

/-!
# Words of names

The words of a name hold its letters and numbers in their order, and nothing else.  In an
ASCII name a capital is written for the first letter of each word; so the name of a type
has the letters and digits of the name that it is made of, up to their case.  When such a
name is taken for the name of another type it is split once more, and then a word of one
letter can run together with the next.
-/

namespace DocContract.Naming

theorem flatten_runs (p : Char → Bool) (text : List Char) :
    (runs p text).flatten = text.filter p := by
  fun_induction runs p text with
  | case1 => rfl
  | case2 c hc => simp [hc]
  | case3 c hc d rest hd hnone ih =>
      rw [hnone] at ih
      simp [hd] at ih
  | case4 c hc d rest hd run later hruns ih =>
      rw [hruns] at ih
      rw [List.filter_cons_of_pos hc, ← ih, hruns]
      rfl
  | case5 c hc d rest hd ih =>
      rw [List.filter_cons_of_pos hc, ← ih]
      rfl
  | case6 c cs hc ih => rw [List.filter_cons_of_neg hc, ih]

theorem runs_of_all {p : Char → Bool} {c : Char} {cs : List Char}
    (hall : ∀ d ∈ c :: cs, p d = true) : runs p (c :: cs) = [c :: cs] := by
  induction cs generalizing c with
  | nil => simp [runs, hall c (by simp)]
  | cons d ds ih =>
      rw [List.forall_mem_cons] at hall
      have hd : p d = true := hall.2 d (by simp)
      rw [runs, if_pos hall.1]
      simp only [hd, if_true, ih hall.2]

theorem splitCapitals_cons_cases (classes : CharClasses) (c : Char) (cs : List Char) :
    ∃ word later, splitCapitals classes (c :: cs) = (c :: word) :: later := by
  cases cs with
  | nil => exact ⟨[], [], rfl⟩
  | cons d ds =>
      simp only [splitCapitals]
      by_cases hbegins : beginsWord classes c d ds.head?
      · rw [if_pos hbegins]
        exact ⟨[], _, rfl⟩
      · rw [if_neg hbegins]
        split
        · exact ⟨[], [], rfl⟩
        · exact ⟨_, _, rfl⟩

theorem splitCapitals_cons (classes : CharClasses) (before c : Char) (cs : List Char) :
    ∃ word later, splitCapitals classes (c :: cs) = (c :: word) :: later ∧
      splitCapitals classes (before :: c :: cs) =
        if beginsWord classes before c cs.head? then [before] :: (c :: word) :: later
        else (before :: c :: word) :: later := by
  obtain ⟨word, later, hwords⟩ := splitCapitals_cons_cases classes c cs
  refine ⟨word, later, hwords, ?_⟩
  rw [splitCapitals, hwords]

theorem flatten_splitCapitals (classes : CharClasses) (text : List Char) :
    (splitCapitals classes text).flatten = text := by
  cases text with
  | nil => rfl
  | cons c cs =>
      induction cs generalizing c with
      | nil => rfl
      | cons d ds ih =>
          obtain ⟨word, later, hwords, hsplit⟩ := splitCapitals_cons classes c d ds
          have hrest := ih d
          rw [hwords] at hrest
          rw [hsplit]
          split
          · rw [List.flatten_cons, hrest]
            rfl
          · rw [List.flatten_cons, List.cons_append, ← List.flatten_cons, hrest]

theorem flatten_words (classes : CharClasses) (name : List Char) :
    (words classes name).flatten = name.filter classes.isAlphanumeric := by
  rw [← flatten_runs, words]
  induction runs classes.isAlphanumeric name with
  | nil => rfl
  | cons run later ih =>
      rw [List.flatMap_cons, List.flatten_append, flatten_splitCapitals, ih,
        List.flatten_cons]

theorem ne_nil_of_mem_splitCapitals {classes : CharClasses} {text word : List Char}
    (hmem : word ∈ splitCapitals classes text) : word ≠ [] := by
  cases text with
  | nil => simp [splitCapitals] at hmem
  | cons c cs =>
      induction cs generalizing c word with
      | nil =>
          obtain rfl := List.mem_singleton.1 hmem
          simp
      | cons d ds ih =>
          obtain ⟨first, later, hwords, hsplit⟩ := splitCapitals_cons classes c d ds
          have hrest {other : List Char} (hother : other ∈ later) : other ≠ [] := by
            apply ih d
            rw [hwords]
            exact List.mem_cons_of_mem _ hother
          rw [hsplit] at hmem
          split at hmem
          · rcases List.mem_cons.1 hmem with rfl | hmem
            · simp
            · rcases List.mem_cons.1 hmem with rfl | hmem
              · simp
              · exact hrest hmem
          · rcases List.mem_cons.1 hmem with rfl | hmem
            · simp
            · exact hrest hmem

theorem ne_nil_of_mem_words {classes : CharClasses} {name word : List Char}
    (hmem : word ∈ words classes name) : word ≠ [] := by
  obtain ⟨run, -, hword⟩ := List.mem_flatMap.1 hmem
  exact ne_nil_of_mem_splitCapitals hword

theorem mem_of_mem_words {classes : CharClasses} {name word : List Char}
    (hmem : word ∈ words classes name) {c : Char} (hc : c ∈ word) :
    c ∈ name ∧ classes.isAlphanumeric c = true := by
  have hflatten : c ∈ (words classes name).flatten := List.mem_flatten.2 ⟨word, hmem, hc⟩
  rwa [flatten_words, List.mem_filter] at hflatten

theorem words_of_all {classes : CharClasses} {text : List Char}
    (hall : ∀ c ∈ text, classes.isAlphanumeric c = true) :
    words classes text = splitCapitals classes text := by
  cases text with
  | nil => rfl
  | cons c cs => rw [words, runs_of_all hall, List.flatMap_singleton]

def IsAscii (text : List Char) : Prop :=
  ∀ c ∈ text, c.toNat < 128

theorem forall_ascii {P : Char → Prop} (hcodes : ∀ n < 128, P (Char.ofNat n)) {c : Char}
    (hc : c.toNat < 128) : P c := by
  have hall := hcodes c.toNat hc
  rwa [Char.ofNat_toNat] at hall

section Characters

variable {c : Char} (hc : c.toNat < 128)

include hc

theorem isAlphanumeric_ascii : CharClasses.unicode.isAlphanumeric c = c.isAlphanum :=
  forall_ascii (P := fun c => CharClasses.unicode.isAlphanumeric c = c.isAlphanum)
    (by decide +kernel) hc

theorem isUpper_ascii : CharClasses.unicode.isUpper c = c.isUpper :=
  forall_ascii (P := fun c => CharClasses.unicode.isUpper c = c.isUpper)
    (by decide +kernel) hc

theorem isLower_ascii : CharClasses.unicode.isLower c = c.isLower :=
  forall_ascii (P := fun c => CharClasses.unicode.isLower c = c.isLower)
    (by decide +kernel) hc

theorem isDigit_ascii : CharClasses.unicode.isDigit c = c.isDigit :=
  forall_ascii (P := fun c => CharClasses.unicode.isDigit c = c.isDigit)
    (by decide +kernel) hc

theorem toNat_toLower_lt : c.toLower.toNat < 128 :=
  forall_ascii (P := fun c => c.toLower.toNat < 128) (by decide) hc

theorem toNat_toUpper_lt : c.toUpper.toNat < 128 :=
  forall_ascii (P := fun c => c.toUpper.toNat < 128) (by decide) hc

theorem toUpper_toLower : c.toLower.toUpper = c.toUpper :=
  forall_ascii (P := fun c => c.toLower.toUpper = c.toUpper) (by decide) hc

theorem toLower_toUpper : c.toUpper.toLower = c.toLower :=
  forall_ascii (P := fun c => c.toUpper.toLower = c.toLower) (by decide) hc

theorem toLower_toLower : c.toLower.toLower = c.toLower :=
  forall_ascii (P := fun c => c.toLower.toLower = c.toLower) (by decide) hc

theorem toUpper_toUpper : c.toUpper.toUpper = c.toUpper :=
  forall_ascii (P := fun c => c.toUpper.toUpper = c.toUpper) (by decide) hc

theorem isUpper_toUpper : c.toUpper.isUpper = c.isAlpha :=
  forall_ascii (P := fun c => c.toUpper.isUpper = c.isAlpha) (by decide) hc

theorem isLower_toUpper : c.toUpper.isLower = false :=
  forall_ascii (P := fun c => c.toUpper.isLower = false) (by decide) hc

theorem isUpper_toLower : c.toLower.isUpper = false :=
  forall_ascii (P := fun c => c.toLower.isUpper = false) (by decide) hc

theorem isLower_toLower : c.toLower.isLower = c.isAlpha :=
  forall_ascii (P := fun c => c.toLower.isLower = c.isAlpha) (by decide) hc

theorem isDigit_toUpper : c.toUpper.isDigit = c.isDigit :=
  forall_ascii (P := fun c => c.toUpper.isDigit = c.isDigit) (by decide) hc

theorem isDigit_toLower : c.toLower.isDigit = c.isDigit :=
  forall_ascii (P := fun c => c.toLower.isDigit = c.isDigit) (by decide) hc

theorem isAlphanum_toLower : c.toLower.isAlphanum = c.isAlphanum :=
  forall_ascii (P := fun c => c.toLower.isAlphanum = c.isAlphanum) (by decide) hc

theorem isAlphanum_toUpper : c.toUpper.isAlphanum = c.isAlphanum :=
  forall_ascii (P := fun c => c.toUpper.isAlphanum = c.isAlphanum) (by decide) hc

theorem toUpper_eq_self_of_isUpper (hupper : c.isUpper = true) : c.toUpper = c :=
  forall_ascii (P := fun c => c.isUpper = true → c.toUpper = c) (by decide) hc hupper

theorem isDigit_of_isAlphanum (halphanum : c.isAlphanum = true) : c.isDigit = !c.isAlpha :=
  forall_ascii (P := fun c => c.isAlphanum = true → c.isDigit = !c.isAlpha)
    (by decide) hc halphanum

theorem toLower_eq_self_iff : c.toLower = c ↔ c.isUpper = false :=
  forall_ascii (P := fun c => c.toLower = c ↔ c.isUpper = false) (by decide) hc

end Characters

theorem lowercase_ascii {text : List Char} (hascii : IsAscii text) :
    Text.lowercase text = text.map Char.toLower := by
  have hgo : ∀ before, Text.lowercase.go before text = text.map Char.toLower := by
    induction text with
    | nil => exact fun _ => rfl
    | cons c cs ih =>
        obtain ⟨hc, hcs⟩ := List.forall_mem_cons.1 hascii
        intro before
        have hsigma : (c == 'Σ') = false := by
          rw [beq_eq_false_iff_ne]
          rintro rfl
          exact absurd hc (by decide)
        rw [Text.lowercase.go, hsigma, ih hcs]
        simp [Text.lowerForm, hc]
  exact hgo []

theorem capitalized_cons {c : Char} {cs : List Char} (hascii : IsAscii (c :: cs)) :
    capitalized (c :: cs) = c.toUpper :: cs.map Char.toLower := by
  have hc : c.toNat < 128 := hascii c (by simp)
  rw [capitalized, lowercase_ascii hascii, List.map_cons]
  simp [Text.upperForm, toNat_toLower_lt hc, toUpper_toLower hc]

theorem map_toLower_capitalized {word : List Char} (hascii : IsAscii word) :
    (capitalized word).map Char.toLower = word.map Char.toLower := by
  cases word with
  | nil => rfl
  | cons c cs =>
      obtain ⟨hc, hcs⟩ := List.forall_mem_cons.1 hascii
      rw [capitalized_cons hascii, List.map_cons, List.map_cons,
        toLower_toUpper hc, List.map_map]
      congr 1
      exact List.map_congr_left fun d hd => toLower_toLower (hcs d hd)

def letters (name : List Char) : List Char :=
  (name.filter Char.isAlphanum).map Char.toLower

theorem map_toLower_flatMap_capitalized {ws : List (List Char)}
    (hascii : ∀ word ∈ ws, IsAscii word) :
    (ws.flatMap capitalized).map Char.toLower = ws.flatten.map Char.toLower := by
  induction ws with
  | nil => rfl
  | cons word later ih =>
      obtain ⟨hword, hlater⟩ := List.forall_mem_cons.1 hascii
      rw [List.flatMap_cons, List.map_append, map_toLower_capitalized hword, ih hlater,
        List.flatten_cons, List.map_append]

theorem isAscii_of_mem_words {name word : List Char} (hascii : IsAscii name)
    (hmem : word ∈ words .unicode name) : IsAscii word :=
  fun c hc => hascii c (mem_of_mem_words hmem hc).1

/-- The name of a type has the letters and digits of the name that it is made of. -/
theorem map_toLower_pascalCase {name : List Char} (hascii : IsAscii name) :
    (pascalCase name).map Char.toLower = letters name := by
  have hwords : ∀ word ∈ words .unicode name, IsAscii word :=
    fun word hword => isAscii_of_mem_words hascii hword
  have hsame : name.filter CharClasses.unicode.isAlphanumeric =
      name.filter Char.isAlphanum :=
    List.filter_congr fun c hc => isAlphanumeric_ascii (hascii c hc)
  rw [pascalCase, map_toLower_flatMap_capitalized hwords, flatten_words, hsame, letters]

/-! ## Names made once more -/

/-- What becomes of the text behind a character when a name of letters and digits is made
once more: the capitals that begin no word become small. -/
def recased (before : Char) : List Char → List Char
  | [] => []
  | c :: cs =>
    (if beginsWord .unicode before c cs.head? then c else c.toLower) :: recased c cs

theorem flatMap_capitalized_splitCapitals {c : Char} {cs : List Char}
    (hascii : IsAscii (c :: cs)) :
    (splitCapitals .unicode (c :: cs)).flatMap capitalized = c.toUpper ::
      recased c cs := by
  induction cs generalizing c with
  | nil =>
      rw [splitCapitals, List.flatMap_singleton, capitalized_cons hascii]
      rfl
  | cons d ds ih =>
      obtain ⟨hc, hds⟩ := List.forall_mem_cons.1 hascii
      obtain ⟨word, later, hwords, hsplit⟩ := splitCapitals_cons .unicode c d ds
      have hword : ∀ e ∈ d :: word, e.toNat < 128 := by
        intro e he
        apply hds e
        rw [← flatten_splitCapitals .unicode (d :: ds), hwords, List.flatten_cons]
        exact List.mem_append_left _ he
      have hrest := ih hds
      rw [hwords, List.flatMap_cons, capitalized_cons hword] at hrest
      rw [hsplit, recased]
      by_cases hbegins : beginsWord .unicode c d ds.head?
      · have hupper : d.isUpper = true := by
          rw [← isUpper_ascii (hds d (by simp))]
          exact (Bool.and_eq_true_iff.1 hbegins).1
        have hd : d.toUpper = d := toUpper_eq_self_of_isUpper (hds d (by simp)) hupper
        rw [if_pos hbegins, if_pos hbegins, List.flatMap_cons, List.flatMap_cons,
          capitalized_cons hword, hrest, hd,
          capitalized_cons (by simpa [IsAscii] using hc)]
        rfl
      · have hlater := (List.cons.inj hrest).2
        have hfirst : IsAscii (c :: d :: word) := List.forall_mem_cons.2 ⟨hc, hword⟩
        rw [if_neg hbegins, if_neg hbegins, List.flatMap_cons,
          capitalized_cons hfirst, ← hlater]
        rfl

theorem recased_append_of_small {before : Char} {small : List Char}
    (hsmall : ∀ c ∈ small, c.toNat < 128 ∧ c.isUpper = false) (rest : List Char) :
    recased before (small ++ rest) = small ++ recased (small.getLastD before) rest := by
  induction small generalizing before with
  | nil => rfl
  | cons c small ih =>
      obtain ⟨⟨hc, hupper⟩, hlater⟩ := List.forall_mem_cons.1 hsmall
      have hlower : c.toLower = c := (toLower_eq_self_iff hc).2 hupper
      rw [List.cons_append, recased, hlower, ite_self, ih hlater, List.getLastD_cons,
        List.cons_append]

structure IsWord (word : List Char) : Prop where
  ne_nil : word ≠ []
  chars : ∀ c ∈ word, c.toNat < 128 ∧ c.isAlphanum = true

theorem IsWord.isAscii {word : List Char} (hword : IsWord word) : IsAscii word :=
  fun c hc => (hword.chars c hc).1

theorem IsWord.exists_cons {word : List Char} (hword : IsWord word) :
    ∃ c cs, word = c :: cs ∧ c.toNat < 128 :=
  match word, hword with
  | [], hword => absurd rfl hword.ne_nil
  | c :: cs, hword => ⟨c, cs, rfl, (hword.chars c (by simp)).1⟩

theorem IsWord.tail_small {c : Char} {cs : List Char} (hword : IsWord (c :: cs)) :
    ∀ d ∈ cs.map Char.toLower, d.toNat < 128 ∧ d.isUpper = false := by
  rw [List.forall_mem_map]
  intro d hd
  have hcode : d.toNat < 128 := (hword.chars d (by simp [hd])).1
  exact ⟨toNat_toLower_lt hcode, isUpper_toLower hcode⟩

theorem isWord_of_mem_words {name word : List Char} (hascii : IsAscii name)
    (hmem : word ∈ words .unicode name) : IsWord word := by
  constructor
  · exact ne_nil_of_mem_words hmem
  · intro c hc
    obtain ⟨hname, halphanumeric⟩ := mem_of_mem_words hmem hc
    rw [isAlphanumeric_ascii (hascii c hname)] at halphanumeric
    exact ⟨hascii c hname, halphanumeric⟩

/-- Whether the capital of a word is taken for a part of the word before it: both are
letters, the word before it has no other, and no letter follows. -/
def runsTogether : List Char → List Char → Bool
  | [a], b :: cs => a.isAlpha && b.isAlpha && !cs.head?.any Char.isAlpha
  | _, _ => false

def KeptApart (ws : List (List Char)) : Prop :=
  ws.IsChain fun word next => runsTogether word next = false

theorem getLastD_capitalized {word : List Char} (hword : IsWord word) (before : Char) :
    (∃ a, word = [a] ∧ (capitalized word).getLastD before = a.toUpper) ∨
      ∃ b ∈ word, 1 < word.length ∧ (capitalized word).getLastD before = b.toLower := by
  match word, hword with
  | [], hword => exact absurd rfl hword.ne_nil
  | [a], hword =>
      refine Or.inl ⟨a, rfl, ?_⟩
      rw [capitalized_cons hword.isAscii]
      rfl
  | a :: b :: cs, hword =>
      have hlast : cs.getLastD b ∈ b :: cs := List.getLastD_mem_cons
      refine Or.inr ⟨cs.getLastD b, List.mem_cons_of_mem _ hlast, by simp, ?_⟩
      rw [capitalized_cons hword.isAscii, List.getLastD_cons, List.map_cons,
        List.getLastD_cons]
      simp [List.getLastD_eq_getLast?]

theorem runsTogether_eq_false_of_length {word next : List Char} (hlong : 1 < word.length) :
    runsTogether word next = false := by
  match word, hlong with
  | _ :: _ :: _, _ => rfl

theorem head?_any_isLower {cs rest : List Char} (hcs : ∀ c ∈ cs, c.toNat < 128)
    (hrest : ∀ d ∈ rest.head?, d.toNat < 128 ∧ d.isLower = false) :
    (cs.map Char.toLower ++ rest).head?.any CharClasses.unicode.isLower =
      cs.head?.any Char.isAlpha := by
  cases cs with
  | nil =>
      cases hhead : rest.head? with
      | none => simp [hhead]
      | some d =>
          obtain ⟨hd, hlower⟩ := hrest d hhead
          simp [hhead, isLower_ascii hd, hlower]
  | cons d ds =>
      have hd : d.toNat < 128 := hcs d (by simp)
      simp [isLower_ascii (toNat_toLower_lt hd), isLower_toLower hd]

theorem beginsWord_capitalized_iff {word : List Char} {c : Char} {cs rest : List Char}
    (hword : IsWord word) (hnext : IsWord (c :: cs)) (before : Char)
    (hrest : ∀ d ∈ rest.head?, d.toNat < 128 ∧ d.isLower = false) :
    (c.isAlpha = true → beginsWord .unicode ((capitalized word).getLastD before) c.toUpper
      (cs.map Char.toLower ++ rest).head? = true) ↔
        runsTogether word (c :: cs) = false := by
  obtain ⟨hc, hcs⟩ := List.forall_mem_cons.1 hnext.isAscii
  have hupper : CharClasses.unicode.isUpper c.toUpper = c.isAlpha := by
    rw [isUpper_ascii (toNat_toUpper_lt hc), isUpper_toUpper hc]
  have hafter := head?_any_isLower hcs hrest
  -- A word of one letter ends in its capital, and any other in a small letter or a digit.
  rcases getLastD_capitalized hword before with ⟨a, rfl, hlast⟩ | ⟨b, hb, hlong, hlast⟩
  · obtain ⟨ha, halphanum⟩ := hword.chars a (by simp)
    have hdigit : a.isDigit = !a.isAlpha := isDigit_of_isAlphanum ha halphanum
    have hcode : a.toUpper.toNat < 128 := toNat_toUpper_lt ha
    rw [hlast, beginsWord, hupper, hafter, isLower_ascii hcode, isDigit_ascii hcode,
      isUpper_ascii hcode, isLower_toUpper ha, isDigit_toUpper ha,
      isUpper_toUpper ha, hdigit, runsTogether]
    cases c.isAlpha <;> cases a.isAlpha <;> cases cs.head?.any Char.isAlpha <;> decide
  · obtain ⟨hb, halphanum⟩ := hword.chars b hb
    have hcode : b.toLower.toNat < 128 := toNat_toLower_lt hb
    have hsmall :
        (CharClasses.unicode.isLower b.toLower || CharClasses.unicode.isDigit b.toLower) =
          true := by
      rw [isLower_ascii hcode, isDigit_ascii hcode, isLower_toLower hb, isDigit_toLower hb]
      exact halphanum
    rw [runsTogether_eq_false_of_length hlong, hlast, beginsWord, hupper, hsmall]
    simp

theorem head?_flatMap_capitalized {ws : List (List Char)}
    (hws : ∀ word ∈ ws, IsWord word) :
    ∀ d ∈ (ws.flatMap capitalized).head?, d.toNat < 128 ∧ d.isLower = false := by
  cases ws with
  | nil => simp
  | cons word later =>
      obtain ⟨hword, -⟩ := List.forall_mem_cons.1 hws
      obtain ⟨c, cs, rfl, hc⟩ := hword.exists_cons
      rw [List.flatMap_cons, capitalized_cons hword.isAscii, List.cons_append,
        List.head?_cons]
      rintro _ ⟨⟩
      exact ⟨toNat_toUpper_lt hc, isLower_toUpper hc⟩

theorem recased_flatMap_capitalized_eq_iff {word : List Char} {ws : List (List Char)}
    (hword : IsWord word) (hws : ∀ next ∈ ws, IsWord next) (before : Char) :
    recased ((capitalized word).getLastD before) (ws.flatMap capitalized) =
        ws.flatMap capitalized ↔ KeptApart (word :: ws) := by
  induction ws generalizing word before with
  | nil => simp [recased, KeptApart]
  | cons next ws ih =>
      obtain ⟨hnext, hlater⟩ := List.forall_mem_cons.1 hws
      obtain ⟨c, cs, rfl, hc⟩ := hnext.exists_cons
      have hbegins := beginsWord_capitalized_iff hword hnext before
        (head?_flatMap_capitalized hlater)
      have hrest := ih hnext hlater before
      rw [capitalized_cons hnext.isAscii, List.getLastD_cons] at hrest
      rw [KeptApart, List.isChain_cons_cons, ← hbegins, ← KeptApart, ← hrest,
        List.flatMap_cons, capitalized_cons hnext.isAscii, List.cons_append, recased,
        recased_append_of_small hnext.tail_small, List.cons.injEq,
        List.append_cancel_left_eq]
      apply and_congr_left'
      -- The capital stays as it is, just if it begins a word or is no letter.
      rw [← isUpper_toUpper hc, ite_eq_left_iff, toLower_eq_self_iff (toNat_toUpper_lt hc),
        ← Bool.not_eq_true, not_imp_not]

theorem flatMap_capitalized_chars {ws : List (List Char)}
    (hws : ∀ word ∈ ws, IsWord word) :
    ∀ c ∈ ws.flatMap capitalized, c.toNat < 128 ∧ c.isAlphanum = true := by
  intro c hc
  obtain ⟨word, hmem, hc⟩ := List.mem_flatMap.1 hc
  have hword := hws word hmem
  obtain ⟨first, rest, rfl, hfirst⟩ := hword.exists_cons
  rw [capitalized_cons hword.isAscii, List.mem_cons, List.mem_map] at hc
  rcases hc with rfl | ⟨d, hd, rfl⟩
  · have halphanum := (hword.chars first (by simp)).2
    exact ⟨toNat_toUpper_lt hfirst, (isAlphanum_toUpper hfirst).trans halphanum⟩
  · obtain ⟨hcode, halphanum⟩ := hword.chars d (by simp [hd])
    exact ⟨toNat_toLower_lt hcode, (isAlphanum_toLower hcode).trans halphanum⟩

/-- Capitalized words make the name of a type that stays as it is, just if no two of them
run together. -/
theorem pascalCase_flatMap_capitalized_eq_iff {ws : List (List Char)}
    (hws : ∀ word ∈ ws, IsWord word) :
    pascalCase (ws.flatMap capitalized) = ws.flatMap capitalized ↔ KeptApart ws := by
  cases ws with
  | nil => simp [pascalCase, words, runs, KeptApart]
  | cons word later =>
      obtain ⟨hword, hlater⟩ := List.forall_mem_cons.1 hws
      have hchars := flatMap_capitalized_chars hws
      have hall : ∀ c ∈ (word :: later).flatMap capitalized,
          CharClasses.unicode.isAlphanumeric c = true := by
        intro c hc
        rw [isAlphanumeric_ascii (hchars c hc).1]
        exact (hchars c hc).2
      have hascii : IsAscii ((word :: later).flatMap capitalized) :=
        fun c hc => (hchars c hc).1
      obtain ⟨c, cs, rfl, hc⟩ := hword.exists_cons
      have hrest := recased_flatMap_capitalized_eq_iff hword hlater c
      rw [capitalized_cons hword.isAscii, List.getLastD_cons] at hrest
      rw [pascalCase, words_of_all hall]
      rw [List.flatMap_cons, capitalized_cons hword.isAscii, List.cons_append] at hascii ⊢
      rw [flatMap_capitalized_splitCapitals hascii, toUpper_toUpper hc,
        recased_append_of_small hword.tail_small, ← hrest, List.cons.injEq,
        List.append_cancel_left_eq, and_iff_right rfl]

end DocContract.Naming
