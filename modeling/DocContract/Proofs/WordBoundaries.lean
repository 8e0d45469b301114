import DocContract.Proofs.NameWords

/-!
# Where words of names end

Splitting a name into words drops the characters between words and nothing else.  A word
ends at the end of a run of letters and numbers, and inside a run in front of a capital
that follows a small letter or a digit, or that follows a capital and has a small letter of
the same run behind it.  What the characters around the two are makes no difference.
-/

namespace DocContract.Naming

/-- The number of the word that holds a character, where the characters are counted through
all words. -/
def wordOf : List (List Char) → Nat → Nat
  | [], _ => 0
  | word :: later, n => if n < word.length then 0 else wordOf later (n - word.length) + 1

theorem wordOf_cons_succ (c : Char) (word : List Char)
    (later : List (List Char)) (n : Nat) :
    wordOf ((c :: word) :: later) (n + 1) = wordOf (word :: later) n := by
  simp [wordOf]

theorem wordOf_nil_cons (later : List (List Char)) (n : Nat) :
    wordOf ([] :: later) n = wordOf later n + 1 := by
  simp [wordOf]

section Runs

variable {p : Char → Bool}

theorem runs_cons_of_neg {c : Char} (hc : p c = false) (cs : List Char) :
    runs p (c :: cs) = runs p cs := by
  cases cs <;> simp [runs, hc]

theorem runs_cons_of_pos {c : Char} (hc : p c = true) (cs : List Char) :
    runs p (c :: cs) = (c :: cs.takeWhile p) :: runs p (cs.dropWhile p) := by
  induction cs generalizing c with
  | nil => simp [runs, hc]
  | cons d ds ih =>
      rw [runs, if_pos hc]
      cases hd : p d with
      | true => simp only [if_true, ih hd, List.takeWhile_cons_of_pos hd,
          List.dropWhile_cons_of_pos hd]
      | false => simp [hd]

theorem runs_append_of_neg {separator : Char} (hseparator : p separator = false)
    (before after : List Char) :
    runs p (before ++ separator :: after) = runs p before ++ runs p after := by
  induction before with
  | nil => exact runs_cons_of_neg hseparator after
  | cons c cs ih =>
      rw [List.cons_append]
      cases hc : p c with
      | false => rw [runs_cons_of_neg hc, runs_cons_of_neg hc, ih]
      | true =>
          cases cs with
          | nil => simp [runs, hc, hseparator]
          | cons d ds =>
              rw [List.cons_append] at ih ⊢
              rw [runs, runs, if_pos hc, if_pos hc, ih]
              cases hd : p d with
              | false => rfl
              | true => simp only [if_true, runs_cons_of_pos hd, List.cons_append]

end Runs

section Words

variable {classes : CharClasses}

theorem words_cons_of_neg {c : Char} (hc : classes.isAlphanumeric c = false)
    (cs : List Char) :
    words classes (c :: cs) = words classes cs := by
  rw [words, runs_cons_of_neg hc, words]

theorem words_cons_of_pos {c : Char} (hc : classes.isAlphanumeric c = true)
    (cs : List Char) :
    words classes (c :: cs) =
      splitCapitals classes (c :: cs.takeWhile classes.isAlphanumeric) ++
        words classes (cs.dropWhile classes.isAlphanumeric) := by
  rw [words, runs_cons_of_pos hc, List.flatMap_cons, words]

theorem words_append_of_neg {separator : Char}
    (hseparator : classes.isAlphanumeric separator = false)
    (before after : List Char) :
    words classes (before ++ separator :: after) = words classes before ++
      words classes after := by
  rw [words, runs_append_of_neg hseparator, List.flatMap_append, words, words]

/-- Of two neighbours in a run the first makes a word of its own, or it joins the word of
the second. -/
theorem words_cons_cons {c d : Char} (hc : classes.isAlphanumeric c = true)
    (hd : classes.isAlphanumeric d = true) (after : List Char) :
    ∃ word later, words classes (d :: after) = (d :: word) :: later ∧
      words classes (c :: d :: after) =
        if beginsWord classes c d (after.head?.filter classes.isAlphanumeric)
          then [c] :: (d :: word) :: later
        else (c :: d :: word) :: later := by
  obtain ⟨word, later, hwords, hsplit⟩ :=
    splitCapitals_cons classes c d (after.takeWhile classes.isAlphanumeric)
  rw [List.head?_takeWhile] at hsplit
  refine ⟨word, later ++ words classes (after.dropWhile classes.isAlphanumeric), ?_, ?_⟩
  · rw [words_cons_of_pos hd, hwords, List.cons_append]
  · rw [words_cons_of_pos hc, List.takeWhile_cons_of_pos hd,
      List.dropWhile_cons_of_pos hd, hsplit]
    split <;> rfl

theorem words_cons_cases {c : Char} (hc : classes.isAlphanumeric c = true)
    (cs : List Char) :
    words classes (c :: cs) = [c] :: words classes cs ∨
      ∃ word later, words classes cs = word :: later ∧
        words classes (c :: cs) = (c :: word) :: later := by
  cases cs with
  | nil =>
      left
      rw [words_cons_of_pos hc]
      rfl
  | cons d ds =>
      cases hd : classes.isAlphanumeric d with
      | false =>
          left
          rw [words_cons_of_pos hc, List.takeWhile_cons_of_neg (by simp [hd]),
            List.dropWhile_cons_of_neg (by simp [hd])]
          rfl
      | true =>
          obtain ⟨word, later, hrest, hwords⟩ := words_cons_cons hc hd ds
          rw [hrest]
          split at hwords
          · exact .inl hwords
          · exact .inr ⟨_, _, rfl, hwords⟩

/-- A character in front does not change which of the others are in one word. -/
theorem wordOf_words_cons {c : Char} (hc : classes.isAlphanumeric c = true)
    (cs : List Char)
    (n m : Nat) :
    wordOf (words classes (c :: cs)) (n + 1) = wordOf (words classes (c :: cs)) (m + 1) ↔
      wordOf (words classes cs) n = wordOf (words classes cs) m := by
  rcases words_cons_cases hc cs with hwords | ⟨word, later, hrest, hwords⟩
  · rw [hwords, wordOf_cons_succ, wordOf_cons_succ, wordOf_nil_cons, wordOf_nil_cons,
      Nat.add_right_cancel_iff]
  · rw [hwords, hrest, wordOf_cons_succ, wordOf_cons_succ]

theorem wordOf_ne_iff_beginsWord {c d : Char} (hc : classes.isAlphanumeric c = true)
    (hd : classes.isAlphanumeric d = true) (before after : List Char) :
    wordOf (words classes (before ++ c :: d :: after))
        (before.filter classes.isAlphanumeric).length ≠
      wordOf (words classes (before ++ c :: d :: after))
        ((before.filter classes.isAlphanumeric).length + 1) ↔
      beginsWord classes c d (after.head?.filter classes.isAlphanumeric) = true := by
  induction before with
  | nil =>
      obtain ⟨word, later, -, hwords⟩ := words_cons_cons hc hd after
      rw [List.nil_append, hwords, List.filter_nil, List.length_nil]
      split
      · next hbegins => simp [wordOf, hbegins]
      · next hjoins => simp [wordOf, hjoins]
  | cons b before ih =>
      rw [List.cons_append]
      cases hb : classes.isAlphanumeric b with
      | false => rw [List.filter_cons_of_neg (by simp [hb]), words_cons_of_neg hb, ih]
      | true =>
          rw [List.filter_cons_of_pos hb, List.length_cons, ne_eq,
            wordOf_words_cons hb, ← ne_eq, ih]

end Words

theorem beginsWord_iff (classes : CharClasses) (c d : Char) (after : List Char) :
    beginsWord classes c d (after.head?.filter classes.isAlphanumeric) = true ↔
      classes.isUpper d = true ∧ (classes.isLower c = true ∨ classes.isDigit c = true) ∨
        classes.isUpper c = true ∧ classes.isUpper d = true ∧
          ∃ e later, after = e :: later ∧ classes.isAlphanumeric e = true ∧
            classes.isLower e = true := by
  have hnext : (after.head?.filter classes.isAlphanumeric).any classes.isLower = true ↔
      ∃ e later, after = e :: later ∧ classes.isAlphanumeric e = true ∧
        classes.isLower e = true := by
    cases after with
    | nil => simp
    | cons e later => cases he : classes.isAlphanumeric e <;> simp [he]
  rw [beginsWord, ← hnext]
  simp only [Bool.and_eq_true, Bool.or_eq_true]
  tauto

/-- The words of a name hold its letters and numbers in their order, at least one each.
Two neighbours are in different words just if the second is a capital and the first a small
letter or a digit, or both are capitals and a small letter comes next.  What is neither a
letter nor a number divides the name into two that are split apart from each other. -/
theorem words_divide_name (classes : CharClasses) (name : List Char) :
    (∀ word ∈ words classes name,
      word ≠ [] ∧ ∀ c ∈ word, classes.isAlphanumeric c = true) ∧
    (words classes name).flatten = name.filter classes.isAlphanumeric ∧
    (∀ before c d after, name = before ++ c :: d :: after →
      classes.isAlphanumeric c = true → classes.isAlphanumeric d = true →
        (wordOf (words classes name) (before.filter classes.isAlphanumeric).length ≠
            wordOf (words classes name)
              ((before.filter classes.isAlphanumeric).length + 1) ↔
          classes.isUpper d = true ∧
            (classes.isLower c = true ∨ classes.isDigit c = true) ∨
            classes.isUpper c = true ∧ classes.isUpper d = true ∧
              ∃ e later, after = e :: later ∧ classes.isAlphanumeric e = true ∧
                classes.isLower e = true)) ∧
    ∀ before separator after, name = before ++ separator :: after →
      classes.isAlphanumeric separator = false →
        words classes name = words classes before ++ words classes after := by
  refine ⟨?_, flatten_words classes name, ?_, ?_⟩
  · intro word hword
    exact ⟨ne_nil_of_mem_words hword, fun c hc => (mem_of_mem_words hword hc).2⟩
  · rintro before c d after rfl hc hd
    rw [wordOf_ne_iff_beginsWord hc hd, beginsWord_iff]
  · rintro before separator after rfl hseparator
    exact words_append_of_neg hseparator before after

def acronymName : List Char :=
  "HTTPClient v2Go".toList

/-- The last capital of an acronym begins the word behind it. -/
theorem words_divide_name_acronym :
    words .unicode acronymName =
      ["HTTP".toList, "Client".toList, "v2".toList, "Go".toList] ∧
      acronymName = "HTT".toList ++ 'P' :: 'C' :: "lient v2Go".toList ∧
      wordOf (words .unicode acronymName) 3 ≠ wordOf (words .unicode acronymName) 4 ∧
      acronymName = "HTTPClient".toList ++ ' ' :: "v2Go".toList ∧
      words .unicode acronymName =
        words .unicode "HTTPClient".toList ++ words .unicode "v2Go".toList := by
  have hinside : acronymName = "HTT".toList ++ 'P' :: 'C' :: "lient v2Go".toList := by
    decide
  have hbetween : acronymName = "HTTPClient".toList ++ ' ' :: "v2Go".toList := by decide
  have hcapitals : CharClasses.unicode.isAlphanumeric 'P' = true ∧
      CharClasses.unicode.isAlphanumeric 'C' = true ∧
      CharClasses.unicode.isUpper 'P' = true ∧ CharClasses.unicode.isUpper 'C' = true := by
    decide +kernel
  have hnext : CharClasses.unicode.isAlphanumeric 'l' = true ∧
      CharClasses.unicode.isLower 'l' = true := by
    decide +kernel
  obtain ⟨-, -, hneighbours, hdivides⟩ := words_divide_name .unicode acronymName
  have hends :=
    hneighbours "HTT".toList 'P' 'C' "lient v2Go".toList hinside hcapitals.1 hcapitals.2.1
  have hletters : ("HTT".toList.filter CharClasses.unicode.isAlphanumeric).length = 3 := by
    decide +kernel
  rw [hletters] at hends
  refine ⟨by decide +kernel, hinside,
    hends.2 (Or.inr ⟨hcapitals.2.2.1, hcapitals.2.2.2, ?_⟩),
    hbetween, hdivides _ _ _ hbetween (by decide +kernel)⟩
  exact ⟨'l', "ient v2Go".toList, by decide, hnext⟩

end DocContract.Naming
