import DocContract.Schema.Registry
import Mathlib.Data.List.Nodup
import Mathlib.Data.String.Basic

/-!
# Sets as ascending lists

An ascending list is determined by its members.  Insertion keeps the order and adds one
member, so what is inserted matters and when it is inserted does not.  The checks of a
registry are such a set twice over: checks ascend by target and type argument, and each
holds an ascending set of payloads.
-/

namespace DocContract

/-- A test that puts any two different elements in exactly one order. -/
structure StrictlyOrders {α : Type} (before : α → α → Bool) : Prop where
  irrefl : ∀ a, before a a = false
  trans : ∀ {a b c}, before a b → before b c → before a c
  connected : ∀ {a b}, before a b = false → before b a = false → a = b

theorem StrictlyOrders.asymm
    {α : Type} {before : α → α → Bool} (horder : StrictlyOrders before)
    {a b : α} (hab : before a b) : before b a = false := by
  by_contra hba
  have hloop : before a a :=
    horder.trans hab (by simpa using hba)
  simp [horder.irrefl a] at hloop

theorem textBefore_iff (a b : String) : textBefore a b = true ↔ a < b := by
  simp [textBefore]

theorem textBefore_strictlyOrders : StrictlyOrders textBefore := by
  constructor
  · intro a
    simp [textBefore]
  · intro a b c hab hbc
    rw [textBefore_iff] at hab hbc ⊢
    exact lt_trans hab hbc
  · intro a b hab hba
    simp only [textBefore, decide_eq_false_iff_not, not_lt] at hab hba
    exact le_antisymm hba hab

theorem keyBefore_some_some (a b : String) (as bs : List (Option String)) :
    keyBefore (some a :: as) (some b :: bs) = true ↔
      a < b ∨ a = b ∧ keyBefore as bs = true := by
  simp [keyBefore, textBefore]

theorem keyBefore_irrefl (as : List (Option String)) : keyBefore as as = false := by
  induction as with
  | nil => rfl
  | cons a as ih =>
      cases a with
      | none => simpa [keyBefore] using ih
      | some a => simp [keyBefore, textBefore, ih]

theorem keyBefore_trans
    {as bs cs : List (Option String)}
    (hab : keyBefore as bs = true) (hbc : keyBefore bs cs = true) :
    keyBefore as cs = true := by
  induction as generalizing bs cs with
  | nil =>
      cases cs with
      | nil => cases bs <;> simp [keyBefore] at hab hbc
      | cons c cs => rfl
  | cons a as ih =>
      cases bs with
      | nil => simp [keyBefore] at hab
      | cons b bs =>
          cases cs with
          | nil => simp [keyBefore] at hbc
          | cons c cs =>
              cases a with
              | none =>
                  cases b <;> cases c <;> simp [keyBefore] at hab hbc ⊢
                  exact ih hab hbc
              | some a =>
                  cases b with
                  | none => simp [keyBefore] at hab
                  | some b =>
                      cases c with
                      | none => simp [keyBefore] at hbc
                      | some c =>
                          rw [keyBefore_some_some] at hab hbc ⊢
                          rcases hab with hlt | ⟨rfl, htail⟩
                          · rcases hbc with hlt' | ⟨rfl, -⟩
                            · exact Or.inl (lt_trans hlt hlt')
                            · exact Or.inl hlt
                          · rcases hbc with hlt' | ⟨rfl, htail'⟩
                            · exact Or.inl hlt'
                            · exact Or.inr ⟨rfl, ih htail htail'⟩

theorem keyBefore_connected
    {as bs : List (Option String)}
    (hab : keyBefore as bs = false) (hba : keyBefore bs as = false) :
    as = bs := by
  induction as generalizing bs with
  | nil =>
      cases bs with
      | nil => rfl
      | cons b bs => simp [keyBefore] at hab
  | cons a as ih =>
      cases bs with
      | nil => simp [keyBefore] at hba
      | cons b bs =>
          cases a with
          | none =>
              cases b with
              | none =>
                  simp only [keyBefore] at hab hba
                  rw [ih hab hba]
              | some b => simp [keyBefore] at hab
          | some a =>
              cases b with
              | none => simp [keyBefore] at hba
              | some b =>
                  have hle : ¬ (a < b ∨ a = b ∧ keyBefore as bs = true) := by
                    rw [← keyBefore_some_some, hab]
                    simp
                  have hge : ¬ (b < a ∨ b = a ∧ keyBefore bs as = true) := by
                    rw [← keyBefore_some_some, hba]
                    simp
                  have heq : a = b :=
                    le_antisymm (not_lt.1 fun hlt => hge (Or.inl hlt))
                      (not_lt.1 fun hlt => hle (Or.inl hlt))
                  subst heq
                  rw [ih (by simpa using hle) (by simpa using hge)]

theorem keyBefore_strictlyOrders : StrictlyOrders keyBefore :=
  ⟨keyBefore_irrefl, keyBefore_trans, keyBefore_connected⟩

theorem StrictlyOrders.comap
    {α β : Type} {before : β → β → Bool} (horder : StrictlyOrders before)
    {key : α → β} (hinjective : Function.Injective key) :
    StrictlyOrders fun a b => before (key a) (key b) :=
  ⟨fun a => horder.irrefl (key a), horder.trans,
    fun hab hba => hinjective (horder.connected hab hba)⟩

theorem Membership.key_injective : Function.Injective Membership.key := by
  intro a b hkey
  cases a
  cases b
  simpa [Membership.key, and_left_comm] using hkey

theorem membershipOrder :
    StrictlyOrders fun a b : Membership => keyBefore a.key b.key :=
  keyBefore_strictlyOrders.comap Membership.key_injective

/-- A list in strictly ascending order. -/
def Ascending {α : Type} (before : α → α → Bool) (as : List α) : Prop :=
  as.Pairwise fun a b => before a b = true

section Insertion

variable {α : Type} {before : α → α → Bool}

theorem mem_insertAscending
    (horder : StrictlyOrders before) (a b : α) (as : List α) :
    b ∈ insertAscending before a as ↔ b = a ∨ b ∈ as := by
  induction as with
  | nil => simp [insertAscending]
  | cons c as ih =>
      unfold insertAscending
      split
      · simp
      · next hac =>
        split
        · rw [List.mem_cons, ih, List.mem_cons]
          exact or_left_comm
        · next hca =>
          have hsame : a = c :=
            horder.connected (by simpa using hac) (by simpa using hca)
          simp [hsame]

theorem Ascending.insert
    (horder : StrictlyOrders before) {as : List α}
    (hascending : Ascending before as) (a : α) :
    Ascending before (insertAscending before a as) := by
  induction as with
  | nil => exact List.pairwise_singleton _ a
  | cons c as ih =>
      obtain ⟨hhead, htail⟩ := List.pairwise_cons.1 hascending
      unfold insertAscending
      split
      · next hac =>
        refine List.pairwise_cons.2 ⟨?_, hascending⟩
        intro b hb
        rcases List.mem_cons.1 hb with rfl | hb
        · exact hac
        · exact horder.trans hac (hhead b hb)
      · split
        · next hca =>
          refine List.pairwise_cons.2 ⟨?_, ih htail⟩
          intro b hb
          rcases (mem_insertAscending horder a b as).1 hb with rfl | hb
          · exact hca
          · exact hhead b hb
        · exact hascending

theorem Ascending.nodup (horder : StrictlyOrders before) {as : List α}
    (hascending : Ascending before as) : as.Nodup := by
  refine List.Pairwise.imp ?_ hascending
  rintro a b hab rfl
  simp [horder.irrefl a] at hab

/-- An ascending list is determined by its members. -/
theorem Ascending.eq_of_mem_iff
    (horder : StrictlyOrders before) {as bs : List α}
    (has : Ascending before as) (hbs : Ascending before bs)
    (hmem : ∀ a, a ∈ as ↔ a ∈ bs) : as = bs := by
  have hperm : as.Perm bs :=
    (List.perm_ext_iff_of_nodup (has.nodup horder) (hbs.nodup horder)).2 hmem
  refine hperm.eq_of_pairwise ?_ has hbs
  intro a b _ _ hab hba
  simp [horder.asymm hab] at hba

theorem ascending_of_foldl_insert
    (horder : StrictlyOrders before) {set : List α}
    (hset : Ascending before set) (as : List α) :
    Ascending before
        (as.foldl (fun set a => insertAscending before a set) set) ∧
      ∀ b, b ∈ as.foldl (fun set a => insertAscending before a set) set ↔
        b ∈ set ∨ b ∈ as := by
  induction as generalizing set with
  | nil => simp [hset]
  | cons a as ih =>
      obtain ⟨hascending, hmem⟩ := ih (hset.insert horder a)
      refine ⟨hascending, fun b => ?_⟩
      rw [List.foldl_cons, hmem, mem_insertAscending horder, List.mem_cons,
        or_comm (a := b = a), or_assoc]

theorem ascending_ascending
    (horder : StrictlyOrders before) (as : List α) :
    Ascending before (ascending before as) :=
  (ascending_of_foldl_insert horder List.Pairwise.nil as).1

theorem mem_ascending
    (horder : StrictlyOrders before) (a : α) (as : List α) :
    a ∈ ascending before as ↔ a ∈ as := by
  have hmem := (ascending_of_foldl_insert horder List.Pairwise.nil as).2 a
  simpa [ascending] using hmem

end Insertion

/-! ## Sets of texts -/

@[simp] theorem mem_insertText (text other : String) (set : List String) :
    other ∈ insertText text set ↔ other = text ∨ other ∈ set :=
  mem_insertAscending textBefore_strictlyOrders text other set

@[simp] theorem mem_textSet (text : String) (texts : List String) :
    text ∈ textSet texts ↔ text ∈ texts :=
  mem_ascending textBefore_strictlyOrders text texts

@[simp] theorem mem_unionTexts (text : String) (set added : List String) :
    text ∈ unionTexts set added ↔ text ∈ set ∨ text ∈ added := by
  induction added generalizing set with
  | nil => simp [unionTexts]
  | cons a added ih =>
      have hunfold :
          unionTexts set (a :: added) = unionTexts (insertText a set) added := rfl
      rw [hunfold, ih, mem_insertText, List.mem_cons, or_comm (a := text = a),
        or_assoc]

theorem Ascending.unionTexts
    {set : List String} (hset : Ascending textBefore set) (added : List String) :
    Ascending textBefore (unionTexts set added) :=
  (ascending_of_foldl_insert textBefore_strictlyOrders hset added).1

/-- Some check holds a payload for a target and a type argument. -/
def PayloadRecorded (checks : List UnmarshalCheck)
    (target : String) (typeArgument : Option String) (payload : String) : Prop :=
  ∃ check ∈ checks,
    check.target = target ∧ check.typeArgument = typeArgument ∧
      payload ∈ check.payloads

/-- Checks in the form in which a registry keeps them. -/
structure ChecksAscend (checks : List UnmarshalCheck) : Prop where
  keys : checks.Pairwise fun a b => keyBefore a.key b.key = true
  payloads : ∀ check ∈ checks, Ascending textBefore check.payloads
  inhabited : ∀ check ∈ checks, check.payloads ≠ []

theorem UnmarshalCheck.key_eq_iff (check : UnmarshalCheck)
    (target : String) (typeArgument : Option String) :
    [some target, typeArgument] = check.key ↔
      check.target = target ∧ check.typeArgument = typeArgument := by
  simp only [UnmarshalCheck.key, List.cons.injEq, Option.some.injEq, and_true]
  exact and_congr eq_comm eq_comm

/-- Recording a payload adds a check, or adds to the one with its key. -/
theorem key_of_mem_recordCheck
    {target payload : String} {typeArgument : Option String}
    {checks : List UnmarshalCheck} {check : UnmarshalCheck}
    (hmem : check ∈ recordCheck target payload typeArgument checks) :
    check.key = [some target, typeArgument] ∨
      ∃ earlier ∈ checks, earlier.key = check.key := by
  induction checks with
  | nil =>
      simp only [recordCheck, List.mem_singleton] at hmem
      subst hmem
      exact Or.inl rfl
  | cons first later ih =>
      simp only [recordCheck] at hmem
      split at hmem
      · rcases List.mem_cons.1 hmem with rfl | hmem
        · exact Or.inl rfl
        · exact Or.inr ⟨check, hmem, rfl⟩
      · split at hmem
        · rcases List.mem_cons.1 hmem with rfl | hmem
          · exact Or.inr ⟨check, List.mem_cons_self, rfl⟩
          · rcases ih hmem with hkey | ⟨earlier, hearlier, hkey⟩
            · exact Or.inl hkey
            · exact Or.inr ⟨earlier, List.mem_cons_of_mem first hearlier, hkey⟩
        · rcases List.mem_cons.1 hmem with rfl | hmem
          · exact Or.inr ⟨first, List.mem_cons_self, rfl⟩
          · exact Or.inr ⟨check, List.mem_cons_of_mem first hmem, rfl⟩

theorem ChecksAscend.record
    {checks : List UnmarshalCheck} (hchecks : ChecksAscend checks)
    (target payload : String) (typeArgument : Option String) :
    ChecksAscend (recordCheck target payload typeArgument checks) := by
  induction checks with
  | nil => constructor <;> simp [recordCheck, Ascending]
  | cons first later ih =>
      obtain ⟨hkeys, hpayloads, hinhabited⟩ := hchecks
      obtain ⟨hhead, htail⟩ := List.pairwise_cons.1 hkeys
      rw [List.forall_mem_cons] at hpayloads hinhabited
      simp only [recordCheck]
      split
      · next hbefore =>
        constructor
        · refine List.pairwise_cons.2 ⟨?_, hkeys⟩
          intro other hother
          rcases List.mem_cons.1 hother with rfl | hother
          · exact hbefore
          · exact keyBefore_trans hbefore (hhead other hother)
        · simpa [Ascending] using hpayloads
        · simpa using hinhabited
      · split
        · next hafter =>
          obtain ⟨hkeys', hpayloads', hinhabited'⟩ :=
            ih ⟨htail, hpayloads.2, hinhabited.2⟩
          constructor
          · refine List.pairwise_cons.2 ⟨?_, hkeys'⟩
            intro other hother
            rcases key_of_mem_recordCheck hother with
              hkey | ⟨earlier, hearlier, hkey⟩
            · rw [hkey]
              exact hafter
            · rw [← hkey]
              exact hhead earlier hearlier
          · exact List.forall_mem_cons.2 ⟨hpayloads.1, hpayloads'⟩
          · exact List.forall_mem_cons.2 ⟨hinhabited.1, hinhabited'⟩
        · constructor
          · exact List.pairwise_cons.2 ⟨hhead, htail⟩
          · exact List.forall_mem_cons.2
              ⟨hpayloads.1.insert textBefore_strictlyOrders payload, hpayloads.2⟩
          · refine List.forall_mem_cons.2 ⟨?_, hinhabited.2⟩
            exact List.ne_nil_of_mem
              ((mem_insertText payload payload first.payloads).2 (Or.inl rfl))

theorem payloadRecorded_cons
    (check : UnmarshalCheck) (checks : List UnmarshalCheck)
    (target : String) (typeArgument : Option String) (payload : String) :
    PayloadRecorded (check :: checks) target typeArgument payload ↔
      (check.target = target ∧ check.typeArgument = typeArgument ∧
          payload ∈ check.payloads) ∨
        PayloadRecorded checks target typeArgument payload := by
  simp [PayloadRecorded]

theorem payloadRecorded_recordCheck
    (checks : List UnmarshalCheck)
    (target payload : String) (typeArgument : Option String)
    (target' : String) (typeArgument' : Option String) (payload' : String) :
    PayloadRecorded (recordCheck target payload typeArgument checks)
        target' typeArgument' payload' ↔
      (target = target' ∧ typeArgument = typeArgument' ∧ payload' = payload) ∨
        PayloadRecorded checks target' typeArgument' payload' := by
  induction checks with
  | nil => simp [recordCheck, PayloadRecorded]
  | cons first later ih =>
      simp only [recordCheck]
      split
      · rw [payloadRecorded_cons]
        simp
      · next hbefore =>
        split
        · rw [payloadRecorded_cons, ih, payloadRecorded_cons]
          exact or_left_comm
        · next hafter =>
          have hkey : [some target, typeArgument] = first.key :=
            keyBefore_connected (by simpa using hbefore) (by simpa using hafter)
          obtain ⟨rfl, rfl⟩ := (first.key_eq_iff target typeArgument).1 hkey
          rw [payloadRecorded_cons, payloadRecorded_cons, mem_insertText]
          simp only [and_or_left, or_assoc]

theorem ChecksAscend.nodup_keys
    {checks : List UnmarshalCheck} (hchecks : ChecksAscend checks) :
    (checks.map UnmarshalCheck.key).Nodup := by
  refine List.pairwise_map.2 (hchecks.keys.imp ?_)
  intro a b hab heq
  rw [heq, keyBefore_irrefl] at hab
  contradiction

/-- A check holds just what is recorded under its key. -/
theorem ChecksAscend.recorded_iff
    {checks : List UnmarshalCheck} (hchecks : ChecksAscend checks)
    {check : UnmarshalCheck} (hcheck : check ∈ checks) (payload : String) :
    PayloadRecorded checks check.target check.typeArgument payload ↔
      payload ∈ check.payloads := by
  constructor
  · rintro ⟨other, hother, htarget, hargument, hmem⟩
    have hsame : other = check :=
      List.inj_on_of_nodup_map hchecks.nodup_keys hother hcheck
        (by simp [UnmarshalCheck.key, htarget, hargument])
    exact hsame ▸ hmem
  · intro hmem
    exact ⟨check, hcheck, rfl, rfl, hmem⟩

theorem ChecksAscend.mem_of_recorded_iff
    {checks others : List UnmarshalCheck}
    (hchecks : ChecksAscend checks) (hothers : ChecksAscend others)
    (hrecorded : ∀ target typeArgument payload,
      PayloadRecorded checks target typeArgument payload ↔
        PayloadRecorded others target typeArgument payload)
    {check : UnmarshalCheck} (hcheck : check ∈ checks) :
    check ∈ others := by
  obtain ⟨payload, hmem⟩ :=
    List.exists_mem_of_ne_nil _ (hchecks.inhabited check hcheck)
  obtain ⟨other, hother, htarget, hargument, -⟩ :=
    (hrecorded _ _ payload).1 ⟨check, hcheck, rfl, rfl, hmem⟩
  have hpayloads : other.payloads = check.payloads := by
    refine (hothers.payloads other hother).eq_of_mem_iff
      textBefore_strictlyOrders (hchecks.payloads check hcheck) fun text => ?_
    rw [← hothers.recorded_iff hother, ← hchecks.recorded_iff hcheck,
      hrecorded, htarget, hargument]
  have hsame : other = check := by
    cases other
    cases check
    simp_all
  exact hsame ▸ hother

/-- Checks are determined by the payloads that they hold. -/
theorem ChecksAscend.eq_of_recorded_iff
    {checks others : List UnmarshalCheck}
    (hchecks : ChecksAscend checks) (hothers : ChecksAscend others)
    (hrecorded : ∀ target typeArgument payload,
      PayloadRecorded checks target typeArgument payload ↔
        PayloadRecorded others target typeArgument payload) :
    checks = others := by
  have hperm : checks.Perm others := by
    refine (List.perm_ext_iff_of_nodup hchecks.nodup_keys.of_map
      hothers.nodup_keys.of_map).2 fun check => ⟨?_, ?_⟩
    · exact fun hcheck => hchecks.mem_of_recorded_iff hothers hrecorded hcheck
    · exact fun hcheck =>
        hothers.mem_of_recorded_iff hchecks (fun _ _ _ => (hrecorded _ _ _).symm) hcheck
  refine hperm.eq_of_pairwise ?_ hchecks.keys hothers.keys
  intro a b _ _ hab hba
  simp [keyBefore_strictlyOrders.asymm hab] at hba

end DocContract
