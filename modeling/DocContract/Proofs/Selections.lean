import DocContract.Proofs.SucceedingRuns

/-!
# Selections as closures

The documents of a selection are found breadth first: the names that are asked for are
looked at in order, and what a document needs is put behind everything that waits already,
unless its name has been looked at before.  A document adds its needs once, so there are
only so many names to look at.  If each of them is the name of a document, the selection is
what can be reached from the names that were asked for; if not, the first that is no name
of a document is the fault.
-/

namespace DocContract

variable {conversions : List Conversion} {names : List String}

/-- A name that is asked for, or that a conversion with such a name needs. -/
inductive Wanted (conversions : List Conversion) (names : List String) :
    String → Prop where
  | asked {name : String} (hname : name ∈ names) : Wanted conversions names name
  | needed {conversion : Conversion} {need : String} (hmem : conversion ∈ conversions)
      (hwanted : Wanted conversions names conversion.name)
      (hneed : need ∈ conversion.needs) :
      Wanted conversions names need

/-- The conversions with wanted names, in their order. -/
structure TransitiveClosure (conversions : List Conversion) (names : List String)
    (selected : List Conversion) : Prop where
  sublist : selected.Sublist conversions
  nodup : (selected.map Conversion.name).Nodup
  mem_iff : ∀ conversion, conversion ∈ selected ↔
    conversion ∈ conversions ∧ Wanted conversions names conversion.name
  closed : ∀ conversion ∈ selected, ∀ need ∈ conversion.needs,
    ∃ needed ∈ selected, needed.name = need

/-- What the conversion with a name needs, or nothing if there is none. -/
def needsOf (conversions : List Conversion) (name : String) : List String :=
  match conversions.find? (·.name == name) with
  | some conversion => conversion.needs
  | none => []

theorem needsOf_cons (conversion : Conversion) (later : List Conversion) (name : String) :
    needsOf (conversion :: later) name =
      if conversion.name = name then conversion.needs else needsOf later name := by
  unfold needsOf
  by_cases hname : conversion.name = name
  · rw [List.find?_cons_of_pos (by simpa using hname), if_pos hname]
  · rw [List.find?_cons_of_neg (by simpa using hname), if_neg hname]

theorem exists_of_mem_needsOf {name need : String}
    (hneed : need ∈ needsOf conversions name) :
    ∃ conversion ∈ conversions, conversion.name = name ∧ need ∈ conversion.needs := by
  unfold needsOf at hneed
  split at hneed
  · next conversion hfind =>
    exact ⟨conversion, List.mem_of_find?_eq_some hfind,
      by simpa using List.find?_some hfind, hneed⟩
  · simp at hneed

theorem find?_name_of_mem
    (hdistinct : (conversions.map Conversion.name).Nodup) {conversion : Conversion}
    (hmem : conversion ∈ conversions) :
    conversions.find? (·.name == conversion.name) = some conversion := by
  cases hfind : conversions.find? (·.name == conversion.name) with
  | none =>
      rw [List.find?_eq_none] at hfind
      simpa using hfind conversion hmem
  | some found =>
      have hname : found.name = conversion.name := by simpa using List.find?_some hfind
      rw [List.inj_on_of_nodup_map hdistinct (List.mem_of_find?_eq_some hfind) hmem hname]

theorem needsOf_name
    (hdistinct : (conversions.map Conversion.name).Nodup) {conversion : Conversion}
    (hmem : conversion ∈ conversions) :
    needsOf conversions conversion.name = conversion.needs := by
  rw [needsOf, find?_name_of_mem hdistinct hmem]

theorem hasConversion_iff (name : String) :
    hasConversion conversions name = true ↔
      ∃ conversion ∈ conversions, conversion.name = name := by
  simp [hasConversion]

/-- Names in the order in which they come up: those that are asked for, and behind them
what is needed by each of the first `count` names that has not come up before. -/
def orderAfter (conversions : List Conversion) (names : List String) : Nat → List String
  | 0 => names
  | count + 1 =>
    let order := orderAfter conversions names count
    match order[count]? with
    | some name =>
        if name ∈ order.take count then order else order ++ needsOf conversions name
    | none => order

/-- What becomes of the order when one more name is looked at. -/
theorem orderAfter_succ_cases (conversions : List Conversion) (names : List String)
    (count : Nat) :
    ((orderAfter conversions names count).length ≤ count ∧
        orderAfter conversions names (count + 1) = orderAfter conversions names count) ∨
      ∃ before name after, before.length = count ∧
        orderAfter conversions names count = before ++ name :: after ∧
        ((name ∈ before ∧
            orderAfter conversions names (count + 1) = before ++ name :: after) ∨
          (name ∉ before ∧ orderAfter conversions names (count + 1) =
            before ++ name :: (after ++ needsOf conversions name))) := by
  generalize horder : orderAfter conversions names count = order
  have hnext : orderAfter conversions names (count + 1) = match order[count]? with
      | some name =>
          if name ∈ order.take count then order else order ++ needsOf conversions name
      | none => order := by rw [orderAfter, horder]
  rw [hnext]
  by_cases hcount : count < order.length
  · have hsplit : order = order.take count ++ order[count] :: order.drop (count + 1) := by
      rw [← List.drop_eq_getElem_cons hcount, List.take_append_drop]
    refine .inr ⟨_, _, _, by simp [hcount.le], hsplit, ?_⟩
    rw [List.getElem?_eq_getElem hcount]
    by_cases hold : order[count] ∈ order.take count
    · exact .inl ⟨hold, by rw [← hsplit]; exact if_pos hold⟩
    · refine .inr ⟨hold, ?_⟩
      rw [← List.cons_append, ← List.append_assoc, ← hsplit]
      exact if_neg hold
  · rw [not_lt] at hcount
    exact .inl ⟨hcount, by rw [List.getElem?_eq_none hcount]⟩

theorem orderAfter_isPrefix_succ (conversions : List Conversion) (names : List String)
    (count : Nat) :
    orderAfter conversions names count <+: orderAfter conversions names (count + 1) := by
  rcases orderAfter_succ_cases conversions names count with
    ⟨-, hsame⟩ | ⟨before, name, after, -, horder, ⟨-, hsame⟩ | ⟨-, hmore⟩⟩
  · exact ⟨[], by rw [hsame, List.append_nil]⟩
  · exact ⟨[], by rw [hsame, horder, List.append_nil]⟩
  · exact ⟨needsOf conversions name, by simp [hmore, horder]⟩

theorem orderAfter_isPrefix
    (conversions : List Conversion) (names : List String) {count later : Nat}
    (hle : count ≤ later) :
    orderAfter conversions names count <+: orderAfter conversions names later := by
  induction hle with
  | refl => exact List.prefix_refl _
  | step _ ih => exact ih.trans (orderAfter_isPrefix_succ conversions names _)

/-- Once all its names have been looked at, the order stays as it is. -/
theorem orderAfter_of_length_le {count later : Nat}
    (hends : (orderAfter conversions names count).length ≤ count) (hle : count ≤ later) :
    orderAfter conversions names later = orderAfter conversions names count := by
  induction hle with
  | refl => rfl
  | @step later hle ih =>
      rcases orderAfter_succ_cases conversions names later with
        ⟨-, hsame⟩ | ⟨before, name, after, hlength, horder, -⟩
      · rw [hsame, ih]
      · have hlong := congrArg List.length (ih.symm.trans horder)
        rw [List.length_append, List.length_cons] at hlong
        have hlater : count ≤ later := hle
        omega

/-- How many needs belong to conversions whose names have not been looked at. -/
def needsAhead (conversions : List Conversion) (looked : List String) : Nat :=
  ((conversions.filter (·.name ∉ looked)).flatMap Conversion.needs).length

theorem needsAhead_cons (conversion : Conversion) (later : List Conversion)
    (looked : List String) :
    needsAhead (conversion :: later) looked =
      (if conversion.name ∈ looked then 0 else conversion.needs.length) +
        needsAhead later looked := by
  unfold needsAhead
  by_cases hlooked : conversion.name ∈ looked
  · rw [List.filter_cons_of_neg (by simpa using hlooked), if_pos hlooked, Nat.zero_add]
  · rw [List.filter_cons_of_pos (by simpa using hlooked), if_neg hlooked,
      List.flatMap_cons, List.length_append]

theorem needsAhead_append_le (conversions : List Conversion) (looked more : List String) :
    needsAhead conversions (looked ++ more) ≤ needsAhead conversions looked := by
  induction conversions with
  | nil => exact Nat.le_refl _
  | cons conversion later ih =>
      rw [needsAhead_cons, needsAhead_cons]
      by_cases hlooked : conversion.name ∈ looked
      · rw [if_pos (List.mem_append_left more hlooked), if_pos hlooked]
        omega
      · rw [if_neg hlooked]
        split <;> omega

/-- A name that is looked at for the first time brings no more than is ahead no longer. -/
theorem length_needsOf_add_needsAhead_le
    (conversions : List Conversion) {looked : List String} {name : String}
    (hnew : name ∉ looked) :
    (needsOf conversions name).length + needsAhead conversions (looked ++ [name]) ≤
      needsAhead conversions looked := by
  induction conversions with
  | nil => exact Nat.le_refl _
  | cons conversion later ih =>
      have hless := needsAhead_append_le later looked [name]
      rw [needsOf_cons, needsAhead_cons, needsAhead_cons]
      by_cases hname : conversion.name = name
      · rw [if_pos hname, if_pos (by simp [hname]), if_neg (hname ▸ hnew)]
        omega
      · have hsame : conversion.name ∈ looked ++ [name] ↔ conversion.name ∈ looked := by
          simp [hname]
        simp only [if_neg hname, hsame]
        omega

theorem length_orderAfter_add_le (conversions : List Conversion) (names : List String)
    (count : Nat) :
    (orderAfter conversions names count).length +
        needsAhead conversions ((orderAfter conversions names count).take count) ≤
      names.length + needsAhead conversions [] := by
  induction count with
  | zero => exact Nat.le_refl _
  | succ count ih =>
      rcases orderAfter_succ_cases conversions names count with
        ⟨hends, hsame⟩ | ⟨before, name, after, rfl, horder, hstep⟩
      · rw [List.take_of_length_le hends] at ih
        rwa [hsame, List.take_of_length_le (hends.trans (Nat.le_succ count))]
      · rw [horder, List.take_left] at ih
        rcases hstep with ⟨-, hsame⟩ | ⟨hnew, hmore⟩
        · have hless := needsAhead_append_le conversions before [name]
          rw [hsame, List.take_length_add_append, List.take_one]
          simp only [List.head?_cons, Option.toList_some]
          omega
        · have hspent := length_needsOf_add_needsAhead_le conversions hnew
          rw [hmore, List.take_length_add_append, List.take_one]
          simp only [List.head?_cons, Option.toList_some, List.length_append,
            List.length_cons]
            at ih ⊢
          omega

/-- There is an order in which every name has been looked at, and it is no longer than what
is asked for and all needs of all conversions together. -/
theorem exists_order (conversions : List Conversion) (names : List String) :
    ∃ order, orderAfter conversions names order.length = order ∧
      order.length ≤ names.length + (conversions.flatMap Conversion.needs).length := by
  have hbound (count : Nat) : (orderAfter conversions names count).length ≤
      names.length + (conversions.flatMap Conversion.needs).length := by
    have hle := length_orderAfter_add_le conversions names count
    have hahead : needsAhead conversions [] =
        (conversions.flatMap Conversion.needs).length := by
      simp [needsAhead]
    omega
  generalize hlast : names.length + (conversions.flatMap Conversion.needs).length =
    last at hbound
  refine ⟨orderAfter conversions names last, ?_, hbound last⟩
  have hlength := (orderAfter_isPrefix conversions names (hbound last)).length_le
  exact (orderAfter_of_length_le hlength (hbound last)).symm

/-! ## What is in the order -/

theorem wanted_of_mem_orderAfter {count : Nat} {name : String}
    (hname : name ∈ orderAfter conversions names count) :
    Wanted conversions names name := by
  induction count generalizing name with
  | zero => exact .asked hname
  | succ count ih =>
      rcases orderAfter_succ_cases conversions names count with
        ⟨-, hsame⟩ | ⟨before, other, after, -, horder, ⟨-, hsame⟩ | ⟨-, hmore⟩⟩
      · exact ih (hsame ▸ hname)
      · exact ih (by rwa [horder, ← hsame])
      · rw [hmore, ← List.cons_append, ← List.append_assoc, ← horder] at hname
        rcases List.mem_append.1 hname with hold | hneed
        · exact ih hold
        · obtain ⟨conversion, hmem, rfl, hneeds⟩ := exists_of_mem_needsOf hneed
          exact .needed hmem (ih (by simp [horder])) hneeds

/-- What a name needs is in the order as soon as the name has been looked at. -/
theorem needsOf_subset_orderAfter {count : Nat} {name : String}
    (hname : name ∈ (orderAfter conversions names count).take count) :
    needsOf conversions name ⊆ orderAfter conversions names count := by
  induction count with
  | zero => simp at hname
  | succ count ih =>
      have hgrows := (orderAfter_isPrefix_succ conversions names count).subset
      rcases orderAfter_succ_cases conversions names count with
        ⟨hends, hsame⟩ | ⟨before, other, after, rfl, horder, hstep⟩
      · rw [hsame] at hname ⊢
        rw [List.take_of_length_le (hends.trans (Nat.le_succ count))] at hname
        exact ih (by rwa [List.take_of_length_le hends])
      · have hbefore (hmem : name ∈ before) :
            needsOf conversions name ⊆ orderAfter conversions names (before.length + 1) :=
          fun need hneed => hgrows (ih (by simpa [horder] using hmem) hneed)
        rcases hstep with ⟨hold, hsame⟩ | ⟨hnew, hmore⟩
        · rw [hsame, List.take_length_add_append, List.take_one, List.mem_append] at hname
          rcases hname with hmem | hother
          · exact hbefore hmem
          · obtain rfl : name = other := by simpa using hother
            exact hbefore hold
        · rw [hmore, List.take_length_add_append, List.take_one, List.mem_append] at hname
          rcases hname with hmem | hother
          · exact hbefore hmem
          · obtain rfl : name = other := by simpa using hother
            rw [hmore]
            intro need hneed
            simp [hneed]

theorem mem_order_iff
    (hdistinct : (conversions.map Conversion.name).Nodup) {order : List String}
    (horder : orderAfter conversions names order.length = order) (name : String) :
    name ∈ order ↔ Wanted conversions names name := by
  constructor
  · exact fun hname => wanted_of_mem_orderAfter (horder.symm ▸ hname)
  · intro hwanted
    induction hwanted with
    | asked hname =>
        have hasked := orderAfter_isPrefix conversions names (Nat.zero_le order.length)
        exact horder ▸ hasked.subset hname
    | @needed conversion need hmem _ hneed ih =>
        have hlooked : conversion.name ∈
            (orderAfter conversions names order.length).take order.length := by
          rwa [horder, List.take_length]
        have hneeds := needsOf_subset_orderAfter hlooked
        rw [horder, needsOf_name hdistinct hmem] at hneeds
        exact hneeds hneed

theorem reachable_cons_of_mem
    {before pending : List String} {name : String} (hold : name ∈ before) :
    reachable conversions before (name :: pending) =
      reachable conversions before pending := by
  rw [reachable, dif_pos (by simpa using hold)]

theorem reachable_cons_of_unknown
    {before pending : List String} {name : String} (hnew : name ∉ before)
    (hunknown : hasConversion conversions name = false) :
    reachable conversions before (name :: pending) = .error name := by
  rw [reachable, dif_neg (by simpa using hnew)]
  split
  · rfl
  · next conversion hfind =>
    have hname : conversion.name = name := by simpa using List.find?_some hfind
    have hknown :=
      (hasConversion_iff name).2 ⟨conversion, List.mem_of_find?_eq_some hfind, hname⟩
    simp [hunknown] at hknown

/-- As long as every name is known, the names that have been looked at are the first of the
order, and the others wait. -/
theorem exists_reachable_eq
    (conversions : List Conversion) (names : List String) {count : Nat}
    (hknown : ∀ name ∈ (orderAfter conversions names count).take count,
      hasConversion conversions name = true) :
    ∃ seen, (∀ name, name ∈ seen ↔
      name ∈ (orderAfter conversions names count).take count) ∧
      reachable conversions [] names =
        reachable conversions seen ((orderAfter conversions names count).drop count) := by
  induction count with
  | zero => exact ⟨[], by simp, rfl⟩
  | succ count ih =>
      rcases orderAfter_succ_cases conversions names count with
        ⟨hends, hsame⟩ | ⟨before, name, after, rfl, horder, hstep⟩
      · have hmore := hends.trans (Nat.le_succ count)
        rw [hsame, List.take_of_length_le hmore] at hknown ⊢
        rw [List.take_of_length_le hends, List.drop_of_length_le hends] at ih
        rw [List.drop_of_length_le hmore]
        exact ih hknown
      · rw [horder, List.take_left, List.drop_left] at ih
        have hone (rest : List String) :
            (before ++ name :: rest).take (before.length + 1) = before ++ [name] := by
          rw [List.take_length_add_append, List.take_one]
          rfl
        have hrest (rest : List String) :
            (before ++ name :: rest).drop (before.length + 1) = rest := by
          rw [List.drop_length_add_append]
          rfl
        rcases hstep with ⟨hold, hsame⟩ | ⟨hnew, hmore⟩
        · rw [hsame, hone, List.forall_mem_append] at hknown
          obtain ⟨seen, hseen, hreach⟩ := ih hknown.1
          refine ⟨seen, fun other => ?_, ?_⟩
          · rw [hsame, hone, hseen, List.mem_append, List.mem_singleton]
            exact ⟨.inl, fun hmem => hmem.elim id (· ▸ hold)⟩
          · rw [hsame, hrest, hreach, reachable_cons_of_mem ((hseen name).2 hold)]
        · rw [hmore, hone, List.forall_mem_append] at hknown
          obtain ⟨seen, hseen, hreach⟩ := ih hknown.1
          obtain ⟨conversion, hfind⟩ := Option.isSome_iff_exists.1
            ((List.find?_isSome).2 (List.any_eq_true.1 (hknown.2 name (by simp))))
          refine ⟨name :: seen, fun other => ?_, ?_⟩
          · rw [hmore, hone, List.mem_cons, hseen, List.mem_append,
              List.mem_singleton, or_comm]
          · rw [hmore, hrest, hreach,
              reachable_cons_of_find (fun hmem => hnew ((hseen name).1 hmem)) hfind,
              needsOf, hfind]

theorem reachable_eq_ok_of_known
    {order : List String} (horder : orderAfter conversions names order.length = order)
    (hknown : ∀ name ∈ order, hasConversion conversions name = true) :
    ∃ seen, (∀ name, name ∈ seen ↔ name ∈ order) ∧
      reachable conversions [] names = .ok seen := by
  have hlooked : (orderAfter conversions names order.length).take
      order.length = order := by
    rw [horder, List.take_length]
  obtain ⟨seen, hseen, hreach⟩ :=
    exists_reachable_eq conversions names (hlooked.symm ▸ hknown)
  rw [hlooked] at hseen
  rw [horder, List.drop_length, reachable] at hreach
  exact ⟨seen, hseen, hreach⟩

theorem reachable_eq_error_of_unknown
    {order : List String} {first : String}
    (horder : orderAfter conversions names order.length = order)
    (hfirst : order.find? (fun name => !hasConversion conversions name) = some first) :
    reachable conversions [] names = .error first := by
  obtain ⟨hunknown, before, after, hsplit, hbefore⟩ :=
    List.find?_eq_some_iff_append.1 hfirst
  -- The order is not at its end where the first unknown name stands.
  have hshorter : before.length < order.length := by simp [hsplit]
  have hgoes : before.length < (orderAfter conversions names before.length).length := by
    by_contra hends
    have hsame := orderAfter_of_length_le (not_lt.1 hends) hshorter.le
    rw [← horder, hsame] at hshorter
    exact hends hshorter
  have hstart : before ++ [first] <+: orderAfter conversions names before.length := by
    have hall := orderAfter_isPrefix conversions names hshorter.le
    rw [horder] at hall
    exact List.prefix_of_prefix_length_le ⟨after, by simp [hsplit]⟩ hall
      (by rwa [List.length_append, List.length_singleton, Nat.add_one_le_iff])
  obtain ⟨waiting, hwaiting⟩ := hstart
  rw [List.append_assoc, List.singleton_append] at hwaiting
  have hlooked : (orderAfter conversions names before.length).take
      before.length = before := by
    rw [← hwaiting, List.take_left]
  have hknown : ∀ name ∈ before, hasConversion conversions name = true :=
    fun name hname => by simpa using hbefore name hname
  obtain ⟨seen, hseen, hreach⟩ :=
    exists_reachable_eq conversions names (hlooked.symm ▸ hknown)
  rw [hlooked] at hseen
  rw [← hwaiting, List.drop_left] at hreach
  rw [hreach]
  have hnotKnown : hasConversion conversions first = false := by simpa using hunknown
  refine reachable_cons_of_unknown (fun hmem => ?_) hnotKnown
  have hknown := hbefore first ((hseen first).1 hmem)
  simp [hnotKnown] at hknown

theorem transitiveClosure_filter
    (hdistinct : (conversions.map Conversion.name).Nodup) {seen : List String}
    (hseen : ∀ name, name ∈ seen ↔ Wanted conversions names name)
    (hknown : ∀ name, Wanted conversions names name →
      hasConversion conversions name = true) :
    TransitiveClosure conversions names
      (conversions.filter fun conversion => seen.contains conversion.name) := by
  have hmem (conversion : Conversion) :
      conversion ∈ conversions.filter (fun conversion => seen.contains conversion.name) ↔
        conversion ∈ conversions ∧ Wanted conversions names conversion.name := by
    rw [List.mem_filter, List.contains_iff_mem, hseen]
  constructor
  · exact List.filter_sublist
  · exact hdistinct.sublist (List.filter_sublist.map _)
  · exact hmem
  · intro conversion hselected need hneed
    obtain ⟨hconversion, hwanted⟩ := (hmem conversion).1 hselected
    have hneeded : Wanted conversions names need := .needed hconversion hwanted hneed
    obtain ⟨needed, hin, rfl⟩ := (hasConversion_iff need).1 (hknown need hneeded)
    exact ⟨needed, (hmem needed).2 ⟨hin, hneeded⟩, rfl⟩

/-- Names come up in a breadth-first order that ends, and those in it are the wanted ones.
If each of them is the name of a conversion, the conversions with these names are selected;
if not, the fault is the first in the order that is not. -/
theorem select_transitive_closure
    (hdistinct : (conversions.map Conversion.name).Nodup) (names : List String) :
    ∃ order, orderAfter conversions names order.length = order ∧
      order.length ≤ names.length + (conversions.flatMap Conversion.needs).length ∧
      (∀ name, name ∈ order ↔ Wanted conversions names name) ∧
      ((∀ name, Wanted conversions names name → hasConversion conversions name = true) →
        ∃ selected, select conversions names = .ok selected ∧
          TransitiveClosure conversions names selected) ∧
      ((∃ name, Wanted conversions names name ∧ hasConversion conversions name = false) →
        ∃ first, order.find? (fun name => !hasConversion conversions name) = some first ∧
          select conversions names = .error first) := by
  obtain ⟨order, horder, hlength⟩ := exists_order conversions names
  have hmem := mem_order_iff hdistinct horder
  refine ⟨order, horder, hlength, hmem, ?_, ?_⟩
  · intro hknown
    obtain ⟨seen, hseen, hreach⟩ := reachable_eq_ok_of_known horder
      fun name hname => hknown name ((hmem name).1 hname)
    have hwanted (name : String) : name ∈ seen ↔ Wanted conversions names name :=
      (hseen name).trans (hmem name)
    exact ⟨_, by rw [select, hreach], transitiveClosure_filter hdistinct hwanted hknown⟩
  · rintro ⟨name, hwanted, hunknown⟩
    have hfound : (order.find? fun name => !hasConversion conversions name).isSome =
        true :=
      List.find?_isSome.2 ⟨name, (hmem name).2 hwanted, by rw [hunknown]; rfl⟩
    obtain ⟨first, hfirst⟩ := Option.isSome_iff_exists.1 hfound
    exact ⟨first, hfirst, by rw [select, reachable_eq_error_of_unknown horder hfirst]⟩

/-- A document that needs itself, two that need each other, and one that needs what there
is not. -/
def tangledConversions : List Conversion :=
  [⟨"emoji", "/emoji", ["emoji"], []⟩, ⟨"page", "/page", ["user", "emoji", "user"], []⟩,
   ⟨"user", "/user", ["page"], []⟩, ⟨"comment", "/comment", ["database", "user"], []⟩]

theorem select_transitive_closure_tangled :
    (tangledConversions.map Conversion.name).Nodup ∧
      (∃ selected, select tangledConversions ["user"] = .ok selected ∧
        TransitiveClosure tangledConversions ["user"] selected) ∧
      select tangledConversions ["comment", "page", "block"] = .error "block" := by
  have hdistinct : (tangledConversions.map Conversion.name).Nodup := by decide
  refine ⟨hdistinct, ?_, ?_⟩
  · obtain ⟨order, -, -, -, hselect, -⟩ := select_transitive_closure hdistinct ["user"]
    apply hselect
    have hreached : ∀ name, Wanted tangledConversions ["user"] name →
        name ∈ ["user", "page", "emoji"] := by
      intro name hwanted
      induction hwanted with
      | asked hname => exact List.mem_cons.2 (.inl (List.mem_singleton.1 hname))
      | @needed conversion need hmem _ hneed ih =>
          have hneeds : ∀ conversion ∈ tangledConversions,
              conversion.name ∈ ["user", "page", "emoji"] →
                ∀ need ∈ conversion.needs, need ∈ ["user", "page", "emoji"] := by decide
          exact hneeds conversion hmem ih need hneed
    have hknown : ∀ name ∈ ["user", "page", "emoji"],
        hasConversion tangledConversions name = true := by decide
    exact fun name hwanted => hknown name (hreached name hwanted)
  · obtain ⟨order, horder, -, -, -, hselect⟩ :=
      select_transitive_closure hdistinct ["comment", "page", "block"]
    obtain ⟨first, hfirst, hfault⟩ := hselect ⟨"block", .asked (by decide), by decide⟩
    obtain ⟨needed, hneeded⟩ :=
      orderAfter_isPrefix tangledConversions ["comment", "page", "block"]
        (Nat.zero_le order.length)
    obtain rfl : "block" = first := by
      rw [← horder, ← hneeded] at hfirst
      exact Option.some.inj hfirst
    exact hfault

end DocContract
