import DocContract.Proofs.ComparisonVerdict
import Mathlib.Data.List.Basic

/-!
# Placeholders of a URL

A text that is not empty and has no braces is a placeholder wherever an opening brace
stands right in front of it and a closing brace right behind it.  A URL is read once, and
all that is kept of it is what has been read since the last opening brace; still every
placeholder is found and nothing else is, however braces are nested or left open.  An
endpoint is met just if the page has it and each of these placeholders is the name of a
parameter in the path.
-/

namespace DocContract

/-- A text in a template, with the number of characters in front of it. -/
structure Placeholder where
  offset : Nat
  name : List Char

def Braceless (text : List Char) : Prop :=
  ∀ c ∈ text, c ≠ '\x7b' ∧ c ≠ '\x7d'

structure Placeholder.In (p : Placeholder) (template : List Char) : Prop where
  ne_nil : p.name ≠ []
  braceless : Braceless p.name
  enclosed : ∃ before after,
    template = before ++ '\x7b' :: (p.name ++ '\x7d' :: after) ∧
    p.offset = before.length + 1

namespace Placeholder

/-- The name that goes on up to the next brace, if that is a closing one.  Its beginning
has been read, the last character first. -/
def closed? (read : List Char) : List Char → Option (List Char)
  | [] => none
  | c :: rest =>
    if c = '\x7b' then none
    else if c = '\x7d' then if read = [] then none else some read.reverse
    else closed? (c :: read) rest

/-- The name behind an opening brace. -/
def opened? : List Char → Option (List Char)
  | [] => none
  | c :: rest => if c = '\x7b' then closed? [] rest else none

theorem closed?_opening (read rest : List Char) :
    closed? read ('\x7b' :: rest) = none := rfl

theorem closed?_closing (read rest : List Char) :
    closed? read ('\x7d' :: rest) = if read = [] then none else some read.reverse := rfl

theorem closed?_other {c : Char} (hopening : c ≠ '\x7b') (hclosing : c ≠ '\x7d')
    (read rest : List Char) : closed? read (c :: rest) = closed? (c :: read) rest := by
  rw [closed?, if_neg hopening, if_neg hclosing]

theorem closed?_eq_some_iff (read text name : List Char) :
    closed? read text = some name ↔
      name ≠ [] ∧ ∃ more after, text = more ++ '\x7d' :: after ∧ Braceless more ∧
        name = read.reverse ++ more := by
  induction text generalizing read with
  | nil => simp [closed?]
  | cons c rest ih =>
      by_cases hclosing : c = '\x7d'
      · subst hclosing
        have hends (more after : List Char) :
            '\x7d' :: rest = more ++ '\x7d' :: after ∧ Braceless more ↔ more = [] ∧
              rest = after := by
          cases more with
          | nil => simp [Braceless]
          | cons d more =>
              refine ⟨fun ⟨htext, hmore⟩ => ?_, by simp⟩
              exact absurd (List.cons.inj htext).1.symm (hmore d List.mem_cons_self).2
        simp only [closed?_closing, ← and_assoc, hends, exists_eq_right', exists_and_right,
          exists_eq_left, List.append_nil]
        by_cases hread : read = []
        · simp [hread]
        · simp only [if_neg hread, Option.some.injEq, eq_comm (a := name), iff_and_self]
          rintro rfl
          simpa using hread
      · by_cases hopening : c = '\x7b'
        · subst hopening
          rw [closed?_opening]
          -- No name that is still open goes on behind an opening brace.
          refine ⟨nofun, ?_⟩
          rintro ⟨-, more, after, htext, hmore, -⟩
          cases more with
          | nil => exact absurd (List.cons.inj htext).1 (by decide)
          | cons d more =>
              exact absurd (List.cons.inj htext).1.symm (hmore d List.mem_cons_self).1
        · rw [closed?_other hopening hclosing, ih]
          refine and_congr_right fun _ => ?_
          constructor
          · rintro ⟨more, after, rfl, hmore, rfl⟩
            refine ⟨c :: more, after, rfl, ?_, by simp⟩
            exact List.forall_mem_cons.2 ⟨⟨hopening, hclosing⟩, hmore⟩
          · rintro ⟨more, after, htext, hmore, rfl⟩
            cases more with
            | nil => exact absurd (List.cons.inj htext).1 hclosing
            | cons d more =>
                obtain ⟨rfl, rfl⟩ := List.cons.inj htext
                exact ⟨more, after, rfl, (List.forall_mem_cons.1 hmore).2, by simp⟩

theorem opened?_eq_some_iff (text name : List Char) :
    opened? text = some name ↔
      name ≠ [] ∧ Braceless name ∧
      ∃ after, text = '\x7b' :: (name ++ '\x7d' :: after) := by
  cases text with
  | nil => simp [opened?]
  | cons c rest =>
      rw [opened?]
      split
      · next hopening =>
        rw [closed?_eq_some_iff]
        simp only [List.reverse_nil, List.nil_append, hopening, List.cons.injEq, true_and]
        constructor
        · rintro ⟨hname, more, after, htext, hmore, rfl⟩
          exact ⟨hname, hmore, after, htext⟩
        · rintro ⟨hname, hmore, after, htext⟩
          exact ⟨hname, name, after, htext, hmore, rfl⟩
      · next hother =>
        simp [hother]

/-- The placeholders of a template, found by looking behind each of its characters. -/
def all (template : List Char) : List Placeholder :=
  (List.range template.length).filterMap fun n =>
    (opened? (template.drop n)).map fun name => ⟨n + 1, name⟩

theorem all_ascend (template : List Char) :
    (all template).Pairwise fun a b => a.offset < b.offset := by
  rw [all, List.pairwise_filterMap]
  refine List.pairwise_lt_range.imp fun {n m} hlt => ?_
  intro a ha b hb
  obtain ⟨_, -, rfl⟩ := Option.map_eq_some_iff.1 ha
  obtain ⟨_, -, rfl⟩ := Option.map_eq_some_iff.1 hb
  exact Nat.succ_lt_succ hlt

theorem mem_all_iff (template : List Char) (p : Placeholder) :
    p ∈ all template ↔ p.In template := by
  simp only [all, List.mem_filterMap, List.mem_range, Option.map_eq_some_iff,
    opened?_eq_some_iff]
  constructor
  · rintro ⟨n, hn, name, ⟨hname, hbraceless, after, hdrop⟩, rfl⟩
    refine ⟨hname, hbraceless, template.take n, after, ?_, ?_⟩
    · rw [← hdrop, List.take_append_drop]
    · rw [List.length_take_of_le (Nat.le_of_lt hn)]
  · rintro ⟨hname, hbraceless, before, after, rfl, hoffset⟩
    refine ⟨before.length, by simp, p.name, ⟨hname, hbraceless, after, List.drop_left⟩, ?_⟩
    rw [← hoffset]

theorem map_name_all_cons (c : Char) (rest : List Char) :
    (all (c :: rest)).map name = (opened? (c :: rest)).toList ++ (all rest).map name := by
  have hnames (template : List Char) :
      (all template).map name =
        (List.range template.length).filterMap fun n => opened? (template.drop n) := by
    simp [all, List.map_filterMap, Function.comp_def]
  rw [hnames, hnames, List.length_cons, List.range_succ_eq_map, List.filterMap_cons,
    List.filterMap_map]
  cases hfirst : opened? (c :: rest) <;> simp [hfirst]

/-- What has been read since the last opening brace is all that matters for what is still
found. -/
theorem go_eq (opened : Option (List Char)) (rest : List Char) :
    placeholders.go opened rest =
      (opened.bind fun read => closed? read rest).toList ++ (all rest).map name := by
  induction rest generalizing opened with
  | nil => cases opened <;> rfl
  | cons c rest ih =>
      rw [map_name_all_cons, opened?]
      by_cases hopening : c = '\x7b'
      · subst hopening
        have hnone : (opened.bind fun read => closed? read ('\x7b' :: rest)) = none := by
          cases opened <;> rfl
        rw [hnone, if_pos rfl]
        exact ih (some [])
      · rw [if_neg hopening]
        by_cases hclosing : c = '\x7d'
        · subst hclosing
          have hrest := ih none
          match opened with
          | none | some [] => exact hrest
          | some (d :: read) => exact congrArg ((d :: read).reverse :: ·) hrest
        · unfold placeholders.go
          rw [if_neg hopening, if_neg hclosing, ih]
          cases opened with
          | none => rfl
          | some read =>
              simp only [Option.map_some, Option.bind_some,
                closed?_other hopening hclosing]
              rfl

theorem placeholders_eq (template : List Char) :
    placeholders template = (all template).map name :=
  go_eq none template

end Placeholder

/-! ## Endpoints -/

namespace Endpoint

structure FirstUndeclared (endpoint : Endpoint) (p : Placeholder) : Prop where
  found : p.In endpoint.url.toList
  undeclared : ¬ endpoint.Declares (String.ofList p.name)
  declared_earlier : ∀ other : Placeholder, other.In endpoint.url.toList →
    other.offset < p.offset → endpoint.Declares (String.ofList other.name)

theorem pathParameters_eq (endpoint : Endpoint) :
    endpoint.pathParameters =
      (Placeholder.all endpoint.url.toList).map fun p => String.ofList p.name := by
  rw [pathParameters, Placeholder.placeholders_eq, List.map_map]
  rfl

theorem undeclared?_eq_none_iff_found (endpoint : Endpoint) :
    endpoint.undeclared? = none ↔
      ∀ p : Placeholder, p.In endpoint.url.toList →
        endpoint.Declares (String.ofList p.name) := by
  rw [undeclared?_eq_none_iff, pathParameters_eq, List.forall_mem_map]
  simp only [Placeholder.mem_all_iff]

theorem undeclared?_eq_some_iff_first (endpoint : Endpoint) (name : String) :
    endpoint.undeclared? = some name ↔
      ∃ p, endpoint.FirstUndeclared p ∧ String.ofList p.name = name := by
  rw [undeclared?_eq_some_iff, pathParameters_eq]
  have hascend := Placeholder.all_ascend endpoint.url.toList
  constructor
  · rintro ⟨declared, later, hnames, hdeclared, hundeclared⟩
    obtain ⟨before, rest, hall, rfl, hrest⟩ := List.map_eq_append_iff.1 hnames
    obtain ⟨p, after, rfl, rfl, -⟩ := List.map_eq_cons_iff.1 hrest
    have hmem : p ∈ Placeholder.all endpoint.url.toList := by
      rw [hall]
      exact List.mem_append_right _ List.mem_cons_self
    refine ⟨p, ⟨(Placeholder.mem_all_iff _ _).1 hmem, hundeclared, ?_⟩, rfl⟩
    intro other hother hlt
    rw [← Placeholder.mem_all_iff, hall, List.mem_append] at hother
    rcases hother with hearlier | hlater
    · exact hdeclared _ (List.mem_map_of_mem hearlier)
    · -- The list ascends, so nothing from here on comes earlier.
      rw [hall, List.pairwise_append, List.pairwise_cons] at hascend
      rcases List.mem_cons.1 hlater with rfl | hlater
      · exact absurd hlt (Nat.lt_irrefl _)
      · exact absurd (hascend.2.1.1 other hlater) (Nat.lt_asymm hlt)
  · rintro ⟨p, hfirst, rfl⟩
    obtain ⟨before, after, hall⟩ :=
      List.append_of_mem ((Placeholder.mem_all_iff _ _).2 hfirst.found)
    refine ⟨_, _, by rw [hall, List.map_append, List.map_cons], ?_, hfirst.undeclared⟩
    rw [List.forall_mem_map]
    intro other hother
    apply hfirst.declared_earlier other
    · rw [← Placeholder.mem_all_iff, hall]
      exact List.mem_append_left _ hother
    · rw [hall, List.pairwise_append] at hascend
      exact hascend.2.2 other hother p List.mem_cons_self

end Endpoint

theorem Comparator.expectEndpoint_of_page {σ : Type} {comparison : Comparator σ}
    {expected : Endpoint}
    (hpage : comparison.endpoint = some expected) :
    (comparison.expectEndpoint expected).1 =
      match expected.undeclared? with
      | some name =>
          .error (comparison.driftAt (.undeclaredPathParameter expected.url name))
      | none => .ok () := by
  simp only [expectEndpoint, hpage, if_true]
  cases hfirst : expected.undeclared? <;> rfl

theorem Comparator.page_of_expectEndpoint {σ : Type} {comparison : Comparator σ}
    {expected : Endpoint}
    (hmet : (comparison.expectEndpoint expected).1 = .ok ()) :
    comparison.endpoint = some expected := by
  simp only [expectEndpoint] at hmet
  split at hmet
  · contradiction
  · next actual hpage =>
    split at hmet
    · next hsame => rw [hpage, hsame]
    · contradiction

/-- The placeholders of a template are the texts between braces that have no braces
themselves, in the order in which they stand there.  An endpoint is met just if the page
has it and a parameter in the path has the name of each of them; if the page has it and it
is not met, the drift names the first for which there is none. -/
theorem placeholders_found_and_declared {σ : Type} (template : List Char)
    (comparison : Comparator σ) (expected : Endpoint) :
    (∃ found : List Placeholder, found.Pairwise (fun a b => a.offset < b.offset) ∧
      (∀ p, p ∈ found ↔ p.In template) ∧
      placeholders template = found.map Placeholder.name) ∧
    ((comparison.expectEndpoint expected).1 = .ok () ↔
      comparison.endpoint = some expected ∧
        ∀ p : Placeholder, p.In expected.url.toList →
          expected.Declares (String.ofList p.name)) ∧
    (comparison.endpoint = some expected → ∀ drift,
      (comparison.expectEndpoint expected).1 = .error drift ↔
        ∃ p, expected.FirstUndeclared p ∧
          drift = comparison.driftAt
            (.undeclaredPathParameter expected.url (String.ofList p.name))) := by
  refine ⟨⟨Placeholder.all template, Placeholder.all_ascend template,
    Placeholder.mem_all_iff template, Placeholder.placeholders_eq template⟩, ?_, ?_⟩
  · rw [← Endpoint.undeclared?_eq_none_iff_found]
    constructor
    · intro hmet
      have hpage := Comparator.page_of_expectEndpoint hmet
      rw [Comparator.expectEndpoint_of_page hpage] at hmet
      refine ⟨hpage, ?_⟩
      cases hfirst : expected.undeclared? with
      | none => rfl
      | some name =>
          rw [hfirst] at hmet
          contradiction
    · rintro ⟨hpage, hdeclared⟩
      rw [Comparator.expectEndpoint_of_page hpage, hdeclared]
  · intro hpage drift
    rw [Comparator.expectEndpoint_of_page hpage]
    cases hfirst : expected.undeclared? with
    | none =>
        have hdeclared := (Endpoint.undeclared?_eq_none_iff_found expected).1 hfirst
        refine ⟨nofun, ?_⟩
        rintro ⟨p, hp, -⟩
        exact absurd (hdeclared p hp.found) hp.undeclared
    | some name =>
        have hnames := Endpoint.undeclared?_eq_some_iff_first expected
        obtain ⟨p, hp, rfl⟩ := (hnames name).1 hfirst
        constructor
        · intro hdrift
          exact ⟨p, hp, (Except.error.inj hdrift).symm⟩
        · rintro ⟨other, hother, rfl⟩
          have hname := (hnames _).2 ⟨other, hother, rfl⟩
          rw [hfirst] at hname
          rw [Option.some.inj hname]

/-- Of the placeholders `user_id` and `page` the second is declared in the body only. -/
def listEndpoint : Endpoint where
  method := .get
  url := "/users/\x7b\x7buser_id\x7d/\x7b\x7d/\x7bpage\x7d\x7d"
  parameters :=
    [{ name := "page", location := .body, type := "string", required := false
       description := "", sample := "" },
     { name := "user_id", location := .path, type := "string", required := true
       description := "", sample := "" }]

def listPage : Comparison where
  document := "user"
  elements := []
  endpoint := some listEndpoint

theorem placeholders_found_and_declared_nested :
    listPage.endpoint = some listEndpoint ∧
      (listPage.expectEndpoint listEndpoint).1 =
        .error (listPage.driftAt (.undeclaredPathParameter listEndpoint.url "page")) ∧
      ∃ p, listEndpoint.FirstUndeclared p ∧
        listPage.driftAt (.undeclaredPathParameter listEndpoint.url "page") =
          listPage.driftAt
            (.undeclaredPathParameter listEndpoint.url (String.ofList p.name)) := by
  have hdrift : (listPage.expectEndpoint listEndpoint).1 =
      .error (listPage.driftAt (.undeclaredPathParameter listEndpoint.url "page")) := by
    decide
  have hverdict :=
    placeholders_found_and_declared listEndpoint.url.toList listPage listEndpoint
  exact ⟨rfl, hdrift, (hverdict.2.2 rfl _).1 hdrift⟩

end DocContract
