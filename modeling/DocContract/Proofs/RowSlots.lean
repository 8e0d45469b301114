import DocContract.Proofs.ComputedBodies
import DocContract.Proofs.WrittenTables

/-!
# What a row says in each slot

Several headers stand for one slot of a parameter, the empty header among them, and nothing
keeps a table from having two columns for a slot.  The cells of a row are filled in from
left to right, so the last column for a slot decides what it holds.  A row is then
determined by its parameter, up to the columns that are ignored, just if no two of its
columns are for one slot.
-/

namespace DocContract

/-- The alias table puts a column of this kind under a header. -/
def Column.IsUnder (column : Column) (header : List Char) : Prop :=
  (String.ofList (Text.trim header), column) ∈ Column.headers

instance (column : Column) (header : List Char) : Decidable (column.IsUnder header) :=
  inferInstanceAs (Decidable (_ ∈ _))

theorem Column.lookup_headers_eq_some_iff {name : String} {column : Column} :
    headers.lookup name = some column ↔ (name, column) ∈ headers :=
  lookup_eq_some_iff_mem (by decide)

theorem Column.ofHeader_eq_ok_iff {header : List Char} {column : Column} :
    ofHeader header = .ok column ↔ column.IsUnder header := by
  rw [IsUnder, ← lookup_headers_eq_some_iff, ofHeader]
  cases headers.lookup (String.ofList (Text.trim header)) <;> simp

theorem Column.IsUnder.unique {first second : Column} {header : List Char}
    (hfirst : first.IsUnder header) (hsecond : second.IsUnder header) :
    first = second := by
  rw [← Column.ofHeader_eq_ok_iff] at hfirst hsecond
  exact Except.ok.inj (hfirst.symm.trans hsecond)

theorem Column.ofHeader_of_unknown {header : List Char}
    (hunknown : ∀ column : Column, ¬ column.IsUnder header) :
    ofHeader header = .error (String.ofList (Text.trim header)) := by
  have hlookup : headers.lookup (String.ofList (Text.trim header)) = none := by
    rw [Option.eq_none_iff_forall_ne_some]
    exact fun column hcolumn => hunknown column (lookup_headers_eq_some_iff.1 hcolumn)
  simp only [ofHeader, hlookup]

/-- The columns of a table are those under its headers, unless one of these is unknown: the
first such header is reported. -/
theorem Prose.columns_cases (headers : List (List Char)) :
    (∃ kinds, Prose.columns headers = .ok kinds ∧
     List.Forall₂ (·.IsUnder ·) kinds headers) ∨
      ∃ (before after : List (List Char)) (header : List Char), headers = before ++
        header :: after ∧
        (∀ known ∈ before, ∃ column : Column, column.IsUnder known) ∧
        (∀ column : Column, ¬ column.IsUnder header) ∧
        Prose.columns headers =
          .error (.unknownHeader (String.ofList (Text.trim header))) := by
  induction headers with
  | nil => exact .inl ⟨[], rfl, .nil⟩
  | cons header headers ih =>
      by_cases hknown : ∃ column : Column, column.IsUnder header
      · obtain ⟨column, hcolumn⟩ := hknown
        have hok := Column.ofHeader_eq_ok_iff.2 hcolumn
        rcases ih with ⟨kinds, hkinds, hunder⟩ | ⟨before, after, unknown, rfl, hbefore,
          hunknown, herror⟩
        · refine .inl ⟨column :: kinds, ?_, .cons hcolumn hunder⟩
          rw [Prose.columns] at hkinds ⊢
          rw [List.mapM_cons, hok, hkinds]
          rfl
        · refine .inr ⟨header :: before, after, unknown, rfl, ?_, hunknown, ?_⟩
          · exact List.forall_mem_cons.2 ⟨⟨column, hcolumn⟩, hbefore⟩
          · rw [Prose.columns] at herror ⊢
            rw [List.mapM_cons, hok, herror]
            rfl
      · rw [not_exists] at hknown
        refine .inr ⟨[], headers, header, rfl, by simp, hknown, ?_⟩
        rw [Prose.columns, List.mapM_cons, Column.ofHeader_of_unknown hknown]
        rfl

theorem Prose.columns_eq_ok_iff {headers : List (List Char)} {kinds : List Column} :
    Prose.columns headers = .ok kinds ↔ List.Forall₂ (·.IsUnder ·) kinds headers := by
  constructor
  · intro hok
    rcases Prose.columns_cases headers with
      ⟨found, hfound, hunder⟩ | ⟨_, _, _, -, -, -, herror⟩
    · obtain rfl : kinds = found := Except.ok.inj (hok.symm.trans hfound)
      exact hunder
    · exact absurd (hok.symm.trans herror) (by simp)
  · intro hunder
    induction hunder with
    | nil => rfl
    | @cons column header kinds headers hcolumn hlater ih =>
        rw [Prose.columns] at ih ⊢
        rw [List.mapM_cons, Column.ofHeader_eq_ok_iff.2 hcolumn, ih]
        rfl

/-- The cell of a row at a place, without the blanks at its ends.  It is empty if the row
has no such cell. -/
def trimmedCell (cells : List (List Char)) (place : Nat) : String :=
  String.ofList (Text.trim (cells.getD place []))

/-- The column at a place is the last one for its slot. -/
structure Column.Decides (columns : List Column) (place : Nat) (column : Column) :
    Prop where
  at_place : columns[place]? = some column
  fills : column ≠ .ignored
  last : ∀ later, place < later → columns[later]? ≠ some column

theorem Column.Decides.of_cons {first column : Column}
    {columns : List Column} {place : Nat}
    (hdecides : Decides (first :: columns) (place + 1) column) :
    Decides columns place column where
  at_place := hdecides.at_place
  fills := hdecides.fills
  last := fun later hlater => hdecides.last (later + 1) (Nat.succ_lt_succ hlater)

theorem Column.Decides.cons {column : Column} {columns : List Column} {place : Nat}
    (hdecides : Decides columns place column) (first : Column) :
    Decides (first :: columns) (place + 1) column where
  at_place := hdecides.at_place
  fills := hdecides.fills
  last := by
    intro later hlater
    obtain ⟨later, rfl⟩ : ∃ n, later = n + 1 := ⟨later - 1, by omega⟩
    exact hdecides.last later (Nat.lt_of_succ_lt_succ hlater)

theorem Column.decides_zero_iff {column : Column} {columns : List Column}
    (hfills : column ≠ .ignored) :
    Decides (column :: columns) 0 column ↔ column ∉ columns := by
  constructor
  · intro hdecides hmem
    obtain ⟨later, hlater⟩ := List.mem_iff_getElem?.1 hmem
    exact hdecides.last (later + 1) (Nat.succ_pos later) hlater
  · intro hother
    refine ⟨rfl, hfills, fun later hlater hcolumn => ?_⟩
    obtain ⟨later, rfl⟩ : ∃ n, later = n + 1 := ⟨later - 1, by omega⟩
    exact hother (List.mem_of_getElem? hcolumn)

theorem Column.exists_decides_of_mem {column : Column} {columns : List Column}
    (hfills : column ≠ .ignored) (hmem : column ∈ columns) :
    ∃ place, Decides columns place column := by
  induction columns with
  | nil => simp at hmem
  | cons first columns ih =>
      by_cases hlater : column ∈ columns
      · obtain ⟨place, hplace⟩ := ih hlater
        exact ⟨place + 1, hplace.cons first⟩
      · obtain rfl : column = first := (List.mem_cons.1 hmem).resolve_right hlater
        exact ⟨0, (decides_zero_iff hfills).2 hlater⟩

/-! ## What a row is read as -/

theorem Parameter.ofRow_go_cons (parameter : Parameter) (column : Column)
    (columns : List Column)
    (cells : List (List Char)) :
    ofRow.go parameter (column :: columns) cells =
      ofRow.go (column.fill parameter (trimmedCell cells 0)) columns cells.tail := by
  cases cells <;> rfl

theorem trimmedCell_tail (cells : List (List Char)) (place : Nat) :
    trimmedCell cells.tail place = trimmedCell cells (place + 1) := by
  cases cells <;> simp [trimmedCell]

/-- A slot holds the cell under the last column for it. -/
theorem Parameter.slot_go_of_decides {column : Column}
    {columns : List Column} {place : Nat}
    (hdecides : Column.Decides columns place column) (parameter : Parameter)
    (cells : List (List Char)) :
    column.slot (ofRow.go parameter columns cells) = trimmedCell cells place := by
  induction columns generalizing parameter cells place with
  | nil => exact absurd hdecides.at_place (by simp)
  | cons first columns ih =>
      rw [ofRow_go_cons]
      cases place with
      | zero =>
          obtain rfl : first = column := Option.some.inj hdecides.at_place
          have hother := (Column.decides_zero_iff hdecides.fills).1 hdecides
          rw [slot_go_of_notMem hother, Column.slot_fill_self hdecides.fills]
      | succ place => rw [ih hdecides.of_cons, trimmedCell_tail]

theorem Parameter.slot_ofRow_of_decides {column : Column}
    {columns : List Column} {place : Nat}
    (hdecides : Column.Decides columns place column) (cells : List (List Char)) :
    column.slot (ofRow columns cells) = trimmedCell cells place :=
  slot_go_of_decides hdecides _ cells

theorem Parameter.slot_ofRow_of_notMem {column : Column} {columns : List Column}
    (hother : column ∉ columns) (cells : List (List Char)) :
    column.slot (ofRow columns cells) = "" := by
  rw [ofRow, slot_go_of_notMem hother]
  cases column <;> rfl

/-- Two rows are read alike just if they agree under the columns that decide. -/
theorem Parameter.ofRow_eq_iff {columns : List Column} {cells other : List (List Char)} :
    ofRow columns cells = ofRow columns other ↔
      ∀ place column, Column.Decides columns place column →
        trimmedCell cells place = trimmedCell other place := by
  constructor
  · intro hsame place column hdecides
    rw [← slot_ofRow_of_decides hdecides, hsame, slot_ofRow_of_decides hdecides]
  · intro hagree
    refine eq_of_slots fun column hfills => ?_
    by_cases hmem : column ∈ columns
    · obtain ⟨place, hdecides⟩ := Column.exists_decides_of_mem hfills hmem
      rw [slot_ofRow_of_decides hdecides, slot_ofRow_of_decides hdecides,
        hagree place column hdecides]
    · rw [slot_ofRow_of_notMem hmem, slot_ofRow_of_notMem hmem]

/-- No two columns of a table are for one slot. -/
def Column.SlotsDiffer (columns : List Column) : Prop :=
  (columns.filter (· ≠ .ignored)).Nodup

instance (columns : List Column) : Decidable (Column.SlotsDiffer columns) :=
  inferInstanceAs (Decidable (List.Nodup _))

theorem Column.slotsDiffer_iff {columns : List Column} :
    SlotsDiffer columns ↔ ∀ place column, columns[place]? = some column →
      column ≠ .ignored →
      Decides columns place column := by
  rw [SlotsDiffer, List.Nodup, List.pairwise_filter, List.pairwise_iff_getElem]
  simp only [decide_eq_true_eq]
  constructor
  · intro hdiffer place column hplace hfills
    refine ⟨hplace, hfills, fun later hlater hsame => ?_⟩
    obtain ⟨hlt, rfl⟩ := List.getElem?_eq_some_iff.1 hplace
    obtain ⟨hlt', hcolumn⟩ := List.getElem?_eq_some_iff.1 hsame
    exact hdiffer place later hlt hlt' hlater hfills (hcolumn ▸ hfills) hcolumn.symm
  · intro hdecides place later hplace hlater hlt hfills _ hsame
    have hlast :=
      (hdecides place _ (List.getElem?_eq_getElem hplace) hfills).last later hlt
    exact hlast (by rw [hsame, List.getElem?_eq_getElem hlater])

/-- Where a later column is for the same slot, a cell can change without being noticed. -/
theorem Column.exists_rows_alike {columns : List Column}
    (hshared : ¬ SlotsDiffer columns) :
    ∃ (place : Nat) (column : Column) (cells other : List (List Char)),
      columns[place]? = some column ∧ column ≠ .ignored ∧
      cells.length = columns.length ∧ other.length = columns.length ∧
      trimmedCell cells place ≠ trimmedCell other place ∧
      Parameter.ofRow columns cells = Parameter.ofRow columns other := by
  rw [slotsDiffer_iff] at hshared
  push Not at hshared
  obtain ⟨place, column, hplace, hfills, hundecided⟩ := hshared
  have hlt : place < columns.length := (List.getElem?_eq_some_iff.1 hplace).1
  have hblank (n : Nat) : trimmedCell (List.replicate columns.length []) n = "" := by
    by_cases hn : n < columns.length <;> simp [trimmedCell, hn] <;> rfl
  have hmark (n : Nat) :
    trimmedCell ((List.replicate columns.length []).set place ['x']) n =
      if n = place then "x" else "" := by
    by_cases hn : n = place
    · subst hn
      simp [trimmedCell, hlt]
      rfl
    · rw [if_neg hn, ← hblank n, trimmedCell, trimmedCell, List.getD_eq_getElem?_getD,
        List.getElem?_set_ne (Ne.symm hn), List.getD_eq_getElem?_getD]
  refine ⟨place, column, (List.replicate columns.length []).set place ['x'],
    List.replicate columns.length [], hplace, hfills, by simp, by simp, ?_, ?_⟩
  · rw [hmark, hblank, if_pos rfl]
    decide
  · refine Parameter.ofRow_eq_iff.2 fun n other hdecides => ?_
    rw [hmark, hblank, if_neg]
    rintro rfl
    obtain rfl : column = other := Option.some.inj (hplace.symm.trans hdecides.at_place)
    exact hundecided hdecides

/-- Under known headers each slot holds the cell of the last column for it, and rows are
read alike just if they agree in these columns.  So a table tells its rows apart, but for
the columns that are ignored, if its columns are for different slots; and if they are not,
there are rows that it does not tell apart. -/
theorem rows_told_apart {headers : List (List Char)}
    (hknown : ∀ header ∈ headers, ∃ column : Column, column.IsUnder header) :
    ∃ columns, Prose.columns headers = .ok columns ∧
      List.Forall₂ (·.IsUnder ·) columns headers ∧
      (∀ cells column, column ≠ .ignored →
        (∀ place, Column.Decides columns place column →
          column.slot (.ofRow columns cells) = trimmedCell cells place) ∧
        (column ∉ columns → column.slot (.ofRow columns cells) = "")) ∧
      (∀ cells other, Parameter.ofRow columns cells = .ofRow columns other ↔
        ∀ place column, Column.Decides columns place column →
          trimmedCell cells place = trimmedCell other place) ∧
      (Column.SlotsDiffer columns →
        ∀ place column, columns[place]? = some column → column ≠ .ignored → ∀ cells other,
          column.slot (.ofRow columns cells) = trimmedCell cells place ∧
          (trimmedCell cells place ≠ trimmedCell other place →
            Parameter.ofRow columns cells ≠ .ofRow columns other)) ∧
      (¬ Column.SlotsDiffer columns →
        ∃ place column cells other, columns[place]? = some column ∧ column ≠ .ignored ∧
          cells.length = columns.length ∧ other.length = columns.length ∧
          trimmedCell cells place ≠ trimmedCell other place ∧
          Parameter.ofRow columns cells = .ofRow columns other) := by
  rcases Prose.columns_cases headers with
    ⟨columns, hok, hunder⟩ | ⟨before, after, header, rfl, -, hno, -⟩
  · refine ⟨columns, hok, hunder, fun cells column _ => ?_, fun cells other =>
      Parameter.ofRow_eq_iff,
      fun hdiffer place column hplace hfills cells other => ?_, Column.exists_rows_alike⟩
    · exact ⟨fun place hdecides => Parameter.slot_ofRow_of_decides hdecides cells,
        fun hother => Parameter.slot_ofRow_of_notMem hother cells⟩
    · have hdecides := Column.slotsDiffer_iff.1 hdiffer place column hplace hfills
      refine ⟨Parameter.slot_ofRow_of_decides hdecides cells, fun hne hsame => hne ?_⟩
      exact Parameter.ofRow_eq_iff.1 hsame place column hdecides
  · obtain ⟨column, hcolumn⟩ := hknown header (by simp)
    exact absurd hcolumn (hno column)

theorem rows_told_apart_unnamed :
    let headers := [" Field ".toList, "Updatable".toList, [], "HTTP method".toList]
    let columns : List Column := [.property, .ignored, .property, .type]
    (∀ header ∈ headers, ∃ column : Column, column.IsUnder header) ∧
      Prose.columns headers = .ok columns ∧
      ∀ cells, Column.property.slot (.ofRow columns cells) = trimmedCell cells 2 := by
  intro headers columns
  have hunder : List.Forall₂ (·.IsUnder ·) columns headers := by decide +kernel
  have hknown : ∀ header ∈ headers, ∃ column : Column, column.IsUnder header := by
    intro header hheader
    obtain ⟨place, hplace, rfl⟩ := List.getElem_of_mem hheader
    exact ⟨_, hunder.get (hunder.length_eq ▸ hplace) hplace⟩
  obtain ⟨found, hfound, -, hslots, -⟩ := rows_told_apart hknown
  obtain rfl : columns = found :=
    Except.ok.inj ((Prose.columns_eq_ok_iff.2 hunder).symm.trans hfound)
  have hdecides : Column.Decides columns 2 .property := by
    refine ⟨rfl, by decide, fun later hlater => ?_⟩
    rcases later with _ | _ | _ | _ | later <;> simp [columns] at hlater ⊢
  exact ⟨hknown, hfound, fun cells => (hslots cells .property (by decide)).1 2 hdecides⟩

/-- A table with a property, its type, and a column without a name. -/
def unnamedColumn (property : List Char) : List Char :=
  "| Property | Type | |\n|---|---|---|\n| ".toList ++ property ++ " | string | |\n".toList

/-- The column without a name is for the property too, and its cell is empty. -/
theorem renamed_property_unnoticed :
    let columns : List Column := [.property, .type, .property]
    let row := ["id".toList, "string".toList, []]
    let renamed := ["name".toList, "string".toList, []]
    List.Forall₂ (·.IsUnder ·) columns ["Property".toList, "Type".toList, []] ∧
      columns[0]? = some .property ∧
      Column.property.slot (.ofRow columns row) ≠ trimmedCell row 0 ∧
      trimmedCell row 0 ≠ trimmedCell renamed 0 ∧
      Parameter.ofRow columns row = .ofRow columns renamed ∧
      bodyElements Markdown.read (String.ofList (unnamedColumn "id".toList)) =
        .ok [.parameter ⟨"", "string", "", ""⟩] ∧
      bodyElements Markdown.read (String.ofList (unnamedColumn "name".toList)) =
        .ok [.parameter ⟨"", "string", "", ""⟩] := by
  refine ⟨by decide +kernel, rfl,
    by decide +kernel, by decide +kernel, by decide +kernel, ?_, ?_⟩
  · exact bodyElements_of_spells (.literal _) (by decide +kernel)
  · exact bodyElements_of_spells (.literal _) (by decide +kernel)

end DocContract
