import DocContract.Proofs.BodyComposition
import DocContract.Proofs.WrittenHtml
import DocContract.Proofs.WrittenJson
import Mathlib.Data.List.Permutation

/-!
# Reading written parameter tables

A parameter table is written as a directive whose JSON has the headers as a row of their
own, named `h`, and the other rows by their numbers.  Whatever the texts of the cells are,
the JSON stands on one line that does not close the directive, the keys of the cells are
told apart by their first hyphen, and they reach all rows and columns.  So each row is read
as one parameter, and a slot of it holds the text of the one column for it.
-/

namespace DocContract

open Json (ReadsBack MembersRead)

/-- The text of a parameter that a column fills. -/
def Column.slot (column : Column) (parameter : Parameter) : String :=
  match column with
  | property => parameter.property
  | type => parameter.type
  | description => parameter.description
  | exampleValue => parameter.exampleValue
  | ignored => ""

theorem Column.slot_fill_of_ne {column other : Column} (hne : other ≠ column)
    (parameter : Parameter)
    (cell : String) : column.slot (other.fill parameter cell) = column.slot parameter := by
  cases column <;> cases other <;> first | rfl | exact absurd rfl hne

theorem Column.slot_fill_self {column : Column} (hfills : column ≠ .ignored)
    (parameter : Parameter)
    (cell : String) : column.slot (column.fill parameter cell) = cell := by
  cases column with
  | ignored => exact absurd rfl hfills
  | property | type | description | exampleValue => rfl

theorem Parameter.eq_of_slots {parameter other : Parameter}
    (hslots : ∀ column : Column, column ≠ .ignored →
      column.slot parameter = column.slot other) :
    parameter = other := by
  cases parameter
  cases other
  have hproperty := hslots .property (by decide)
  have htype := hslots .type (by decide)
  have hdescription := hslots .description (by decide)
  have hexample := hslots .exampleValue (by decide)
  simp_all [Column.slot]

/-- Columns for other slots leave a slot as it is. -/
theorem Parameter.slot_go_of_notMem {column : Column} {columns : List Column}
    (hother : column ∉ columns) (parameter : Parameter) (cells : List (List Char)) :
    column.slot (Parameter.ofRow.go parameter columns cells) = column.slot parameter := by
  induction columns generalizing parameter cells with
  | nil => simp [Parameter.ofRow.go]
  | cons first columns ih =>
      rw [List.mem_cons, not_or] at hother
      cases cells with
      | nil =>
          rw [Parameter.ofRow.go, ih hother.2, Column.slot_fill_of_ne (Ne.symm hother.1)]
      | cons cell cells =>
          rw [Parameter.ofRow.go, ih hother.2, Column.slot_fill_of_ne (Ne.symm hother.1)]

/-- A slot holds the cell of the column for it, if there is one such column only. -/
theorem Parameter.slot_go_of_mem {column : Column} {columns : List Column}
    (hfills : column ≠ .ignored) (hnodup : (columns.filter (· ≠ .ignored)).Nodup)
    (parameter : Parameter) {cells : List (List Char)} {cell : List Char}
    (hmem : (column, cell) ∈ columns.zip cells) :
    column.slot (Parameter.ofRow.go parameter columns cells) =
      String.ofList (Text.trim cell) := by
  induction columns generalizing parameter cells with
  | nil => simp at hmem
  | cons first columns ih =>
      cases cells with
      | nil => simp at hmem
      | cons text cells =>
          rw [Parameter.ofRow.go]
          rw [List.zip_cons_cons, List.mem_cons] at hmem
          rcases hmem with hsame | hlater
          · obtain ⟨rfl, rfl⟩ := Prod.mk.inj hsame
            have hother : column ∉ columns := by
              rw [List.filter_cons_of_pos (by simpa using hfills), List.nodup_cons]
                at hnodup
              intro hmem
              exact hnodup.1 (List.mem_filter.2 ⟨hmem, by simpa using hfills⟩)
            rw [slot_go_of_notMem hother, Column.slot_fill_self hfills]
          · apply ih _ _ hlater
            by_cases hfirst : first = .ignored
            · rwa [List.filter_cons_of_neg (by simpa using hfirst)] at hnodup
            · rw [List.filter_cons_of_pos (by simpa using hfirst)] at hnodup
              exact (List.nodup_cons.1 hnodup).2

/-- The key of a cell in a row and column. -/
def cellKey (row : String) (column : Nat) : String :=
  row ++ "-" ++ toString column

theorem hyphen_notMem_toString (n : Nat) : '-' ∉ (toString n).toList := by
  intro hmem
  exact absurd (Json.isDigit_of_mem_toString hmem) (by decide)

theorem splitAt?_cellKey {row : String} (hrow : '-' ∉ row.toList) (column : Nat) :
    Text.splitAt? '-' (cellKey row column).toList =
      some (row.toList, (toString column).toList) := by
  have hkey : (cellKey row column).toList = row.toList ++ '-' ::
      (toString column).toList := by
    rw [cellKey, String.toList_append, String.toList_append, List.append_assoc]
    rfl
  rw [hkey, Text.splitAt?_of_not_mem hrow]

theorem toString_inj {m n : Nat} (hsame : (toString m).toList = (toString n).toList) :
    m = n := by
  rw [← Json.decimalValue_toString m, hsame, Json.decimalValue_toString]

theorem cellKey_inj {row other : String} (hrow : '-' ∉ row.toList)
    (hother : '-' ∉ other.toList)
    {column place : Nat} (hkey : cellKey row column = cellKey other place) :
    row = other ∧ column = place := by
  have hsplit := splitAt?_cellKey hrow column
  rw [hkey, splitAt?_cellKey hother, Option.some.injEq, Prod.mk.injEq] at hsplit
  exact ⟨String.toList_injective hsplit.1.symm, toString_inj hsplit.2.symm⟩

theorem CellTable.index?_toString {n : Nat} (hn : n < UInt64.size) :
    index? (toString n).toList = some n := by
  obtain ⟨c, cs, hdigits, hdigit⟩ := Json.exists_toString_eq n
  have hall : (c :: cs).all (fun c => '0' ≤ c && c ≤ '9') = true := by
    rw [← hdigits, List.all_eq_true]
    exact fun d hd => Json.isDigit_of_mem_toString hd
  have hvalue : Json.decimalValue (c :: cs) = n := hdigits ▸ Json.decimalValue_toString n
  have hsign : c ≠ '+' := Json.ne_of_digit hdigit (by decide)
  rw [hdigits]
  unfold index?
  split
  · next heq => exact absurd (List.cons.inj heq).1 hsign
  · simp [hall, hvalue, hn]

def Column.under (header : String) : Column :=
  (headers.lookup header).getD .ignored

theorem Column.ofHeader_of_known {header : String}
    (hknown : header ∈ headers.map Prod.fst) :
    ofHeader header.toList = .ok (under header) := by
  have hall : ∀ known ∈ headers.map Prod.fst, ofHeader known.toList =
      .ok (under known) := by
    decide +kernel
  exact hall header hknown

theorem lookup_eq_some_iff_mem {α β : Type} [BEq α] [LawfulBEq α] {entries : List (α × β)}
    (hnodup : (entries.map Prod.fst).Nodup) {key : α} {value : β} :
    entries.lookup key = some value ↔ (key, value) ∈ entries := by
  induction entries with
  | nil => simp
  | cons entry entries ih =>
      rw [List.map_cons, List.nodup_cons] at hnodup
      by_cases hkey : key = entry.1
      · subst hkey
        have hlater : (entry.1, value) ∉ entries := fun hmem =>
          hnodup.1 (List.mem_map.2 ⟨_, hmem, rfl⟩)
        rw [List.lookup_cons_self, List.mem_cons, Option.some.injEq]
        simp [Prod.ext_iff, hlater, eq_comm]
      · rw [List.lookup_cons, beq_false_of_ne hkey, ih hnodup.2, List.mem_cons]
        simp [Prod.ext_iff, hkey]

namespace CellTable

/-- Members whose keys differ are all kept. -/
theorem lastOfEach_of_nodup {cells : List (String × String)}
    (hnodup : (cells.map Prod.fst).Nodup) : lastOfEach cells = cells := by
  induction cells with
  | nil => rfl
  | cons cell cells ih =>
      obtain ⟨key, text⟩ := cell
      rw [List.map_cons, List.nodup_cons] at hnodup
      have hnew : ¬ cells.any (fun member => member.1 == key) = true := by
        rw [List.any_eq_true]
        rintro ⟨member, hmember, hsame⟩
        exact hnodup.1 (List.mem_map.2 ⟨member, hmember, beq_iff_eq.1 hsame⟩)
      rw [lastOfEach, ih hnodup.2]
      exact if_neg hnew

theorem cell_of_mem {table : CellTable} (hnodup : (table.cells.map Prod.fst).Nodup)
    {key text : String} (hmem : (key, text) ∈ table.cells) :
    table.cell key = text.toList := by
  rw [cell, (lookup_eq_some_iff_mem hnodup).2 hmem]
  rfl

theorem le_foldl_max {n : Nat} {ns : List Nat} (hmem : n ∈ ns) (top : Nat) :
    n + 1 ≤ ns.foldl (fun top n => max top (n + 1)) top := by
  have hgrows : ∀ (ns : List Nat) (top : Nat),
      top ≤ ns.foldl (fun top n => max top (n + 1)) top := by
    intro ns
    induction ns with
    | nil => exact fun top => Nat.le_refl top
    | cons m ns ih => exact fun top => Nat.le_trans (Nat.le_max_left ..) (ih _)
  induction ns generalizing top with
  | nil => simp at hmem
  | cons m ns ih =>
      rw [List.foldl_cons]
      rcases List.mem_cons.1 hmem with rfl | hlater
      · exact Nat.le_trans (Nat.le_max_right ..) (hgrows ns _)
      · exact ih hlater _

/-- Texts reach behind each index among them. -/
theorem lt_reach {limit n : Nat} {texts : List (List Char)} (hlimit : n < limit)
    (hn : n < UInt64.size) (hmem : (toString n).toList ∈ texts) :
    n < reach limit texts := by
  have hindex : n ∈ texts.filterMap index? :=
    List.mem_filterMap.2 ⟨_, hmem, index?_toString hn⟩
  exact Nat.lt_min.2 ⟨hlimit, le_foldl_max hindex 0⟩

theorem mem_coordinates (table : CellTable) {name text : String} {column : Nat}
    (hname : '-' ∉ name.toList) (hmem : (cellKey name column, text) ∈ table.cells) :
    (name.toList, (toString column).toList) ∈ table.coordinates :=
  List.mem_filterMap.2 ⟨_, hmem, splitAt?_cellKey hname column⟩

/-! ## Members in any order -/

section Members

variable {cells : List (String × String)} {columns rows : Nat} (draft : Draft)
    {rest : List Char}
  (hends : Json.EndsMember rest)

include hends

theorem read_data (cells : List (String × String)) :
    (Json.Member.ofField "data" Draft.cells
      (fun draft cells => { draft with cells := some (lastOfEach cells) })
      (Json.object Json.text)).read draft
        ((Json.Value.object (cells.map fun (key, text) => (key, .text text))).compact ++
          rest) =
      .ok ({ draft with cells := some (lastOfEach cells) }, rest) := by
  have hobject : ReadsBack (Json.object Json.text)
      (.object (cells.map fun (key, text) => (key, .text text))) cells := by
    refine Json.readsBack_object ?_
    rw [List.forall₂_map_left_iff, List.forall₂_same]
    exact fun member _ => ⟨rfl, Json.readsBack_text member.2⟩
  exact Json.read_ofField "data" hobject draft rest hends

theorem read_columns (hcolumns : columns < UInt64.size) :
    (Json.Member.ofField "cols" Draft.columns
      (fun draft n => { draft with columns := some n })
      Json.natural).read draft ((Json.Value.natural columns).compact ++ rest) =
      .ok ({ draft with columns := some columns }, rest) :=
  Json.read_ofField_of_reader "cols" draft (Json.natural_written hends hcolumns)

theorem read_rows (hrows : rows < UInt64.size) :
    (Json.Member.ofField "rows" Draft.rows (fun draft n => { draft with rows := some n })
      Json.natural).read draft ((Json.Value.natural rows).compact ++ rest) =
      .ok ({ draft with rows := some rows }, rest) :=
  Json.read_ofField_of_reader "rows" draft (Json.natural_written hends hrows)

end Members

/-- The members of a table fill different fields, and each order of them fills the same
ones. -/
theorem readsBack_members
    {cells : List (String × String)} {columns rows : Nat}
    (hnodup : (cells.map Prod.fst).Nodup)
    (hcolumns : columns < UInt64.size) (hrows : rows < UInt64.size)
    {members : List (String × Json.Value)}
    (hmembers : members.Perm
      [("data", .object (cells.map fun (key, text) => (key, .text text))),
       ("cols", .natural columns), ("rows", .natural rows)]) :
    ReadsBack reader (.object members) { cells, columns, rows } := by
  have hdata (draft : Draft) (rest : List Char) (hends : Json.EndsMember rest) :=
    read_data draft hends cells
  have hcolumns (draft : Draft) (rest : List Char) (hends : Json.EndsMember rest) :=
    read_columns draft hends hcolumns
  have hrows (draft : Draft) (rest : List Char) (hends : Json.EndsMember rest) :=
    read_rows draft hends hrows
  have hfinish : (do
      return { cells := (some (lastOfEach cells)).getD []
               columns := ← some columns
               rows := ← some rows } : Option CellTable) =
                 some { cells, columns, rows } := by
    rw [lastOfEach_of_nodup hnodup]
    rfl
  rw [← List.mem_permutations'] at hmembers
  simp only [List.permutations', List.permutations'Aux, List.flatMap_cons,
    List.flatMap_nil,
    List.map_cons, List.map_nil, List.cons_append, List.nil_append, List.mem_cons,
    List.not_mem_nil, or_false] at hmembers
  rcases hmembers with rfl | rfl | rfl | rfl | rfl | rfl
  · exact Json.readsBack_record
      (.cons rfl rfl (hdata _) (.cons rfl rfl (hcolumns _) (.cons rfl rfl (hrows _) .nil)))
        hfinish
  · exact Json.readsBack_record
      (.cons rfl rfl (hcolumns _) (.cons rfl rfl (hdata _) (.cons rfl rfl (hrows _) .nil)))
        hfinish
  · exact Json.readsBack_record
      (.cons rfl rfl (hcolumns _) (.cons rfl rfl (hrows _) (.cons rfl rfl (hdata _) .nil)))
        hfinish
  · exact Json.readsBack_record
      (.cons rfl rfl (hdata _) (.cons rfl rfl (hrows _) (.cons rfl rfl (hcolumns _) .nil)))
        hfinish
  · exact Json.readsBack_record
      (.cons rfl rfl (hrows _) (.cons rfl rfl (hdata _) (.cons rfl rfl (hcolumns _) .nil)))
        hfinish
  · exact Json.readsBack_record
      (.cons rfl rfl (hrows _) (.cons rfl rfl (hcolumns _) (.cons rfl rfl (hdata _) .nil)))
        hfinish

end CellTable

theorem mapM_of_ok
    {ε α β : Type} {attempt : α → Except ε β} (found : α → β) {as : List α}
    (hok : ∀ a ∈ as, attempt a = .ok (found a)) :
    as.mapM attempt = .ok (as.map found) := by
  induction as with
  | nil => rfl
  | cons a as ih =>
      rw [List.forall_mem_cons] at hok
      rw [List.mapM_cons, hok.1, ih hok.2]
      rfl

/-- A parameter table under known headers, of which no two are for one slot of a parameter.
It has no more columns and rows than a number of 64 bits counts. -/
structure WrittenTable where
  headers : List String
  rows : List (List String)
  headers_ne_nil : headers ≠ []
  known : ∀ header ∈ headers, header ∈ Column.headers.map Prod.fst
  slots_nodup : ((headers.map Column.under).filter (· ≠ .ignored)).Nodup
  width : ∀ row ∈ rows, row.length = headers.length
  headers_lt : headers.length < UInt64.size
  rows_lt : rows.length < UInt64.size

namespace WrittenTable

/-- The rows with the names that they have in the keys; the headers come first. -/
def namedRows (table : WrittenTable) : List (String × List String) :=
  ("h", table.headers) :: table.rows.zipIdx.map fun (row, number) => (toString number, row)

def cells (table : WrittenTable) : List (String × String) :=
  table.namedRows.flatMap fun (name, row) =>
    row.zipIdx.map fun (text, column) => (cellKey name column, text)

/-- A table is written as an object that has its cells by their keys and the numbers of its
columns and rows.  The members of the two objects may stand in any order. -/
def IsWrittenAs (table : WrittenTable) (value : Json.Value) : Prop :=
  ∃ (cells : List (String × String)) (members : List (String × Json.Value)),
    cells.Perm table.cells ∧ members.Perm
      [("data", .object (cells.map fun (key, text) => (key, .text text))),
       ("cols", .natural table.headers.length), ("rows", .natural table.rows.length)] ∧
    value = .object members

/-- A parameter has the texts of a row, each without the blanks at its ends, in the slots
that the columns are for, and no text in the other slots. -/
structure Decodes (table : WrittenTable) (row : List String) (parameter : Parameter) :
    Prop where
  filled : ∀ header cell, (header, cell) ∈ table.headers.zip row →
    Column.under header ≠ .ignored →
      (Column.under header).slot parameter = String.ofList (Text.trim cell.toList)
  empty : ∀ column, column ∉ table.headers.map Column.under → column.slot parameter = ""

section Cells

variable (table : WrittenTable)

theorem mem_namedRows {number : Nat} {row : List String}
    (hrow : table.rows[number]? = some row) :
    (toString number, row) ∈ table.namedRows := by
  refine List.mem_cons_of_mem _ (List.mem_map.2 ⟨(row, number), ?_, rfl⟩)
  exact List.mk_mem_zipIdx_iff_getElem?.2 hrow

theorem hyphen_notMem_name {name : String} {row : List String}
    (hmem : (name, row) ∈ table.namedRows) : '-' ∉ name.toList := by
  rcases List.mem_cons.1 hmem with hheaders | hrow
  · obtain ⟨rfl, -⟩ := Prod.mk.inj hheaders
    decide
  · obtain ⟨⟨row, number⟩, -, hsame⟩ := List.mem_map.1 hrow
    obtain ⟨rfl, -⟩ := Prod.mk.inj hsame
    exact hyphen_notMem_toString number

theorem length_of_mem_namedRows {name : String} {row : List String}
    (hmem : (name, row) ∈ table.namedRows) : row.length = table.headers.length := by
  rcases List.mem_cons.1 hmem with hheaders | hrow
  · rw [(Prod.mk.inj hheaders).2]
  · obtain ⟨⟨found, number⟩, hfound, hsame⟩ := List.mem_map.1 hrow
    rw [← (Prod.mk.inj hsame).2]
    exact table.width found (List.fst_mem_of_mem_zipIdx hfound)

theorem names_nodup : (table.namedRows.map Prod.fst).Nodup := by
  have hnumbers :
    (table.rows.zipIdx.map fun (row, number) => (toString number, row)).map Prod.fst =
      (List.range table.rows.length).map toString := by
    rw [List.map_map, List.range_eq_range', ← List.zipIdx_map_snd, List.map_map]
    rfl
  rw [namedRows, List.map_cons, hnumbers, List.nodup_cons]
  constructor
  · rw [List.mem_map]
    rintro ⟨number, -, hsame⟩
    have hname : "h".toList = (toString number).toList := congrArg String.toList hsame.symm
    have hletter : 'h' ∈ (toString number).toList := hname ▸ (by decide : 'h' ∈ "h".toList)
    exact absurd (Json.isDigit_of_mem_toString hletter) (by decide)
  · exact List.nodup_range.map fun m n hsame => toString_inj (congrArg String.toList hsame)

theorem mem_cells_iff {key text : String} :
    (key, text) ∈ table.cells ↔ ∃ name row column,
      (name, row) ∈ table.namedRows ∧ row[column]? = some text ∧
      key = cellKey name column := by
  simp only [cells, List.mem_flatMap, List.mem_map, Prod.exists, Prod.mk.injEq,
    List.mk_mem_zipIdx_iff_getElem?]
  constructor
  · rintro ⟨name, row, hrow, _, column, htext, rfl, rfl⟩
    exact ⟨name, row, column, hrow, htext, rfl⟩
  · rintro ⟨name, row, column, hrow, htext, rfl⟩
    exact ⟨name, row, hrow, text, column, htext, rfl, rfl⟩

/-- No two cells of a table have the same key. -/
theorem keys_nodup : (table.cells.map Prod.fst).Nodup := by
  have hkeys : table.cells.map Prod.fst = table.namedRows.flatMap fun (name, row) =>
      (List.range row.length).map (cellKey name) := by
    rw [cells, List.map_flatMap]
    refine List.flatMap_congr fun (name, row) _ => ?_
    simp only [List.map_map, List.range_eq_range', ← List.zipIdx_map_snd]
    rfl
  rw [hkeys, List.nodup_flatMap]
  constructor
  · rintro ⟨name, row⟩ hrow
    have hname := table.hyphen_notMem_name hrow
    exact List.nodup_range.map fun m n hsame => (cellKey_inj hname hname hsame).2
  · have hnames : table.namedRows.Pairwise fun first second => first.1 ≠ second.1 :=
      List.pairwise_map.1 table.names_nodup
    refine hnames.imp_of_mem fun {first second} hfirst hsecond hne => ?_
    rintro key hkey hother
    obtain ⟨m, -, rfl⟩ := List.mem_map.1 hkey
    obtain ⟨n, -, hsame⟩ := List.mem_map.1 hother
    exact hne
      (cellKey_inj (table.hyphen_notMem_name hsecond) (table.hyphen_notMem_name hfirst)
      hsame).1.symm

theorem length_cells :
    table.cells.length = (table.rows.length + 1) * table.headers.length := by
  have hlengths : ∀ named ∈ table.namedRows,
      (named.2.zipIdx.map fun (text, column) => (cellKey named.1 column, text)).length =
        table.headers.length := by
    intro named hnamed
    rw [List.length_map, List.length_zipIdx]
    exact table.length_of_mem_namedRows hnamed
  rw [cells, List.length_flatMap, List.map_congr_left hlengths, List.map_const',
    List.sum_replicate_nat]
  simp [namedRows]

end Cells

/-! ## What the reader makes of a table -/

/-- The table that is read, if its cells stand in the given order. -/
def read (table : WrittenTable) (cells : List (String × String)) : CellTable :=
  { cells, columns := table.headers.length, rows := table.rows.length }

theorem IsWrittenAs.readsBack {table : WrittenTable} {value : Json.Value}
    (hwritten : table.IsWrittenAs value) :
    ∃ cells : List (String × String), cells.Perm table.cells ∧
      ReadsBack CellTable.reader value (table.read cells) := by
  obtain ⟨cells, members, hcells, hmembers, rfl⟩ := hwritten
  have hnodup : (cells.map Prod.fst).Nodup :=
    (hcells.map Prod.fst).nodup_iff.2 table.keys_nodup
  exact ⟨cells, hcells,
    CellTable.readsBack_members hnodup table.headers_lt table.rows_lt hmembers⟩

section Permuted

variable (table : WrittenTable) {cells : List (String × String)}
    (hcells : cells.Perm table.cells)

include hcells

theorem cell_read {name text : String} {row : List String} {column : Nat}
    (hrow : (name, row) ∈ table.namedRows) (htext : row[column]? = some text) :
    (table.read cells).cell (cellKey name column) = text.toList := by
  have hnodup : (cells.map Prod.fst).Nodup :=
    (hcells.map Prod.fst).nodup_iff.2 table.keys_nodup
  have hmem : (cellKey name column, text) ∈ cells :=
    hcells.mem_iff.2 (table.mem_cells_iff.2 ⟨name, row, column, hrow, htext, rfl⟩)
  exact CellTable.cell_of_mem hnodup hmem

theorem range_map_cell {name : String} {row : List String}
    (hrow : (name, row) ∈ table.namedRows) :
    (List.range table.headers.length).map
      (fun column => (table.read cells).cell (cellKey name column)) =
        row.map String.toList := by
  have hwidth := table.length_of_mem_namedRows hrow
  refine List.ext_getElem (by simp [hwidth]) fun column hcolumn hplace => ?_
  rw [List.length_map] at hplace
  rw [List.getElem_map, List.getElem_range, List.getElem_map]
  exact table.cell_read hcells hrow (List.getElem?_eq_getElem hplace)

theorem row_read {number : Nat} {row : List String}
    (hrow : table.rows[number]? = some row) :
    (table.read cells).row number = row.map String.toList :=
  table.range_map_cell hcells (table.mem_namedRows hrow)

theorem header_read :
    (table.read cells).header = .ok (table.headers.map Column.under) := by
  have hkey (column : Nat) : "h-" ++ toString column = cellKey "h" column := rfl
  have hrow : ("h", table.headers) ∈ table.namedRows := List.mem_cons_self
  have hheaders := table.range_map_cell hcells hrow
  rw [CellTable.header, mapM_of_ok (fun column =>
    Column.under (String.ofList ((table.read cells).cell ("h-" ++ toString column))))
      ?known]
  case known =>
    intro column hcolumn
    have hplace : column < table.headers.length := List.mem_range.1 hcolumn
    have hcell := table.cell_read hcells hrow (List.getElem?_eq_getElem hplace)
    rw [hkey, hcell, Column.ofHeader_of_known (table.known _ (List.getElem_mem hplace)),
      String.ofList_toList]
  have hcolumns :=
    congrArg (List.map fun header => Column.under (String.ofList header)) hheaders
  rw [List.map_map, List.map_map] at hcolumns
  refine congrArg Except.ok (hcolumns.trans ?_)
  simp

/-- The keys reach the last row, in its first column. -/
theorem rows_le_rowReach : table.rows.length ≤ (table.read cells).rowReach := by
  cases hlast : table.rows.length with
  | zero => exact Nat.zero_le _
  | succ last =>
      have hplace : last < table.rows.length := by omega
      have hrow := table.mem_namedRows (List.getElem?_eq_getElem hplace)
      have hwidth := table.length_of_mem_namedRows hrow
      have hfirst : 0 < table.headers.length := List.length_pos_iff.2 table.headers_ne_nil
      have hmem : (cellKey (toString last) 0, _) ∈ cells :=
        hcells.mem_iff.2 (table.mem_cells_iff.2
          ⟨_, _, 0, hrow, List.getElem?_eq_getElem (hwidth ▸ hfirst), rfl⟩)
      have hcoordinates := (table.read cells).mem_coordinates
        (hyphen_notMem_toString last) hmem
      have hcount : last < cells.length := by
        rw [hcells.length_eq, table.length_cells]
        exact Nat.lt_of_lt_of_le (by omega) (Nat.le_mul_of_pos_right _ hfirst)
      exact CellTable.lt_reach hcount (Nat.lt_trans hplace table.rows_lt)
        (List.mem_map.2 ⟨_, hcoordinates, rfl⟩)

/-- The keys reach the last column, among the headers. -/
theorem columns_le_columnReach :
    table.headers.length ≤ (table.read cells).columnReach := by
  cases hlast : table.headers.length with
  | zero => exact Nat.zero_le _
  | succ last =>
      have hplace : last < table.headers.length := by omega
      have hmem : (cellKey "h" last, _) ∈ cells :=
        hcells.mem_iff.2 (table.mem_cells_iff.2
          ⟨"h", _, last, List.mem_cons_self, List.getElem?_eq_getElem hplace, rfl⟩)
      have hcoordinates := (table.read cells).mem_coordinates (by decide) hmem
      have hcount : last < cells.length := by
        rw [hcells.length_eq, table.length_cells]
        exact Nat.lt_of_lt_of_le hplace (Nat.le_mul_of_pos_left _ (Nat.succ_pos _))
      exact CellTable.lt_reach hcount (Nat.lt_trans hplace table.headers_lt)
        (List.mem_map.2 ⟨_, hcoordinates, rfl⟩)

theorem parameters_read (line : Nat) :
    (table.read cells).parameters line = .ok (table.rows.map fun row =>
      Parameter.ofRow (table.headers.map Column.under) (row.map String.toList)) := by
  have hrows : ¬ (table.read cells).rowReach < table.rows.length :=
    Nat.not_lt.2 (table.rows_le_rowReach hcells)
  have hcolumns : ¬ (table.read cells).columnReach < table.headers.length :=
    Nat.not_lt.2 (table.columns_le_columnReach hcells)
  have hshape : ((table.read cells).rowReach < (table.read cells).rows ||
      (table.read cells).columnReach < (table.read cells).columns) = false := by
    rw [Bool.or_eq_false_iff]
    exact ⟨decide_eq_false hrows, decide_eq_false hcolumns⟩
  have hfound : (List.range table.rows.length).map (fun number =>
      Parameter.ofRow (table.headers.map Column.under) ((table.read cells).row number)) =
        table.rows.map fun row =>
          Parameter.ofRow (table.headers.map Column.under) (row.map String.toList) := by
    refine List.ext_getElem (by simp) fun number hnumber hplace => ?_
    rw [List.length_map] at hplace
    rw [List.getElem_map, List.getElem_range, List.getElem_map,
      table.row_read hcells (List.getElem?_eq_getElem hplace)]
  rw [CellTable.parameters, hshape, table.header_read hcells]
  exact congrArg Except.ok hfound

end Permuted

theorem decodes_ofRow (table : WrittenTable) (row : List String) :
    table.Decodes row
      (Parameter.ofRow (table.headers.map Column.under) (row.map String.toList)) where
  filled := by
    intro header cell hmem hfills
    refine Parameter.slot_go_of_mem hfills table.slots_nodup _ ?_
    rw [List.zip_map]
    exact List.mem_map.2 ⟨(header, cell), hmem, rfl⟩
  empty := by
    intro column hother
    rw [Parameter.ofRow, Parameter.slot_go_of_notMem hother]
    cases column <;> rfl

/-- What a row is read as is determined slot by slot. -/
theorem decodes_iff (table : WrittenTable) {row : List String} (hrow : row ∈ table.rows)
    {parameter : Parameter} :
    table.Decodes row parameter ↔
      parameter = Parameter.ofRow (table.headers.map Column.under)
        (row.map String.toList) := by
  constructor
  · intro hdecodes
    refine Parameter.eq_of_slots fun column hfills => ?_
    have hsame := table.decodes_ofRow row
    by_cases hcolumn : column ∈ table.headers.map Column.under
    · obtain ⟨header, hheader, rfl⟩ := List.mem_map.1 hcolumn
      obtain ⟨place, hplace, rfl⟩ := List.getElem_of_mem hheader
      have hcell : place < row.length := table.width row hrow ▸ hplace
      have hmem : (table.headers[place], row[place]) ∈ table.headers.zip row :=
        List.mem_iff_getElem.2 ⟨place, by simp [hplace, hcell], by simp⟩
      rw [hdecodes.filled _ _ hmem hfills, hsame.filled _ _ hmem hfills]
    · rw [hdecodes.empty column hcolumn, hsame.empty column hcolumn]
  · rintro rfl
    exact table.decodes_ofRow row

end WrittenTable

/-- A body with a parameter table, written on one line. -/
def tableBody (value : Json.Value) (ending : String) : String :=
  "[block:parameters]\n" ++ String.ofList value.compact ++ "\n" ++ "[/block]" ++ ending

theorem splitLines_tableBody (value : Json.Value) {ending : String}
    (hending : ending = "" ∨ ending = "\n") :
    Text.splitLines (tableBody value ending).toList =
      ["[block:parameters]\n".toList, value.compact ++ ['\n'],
       "[/block]".toList ++ ending.toList] := by
  have hopening : Line.IsEnded "[block:parameters]\n".toList :=
    ⟨"[block:parameters]".toList, by decide, by decide⟩
  have hfeed : '\n' ∉ value.compact :=
    fun hmem => absurd (Json.Value.visible_compact value _ hmem) (by decide)
  have hcontent : Line.IsEnded (value.compact ++ ['\n']) := ⟨value.compact, rfl, hfeed⟩
  have happend (opening feed closing : String) :
      (opening ++ String.ofList value.compact ++ feed ++ closing ++ ending).toList =
        opening.toList ++
          ((value.compact ++ feed.toList) ++ (closing.toList ++ ending.toList)) := by
    simp only [String.toList_append, String.toList_ofList, List.append_assoc]
  have hbody : (tableBody value ending).toList =
      "[block:parameters]\n".toList ++
        ((value.compact ++ ['\n']) ++ ("[/block]".toList ++ ending.toList)) :=
    happend _ _ _
  have hclosing : Text.splitLines ("[/block]".toList ++ ending.toList) =
      ["[/block]".toList ++ ending.toList] := by
    rcases hending with rfl | rfl <;> decide
  rw [hbody, Text.splitLines_line_append hopening,
    Text.splitLines_line_append hcontent, hclosing]

/-- The line of an object begins with a brace. -/
theorem isClosing_object_line (members : List (String × Json.Value)) :
    Line.isClosing ((Json.Value.object members).compact ++ ['\n']) = false := by
  have hobject : (Json.Value.object members).IsObject := trivial
  obtain ⟨cs, hcs⟩ := hobject.exists_compact_eq
  rw [hcs, Line.isClosing, beq_eq_false_iff_ne]
  intro hclosing
  have hlast : "[/block]".toList = '[' :: "/block]".toList := rfl
  obtain ⟨tail, hstart⟩ := Text.head_of_trim (hclosing.trans hlast)
  rw [List.cons_append, Text.trimStart, List.dropWhile_cons_of_neg (by decide)] at hstart
  exact absurd (List.cons.inj hstart).1 (by decide)

/-- A table whose columns are for different slots is read row by row, whatever its cells
say: each row is one parameter, which has in a slot the text of the column for it, or
none. -/
theorem parameters_of_written_table
    (blocks : BlockReader) (table : WrittenTable) {value : Json.Value}
    (hwritten : table.IsWrittenAs value) {ending : String}
    (hending : ending = "" ∨ ending = "\n") :
    ∃ parameters, bodyElements blocks (tableBody value ending) =
      .ok (parameters.map .parameter) ∧
      List.Forall₂ table.Decodes table.rows parameters := by
  obtain ⟨cells, hcells, hread⟩ := hwritten.readsBack
  have hinside : Line.isClosing (value.compact ++ ['\n']) = false := by
    obtain ⟨_, members, -, -, rfl⟩ := hwritten
    exact isClosing_object_line members
  have hcloses : Line.isClosing ("[/block]".toList ++ ending.toList) = true := by
    rcases hending with rfl | rfl <;> decide
  have hspans : (Segment.directive "parameters".toList [value.compact ++ ['\n']]).Spans
      ["[block:parameters]\n".toList, value.compact ++ ['\n'],
       "[/block]".toList ++ ending.toList]
      [] :=
    .directive (by decide) (by simpa using hinside) hcloses
  have hcontent : Json.readAll CellTable.reader (value.compact ++ ['\n']) =
      .ok (table.read cells) :=
    Json.readAll_compact_line hread
  have helements : directiveElements "parameters".toList 1 (value.compact ++ ['\n']) =
      .ok ((table.rows.map fun row =>
        Parameter.ofRow (table.headers.map Column.under) (row.map String.toList)).map
          .parameter) := by
    have hkind : DirectiveKind.ofName? "parameters".toList = some .parameters := rfl
    simp only [directiveElements, hkind, readDirective, hcontent, bind, Except.bind, pure,
      Except.pure, table.parameters_read hcells]
  refine ⟨table.rows.map fun row =>
    Parameter.ofRow (table.headers.map Column.under) (row.map String.toList), ?_, ?_⟩
  · rw [bodyElements_of_segment (splitLines_tableBody value hending)
      (Segment.first_eq_of_spans rfl hspans), Segment.elements, List.flatten_singleton]
    exact helements
  · rw [List.forall₂_map_right_iff, List.forall₂_same]
    exact fun row _ => table.decodes_ofRow row

/-- A table with two columns that are ignored, and cells that look like the rest of its
directive. -/
def escapedTable : WrittenTable where
  headers := ["Field", "Updatable", "HTTP method", "Updatable"]
  rows := [["\"na\\me\"", "\n[/block]\n", " \t`string`\u2003", "h-0"], ["", "no", "😀", ""]]
  headers_ne_nil := by decide
  known := by decide
  slots_nodup := by decide
  width := by decide
  headers_lt := by decide
  rows_lt := by decide

/-- Its JSON with the numbers around the cells, and the cells from the last to the
first. -/
def escapedValue : Json.Value :=
  .object
    [("cols", .natural 4),
     ("data",
      .object (escapedTable.cells.reverse.map fun (key, text) => (key, .text text))),
     ("rows", .natural 2)]

theorem parameters_of_escaped_table :
    escapedTable.IsWrittenAs escapedValue ∧
      bodyElements Markdown.read (tableBody escapedValue "\n") =
        .ok [.parameter ⟨"\"na\\me\"", "`string`", "", ""⟩,
          .parameter ⟨"", "😀", "", ""⟩] := by
  have hwritten : escapedTable.IsWrittenAs escapedValue :=
    ⟨escapedTable.cells.reverse, _, List.reverse_perm _, List.Perm.swap .., rfl⟩
  obtain ⟨parameters, hread, hdecodes⟩ :=
    parameters_of_written_table Markdown.read escapedTable hwritten
      (.inr (rfl : "\n" = "\n"))
  have hrows : escapedTable.rows.map (fun row =>
      Parameter.ofRow (escapedTable.headers.map Column.under) (row.map String.toList)) =
        [⟨"\"na\\me\"", "`string`", "", ""⟩, ⟨"", "😀", "", ""⟩] := by decide +kernel
  have hparameters : parameters = escapedTable.rows.map fun row =>
      Parameter.ofRow (escapedTable.headers.map Column.under) (row.map String.toList) := by
    rcases hdecodes with _ | ⟨hfirst, _ | ⟨hsecond, _ | _⟩⟩
    rw [(escapedTable.decodes_iff (by decide)).1 hfirst,
      (escapedTable.decodes_iff (by decide)).1 hsecond]
    rfl
  refine ⟨hwritten, ?_⟩
  rw [hread, hparameters, hrows]
  rfl

end DocContract
