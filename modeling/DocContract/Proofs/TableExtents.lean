import DocContract.Proofs.DecodedTables
import DocContract.Proofs.RowSlots
import Mathlib.Order.Bounds.Basic

/-!
# How far a table reaches

The keys of a table are divided by their first hyphens, and the numbers that the parts
write bound the rows and columns that the table may declare.  There are never more of these
than keys, so the successor of the largest index can be left at the largest number of 64
bits.  Within these bounds the first unknown header is reported, or else each row is one
parameter.
-/

namespace DocContract

/-- A text writes a number below `2 ^ 64` in decimal digits, behind a plus sign or without
one. -/
def WritesIndex (text : List Char) (n : Nat) : Prop :=
  ∃ digits : List Char, (text = digits ∨ text = '+' :: digits) ∧ digits ≠ [] ∧
    (∀ d ∈ digits, d.isDigit = true) ∧ Nat.ofDigitChars 10 digits 0 = n ∧ n < UInt64.size

/-- What follows the plus sign of a text, if it has one. -/
def unsigned (text : List Char) : List Char :=
  match text with
  | '+' :: rest => rest
  | _ => text

theorem eq_unsigned (text : List Char) :
    text = unsigned text ∨ text = '+' :: unsigned text := by
  unfold unsigned
  split
  · exact .inr rfl
  · exact .inl rfl

theorem unsigned_of_digits {digits : List Char}
    (hdigits : ∀ d ∈ digits, d.isDigit = true) :
    unsigned digits = digits := by
  unfold unsigned
  split
  · exact absurd (hdigits '+' List.mem_cons_self) (by decide)
  · rfl

namespace CellTable

theorem index?_eq_some_iff {text : List Char} {n : Nat} :
    index? text = some n ↔ WritesIndex text n := by
  have hindex : index? text =
      if (unsigned text).isEmpty || !(unsigned text).all Char.isDigit then none
      else if Nat.ofDigitChars 10 (unsigned text) 0 < UInt64.size
        then some (Nat.ofDigitChars 10 (unsigned text) 0) else none := rfl
  rw [hindex, Option.ite_none_left_eq_some, Option.ite_none_right_eq_some,
    Option.some.injEq]
  constructor
  · rintro ⟨hwritten, hlt, rfl⟩
    obtain ⟨hne, hdigits⟩ : unsigned text ≠ [] ∧
        ∀ d ∈ unsigned text, d.isDigit = true := by
      simpa using hwritten
    exact ⟨unsigned text, eq_unsigned text, hne, hdigits, rfl, hlt⟩
  · rintro ⟨digits, htext, hne, hdigits, rfl, hlt⟩
    have hunsigned : unsigned text = digits := by
      rcases htext with rfl | rfl
      · exact unsigned_of_digits hdigits
      · rfl
    rw [hunsigned]
    exact ⟨by simpa [hne] using hdigits, hlt, rfl⟩

/-- The parts of a key in front of its first hyphen and behind it. -/
def Divides (key : String) (left right : List Char) : Prop :=
  key.toList = left ++ '-' :: right ∧ '-' ∉ left

/-- A key of the table has the number of a row in front of its first hyphen. -/
def NamesRow (table : CellTable) (n : Nat) : Prop :=
  ∃ cell ∈ table.cells, ∃ left right, Divides cell.1 left right ∧ WritesIndex left n

/-- A key of the table has the number of a column behind its first hyphen. -/
def NamesColumn (table : CellTable) (n : Nat) : Prop :=
  ∃ cell ∈ table.cells, ∃ left right, Divides cell.1 left right ∧ WritesIndex right n

theorem mem_indices_iff (table : CellTable)
    (part : List Char × List Char → List Char) (n : Nat) :
    n ∈ (table.coordinates.map part).filterMap index? ↔
      ∃ cell ∈ table.cells, ∃ left right, Divides cell.1 left right ∧
        WritesIndex (part (left, right)) n := by
  have hparts (cell : String × String) (left right : List Char) :
      Text.splitAt? '-' cell.1.toList = some (left, right) ↔ Divides cell.1 left right :=
    Text.splitAt?_eq_some_iff
  simp only [coordinates, List.mem_filterMap, List.mem_map, index?_eq_some_iff]
  constructor
  · rintro ⟨_, ⟨⟨left, right⟩, ⟨cell, hcell, hsplit⟩, rfl⟩, hindex⟩
    exact ⟨cell, hcell, left, right, (hparts cell left right).1 hsplit, hindex⟩
  · rintro ⟨cell, hcell, left, right, hdivides, hindex⟩
    exact ⟨_, ⟨(left, right), ⟨cell, hcell, (hparts cell left right).2 hdivides⟩, rfl⟩,
      hindex⟩

theorem foldl_max_le {ns : List Nat} {top bound : Nat} (htop : top ≤ bound)
    (hns : ∀ n ∈ ns, n < bound) : ns.foldl (fun top n => max top (n + 1)) top ≤ bound := by
  induction ns generalizing top with
  | nil => exact htop
  | cons n ns ih =>
      rw [List.forall_mem_cons] at hns
      exact ih (Nat.max_le.2 ⟨htop, hns.1⟩) hns.2

/-- One more than the largest index among some texts; zero if there is none. -/
theorem exists_reach_eq {texts : List (List Char)} {Names : Nat → Prop}
    (hnames : ∀ n, n ∈ texts.filterMap index? ↔ Names n) (limit : Nat) :
    ∃ extent, IsLeast {bound | ∀ n, Names n → n < bound} extent ∧
      reach limit texts = min limit extent := by
  refine ⟨(texts.filterMap index?).foldl (fun top n => max top (n + 1)) 0, ⟨?_, ?_⟩, rfl⟩
  · exact fun n hn => le_foldl_max ((hnames n).2 hn) 0
  · exact fun bound hbound =>
      foldl_max_le (Nat.zero_le bound) fun n hn => hbound n ((hnames n).1 hn)

/-- The number after one of 64 bits.  There is none after the largest one, which stays. -/
def nextWord (n : UInt64) : UInt64 :=
  if n.toNat + 1 < UInt64.size then n + 1 else n

/-- How far some texts reach, counted in 64 bits. -/
def wordReach (limit : UInt64) (texts : List (List Char)) : UInt64 :=
  min limit
    ((texts.filterMap index?).foldl (fun top n => max top (nextWord (UInt64.ofNat n))) 0)

theorem toNat_nextWord (n : UInt64) :
    (nextWord n).toNat = min (n.toNat + 1) (UInt64.size - 1) := by
  have hlt : n.toNat < UInt64.size := n.toNat_lt
  unfold nextWord
  split
  · next hnext =>
    have hone : (1 : UInt64).toNat = 1 := rfl
    rw [UInt64.toNat_add, hone, Nat.mod_eq_of_lt hnext]
    omega
  · omega

theorem toNat_foldl_nextWord {ns : List Nat} (hns : ∀ n ∈ ns, n < UInt64.size)
    {top : UInt64} {bound : Nat} (htop : top.toNat = min bound (UInt64.size - 1)) :
    (ns.foldl (fun top n => max top (nextWord (UInt64.ofNat n))) top).toNat =
      min (ns.foldl (fun top n => max top (n + 1)) bound) (UInt64.size - 1) := by
  induction ns generalizing top bound with
  | nil => exact htop
  | cons n ns ih =>
      rw [List.forall_mem_cons] at hns
      have hstep : (max top (nextWord (UInt64.ofNat n))).toNat =
          min (max bound (n + 1)) (UInt64.size - 1) := by
        rw [UInt64.toNat_max, toNat_nextWord, UInt64.toNat_ofNat_of_lt' hns.1, htop]
        omega
      exact ih hns.2 hstep

/-- Counted in 64 bits, texts reach as far as without a limit on numbers. -/
theorem toNat_wordReach (limit : UInt64) (texts : List (List Char)) :
    (wordReach limit texts).toNat = reach limit.toNat texts := by
  have hindices : ∀ n ∈ texts.filterMap index?, n < UInt64.size := by
    intro n hn
    obtain ⟨text, -, hindex⟩ := List.mem_filterMap.1 hn
    obtain ⟨_, _, _, _, _, hlt⟩ := index?_eq_some_iff.1 hindex
    exact hlt
  have hzero : (0 : UInt64).toNat = min 0 (UInt64.size - 1) := rfl
  have hlimit : limit.toNat < UInt64.size := limit.toNat_lt
  rw [wordReach, UInt64.toNat_min, toNat_foldl_nextWord hindices hzero, reach]
  omega

/-! ## Cells and headers -/

/-- The cell with a key says this.  It is empty if there is no such cell. -/
def Holds (table : CellTable) (key text : String) : Prop :=
  (key, text) ∈ table.cells ∨ (∀ cell ∈ table.cells, cell.1 ≠ key) ∧ text = ""

/-- The header of a column is known and stands for a slot. -/
def MapsTo (table : CellTable) (column : Nat) (slot : Column) : Prop :=
  ∃ header, table.Holds (cellKey "h" column) header ∧ slot.IsUnder header.toList

/-- The first column of a table whose header is unknown, with this header. -/
structure FirstUnknown (table : CellTable) (column : Nat) (header : String) : Prop where
  lt : column < table.columns
  holds : table.Holds (cellKey "h" column) header
  unknown : ∀ slot : Column, ¬ slot.IsUnder header.toList
  known : ∀ earlier < column, ∃ slot, table.MapsTo earlier slot

/-- The last column of a table for a slot. -/
structure FillsLast (table : CellTable) (column : Nat) (slot : Column) : Prop where
  lt : column < table.columns
  fills : slot ≠ .ignored
  maps : table.MapsTo column slot
  last : ∀ later, column < later → later < table.columns → ¬ table.MapsTo later slot

/-- A parameter has in each slot the cell of a row that stands in the last column for
it. -/
structure ReadsRow (table : CellTable) (row : Nat) (parameter : Parameter) : Prop where
  filled : ∀ column slot text, table.FillsLast column slot →
    table.Holds (cellKey (toString row) column) text →
      slot.slot parameter = String.ofList (Text.trim text.toList)
  empty : ∀ slot : Column, slot ≠ .ignored →
    (∀ column < table.columns, ¬ table.MapsTo column slot) →
    slot.slot parameter = ""

section Reading

variable {table : CellTable} (hdecoded : table.IsDecoded)

include hdecoded

theorem IsDecoded.holds_iff {key text : String} :
    table.Holds key text ↔ table.cell key = text.toList := by
  have hlookup (value : String) : table.cells.lookup key = some value ↔
      (key, value) ∈ table.cells :=
    lookup_eq_some_iff_mem hdecoded.keys_nodup
  rw [Holds, cell, String.toList_inj, ← hlookup]
  cases hkey : table.cells.lookup key with
  | none =>
      have hnone : ∀ cell ∈ table.cells, cell.1 ≠ key := fun cell hcell hsame => by
        have hsome := (hlookup cell.2).2 (hsame ▸ hcell)
        rw [hkey] at hsome
        contradiction
      simpa [eq_comm] using fun _ key value hmem => hnone (key, value) hmem
  | some value =>
      have hmem := (hlookup value).1 hkey
      simp only [Option.some.injEq, Option.getD_some, or_iff_left_iff_imp]
      exact fun hnone => absurd rfl (hnone.1 _ hmem)

theorem IsDecoded.mapsTo_iff {column : Nat} {slot : Column} :
    table.MapsTo column slot ↔ slot.IsUnder (table.cell (cellKey "h" column)) := by
  constructor
  · rintro ⟨header, hholds, hunder⟩
    rwa [hdecoded.holds_iff.1 hholds]
  · exact fun hunder => ⟨_, hdecoded.holds_iff.2 rfl, hunder⟩

omit hdecoded in
theorem header_eq : table.header =
    Prose.columns ((List.range table.columns).map fun column =>
      table.cell (cellKey "h" column)) := by
  have hmark : "h" ++ "-" = "h-" := by decide
  rw [header, Prose.columns, List.mapM_map]
  refine congrArg (List.mapM · _) (funext fun column => ?_)
  rewrite [Function.comp_apply, cellKey, hmark]
  cases Column.ofHeader (table.cell ("h-" ++ toString column)) <;> rfl

theorem IsDecoded.getElem?_columns_iff {columns : List Column}
    (hheader : table.header = .ok columns)
    {column : Nat} {slot : Column} :
    columns[column]? = some slot ↔ column < table.columns ∧ table.MapsTo column slot := by
  rw [header_eq, Prose.columns_eq_ok_iff] at hheader
  have hlength : columns.length = table.columns := by simpa using hheader.length_eq
  have hunder (place : Nat) (hplace : place < columns.length) :
      columns[place].IsUnder (table.cell (cellKey "h" place)) := by
    simpa using hheader.get hplace (hheader.length_eq ▸ hplace)
  rw [hdecoded.mapsTo_iff, List.getElem?_eq_some_iff, ← hlength]
  constructor
  · rintro ⟨hplace, rfl⟩
    exact ⟨hplace, hunder column hplace⟩
  · exact fun ⟨hplace, hslot⟩ => ⟨hplace, (hunder column hplace).unique hslot⟩

theorem IsDecoded.readsRow {columns : List Column}
    (hheader : table.header = .ok columns) (row : Nat) :
    table.ReadsRow row (Parameter.ofRow columns (table.row row)) where
  filled := by
    intro column slot text hlast hholds
    have hdecides : Column.Decides columns column slot := by
      refine ⟨(hdecoded.getElem?_columns_iff hheader).2 ⟨hlast.lt, hlast.maps⟩,
        hlast.fills, ?_⟩
      intro later hlater hcolumn
      obtain ⟨hlt, hmaps⟩ := (hdecoded.getElem?_columns_iff hheader).1 hcolumn
      exact hlast.last later hlater hlt hmaps
    have hcell : (table.row row).getD column [] = text.toList := by
      rw [← hdecoded.holds_iff.1 hholds]
      simp [CellTable.row, hlast.lt, cellKey]
    rw [Parameter.slot_ofRow_of_decides hdecides, trimmedCell, hcell]
  empty := by
    intro slot hfills hno
    refine Parameter.slot_ofRow_of_notMem (fun hmem => ?_) _
    obtain ⟨column, hcolumn⟩ := List.mem_iff_getElem?.1 hmem
    obtain ⟨hlt, hmaps⟩ := (hdecoded.getElem?_columns_iff hheader).1 hcolumn
    exact hno column hlt hmaps

theorem IsDecoded.not_mapsTo {column : Nat} {header : String}
    (hunknown : table.FirstUnknown column header) :
    ¬ ∃ slot, table.MapsTo column slot := by
  rintro ⟨slot, hslot⟩
  rw [hdecoded.mapsTo_iff, hdecoded.holds_iff.1 hunknown.holds] at hslot
  exact hunknown.unknown slot hslot

/-- Either all headers are known, or there is a first one that is not. -/
theorem IsDecoded.header_cases :
    ((∀ column < table.columns, ∃ slot, table.MapsTo column slot) ∧
      ∃ columns, table.header = .ok columns) ∨
    ∃ column header, table.FirstUnknown column header ∧
      table.header = .error
        (.unknownHeader (String.ofList (Text.trim header.toList))) := by
  rcases Prose.columns_cases
      ((List.range table.columns).map fun column => table.cell (cellKey "h" column)) with
    ⟨columns, hcolumns, hunder⟩ | ⟨before, after, header, hheaders, hbefore,
      hunknown, herror⟩
  · have hheader : table.header = .ok columns := header_eq.trans hcolumns
    have hlength : columns.length = table.columns := by simpa using hunder.length_eq
    refine .inl ⟨fun column hcolumn => ⟨columns[column], ?_⟩, columns, hheader⟩
    exact ((hdecoded.getElem?_columns_iff hheader).1 (List.getElem?_eq_getElem _)).2
  · have hget (column : Nat) (hcolumn : column < table.columns) :
        (before ++ header :: after)[column]? = some (table.cell (cellKey "h" column)) := by
      rw [← hheaders]
      simp [hcolumn]
    have hlength : before.length + (after.length + 1) = table.columns := by
      simpa using (congrArg List.length hheaders).symm
    have hlt : before.length < table.columns := by omega
    have hplace : table.cell (cellKey "h" before.length) = header := by
      simpa using (hget before.length hlt).symm
    refine .inr ⟨before.length, String.ofList header, ⟨hlt, ?_, ?_, ?_⟩, ?_⟩
    · rw [hdecoded.holds_iff, hplace, String.toList_ofList]
    · rwa [String.toList_ofList]
    · intro earlier hearlier
      have hcell := hget earlier (hearlier.trans hlt)
      rw [List.getElem?_append_left hearlier] at hcell
      obtain ⟨slot, hslot⟩ := hbefore _ (List.mem_of_getElem? hcell)
      exact ⟨slot, hdecoded.mapsTo_iff.2 hslot⟩
    · rw [header_eq, herror, String.toList_ofList]

theorem IsDecoded.firstUnknown_unique {first second : Nat} {header other : String}
    (hfirst : table.FirstUnknown first header)
    (hsecond : table.FirstUnknown second other) :
    header = other := by
  obtain hlt | rfl | hgt := Nat.lt_trichotomy first second
  · exact absurd (hsecond.known first hlt) (hdecoded.not_mapsTo hfirst)
  · rw [← String.toList_inj, ← hdecoded.holds_iff.1 hfirst.holds,
      hdecoded.holds_iff.1 hsecond.holds]
  · exact absurd (hfirst.known second hgt) (hdecoded.not_mapsTo hsecond)

end Reading

theorem parameters_of_misshapen {table : CellTable}
    (hshape : table.rowReach < table.rows ∨ table.columnReach < table.columns)
    (line : Nat) :
    table.parameters line = .error (.tableShape line table.rows table.columns) := by
  have hbeyond : (table.rowReach < table.rows || table.columnReach < table.columns) =
      true := by
    simpa using hshape
  rw [parameters, hbeyond]
  rfl

theorem parameters_of_reached {table : CellTable} (hrows : table.rows ≤ table.rowReach)
    (hcolumns : table.columns ≤ table.columnReach) (line : Nat) :
    table.parameters line = table.header.map fun columns =>
      (List.range table.rows).map fun row => Parameter.ofRow columns (table.row row) := by
  have hbeyond : (table.rowReach < table.rows || table.columnReach < table.columns) =
      false := by
    simpa using And.intro hrows hcolumns
  rw [parameters, hbeyond]
  cases table.header <;> rfl

theorem directiveElements_of_read {content : List Char} {table : CellTable}
    (hread : Json.readAll reader content = .ok table) (line : Nat) :
    directiveElements "parameters".toList line content =
      (table.parameters line).map fun parameters => parameters.map .parameter := by
  have hkind : DirectiveKind.ofName? "parameters".toList = some .parameters := rfl
  simp only [directiveElements, hkind, readDirective, hread, bind, Except.bind]
  cases table.parameters line <;> rfl

/-- A parameter table fails for its shape just if it declares more rows or columns than the
indices of its keys reach, or than it has keys.  It fails otherwise for the first unknown
header, and with known headers each row is one parameter.  Counting in 64 bits comes to the
same. -/
theorem directive_of_table {table : CellTable} (hdecoded : table.IsDecoded) :
    ∃ rowExtent columnExtent,
      IsLeast {bound | ∀ n, table.NamesRow n → n < bound} rowExtent ∧
      IsLeast {bound | ∀ n, table.NamesColumn n → n < bound} columnExtent ∧
      (∀ keys : UInt64, keys.toNat = table.cells.length →
        (wordReach keys (table.coordinates.map (·.1))).toNat =
          min table.cells.length rowExtent ∧
        (wordReach keys (table.coordinates.map (·.2))).toNat =
          min table.cells.length columnExtent) ∧
      ((∃ column header, table.FirstUnknown column header) ∨
        ∀ column < table.columns, ∃ slot, table.MapsTo column slot) ∧
      (∃ content, Json.readAll reader content = .ok table) ∧
      ∀ content line, Json.readAll reader content = .ok table →
        (directiveElements "parameters".toList line content =
            .error (.tableShape line table.rows table.columns) ↔
          min table.cells.length rowExtent < table.rows ∨
            min table.cells.length columnExtent < table.columns) ∧
        (table.rows ≤ min table.cells.length rowExtent →
          table.columns ≤ min table.cells.length columnExtent →
          (∀ column header, table.FirstUnknown column header →
            directiveElements "parameters".toList line content =
              .error (.unknownHeader (String.ofList (Text.trim header.toList)))) ∧
          ((∀ column < table.columns, ∃ slot, table.MapsTo column slot) →
            ∃ parameters : List Parameter,
              directiveElements "parameters".toList line content =
                .ok (parameters.map .parameter) ∧
              parameters.length = table.rows ∧ table.rows ≤ table.cells.length ∧
              ∀ row parameter, parameters[row]? = some parameter →
                table.ReadsRow row parameter)) := by
  obtain ⟨rowExtent, hrowLeast, hrowReach⟩ :=
    exists_reach_eq (mem_indices_iff table (·.1)) table.cells.length
  obtain ⟨columnExtent, hcolumnLeast, hcolumnReach⟩ :=
    exists_reach_eq (mem_indices_iff table (·.2)) table.cells.length
  refine ⟨rowExtent, columnExtent, hrowLeast, hcolumnLeast, ?_, ?_,
    isDecoded_iff.1 hdecoded, ?_⟩
  · intro keys hkeys
    rw [toNat_wordReach, toNat_wordReach, hkeys]
    exact ⟨hrowReach, hcolumnReach⟩
  · rcases hdecoded.header_cases with ⟨hknown, -⟩ | ⟨column, header, hunknown, -⟩
    · exact .inr hknown
    · exact .inl ⟨column, header, hunknown⟩
  intro content line hread
  change table.rowReach = _ at hrowReach
  change table.columnReach = _ at hcolumnReach
  rw [directiveElements_of_read hread, ← hrowReach, ← hcolumnReach]
  by_cases hshape : table.rowReach < table.rows ∨ table.columnReach < table.columns
  · rw [parameters_of_misshapen hshape]
    refine ⟨iff_of_true rfl hshape, fun hrows hcolumns => absurd hshape ?_⟩
    omega
  · have hrows : table.rows ≤ table.rowReach := by omega
    have hcolumns : table.columns ≤ table.columnReach := by omega
    rw [parameters_of_reached hrows hcolumns]
    rcases hdecoded.header_cases with
      ⟨hknown, columns, hheader⟩ | ⟨column, header, hunknown, hheader⟩
    · rw [hheader]
      refine ⟨iff_of_false (fun herror => nomatch herror) hshape, fun _ _ =>
        ⟨?_, fun _ => ?_⟩⟩
      · intro column header hunknown
        exact absurd (hknown column hunknown.lt) (hdecoded.not_mapsTo hunknown)
      · refine ⟨_, rfl,
          by simp, hrows.trans (Nat.min_le_left _ _), fun row parameter hparameter => ?_⟩
        obtain ⟨hrow, rfl⟩ : row < table.rows ∧
            Parameter.ofRow columns (table.row row) = parameter := by
          simpa [List.getElem?_eq_some_iff] using hparameter
        exact hdecoded.readsRow hheader row
    · rw [hheader]
      refine ⟨iff_of_false (fun herror => nomatch herror) hshape, fun _ _ =>
        ⟨?_, fun hknown => ?_⟩⟩
      · intro other name hother
        rw [hdecoded.firstUnknown_unique hunknown hother]
        rfl
      · exact absurd (hknown column hunknown.lt) (hdecoded.not_mapsTo hunknown)

/-- An index of the largest 64-bit number, a plus sign and a second hyphen. -/
theorem directive_of_table_largest_index :
    let table : CellTable :=
      ⟨[("h-+0", " Field "), ("0-0", " id "), ("18446744073709551615-0-1", "lost")], 1, 3⟩
    table.IsDecoded ∧ ∃ content, Json.readAll reader content = .ok table ∧
      ∃ parameters : List Parameter,
        directiveElements "parameters".toList 1 content = .ok (parameters.map .parameter) ∧
        parameters.length = 3 ∧
        ∀ row parameter, parameters[row]? = some parameter →
          table.ReadsRow row parameter := by
  intro table
  have hdecoded : table.IsDecoded := ⟨by decide, by decide, by decide⟩
  obtain ⟨rowExtent, columnExtent, ⟨hrow, -⟩, ⟨hcolumn, -⟩, -, -, ⟨content, hread⟩,
      hdirective⟩ :=
    directive_of_table hdecoded
  have hrows : table.rows ≤ min table.cells.length rowExtent := by
    have hlargest : 18446744073709551615 < rowExtent := by
      refine hrow _ ⟨("18446744073709551615-0-1", "lost"), by simp [table],
        "18446744073709551615".toList, "0-1".toList, ?_, ?_⟩
      · exact ⟨by decide +kernel, by decide +kernel⟩
      · have hdigits : "18446744073709551615".toList.all Char.isDigit = true := by
          decide +kernel
        exact ⟨_, .inl rfl,
          by decide +kernel, List.all_eq_true.1 hdigits, by decide +kernel, by decide⟩
    simp only [table, List.length_cons, List.length_nil]
    omega
  have hcolumns : table.columns ≤ min table.cells.length columnExtent := by
    have hsigned : 0 < columnExtent := by
      refine hcolumn _ ⟨("h-+0", " Field "),
        by simp [table], "h".toList, "+0".toList, ?_, ?_⟩
      · exact ⟨by decide +kernel, by decide +kernel⟩
      · have hdigits : ['0'].all Char.isDigit = true := by decide
        exact ⟨['0'], .inr rfl,
          by decide, List.all_eq_true.1 hdigits, by decide, by decide⟩
    simp only [table, List.length_cons, List.length_nil]
    omega
  have hknown : ∀ column < table.columns, ∃ slot, table.MapsTo column slot := by
    intro column hlt
    obtain rfl : column = 0 := by simpa [table] using hlt
    exact ⟨.property, "", .inr ⟨by decide +kernel, rfl⟩, by decide +kernel⟩
  obtain ⟨parameters, helements, hlength, -, hreads⟩ :=
    ((hdirective content 1 hread).2 hrows hcolumns).2 hknown
  exact ⟨hdecoded, content, hread, parameters, helements, hlength, hreads⟩

end CellTable

end DocContract
