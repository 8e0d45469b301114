import DocContract.Proofs.WrittenTables

/-!
# Tables as they are decoded

A record is read member by member into a draft, so what each member keeps holds of the
draft in the end.  A parameter table that was read has its keys told apart, whatever keys
its JSON repeats, and numbers of 64 bits for its columns and rows.  Every such table is
what some JSON is read as.
-/

namespace DocContract

namespace Json

section Keeping

variable {σ α : Type} {known : List (Member σ)} (Keeps : σ → Prop)
  (hread : ∀ member ∈ known, ∀ (built after : σ) (cs rest : List Char), Keeps built →
    member.read built cs = .ok (after, rest) → Keeps after)

include hread

theorem keeps_namedMembers {fuel : Nat} {first : Bool} {built after : σ}
    {cs rest : List Char}
    (hbuilt : Keeps built)
    (hmembers : namedMembers known fuel first built cs = .ok (after, rest)) :
    Keeps after := by
  induction fuel generalizing first built cs with
  | zero => contradiction
  | succ fuel ih =>
      simp only [namedMembers, bind, Except.bind, pure, Except.pure, throw, throwThe,
        MonadExceptOf.throw] at hmembers
      split at hmembers
      · contradiction
      split at hmembers
      · obtain ⟨rfl, -⟩ := Prod.mk.inj (Except.ok.inj hmembers)
        exact hbuilt
      split at hmembers
      · contradiction
      split at hmembers
      · -- A known member, which has not been read before.
        next member hfind =>
        split at hmembers
        · contradiction
        split at hmembers
        · contradiction
        split at hmembers
        · contradiction
        next found hfound =>
        exact ih (hread member (List.mem_of_find?_eq_some hfind) _ _ _ _ hbuilt hfound)
          hmembers
      · split at hmembers
        · contradiction
        split at hmembers
        · contradiction
        exact ih hbuilt hmembers

theorem keeps_listedMembers {members : List (Member σ)}
    (hknown : ∀ member ∈ members, member ∈ known)
    {first : Bool} {built after : σ} {cs rest : List Char} (hbuilt : Keeps built)
    (hmembers : listedMembers members first built cs = .ok (after, rest)) :
    Keeps after := by
  induction members generalizing first built cs with
  | nil =>
      obtain ⟨rfl, -⟩ := Prod.mk.inj (Except.ok.inj hmembers)
      exact hbuilt
  | cons member members ih =>
      rw [List.forall_mem_cons] at hknown
      simp only [listedMembers, bind, Except.bind, pure, Except.pure] at hmembers
      split at hmembers
      · contradiction
      split at hmembers
      · obtain ⟨rfl, -⟩ := Prod.mk.inj (Except.ok.inj hmembers)
        exact hbuilt
      split at hmembers
      · contradiction
      next found hfound =>
      exact ih hknown.2 (hread member hknown.1 _ _ _ _ hbuilt hfound) hmembers

/-- What holds of the empty draft and is kept by each member holds of the draft that a
record is made of. -/
theorem exists_built_of_record {empty : σ} {finish : σ → Option α} (hempty : Keeps empty)
    {cs rest : List Char} {value : α}
    (hrecord : record known empty finish cs = .ok (value, rest)) :
    ∃ built, Keeps built ∧ finish built = some value := by
  simp only [record, bind, Except.bind, pure, Except.pure] at hrecord
  split at hrecord
  · split at hrecord
    · contradiction
    next built hmembers =>
    have hkeeps := keeps_namedMembers Keeps hread hempty hmembers
    cases hfinish : finish built.1 with
    | none =>
        simp only [hfinish] at hrecord
        contradiction
    | some made =>
        simp only [hfinish] at hrecord
        split at hrecord
        · contradiction
        obtain ⟨rfl, -⟩ := Prod.mk.inj (Except.ok.inj hrecord)
        exact ⟨built.1, hkeeps, hfinish⟩
  · split at hrecord
    · contradiction
    next built hmembers =>
    have hkeeps :=
      keeps_listedMembers Keeps hread (fun _ hmember => hmember) hempty hmembers
    cases hfinish : finish built.1 with
    | none =>
        simp only [hfinish] at hrecord
        contradiction
    | some made =>
        simp only [hfinish] at hrecord
        split at hrecord
        · contradiction
        obtain ⟨rfl, -⟩ := Prod.mk.inj (Except.ok.inj hrecord)
        exact ⟨built.1, hkeeps, hfinish⟩
  · contradiction

end Keeping

theorem read_ofField_eq_ok_iff {σ α : Type} {name : String} {get : σ → Option α}
    {set : σ → α → σ} {reader : Reader α} {built after : σ} {cs rest : List Char} :
    (Member.ofField name get set reader).read built cs = .ok (after, rest) ↔
      ∃ value, reader cs = .ok (value, rest) ∧ set built value = after := by
  simp only [Member.ofField, bind, Except.bind, pure, Except.pure]
  cases reader cs with
  | error fault => simp
  | ok found => simp [Prod.ext_iff, and_comm]

theorem natural_lt {cs rest : List Char} {n : Nat} (hread : natural cs = .ok (n, rest)) :
    n < UInt64.size := by
  simp only [natural, bind, Except.bind, pure, Except.pure] at hread
  split at hread
  · split at hread
    · split at hread
      · contradiction
      split at hread
      · next found hfound =>
        obtain ⟨rfl, -⟩ := Prod.mk.inj (Except.ok.inj hread)
        unfold Numeral.natural? at hfound
        split at hfound
        · rw [Option.ite_none_right_eq_some, Option.some.injEq] at hfound
          exact hfound.2 ▸ hfound.1
        · contradiction
      · contradiction
    · contradiction
  · contradiction

end Json

namespace CellTable

/-- A table with one cell for each key, whose columns and rows are counted in 64 bits. -/
structure IsDecoded (table : CellTable) : Prop where
  keys_nodup : (table.cells.map Prod.fst).Nodup
  columns_lt : table.columns < UInt64.size
  rows_lt : table.rows < UInt64.size

theorem keys_lastOfEach_nodup (cells : List (String × String)) :
    ((lastOfEach cells).map Prod.fst).Nodup := by
  induction cells with
  | nil => exact List.nodup_nil
  | cons cell cells ih =>
      obtain ⟨key, text⟩ := cell
      simp only [lastOfEach]
      split
      · exact ih
      · next hnew =>
        refine List.nodup_cons.2 ⟨fun hmem => hnew ?_, ih⟩
        obtain ⟨later, hlater, hkey⟩ := List.mem_map.1 hmem
        exact List.any_eq_true.2 ⟨later, hlater, beq_iff_eq.2 hkey⟩

/-- What has been read of a table so far. -/
structure Draft.IsDecoded (draft : Draft) : Prop where
  keys_nodup : ∀ cells ∈ draft.cells, (cells.map Prod.fst).Nodup
  columns_lt : ∀ columns ∈ draft.columns, columns < UInt64.size
  rows_lt : ∀ rows ∈ draft.rows, rows < UInt64.size

theorem isDecoded_of_read {cs rest : List Char} {table : CellTable}
    (hread : reader cs = .ok (table, rest)) : table.IsDecoded := by
  have hempty : Draft.IsDecoded {} := by constructor <;> simp
  refine (Json.exists_built_of_record Draft.IsDecoded ?members hempty hread).elim ?finish
  case members =>
    intro member hmember built after cs rest hbuilt hafter
    simp only [List.mem_cons, List.not_mem_nil, or_false] at hmember
    rcases hmember with rfl | rfl | rfl
    · obtain ⟨cells, -, rfl⟩ := Json.read_ofField_eq_ok_iff.1 hafter
      exact { hbuilt with keys_nodup := by simpa using keys_lastOfEach_nodup cells }
    · obtain ⟨columns, hcolumns, rfl⟩ := Json.read_ofField_eq_ok_iff.1 hafter
      exact { hbuilt with columns_lt := by simpa using Json.natural_lt hcolumns }
    · obtain ⟨rows, hrows, rfl⟩ := Json.read_ofField_eq_ok_iff.1 hafter
      exact { hbuilt with rows_lt := by simpa using Json.natural_lt hrows }
  case finish =>
    rintro draft ⟨hdraft, hfinish⟩
    simp only [Option.bind_eq_bind, Option.bind_eq_some_iff, Option.pure_def,
      Option.some.injEq] at hfinish
    obtain ⟨columns, hcolumns, rows, hrows, rfl⟩ := hfinish
    refine ⟨?_, hdraft.columns_lt _ hcolumns, hdraft.rows_lt _ hrows⟩
    cases hcells : draft.cells with
    | none => exact List.nodup_nil
    | some cells => exact hdraft.keys_nodup cells hcells

theorem isDecoded_iff {table : CellTable} :
    table.IsDecoded ↔ ∃ content, Json.readAll reader content = .ok table := by
  constructor
  · intro hdecoded
    exact ⟨_, Json.readAll_compact
      (readsBack_members hdecoded.keys_nodup hdecoded.columns_lt
      hdecoded.rows_lt (List.Perm.refl _))⟩
  · rintro ⟨content, hread⟩
    simp only [Json.readAll, bind, Except.bind, pure, Except.pure] at hread
    split at hread
    · contradiction
    next found hfound =>
    split at hread
    · obtain rfl := Except.ok.inj hread
      exact isDecoded_of_read hfound
    · contradiction

end CellTable

end DocContract
