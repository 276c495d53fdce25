import MapFilter.Proofs.Sql.Cells
import MapFilter.Proofs.Table.Prepared

/-!
# Rows in a query

The rows of a stored table are those of the table itself, each stored cell by cell. A query sees the
record of such a row, and a filter the record of the row it was made of; the two have the same names.

- `Table.storedRow`: a row as the database stores it
- `Table.IsSound`: tables whose names tell columns apart
- `Sql.IsStoredRow`: a row, and the record of it that a query sees
- `Table.IsSound.isStoredRow`: they belong together in every row of such a table
-/

namespace MapFilter

namespace Table

/-! ## §1 Stored rows -/

/-- A row as the database stores it. -/
def storedRow (t : Table) (row : List Value) : List Value :=
  (List.range t.columns.length).map fun i => Sql.storedCell (t.columnAt i) (row.getD i .null)

theorem rows_stored (t : Table) : t.stored.rows = t.rows.map t.storedRow := by
  apply List.ext_getElem
  · simp
  intro k hk hrow
  have hlt : k < t.rows.length := by simpa using hk
  simp [stored, transpose, storedRow, Sql.storedCells_eq_map, columnAt, List.getD_eq_getElem?_getD,
    hlt]

/-- The rows of a plain table are stored as they are. -/
theorem IsPlain.storedRow_eq {t : Table} (h : t.IsPlain) {row : List Value}
    (hrow : row ∈ t.rows) : t.storedRow row = row := by
  have hrows : t.rows.map t.storedRow = t.rows.map id := by
    rw [← t.rows_stored, stored_eq h, List.map_id]
  exact List.map_inj_left.1 hrows row hrow

/-- Names tell the columns of the table apart, also in a database; rows have a cell for each column,
and no cell is a list or an object. -/
structure IsSound (t : Table) : Prop where
  rectangular : t.IsRectangular
  names : Sql.AreDistinct t.columns
  named : "" ∉ t.columns
  keys : Preparation.HasKeys t

theorem IsSound.columns_stored {t : Table} (h : t.IsSound) : t.stored.columns = t.columns :=
  Sql.storedNames_eq h.names h.named

/-- A column of a sound table has no lists and objects. -/
theorem IsSound.isKey {t : Table} (h : t.IsSound) (i : Nat) :
    ∀ v ∈ t.columnAt i, v.isKey = true := by
  intro v hv
  obtain ⟨row, hrow, rfl⟩ := List.mem_map.1 hv
  rw [List.getD_eq_getElem?_getD]
  cases hcell : row[i]? with
  | none => rfl
  | some v => exact h.keys row hrow v (List.mem_of_getElem? hcell)

end Table

namespace Sql

/-! ## §2 Records of rows -/

theorem AreDistinct.nodup {names : List String} (h : AreDistinct names) : names.Nodup :=
  List.Nodup.of_map _ h

theorem get?_of_mem {r : Record} {name : String} {v : Value} (h : r.names.Nodup)
    (hmem : (name, v) ∈ r) : r.get? name = some v := by
  induction r with
  | nil => cases hmem
  | cons entry rest ih =>
    obtain ⟨own, w⟩ := entry
    obtain ⟨hown, hrest⟩ := List.nodup_cons.1 h
    rw [Record.get?, List.lookup_cons]
    obtain heq | hlater := List.mem_cons.1 hmem
    · cases heq
      rw [beq_self_eq_true]
    · have hne : name ≠ own := by
        rintro rfl
        exact hown (List.mem_map.2 ⟨_, hlater, rfl⟩)
      rw [beq_eq_false_iff_ne.2 hne]
      exact ih hrest hlater

theorem record_eq_present (columns : List String) (row : List Value) :
    Table.record columns row = present (columns.zip row) := by
  rw [Table.record, present]
  congr 1
  funext entry
  rw [bne, decide_not]
  rfl

theorem isRow_zip {columns : List String} {row : List Value} (h : columns.Nodup)
    (hlength : row.length = columns.length) : IsRow (columns.zip row) columns := by
  have hnames : Record.names (columns.zip row) = columns :=
    List.map_fst_zip (Nat.le_of_eq hlength.symm)
  have hrow : IsRow (columns.zip row) _ := isRow_names (by rwa [hnames])
  rwa [hnames] at hrow

/-- A missing cell is null for a query, whether the record of the row has it or not. -/
theorem cell_present {row : Record} {name : String} {v : Value} (h : row.names.Nodup)
    (hv : row.get? name = some v) : cell (present row) name = v := by
  rw [cell, get?_present h, hv]
  by_cases hnull : v = .null
  · subst hnull
    rfl
  · rw [Option.filter_some, if_pos (by simpa using hnull), Option.getD_some]

/-- A row of a table with its missing cells, and the record that a query sees of it: in each column
stands the stored cell. -/
structure IsStoredRow (t : Table) (row seen : Record) : Prop where
  isRow : IsRow row t.columns
  cell_eq : ∀ name ∈ t.columns, ∃ i v, t.columns[i]? = some name ∧ v ∈ t.columnAt i ∧
    row.get? name = some v ∧ cell seen name = storedCell (t.columnAt i) v

end Sql

theorem Table.IsSound.isStoredRow {t : Table} (h : t.IsSound) {row : List Value}
    (hrow : row ∈ t.rows) :
    Sql.IsStoredRow t (t.columns.zip row) (Table.record t.columns (t.storedRow row)) := by
  have hlength := h.rectangular row hrow
  have hstored : (t.storedRow row).length = t.columns.length := by simp [storedRow]
  have hisRow := Sql.isRow_zip h.names.nodup hlength
  refine ⟨hisRow, fun name hname => ?_⟩
  obtain ⟨i, hi, rfl⟩ := List.getElem_of_mem hname
  have hcell : i < row.length := hlength ▸ hi
  have hcell' : i < (t.storedRow row).length := hstored ▸ hi
  -- Both records have the name in the same place.
  have hmem : (t.columns[i], row[i]) ∈ t.columns.zip row := by
    rw [← List.getElem_zip (h := by simp [hi, hcell])]
    exact List.getElem_mem _
  have hmem' : (t.columns[i], Sql.storedCell (t.columnAt i) row[i]) ∈
      t.columns.zip (t.storedRow row) := by
    have hget : (t.storedRow row)[i] = Sql.storedCell (t.columnAt i) row[i] := by
      simp [storedRow, List.getD_eq_getElem?_getD, hcell]
    rw [← hget, ← List.getElem_zip (h := by simp [hi, hcell'])]
    exact List.getElem_mem _
  refine ⟨i, row[i], List.getElem?_eq_getElem hi, ?_, Sql.get?_of_mem hisRow.nodup hmem, ?_⟩
  · refine List.mem_map.2 ⟨row, hrow, ?_⟩
    rw [List.getD_eq_getElem?_getD, List.getElem?_eq_getElem hcell, Option.getD_some]
  · have hnodup := (Sql.isRow_zip h.names.nodup hstored).nodup
    rw [Sql.record_eq_present, Sql.cell_present hnodup (Sql.get?_of_mem hnodup hmem')]

end MapFilter
