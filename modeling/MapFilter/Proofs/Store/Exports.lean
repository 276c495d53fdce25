import MapFilter.Proofs.Table.Csv
import MapFilter.Proofs.Table.Prepared
import MapFilter.Store.Basic

/-!
# The table of the exported files

The exported files are read one by one and put one below the other. Their table has a cell in each row
for each column, and every column has a name.

- `Table.mem_unitedColumns`: the columns of tables put one below the other
- `Table.IsProper`: what holds of every table that comes from files
- `Store.isProper_readExports`: the table of the exported files
- `Store.readExports_of_glob_empty`: a pattern that selects none
-/

namespace MapFilter

namespace Table

/-- Rows have a cell for each column, and columns have names. -/
structure IsProper (t : Table) : Prop where
  rectangular : t.IsRectangular
  named : "" ∉ t.columns

theorem isProper_empty : IsProper {} where
  rectangular _ hrow := nomatch hrow
  named := List.not_mem_nil

theorem isProper_of_isRead {t : Table} (h : Csv.IsRead t) : t.IsProper :=
  ⟨h.rectangular, h.named⟩

/-- The columns of several tables are those of each of them. -/
theorem mem_unitedColumns {tables : List Table} {name : String} :
    name ∈ unitedColumns tables ↔ ∃ t ∈ tables, name ∈ t.columns := by
  have hfold (more found : List String) :
      name ∈ more.foldl
          (fun names name => if names.contains name then names else names ++ [name]) found ↔
        name ∈ found ∨ name ∈ more := by
    induction more generalizing found with
    | nil => simp
    | cons first rest ih =>
      rw [List.foldl_cons, ih, List.mem_cons]
      split
      · next hfound =>
        have hfirst : first ∈ found := by simpa using hfound
        constructor
        · rintro (h | h)
          · exact .inl h
          · exact .inr (.inr h)
        · rintro (h | rfl | h)
          · exact .inl h
          · exact .inl hfirst
          · exact .inr h
      · rw [List.mem_append, List.mem_singleton, or_assoc]
  rw [unitedColumns, hfold, List.mem_flatMap]
  simp

theorem isProper_stack {tables : List Table} (h : ∀ t ∈ tables, t.IsProper) :
    (stack tables).IsProper where
  rectangular := isRectangular_transpose (by simp)
  named hname := by
    obtain ⟨t, ht, hmem⟩ := mem_unitedColumns.1 hname
    exact (h t ht).named hmem

end Table

namespace Store

theorem isProper_readExport {settings : StoreSettings} {files : Files} {path : String} {t : Table}
    (h : readExport settings files path = .ok t) : t.IsProper := by
  unfold readExport at h
  split at h
  · cases h
  · split at h
    · next hread =>
      cases h
      exact Table.isProper_of_isRead (Csv.read_ok hread)
    · cases h
  · cases h
    exact Table.isProper_empty

theorem isProper_readExports {settings : StoreSettings} {files : Files} {t : Table}
    (h : readExports settings files = .ok (some t)) : t.IsProper := by
  unfold readExports at h
  split at h
  · next pattern _ =>
    split at h
    · cases h
    · split at h
      · cases htables : (files.glob pattern).mapM (readExport settings files) with
        | error e =>
          rw [htables] at h
          cases h
        | ok tables =>
          rw [htables] at h
          cases h
          apply Table.isProper_stack
          exact forall_mem_of_forall₂ (forall₂_of_mapM_ok htables) fun _ _ => isProper_readExport
      · cases h
  · cases h

/-- The empty pattern selects no files. -/
theorem readExports_of_glob_empty {settings : StoreSettings} (h : settings.glob = .text "")
    (files : Files) : readExports settings files = .ok none := by
  have hpattern : Files.isPattern "" = false := by simp [Files.isPattern, String.any]
  have hentry : files.entry? "" = none := by simp [Files.entry?]
  have hglob : files.glob "" = [] := by simp [Files.glob, Files.matchPaths, hpattern, hentry]
  rw [readExports, h]
  simp only [hglob]

end Store

end MapFilter
