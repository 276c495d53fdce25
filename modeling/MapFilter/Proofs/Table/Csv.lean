import MapFilter.Table.Csv

/-!
# Tables that are read from text

A text that can be read has a line to name the columns, so that its table has columns, and each of
them comes to have a name. Every row has a cell for each column.

- `Csv.fields_ne_nil`: lines have fields
- `Csv.empty_notMem_columnNames`: columns have names
- `Csv.read_ok`: what is known of a table that was read
-/

namespace MapFilter.Csv

/-! ## §1 Lines -/

namespace Scan

/-- Every line that was scanned has a field. -/
def HasFields (s : Scan) : Prop :=
  ∀ line ∈ s.lines, line.2 ≠ []

variable {s : Scan}

theorem HasFields.congr {s' : Scan} (h : s.HasFields) (hlines : s'.lines = s.lines) :
    s'.HasFields := by
  rwa [HasFields, hlines]

/-- A line that ends has the field that ends with it. -/
theorem HasFields.endLine (h : s.HasFields) (c : Char) : (s.endLine c).HasFields := by
  intro line hline
  simp only [Scan.endLine, endField, List.mem_cons] at hline
  obtain rfl | hold := hline
  · simp
  · exact h line hold

theorem HasFields.stepBare (h : s.HasFields) (c : Char) : (s.stepBare c).HasFields := by
  unfold Scan.stepBare
  split
  · exact h.congr rfl
  · split
    · exact h.endLine c
    · exact h.congr rfl

theorem HasFields.stepField (h : s.HasFields) (c : Char) : (s.stepField c).HasFields := by
  unfold Scan.stepField
  split
  · exact h.congr rfl
  · exact h.stepBare c

theorem HasFields.stepLine (h : s.HasFields) (c : Char) : (s.stepLine c).HasFields := by
  unfold Scan.stepLine
  split
  · exact h.congr rfl
  · split
    · exact h.congr rfl
    · exact h.stepField c

theorem HasFields.step (h : s.HasFields) (c : Char) : (s.step c).HasFields := by
  unfold Scan.step
  split
  · split
    · exact h.congr rfl
    · split
      · exact h.congr rfl
      · exact h.stepLine c
  · exact h.stepLine c
  · exact h.stepField c
  · exact h.stepBare c
  · split <;> exact h.congr rfl
  · split
    · exact h.congr rfl
    · exact h.stepBare c

theorem HasFields.run (h : s.HasFields) (fuel : Nat) (start cs : List Char) :
    (Scan.run fuel s start cs).HasFields := by
  induction fuel generalizing s start cs with
  | zero => exact h
  | succ fuel ih =>
    cases cs with
    | nil => exact h
    | cons c rest =>
      rw [Scan.run]
      split
      · have hagain : HasFields { s with place := .fieldStart, field := [] } := h
        exact ih hagain start start
      · exact ih (h.step c) _ rest

end Scan

/-- Lines have fields. -/
theorem fields_ne_nil {text : String} {lines : List (Nat × List String)}
    (h : records text = .ok lines) : ∀ line ∈ lines, line.2 ≠ [] := by
  have hscan := Scan.HasFields.run (s := {}) (fun line hline => nomatch hline)
    ((text.toList.length + 2) * (text.toList.length + 2)) text.toList text.toList
  simp only [records, Scan.finish] at h
  generalize Scan.run _ _ _ _ = scan at hscan h
  intro line hline
  split at h
  · cases h
    exact hscan line (List.mem_reverse.1 hline)
  · cases h
    exact hscan line (List.mem_reverse.1 hline)
  · cases h
  all_goals
    cases h
    exact hscan.endLine '\n' line (List.mem_reverse.1 hline)

/-! ## §2 Names of columns -/

/-- A numbered form of a name is no empty text. -/
theorem freeName_ne_empty {header : List String} {name : String} (hname : name ≠ "") :
    ∀ (fuel n : Nat) (candidate : String) (counts : Counts), candidate ≠ "" →
      (freeName header name fuel n candidate counts).1 ≠ ""
  | 0, _, _, _, h => h
  | _ + 1, 0, _, _, h => h
  | fuel + 1, n + 1, _, counts, _ => by
    simp only [freeName]
    apply freeName_ne_empty hname fuel
    simp [hname]

/-- Naming a column changes no other, and leaves none without a name. -/
theorem nameColumn_fst (acc : List String × Counts) (i : Nat) (h : "" ∉ acc.1) :
    (nameColumn acc i).1.length = acc.1.length ∧ "" ∉ (nameColumn acc i).1 := by
  obtain ⟨header, counts⟩ := acc
  simp only [nameColumn]
  refine ⟨List.length_set .., fun hmem => ?_⟩
  by_cases hi : i < header.length
  · have hname : header.getD i "" ≠ "" := by
      rw [List.getD_eq_getElem?_getD, List.getElem?_eq_getElem hi, Option.getD_some]
      exact fun heq => h (heq ▸ List.getElem_mem hi)
    obtain hold | hnew := List.mem_or_eq_of_mem_set hmem
    · exact h hold
    · exact freeName_ne_empty hname _ _ _ _ hname hnew.symm
  · rw [List.set_eq_of_length_le (Nat.le_of_not_lt hi)] at hmem
    exact h hmem

theorem nameColumns_fst (positions : List Nat) (acc : List String × Counts) (h : "" ∉ acc.1) :
    (positions.foldl nameColumn acc).1.length = acc.1.length ∧
      "" ∉ (positions.foldl nameColumn acc).1 := by
  induction positions generalizing acc with
  | nil => exact ⟨rfl, h⟩
  | cons i rest ih =>
    obtain ⟨hlength, hnames⟩ := nameColumn_fst acc i h
    obtain ⟨hlengths, hall⟩ := ih (nameColumn acc i) hnames
    exact ⟨hlengths.trans hlength, hall⟩

/-- There is a name for each field of the header, and none of them is empty. -/
theorem columnNames_eq (header : List String) :
    (columnNames header).length = header.length ∧ "" ∉ columnNames header := by
  unfold columnNames
  dsimp only
  generalize hfilled : List.map _ ((List.range header.length).zip header) = filled
  have hlength : filled.length = header.length := by simp [← hfilled]
  have hnames : "" ∉ filled := by
    intro hmem
    rw [← hfilled, List.mem_map] at hmem
    obtain ⟨⟨i, name⟩, -, heq⟩ := hmem
    dsimp only at heq
    split at heq
    · simp at heq
    · next hname => exact hname (by simp [heq])
  have hall := nameColumns_fst
    ((List.range header.length).filter (fun i => header.getD i "" != "") ++
      (List.range header.length).filter fun i => header.getD i "" == "") (filled, []) hnames
  exact ⟨hall.1.trans hlength, hall.2⟩

/-! ## §3 Tables -/

/-- What is known of a table that was read. -/
structure IsRead (t : Table) : Prop where
  columns_ne_nil : t.columns ≠ []
  named : "" ∉ t.columns
  rectangular : ∀ row ∈ t.rows, row.length = t.columns.length

theorem assemble_ok {isTextColumn : String → Bool} {header : List String}
    {lines : List (Nat × List String)} {t : Table} (hheader : header ≠ [])
    (h : assemble isTextColumn header lines = .ok t) : IsRead t := by
  obtain ⟨hlength, hnames⟩ := columnNames_eq header
  simp only [assemble] at h
  generalize checkWidths _ lines = checked at h
  cases checked with
  | error e => cases h
  | ok rows =>
    cases h
    refine ⟨fun hnil => hheader ?_, hnames, fun row hrow => ?_⟩
    · rw [← List.length_eq_zero_iff, ← hlength]
      exact List.length_eq_zero_iff.2 hnil
    · simp only [Table.transpose, List.mem_map] at hrow
      obtain ⟨k, -, rfl⟩ := hrow
      simp

theorem read_ok {isTextColumn : String → Bool} {text : String} {t : Table}
    (h : read isTextColumn text = .ok t) : IsRead t := by
  unfold read at h
  split at h
  · cases h
  · cases h
  · next line header lines hrecords =>
    exact assemble_ok (fields_ne_nil hrecords _ List.mem_cons_self) h

end MapFilter.Csv
