import MapFilter.Sql.Stored

/-!
# Tables that a database keeps as they are

A database renames columns and changes cells, but not always. Names that stay distinct without
regard to case are kept, and so are the cells of a column that are all of one kind. A table of such
columns comes back from a query as it was put in.

- `Table.IsRectangular`: rows of as many cells as there are columns
- `Sql.storedNames_eq`: names that are kept
- `Sql.storedCells_eq`, `Sql.fetchedCells_eq`: cells that are kept
- `Table.fetched_stored`: tables that are kept
-/

namespace MapFilter

/-! ## §1 Columns and rows -/

namespace Table

/-- Rows have as many cells as there are columns. -/
def IsRectangular (t : Table) : Prop :=
  ∀ row ∈ t.rows, row.length = t.columns.length

@[simp]
theorem length_transpose (columns : List (List Value)) (height : Nat) :
    (transpose columns height).length = height := by
  simp [transpose]

@[simp]
theorem length_columnAt (t : Table) (i : Nat) : (t.columnAt i).length = t.rows.length := by
  simp [columnAt]

/-- The columns of a table have its rows. -/
theorem transpose_columnAt {t : Table} (h : t.IsRectangular) :
    transpose ((List.range t.columns.length).map t.columnAt) t.rows.length = t.rows := by
  apply List.ext_getElem
  · simp
  intro k hk hrow
  have hwidth := h _ (List.getElem_mem hrow)
  apply List.ext_getElem
  · simp [transpose, hwidth]
  intro i hi hcell
  simp [transpose, columnAt, List.getD_eq_getElem?_getD, hrow, hcell]

theorem isRectangular_transpose {names : List String} {columns : List (List Value)} {height : Nat}
    (h : columns.length = names.length) :
    ({ columns := names, rows := transpose columns height } : Table).IsRectangular := by
  intro row hrow
  simp only [transpose, List.mem_map] at hrow
  obtain ⟨k, -, rfl⟩ := hrow
  rw [List.length_map, h]

end Table

/-! ## §2 Names -/

namespace Sql

theorem length_distinctNames (counts : NameCounts) (names : List String) :
    (distinctNames counts names).length = names.length := by
  induction names generalizing counts with
  | nil => rfl
  | cons name rest ih =>
    rw [distinctNames]
    split <;> simp [ih]

@[simp]
theorem length_storedNames (names : List String) : (storedNames names).length = names.length := by
  simp [storedNames, length_distinctNames]

/-- No two names differ in case only. -/
def AreDistinct (names : List String) : Prop :=
  (names.map foldCase).Nodup

theorem NameCounts.get_add_of_ne {counts : NameCounts} {name other : String}
    (h : foldCase other ≠ foldCase name) : (counts.add name).get other = counts.get other := by
  have hne : (foldCase other == foldCase name) = false := by simpa using h
  simp [NameCounts.get, NameCounts.add, List.lookup_cons, hne]

/-- Names that were not given out are kept as long as they are distinct. -/
theorem distinctNames_eq {counts : NameCounts} {names : List String}
    (hnew : ∀ name ∈ names, counts.get name = 0) (h : AreDistinct names) :
    distinctNames counts names = names := by
  induction names generalizing counts with
  | nil => rfl
  | cons name rest ih =>
    simp only [AreDistinct, List.map_cons, List.nodup_cons, List.mem_map, not_exists, not_and] at h
    rw [distinctNames, if_pos (hnew name List.mem_cons_self), ih _ h.2]
    intro other hother
    rw [NameCounts.get_add_of_ne (h.1 other hother)]
    exact hnew other (List.mem_cons_of_mem _ hother)

theorem storedNames_eq {names : List String} (h : AreDistinct names) (hempty : "" ∉ names) :
    storedNames names = names := by
  rw [storedNames, distinctNames_eq (fun _ _ => rfl) h]
  apply List.ext_getElem
  · simp
  intro i hi hname
  have hne : names[i] ≠ "" := fun heq => hempty (heq ▸ List.getElem_mem hname)
  simp [hne]

/-- A name among distinct ones means the column of that name. -/
theorem storedColumn?_of_mem {names : List String} {name : String} (h : AreDistinct names)
    (hmem : name ∈ names) : storedColumn? names name = some name := by
  induction names with
  | nil => cases hmem
  | cons first rest ih =>
    simp only [AreDistinct, List.map_cons, List.nodup_cons, List.mem_map, not_exists, not_and] at h
    rw [storedColumn?, List.find?_cons]
    by_cases heq : foldCase first = foldCase name
    · obtain rfl | hrest := List.mem_cons.1 hmem
      · simp
      · exact absurd heq.symm (h.1 name hrest)
    · have hrest : name ∈ rest := (List.mem_cons.1 hmem).resolve_left fun hname =>
        heq (congrArg foldCase hname.symm)
      rw [beq_eq_false_iff_ne.2 heq]
      exact ih h.2 hrest

/-! ## §3 Cells -/

theorem map_eq_self {α : Type} {f : α → α} {l : List α} (h : ∀ a ∈ l, f a = a) : l.map f = l :=
  (List.map_congr_left h).trans l.map_id

/-- Texts are kept, and may be missing. -/
theorem storedCells_of_texts {cells : List Value}
    (h : ∀ v ∈ cells, ColumnKind.texts.holds v = true) : storedCells cells = cells := by
  have htext : cells.map storedText = cells := by
    apply map_eq_self
    intro v hv
    have hv := h v hv
    cases v with
    | null | text => rfl
    | _ => cases hv
  have hnull : ∀ v ∈ cells, isStorableNumber v = true → v = .null := by
    intro v hv hstorable
    have hv := h v hv
    cases v with
    | null => rfl
    | text => cases hstorable
    | _ => cases hv
  unfold storedCells
  dsimp only
  split
  · exact htext
  · next hall =>
    -- Without a text every cell is missing.
    simp only [Bool.not_eq_true, Bool.not_eq_false', List.all_eq_true] at hall
    have hmissing : ∀ v ∈ cells, v = .null := fun v hv => hnull v hv (hall v hv)
    rw [if_neg, if_neg]
    · simp only [List.any_eq_true, not_exists, not_and]
      intro v hv
      simp [hmissing v hv]
    · simp only [List.any_eq_true, not_exists, not_and]
      intro v hv
      simp [hmissing v hv]

theorem isStorableNumber_of_numbers {v : Value} (h : ColumnKind.numbers.holds v = true) :
    isStorableNumber v = true := by
  cases v with
  | null | float => rfl
  | _ => cases h

/-- Binary64 numbers are kept, and may be missing. -/
theorem storedCells_of_numbers {cells : List Value}
    (h : ∀ v ∈ cells, ColumnKind.numbers.holds v = true) : storedCells cells = cells := by
  have hnumber : cells.map storedNumber = cells := by
    apply map_eq_self
    intro v hv
    have hv := h v hv
    cases v with
    | null | float => rfl
    | _ => cases hv
  have hall : cells.all isStorableNumber = true :=
    List.all_eq_true.2 fun v hv => isStorableNumber_of_numbers (h v hv)
  have hinteger : ∀ v ∈ cells, ∀ i, v ≠ .int i := by
    rintro v hv i rfl
    cases h _ hv
  unfold storedCells
  simp only [hall, Bool.not_true, Bool.false_eq_true, if_false]
  split
  · exact hnumber
  · split
    · next hany =>
      obtain ⟨v, hv, hint⟩ := List.any_eq_true.1 hany
      cases v with
      | int i => exact absurd rfl (hinteger _ hv i)
      | _ => cases hint
    · rfl

/-- A cell of a column of integers, which 128 bits hold, or a missing one. -/
def isStorableInteger : Value → Bool
  | .null => true
  | .int i => isStorable i
  | _ => false

/-- Integers are kept, and may be missing. -/
theorem storedCells_of_integers {cells : List Value}
    (h : ∀ v ∈ cells, isStorableInteger v = true) : storedCells cells = cells := by
  have htruth : cells.map Column.truthToInt = cells := by
    apply map_eq_self
    intro v hv
    have hv := h v hv
    cases v with
    | null | int => rfl
    | _ => cases hv
  have hall : cells.all isStorableNumber = true := by
    rw [List.all_eq_true]
    intro v hv
    have hv := h v hv
    cases v with
    | null => rfl
    | int => exact hv
    | _ => cases hv
  unfold storedCells
  simp only [hall, Bool.not_true, Bool.false_eq_true, if_false]
  split
  · next hany =>
    obtain ⟨v, hv, hfloat⟩ := List.any_eq_true.1 hany
    have hv := h v hv
    cases v with
    | float => cases hv
    | _ => cases hfloat
  · split
    · exact htruth
    · rfl

/-- Truth values are kept. -/
theorem storedCells_of_truths {cells : List Value}
    (h : ∀ v ∈ cells, ColumnKind.truths.holds v = true) : storedCells cells = cells := by
  have htruth : ∀ v ∈ cells, ∃ b, v = .bool b := by
    intro v hv
    have hv := h v hv
    cases v with
    | bool b => exact ⟨b, rfl⟩
    | _ => cases hv
  have hall : cells.all isStorableNumber = true := by
    rw [List.all_eq_true]
    intro v hv
    obtain ⟨b, rfl⟩ := htruth v hv
    rfl
  unfold storedCells
  simp only [hall, Bool.not_true, Bool.false_eq_true, if_false]
  rw [if_neg, if_neg]
  · simp only [List.any_eq_true, not_exists, not_and]
    intro v hv
    obtain ⟨b, rfl⟩ := htruth v hv
    simp
  · simp only [List.any_eq_true, not_exists, not_and]
    intro v hv
    obtain ⟨b, rfl⟩ := htruth v hv
    simp

theorem isStorable_of_isSigned {i : Int} (h : Column.isSigned i = true) : isStorable i = true := by
  simp only [Column.isSigned, isStorable, Bool.and_eq_true, decide_eq_true_eq] at *
  omega

theorem isStorable_of_isUnsigned {i : Int} (h : Column.isUnsigned i = true) :
    isStorable i = true := by
  simp only [Column.isUnsigned, isStorable, Bool.and_eq_true, decide_eq_true_eq] at *
  omega

/-- The cells of a column are of one kind. -/
def IsOfOneKind (cells : List Value) : Prop :=
  ∃ kind ≠ ColumnKind.mixed, ∀ v ∈ cells, kind.holds v = true

theorem storedCells_eq {cells : List Value} (h : IsOfOneKind cells) : storedCells cells = cells := by
  obtain ⟨kind, hkind, hcells⟩ := h
  cases kind with
  | truths => exact storedCells_of_truths hcells
  | numbers => exact storedCells_of_numbers hcells
  | texts => exact storedCells_of_texts hcells
  | mixed => exact absurd rfl hkind
  | integers =>
    apply storedCells_of_integers
    intro v hv
    have hv := hcells v hv
    cases v with
    | int i => exact isStorable_of_isSigned hv
    | _ => cases hv
  | naturals =>
    apply storedCells_of_integers
    intro v hv
    have hv := hcells v hv
    cases v with
    | int i => exact isStorable_of_isUnsigned hv
    | _ => cases hv

theorem mem_integersOf {cells : List Value} {i : Int} : i ∈ integersOf cells ↔ .int i ∈ cells := by
  rw [integersOf, List.mem_filterMap]
  constructor
  · rintro ⟨v, hv, hi⟩
    cases v with
    | int j =>
      cases hi
      exact hv
    | _ => cases hi
  · intro hi
    exact ⟨_, hi, rfl⟩

/-- Integers of one kind are of the same size, and none of them is missing. -/
theorem integersOf_of_isOfOneKind {cells : List Value} (h : IsOfOneKind cells) :
    Column.haveOneKind (integersOf cells) = true ∧
      (integersOf cells = [] ∨ ∀ v ∈ cells, Column.isMissing v = false) := by
  obtain ⟨kind, hkind, hcells⟩ := h
  by_cases hnone : integersOf cells = []
  · exact ⟨by simp [hnone, Column.haveOneKind], .inl hnone⟩
  obtain ⟨i, hi⟩ := List.exists_mem_of_ne_nil _ hnone
  have hint := hcells _ (mem_integersOf.1 hi)
  -- An integer tells which kind it is.
  have hmissing : ∀ v ∈ cells, Column.isMissing v = false := by
    intro v hv
    have hv := hcells v hv
    cases v with
    | null =>
      cases kind with
      | mixed => exact absurd rfl hkind
      | integers | naturals => cases hv
      | _ => cases hint
    | _ => rfl
  refine ⟨?_, .inr hmissing⟩
  rw [Column.haveOneKind, Bool.or_eq_true, List.all_eq_true, List.all_eq_true]
  cases kind with
  | integers => exact .inl fun j hj => hcells _ (mem_integersOf.1 hj)
  | naturals => exact .inr fun j hj => hcells _ (mem_integersOf.1 hj)
  | mixed => exact absurd rfl hkind
  | _ => cases hint

/-- Some cells of a column of one kind are returned as they are. -/
theorem fetchedCells_eq {column cells : List Value} (h : IsOfOneKind column)
    (hcells : ∀ v ∈ cells, v ∈ column) : fetchedCells column cells = cells := by
  obtain ⟨hnarrow, hmissing⟩ := integersOf_of_isOfOneKind h
  have hplain : ((integersOf cells).isEmpty || !cells.any Column.isMissing) = true := by
    rw [Bool.or_eq_true, List.isEmpty_iff, Bool.not_eq_true', List.any_eq_false]
    obtain hnone | hpresent := hmissing
    · left
      rw [List.eq_nil_iff_forall_not_mem] at hnone ⊢
      intro i hi
      exact hnone i (mem_integersOf.2 (hcells _ (mem_integersOf.1 hi)))
    · right
      intro v hv
      rw [hpresent v (hcells v hv)]
      decide
  rw [fetchedCells, hnarrow, hplain]
  rfl

end Sql

/-! ## §4 Tables -/

namespace Table

/-- The database keeps the table as it is: the names of its columns are distinct, and the cells of
each column are of one kind. -/
structure IsPlain (t : Table) : Prop where
  isRectangular : t.IsRectangular
  names : Sql.AreDistinct t.columns
  named : "" ∉ t.columns
  cells : ∀ i < t.columns.length, Sql.IsOfOneKind (t.columnAt i)

@[simp]
theorem length_rows_stored (t : Table) : t.stored.rows.length = t.rows.length :=
  length_transpose ..

@[simp]
theorem length_columns_stored (t : Table) : t.stored.columns.length = t.columns.length :=
  Sql.length_storedNames t.columns

@[simp]
theorem length_rows_fetched (t : Table) : t.fetched.rows.length = t.rows.length :=
  length_transpose ..

theorem stored_eq {t : Table} (h : t.IsPlain) : t.stored = t := by
  have hcells : (List.range t.columns.length).map (fun i => Sql.storedCells (t.columnAt i)) =
      (List.range t.columns.length).map t.columnAt := by
    apply List.map_congr_left
    intro i hi
    exact Sql.storedCells_eq (h.cells i (List.mem_range.1 hi))
  rw [stored, hcells, transpose_columnAt h.isRectangular, Sql.storedNames_eq h.names h.named]

/-- Some rows of a table that the database keeps as it is are returned as they are. -/
theorem fetchedFrom_eq {t whole : Table} (h : whole.IsPlain) (hcolumns : t.columns = whole.columns)
    (hrows : ∀ row ∈ t.rows, row ∈ whole.rows) : t.fetchedFrom whole = t := by
  have hcells : (List.range t.columns.length).map
      (fun i => Sql.fetchedCells (whole.columnAt i) (t.columnAt i)) =
      (List.range t.columns.length).map t.columnAt := by
    apply List.map_congr_left
    intro i hi
    apply Sql.fetchedCells_eq (h.cells i (hcolumns ▸ List.mem_range.1 hi))
    intro v hv
    obtain ⟨row, hrow, rfl⟩ := List.mem_map.1 hv
    exact List.mem_map_of_mem (hrows row hrow)
  have hrectangular : t.IsRectangular := fun row hrow =>
    (h.isRectangular row (hrows row hrow)).trans (congrArg List.length hcolumns).symm
  rw [fetchedFrom, hcells, transpose_columnAt hrectangular]

/-- A plain table comes back as it was put in. -/
theorem fetched_stored {t : Table} (h : t.IsPlain) : t.stored.fetched = t := by
  rw [stored_eq h]
  exact fetchedFrom_eq h rfl fun _ hrow => hrow

end Table

end MapFilter
