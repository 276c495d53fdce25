import Mathlib.Data.List.NodupEquivFin
import MapFilter.Proofs.Table.Numeric
import MapFilter.Proofs.Table.Stored
import MapFilter.Table.Preparation

/-!
# Prepared tables

Preparing a table changes single columns, each in its place: the date texts are trimmed, and columns
that are to hold numbers come to hold numbers of one kind, whatever they held before. The names of the
columns stay, and so does the number of rows that do not repeat an earlier one.

- `Table.columnAt_setColumnAt`: changing one column
- `Preparation.ColumnChange`: all that changing a column can come to
- `Preparation.Reshaped`: what preparing leaves as it was
- `Preparation.apply_ok`: what is known of a prepared table
-/

namespace MapFilter

/-! ## §1 Changing a column -/

namespace Table

variable {t : Table} {i : Nat} {cells : List Value}

theorem rows_setColumnAt (hlength : cells.length = t.rows.length) :
    (t.setColumnAt i cells).rows.length = t.rows.length := by
  simp [setColumnAt, hlength]

theorem isRectangular_setColumnAt (h : t.IsRectangular) : (t.setColumnAt i cells).IsRectangular := by
  intro row hrow
  simp only [setColumnAt, List.mem_map, Prod.exists] at hrow
  obtain ⟨old, cell, hmem, rfl⟩ := hrow
  rw [List.length_set]
  exact h old (List.of_mem_zip hmem).1

theorem columnAt_setColumnAt (h : t.IsRectangular) (hi : i < t.columns.length)
    (hlength : cells.length = t.rows.length) : (t.setColumnAt i cells).columnAt i = cells := by
  apply List.ext_getElem
  · rw [length_columnAt, rows_setColumnAt hlength, hlength]
  intro k hk hcell
  have hrow : k < t.rows.length := hlength ▸ hcell
  have hwidth : i < (t.rows[k]).length := by rwa [h _ (List.getElem_mem hrow)]
  simp [columnAt, setColumnAt, List.getD_eq_getElem?_getD, hwidth]

theorem columnAt_setColumnAt_of_ne {j : Nat} (hlength : cells.length = t.rows.length)
    (hj : j ≠ i) : (t.setColumnAt i cells).columnAt j = t.columnAt j := by
  apply List.ext_getElem
  · rw [length_columnAt, length_columnAt, rows_setColumnAt hlength]
  intro k hk hcell
  simp [columnAt, setColumnAt, List.getD_eq_getElem?_getD, List.getElem?_set_ne hj.symm]

end Table

/-! ## §2 Preparing step by step -/

namespace Preparation

/-- From one table to another with the same columns and as many rows. -/
structure Reshaped (t t' : Table) : Prop where
  columns : t'.columns = t.columns
  height : t'.rows.length = t.rows.length
  rectangular : t.IsRectangular → t'.IsRectangular

theorem Reshaped.refl (t : Table) : Reshaped t t :=
  ⟨rfl, rfl, id⟩

theorem Reshaped.trans {t₁ t₂ t₃ : Table} (h : Reshaped t₁ t₂) (h' : Reshaped t₂ t₃) :
    Reshaped t₁ t₃ :=
  ⟨h'.columns.trans h.columns, h'.height.trans h.height, h'.rectangular ∘ h.rectangular⟩

/-- All that changing a column can come to. -/
inductive ColumnChange (f : List Value → Except PreparationError (List Value)) (name : String)
    (t : Table) : Table → Prop where
  | absent : name ∉ t.columns → ColumnChange f name t t
  | changed {i : Nat} {cells : List Value} : t.columns[i]? = some name → t.columns.count name ≤ 1 →
    f (t.columnAt i) = .ok cells → ColumnChange f name t (t.setColumnAt i cells)

/-- The place of a name is one where it stands. -/
theorem getElem?_of_idxOf? {names : List String} {name : String} {i : Nat}
    (h : names.idxOf? name = some i) : names[i]? = some name := by
  obtain ⟨hlt, heq, -⟩ := List.findIdx?_eq_some_iff_getElem.1 h
  rw [List.getElem?_eq_getElem hlt]
  exact congrArg some (by simpa using heq)

theorem changeColumn_cases {several : PreparationError}
    {f : List Value → Except PreparationError (List Value)} {name : String} {t t' : Table}
    (h : changeColumn several f name t = .ok t') : ColumnChange f name t t' := by
  unfold changeColumn at h
  split at h
  · next hnone =>
    cases h
    exact .absent (List.idxOf?_eq_none_iff.1 hnone)
  · next i hi =>
    split at h
    · cases h
    · next hcount =>
      cases hcells : f (t.columnAt i) with
      | error e =>
        rw [hcells] at h
        cases h
      | ok cells =>
        rw [hcells] at h
        cases h
        exact .changed (getElem?_of_idxOf? hi) (Nat.le_of_not_lt hcount) hcells

/-- A function on columns that yields as many cells as it is given. -/
def KeepsLength (f : List Value → Except PreparationError (List Value)) : Prop :=
  ∀ cells cells', f cells = .ok cells' → cells'.length = cells.length

theorem ColumnChange.reshaped {f : List Value → Except PreparationError (List Value)}
    {name : String} {t t' : Table} (hf : KeepsLength f) (h : ColumnChange f name t t') :
    Reshaped t t' := by
  cases h with
  | absent => exact .refl t
  | changed hname hcount hcells =>
    have hlength := (hf _ _ hcells).trans (t.length_columnAt _)
    exact ⟨rfl, Table.rows_setColumnAt hlength, Table.isRectangular_setColumnAt⟩

/-- The cells of a table can be compared: none is a list or an object. -/
def HasKeys (t : Table) : Prop :=
  ∀ row ∈ t.rows, ∀ v ∈ row, v.isKey = true

theorem hasKeys_setColumnAt {t : Table} {i : Nat} {cells : List Value} (h : HasKeys t)
    (hcells : ∀ v ∈ cells, v.isKey = true) : HasKeys (t.setColumnAt i cells) := by
  intro row hrow v hv
  simp only [Table.setColumnAt, List.mem_map, Prod.exists] at hrow
  obtain ⟨old, cell, hmem, rfl⟩ := hrow
  obtain ⟨hold, hcell⟩ := List.of_mem_zip hmem
  obtain hv | rfl := List.mem_or_eq_of_mem_set hv
  · exact h old hold v hv
  · exact hcells v hcell

theorem isKey_of_isNumeric {cells : List Value} (h : Column.IsNumeric cells) :
    ∀ v ∈ cells, v.isKey = true := by
  intro v hv
  cases v with
  | list | object =>
    cases h with
    | numbers h => cases h _ hv
    | integers h => cases h _ hv
    | truths h => cases h _ hv
  | _ => rfl

/-! ## §3 Reading numbers -/

/-- Columns that were read as numbers, and columns that were not read. -/
structure NumbersRead (names : List Value) (t t' : Table) : Prop where
  reshaped : Reshaped t t'
  keys : HasKeys t → HasKeys t'
  kept : t.IsRectangular → ∀ i < t.columns.length,
    Column.IsNumeric (t.columnAt i) → Column.IsNumeric (t'.columnAt i)
  read : t.IsRectangular → ∀ name, name ≠ "" → .text name ∈ names → ∀ i,
    t.columns[i]? = some name → Column.IsNumeric (t'.columnAt i)

theorem NumbersRead.refl (t : Table) : NumbersRead [] t t :=
  ⟨.refl t, id, fun _ _ _ => id, fun _ _ _ hname => nomatch hname⟩

theorem NumbersRead.trans {names more : List Value} {t₁ t₂ t₃ : Table}
    (h : NumbersRead names t₁ t₂) (h' : NumbersRead more t₂ t₃) :
    NumbersRead (names ++ more) t₁ t₃ where
  reshaped := h.reshaped.trans h'.reshaped
  keys := h'.keys ∘ h.keys
  kept ht i hi hnumeric :=
    h'.kept (h.reshaped.rectangular ht) i (h.reshaped.columns ▸ hi) (h.kept ht i hi hnumeric)
  read ht name hname hmem i hi := by
    have hrectangular := h.reshaped.rectangular ht
    obtain hfirst | hlast := List.mem_append.1 hmem
    · -- What was read first is read once more at most, or stays.
      have hlt : i < t₁.columns.length := (List.getElem?_eq_some_iff.1 hi).1
      exact h'.kept hrectangular i (h.reshaped.columns ▸ hlt) (h.read ht name hname hfirst i hi)
    · exact h'.read hrectangular name hname hlast i (h.reshaped.columns ▸ hi)

/-- Names in front that belong to no column do not matter. -/
theorem NumbersRead.skip {v : Value} {names : List Value} {t t' : Table} (h : NumbersRead names t t')
    (hv : ∀ name, name ≠ "" → v ≠ .text name) : NumbersRead (v :: names) t t' where
  reshaped := h.reshaped
  keys := h.keys
  kept := h.kept
  read ht name hname hmem :=
    h.read ht name hname ((List.mem_cons.1 hmem).resolve_left (hv name hname).symm)

/-- A name that stands once in a list stands in one place. -/
theorem eq_of_count_le_one {names : List String} {name : String} {i j : Nat}
    (hcount : names.count name ≤ 1) (hi : names[i]? = some name) (hj : names[j]? = some name) :
    i = j := by
  by_contra hne
  have hdup : List.Duplicate name names := by
    obtain ⟨hilt, hi⟩ := List.getElem?_eq_some_iff.1 hi
    obtain ⟨hjlt, hj⟩ := List.getElem?_eq_some_iff.1 hj
    rw [List.duplicate_iff_exists_distinct_get]
    obtain hlt | hlt := Nat.lt_or_gt_of_ne hne
    · exact ⟨⟨i, hilt⟩, ⟨j, hjlt⟩, hlt, hi.symm, hj.symm⟩
    · exact ⟨⟨j, hjlt⟩, ⟨i, hilt⟩, hlt, hj.symm, hi.symm⟩
  have := List.duplicate_iff_two_le_count.1 hdup
  omega

/-- The cells of a column read as numbers, an error being one of preparing. -/
def readCells (dateText : Value) (name : String) (cells : List Value) :
    Except PreparationError (List Value) :=
  (Column.toNumbers (dateText == .text name) cells).mapError .integerTooLarge

theorem ok_of_readCells {dateText : Value} {name : String} {cells numbers : List Value}
    (h : readCells dateText name cells = .ok numbers) :
    Column.toNumbers (dateText == .text name) cells = .ok numbers := by
  unfold readCells at h
  cases hread : Column.toNumbers (dateText == .text name) cells with
  | error e =>
    rw [hread] at h
    cases h
  | ok read =>
    rw [hread] at h
    exact congrArg Except.ok (Except.ok.inj h)

theorem readColumn_cases {dateText : Value} {name : String} {t t' : Table}
    (h : readColumn dateText name t = .ok t') :
    ColumnChange (readCells dateText name) name t t' := by
  have hread : readColumn dateText name t =
      changeColumn .severalNumberColumns (readCells dateText name) name t := by
    rw [readColumn]
    congr 1
    funext cells
    unfold readCells
    cases Column.toNumbers (dateText == .text name) cells <;> rfl
  exact changeColumn_cases (hread ▸ h)

/-- Reading the column of a name. -/
theorem readColumn_ok {dateText : Value} {name : String} {t t' : Table}
    (h : readColumn dateText name t = .ok t') : NumbersRead [.text name] t t' := by
  have hchange := readColumn_cases h
  have hnumbers (cells numbers : List Value) (hread : readCells dateText name cells = .ok numbers) :
      numbers.length = cells.length ∧ Column.IsNumeric numbers :=
    Column.isNumeric_of_toNumbers (ok_of_readCells hread)
  refine ⟨hchange.reshaped fun cells numbers hread => (hnumbers cells numbers hread).1, ?_, ?_, ?_⟩
  · intro hkeys
    cases hchange with
    | absent => exact hkeys
    | changed _ _ hcells =>
      exact hasKeys_setColumnAt hkeys (isKey_of_isNumeric (hnumbers _ _ hcells).2)
  · intro hrectangular j hj hnumeric
    cases hchange with
    | absent => exact hnumeric
    | @changed i cells hi _ hcells =>
      have hlength := (hnumbers _ _ hcells).1.trans (t.length_columnAt _)
      by_cases heq : j = i
      · subst heq
        rw [Table.columnAt_setColumnAt hrectangular hj hlength]
        exact (hnumbers _ _ hcells).2
      · rwa [Table.columnAt_setColumnAt_of_ne hlength heq]
  · intro ht own _ hown j hj
    rw [List.mem_singleton, Value.text.injEq] at hown
    subst hown
    cases hchange with
    | absent habsent => exact absurd (List.mem_of_getElem? hj) habsent
    | @changed i cells hi hcount hcells =>
      have hlength := (hnumbers _ _ hcells).1.trans (t.length_columnAt _)
      rw [eq_of_count_le_one hcount hj hi,
        Table.columnAt_setColumnAt ht (List.getElem?_eq_some_iff.1 hi).1 hlength]
      exact (hnumbers _ _ hcells).2

theorem readNumbers_ok {dateText : Value} {names : List Value} {t t' : Table}
    (h : readNumbers dateText names t = .ok t') : NumbersRead names t t' := by
  induction names generalizing t with
  | nil =>
    cases h
    exact .refl _
  | cons v rest ih =>
    cases v with
    | text name =>
      rw [readNumbers] at h
      split at h
      · next hempty =>
        refine (ih h).skip fun other hother heq => hother ?_
        cases heq
        exact String.isEmpty_iff.1 hempty
      · obtain ⟨next, hread, h⟩ := bind_ok h
        exact (readColumn_ok hread).trans (ih h)
    | _ =>
      rw [readNumbers] at h
      · split at h
        · cases h
        · exact (ih h).skip fun name _ => by simp
      all_goals simp

/-! ## §4 Preparing -/

theorem mem_of_mem_keepNew {kept rows : List (List Value)} {row : List Value}
    (h : row ∈ Table.keepNew kept rows) : row ∈ rows := by
  induction rows generalizing kept with
  | nil => cases h
  | cons first rest ih =>
    rw [Table.keepNew] at h
    split at h
    · exact List.mem_cons_of_mem _ (ih h)
    · obtain rfl | h := List.mem_cons.1 h
      · exact List.mem_cons_self
      · exact List.mem_cons_of_mem _ (ih h)

/-- Dropping repeated rows needs cells that can be compared, and leaves the columns alone. -/
theorem withoutDuplicates_ok {t t' : Table} (h : withoutDuplicates t = .ok t') :
    t' = t.dropDuplicates ∧ HasKeys t' := by
  unfold withoutDuplicates at h
  split at h
  · cases h
  · next hnone =>
    cases h
    refine ⟨rfl, fun row hrow v hv => ?_⟩
    have hrow := List.findSome?_eq_none_iff.1 hnone row (mem_of_mem_keepNew hrow)
    simpa using List.find?_eq_none.1 hrow v hv

/-- Trimming the date texts changes their column only. -/
theorem trimDates_ok {dateText : Value} {t t' : Table} (h : trimDates dateText t = .ok t') :
    Reshaped t t' ∧ (HasKeys t → HasKeys t') := by
  cases dateText with
  | text name =>
    rw [trimDates] at h
    split at h
    · cases h
      exact ⟨.refl _, id⟩
    · have hchange := changeColumn_cases h
      constructor
      · apply hchange.reshaped
        intro cells trimmed htrimmed
        cases htrimmed
        rw [List.length_map]
      · intro hkeys
        cases hchange with
        | absent => exact hkeys
        | changed _ _ hcells =>
          cases hcells
          apply hasKeys_setColumnAt hkeys
          intro v hv
          obtain ⟨cell, -, rfl⟩ := List.mem_map.1 hv
          cases cell <;> rfl
  | list items | object items =>
    cases items with
    | nil =>
      cases h
      exact ⟨.refl _, id⟩
    | cons item rest => cases h
  | _ =>
    cases h
    exact ⟨.refl _, id⟩

/-- What is known of a prepared table. -/
structure IsPrepared (p : Preparation) (t t' : Table) : Prop where
  columns : t'.columns = t.columns
  rectangular : t.IsRectangular → t'.IsRectangular
  keys : HasKeys t'
  numbers : t.IsRectangular → ∃ names, p.numberColumns = .ok names ∧
    ∀ name, name ≠ "" → .text name ∈ names → ∀ i, t.columns[i]? = some name →
      Column.IsNumeric (t'.columnAt i)

theorem apply_ok {p : Preparation} {t t' : Table} (h : p.apply t = .ok t') : p.IsPrepared t t' := by
  unfold apply at h
  obtain ⟨distinct, hdistinct, h⟩ := bind_ok h
  obtain ⟨trimmed, htrim, h⟩ := bind_ok h
  obtain ⟨names, hnames, h⟩ := bind_ok h
  obtain ⟨hdropped, hkeys⟩ := withoutDuplicates_ok hdistinct
  obtain ⟨hreshaped, htrimmed⟩ := trimDates_ok htrim
  have hread := readNumbers_ok h
  have hrectangular : t.IsRectangular → trimmed.IsRectangular := by
    intro ht
    apply hreshaped.rectangular
    intro row hrow
    rw [hdropped] at hrow ⊢
    exact ht row (mem_of_mem_keepNew hrow)
  have hcolumns : trimmed.columns = t.columns := by rw [hreshaped.columns, hdropped]; rfl
  refine ⟨hread.reshaped.columns.trans hcolumns, hread.reshaped.rectangular ∘ hrectangular,
    hread.keys (htrimmed hkeys), fun ht => ⟨names, hnames, ?_⟩⟩
  intro name hname hmem i hi
  exact hread.read (hrectangular ht) name hname hmem i (hcolumns ▸ hi)

end Preparation

end MapFilter
