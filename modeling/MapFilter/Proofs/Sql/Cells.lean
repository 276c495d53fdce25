import MapFilter.Proofs.Number.Grid
import MapFilter.Proofs.Number.RoundTrip
import MapFilter.Proofs.Sql.Filter
import MapFilter.Proofs.Table.Numeric
import MapFilter.Proofs.Table.Stored
import MapFilter.Sql.Evaluation

/-!
# Cells in a query

A query sees the cells of a column as the database stores them, and compares their texts or their
numbers. A text is stored as it is. Every other cell has a text as well, so that a text may be taken
for a number, but never for the text of a day. The number of a cell is the one that the record of its
row has, if the column was read as numbers.

- `Sql.storedCell`: a cell as its column is stored
- `Sql.IsToldApart`: no other cell is taken for a text
- `Sql.castText_storedCell_text`, `Sql.slash_notMem_castText`: the text of a stored cell
- `Sql.castFinite_storedCell`: the number of a stored cell
-/

namespace MapFilter

/-! ## §1 Texts without a slash -/

theorem Number.slash_notMem_toText (x : Number) : '/' ∉ x.toText.toList :=
  (isNumberText_toText x).slash_notMem

theorem slash_notMem_toString (i : Int) : '/' ∉ (toString i).toList :=
  (Number.isNumberText_toString i).slash_notMem

theorem Value.slash_notMem_display {v : Value} (hkey : v.isKey = true) (htext : v.isText = false) :
    '/' ∉ v.display.toList := by
  cases v with
  | null => decide
  | bool b => cases b <;> decide
  | int i => exact slash_notMem_toString i
  | float x => exact Number.slash_notMem_toText x
  | text s => cases htext
  | list | object => cases hkey

namespace Sql

/-! ## §2 Stored cells -/

/-- A cell of a column as the column is stored. -/
def storedCell (cells : List Value) (v : Value) : Value :=
  if !cells.all isStorableNumber then storedText v
  else if cells.any Column.isFloat then storedNumber v
  else if !(integersOf cells).isEmpty then Column.truthToInt v
  else v

theorem storedCells_eq_ite (cells : List Value) :
    storedCells cells =
      if !cells.all isStorableNumber then cells.map storedText
      else if cells.any Column.isFloat then cells.map storedNumber
      else if !(integersOf cells).isEmpty then cells.map Column.truthToInt
      else cells := by
  unfold storedCells
  dsimp only
  congr 3
  rw [eq_iff_iff, Bool.not_eq_true', List.isEmpty_eq_false_iff_exists_mem, List.any_eq_true]
  constructor
  · rintro ⟨v, hv, hinteger⟩
    cases v with
    | int i => exact ⟨i, mem_integersOf.2 hv⟩
    | _ => cases hinteger
  · rintro ⟨i, hi⟩
    exact ⟨.int i, mem_integersOf.1 hi, rfl⟩

/-- A column is stored cell by cell. -/
theorem storedCells_eq_map (cells : List Value) :
    storedCells cells = cells.map (storedCell cells) := by
  rw [storedCells_eq_ite]
  unfold storedCell
  split
  · rfl
  · split
    · rfl
    · split
      · rfl
      · exact cells.map_id'.symm

theorem storedCell_cases (cells : List Value) (v : Value) :
    storedCell cells v = storedText v ∨ storedCell cells v = storedNumber v ∨
      storedCell cells v = Column.truthToInt v ∨ storedCell cells v = v := by
  unfold storedCell
  split
  · exact .inl rfl
  · split
    · exact .inr (.inl rfl)
    · split
      · exact .inr (.inr (.inl rfl))
      · exact .inr (.inr (.inr rfl))

@[simp]
theorem storedCell_null (cells : List Value) : storedCell cells .null = .null := by
  obtain h | h | h | h := storedCell_cases cells .null <;> rw [h] <;> rfl

variable {cells : List Value} {v : Value}

/-! ## §3 Texts -/

/-- A column with a text is stored as texts. -/
theorem castText_storedCell_text {s : String} (hs : .text s ∈ cells) :
    castText (storedCell cells (.text s)) = some s := by
  have hall : cells.all isStorableNumber = false := by
    rw [List.all_eq_false]
    exact ⟨_, hs, Bool.false_ne_true⟩
  simp only [storedCell, hall, Bool.not_false, if_true]
  rfl

/-- No cell of a column that is no text is taken for the text. -/
def IsToldApart (s : String) (cells : List Value) : Prop :=
  ∀ v ∈ cells, v.isText = false → castText (storedCell cells v) ≠ some s

/-- In a column of texts every text is told apart. -/
theorem isToldApart_of_texts (h : ∀ v ∈ cells, ColumnKind.texts.holds v = true) (s : String) :
    IsToldApart s cells := by
  intro v hv htext
  have hv := h v hv
  cases v with
  | null =>
    rw [storedCell_null]
    exact nofun
  | text => cases htext
  | _ => cases hv

/-- The text of a cell that is no text and no list or object has no slash in it. -/
theorem slash_notMem_castText {s : String} (hkey : v.isKey = true) (htext : v.isText = false)
    (hs : castText v = some s) : '/' ∉ s.toList := by
  cases v with
  | null => cases hs
  | bool b =>
    cases hs
    cases b <;> decide
  | int i =>
    cases hs
    exact slash_notMem_toString i
  | float x =>
    cases hs
    exact Number.slash_notMem_toText x
  | text s => cases htext
  | list | object => cases hkey

/-- A text with a slash in it is told apart from all that columns may hold. -/
theorem isToldApart_of_slash {s : String} (hkeys : ∀ v ∈ cells, v.isKey = true)
    (hs : '/' ∈ s.toList) : IsToldApart s cells := by
  intro v hv htext hcast
  have hkey := hkeys v hv
  obtain h | h | h | h := storedCell_cases cells v <;> rw [h] at hcast
  · cases v with
    | null => cases hcast
    | _ =>
      cases hcast
      exact Value.slash_notMem_display hkey htext hs
  · refine slash_notMem_castText ?_ ?_ hcast hs <;> cases v <;> first | rfl | assumption
  · refine slash_notMem_castText ?_ ?_ hcast hs <;> cases v <;> first | rfl | assumption
  · exact slash_notMem_castText hkey htext hcast hs

/-! ## §4 Numbers -/

theorem storedCell_eq (h : storedCells cells = cells) (hv : v ∈ cells) : storedCell cells v = v := by
  rw [storedCells_eq_map] at h
  exact List.map_inj_left.1 (h.trans cells.map_id.symm) v hv

/-- Columns of numbers are kept. -/
theorem storedCells_of_isNumeric (h : Column.IsNumeric cells) : storedCells cells = cells := by
  cases h with
  | numbers h => exact storedCells_of_numbers h
  | truths h => exact storedCells_of_truths h
  | integers h =>
    apply storedCells_of_integers
    intro v hv
    have hv := h v hv
    cases v with
    | null => rfl
    | int i =>
      obtain hi | hi := Bool.or_eq_true_iff.1 hv
      · exact isStorable_of_isSigned hi
      · exact isStorable_of_isUnsigned hi
    | _ => cases hv

/-- An integer of 64 bits has the same number in the database. -/
theorem storedNumber_int {i : Int} (hi : Column.isStorable i = true) :
    storedNumber (.int i) = .float (Number.ofInt i) := by
  rw [storedNumber, castDouble]
  split
  · rfl
  · next hsigned =>
    simp only [Column.isStorable, Column.isSigned, Column.isUnsigned, Bool.or_eq_true,
      Bool.and_eq_true, decide_eq_true_eq] at hi hsigned
    rw [wideToNumber_eq (by omega) (by omega)]

theorem isFinite_ofInt_of_isStorable {i : Int} (hi : Column.isStorable i = true) :
    (Number.ofInt i).isFinite = true := by
  apply Number.isFinite_ofInt
  simp only [Column.isStorable, Column.isSigned, Column.isUnsigned, Bool.or_eq_true,
    Bool.and_eq_true, decide_eq_true_eq] at hi
  omega

/-- A cell of a column of numbers reads as the finite number that the database casts it to. -/
theorem castFinite_storedCell (h : Column.IsNumeric cells) (hv : v ∈ cells) :
    v.toNumber? = .ok (castFinite (storedCell cells v)) := by
  rw [storedCell_eq (storedCells_of_isNumeric h) hv]
  cases v with
  | null => rfl
  | bool b => cases b <;> rfl
  | float x => rfl
  | int i =>
    have hi : Column.isStorable i = true := by
      cases h with
      | numbers h => cases h _ hv
      | integers h => exact h _ hv
      | truths h => cases h _ hv
    have hfinite := isFinite_ofInt_of_isStorable hi
    simp only [castFinite, storedNumber_int hi, Number.finite?, hfinite, if_true]
    rw [toNumber?_eq_reading? fun j hj => by cases hj; exact hfinite]
    simp only [reading?, Option.bind_some, Number.finite?, hfinite, if_true]
  | text | list | object =>
    cases h with
    | numbers h => cases h _ hv
    | integers h => cases h _ hv
    | truths h => cases h _ hv

end Sql

end MapFilter
