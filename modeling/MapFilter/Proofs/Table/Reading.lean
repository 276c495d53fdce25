import Mathlib.Data.List.Forall2
import MapFilter.Proofs.Number.Whole
import MapFilter.Proofs.Predicate.Reading
import MapFilter.Proofs.Table.Numeric

/-!
# Numbers that a column keeps

A column that is read as numbers is changed as a whole: its cells become integers, binary64 numbers or
truth values, whichever suits all of them. The number that a single cell stands for is not changed by
that. It is the one that the cell has in a record, where every value is read for itself, as long as
both readers of texts agree on the texts of the column; only zero may lose or get a sign.

- `Column.SameReading`: the same number, or none on both sides
- `Value.ReadsAlike`: cells for which the readers agree
- `Column.toNumbers_reads`: columns of such cells keep the number of every cell
-/

namespace MapFilter

namespace Column

/-! ## §1 Readings of one cell -/

/-- The same number up to the sign of zero, or none on both sides. -/
def SameReading (a b : Option Number) : Prop :=
  Option.Rel (fun x y => x.same y = true) a b

namespace SameReading

/-- A reading that yields finite numbers only is the same as itself. -/
theorem of_eq {a b : Option Number} (h : a = b) (hfinite : ∀ x, a = some x → x.isFinite = true) :
    SameReading a b := by
  subst h
  cases a with
  | none => exact .none
  | some x => exact .some (Number.same_self (hfinite x rfl))

theorem or {a b c d : Option Number} (hab : SameReading a b) (hcd : SameReading c d) :
    SameReading (a.or c) (b.or d) := by
  cases hab with
  | none => exact hcd
  | some h => exact .some h

/-- The same number where none counts as zero. -/
theorem same_getD {a b : Option Number} (h : SameReading a b) :
    (a.getD (.finite 0)).same (b.getD (.finite 0)) = true := by
  cases h with
  | none => decide
  | some h => exact h

/-- Of two numbers that are the same both are finite, or none. -/
theorem of_same {x y : Number} (h : x.same y = true) : SameReading x.finite? y.finite? := by
  have hboth : x.isFinite = y.isFinite := by
    cases x with
    | nan => cases h
    | infinite =>
      cases y with
      | infinite => rfl
      | _ => cases h
    | negativeZero | finite =>
      cases y with
      | nan | infinite => cases h
      | _ => rfl
  unfold Number.finite?
  rw [← hboth]
  split
  · exact .some h
  · exact .none

end SameReading

end Column

theorem Number.isFinite_of_finite? {x y : Number} (h : x.finite? = some y) : y.isFinite = true := by
  unfold Number.finite? at h
  split at h
  · next hx => exact Option.some.inj h ▸ hx
  · cases h

theorem Value.isFinite_of_reading? {v : Value} {x : Number} (h : v.reading? = some x) :
    x.isFinite = true := by
  cases v with
  | bool b =>
    cases h
    rfl
  | int i => exact Number.isFinite_of_finite? h
  | float y => exact Number.isFinite_of_finite? h
  | text s =>
    obtain ⟨y, -, hy⟩ := Option.bind_eq_some_iff.1 h
    exact Number.isFinite_of_finite? hy
  | null | list | object => cases h

/-- The value is a cell of which both readers make the same: an integer has a number, a number is one of
the format, and a text is read alike as a typed number and as a plain one. -/
def Value.ReadsAlike : Value → Prop
  | .null | .bool _ => True
  | .int i => (Number.ofInt i).isFinite = true
  | .float x => x.IsBinary64
  | .text s => (Number.ofTyped? s).bind Number.finite? = Column.finiteCell? (Column.readText s).float
  | .list _ | .object _ => False

instance : DecidablePred Value.ReadsAlike
  | .null | .bool _ => .isTrue trivial
  | .int i => inferInstanceAs (Decidable ((Number.ofInt i).isFinite = true))
  | .float x => inferInstanceAs (Decidable x.IsBinary64)
  | .text s => inferInstanceAs (Decidable
      ((Number.ofTyped? s).bind Number.finite? = Column.finiteCell? (Column.readText s).float))
  | .list _ | .object _ => .isFalse id

namespace Column

/-- The number in a cell of a column of numbers is the one that the value has anywhere. -/
theorem finiteCell?_eq {v : Value} (h : ∀ s, v ≠ .text s) : finiteCell? v = v.reading? := by
  cases v with
  | text s => exact absurd rfl (h s)
  | _ => rfl

theorem finiteCell?_truthToInt (v : Value) : finiteCell? (truthToInt v) = finiteCell? v := by
  cases v with
  | bool b => cases b <;> rfl
  | _ => rfl

theorem natAbs_lt_of_isStorable {i : Int} (h : isStorable i = true) : i.natAbs < 2 ^ 65 := by
  simp only [isStorable, isSigned, isUnsigned, Bool.or_eq_true, Bool.and_eq_true,
    decide_eq_true_eq] at h
  omega

/-- The cell was read from the value, and keeps its number in either column. -/
structure NumberCell.Keeps (v : Value) (c : NumberCell) : Prop where
  float : SameReading v.reading? (finiteCell? c.float)
  exact : SameReading v.reading? (finiteCell? c.exact)

theorem NumberCell.Keeps.ofMissing {v : Value} (h : v.reading? = none) : Keeps v .missing := by
  constructor
  · rw [h]
    exact .none
  · rw [h]
    exact .none

theorem NumberCell.Keeps.ofFloat {v : Value} {x : Number} (h : v.reading? = x.finite?) :
    Keeps v ⟨.float x, .float x⟩ :=
  have hsame : SameReading v.reading? (finiteCell? (.float x)) :=
    .of_eq h fun _ => Value.isFinite_of_reading?
  ⟨hsame, hsame⟩

/-- A number that is kept as an integer, where some column can hold that. -/
theorem NumberCell.Keeps.ofInt {v : Value} {i : Int} {x : Number} (h : v.reading? = x.finite?)
    (hx : isStorable i = true → x.same (Number.ofInt i) = true) :
    Keeps v ⟨if isStorable i then .int i else .float x, .float x⟩ := by
  split
  · next hstorable =>
    refine ⟨(Keeps.ofFloat h).float, ?_⟩
    rw [h]
    exact .of_same (hx hstorable)
  · exact .ofFloat h

/-- A text that is read alike keeps its number. -/
theorem keeps_readText {s : String} (h : (Value.text s).ReadsAlike) :
    (readText s).Keeps (.text s) := by
  have hread : (Value.text s).reading? = finiteCell? (readText s).float := h
  unfold readText at hread ⊢
  dsimp only at hread ⊢
  split at hread
  · exact .ofMissing hread
  · exact .ofFloat hread
  · next x i hnumber hinteger =>
    split at hread
    · next hmissing =>
      rw [if_pos hmissing]
      exact .ofMissing hread
    · next hplain =>
      rw [if_neg hplain]
      exact .ofInt hread fun hstorable =>
        Number.same_ofInt_of_plain hnumber hinteger (natAbs_lt_of_isStorable hstorable)

/-- A cell that is read alike can be read, and keeps its number. -/
theorem exists_readCell {v : Value} (h : v.ReadsAlike) : ∃ c, readCell v = .ok c ∧ c.Keeps v := by
  have hself (w : Value) (hw : w.reading? = v.reading?) : SameReading v.reading? w.reading? :=
    .of_eq hw.symm fun _ => Value.isFinite_of_reading?
  cases v with
  | null => exact ⟨_, rfl, .ofMissing rfl⟩
  | bool b => exact ⟨_, rfl, hself (toFloat (.bool b)) (by cases b <;> rfl), hself (.bool b) rfl⟩
  | text s => exact ⟨_, rfl, keeps_readText h⟩
  | list | object => cases h
  | float x =>
    cases x with
    | nan => exact ⟨_, rfl, .ofMissing rfl⟩
    | _ => exact ⟨_, rfl, .ofFloat rfl⟩
  | int i =>
    have hfinite : (Number.ofInt i).isFinite = true := h
    refine ⟨⟨if isStorable i then .int i else .float (Number.ofInt i), .float (Number.ofInt i)⟩, ?_,
      .ofInt rfl fun _ => Number.same_self hfinite⟩
    simp only [readCell]
    split
    · next hinfinite =>
      rw [hinfinite] at hfinite
      cases hfinite
    · rfl

/-- A cell that equals an integer has the number of that integer. -/
theorem same_of_equalInteger? {v : Value} {i : Int} (h : v.ReadsAlike)
    (hi : equalInteger? v = some i) : SameReading v.reading? (finiteCell? (.int i)) := by
  cases v with
  | bool b =>
    cases hi
    cases b <;> exact .some rfl
  | int j =>
    simp only [equalInteger?] at hi
    split at hi
    · cases hi
      exact .of_eq rfl fun _ => Value.isFinite_of_reading?
    · cases hi
  | float x =>
    obtain ⟨hx, -⟩ := Option.filter_eq_some_iff.1 hi
    exact .of_same (Number.ofInt_of_toInt? h hx)
  | _ => cases hi

/-! ## §2 Columns -/

/-- Cells of one kind keep their numbers. -/
theorem reads_unify (missingAllowed : Bool) {cells : List Value} {read : List NumberCell}
    (h : List.Forall₂ (fun v c => NumberCell.Keeps v c) cells read) :
    List.Forall₂ (fun v w => SameReading v.reading? (finiteCell? w)) cells
      (unify missingAllowed read) := by
  unfold unify
  dsimp only
  split
  · exact List.forall₂_map_right_iff.2 (h.imp fun _ _ hkeeps => hkeeps.float)
  · split
    · exact List.forall₂_map_right_iff.2 (h.imp fun _ _ hkeeps => hkeeps.exact)
    · rw [List.map_map]
      refine List.forall₂_map_right_iff.2 (h.imp fun v c hkeeps => ?_)
      rw [Function.comp_apply, finiteCell?_truthToInt]
      exact hkeeps.exact

/-- Numeric columns hold no texts. -/
theorem ne_text_of_ofCells {cells : List Value} (h : (ColumnKind.ofCells cells).isNumeric = true) :
    ∀ v ∈ cells, ∀ s, v ≠ .text s := by
  rintro v hv s rfl
  cases isNumeric_of_ofCells h with
  | numbers h => cases h _ hv
  | integers h => cases h _ hv
  | truths h => cases h _ hv

/-- A column of cells that are read alike is read as numbers, and every cell keeps its number. -/
theorem toNumbers_reads (missingAllowed : Bool) {cells : List Value}
    (h : ∀ v ∈ cells, v.ReadsAlike) :
    ∃ numbers, toNumbers missingAllowed cells = .ok numbers ∧
      List.Forall₂ (fun v w => SameReading v.reading? (finiteCell? w)) cells numbers := by
  unfold toNumbers
  split
  · next hnumeric =>
    refine ⟨cells, rfl, List.forall₂_same.2 fun v hv => ?_⟩
    rw [finiteCell?_eq (ne_text_of_ofCells hnumeric v hv)]
    exact .of_eq rfl fun _ => Value.isFinite_of_reading?
  · cases hintegers : asIntegers? cells with
    | some integers =>
      refine ⟨integers, rfl, ?_⟩
      unfold asIntegers? at hintegers
      split at hintegers
      · have hcells := forall₂_of_mapM_some hintegers
        refine ((List.forall₂_and_left _ _).2 ⟨h, hcells⟩).imp fun v w ⟨hv, hw⟩ => ?_
        obtain ⟨i, hi, rfl⟩ := Option.map_eq_some_iff.1 hw
        exact same_of_equalInteger? hv hi
      · cases hintegers
    | none =>
      obtain ⟨read, hread, hkeeps⟩ := exists_mapM_ok fun v hv => exists_readCell (h v hv)
      refine ⟨unify missingAllowed read, ?_, reads_unify missingAllowed hkeeps⟩
      rw [hread]
      rfl

end Column

end MapFilter
