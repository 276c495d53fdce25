import Mathlib.Data.List.Forall2
import MapFilter.Table.Numeric

/-!
# Columns that were read as numbers

Whatever a column held, once it was read as numbers its cells go together: binary64 numbers that may
be missing, integers of 64 bits that may be missing, or truth values.

- `Column.IsNumeric`: such columns
- `Column.IsRead`: columns of one kind of numbers
- `Column.isRead_of_toNumbers`: reading leads to one, with a cell for each that was there
-/

namespace MapFilter

/-! ## §1 Results -/

/-- What comes after a step has a result only if the step has one. -/
theorem bind_ok {ε α β : Type} {x : Except ε α} {f : α → Except ε β} {b : β}
    (h : (x >>= f) = .ok b) : ∃ a, x = .ok a ∧ f a = .ok b := by
  cases x with
  | error e => cases h
  | ok a => exact ⟨a, rfl, h⟩

/-- Each result of a pass over a list belongs to an item. -/
theorem forall₂_of_mapM_ok {α β ε : Type} {f : α → Except ε β} {l : List α} {out : List β}
    (h : l.mapM f = .ok out) : List.Forall₂ (fun a b => f a = .ok b) l out := by
  induction l generalizing out with
  | nil =>
    cases h
    exact .nil
  | cons a rest ih =>
    rw [List.mapM_cons] at h
    obtain ⟨b, hb, h⟩ := bind_ok h
    obtain ⟨bs, hbs, h⟩ := bind_ok h
    cases h
    exact .cons hb (ih hbs)

theorem forall₂_of_mapM_some {α β : Type} {f : α → Option β} {l : List α} {out : List β}
    (h : l.mapM f = some out) : List.Forall₂ (fun a b => f a = some b) l out := by
  induction l generalizing out with
  | nil =>
    cases h
    exact .nil
  | cons a rest ih =>
    rw [List.mapM_cons] at h
    cases ha : f a with
    | none =>
      rw [ha] at h
      cases h
    | some b =>
      cases hrest : rest.mapM f with
      | none =>
        rw [ha, hrest] at h
        cases h
      | some bs =>
        rw [ha, hrest] at h
        cases h
        exact .cons ha (ih hrest)

/-- Where each item has a result, so has a pass over the list. -/
theorem exists_mapM_ok {α β ε : Type} {f : α → Except ε β} {R : α → β → Prop} {l : List α}
    (h : ∀ a ∈ l, ∃ b, f a = .ok b ∧ R a b) : ∃ out, l.mapM f = .ok out ∧ List.Forall₂ R l out := by
  induction l with
  | nil => exact ⟨[], rfl, .nil⟩
  | cons a rest ih =>
    obtain ⟨b, hb, hab⟩ := h a List.mem_cons_self
    obtain ⟨out, hout, hrest⟩ := ih fun x hx => h x (List.mem_cons_of_mem _ hx)
    refine ⟨b :: out, ?_, .cons hab hrest⟩
    rw [List.mapM_cons, hb, hout]
    rfl

/-- What holds of the result for every item holds of all results. -/
theorem forall_mem_of_forall₂ {α β : Type} {R : α → β → Prop} {P : β → Prop} {l : List α}
    {out : List β} (h : List.Forall₂ R l out) (hP : ∀ a b, R a b → P b) : ∀ b ∈ out, P b := by
  induction h with
  | nil => exact fun b hb => nomatch hb
  | cons hab _ ih =>
    intro b hb
    obtain rfl | hb := List.mem_cons.1 hb
    · exact hP _ _ hab
    · exact ih b hb

namespace Column

/-! ## §2 Cells -/

/-- A whole number that some column of integers can hold, or a missing cell. -/
def isWhole : Value → Bool
  | .null => true
  | .int i => isStorable i
  | _ => false

/-- The cells of a column go together as numbers. -/
inductive IsNumeric (cells : List Value) : Prop where
  | numbers : (∀ v ∈ cells, ColumnKind.numbers.holds v = true) → IsNumeric cells
  | integers : (∀ v ∈ cells, isWhole v = true) → IsNumeric cells
  | truths : (∀ v ∈ cells, ColumnKind.truths.holds v = true) → IsNumeric cells

/-- A cell that was read is a number that fits its column. -/
structure NumberCell.IsProper (c : NumberCell) : Prop where
  exact : isWhole c.exact = true ∨ isFloat c.exact = true ∨ isTruth c.exact = true
  float : ColumnKind.numbers.holds c.float = true

theorem NumberCell.IsProper.ofMissing : NumberCell.missing.IsProper :=
  ⟨.inl rfl, rfl⟩

theorem NumberCell.IsProper.ofFloat (x : Number) : NumberCell.IsProper ⟨.float x, .float x⟩ :=
  ⟨.inr (.inl rfl), rfl⟩

/-- An integer is kept as one if some column can hold it. -/
theorem NumberCell.IsProper.ofInt (i : Int) (x : Number) :
    NumberCell.IsProper ⟨if isStorable i then .int i else .float x, .float x⟩ := by
  refine ⟨?_, rfl⟩
  cases hi : isStorable i with
  | true => exact .inl hi
  | false => exact .inr (.inl rfl)

theorem isProper_readText (s : String) : (readText s).IsProper := by
  unfold readText
  dsimp only
  split
  · exact .ofMissing
  · exact .ofFloat _
  · split
    · exact .ofMissing
    · exact .ofInt _ _

theorem isProper_readCell {v : Value} {c : NumberCell} (h : readCell v = .ok c) : c.IsProper := by
  cases v with
  | int i =>
    simp only [readCell] at h
    split at h
    · cases h
    · rw [← Except.ok.inj h]
      exact .ofInt _ _
  | text s =>
    simp only [readCell] at h
    rw [← Except.ok.inj h]
    exact isProper_readText s
  | list | object | null =>
    simp only [readCell] at h
    rw [← Except.ok.inj h]
    exact .ofMissing
  | bool b =>
    simp only [readCell] at h
    rw [← Except.ok.inj h]
    exact ⟨.inr (.inr rfl), rfl⟩
  | float x =>
    simp only [readCell] at h
    rw [← Except.ok.inj h]
    cases x with
    | nan => exact .ofMissing
    | _ => exact .ofFloat _

/-! ## §3 Columns -/

/-- The kind of cells holds each of them. -/
theorem holds_of_ofCells {cells : List Value} {kind : ColumnKind}
    (h : ColumnKind.ofCells cells = kind) (hkind : kind ≠ .mixed) :
    ∀ v ∈ cells, kind.holds v = true := by
  unfold ColumnKind.ofCells at h
  split at h
  · exact absurd h.symm hkind
  · cases hfind : [ColumnKind.numbers, .integers, .naturals, .truths, .texts].find? fun kind =>
        cells.all kind.holds with
    | none =>
      rw [hfind] at h
      exact absurd h.symm hkind
    | some found =>
      rw [hfind] at h
      cases h
      have hall := List.find?_some hfind
      exact List.all_eq_true.1 hall

/-- The cells are of one kind of numbers. Integers may have missing cells among them in a column that
has a place for these. -/
inductive IsRead (missingAllowed : Bool) (cells : List Value) : Prop where
  | uniform (kind : ColumnKind) : kind.isNumeric = true → (∀ v ∈ cells, kind.holds v = true) →
    IsRead missingAllowed cells
  | sparse (kind : ColumnKind) : missingAllowed = true → kind = .integers ∨ kind = .naturals →
    (∀ v ∈ cells, v = .null ∨ kind.holds v = true) → IsRead missingAllowed cells

/-- Some of the cells are of the same kind as all of them. -/
theorem IsRead.subset {missingAllowed : Bool} {cells part : List Value}
    (h : IsRead missingAllowed cells) (hpart : part ⊆ cells) : IsRead missingAllowed part := by
  cases h with
  | uniform kind hkind hholds => exact .uniform kind hkind fun v hv => hholds v (hpart hv)
  | sparse kind hmissing hkind hholds =>
    exact .sparse kind hmissing hkind fun v hv => hholds v (hpart hv)

/-- The integer in a cell of integers. -/
theorem exists_int_of_holds {kind : ColumnKind} {v : Value}
    (hkind : kind = .integers ∨ kind = .naturals) (h : kind.holds v = true) :
    ∃ i, v = .int i ∧ isStorable i = true := by
  obtain rfl | rfl := hkind
  · cases v with
    | int i => exact ⟨i, rfl, Bool.or_eq_true_iff.2 (.inl h)⟩
    | _ => cases h
  · cases v with
    | int i => exact ⟨i, rfl, Bool.or_eq_true_iff.2 (.inr h)⟩
    | _ => cases h

theorem isWhole_of_sparse {kind : ColumnKind} {v : Value}
    (hkind : kind = .integers ∨ kind = .naturals) (h : v = .null ∨ kind.holds v = true) :
    isWhole v = true := by
  obtain rfl | h := h
  · rfl
  · obtain ⟨i, rfl, hi⟩ := exists_int_of_holds hkind h
    exact hi

theorem IsRead.isNumeric {missingAllowed : Bool} {cells : List Value}
    (h : IsRead missingAllowed cells) : IsNumeric cells := by
  cases h with
  | uniform kind hkind hholds =>
    cases kind with
    | truths => exact .truths hholds
    | numbers => exact .numbers hholds
    | integers => exact .integers fun v hv => isWhole_of_sparse (.inl rfl) (.inr (hholds v hv))
    | naturals => exact .integers fun v hv => isWhole_of_sparse (.inr rfl) (.inr (hholds v hv))
    | texts | mixed => cases hkind
  | sparse _ _ hkind hholds => exact .integers fun v hv => isWhole_of_sparse hkind (hholds v hv)

theorem isRead_of_ofCells (missingAllowed : Bool) {cells : List Value}
    (h : (ColumnKind.ofCells cells).isNumeric = true) : IsRead missingAllowed cells := by
  refine .uniform _ h (holds_of_ofCells rfl fun hmixed => ?_)
  rw [hmixed] at h
  cases h

theorem isNumeric_of_ofCells {cells : List Value}
    (h : (ColumnKind.ofCells cells).isNumeric = true) : IsNumeric cells :=
  (isRead_of_ofCells false h).isNumeric

theorem isSigned_of_equalInteger? {v : Value} {i : Int} (h : equalInteger? v = some i) :
    isSigned i = true := by
  cases v with
  | bool b =>
    cases h
    cases b <;> decide
  | int j =>
    simp only [equalInteger?] at h
    split at h
    · next hj =>
      cases h
      exact hj
    · cases h
  | float x => exact (Option.filter_eq_some_iff.1 h).2
  | _ => cases h

/-- Cells that equal integers are integers of 64 bits with a sign. -/
theorem isRead_of_asIntegers {missingAllowed : Bool} {cells integers : List Value}
    (h : asIntegers? cells = some integers) :
    integers.length = cells.length ∧ IsRead missingAllowed integers := by
  unfold asIntegers? at h
  split at h
  · have hcells := forall₂_of_mapM_some h
    refine ⟨hcells.length_eq.symm, .uniform .integers rfl ?_⟩
    refine forall_mem_of_forall₂ hcells fun v w hw => ?_
    obtain ⟨i, hi, rfl⟩ := Option.map_eq_some_iff.1 hw
    exact isSigned_of_equalInteger? hi
  · cases h

/-- Integers that are of one kind are those of one kind of column, which holds zero and one as well. -/
theorem exists_kind_of_haveOneKind {integers : List Int} (h : haveOneKind integers = true) :
    ∃ kind : ColumnKind, (kind = .integers ∨ kind = .naturals) ∧
      (∀ i ∈ integers, kind.holds (.int i) = true) ∧
      ∀ b : Bool, kind.holds (truthToInt (.bool b)) = true := by
  obtain h | h := Bool.or_eq_true_iff.1 h
  · exact ⟨.integers, .inl rfl, List.all_eq_true.1 h, fun b => by cases b <;> rfl⟩
  · exact ⟨.naturals, .inr rfl, List.all_eq_true.1 h, fun b => by cases b <;> rfl⟩

theorem isRead_unify {missingAllowed : Bool} {cells : List NumberCell}
    (h : ∀ c ∈ cells, c.IsProper) : IsRead missingAllowed (unify missingAllowed cells) := by
  unfold unify
  dsimp only
  split
  · refine .uniform .numbers rfl fun v hv => ?_
    obtain ⟨c, hc, rfl⟩ := List.mem_map.1 hv
    exact (h c hc).float
  next hwhole =>
  split
  · next htruth =>
    refine .uniform .truths rfl fun v hv => ?_
    have hv := List.all_eq_true.1 htruth v hv
    cases v with
    | bool b => rfl
    | _ => cases hv
  · rw [Bool.not_eq_true, Bool.or_eq_false_iff, Bool.or_eq_false_iff] at hwhole
    obtain ⟨⟨hfloats, hmissing⟩, hone⟩ := hwhole
    rw [Bool.not_eq_false'] at hone
    obtain ⟨kind, hkind, hintegers, htruths⟩ := exists_kind_of_haveOneKind hone
    -- No cell is a binary64 number, so each is whole or a truth value that is made so.
    have hcell : ∀ v ∈ (cells.map NumberCell.exact).map truthToInt, v = .null ∨ kind.holds v = true := by
      intro v hv
      obtain ⟨w, hw, rfl⟩ := List.mem_map.1 hv
      have hfloat : isFloat w = false := Bool.not_eq_true _ ▸ List.any_eq_false.1 hfloats w hw
      obtain ⟨c, hc, rfl⟩ := List.mem_map.1 hw
      have hproper := (h c hc).exact
      generalize c.exact = v at hproper hfloat hw
      cases v with
      | null => exact .inl rfl
      | int i => exact .inr (hintegers i (List.mem_filterMap.2 ⟨_, hw, rfl⟩))
      | bool b => exact .inr (htruths b)
      | float => cases hfloat
      | text | list | object => rcases hproper with hproper | hproper | hproper <;> cases hproper
    cases missingAllowed with
    | true => exact .sparse kind rfl hkind hcell
    | false =>
      refine .uniform kind ?_ fun v hv => (hcell v hv).resolve_left ?_
      · obtain rfl | rfl := hkind <;> rfl
      · rintro rfl
        obtain ⟨w, hw, hnull⟩ := List.mem_map.1 hv
        have hpresent := List.any_eq_false.1 hmissing w hw
        cases w with
        | null => exact hpresent rfl
        | _ => cases hnull

theorem length_unify (missingAllowed : Bool) (cells : List NumberCell) :
    (unify missingAllowed cells).length = cells.length := by
  unfold unify
  dsimp only
  split
  · simp
  · split <;> simp

/-- Reading leads to a column of one kind of numbers, with a cell for each that was there. -/
theorem isRead_of_toNumbers {missingAllowed : Bool} {cells numbers : List Value}
    (h : toNumbers missingAllowed cells = .ok numbers) :
    numbers.length = cells.length ∧ IsRead missingAllowed numbers := by
  unfold toNumbers at h
  split at h
  · next hnumeric =>
    cases h
    exact ⟨rfl, isRead_of_ofCells _ hnumeric⟩
  · cases hintegers : asIntegers? cells with
    | some integers =>
      rw [hintegers] at h
      cases h
      exact isRead_of_asIntegers hintegers
    | none =>
      rw [hintegers] at h
      cases hread : cells.mapM readCell with
      | error e =>
        simp only [hread] at h
        cases h
      | ok read =>
        simp only [hread] at h
        cases h
        have hcells := forall₂_of_mapM_ok hread
        refine ⟨(length_unify _ _).trans hcells.length_eq.symm, isRead_unify ?_⟩
        exact forall_mem_of_forall₂ hcells fun v c hc => isProper_readCell hc

/-- A column that was read as numbers. -/
theorem isNumeric_of_toNumbers {missingAllowed : Bool} {cells numbers : List Value}
    (h : toNumbers missingAllowed cells = .ok numbers) :
    numbers.length = cells.length ∧ IsNumeric numbers :=
  ⟨(isRead_of_toNumbers h).1, (isRead_of_toNumbers h).2.isNumeric⟩

end Column

end MapFilter
