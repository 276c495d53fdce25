import MapFilter.Proofs.Table.Rewritten
import MapFilter.Proofs.Text.Blank
import MapFilter.Proofs.Value.Entries

/-!
# Rows that repeat others

Repeated rows are dropped before the cells are trimmed and read. So there is a row for each row that
did not repeat another one as it came in, and of those some may be equal once they are prepared. A
prepared table that is prepared again loses these, and nothing else happens to it.

- `Table.IsDistinct`: no row is equal to another one
- `Table.dropDuplicates_eq_self_iff`: tables that nothing is dropped of
- `Preparation.columnPass_part`: a column that was prepared, or a part of it, is not changed again
- `Preparation.apply_again`: what comes of preparing a prepared table
-/

namespace MapFilter

/-! ## §1 Equal rows -/

namespace Table

variable {t : Table}

/-- No two rows are equal in every cell. -/
def IsDistinct (t : Table) : Prop :=
  t.rows.Pairwise fun a b => sameRow a b = false

theorem sameRow_symm {a b : List Value} (hkeys : ∀ v ∈ a, v.isKey = true) (h : sameRow a b = true) :
    sameRow b a = true := by
  induction a generalizing b with
  | nil =>
    cases b with
    | nil => rfl
    | cons _ _ => cases h
  | cons v a ih =>
    cases b with
    | nil => cases h
    | cons w b =>
      obtain ⟨hcell, hrest⟩ := Bool.and_eq_true_iff.1 h
      refine Bool.and_eq_true_iff.2 ⟨Value.same_symm (hkeys v List.mem_cons_self) hcell, ?_⟩
      exact ih (fun v hv => hkeys v (List.mem_cons_of_mem _ hv)) hrest

/-- The rows that are kept differ from each other, and from those that were kept before. -/
theorem keepNew_distinct (kept rows : List (List Value)) :
    (keepNew kept rows).Pairwise (fun a b => sameRow b a = false) ∧
      ∀ row ∈ keepNew kept rows, ∀ earlier ∈ kept, sameRow row earlier = false := by
  induction rows generalizing kept with
  | nil => exact ⟨.nil, fun row hrow => nomatch hrow⟩
  | cons first rest ih =>
    rw [keepNew]
    split
    · exact ih kept
    · next hnew =>
      obtain ⟨hpairs, hearlier⟩ := ih (first :: kept)
      have hfirst : ∀ earlier ∈ kept, sameRow first earlier = false := by
        intro earlier hmem
        rw [Bool.not_eq_true, List.any_eq_false] at hnew
        exact Bool.not_eq_true _ ▸ hnew earlier hmem
      refine ⟨.cons (fun row hrow => hearlier row hrow first List.mem_cons_self) hpairs, ?_⟩
      intro row hrow earlier hmem
      obtain rfl | hrow := List.mem_cons.1 hrow
      · exact hfirst earlier hmem
      · exact hearlier row hrow earlier (List.mem_cons_of_mem _ hmem)

/-- Rows that differ from each other, and from those that were kept before, are kept. -/
theorem keepNew_eq_self {kept rows : List (List Value)}
    (hpairs : rows.Pairwise fun a b => sameRow b a = false)
    (hearlier : ∀ row ∈ rows, ∀ earlier ∈ kept, sameRow row earlier = false) :
    keepNew kept rows = rows := by
  induction rows generalizing kept with
  | nil => rfl
  | cons first rest ih =>
    obtain ⟨hfirst, hrest⟩ := List.pairwise_cons.1 hpairs
    have hnew : kept.any (sameRow first) = false :=
      List.any_eq_false.2 fun earlier hmem =>
        Bool.not_eq_true _ ▸ hearlier first List.mem_cons_self earlier hmem
    rw [keepNew, hnew, if_neg Bool.false_ne_true, ih hrest]
    intro row hrow earlier hmem
    obtain rfl | hmem := List.mem_cons.1 hmem
    · exact hfirst row hrow
    · exact hearlier row (List.mem_cons_of_mem _ hrow) earlier hmem

/-- Which of two rows comes first does not matter if their cells can be compared. -/
theorem isDistinct_iff (hkeys : Preparation.HasKeys t) :
    t.IsDistinct ↔ t.rows.Pairwise fun a b => sameRow b a = false := by
  have hswap : ∀ a b, a ∈ t.rows → b ∈ t.rows → sameRow a b = false → sameRow b a = false := by
    intro a b _ hb hne
    by_contra hsame
    rw [sameRow_symm (hkeys b hb) (Bool.not_eq_false _ ▸ hsame)] at hne
    cases hne
  exact ⟨fun h => h.imp_of_mem fun {a b} ha hb => hswap a b ha hb,
    fun h => h.imp_of_mem fun {a b} ha hb => hswap b a hb ha⟩

theorem hasKeys_dropDuplicates (hkeys : Preparation.HasKeys t) :
    Preparation.HasKeys t.dropDuplicates :=
  fun row hrow => hkeys row (Preparation.mem_of_mem_keepNew hrow)

theorem isDistinct_dropDuplicates (hkeys : Preparation.HasKeys t.dropDuplicates) :
    t.dropDuplicates.IsDistinct :=
  (isDistinct_iff hkeys).2 (keepNew_distinct [] t.rows).1

/-- Nothing is dropped of a table exactly if no row is equal to another one. -/
theorem dropDuplicates_eq_self_iff (hkeys : Preparation.HasKeys t) :
    t.dropDuplicates = t ↔ t.IsDistinct := by
  constructor
  · intro h
    exact h ▸ isDistinct_dropDuplicates (hasKeys_dropDuplicates hkeys)
  · intro h
    have hrows : keepNew [] t.rows = t.rows :=
      keepNew_eq_self ((isDistinct_iff hkeys).1 h) fun _ _ _ hearlier => (nomatch hearlier)
    rw [dropDuplicates, hrows]

theorem columnAt_dropDuplicates_subset (t : Table) (i : Nat) :
    t.dropDuplicates.columnAt i ⊆ t.columnAt i :=
  List.map_subset _ fun _ => Preparation.mem_of_mem_keepNew

end Table

/-! ## §2 Prepared columns -/

namespace Preparation

theorem trimCell_trimCell (v : Value) : trimCell (trimCell v) = trimCell v := by
  cases v with
  | null => rfl
  | _ => exact congrArg Value.text (Text.trim_trim _)

/-- A column of date texts that was read as numbers, or a part of it, is read as it is. -/
theorem readCells_part {dateText : Value} {name : String} {cells prepared part : List Value}
    (hdate : dateText = .text name)
    (h : readCells dateText name (cells.map trimCell) = .ok prepared) (hpart : part ⊆ prepared) :
    readCells dateText name (part.map trimCell) = .ok part := by
  have hmissing : (dateText == .text name) = true := beq_iff_eq.2 hdate
  have hnumbers := ok_of_readCells h
  rw [hmissing] at hnumbers
  rw [readCells, hmissing, Column.toNumbers_again ((Column.isRead_of_toNumbers hnumbers).2.subset hpart)
    fun v hv => Column.comesBack_of_toNumbers hnumbers v (hpart hv)]
  rfl

/-- A column that was prepared, or a part of it, is left as it is when it is prepared again. -/
theorem columnPass_part {dateText : Value} {names : List Value} {name : String}
    {cells prepared part : List Value} (h : columnPass dateText names name cells = .ok prepared)
    (hpart : part ⊆ prepared) : columnPass dateText names name part = .ok part := by
  unfold columnPass readPass trimPass at h ⊢
  by_cases hname : name ≠ "" ∧ dateText = .text name
  · simp only [if_pos hname] at h ⊢
    split
    · next hread =>
      rw [if_pos hread] at h
      exact readCells_part hname.2 h hpart
    · next hread =>
      rw [if_neg hread] at h
      cases h
      have htrimmed : part.map trimCell = part := by
        conv_rhs => rw [← List.map_id part]
        refine List.map_congr_left fun v hv => ?_
        obtain ⟨cell, -, rfl⟩ := List.mem_map.1 (hpart hv)
        exact trimCell_trimCell cell
      rw [htrimmed]
  · simp only [if_neg hname] at h ⊢
    split
    · next hread =>
      rw [if_pos hread] at h
      exact readCells_of_isRead ((Column.isRead_of_toNumbers (ok_of_readCells h)).2.subset hpart)
    · rfl

/-- A prepared table is prepared again by dropping the rows that have come to repeat others. -/
theorem apply_again {p : Preparation} {t t' : Table} (ht : t.IsRectangular) (h : p.apply t = .ok t') :
    p.apply t' = .ok t'.dropDuplicates := by
  have hprepared := apply_ok h
  have ht' := hprepared.rectangular ht
  obtain ⟨names, hnames, hfits, hcolumns⟩ := apply_columnwise ht h
  -- Each column of what is left is a part of a prepared one.
  have hpass : ∀ i name, t'.dropDuplicates.columns[i]? = some name →
      columnPass p.dateText names name (t'.dropDuplicates.columnAt i) =
        .ok (t'.dropDuplicates.columnAt i) := by
    intro i name hi
    have hi : t.columns[i]? = some name := hprepared.columns ▸ hi
    exact columnPass_part (hcolumns.columns i name hi)
      (t'.columnAt_dropDuplicates_subset i)
  obtain ⟨t'', hagain⟩ := exists_apply ht' hprepared.keys hnames (hprepared.columns ▸ hfits)
    fun i name hi => ⟨_, hpass i name hi⟩
  obtain ⟨names', hnames', -, hcolumns'⟩ := apply_columnwise ht' hagain
  rw [hnames] at hnames'
  cases hnames'
  rw [hagain, hcolumns'.eq_self (isRectangular_dropDuplicates ht') hpass]

/-- There is a row for each that did not repeat an earlier one. -/
theorem height_apply {p : Preparation} {t t' : Table} (ht : t.IsRectangular)
    (h : p.apply t = .ok t') : t'.rows.length = t.dropDuplicates.rows.length := by
  obtain ⟨names, -, -, hcolumns⟩ := apply_columnwise ht h
  exact hcolumns.reshaped.height

end Preparation

end MapFilter
