import MapFilter.Proofs.Number.Grid
import MapFilter.Proofs.Table.Prepared

/-!
# Preparing column by column

Once repeated rows are dropped, preparing a table is a matter of its columns: what becomes of one does
not depend on any other, nor on the order in which the columns of numbers are named or how often. A
column that was read as numbers is not changed by reading it again, and neither are some of its rows.

- `Column.IsRead`: columns that reading leaves as they are
- `Column.isRead_of_toNumbers`, `Column.toNumbers_of_isRead`: reading leads to one and stays there
- `Preparation.Columnwise`: from one table to another, column by column
- `Preparation.apply_columnwise`: preparing is of this kind
- `Preparation.exists_apply`, `Preparation.apply_notComparable`: when it succeeds, and when it does not
-/

namespace MapFilter

namespace Column

/-! ## §1 Columns that were read -/

/-- The first kind that holds all cells is numeric if any numeric one holds them: the kinds that are
not come last. -/
theorem isNumeric_ofCells {kind : ColumnKind} {cells : List Value} (hne : cells ≠ [])
    (hkind : kind.isNumeric = true) (hholds : ∀ v ∈ cells, kind.holds v = true) :
    (ColumnKind.ofCells cells).isNumeric = true := by
  have hall : cells.all kind.holds = true := List.all_eq_true.2 hholds
  have hempty : cells.isEmpty = false := by rwa [List.isEmpty_eq_false_iff]
  unfold ColumnKind.ofCells
  simp only [hempty, Bool.false_eq_true, if_false]
  cases hnumbers : cells.all ColumnKind.numbers.holds with
  | true => simp [hnumbers, ColumnKind.isNumeric]
  | false =>
    cases hintegers : cells.all ColumnKind.integers.holds with
    | true => simp [hnumbers, hintegers, ColumnKind.isNumeric]
    | false =>
      cases hnaturals : cells.all ColumnKind.naturals.holds with
      | true => simp [hnumbers, hintegers, hnaturals, ColumnKind.isNumeric]
      | false =>
        cases kind with
        | truths => simp [hnumbers, hintegers, hnaturals, hall, ColumnKind.isNumeric]
        | numbers | integers | naturals => simp_all
        | texts | mixed => cases hkind

/-- Integers that one kind of column holds are of one kind. -/
theorem haveOneKind_of_holds {kind : ColumnKind} {integers : List Int}
    (hkind : kind = .integers ∨ kind = .naturals)
    (h : ∀ i ∈ integers, kind.holds (.int i) = true) : haveOneKind integers = true := by
  obtain rfl | rfl := hkind
  · exact Bool.or_eq_true_iff.2 (.inl (List.all_eq_true.2 h))
  · exact Bool.or_eq_true_iff.2 (.inr (List.all_eq_true.2 h))

/-- A missing cell, or an integer of some column of integers, is read as it stands. -/
theorem readCell_of_isWhole {v : Value} (h : isWhole v = true) : readCell v = .ok ⟨v, toFloat v⟩ := by
  cases v with
  | null => rfl
  | int i =>
    have hfinite := Number.isFinite_ofInt (i := i) <| by
      simp only [isWhole, isStorable, isSigned, isUnsigned, Bool.or_eq_true, Bool.and_eq_true,
        decide_eq_true_eq] at h
      omega
    have hstorable : isStorable i = true := h
    simp only [readCell, toFloat, hstorable, if_true]
    split
    · next hinfinite =>
      rw [hinfinite] at hfinite
      cases hfinite
    · rfl
  | _ => cases h

/-- Cells that are equal to integers and are integers already stay the same. -/
theorem eq_of_asIntegers {cells integers : List Value} (hwhole : ∀ v ∈ cells, isWhole v = true)
    (h : asIntegers? cells = some integers) : integers = cells := by
  unfold asIntegers? at h
  split at h
  · have hcells := forall₂_of_mapM_some h
    have hboth := (List.forall₂_and_left _ _).2 ⟨hwhole, hcells⟩
    refine (List.forall₂_eq_eq_eq ▸ hboth.imp fun v w ⟨hv, hw⟩ => ?_ : cells = integers).symm
    cases v with
    | int i =>
      simp only [equalInteger?] at hw
      split at hw
      · exact Option.some.inj hw
      · cases hw
    | null => cases hw
    | _ => cases hv
  · cases h

/-- Integers of one kind are kept as they were read, with missing cells among them. -/
theorem unify_sparse {kind : ColumnKind} {cells : List NumberCell}
    (hkind : kind = .integers ∨ kind = .naturals)
    (h : ∀ c ∈ cells, c.exact = .null ∨ kind.holds c.exact = true) :
    unify true cells = cells.map NumberCell.exact := by
  have hwhole : ∀ v ∈ cells.map NumberCell.exact, isWhole v = true := by
    intro v hv
    obtain ⟨c, hc, rfl⟩ := List.mem_map.1 hv
    exact isWhole_of_sparse hkind (h c hc)
  have hfloat : (cells.map NumberCell.exact).any isFloat = false := by
    rw [List.any_eq_false]
    intro v hv
    have hv := hwhole v hv
    cases v with
    | float => cases hv
    | _ => exact Bool.false_ne_true
  have htruth : (cells.map NumberCell.exact).map truthToInt = cells.map NumberCell.exact := by
    conv_rhs => rw [← List.map_id (cells.map NumberCell.exact)]
    refine List.map_congr_left fun v hv => ?_
    have hv := hwhole v hv
    cases v with
    | bool => cases hv
    | _ => rfl
  unfold unify
  simp only [hfloat, htruth, Bool.not_true, Bool.false_and, Bool.false_or, ite_self]
  rw [haveOneKind_of_holds hkind]
  · rfl
  · intro i hi
    obtain ⟨v, hv, hint⟩ := List.mem_filterMap.1 hi
    obtain ⟨c, hc, rfl⟩ := List.mem_map.1 hv
    obtain hnull | hholds := h c hc
    · rw [hnull] at hint
      cases hint
    · obtain ⟨j, hj, -⟩ := exists_int_of_holds hkind hholds
      rw [hj] at hint hholds
      cases hint
      exact hholds

/-- Reading leaves a column as it is that was read. -/
theorem toNumbers_of_isRead {missingAllowed : Bool} {cells : List Value}
    (h : IsRead missingAllowed cells) : toNumbers missingAllowed cells = .ok cells := by
  unfold toNumbers
  by_cases hnumeric : (ColumnKind.ofCells cells).isNumeric = true
  · rw [if_pos hnumeric]
  rw [if_neg hnumeric]
  cases h with
  | uniform _ hkind hholds =>
    cases cells with
    | nil => cases missingAllowed <;> rfl
    | cons v rest => exact absurd (isNumeric_ofCells (List.cons_ne_nil _ _) hkind hholds) hnumeric
  | sparse kind hmissing hkind hholds =>
    subst hmissing
    have hwhole : ∀ v ∈ cells, isWhole v = true := fun v hv => isWhole_of_sparse hkind (hholds v hv)
    cases hintegers : asIntegers? cells with
    | some integers => exact congrArg Except.ok (eq_of_asIntegers hwhole hintegers)
    | none =>
      obtain ⟨read, hread, hcells⟩ := exists_mapM_ok (f := readCell) (l := cells)
        (R := fun v c => ⟨v, toFloat v⟩ = c) fun v hv => ⟨_, readCell_of_isWhole (hwhole v hv), rfl⟩
      have hmap : cells.map (fun v => (⟨v, toFloat v⟩ : NumberCell)) = read :=
        List.forall₂_eq_eq_eq ▸ List.forall₂_map_left_iff.2 hcells
      simp only [hread, ← hmap, Except.map]
      have hexact : (cells.map fun v => (⟨v, toFloat v⟩ : NumberCell)).map NumberCell.exact = cells := by
        rw [List.map_map]
        exact List.map_id _
      have hsparse : ∀ c ∈ cells.map fun v => (⟨v, toFloat v⟩ : NumberCell),
          c.exact = .null ∨ kind.holds c.exact = true := by
        intro c hc
        obtain ⟨v, hv, rfl⟩ := List.mem_map.1 hc
        exact hholds v hv
      rw [unify_sparse hkind hsparse, hexact]

/-- Cells can be read as numbers if the integers among them have one. -/
theorem exists_toNumbers (missingAllowed : Bool) {cells : List Value}
    (h : ∀ v ∈ cells, ∀ i, v = .int i → (Number.ofInt i).isFinite = true) :
    ∃ numbers, toNumbers missingAllowed cells = .ok numbers := by
  have hcell : ∀ v ∈ cells, ∃ c, readCell v = .ok c ∧ True := by
    intro v hv
    cases v with
    | int i =>
      have hfinite := h _ hv i rfl
      simp only [readCell]
      split
      · next hinfinite =>
        rw [hinfinite] at hfinite
        cases hfinite
      · exact ⟨_, rfl, trivial⟩
    | _ => exact ⟨_, rfl, trivial⟩
  unfold toNumbers
  split
  · exact ⟨_, rfl⟩
  · cases asIntegers? cells with
    | some integers => exact ⟨_, rfl⟩
    | none =>
      obtain ⟨read, hread, -⟩ := exists_mapM_ok hcell
      rw [hread]
      exact ⟨_, rfl⟩

end Column

namespace Preparation

/-! ## §2 Changing tables column by column -/

/-- From one table to another whose columns are made of those of the first, each by what its name
asks for. -/
structure Columnwise (f : String → List Value → Except PreparationError (List Value)) (t t' : Table) :
    Prop where
  reshaped : Reshaped t t'
  columns : ∀ i name, t.columns[i]? = some name → f name (t.columnAt i) = .ok (t'.columnAt i)

namespace Columnwise

variable {f g : String → List Value → Except PreparationError (List Value)} {t t₁ t₂ t₃ : Table}

theorem refl (t : Table) : Columnwise (fun _ cells => .ok cells) t t :=
  ⟨.refl t, fun _ _ _ => rfl⟩

theorem trans (h : Columnwise f t₁ t₂) (h' : Columnwise g t₂ t₃) :
    Columnwise (fun name cells => f name cells >>= g name) t₁ t₃ := by
  refine ⟨h.reshaped.trans h'.reshaped, fun i name hi => ?_⟩
  rw [h.columns i name hi]
  exact h'.columns i name (h.reshaped.columns ▸ hi)

theorem congr (h : Columnwise f t₁ t₂)
    (hfg : ∀ i name, t₁.columns[i]? = some name → f name (t₁.columnAt i) = g name (t₁.columnAt i)) :
    Columnwise g t₁ t₂ :=
  ⟨h.reshaped, fun i name hi => hfg i name hi ▸ h.columns i name hi⟩

/-- The columns of a table determine it. -/
theorem eq_of_columnAt (ht : t.IsRectangular) (h : Reshaped t t₁)
    (hcells : ∀ i < t.columns.length, t₁.columnAt i = t.columnAt i) : t₁ = t := by
  have hrows : t₁.rows = t.rows := by
    rw [← Table.transpose_columnAt ht, ← Table.transpose_columnAt (h.rectangular ht), h.columns,
      h.height]
    congr 1
    exact List.map_congr_left fun i hi => hcells i (List.mem_range.1 hi)
  cases t
  cases t₁
  have hcolumns := h.columns
  simp only at hcolumns hrows
  rw [hcolumns, hrows]

/-- Where every column stays as it is, so does the table. -/
theorem eq_self (ht : t.IsRectangular) (h : Columnwise f t t₁)
    (hself : ∀ i name, t.columns[i]? = some name → f name (t.columnAt i) = .ok (t.columnAt i)) :
    t₁ = t := by
  refine eq_of_columnAt ht h.reshaped fun i hi => ?_
  have hname := List.getElem?_eq_getElem hi
  have hcells := h.columns i _ hname
  rw [hself i _ hname] at hcells
  exact (Except.ok.inj hcells).symm

end Columnwise

/-- What changing the column of one name does to the column of any. -/
def onColumn (name : String) (f : List Value → Except PreparationError (List Value)) (other : String)
    (cells : List Value) : Except PreparationError (List Value) :=
  if other = name then f cells else .ok cells

theorem changeColumn_columnwise {several : PreparationError}
    {f : List Value → Except PreparationError (List Value)} {name : String} {t t' : Table}
    (hf : KeepsLength f) (ht : t.IsRectangular) (h : changeColumn several f name t = .ok t') :
    t.columns.count name ≤ 1 ∧ Columnwise (onColumn name f) t t' := by
  have hchange := changeColumn_cases h
  have hreshaped := hchange.reshaped hf
  cases hchange with
  | absent habsent =>
    refine ⟨by rw [List.count_eq_zero_of_not_mem habsent]; exact Nat.zero_le 1, hreshaped, ?_⟩
    intro i other hi
    refine if_neg fun heq => habsent ?_
    exact heq ▸ List.mem_of_getElem? hi
  | @changed i cells hi hcount hcells =>
    refine ⟨hcount, hreshaped, fun j other hj => ?_⟩
    have hlength := (hf _ _ hcells).trans (t.length_columnAt _)
    unfold onColumn
    split
    · next heq =>
      rw [heq] at hj
      rw [eq_of_count_le_one hcount hj hi, hcells,
        Table.columnAt_setColumnAt ht (List.getElem?_eq_some_iff.1 hi).1 hlength]
    · next hne =>
      rw [Table.columnAt_setColumnAt_of_ne hlength]
      rintro rfl
      rw [hj] at hi
      exact hne (Option.some.inj hi)

/-- A column that can be changed and is the only one of its name is changed. -/
theorem exists_changeColumn (several : PreparationError)
    {f : List Value → Except PreparationError (List Value)} {name : String} {t : Table}
    (hcount : t.columns.count name ≤ 1)
    (h : ∀ i, t.columns[i]? = some name → ∃ cells, f (t.columnAt i) = .ok cells) :
    ∃ t', changeColumn several f name t = .ok t' := by
  unfold changeColumn
  split
  · exact ⟨t, rfl⟩
  · next i hi =>
    obtain ⟨cells, hcells⟩ := h i (getElem?_of_idxOf? hi)
    rw [Table.countColumn, if_neg (Nat.not_lt.2 hcount), hcells]
    exact ⟨_, rfl⟩

/-! ## §3 Reading numbers -/

/-- What reading columns as numbers does to the column of a name. -/
def readPass (dateText : Value) (names : List Value) (name : String) (cells : List Value) :
    Except PreparationError (List Value) :=
  if name ≠ "" ∧ .text name ∈ names then readCells dateText name cells else .ok cells

/-- A setting that names a column names one that is there once at most, and a setting that is no name
is passed over. -/
def Fits (columns : List String) : Value → Prop
  | .text name => name ≠ "" → columns.count name ≤ 1
  | v => v.isTruthy = true → v.isKey = true

theorem keepsLength_readCells (dateText : Value) (name : String) :
    KeepsLength (readCells dateText name) :=
  fun _ _ h => (Column.isRead_of_toNumbers (ok_of_readCells h)).1

theorem readCells_of_isRead {dateText : Value} {name : String} {cells : List Value}
    (h : Column.IsRead (dateText == .text name) cells) : readCells dateText name cells = .ok cells := by
  rw [readCells, Column.toNumbers_of_isRead h]
  rfl

/-- Reading a column twice is reading it once. -/
theorem readCells_readCells {dateText : Value} {name : String} {cells numbers : List Value}
    (h : readCells dateText name cells = .ok numbers) :
    readCells dateText name numbers = .ok numbers :=
  readCells_of_isRead (Column.isRead_of_toNumbers (ok_of_readCells h)).2

theorem readColumn_eq (dateText : Value) (name : String) (t : Table) :
    readColumn dateText name t =
      changeColumn .severalNumberColumns (readCells dateText name) name t := by
  rw [readColumn]
  congr 1
  funext cells
  unfold readCells
  cases Column.toNumbers (dateText == .text name) cells <;> rfl

/-- A further name in front means that its column is read, whether it is named again or not. -/
theorem readPass_cons {dateText : Value} {name : String} {names : List Value} (hname : name ≠ "")
    (other : String) (cells : List Value) :
    (onColumn name (readCells dateText name) other cells >>= readPass dateText names other) =
      readPass dateText (.text name :: names) other cells := by
  unfold onColumn readPass
  by_cases heq : other = name
  · subst heq
    simp only [if_true, List.mem_cons_self, hname, ne_eq, not_false_eq_true, true_and]
    cases hcells : readCells dateText other cells with
    | error e => rfl
    | ok numbers =>
      change (if _ then _ else _) = _
      rw [readCells_readCells hcells, ite_self]
  · have hmem : Value.text other ∈ Value.text name :: names ↔ Value.text other ∈ names := by
      rw [List.mem_cons, Value.text.injEq, or_iff_right heq]
    simp only [if_neg heq, hmem]
    rfl

/-- A name in front that belongs to no column does not matter. -/
theorem readPass_skip {dateText v : Value} {names : List Value}
    (hv : ∀ name, name ≠ "" → v ≠ .text name) :
    readPass dateText (v :: names) = readPass dateText names := by
  funext name cells
  unfold readPass
  congr 1
  rw [List.mem_cons]
  by_cases hname : name = ""
  · simp [hname]
  · rw [or_iff_right (hv name hname).symm]

theorem readNumbers_columnwise {dateText : Value} {names : List Value} {t t' : Table}
    (ht : t.IsRectangular) (h : readNumbers dateText names t = .ok t') :
    (∀ v ∈ names, Fits t.columns v) ∧ Columnwise (readPass dateText names) t t' := by
  induction names generalizing t with
  | nil =>
    cases h
    refine ⟨fun v hv => (nomatch hv), (Columnwise.refl _).congr fun i name _ => ?_⟩
    exact (if_neg fun hmem => nomatch hmem.2).symm
  | cons v rest ih =>
    cases v with
    | text name =>
      rw [readNumbers] at h
      split at h
      · next hempty =>
        have hname := String.isEmpty_iff.1 hempty
        obtain ⟨hfits, hrest⟩ := ih ht h
        rw [readPass_skip (by rintro other hother heq; cases heq; exact hother hname)]
        refine ⟨?_, hrest⟩
        rintro v (_ | ⟨_, hv⟩)
        · exact fun hne => absurd hname hne
        · exact hfits v hv
      · next hempty =>
        have hname : name ≠ "" := fun heq => hempty (String.isEmpty_iff.2 heq)
        obtain ⟨next, hread, h⟩ := bind_ok h
        rw [readColumn_eq] at hread
        obtain ⟨hcount, hfirst⟩ :=
          changeColumn_columnwise (keepsLength_readCells dateText name) ht hread
        obtain ⟨hfits, hrest⟩ := ih (hfirst.reshaped.rectangular ht) h
        refine ⟨?_, (hfirst.trans hrest).congr fun i other _ => readPass_cons hname other _⟩
        rintro v (_ | ⟨_, hv⟩)
        · exact fun _ => hcount
        · exact hfirst.reshaped.columns ▸ hfits v hv
    | _ =>
      rw [readNumbers] at h
      · split at h
        · cases h
        · next hkey =>
          obtain ⟨hfits, hrest⟩ := ih ht h
          rw [readPass_skip (by simp)]
          refine ⟨?_, hrest⟩
          rintro v (_ | ⟨_, hv⟩)
          · exact fun htruthy => by simpa [htruthy] using hkey
          · exact hfits v hv
      all_goals simp

/-- Reading columns as numbers succeeds if each column that is there can be read. -/
theorem exists_readNumbers {dateText : Value} {names : List Value} {t : Table}
    (ht : t.IsRectangular) (hfits : ∀ v ∈ names, Fits t.columns v)
    (h : ∀ i name, t.columns[i]? = some name → ∃ cells,
      readPass dateText names name (t.columnAt i) = .ok cells) :
    ∃ t', readNumbers dateText names t = .ok t' := by
  induction names generalizing t with
  | nil => exact ⟨t, rfl⟩
  | cons v rest ih =>
    have hrest : ∀ v ∈ rest, Fits t.columns v := fun v hv => hfits v (List.mem_cons_of_mem _ hv)
    have hfirst := hfits v List.mem_cons_self
    cases v with
    | text name =>
      rw [readNumbers]
      split
      · next hempty =>
        refine ih ht hrest fun i other hi => ?_
        rw [← readPass_skip (v := .text name)]
        · exact h i other hi
        · rintro other hother heq
          cases heq
          exact hother (String.isEmpty_iff.1 hempty)
      · next hempty =>
        have hname : name ≠ "" := fun heq => hempty (String.isEmpty_iff.2 heq)
        obtain ⟨next, hread⟩ := exists_changeColumn .severalNumberColumns
          (f := readCells dateText name) (t := t) (hfirst hname) fun i hi => by
            obtain ⟨cells, hcells⟩ := h i name hi
            rw [readPass, if_pos ⟨hname, List.mem_cons_self⟩] at hcells
            exact ⟨cells, hcells⟩
        have hnext := (changeColumn_columnwise (keepsLength_readCells dateText name) ht hread).2
        rw [readColumn_eq, hread]
        have hcolumns := hnext.reshaped.columns
        refine ih (hnext.reshaped.rectangular ht) (hcolumns ▸ hrest) fun i other hi => ?_
        rw [hcolumns] at hi
        obtain ⟨cells, hcells⟩ := h i other hi
        rw [← readPass_cons hname, hnext.columns i other hi] at hcells
        exact ⟨cells, hcells⟩
    | _ =>
      rw [readNumbers]
      · rw [if_neg]
        · refine ih ht hrest fun i other hi => ?_
          obtain ⟨cells, hcells⟩ := h i other hi
          rw [readPass_skip (by simp)] at hcells
          exact ⟨cells, hcells⟩
        · simp only [Bool.and_eq_true, Bool.not_eq_true', not_and, Bool.not_eq_false]
          exact hfirst
      all_goals simp

theorem readNumbers_append (dateText : Value) (names more : List Value) (t : Table) :
    readNumbers dateText (names ++ more) t =
      (readNumbers dateText names t >>= readNumbers dateText more) := by
  induction names generalizing t with
  | nil => rfl
  | cons v rest ih =>
    cases v with
    | text name =>
      rw [List.cons_append, readNumbers, readNumbers]
      split
      · exact ih t
      · cases readColumn dateText name t with
        | error e => rfl
        | ok next => exact ih next
    | _ =>
      rw [List.cons_append, readNumbers, readNumbers]
      · split
        · rfl
        · exact ih t
      all_goals simp

/-- A list or an object among the names, behind names that fit, is where reading stops. -/
theorem readNumbers_notComparable {dateText v : Value} {before after : List Value} {t : Table}
    (hbefore : ∃ t', readNumbers dateText before t = .ok t') (htruthy : v.isTruthy = true)
    (hkey : v.isKey = false) :
    readNumbers dateText (before ++ v :: after) t = .error (.notComparable v) := by
  obtain ⟨t', hread⟩ := hbefore
  rw [readNumbers_append, hread]
  change readNumbers dateText (v :: after) t' = _
  cases v with
  | list | object =>
    rw [readNumbers]
    · rw [htruthy, hkey]
      rfl
    all_goals simp
  | _ => cases hkey

/-! ## §4 Preparing -/

/-- What trimming the date texts does to the column of a name. -/
def trimPass (dateText : Value) (name : String) (cells : List Value) : List Value :=
  if name ≠ "" ∧ dateText = .text name then cells.map trimCell else cells

/-- What becomes of the column of a name when repeated rows are dropped. -/
def columnPass (dateText : Value) (names : List Value) (name : String) (cells : List Value) :
    Except PreparationError (List Value) :=
  readPass dateText names name (trimPass dateText name cells)

theorem trimDates_columnwise {dateText : Value} {t t' : Table} (ht : t.IsRectangular)
    (h : trimDates dateText t = .ok t') :
    Fits t.columns dateText ∧
      Columnwise (fun name cells => .ok (trimPass dateText name cells)) t t' := by
  -- Without a name nothing is trimmed.
  have hkept (hdate : ∀ name, name ≠ "" → dateText ≠ .text name) :
      Columnwise (fun name cells => .ok (trimPass dateText name cells)) t t :=
    (Columnwise.refl t).congr fun i name _ =>
      congrArg Except.ok (if_neg fun hname => hdate name hname.1 hname.2).symm
  cases dateText with
  | text name =>
    rw [trimDates] at h
    split at h
    · next hempty =>
      cases h
      have hname := String.isEmpty_iff.1 hempty
      exact ⟨fun hne => absurd hname hne, hkept (by rintro _ hne ⟨⟩; exact hne hname)⟩
    · next hempty =>
      have hname : name ≠ "" := fun heq => hempty (String.isEmpty_iff.2 heq)
      have hlength : KeepsLength fun cells => .ok (cells.map trimCell) := by
        rintro cells trimmed ⟨⟩
        exact List.length_map _
      obtain ⟨hcount, htrimmed⟩ := changeColumn_columnwise hlength ht h
      refine ⟨fun _ => hcount, htrimmed.congr fun i other _ => ?_⟩
      unfold onColumn trimPass
      by_cases heq : other = name
      · subst heq
        rw [if_pos rfl, if_pos ⟨hname, rfl⟩]
      · rw [if_neg heq, if_neg fun hother => heq (Value.text.inj hother.2).symm]
  | list items | object items =>
    cases items with
    | nil =>
      cases h
      exact ⟨fun htruthy => (by cases htruthy), hkept (by simp)⟩
    | cons item rest => cases h
  | _ =>
    cases h
    exact ⟨fun _ => rfl, hkept (by simp)⟩

theorem exists_trimDates {dateText : Value} {t : Table} (h : Fits t.columns dateText) :
    ∃ t', trimDates dateText t = .ok t' := by
  cases dateText with
  | text name =>
    rw [trimDates]
    split
    · exact ⟨t, rfl⟩
    · next hempty =>
      refine exists_changeColumn _ (h fun heq => hempty (String.isEmpty_iff.2 heq)) fun i _ => ⟨_, rfl⟩
  | list items | object items =>
    cases items with
    | nil => exact ⟨t, rfl⟩
    | cons item rest => cases h rfl
  | _ => exact ⟨t, rfl⟩

theorem isRectangular_dropDuplicates {t : Table} (h : t.IsRectangular) :
    t.dropDuplicates.IsRectangular :=
  fun row hrow => h row (mem_of_mem_keepNew hrow)

/-- A table is prepared column by column, once its repeated rows are dropped. -/
theorem apply_columnwise {p : Preparation} {t t' : Table} (ht : t.IsRectangular)
    (h : p.apply t = .ok t') :
    ∃ names, p.numberColumns = .ok names ∧ (∀ v ∈ p.dateText :: names, Fits t.columns v) ∧
      Columnwise (columnPass p.dateText names) t.dropDuplicates t' := by
  unfold apply at h
  obtain ⟨distinct, hdistinct, h⟩ := bind_ok h
  rw [(withoutDuplicates_ok hdistinct).1] at h
  obtain ⟨trimmed, htrim, h⟩ := bind_ok h
  obtain ⟨names, hnames, h⟩ := bind_ok h
  obtain ⟨hdate, htrimmed⟩ := trimDates_columnwise (isRectangular_dropDuplicates ht) htrim
  obtain ⟨hfits, hread⟩ :=
    readNumbers_columnwise (htrimmed.reshaped.rectangular (isRectangular_dropDuplicates ht)) h
  refine ⟨names, hnames, ?_, htrimmed.trans hread⟩
  rintro v (_ | ⟨_, hv⟩)
  · exact hdate
  · exact htrimmed.reshaped.columns ▸ hfits v hv

/-- A table of cells that can be compared has its repeated rows dropped and its date texts trimmed. Then
columns of numbers can be read if the settings name them properly and each one can be read by itself. -/
theorem exists_trimmed {p : Preparation} {t : Table} (ht : t.IsRectangular) (hkeys : HasKeys t)
    (hdate : Fits t.columns p.dateText) :
    ∃ trimmed : Table,
      p.apply t = (p.numberColumns >>= fun names => readNumbers p.dateText names trimmed) ∧
      ∀ names, (∀ v ∈ names, Fits t.columns v) →
        (∀ i name, t.columns[i]? = some name → ∃ cells,
          columnPass p.dateText names name (t.dropDuplicates.columnAt i) = .ok cells) →
        ∃ t', readNumbers p.dateText names trimmed = .ok t' := by
  have hcomparable : incomparable? t = none := by
    refine List.findSome?_eq_none_iff.2 fun row hrow => List.find?_eq_none.2 fun v hv => ?_
    simp [hkeys row hrow v hv]
  have hdistinct : withoutDuplicates t = .ok t.dropDuplicates := by
    rw [withoutDuplicates, hcomparable]
  have hrectangular := isRectangular_dropDuplicates ht
  obtain ⟨trimmed, htrim⟩ := exists_trimDates (t := t.dropDuplicates) hdate
  have htrimmed := (trimDates_columnwise hrectangular htrim).2
  have hcolumns : trimmed.columns = t.columns := htrimmed.reshaped.columns
  refine ⟨trimmed, ?_, fun names hfits h => ?_⟩
  · unfold apply
    rw [hdistinct]
    change (trimDates p.dateText t.dropDuplicates >>= _) = _
    rw [htrim]
    rfl
  · refine exists_readNumbers (htrimmed.reshaped.rectangular hrectangular) (hcolumns ▸ hfits)
      fun i name hi => ?_
    rw [hcolumns] at hi
    rw [← Except.ok.inj (htrimmed.columns i name hi)]
    exact h i name hi

/-- A table of cells that can be compared is prepared if the settings name its columns properly and
each of them can be read. -/
theorem exists_apply {p : Preparation} {names : List Value} {t : Table} (ht : t.IsRectangular)
    (hkeys : HasKeys t) (hnames : p.numberColumns = .ok names)
    (hfits : ∀ v ∈ p.dateText :: names, Fits t.columns v)
    (h : ∀ i name, t.columns[i]? = some name → ∃ cells,
      columnPass p.dateText names name (t.dropDuplicates.columnAt i) = .ok cells) :
    ∃ t', p.apply t = .ok t' := by
  obtain ⟨hdate, hfits⟩ := List.forall_mem_cons.1 hfits
  obtain ⟨trimmed, happly, hread⟩ := exists_trimmed ht hkeys hdate
  rw [happly, hnames]
  exact hread names hfits h

/-- A list or an object where a column of numbers is to be named is why a table is not prepared, if
nothing is wrong with the names before it. -/
theorem apply_notComparable {p : Preparation} {before after : List Value} {v : Value} {t : Table}
    (ht : t.IsRectangular) (hkeys : HasKeys t) (hnames : p.numberColumns = .ok (before ++ v :: after))
    (hfits : ∀ v ∈ p.dateText :: before, Fits t.columns v)
    (h : ∀ i name, t.columns[i]? = some name → ∃ cells,
      columnPass p.dateText before name (t.dropDuplicates.columnAt i) = .ok cells)
    (htruthy : v.isTruthy = true) (hkey : v.isKey = false) :
    p.apply t = .error (.notComparable v) := by
  obtain ⟨hdate, hfits⟩ := List.forall_mem_cons.1 hfits
  obtain ⟨trimmed, happly, hread⟩ := exists_trimmed ht hkeys hdate
  rw [happly, hnames]
  exact readNumbers_notComparable (hread before hfits h) htruthy hkey

end Preparation

end MapFilter
