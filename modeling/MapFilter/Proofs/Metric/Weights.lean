import MapFilter.Metric
import MapFilter.Proofs.Expression.Filter
import MapFilter.Proofs.Sql.Rows
import MapFilter.Proofs.Table.Reading

/-!
# Weights of rows and of records

The weights of a table are found column by column, the weight of a record field by field, and the map
computes its own from an expression. All three take the same number of a row: the first finite one among
its cells under the fields of the metric. So each row has a weight of its own, whatever stands in the
other rows.

- `Record.ShowsRow`: records of a row
- `Table.rowNumber`: the number of a row
- `Table.exists_fill`: filling column by column reaches it in every row
- `Table.weights_isRowwise`: the weights of a table, of its records and on the map
-/

namespace MapFilter

open Column (SameReading finiteCell?)

/-! ## §1 Records of a row -/

/-- The record has the cells of a row under the names of their columns, and nothing else; a missing cell
may be absent or null. -/
def Record.ShowsRow (columns : List String) (row : List Value) (r : Record) : Prop :=
  ∀ name, (r.get? name).getD .null = (Record.get? (columns.zip row) name).getD .null

namespace Record.ShowsRow

variable {columns : List String} {row : List Value} {r : Record}

theorem record (h : columns.Nodup) (hlength : row.length = columns.length) :
    Record.ShowsRow columns row (Table.record columns row) := by
  intro name
  rw [Sql.record_eq_present, Sql.get?_present (Sql.isRow_zip h hlength).nodup]
  cases hcell : Record.get? (columns.zip row) name with
  | none => rfl
  | some v =>
    by_cases hnull : v = .null
    · subst hnull
      rfl
    · rw [Option.filter_some, if_pos (by simpa using hnull)]

/-- Null has no number, so the record has those of the row. -/
theorem reading?_eq (h : r.ShowsRow columns row) (name : String) :
    r.reading? name = Record.reading? (columns.zip row) name := by
  have hnull (v : Option Value) : v.bind Value.reading? = (v.getD .null).reading? := by
    cases v <;> rfl
  rw [Record.reading?, Record.reading?, hnull, hnull, h name]

/-- A property that is there and not null is a cell of the row. -/
theorem mem (h : r.ShowsRow columns row) {name : String} {v : Value} (hv : r.get? name = some v)
    (hne : v ≠ .null) : v ∈ row := by
  have hcell := h name
  rw [hv, Option.getD_some] at hcell
  cases hget : Record.get? (columns.zip row) name with
  | none =>
    rw [hget] at hcell
    exact absurd hcell hne
  | some w =>
    rw [hget, Option.getD_some] at hcell
    exact hcell ▸ (List.of_mem_zip (Record.mem_of_get? hget)).2

end Record.ShowsRow

namespace Table

/-! ## §2 Column by column -/

/-- The first finite number of a row under some names, zero if there is none. -/
def rowNumber (columns names : List String) (row : List Value) : Number :=
  (names.findSome? (Record.reading? (columns.zip row))).getD (.finite 0)

variable {t : Table}

/-- The first column of a name has the cell of the row that stands under it. -/
theorem get?_zip {columns : List String} {row : List Value} {name : String} {i : Nat}
    (hi : columns.idxOf? name = some i) (hlength : row.length = columns.length) :
    Record.get? (columns.zip row) name = some (row.getD i .null) := by
  induction columns generalizing i row with
  | nil => cases hi
  | cons first rest ih =>
    obtain ⟨v, cells, rfl⟩ := List.exists_cons_of_length_eq_add_one hlength
    rw [List.zip_cons_cons, Record.get?, List.lookup_cons]
    rw [List.idxOf?_cons] at hi
    by_cases hname : first = name
    · subst hname
      rw [beq_self_eq_true, if_pos rfl] at hi
      cases hi
      rw [beq_self_eq_true]
      rfl
    · rw [beq_eq_false_iff_ne.2 hname, if_neg Bool.false_ne_true] at hi
      obtain ⟨j, hj, rfl⟩ := Option.map_eq_some_iff.1 hi
      rw [beq_eq_false_iff_ne.2 (Ne.symm hname)]
      exact ih hj (Nat.succ.inj hlength)

theorem get?_zip_of_notMem {columns : List String} {row : List Value} {name : String}
    (h : name ∉ columns) : Record.get? (columns.zip row) name = none := by
  apply Sql.get?_eq_none
  intro hname
  obtain ⟨entry, hentry, rfl⟩ := List.mem_map.1 hname
  exact h (List.of_mem_zip hentry).1

/-- A column that was read as numbers has the number of its row in every cell. -/
theorem reads_column {name : String} {i : Nat} {numbers : List Value} (hshape : t.IsRectangular)
    (hi : t.columns.idxOf? name = some i)
    (h : List.Forall₂ (fun v w => SameReading v.reading? (finiteCell? w)) (t.columnAt i) numbers) :
    List.Forall₂
      (fun row w => SameReading (Record.reading? (t.columns.zip row) name) (finiteCell? w))
      t.rows numbers := by
  have hrows := List.forall₂_map_left_iff.1 h
  refine ((List.forall₂_and_left _ _).2 ⟨hshape, hrows⟩).imp fun row w ⟨hlength, hreads⟩ => ?_
  rwa [Record.reading?, get?_zip hi hlength, Option.bind_some]

/-- Filling in what is still missing, cell by cell. -/
theorem reads_fillFrom {rows : List (List Value)} {a b : List Value → Option Number}
    {values : List (Option Number)} {cells : List Value}
    (hvalues : List.Forall₂ (fun row value => SameReading (a row) value) rows values)
    (hcells : List.Forall₂ (fun row cell => SameReading (b row) (finiteCell? cell)) rows cells) :
    List.Forall₂ (fun row value => SameReading ((a row).or (b row)) value) rows
      (fillFrom values cells) := by
  induction hvalues generalizing cells with
  | nil => exact .nil
  | cons hvalue _ ih =>
    obtain ⟨cell, rest, hcell, hrest, rfl⟩ := List.forall₂_cons_left_iff.1 hcells
    exact .cons (hvalue.or hcell) (ih hrest)

/-- Starting from values that each row has already, all columns of a chain can be read, and filling from
them one after the other leads every row to its first number. -/
theorem exists_fill (hshape : t.IsRectangular)
    (hcells : ∀ row ∈ t.rows, ∀ v ∈ row, v.ReadsAlike) (names : List String)
    {a : List Value → Option Number} {values : List (Option Number)}
    (hvalues : List.Forall₂ (fun row value => SameReading (a row) value) t.rows values) :
    ∃ columns, t.numberColumns (names.map .text) = .ok columns ∧
      List.Forall₂
        (fun row value =>
          SameReading ((a row).or (names.findSome? (Record.reading? (t.columns.zip row)))) value)
        t.rows (columns.foldl fillFrom values) := by
  induction names generalizing a values with
  | nil =>
    refine ⟨[], rfl, hvalues.imp fun row value h => ?_⟩
    rwa [List.findSome?_nil, Option.or_none]
  | cons name rest ih =>
    rw [List.map_cons, numberColumns, column?]
    cases hi : t.columns.idxOf? name with
    | none =>
      -- A name without a column has no number in any row.
      have hnone (row : List Value) : Record.reading? (t.columns.zip row) name = none := by
        rw [Record.reading?, get?_zip_of_notMem (List.idxOf?_eq_none_iff.1 hi), Option.bind_none]
      simp only [Option.map_none, List.findSome?_cons, hnone]
      exact ih hvalues
    | some i =>
      have hcolumn : ∀ v ∈ t.columnAt i, v.ReadsAlike := by
        intro v hv
        obtain ⟨row, hrow, rfl⟩ := List.mem_map.1 hv
        rw [List.getD_eq_getElem?_getD]
        cases hcell : row[i]? with
        | none => trivial
        | some v => exact hcells row hrow v (List.mem_of_getElem? hcell)
      obtain ⟨numbers, hnumbers, hreads⟩ := Column.toNumbers_reads false hcolumn
      obtain ⟨columns, hcolumns, hfill⟩ :=
        ih (reads_fillFrom hvalues (reads_column hshape hi hreads))
      refine ⟨numbers :: columns, ?_, hfill.imp fun row value hrow => ?_⟩
      · simp only [Option.map_some, hnumbers, hcolumns]
        rfl
      · rw [Option.or_assoc] at hrow
        rw [List.findSome?_cons]
        cases hname : Record.reading? (t.columns.zip row) name with
        | none => rwa [hname, Option.none_or] at hrow
        | some x => rwa [hname, Option.some_or] at hrow

/-! ## §3 Weights -/

/-- Records of readable cells have the number of their row for a quantity, and so has the expression that
the map is given. -/
theorem quantity_of_showsRow {columns : List String} {row : List Value} {r : Record}
    (hr : r.ShowsRow columns row) (hcells : ∀ v ∈ row, v.ReadsAlike) (names : List String) :
    quantity r (names.map .text) = .ok (rowNumber columns names row) := by
  have hfit : r.IsReadable names := by
    intro before name after i _ hi hbeyond
    have hfinite : (Value.int i).ReadsAlike := hcells _ (hr.mem hi (by simp))
    exact absurd (Number.isFinite_ofInt_iff.1 hfinite) (Nat.not_lt.2 hbeyond)
  rw [quantity_of_isReadable hfit, rowNumber, funext hr.reading?_eq]

/-- The expression of the weight has the value that its parts have. -/
theorem evaluate_weightExpression {r : Record} {fields : List FieldName} {x : Number}
    (h : Expression.numberOf? ((Expression.quantity fields).evaluate r) = some x) :
    (weightExpression fields).evaluate r = .float ((Number.finite 1).add x.aboveZero).log := by
  have hlarger : (Expression.larger (.literal (.int 0)) (.quantity fields)).evaluate r =
      .float x.aboveZero := by
    simp only [Expression.evaluate, Expression.onNumbers, h]
    rfl
  have hsum : (Expression.sum (.literal (.int 1)) (.larger (.literal (.int 0)) (.quantity fields))).evaluate
      r = .float ((Number.finite 1).add x.aboveZero) := by
    rw [Expression.evaluate, hlarger]
    rfl
  rw [weightExpression, Expression.evaluate, hsum]
  rfl

/-- The quantities of a table are those of its rows, up to the sign of zero. -/
theorem exists_quantities {t : Table} (names : List String) (hshape : t.IsRectangular)
    (hcells : ∀ row ∈ t.rows, ∀ v ∈ row, v.ReadsAlike) :
    ∃ xs, t.quantities (names.map .text) = .ok xs ∧
      List.Forall₂ (fun row q => (rowNumber t.columns names row).same q = true) t.rows xs := by
  have hstart : List.Forall₂ (fun (_ : List Value) value => SameReading none value) t.rows
      (t.rows.map fun _ => (none : Option Number)) :=
    List.forall₂_map_right_iff.2 (List.forall₂_same.2 fun _ _ => .none)
  obtain ⟨columns, hcolumns, hfill⟩ := exists_fill hshape hcells names hstart
  refine ⟨_, by rw [quantities, hcolumns]; rfl, ?_⟩
  exact List.forall₂_map_right_iff.2 (hfill.imp fun _ _ h => h.same_getD)

/-- A table of distinct columns whose cells are missing, truth values, numbers or texts that both readers
read alike has a weight for each of its rows, in their order, and each comes from the number of its row
alone; only where nothing is above zero may the zero have a sign. That number is the quantity of every
record of the row, whether missing cells are absent or null, and the value of the expression inside the
weight that the map computes. -/
theorem weights_isRowwise (t : Table) (names : List String) (hcolumns : t.columns.Nodup)
    (hshape : t.IsRectangular) (hcells : ∀ row ∈ t.rows, ∀ v ∈ row, v.ReadsAlike) :
    let fields := names.map Value.text
    let x := rowNumber t.columns names
    (∃ xs, t.quantities fields = .ok xs ∧
        xs.map Number.aboveZero = t.rows.map fun row => (x row).aboveZero) ∧
      (∃ ys, t.weights fields = .ok (ys.map Number.log1p) ∧
        List.Forall₂ (fun row y => y = (x row).aboveZero ∨
          y = .negativeZero ∧ (x row).aboveZero = .finite 0) t.rows ys) ∧
      ∀ row ∈ t.rows, Record.ShowsRow t.columns row (Table.record t.columns row) ∧
        ∀ r : Record, r.ShowsRow t.columns row →
          quantity r fields = .ok (x row) ∧ weight r fields = .ok (x row).aboveZero.log1p ∧
            Expression.numberOf? ((Expression.quantity fields).evaluate r) = some (x row) ∧
            (weightExpression fields).evaluate r =
              .float ((Number.finite 1).add (x row).aboveZero).log := by
  intro fields x
  obtain ⟨xs, hxs, hsame⟩ := exists_quantities names hshape hcells
  refine ⟨⟨xs, hxs, ?_⟩, ⟨xs.map Number.clipped, ?_, ?_⟩, fun row hrow =>
    ⟨.record hcolumns (hshape row hrow), fun r hr => ?_⟩⟩
  · have habove : List.Forall₂ Eq (t.rows.map fun row => (x row).aboveZero)
        (xs.map Number.aboveZero) :=
      List.forall₂_map_left_iff.2 (List.forall₂_map_right_iff.2
        (hsame.imp fun _ _ h => Number.aboveZero_congr h))
    rw [List.forall₂_eq_eq_eq] at habove
    exact habove.symm
  · rw [weights, hxs, List.map_map]
    rfl
  · exact List.forall₂_map_right_iff.2 (hsame.imp fun _ _ h => Number.clipped_of_same h)
  · have hquantity := quantity_of_showsRow hr (hcells row hrow) names
    have hnames : ∀ field ∈ fields, ∃ s, field = Value.text s := by
      intro field hfield
      obtain ⟨s, -, hs⟩ := List.mem_map.1 hfield
      exact ⟨s, hs.symm⟩
    have hvalue := Expression.evaluate_quantity hnames hquantity
    refine ⟨hquantity, ?_, hvalue, evaluate_weightExpression hvalue⟩
    rw [weight, hquantity]
    rfl

/-- Five rows of which the first column gives the number of some, and the second one that of others: a
text with blanks, an infinity, a negative number, a missing cell, and a text that is no number. -/
def unevenTable : Table where
  columns := ["TotalSales", "Alt", "Note"]
  rows := [[.text " 7 ", .int 1, .text "a"], [.float (.infinite false), .bool true, .null],
    [.float (.finite (-3)), .int 5, .null], [.null, .text "12", .text "b"],
    [.text "n/a", .float .nan, .null]]

theorem weights_isRowwise_unevenTable :
    (unevenTable.columns.Nodup ∧ unevenTable.IsRectangular ∧
      ∀ row ∈ unevenTable.rows, ∀ v ∈ row, v.ReadsAlike) ∧
      ∃ ys, unevenTable.weights [.text "TotalSales", .text "Alt"] = .ok (ys.map Number.log1p) ∧
        List.Forall₂ (fun x y => y = x ∨ y = Number.negativeZero ∧ x = .finite 0)
          [.finite 7, .finite 1, .finite 0, .finite 12, .finite 0] ys := by
  have hcolumns : unevenTable.columns.Nodup := by decide
  have hshape : unevenTable.IsRectangular := by simp [Table.IsRectangular, unevenTable]
  have hcells : ∀ row ∈ unevenTable.rows, ∀ v ∈ row, v.ReadsAlike := by decide +kernel
  have hnumbers :
      unevenTable.rows.map
        (fun row => (rowNumber unevenTable.columns ["TotalSales", "Alt"] row).aboveZero) =
      [.finite 7, .finite 1, .finite 0, .finite 12, .finite 0] := by decide +kernel
  obtain ⟨-, ⟨ys, hweights, hys⟩, -⟩ :=
    weights_isRowwise unevenTable ["TotalSales", "Alt"] hcolumns hshape hcells
  refine ⟨⟨hcolumns, hshape, hcells⟩, ys, hweights, ?_⟩
  rw [← hnumbers]
  exact List.forall₂_map_left_iff.2 hys

end Table

end MapFilter
