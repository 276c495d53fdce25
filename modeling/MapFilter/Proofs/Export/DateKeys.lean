import MapFilter.Proofs.Capability.Finding
import MapFilter.Proofs.Export.Headers
import MapFilter.Proofs.Sql.Rows

/-!
# Date keys of exports

Where the headers of an export are different once they are clean, adding date keys changes one column and
no other: each row comes to have the key of its own date text, or no key if that is no written date. A
probe that looks for the keys takes them for what they are. So it finds date keys in the table if and only
if one of the first rows has a written date.

- `Value.HasKey`: the key of a date cell
- `Table.IsKeyed`: a table with the keys of its dates
- `Table.isKeyed_putDateKeys`: adding a column of keys, in place or at the end
- `Probe.detect_column`: what a probe for one name finds out from the rows of a table
- `Table.addDateKey_detected`: date keys, from the texts to the probe
-/

namespace MapFilter

/-! ## §1 Keys of cells -/

/-- The key that belongs to a date cell: that of a written date, and none for any other value. -/
inductive Value.HasKey : Value → Value → Prop where
  | written {s : String} {key : Int} : DateKey.encode s = some key → HasKey (.text s) (.int key)
  | unwritten {v : Value} : (∀ s, v = .text s → DateKey.encode s = none) → HasKey v .null

/-- The cell holds the text of a date that can be read. -/
def Value.IsWrittenDate (v : Value) : Prop :=
  ∃ s key, v = .text s ∧ DateKey.encode s = some key

theorem Value.hasKey_dateKeyCell (v : Value) : v.HasKey (Table.dateKeyCell v) := by
  rw [Table.dateKeyCell]
  cases hkey : DateKey.encodeValue v with
  | none =>
    refine .unwritten fun s hs => ?_
    subst hs
    exact hkey
  | some key =>
    cases v with
    | text s => exact .written hkey
    | _ => cases hkey

/-- A probe takes the keys of written dates for keys, and nothing else. -/
theorem Value.HasKey.isSome_dateKeyOf?_iff {v k : Value} (h : v.HasKey k) :
    (dateKeyOf? k).isSome = true ↔ v.IsWrittenDate := by
  cases h with
  | @written s key hkey =>
    obtain ⟨d, -, hvalid, rfl⟩ := DateKey.encode_eq_some_iff.1 hkey
    refine ⟨fun _ => ⟨s, _, rfl, hkey⟩, fun _ => ?_⟩
    rw [dateKeyOf?, if_pos (DateKey.isValid_key hvalid)]
    rfl
  | unwritten hnone =>
    constructor
    · intro hsome
      cases hsome
    · rintro ⟨s, key, rfl, hkey⟩
      rw [hnone s rfl] at hkey
      cases hkey

/-! ## §2 Columns of keys -/

namespace Table

variable {t r : Table} {name text key : String} {cells : List Value} {i j : Nat}

/-- The table is another one with clean headers and the keys of its dates: the column of the keys is
where it was or comes last, holds for each row the key of its date cell, and is all that is new. -/
structure IsKeyed (text key : String) (t r : Table) : Prop where
  columns : r.columns = t.keyedHeaders key
  height : r.rows.length = t.rows.length
  rectangular : r.IsRectangular
  others : ∀ i name, t.headers[i]? = some name → name ≠ key → r.columnAt i = t.columnAt i
  keys : ∀ i j, t.headers[i]? = some text → r.columns[j]? = some key →
    List.Forall₂ Value.HasKey (t.columnAt i) (r.columnAt j)

theorem rows_addColumn (hlength : cells.length = t.rows.length) :
    (t.addColumn name cells).rows.length = t.rows.length := by
  simp [addColumn, hlength]

theorem isRectangular_addColumn (h : t.IsRectangular) : (t.addColumn name cells).IsRectangular := by
  intro row hrow
  simp only [addColumn, List.mem_map, Prod.exists] at hrow
  obtain ⟨old, cell, hmem, rfl⟩ := hrow
  simp [addColumn, h old (List.of_mem_zip hmem).1]

theorem columnAt_addColumn_last (h : t.IsRectangular) (hlength : cells.length = t.rows.length) :
    (t.addColumn name cells).columnAt t.columns.length = cells := by
  apply List.ext_getElem
  · rw [length_columnAt, rows_addColumn hlength, hlength]
  intro k hk hcell
  have hrow : k < t.rows.length := hlength ▸ hcell
  simp [columnAt, addColumn, List.getD_eq_getElem?_getD, ← h _ (List.getElem_mem hrow)]

theorem columnAt_addColumn_of_lt (h : t.IsRectangular) (hlength : cells.length = t.rows.length)
    (hi : i < t.columns.length) : (t.addColumn name cells).columnAt i = t.columnAt i := by
  apply List.ext_getElem
  · rw [length_columnAt, length_columnAt, rows_addColumn hlength]
  intro k hk hcell
  have hrow : k < t.rows.length := by simpa using hcell
  have hwidth : i < (t.rows[k]).length := by rwa [h _ (List.getElem_mem hrow)]
  simp [columnAt, addColumn, List.getD_eq_getElem?_getD, List.getElem?_append_left hwidth]

/-- Among different names each one has a single place. -/
theorem eq_of_getElem? {names : List String} (h : names.Nodup) (hi : names[i]? = some name)
    (hj : names[j]? = some name) : i = j := by
  obtain ⟨hlt, -⟩ := List.getElem?_eq_some_iff.1 hi
  exact (List.getElem?_inj hlt h).1 (hi.trans hj.symm)

theorem positionsOf_of_nodup (h : t.columns.Nodup) (hi : t.columns[i]? = some name) :
    t.positionsOf (.text name) = [i] := by
  have hdistinct : (t.positionsOf (.text name)).Nodup := List.nodup_range.filter _
  apply List.perm_singleton.1
  refine (List.perm_ext_iff_of_nodup hdistinct (List.nodup_singleton i)).2 fun j => ?_
  rw [mem_positionsOf, List.mem_singleton]
  constructor
  · exact fun hj => eq_of_getElem? h hj hi
  · rintro rfl
    exact hi

/-- Among different names the keys get one column, which is there or comes last. -/
theorem putDateKeys_of_nodup (h : t.columns.Nodup) (keys : List Value) :
    t.putDateKeys (.text key) keys = .ok (t.putColumn (.text key) keys) := by
  have hfew : (t.positionsOf (.text key)).length ≤ 1 := by
    by_cases hmem : key ∈ t.columns
    · obtain ⟨i, hi⟩ := List.mem_iff_getElem?.1 hmem
      rw [positionsOf_of_nodup h hi]
      exact Nat.le_refl 1
    · rw [positionsOf_eq_nil_iff.2 hmem]
      exact Nat.zero_le 1
  have hone : ¬ (1 < (t.positionsOf (.text key)).length) := Nat.not_lt.2 hfew
  simp only [putDateKeys, hone, decide_false, Bool.false_and, Bool.false_eq_true, if_false]

theorem isRectangular_withHeaders (h : t.IsRectangular) : t.withHeaders.IsRectangular := by
  intro row hrow
  rw [h row hrow]
  exact (List.length_map ..).symm

section Keyed

variable (ht : t.IsRectangular) (hdistinct : t.headers.Nodup) (hi : t.headers[i]? = some text)
include ht hdistinct hi

/-- Keys that take the place of others. -/
theorem isKeyed_setColumnAt (hj : t.headers[j]? = some key) (hlength : cells.length = t.rows.length)
    (hkeys : List.Forall₂ Value.HasKey (t.columnAt i) cells) :
    IsKeyed text key t (t.withHeaders.setColumnAt j cells) where
  columns := by
    rw [keyedHeaders, if_pos (List.mem_of_getElem? hj)]
    rfl
  height := rows_setColumnAt hlength
  rectangular := isRectangular_setColumnAt (isRectangular_withHeaders ht)
  others := by
    intro k name hk hne
    have hplace : k ≠ j := by
      rintro rfl
      exact hne (Option.some.inj (hk.symm.trans hj))
    exact columnAt_setColumnAt_of_ne hlength hplace
  keys := by
    intro k l hk hl
    cases eq_of_getElem? hdistinct hi hk
    cases eq_of_getElem? hdistinct hj hl
    have hwidth : j < t.withHeaders.columns.length := (List.getElem?_eq_some_iff.1 hj).1
    rwa [columnAt_setColumnAt (isRectangular_withHeaders ht) hwidth hlength]

/-- Keys in a column of their own. -/
theorem isKeyed_addColumn (hkey : key ∉ t.headers) (hlength : cells.length = t.rows.length)
    (hkeys : List.Forall₂ Value.HasKey (t.columnAt i) cells) :
    IsKeyed text key t (t.withHeaders.addColumn key cells) where
  columns := by
    rw [keyedHeaders, if_neg hkey]
    rfl
  height := rows_addColumn hlength
  rectangular := isRectangular_addColumn (isRectangular_withHeaders ht)
  others := by
    intro k name hk _
    have hwidth : k < t.withHeaders.columns.length := (List.getElem?_eq_some_iff.1 hk).1
    exact columnAt_addColumn_of_lt (isRectangular_withHeaders ht) hlength hwidth
  keys := by
    intro k l hk hl
    cases eq_of_getElem? hdistinct hi hk
    -- The new column comes behind all others.
    have hnames : (t.keyedHeaders key).Nodup := nodup_keyedHeaders_iff.2 hdistinct
    rw [keyedHeaders, if_neg hkey] at hnames
    have hlast : (t.headers ++ [key])[t.headers.length]? = some key := by simp
    cases eq_of_getElem? hnames hlast hl
    have hcells : (t.withHeaders.addColumn key cells).columnAt t.headers.length = cells :=
      columnAt_addColumn_last (isRectangular_withHeaders ht) hlength
    rwa [hcells]

/-- With different headers, the column of the keys holds what was put into it, and the others are as they
were. -/
theorem isKeyed_putDateKeys (hr : t.withHeaders.putDateKeys (.text key)
    ((t.columnAt i).map dateKeyCell) = .ok r) : IsKeyed text key t r := by
  have hlength : ((t.columnAt i).map dateKeyCell).length = t.rows.length := by
    rw [List.length_map, length_columnAt]
  have hkeys : List.Forall₂ Value.HasKey (t.columnAt i) ((t.columnAt i).map dateKeyCell) :=
    List.forall₂_map_right_iff.2 (List.forall₂_same.2 fun v _ => v.hasKey_dateKeyCell)
  have hcolumns : t.withHeaders.columns.Nodup := hdistinct
  rw [putDateKeys_of_nodup hcolumns] at hr
  cases hr
  by_cases hkey : key ∈ t.headers
  · obtain ⟨j, hj⟩ := List.mem_iff_getElem?.1 hkey
    rw [putColumn, positionsOf_of_nodup hcolumns hj]
    exact isKeyed_setColumnAt ht hdistinct hi hj hlength hkeys
  · rw [putColumn, positionsOf_eq_nil_iff.2 hkey]
    exact isKeyed_addColumn ht hdistinct hi hkey hlength hkeys

end Keyed

end Table

/-! ## §3 Columns under a probe -/

/-- Whether a row carries a date key under the name of a column is decided by its cell there. -/
theorem carriesDateKey_record {columns : List String} {row : List Value} {name : String} {i : Nat}
    (hdistinct : columns.Nodup) (hlength : row.length = columns.length)
    (hi : columns[i]? = some name) : carriesDateKey (.text name) (Table.record columns row) =
      (dateKeyOf? (row.getD i .null)).isSome := by
  have hnames := (Sql.isRow_zip hdistinct hlength).nodup
  obtain ⟨hlt, rfl⟩ := List.getElem?_eq_some_iff.1 hi
  have hcell : i < row.length := hlength ▸ hlt
  have hmem : (columns[i], row[i]) ∈ columns.zip row := by
    rw [← List.getElem_zip (h := by simp [hlt, hcell])]
    exact List.getElem_mem _
  have hget : (Table.record columns row).get? columns[i] = (some row[i]).filter (· ≠ .null) := by
    rw [Sql.record_eq_present, Sql.get?_present hnames, Sql.get?_of_mem hnames hmem]
  rw [List.getD_eq_getElem?_getD, List.getElem?_eq_getElem hcell, Option.getD_some, carriesDateKey,
    Record.field?, hget]
  -- The record has no null, but that would be no key either.
  by_cases hnull : row[i] = .null
  · rw [hnull]
    rfl
  · rw [Option.filter_some, if_pos (by simpa using hnull)]

/-- Values that belong together pairwise have a property or none of them has it. -/
theorem exists_mem_iff_of_forall₂ {α β : Type} {R : α → β → Prop} {p : α → Prop} {q : β → Prop}
    {as : List α} {bs : List β} (h : List.Forall₂ R as bs) (hR : ∀ a b, R a b → (q b ↔ p a)) :
    (∃ b ∈ bs, q b) ↔ ∃ a ∈ as, p a := by
  induction h with
  | nil => simp only [List.not_mem_nil, false_and, exists_false]
  | cons hab _ ih => rw [List.exists_mem_cons_iff, List.exists_mem_cons_iff, hR _ _ hab, ih]

namespace Probe

/-- A probe for the name of a column finds date keys if one of the first cells of the column is one. -/
theorem detect_column {σ : Type} {provider : SampleProvider σ} {source : Value} {s : σ} {r : Table}
    {key : String} {j : Nat} (hr : r.IsRectangular) (hdistinct : r.columns.Nodup)
    (hj : r.columns[j]? = some key) (size : Int)
    (hrecords : (provider source s).1 = .records r.records) :
    ∃ c, ((make (.text key) [] size).detect provider source s).1 = .ok c ∧
      (c.hasDateKey = true ↔
        ∃ cell ∈ (r.columnAt j).take (max size 1).toNat, (dateKeyOf? cell).isSome = true) := by
  have hdetect : ((make (.text key) [] size).detect provider source s).1 =
      (make (.text key) [] size).inspect r.records := by
    change inspectSample _ (provider source s).1 = _
    rw [hrecords]
    rfl
  rw [hdetect]
  by_cases hnone : r.records = []
  · refine ⟨.unknown, ?_, ?_⟩
    · rw [inspect, hnone, List.take_nil]
    · have hrows : r.rows = [] := List.map_eq_nil_iff.1 hnone
      simp [Table.columnAt, hrows, Capability.unknown]
  have hkeys : ∀ name ∈ [Value.text key], name.isKey = true := by
    intro name hname
    rw [List.mem_singleton.1 hname]
    rfl
  obtain ⟨c, hc, hfinds⟩ := inspect_finds hkeys (List.nodup_singleton _) size hnone
  refine ⟨c, hc, ?_⟩
  have hholds : c.hasDateKey = true ↔
      ∃ record ∈ r.records.take (max size 1).toNat, carriesDateKey (.text key) record = true := by
    rw [hfinds.hasDateKey, hfinds.resolved]
    simp [carriesDateKey_iff]
  rw [hholds]
  -- The records and the cells of the column come from the same rows.
  simp only [Table.records, Table.columnAt, ← List.map_take, List.mem_map, exists_exists_and_eq_and]
  refine exists_congr fun row => and_congr_right fun hrow => ?_
  rw [carriesDateKey_record hdistinct (hr row (List.mem_of_mem_take hrow)) hj]

end Probe

/-! ## §4 From date texts to the probe -/

namespace Table

/-- A table whose headers are different once they are clean gets date keys if one of them is that of the
date texts, and there is an error if none is. The keys are those of the texts, row by row, and nothing
else in the table changes. A probe for the keys finds some if and only if one of the first rows has a
written date. -/
theorem addDateKey_detected {t : Table} (ht : t.IsRectangular) (hdistinct : t.headers.Nodup)
    (text key : String) :
    (text ∉ t.headers →
      t.addDateKey (.text text) (.text key) = .error (.noDateTexts (.text text))) ∧
    ∀ i, t.headers[i]? = some text →
      ∃ r, t.addDateKey (.text text) (.text key) = .ok r ∧ IsKeyed text key t r ∧
        ∀ (σ : Type) (provider : SampleProvider σ) (source : Value) (s : σ) (size : Int),
          (provider source s).1 = .records r.records →
            ∃ c, ((Probe.make (.text key) [] size).detect provider source s).1 = .ok c ∧
              (c.hasDateKey = true ↔
                ∃ cell ∈ (t.columnAt i).take (max size 1).toNat, cell.IsWrittenDate) := by
  have hcases := addDateKey_cases t text key
  generalize t.addDateKey (.text text) (.text key) = outcome at hcases
  cases hcases with
  | missing hmissing =>
    exact ⟨fun _ => rfl, fun i hi => absurd (List.mem_of_getElem? hi) hmissing⟩
  | several hseveral =>
    exact absurd (List.nodup_iff_count_le_one.1 hdistinct text) (Nat.not_le.2 hseveral)
  | @keyed place r _ hplace hput hcolumns =>
    refine ⟨fun hmissing => absurd (List.mem_of_getElem? hplace) hmissing, fun i hi => ?_⟩
    cases eq_of_getElem? hdistinct hplace hi
    have hkeyed : IsKeyed text key t r := isKeyed_putDateKeys ht hdistinct hplace hput
    refine ⟨r, rfl, hkeyed, fun σ provider source s size hrecords => ?_⟩
    have hnames : r.columns.Nodup := by
      rw [hcolumns]
      exact nodup_keyedHeaders_iff.2 hdistinct
    have hkey : key ∈ r.columns := by
      rw [hcolumns]
      exact mem_keyedHeaders.2 (.inr rfl)
    obtain ⟨j, hj⟩ := List.mem_iff_getElem?.1 hkey
    obtain ⟨c, hc, hfound⟩ := Probe.detect_column hkeyed.rectangular hnames hj size hrecords
    refine ⟨c, hc, hfound.trans ?_⟩
    have hkeys := List.forall₂_take (max size 1).toNat (hkeyed.keys _ j hi hj)
    exact exists_mem_iff_of_forall₂ hkeys fun v k h => h.isSome_dateKeyOf?_iff

/-- An export with all kinds of date cells, of which the second is a written date. There are keys
already, and they are wrong. -/
def wrongKeys : Table :=
  { columns := ["\ufeffSaleDate", "SaleDateKey", " Branch "]
    rows := [[.text "soon", .int 7, .text " Bryan"], [.text "1/2/2026", .null, .null],
      [.null, .int 20260101, .text "Austin"], [.int 20260101, .int 8, .text "Austin"]] }

theorem addDateKey_detected_wrongKeys :
    wrongKeys.IsRectangular ∧ wrongKeys.headers.Nodup ∧
      ∃ r, wrongKeys.addDateKey (.text "SaleDate") (.text "SaleDateKey") = .ok r ∧
        IsKeyed "SaleDate" "SaleDateKey" wrongKeys r ∧
          ∃ c, ((Probe.make (.text "SaleDateKey") [] 2).detect
            (fun _ s => (.records r.records, s)) (.text "sales") ()).1 = .ok c ∧
              c.hasDateKey = true := by
  have ht : wrongKeys.IsRectangular := by simp [IsRectangular, wrongKeys]
  have hdistinct : wrongKeys.headers.Nodup := by decide
  have hplace : wrongKeys.headers[0]? = some "SaleDate" := by decide
  obtain ⟨-, hkeys⟩ := addDateKey_detected ht hdistinct "SaleDate" "SaleDateKey"
  obtain ⟨r, hr, hkeyed, hprobe⟩ := hkeys 0 hplace
  obtain ⟨c, hc, hfound⟩ := hprobe Unit (fun _ s => (.records r.records, s)) (.text "sales") () 2 rfl
  refine ⟨ht, hdistinct, r, hr, hkeyed, c, hc, hfound.2 ⟨.text "1/2/2026", ?_, ?_⟩⟩
  · decide
  · exact ⟨"1/2/2026", 20260102, rfl, by decide⟩

end Table

end MapFilter
