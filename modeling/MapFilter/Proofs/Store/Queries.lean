import MapFilter.Proofs.Sql.Filter
import MapFilter.Proofs.Store.Loading
import MapFilter.Store.Query

/-!
# Queries of a store with features

A query loads the features first. With features in memory that changes nothing, and with a table in
the open database the query is answered from that table.

- `Store.find_ne_catalog`: a table that is there is not missed
- `Store.find_eq`: the rows that a query finds
- `Store.select_eq`, `Store.summarize_eq`: queries in terms of what is found in the database
-/

namespace MapFilter

namespace Store

variable {settings : StoreSettings} {s : Store} {t stored : Table}

/-! ## §1 The database -/

theorem relation_of_connection {r : Relation} (h : s.connection = some r) : s.relation = r := by
  rw [relation, h, Option.getD_some]

/-- A query of an open database finds what is in it. -/
theorem query_of_connection {r : Relation} (h : s.connection = some r) (c : Sql.Condition)
    (names : List String) : s.query settings c names = (s.find c names, s) := by
  rw [query, connect_of_connection h]

theorem find_ne_catalog (h : s.connection = some (.table stored)) (c : Sql.Condition)
    (names : List String) : s.find c names ≠ .error .catalog := by
  intro hfind
  simp only [find, relation_of_connection h] at hfind
  cases hcheck : c.check names with
  | error e =>
    simp only [hcheck] at hfind
    cases e <;> cases hfind
  | ok _ =>
    simp only [hcheck] at hfind
    split at hfind <;> cases hfind

/-- A query that can be written finds the rows that its condition keeps. -/
theorem find_eq {c : Sql.Condition} {names : List String} {keep : List Value → Bool}
    (h : s.connection = some (.table stored)) (hcheck : c.check names = .ok ())
    (hkeep : ∀ row ∈ stored.rows,
      (c.resolve stored.columns).keeps (Table.record stored.columns row) = .ok (keep row)) :
    s.find c names = .ok ⟨stored, { stored with rows := stored.rows.filter keep },
      names.map fun name => (Sql.storedColumn? stored.columns name).getD name⟩ := by
  have hselect : Sql.selectRows (c.resolve stored.columns) stored =
      .ok { stored with rows := stored.rows.filter keep } := by
    rw [Sql.selectRows, Sql.filterM_ok hkeep]
    rfl
  simp only [find, relation_of_connection h, hcheck, hselect]

/-- A query that cannot be written does not come to miss a table. -/
theorem condition_ne_catalog (columns : List String) (parts : List Predicate) :
    condition columns parts ≠ .error .catalog := by
  intro h
  unfold condition at h
  split at h <;> cases h

theorem quantityColumns_ne_catalog (columns : List String) (fields : List FieldName) :
    quantityColumns columns fields ≠ .error .catalog := by
  intro h
  unfold quantityColumns at h
  split at h <;> cases h

/-! ## §2 Selections -/

theorem columns_of_table (h : s.table = some t) : s.columns settings = (.ok t.columns, s) := by
  rw [columns, load_of_table h]
  rfl

theorem select_eq {c : Sql.Condition} {parts : List Predicate} (htable : s.table = some t)
    (hcolumns : t.columns ≠ []) (hopen : s.connection = some (.table stored))
    (hcondition : condition t.columns parts = .ok c) :
    s.select settings parts =
      ((s.find c []).map fun found => found.kept.fetchedFrom found.whole, s) := by
  unfold select
  rw [columns_of_table htable]
  cases hnames : t.columns with
  | nil => exact absurd hnames hcolumns
  | cons first rest =>
    rw [hnames] at hcondition
    simp only [hcondition, query_of_connection hopen]

theorem summarize_eq {c : Sql.Condition} {parts : List Predicate} {fields : List FieldName}
    {names : List String} (htable : s.table = some t) (hcolumns : t.columns ≠ [])
    (hopen : s.connection = some (.table stored)) (hcondition : condition t.columns parts = .ok c)
    (hnames : quantityColumns t.columns fields = .ok names) :
    s.summarize settings parts fields =
      ((s.find c names).map fun found =>
        ⟨found.kept.rows.length, Sql.sumQuantity found.columns found.kept⟩, s) := by
  unfold summarize
  rw [columns_of_table htable]
  cases hlist : t.columns with
  | nil => exact absurd hlist hcolumns
  | cons first rest =>
    rw [hlist] at hcondition hnames
    simp only [hcondition, hnames, query_of_connection hopen]

/-- The columns of a quantity are those of its names that the table has. -/
theorem quantityColumns_texts (columns names : List String) :
    quantityColumns columns (names.map .text) = .ok (names.filter (· ∈ columns)) := by
  have hlisted : ∀ name, Predicate.isColumn (.listed (columns.map .text)) (.text name) =
      .ok (decide (name ∈ columns)) := by
    intro name
    rw [← Sql.isAmong_map_text]
    rfl
  rw [quantityColumns, Sql.columnChain_of_isColumn hlisted]

end Store

end MapFilter
