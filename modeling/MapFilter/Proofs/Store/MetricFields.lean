import MapFilter.Proofs.Store.Refusal
import MapFilter.Proofs.Table.Columnwise

/-!
# Fields of metrics in the store

One setting says which fields a metric is made of, and two parts read it. For the metrics, a field name
and a list of field names are both good. The store takes each value for the name of a column: a list
that names a field is none, and no table can be put in. Only where every metric has one name, or none
at all, are the columns of the metrics read as numbers.

- `Value.NamesFields`: what the setting may hold for a metric
- `Record.NamesDates`: settings whose other columns of numbers are named by texts
- `Store.setTable_metricFields_iff`: the settings of metrics with which tables can be put in
-/

namespace MapFilter

/-! ## §1 Settings -/

/-- What settings hold for a metric: a field name, or a list of field names. -/
inductive Value.NamesFields : Value → Prop where
  | one (name : String) : NamesFields (.text name)
  | several (names : List String) : NamesFields (.list (names.map .text))

/-- The columns of dates are named by texts in the settings, where they are named. -/
structure Record.NamesDates (config : Record) : Prop where
  dateText : ∀ v, config.get? "DATE_TEXT_FIELD" = some v → v = .null ∨ ∃ name, v = .text name
  dateKey : ∀ v, config.get? "DATE_KEY_FIELD" = some v → v = .null ∨ ∃ name, v = .text name
  alternates : ∀ v, config.get? "DATE_KEY_ALT_FIELDS" = some v →
    ∃ names : List String, v = .list (names.map .text)

/-- The column belongs to a metric or holds a date key, by the settings or by the metrics made of them. -/
def Metrics.CountsColumn (config : Record) (metrics : Metrics) (name : String) : Prop :=
  (∃ entry ∈ metrics.fields, .text name ∈ entry.2) ∨ config.get? "DATE_KEY_FIELD" = some (.text name) ∨
    ∃ names, config.get? "DATE_KEY_ALT_FIELDS" = some (.list names) ∧ .text name ∈ names

/-- A cell that can be compared, and that has a number if it is an integer. -/
def Value.IsSound (v : Value) : Prop :=
  v.isKey = true ∧ ∀ i, v = .int i → (Number.ofInt i).isFinite = true

/-! ## §2 Names of columns -/

namespace Preparation

/-- A setting that is a name, or is not set. -/
def IsName (v : Value) : Prop :=
  v = .null ∨ ∃ name, v = .text name

/-- A name fits a table without two columns of one name. -/
theorem IsName.fits {columns : List String} {v : Value} (h : IsName v) (hdistinct : columns.Nodup) :
    Fits columns v := by
  obtain rfl | ⟨name, rfl⟩ := h
  · exact fun _ => rfl
  · exact fun _ => List.nodup_iff_count_le_one.1 hdistinct name

/-- What settings hold for a metric fits such a table unless it lists a field. -/
theorem fits_of_namesFields {columns : List String} {v : Value} (h : v.NamesFields)
    (hdistinct : columns.Nodup) (hlist : ∀ first rest, v ≠ .list (first :: rest)) : Fits columns v := by
  cases h with
  | one name => exact IsName.fits (.inr ⟨name, rfl⟩) hdistinct
  | several names =>
    cases names with
    | nil => exact fun htruthy => (by cases htruthy)
    | cons first rest => exact absurd rfl (hlist _ _)

/-- The columns of numbers: those of the metrics, then those of the date keys. -/
theorem numberColumns_ofSettings {config entries : Record}
    (hfields : config.get? "METRIC_FIELDS" = some (.object entries)) (hdates : config.NamesDates) :
    ∃ dates : List Value,
      (StoreSettings.ofSettings config).preparation.numberColumns =
        .ok (entries.map Prod.snd ++ dates) ∧
      (∀ v ∈ dates, IsName v) ∧
      ∀ name, config.get? "DATE_KEY_FIELD" = some (.text name) ∨
        (∃ names, config.get? "DATE_KEY_ALT_FIELDS" = some (.list names) ∧ .text name ∈ names) →
        .text name ∈ dates := by
  have hkey : IsName ((config.get? "DATE_KEY_FIELD").getD .null) := by
    cases hset : config.get? "DATE_KEY_FIELD" with
    | none => exact .inl rfl
    | some v => exact hdates.dateKey v hset
  obtain ⟨names, hnames⟩ : ∃ names : List String,
      (config.get? "DATE_KEY_ALT_FIELDS").getD (.list []) = .list (names.map .text) := by
    cases hset : config.get? "DATE_KEY_ALT_FIELDS" with
    | none => exact ⟨[], rfl⟩
    | some v => exact hdates.alternates v hset
  refine ⟨(config.get? "DATE_KEY_FIELD").getD .null :: names.map .text, ?_, ?_, ?_⟩
  · simp only [numberColumns, StoreSettings.ofSettings, hfields, hnames, Option.getD_some, valuesOf?,
      Value.items?, List.append_assoc, List.singleton_append]
  · rintro v (_ | ⟨_, hv⟩)
    · exact hkey
    · obtain ⟨name, -, rfl⟩ := List.mem_map.1 hv
      exact .inr ⟨name, rfl⟩
  · rintro name (hset | ⟨listed, hset, hmem⟩)
    · rw [hset]
      exact List.mem_cons_self
    · rw [hset, Option.getD_some, Value.list.injEq] at hnames
      exact List.mem_cons_of_mem _ (hnames ▸ hmem)

/-- A column of sound cells can be prepared, whatever it is to hold. -/
theorem exists_columnPass {t : Table} (hcells : ∀ row ∈ t.rows, ∀ v ∈ row, v.IsSound) (dateText : Value)
    (names : List Value) (name : String) (i : Nat) :
    ∃ cells, columnPass dateText names name (t.dropDuplicates.columnAt i) = .ok cells := by
  have hcolumn : ∀ v ∈ trimPass dateText name (t.dropDuplicates.columnAt i), ∀ n, v = .int n →
      (Number.ofInt n).isFinite = true := by
    unfold trimPass
    split
    · -- Trimmed cells are texts or missing.
      rintro v hv n rfl
      obtain ⟨cell, -, hcell⟩ := List.mem_map.1 hv
      cases cell <;> cases hcell
    · rintro v hv n rfl
      obtain ⟨row, hrow, hcell⟩ := List.mem_map.1 hv
      have hrow := mem_of_mem_keepNew hrow
      rw [List.getD_eq_getElem?_getD] at hcell
      cases hget : row[i]? with
      | none =>
        rw [hget] at hcell
        cases hcell
      | some w =>
        rw [hget, Option.getD_some] at hcell
        exact (hcells row hrow w (List.mem_of_getElem? hget)).2 n hcell
  unfold columnPass readPass
  split
  · obtain ⟨numbers, hnumbers⟩ := Column.exists_toNumbers (dateText == .text name) hcolumn
    rw [readCells, hnumbers]
    exact ⟨_, rfl⟩
  · exact ⟨_, rfl⟩

end Preparation

/-- The chain of a metric is made of what the settings hold for it. -/
theorem Metrics.exists_entry {labels : Value} {entries : Record} {metrics : Metrics}
    (h : Metrics.ofSettings labels (.object entries) = .ok metrics) :
    ∀ made ∈ metrics.fields, ∃ entry ∈ entries, fieldChain? entry.2 = some made.2 := by
  unfold Metrics.ofSettings at h
  cases hlabels : labels.entries with
  | error e =>
    rw [hlabels] at h
    cases h
  | ok keyed =>
    simp only [hlabels] at h
    cases hfields : entries.mapM fieldsOf with
    | error e =>
      simp only [hfields] at h
      cases h
    | ok fields =>
      simp only [hfields] at h
      cases h
      have hmade := (List.forall₂_and_left _ _).2 ⟨fun entry hentry => hentry, forall₂_of_mapM_ok hfields⟩
      refine forall_mem_of_forall₂ hmade fun entry made ⟨hentry, hfield⟩ => ⟨entry, hentry, ?_⟩
      unfold fieldsOf at hfield
      split at hfield
      · next hchain =>
        cases hfield
        exact hchain
      · cases hfield

/-! ## §3 Putting in tables -/

namespace Preparation

/-- A table of sound cells is prepared, unless the settings list fields for a metric. The first list is
what the error shows. -/
theorem apply_metricFields {config entries : Record} {t : Table}
    (hfields : config.get? "METRIC_FIELDS" = some (.object entries))
    (hnames : ∀ entry ∈ entries, entry.2.NamesFields) (hdates : config.NamesDates)
    (ht : t.IsRectangular) (hdistinct : t.columns.Nodup)
    (hcells : ∀ row ∈ t.rows, ∀ v ∈ row, v.IsSound) :
    ((∀ entry ∈ entries, ∀ first rest, entry.2 ≠ .list (first :: rest)) ∧
      ∃ prepared, (StoreSettings.ofSettings config).preparation.apply t = .ok prepared) ∨
    ∃ entry ∈ entries, ∃ first rest, entry.2 = .list (first :: rest) ∧
      (StoreSettings.ofSettings config).preparation.apply t = .error (.notComparable entry.2) := by
  obtain ⟨dates, hcolumns, hdated, -⟩ := numberColumns_ofSettings hfields hdates
  have hdate : Fits t.columns (StoreSettings.ofSettings config).preparation.dateText := by
    refine IsName.fits ?_ hdistinct
    change IsName ((config.get? "DATE_TEXT_FIELD").getD .null)
    cases hset : config.get? "DATE_TEXT_FIELD" with
    | none => exact .inl rfl
    | some v => exact hdates.dateText v hset
  have hkeys : HasKeys t := fun row hrow v hv => (hcells row hrow v hv).1
  cases hfind : entries.find? fun entry => entry.2.isTruthy && !entry.2.isKey with
  | none =>
    have hlists : ∀ entry ∈ entries, ∀ first rest, entry.2 ≠ .list (first :: rest) := by
      intro entry hentry first rest hlist
      have hgood := List.find?_eq_none.1 hfind entry hentry
      rw [hlist] at hgood
      exact hgood rfl
    refine .inl ⟨hlists, exists_apply ht hkeys hcolumns ?_ fun i name _ =>
      exists_columnPass hcells _ _ name i⟩
    refine List.forall_mem_cons.2 ⟨hdate, fun v hv => ?_⟩
    obtain hv | hv := List.mem_append.1 hv
    · obtain ⟨entry, hentry, rfl⟩ := List.mem_map.1 hv
      exact fits_of_namesFields (hnames entry hentry) hdistinct (hlists entry hentry)
    · exact (hdated v hv).fits hdistinct
  | some entry =>
    -- What stands in front of the first list fits.
    obtain ⟨hbad, before, after, rfl, hbefore⟩ := List.find?_eq_some_iff_append.1 hfind
    obtain ⟨htruthy, hkey⟩ := Bool.and_eq_true_iff.1 hbad
    have hentry : entry ∈ before ++ entry :: after := List.mem_append_right _ List.mem_cons_self
    obtain ⟨first, rest, hlist⟩ : ∃ first rest, entry.2 = .list (first :: rest) := by
      have hnamed := hnames entry hentry
      generalize entry.2 = v at hnamed htruthy hkey
      cases hnamed with
      | one name => cases hkey
      | several names =>
        cases names with
        | nil => cases htruthy
        | cons first rest => exact ⟨_, _, rfl⟩
    rw [List.map_append, List.map_cons, List.append_assoc, List.cons_append] at hcolumns
    refine .inr ⟨entry, hentry, first, rest, hlist, apply_notComparable ht hkeys hcolumns ?_
      (fun i name _ => exists_columnPass hcells _ _ name i) htruthy (by simpa using hkey)⟩
    refine List.forall_mem_cons.2 ⟨hdate, fun v hv => ?_⟩
    obtain ⟨other, hother, rfl⟩ := List.mem_map.1 hv
    refine fits_of_namesFields (hnames other (List.mem_append_left _ hother)) hdistinct ?_
    intro first rest hlist
    have hgood := hbefore other hother
    rw [hlist] at hgood
    cases hgood

end Preparation

namespace Store

variable {s : Store}

/-- A table of sound cells with distinct columns is taken by a database that does its work if and only
if the settings list no field for any metric. Then the columns of metrics and date keys hold numbers
or nothing. Otherwise the first list is found to be no name of a column, and the store stays as it is. -/
theorem setTable_metricFields_iff {config entries : Record} {labels : Value} {metrics : Metrics}
    {t : Table} {opened : Store} (hfields : config.get? "METRIC_FIELDS" = some (.object entries))
    (hmetrics : Metrics.ofSettings labels (.object entries) = .ok metrics)
    (hnames : ∀ entry ∈ entries, entry.2.NamesFields) (hdates : config.NamesDates)
    (ht : t.IsRectangular) (hcolumns : t.columns ≠ []) (hdistinct : t.columns.Nodup)
    (hcells : ∀ row ∈ t.rows, ∀ v ∈ row, v.IsSound)
    (hconnect : s.connect (.ofSettings config) = .ok opened)
    (hview : s.contents (.ofSettings config) ≠ .brokenView) :
    ((s.setTable (.ofSettings config) t).1 = .ok () ↔
      ∀ entry ∈ entries, ∀ first rest, entry.2 ≠ .list (first :: rest)) ∧
    (∀ s', s.setTable (.ofSettings config) t = (.ok (), s') →
      ∃ shown, s'.load (.ofSettings config) = (.ok shown, s') ∧ shown.columns = t.columns ∧
        ∀ name, name ≠ "" → metrics.CountsColumn config name →
          ∀ i, shown.columns[i]? = some name → Column.IsNumeric (shown.columnAt i)) ∧
    ∀ e s', s.setTable (.ofSettings config) t = (.error e, s') →
      s' = s ∧ ∃ entry ∈ entries, ∃ first rest, entry.2 = .list (first :: rest) ∧
        e = .preparation (.notComparable entry.2) := by
  obtain ⟨hlists, prepared, happly⟩ | ⟨entry, hentry, first, rest, hlist, happly⟩ :=
    Preparation.apply_metricFields hfields hnames hdates ht hdistinct hcells
  · have hprepared := Preparation.apply_ok happly
    obtain ⟨s', hset, htable, -⟩ :=
      setTable_of_connect happly (hprepared.columns ▸ hcolumns) hconnect hview
    rw [hset]
    refine ⟨⟨fun _ => hlists, fun _ => rfl⟩, ?_, fun e s' h => (by cases h)⟩
    rintro _ ⟨⟩
    refine ⟨prepared, load_of_table htable, hprepared.columns, fun name hname hcounts i hi => ?_⟩
    obtain ⟨dates, hnumbers, -, hdated⟩ := Preparation.numberColumns_ofSettings hfields hdates
    obtain ⟨names, hown, hread⟩ := hprepared.numbers ht
    rw [hnumbers] at hown
    cases hown
    refine hread name hname (List.mem_append.2 ?_) i (hprepared.columns ▸ hi)
    obtain ⟨made, hmade, hmem⟩ | hkey := hcounts
    · -- Without lists the chain of a metric is one name, or empty.
      left
      obtain ⟨entry, hentry, hchain⟩ := Metrics.exists_entry hmetrics made hmade
      have hnamed := hnames entry hentry
      have hone := hlists entry hentry
      have hvalue := List.mem_map_of_mem (f := Prod.snd) hentry
      generalize entry.2 = v at hchain hnamed hone hvalue
      cases hnamed with
      | one own =>
        rw [← Option.some.inj hchain, List.mem_singleton] at hmem
        rwa [hmem]
      | several listed =>
        cases listed with
        | nil =>
          rw [← Option.some.inj hchain] at hmem
          cases hmem
        | cons first rest => exact absurd rfl (hone _ _)
    · exact .inr (hdated name hkey)
  · have hset : s.setTable (.ofSettings config) t =
        (.error (.preparation (.notComparable entry.2)), s) := by
      rw [setTable, happly]
    rw [hset]
    refine ⟨⟨fun h => (by cases h), fun hlists => absurd hlist (hlists entry hentry _ _)⟩,
      fun s' h => (by cases h), ?_⟩
    rintro _ _ ⟨⟩
    exact ⟨rfl, entry, hentry, first, rest, hlist, rfl⟩

/-- Settings of two metrics, with what they hold for the second one. The database is not kept. -/
def ticketSettings (tickets : Value) : Record :=
  [("DUCKDB_PATH", .text ""), ("DATE_KEY_FIELD", .text "Day"),
    ("METRIC_FIELDS", .object [("sales", .text "Sales"), ("tickets", tickets)])]

/-- Sales and tickets, written as texts. -/
def ticketSales : Table :=
  { columns := ["Sales", "Tickets"], rows := [[.text "5", .text "2"]] }

theorem setTable_metricFields_iff_tickets :
    ∃ (s' : Store) (shown : Table),
      setTable (.ofSettings (ticketSettings (.text "Tickets"))) ticketSales {} = (.ok (), s') ∧
      s'.load (.ofSettings (ticketSettings (.text "Tickets"))) = (.ok shown, s') ∧
      Column.IsNumeric (shown.columnAt 0) ∧ Column.IsNumeric (shown.columnAt 1) := by
  have hmetrics : Metrics.ofSettings (.object [])
      (.object [("sales", .text "Sales"), ("tickets", .text "Tickets")]) =
        .ok ⟨[], [("sales", [.text "Sales"]), ("tickets", [.text "Tickets"])]⟩ := rfl
  have hnames : ∀ entry ∈ [("sales", Value.text "Sales"), ("tickets", .text "Tickets")],
      entry.2.NamesFields := by
    simp [Value.NamesFields.one]
  have hdates : Record.NamesDates (ticketSettings (.text "Tickets")) := by
    refine ⟨?_, ?_, ?_⟩
    · rintro v ⟨⟩
    · rintro v ⟨⟩
      exact .inr ⟨_, rfl⟩
    · rintro v ⟨⟩
  have hcells : ∀ row ∈ ticketSales.rows, ∀ v ∈ row, v.IsSound := by
    simp [ticketSales, Value.IsSound, Value.isKey]
  obtain ⟨-, hshown, -⟩ := setTable_metricFields_iff
    (s := {}) (t := ticketSales) rfl hmetrics hnames hdates
    (by simp [Table.IsRectangular, ticketSales]) (by decide) (by decide) hcells rfl (by decide)
  obtain ⟨shown, hload, hcolumns, hnumbers⟩ := hshown _ rfl
  refine ⟨_, shown, rfl, hload, hnumbers "Sales" (by decide) (.inl ?_) 0 ?_,
    hnumbers "Tickets" (by decide) (.inl ?_) 1 ?_⟩
  · exact ⟨_, List.mem_cons_self, List.mem_cons_self⟩
  · rw [hcolumns]
    rfl
  · exact ⟨_, List.mem_cons_of_mem _ List.mem_cons_self, List.mem_cons_self⟩
  · rw [hcolumns]
    rfl

/-- A list of fields is good for the metrics, and keeps the store from taking any table. -/
theorem setTable_fails_listed :
    ∃ metrics, Metrics.ofSettings (.object [])
        (.object [("sales", .text "Sales"), ("tickets", .list [.text "TicketCount", .text "Tickets"])]) =
          .ok metrics ∧
      setTable (.ofSettings (ticketSettings (.list [.text "TicketCount", .text "Tickets"]))) ticketSales {} =
        (.error (.preparation (.notComparable (.list [.text "TicketCount", .text "Tickets"]))), {}) :=
  ⟨_, rfl, rfl⟩

end Store

end MapFilter
