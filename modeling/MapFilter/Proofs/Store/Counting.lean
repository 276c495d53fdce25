import MapFilter.Proofs.Compilation.Diagnostics
import MapFilter.Proofs.Sql.Answers
import MapFilter.Proofs.Store.Exports
import MapFilter.Proofs.Store.Upkeep

/-!
# Counting what a filter holds of

The store counts the features of a filter, and selects them, by a query of the database, where a filter
decides by the record of a feature. For features that come from the exported files the two agree: the
store reads the columns of date keys and metrics as numbers, and what else a compiled filter compares
are texts. Only where a selected text is also that of a number or a truth value in its column does the
query take the one for the other.

- `FieldMapping.IsServedBy`: filters are about the columns that the store prepares
- `Table.tells_compile`: the clauses of a compiled filter are told alike
- `Store.IsFromExports`: stores whose features come from the exported files
- `Store.IsBuilt.answers`: what queries of such a store answer
- `Store.counts_what_holds`: sums and selections go by the rows that the filter holds of
- `Store.counts_number_as_text`: a number that is taken for a text
-/

namespace MapFilter

/-! ## §1 Date keys -/

/-- Keys of written dates have eight digits at most. -/
theorem isSmall_encodeValue (v : Value) : Sql.IsSmall (DateKey.encodeValue v) := by
  intro k hk
  cases v with
  | text s =>
    obtain ⟨d, -, hkey⟩ := Option.bind_eq_some_iff.1 hk
    split at hkey
    · next hvalid =>
      cases hkey
      rw [DateParts.isValid_iff] at hvalid
      rw [DateParts.key]
      omega
    · cases hkey
  | _ => cases hk

theorem isSmall_ordered (bounds : DateBounds) :
    Sql.IsSmall (ordered bounds.keys).1 ∧ Sql.IsSmall (ordered bounds.keys).2 := by
  have hstart := isSmall_encodeValue bounds.start
  have hstop := isSmall_encodeValue bounds.stop
  rw [DateBounds.keys]
  generalize DateKey.encodeValue bounds.start = start at hstart
  generalize DateKey.encodeValue bounds.stop = stop at hstop
  cases start with
  | none => exact ⟨hstart, hstop⟩
  | some a =>
    cases stop with
    | none => exact ⟨hstart, hstop⟩
    | some b =>
      rw [ordered]
      split
      · exact ⟨hstop, hstart⟩
      · exact ⟨hstart, hstop⟩

/-! ## §2 Compiled filters -/

/-- Filters are about the columns that the store prepares: their fields are texts, and the date keys
are those that the store reads as numbers. -/
structure FieldMapping.IsServedBy (fields : FieldMapping) (p : Preparation) : Prop where
  branch : fields.branch.isText = true
  group : fields.group.isText = true
  dateText : fields.dateText.isText = true
  dateKeys : ∀ name ∈ fields.dateKey :: fields.alternates, name.isText = true
  dateKey : p.dateKey = fields.dateKey
  alternates : p.alternates = some fields.alternates

namespace Table

variable {t : Table} {fields : FieldMapping}

/-- A selected text is told apart from the other cells of the column that it is looked for in. -/
def IsSelectable (t : Table) (field : FieldName) (s : Selector) : Prop :=
  ∀ name i text, field = .text name → t.columns[i]? = some name → s.text? = some text →
    Sql.IsToldApart text (t.columnAt i)

/-- The columns of date keys were read as numbers. -/
def HasNumericKeys (t : Table) (fields : FieldMapping) : Prop :=
  ∀ name i, .text name ∈ fields.dateKey :: fields.alternates → t.columns[i]? = some name →
    Column.IsNumeric (t.columnAt i)

theorem tells_selectorClause {field : FieldName} {s : Selector} (hfield : field.isText = true)
    (hs : t.IsSelectable field s) : ∀ p ∈ selectorClause field s, Sql.Tells t p := by
  obtain ⟨name, rfl⟩ := Value.exists_of_isText hfield
  intro p hp
  rw [selectorClause] at hp
  cases htext : s.text? with
  | none =>
    rw [htext] at hp
    cases hp
  | some text =>
    rw [htext] at hp
    cases List.mem_singleton.1 hp
    exact .equals fun i hi => hs name i text rfl hi htext

theorem tells_keyClause (hkeys : ∀ name ∈ fields.dateKey :: fields.alternates, name.isText = true)
    (hnumeric : t.HasNumericKeys fields) {start stop : Option Int} (hstart : Sql.IsSmall start)
    (hstop : Sql.IsSmall stop) : ∀ p ∈ keyClause fields start stop, Sql.Tells t p := by
  intro p hp
  by_cases hsome : start.isSome = true ∨ stop.isSome = true
  · obtain ⟨others, hchain⟩ := dateKeyChain_eq fields
    have hmem {name : FieldName} (hname : name ∈ fields.dateKey :: others) :
        name ∈ fields.dateKey :: fields.alternates :=
      mem_of_mem_dateKeyChain (hchain ▸ hname)
    obtain ⟨names, hnames⟩ := Predicate.exists_chain_eq fun name hname => hkeys name (hmem hname)
    rw [keyClause_eq hchain hsome] at hp
    cases List.mem_singleton.1 hp
    refine .within hnames (fun name hname i hi => ?_) hstart hstop
    have hfield : Value.text name ∈ Predicate.chain fields.dateKey others :=
      hnames ▸ List.mem_map_of_mem hname
    exact hnumeric name i (hmem (Predicate.mem_of_mem_chain hfield)) hi
  · -- Without bounds there is no clause.
    rw [not_or, Option.not_isSome_iff_eq_none, Option.not_isSome_iff_eq_none] at hsome
    obtain ⟨rfl, rfl⟩ := hsome
    cases hp

theorem tells_textClause (hfield : fields.dateText.isText = true) (limit : DayLimit)
    (start stop : Option Int) : ∀ p ∈ (textClause fields limit start stop).1, Sql.Tells t p := by
  obtain ⟨name, hname⟩ := Value.exists_of_isText hfield
  have hcases := textClause_cases fields limit start stop
  generalize textClause fields limit start stop = outcome at hcases
  intro p hp
  cases hcases with
  | @days d e days =>
    cases List.mem_singleton.1 hp
    rw [hname]
    refine .member fun s hs => ?_
    obtain ⟨day, -, rfl⟩ := List.mem_map.1 hs
    rw [DateParts.toList_text]
    exact List.mem_append_right _ List.mem_cons_self
  | _ => cases hp

theorem tells_dateClause {p : Preparation} (hfields : fields.IsServedBy p)
    (hnumeric : t.HasNumericKeys fields) (limit : DayLimit) (hasDateKey : Bool)
    (dates : Option DateBounds) :
    ∀ p ∈ (dateClause fields limit hasDateKey dates).1, Sql.Tells t p := by
  intro clause hclause
  cases dates with
  | none => cases hclause
  | some bounds =>
    obtain ⟨hstart, hstop⟩ := isSmall_ordered bounds
    unfold dateClause at hclause
    dsimp only at hclause
    split at hclause
    · cases hclause
    · split at hclause
      · exact tells_keyClause hfields.dateKeys hnumeric hstart hstop clause hclause
      · exact tells_textClause hfields.dateText limit _ _ clause hclause

/-- The clauses of a compiled filter are told alike. -/
theorem tells_compile {p : Preparation} (hfields : fields.IsServedBy p)
    (hnumeric : t.HasNumericKeys fields) {state : FilterState}
    (hbranch : t.IsSelectable fields.branch state.branch)
    (hgroup : t.IsSelectable fields.group state.group) (limit : DayLimit)
    (capability : Capability) :
    ∀ p ∈ (compile fields limit state capability).clauses, Sql.Tells t p := by
  intro clause hclause
  rw [compile_eq] at hclause
  obtain hselector | hdate := List.mem_append.1 hclause
  · obtain hfirst | hsecond := List.mem_append.1 hselector
    · exact tells_selectorClause hfields.branch hbranch clause hfirst
    · exact tells_selectorClause hfields.group hgroup clause hsecond
  · exact tells_dateClause hfields hnumeric limit capability.hasDateKey state.dates clause hdate

end Table

/-! ## §3 Features of the exports -/

namespace Store

variable {settings : StoreSettings} {s₀ s : Store} {t : Table} {fields : FieldMapping}

/-- The features of the exported files are in place, prepared, in memory and in the database. -/
structure IsBuilt (settings : StoreSettings) (s : Store) (t : Table) : Prop where
  prepared : ∃ source, Table.IsProper source ∧ settings.preparation.apply source = .ok t
  columns : t.columns ≠ []
  table : s.table = some t
  connection : s.connection = some (.table t.stored)

theorem exists_isBuilt (h : s₀.rebuildExports settings = (.ok true, s)) :
    ∃ t, s.IsBuilt settings t := by
  unfold rebuildExports at h
  cases hread : readExports settings s₀.files with
  | error e =>
    rw [hread] at h
    cases h
  | ok found =>
    cases found with
    | none =>
      rw [hread] at h
      cases h
    | some source =>
      simp only [hread, setTableThen] at h
      have hcases : IsServed (s₀.setTable settings source) →
          ServedSet settings source s₀ (s₀.setTable settings source) := setTable_served
      generalize s₀.setTable settings source = outcome at h hcases
      obtain ⟨result, after⟩ := outcome
      cases result with
      | error e => cases h
      | ok _ =>
        cases h
        cases hcases (isServed_of_ok rfl) with
        | replaced hprepared hcolumns htable hconnection _ =>
          exact ⟨_, ⟨source, isProper_readExports hread, hprepared⟩, hcolumns, htable, hconnection⟩

theorem IsBuilt.isSound (h : s.IsBuilt settings t) (hnames : Sql.AreDistinct t.columns) :
    t.IsSound := by
  obtain ⟨source, hproper, hprepared⟩ := h.prepared
  have hknown := Preparation.apply_ok hprepared
  exact ⟨hknown.rectangular hproper.rectangular, hnames, hknown.columns ▸ hproper.named, hknown.keys⟩

/-- The columns that the store is to read as numbers hold numbers. -/
theorem IsBuilt.isNumeric (h : s.IsBuilt settings t) {metrics alternates : List Value}
    (hmetrics : settings.preparation.metricFields = some metrics)
    (halternates : settings.preparation.alternates = some alternates) (name : String) (i : Nat)
    (hname : .text name ∈ metrics ++ [settings.preparation.dateKey] ++ alternates)
    (hi : t.columns[i]? = some name) : Column.IsNumeric (t.columnAt i) := by
  obtain ⟨source, hproper, hprepared⟩ := h.prepared
  have hknown := Preparation.apply_ok hprepared
  obtain ⟨names, hnames, hread⟩ := hknown.numbers hproper.rectangular
  rw [Preparation.numberColumns, hmetrics, halternates] at hnames
  cases hnames
  have hsource : source.columns[i]? = some name := hknown.columns ▸ hi
  have hne : name ≠ "" := by
    rintro rfl
    exact hproper.named (List.mem_of_getElem? hsource)
  exact hread name hne hname i hsource

/-- The features of the store are those that reading the exported files has put in place, whatever
became of the files since. -/
def IsFromExports (settings : StoreSettings) (s : Store) : Prop :=
  ∃ before built : Store, before.rebuildExports settings = (.ok true, built) ∧
    s.table = built.table ∧ s.connection = built.connection

theorem IsFromExports.exists_isBuilt (h : s.IsFromExports settings) : ∃ t, s.IsBuilt settings t := by
  obtain ⟨before, built, hbuilt, htable, hconnection⟩ := h
  obtain ⟨t, ht⟩ := Store.exists_isBuilt hbuilt
  exact ⟨t, ht.prepared, ht.columns, htable.trans ht.table, hconnection.trans ht.connection⟩

/-- A load that finds nothing in memory or in the database, but exported files, puts their features in
place. -/
theorem isFromExports_load {opened : Store} {source : Table} (hload : s₀.load settings = (.ok t, s))
    (htable : s₀.table = none) (hconnect : s₀.connect settings = .ok opened)
    (hnothing : opened.relation = .nothing)
    (hread : readExports settings opened.files = .ok (some source)) : s.IsFromExports settings := by
  have hrebuild : s₀.load settings = opened.rebuild settings := by
    simp only [load, htable, hconnect, hnothing]
  rw [hrebuild, rebuild_eq] at hload
  have hread' : opened.rebuildExports settings = opened.setTableThen settings source fun _ => true := by
    simp only [rebuildExports, hread]
  unfold setTableThen at hread'
  generalize opened.setTable settings source = outcome at hread'
  obtain ⟨result, after⟩ := outcome
  cases result with
  | error e =>
    rw [hread'] at hload
    cases hload
  | ok _ =>
    rw [hread'] at hload
    cases hload
    exact ⟨opened, _, hread', rfl, rfl⟩

/-- A later store that opens the database finds these features in it, if each column is of one kind. -/
theorem isFromExports_reopen {before built opened : Store} {u : Table}
    (hbuilt : before.rebuildExports settings = (.ok true, built)) (hfound : built.table = some t)
    (hplain : t.IsPlain) (htable : s₀.table = none) (hconnect : s₀.connect settings = .ok opened)
    (hsame : opened.connection = built.connection) (hload : s₀.load settings = (.ok u, s)) :
    u = t ∧ s.IsFromExports settings := by
  obtain ⟨own, hown⟩ := exists_isBuilt hbuilt
  cases hfound.symm.trans hown.table
  have hrelation : opened.relation = .table t.stored :=
    relation_of_connection (hsame.trans hown.connection)
  simp only [load, htable, hconnect, hrelation, Table.fetched_stored hplain] at hload
  cases hload
  exact ⟨rfl, before, built, hbuilt, hfound.symm, hsame⟩

/-! ## §4 Sums and selections -/

/-- A query with a condition that answers for a filter finds the stored rows of those that the filter
holds of. -/
theorem find_of_answers (ht : t.IsSound) (hopen : s.connection = some (.table t.stored))
    {p : Predicate} {c : Sql.Condition} (hc : Sql.Answers t p c) :
    ∃ keep : List Value → Bool,
      (∀ row ∈ t.rows, p.holds (Table.record t.columns row) = .ok (keep row)) ∧
        ∀ names : List String, (∀ name ∈ names, name ∈ t.columns) → s.find c names =
          .ok ⟨t.stored, { t.stored with rows := (t.rows.filter keep).map t.storedRow }, names⟩ := by
  -- The rows that are kept are stored ones, each of which was made of a row of the table.
  have hkeep : ∀ stored ∈ t.stored.rows, (c.resolve t.stored.columns).keeps
      (Table.record t.stored.columns stored) = .ok (c.keepsRow t.columns stored) := by
    intro stored hstored
    rw [Table.rows_stored] at hstored
    obtain ⟨row, hrow, rfl⟩ := List.mem_map.1 hstored
    rw [ht.columns_stored]
    exact (hc.keeps ht hrow).1
  refine ⟨c.keepsRow t.columns ∘ t.storedRow, fun row hrow => (hc.keeps ht hrow).2,
    fun names hnames => ?_⟩
  have hsame : names.map (fun name => (Sql.storedColumn? t.stored.columns name).getD name) =
      names := by
    rw [ht.columns_stored]
    exact Sql.map_eq_self fun name hname => Sql.named_eq ht (hnames name hname)
  rw [find_eq hopen (hc.check ht hnames) hkeep, hsame, Table.rows_stored, List.filter_map]

/-- What a selection finds is the table with some of its rows, as the database returns them. -/
theorem fetchedFrom_storedRows (h : t.IsPlain) (keep : List Value → Bool) :
    ({ t with rows := (t.rows.filter keep).map t.storedRow } : Table).fetchedFrom t.stored =
      { t with rows := t.rows.filter keep } := by
  have hrows : (t.rows.filter keep).map t.storedRow = t.rows.filter keep :=
    Sql.map_eq_self fun row hrow => h.storedRow_eq (List.mem_filter.1 hrow).1
  rw [hrows, Table.stored_eq h]
  exact Table.fetchedFrom_eq h rfl fun row hrow => (List.mem_filter.1 hrow).1

/-- Sums and selections go by the rows that all parts hold of, if each of them is told alike. -/
theorem IsBuilt.answers (h : s.IsBuilt settings t) (ht : t.IsSound) {parts : List Predicate}
    (hparts : ∀ p ∈ parts, Sql.Tells t p) {names : List String}
    (hnumeric : Sql.AreNumeric t names) :
    ∃ (keep : List Value → Bool) (weigh : List Value → Number),
      (∀ row ∈ t.rows, (Predicate.all parts).holds (Table.record t.columns row) = .ok (keep row) ∧
        quantity (Table.record t.columns row) (names.map .text) = .ok (weigh row)) ∧
      s.summarize settings parts (names.map .text) =
        (.ok ⟨(t.rows.filter keep).length, Number.sum ((t.rows.filter keep).map weigh)⟩, s) ∧
      s.select settings parts =
        (.ok (Table.fetchedFrom { t with rows := (t.rows.filter keep).map t.storedRow } t.stored),
          s) := by
  obtain ⟨c, hc, hanswers⟩ := Sql.exists_query ht hparts
  have hcondition : condition t.columns parts = .ok c := by rw [condition, hc]
  obtain ⟨keep, hkeep, hfind⟩ := find_of_answers ht h.connection hanswers
  have hpresent : ∀ name ∈ names.filter (· ∈ t.columns), name ∈ t.columns := fun name hname => by
    simpa using (List.mem_filter.1 hname).2
  refine ⟨keep, fun row => Sql.rowQuantity (Table.record t.columns (t.storedRow row))
    (names.filter (· ∈ t.columns)), fun row hrow => ⟨hkeep row hrow, ?_⟩, ?_, ?_⟩
  · rw [Sql.record_eq_present]
    exact Sql.quantity_columns (ht.isStoredRow hrow) hnumeric
  · rw [summarize_eq h.table h.columns h.connection hcondition
      (quantityColumns_texts t.columns names), hfind _ hpresent]
    simp only [Except.map, Sql.sumQuantity, Table.records, List.length_map, List.map_map,
      ht.columns_stored]
    rfl
  · rw [select_eq h.table h.columns h.connection hcondition, hfind [] (by simp)]
    simp only [Except.map, ht.columns_stored]

/-- The features in memory after a load are those it has found. -/
theorem table_eq_of_load {found : Table} (hload : s₀.load settings = (.ok t, s))
    (hfound : s.table = some found) : found = t := by
  cases htable : s₀.table with
  | some own =>
    rw [load_of_table htable] at hload
    cases hload
    exact Option.some.inj (hfound.symm.trans htable)
  | none =>
    have hcases := load_cases settings htable
    rw [hload] at hcases
    cases hcases with
    | found hmemory => exact Option.some.inj (hfound.symm.trans hmemory)
    | empty hmemory =>
      rw [hmemory] at hfound
      cases hfound

/-- Questions load the features first, and then go to the store with features. -/
theorem columns_of_load (hload : s₀.load settings = (.ok t, s)) (htable : s.table = some t) :
    s₀.columns settings = s.columns settings := by
  rw [columns_of_table htable, columns, hload]
  rfl

/-- For features that come from the exported files, whatever is selected and whatever is known of them,
a sum counts the rows that the compiled filter holds of and adds up the quantities of their records,
and a selection finds these rows, as the database gives back what it stores. Where each column is of
one kind, they come back as they are. -/
theorem counts_what_holds {state : FilterState} {names : List String}
    (hget : s₀.load settings = (.ok t, s)) (hexports : s.IsFromExports settings)
    (hfields : fields.IsServedBy settings.preparation)
    (hmetrics : ∃ metrics, settings.preparation.metricFields = some metrics ∧
      ∀ name ∈ names, .text name ∈ metrics)
    (hnames : Sql.AreDistinct t.columns) (hbranch : t.IsSelectable fields.branch state.branch)
    (hgroup : t.IsSelectable fields.group state.group) (limit : DayLimit)
    (capability : Capability) :
    ∃ (keep : List Value → Bool) (weigh : List Value → Number),
      (∀ row ∈ t.rows,
        (compile fields limit state capability).predicate.holds (Table.record t.columns row) =
            .ok (keep row) ∧
          quantity (Table.record t.columns row) (names.map .text) = .ok (weigh row)) ∧
      s₀.summarize settings (compile fields limit state capability).clauses (names.map .text) =
        (.ok ⟨(t.rows.filter keep).length, Number.sum ((t.rows.filter keep).map weigh)⟩, s) ∧
      s₀.select settings (compile fields limit state capability).clauses =
        (.ok (Table.fetchedFrom { t with rows := (t.rows.filter keep).map t.storedRow } t.stored),
          s) ∧
      ((∀ i < t.columns.length, Sql.IsOfOneKind (t.columnAt i)) →
        s₀.select settings (compile fields limit state capability).clauses =
          (.ok { t with rows := t.rows.filter keep }, s)) := by
  obtain ⟨found, hbuilt⟩ := hexports.exists_isBuilt
  cases table_eq_of_load hget hbuilt.table
  -- Both questions load the features, and go on like those of a store that has them.
  have hcolumns := columns_of_load hget hbuilt.table
  have hsum (parts : List Predicate) (fields : List FieldName) :
      s₀.summarize settings parts fields = s.summarize settings parts fields := by
    rw [summarize, hcolumns, summarize]
  have hselect (parts : List Predicate) : s₀.select settings parts = s.select settings parts := by
    rw [select, hcolumns, select]
  obtain ⟨metrics, hmetrics, hmetric⟩ := hmetrics
  have hread := hbuilt.isNumeric hmetrics hfields.alternates
  rw [hfields.dateKey, List.append_assoc] at hread
  have hkeys : t.HasNumericKeys fields := fun name i hname =>
    hread name i (List.mem_append_right metrics hname)
  have hweighed : Sql.AreNumeric t names := fun name hname i =>
    hread name i (List.mem_append_left _ (hmetric name hname))
  have ht := hbuilt.isSound hnames
  obtain ⟨keep, weigh, hrows, hsummary, hselection⟩ := hbuilt.answers ht
    (Table.tells_compile hfields hkeys hbranch hgroup limit capability) hweighed
  rw [hsum, hselect]
  refine ⟨keep, weigh, hrows, hsummary, hselection, fun hkinds => ?_⟩
  rw [hselection, fetchedFrom_storedRows ⟨ht.rectangular, ht.names, ht.named, hkinds⟩]

/-! ## §5 An exported file -/

theorem names_export : Files.names "a.csv" = ["a.csv"] := by
  have hsplit : "a.csv".splitOn "/" = ["a.csv"] := by
    rw [String.splitOn, if_neg (by decide)]
    iterate 5 rw [String.splitOnAux, if_neg (by decide), if_neg (by decide)]
    rw [String.splitOnAux, if_pos (by decide)]
    rfl
  rw [Files.names, hsplit]
  decide

theorem entry_export (text : String) :
    Files.entry? [("a.csv", text)] "a.csv" = some (.file text) := by
  have hroot : "a.csv".startsWith "/" = false := by decide +kernel
  have hempty : "a.csv".isEmpty = false := by decide
  have hpath : Files.isDirectoryPath "a.csv" = false := by decide +kernel
  simp [Files.entry?, hroot, hempty, hpath, names_export, Files.follow, Files.isDirectory,
    Files.entryAt?]

theorem glob_export (text : String) : Files.glob [("a.csv", text)] "a.csv" = ["a.csv"] := by
  have hpattern : Files.isPattern "a.csv" = false := by simp [Files.isPattern, String.any]
  simp [Files.glob, Files.matchPaths, hpattern, entry_export]

/-- A store of one exported file that does not keep its database. -/
def exportSettings : StoreSettings where
  database := ""
  glob := .text "a.csv"
  preparation :=
    { dateText := .text "SaleDate", metricFields := some [.text "TotalSales"]
      dateKey := .text "SaleDateKey", alternates := some [] }
  textColumn := .text "SaleDate"
  url := .null
  key := .null
  source := none

/-- Filters about the columns of that store. -/
def exportFields : FieldMapping := { alternates := [] }

theorem toOption_eq_some {ε α : Type} {x : Except ε α} {a : α} (h : x.toOption = some a) :
    x = .ok a := by
  cases x with
  | error e => cases h
  | ok b => exact congrArg Except.ok (Option.some.inj h)

/-- Where a computation is known to succeed, what it comes to can be computed. -/
theorem eq_getD_of_ok {α ε β : Type} {f : α → Except ε β} {g : α → β} {l : List α}
    (h : ∀ a ∈ l, f a = .ok (g a)) (other : β) : ∀ a ∈ l, g a = (f a).toOption.getD other := by
  intro a ha
  rw [h a ha]
  rfl

/-- A store that has not looked at the exported file. -/
def freshStore (text : String) : Store where
  files := [("a.csv", text)]

/-- A store with the features of the exported file. -/
def loadedStore (text : String) (t : Table) : Store where
  table := some t
  connection := some (.table t.stored)
  files := [("a.csv", text)]

theorem readExports_export {text : String} {t : Table}
    (h : (Csv.read (fun name => exportSettings.textColumn == .text name) text).toOption = some t) :
    readExports exportSettings [("a.csv", text)] = .ok (some (Table.stack [t])) := by
  have hfile : readExport exportSettings [("a.csv", text)] "a.csv" = .ok t := by
    rw [readExport, entry_export]
    simp only [toOption_eq_some h]
  have hpattern : exportSettings.glob = .text "a.csv" := rfl
  have hkey : exportSettings.textColumn.isKey = true := rfl
  simp only [readExports, hpattern, glob_export, hkey, if_true, List.mapM_cons, List.mapM_nil,
    hfile]
  rfl

/-- The store reads the file, prepares its table, and puts that in place. -/
theorem load_freshStore {text : String} {source t : Table}
    (hread : readExports exportSettings [("a.csv", text)] = .ok (some source))
    (hprepared : (exportSettings.preparation.apply source).toOption = some t)
    (hcolumns : t.columns.isEmpty = false) :
    (freshStore text).load exportSettings = (.ok t, loadedStore text t) := by
  have hopened : (freshStore text).load exportSettings =
      rebuild exportSettings { freshStore text with connection := some .nothing } := rfl
  have hfiles : (freshStore text).files = [("a.csv", text)] := rfl
  rw [hopened, rebuild]
  have hmemory : exportSettings.inMemory = true := rfl
  simp only [hfiles, hread, loadTable, setTable, toOption_eq_some hprepared, connect, persist,
    relation, put, hcolumns, hmemory, Option.getD_some, reduceCtorEq, if_false, Bool.false_eq_true,
    Bool.true_or, if_true]
  rfl

/-- Sales with a date key, the last of them without an amount. -/
def datedText : String :=
  "BranchName,SaleDateKey,TotalSales\nBryan,20260101,5\nAustin,20260102,7\nBryan,20260103,2.5\n"
    ++ "Bryan,20260104,n/a\n"

def datedSales : Table where
  columns := ["BranchName", "SaleDateKey", "TotalSales"]
  rows :=
    [[.text "Bryan", .int 20260101, .float (.finite 5)],
      [.text "Austin", .int 20260102, .float (.finite 7)],
      [.text "Bryan", .int 20260103, .float (.finite (5 / 2))],
      [.text "Bryan", .int 20260104, .null]]

/-- A branch from a day on: the last two sales are counted and added up. -/
theorem counts_what_holds_dated :
    let state : FilterState :=
      { branch := .exact "Bryan", dates := some ⟨.text "2026-01-02", .null⟩ }
    let compiled := compile exportFields defaultDayLimit state { hasDateKey := true }
    let loaded := loadedStore datedText datedSales
    ((freshStore datedText).load exportSettings = (.ok datedSales, loaded) ∧
        loaded.IsFromExports exportSettings ∧
        exportFields.IsServedBy exportSettings.preparation ∧ Sql.AreDistinct datedSales.columns ∧
        datedSales.IsSelectable exportFields.branch state.branch ∧
        datedSales.IsSelectable exportFields.group state.group) ∧
      (freshStore datedText).summarize exportSettings compiled.clauses [.text "TotalSales"] =
        (.ok ⟨2, .finite (5 / 2)⟩, loaded) ∧
      (freshStore datedText).select exportSettings compiled.clauses =
        (.ok { datedSales with rows := datedSales.rows.drop 2 }, loaded) := by
  intro state compiled loaded
  have hread : readExports exportSettings [("a.csv", datedText)] =
      .ok (some (Table.stack [datedSales])) := readExports_export (by decide +kernel)
  have hget : (freshStore datedText).load exportSettings = (.ok datedSales, loaded) :=
    load_freshStore hread (by decide +kernel) rfl
  have hexports : loaded.IsFromExports exportSettings :=
    isFromExports_load hget rfl rfl rfl hread
  have hfields : exportFields.IsServedBy exportSettings.preparation := by
    refine ⟨rfl, rfl, rfl, fun name hname => ?_, rfl, rfl⟩
    rw [List.mem_singleton.1 hname]
    rfl
  have hnames : Sql.AreDistinct datedSales.columns := by
    unfold Sql.AreDistinct
    decide +kernel
  have hbranch : datedSales.IsSelectable exportFields.branch state.branch := by
    intro name i text hname hi _
    cases hname
    obtain rfl : i = 0 := by
      rcases i with _ | _ | _ | i <;> simp [datedSales] at hi ⊢
    exact Sql.isToldApart_of_texts (by decide +kernel) text
  have hgroup : datedSales.IsSelectable exportFields.group state.group := nofun
  have hmetrics : ∃ metrics, exportSettings.preparation.metricFields = some metrics ∧
      ∀ name ∈ ["TotalSales"], .text name ∈ metrics := ⟨_, rfl, by decide⟩
  obtain ⟨keep, weigh, hrows, hsum, -, hselect⟩ := counts_what_holds hget hexports hfields hmetrics
    hnames hbranch hgroup defaultDayLimit { hasDateKey := true }
  have hkeep : datedSales.rows.filter keep = datedSales.rows.drop 2 := by
    rw [List.filter_congr (eq_getD_of_ok (fun row hrow => (hrows row hrow).1) false)]
    decide +kernel
  have hweigh : (datedSales.rows.drop 2).map weigh = [.finite (5 / 2), .finite 0] := by
    rw [List.map_congr_left
      (eq_getD_of_ok (fun row hrow => (hrows row (List.mem_of_mem_drop hrow)).2) .nan)]
    decide +kernel
  have hkinds : ∀ i < datedSales.columns.length, Sql.IsOfOneKind (datedSales.columnAt i) := by
    intro i hi
    rcases i with _ | _ | _ | i
    · exact ⟨.texts, by decide, by decide +kernel⟩
    · exact ⟨.integers, by decide, by decide +kernel⟩
    · exact ⟨.numbers, by decide, by decide +kernel⟩
    · have hlt : i + 3 < 3 := hi
      omega
  have htotal : Number.sum [.finite (5 / 2), .finite 0] = .finite (5 / 2) := by decide +kernel
  rw [hkeep] at hsum hselect
  rw [hweigh, htotal] at hsum
  exact ⟨⟨hget, hexports, hfields, hnames, hbranch, hgroup⟩, hsum, hselect hkinds⟩

/-- Branches that are numbers. -/
def codedText : String :=
  "BranchName,TotalSales\n101,5\n"

def codedSales : Table where
  columns := ["BranchName", "TotalSales"]
  rows := [[.int 101, .int 5]]

/-- The filter for a branch does not hold of a number that is written like it, but the database counts
it. -/
theorem counts_number_as_text :
    let state : FilterState := { branch := .exact "101" }
    let compiled := compile exportFields defaultDayLimit state { sampled := true }
    let loaded := loadedStore codedText codedSales
    (freshStore codedText).load exportSettings = (.ok codedSales, loaded) ∧
      loaded.IsFromExports exportSettings ∧
      (∀ row ∈ codedSales.rows,
        compiled.predicate.holds (Table.record codedSales.columns row) = .ok false) ∧
      loaded.summarize exportSettings compiled.clauses [.text "TotalSales"] =
        (.ok ⟨1, .finite 5⟩, loaded) ∧
      loaded.select exportSettings compiled.clauses = (.ok codedSales, loaded) := by
  have hread : readExports exportSettings [("a.csv", codedText)] =
      .ok (some (Table.stack [codedSales])) := readExports_export (by decide +kernel)
  have hget : (freshStore codedText).load exportSettings =
      (.ok codedSales, loadedStore codedText codedSales) :=
    load_freshStore hread (by decide +kernel) rfl
  refine ⟨hget, isFromExports_load hget rfl rfl rfl hread, fun row hrow => ?_,
    Prod.ext (toOption_eq_some (by decide +kernel)) rfl, rfl⟩
  rw [List.mem_singleton.1 hrow]
  rfl

end Store

end MapFilter
