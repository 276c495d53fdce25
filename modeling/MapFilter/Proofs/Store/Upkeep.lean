import MapFilter.Proofs.Store.Queries
import MapFilter.Proofs.Table.Stored

/-!
# The features in memory and in the database

The features are kept twice, in memory and in the database, and come in by three ways: from the
database itself, by replacing them, and by rebuilding them from the exports. As long as the database
does its work, the two stay in step, whatever is asked of the store and in whatever order.

- `Store.rebuildExports`: replaces the features by those of the exported files
- `StoreEvent`, `Store.Maintained`: what happens to a store while the database does its work
- `Store.InStep`: features in memory are in the database as well
- `Store.Maintained.agrees`: queries answer for the features in memory
-/

namespace MapFilter

/-! ## §1 Events -/

/-- Whether an error comes from the database. -/
def StoreError.isOfDatabase : StoreError → Bool
  | .database _ | .noColumns | .catalog | .query _ => true
  | .preparation _ | .exports _ | .notATable | .unstorable _ | .uneven | .condition _ => false

/-- What is done to a store, and what happens around it. -/
inductive StoreEvent where
  | load
  | replace (t : Table)
  | rebuild
  | reload
  | select (parts : List Predicate)
  | summarize (parts : List Predicate) (fields : List FieldName)
  /-- The exported files and the remote export change. -/
  | change (files : Files) (remote : Remote)

namespace Store

variable {settings : StoreSettings} {s s' : Store}

/-- Replaces the features by a table, and answers from what the store is then. -/
def setTableThen {α : Type} (settings : StoreSettings) (t : Table) (answer : Store → α)
    (s : Store) : Except StoreError α × Store :=
  match s.setTable settings t with
  | (.ok (), s) => (.ok (answer s), s)
  | (.error e, s) => (.error e, s)

/-- Replaces the features by those of the exported files, and says whether there are any. -/
def rebuildExports (settings : StoreSettings) (s : Store) : Except StoreError Bool × Store :=
  match readExports settings s.files with
  | .error e => (.error (.exports e), s)
  | .ok none => (.ok false, s)
  | .ok (some t) => s.setTableThen settings t fun _ => true

/-- A load that finds no features in memory and none in the database rebuilds them, and goes on to
the remote export if there are no files. -/
theorem rebuild_eq (settings : StoreSettings) (s : Store) :
    s.rebuild settings =
      match s.rebuildExports settings with
      | (.ok true, s) => (.ok (s.table.getD {}), s)
      | (.ok false, s) => s.loadRemote settings
      | (.error e, s) => (.error e, s) := by
  unfold rebuild rebuildExports loadTable setTableThen
  cases readExports settings s.files with
  | error e => rfl
  | ok found =>
    cases found with
    | none => rfl
    | some t =>
      dsimp only
      generalize s.setTable settings t = outcome
      obtain ⟨result, after⟩ := outcome
      cases result <;> rfl

def occur (settings : StoreSettings) (s : Store) : StoreEvent → Store
  | .load => (s.load settings).2
  | .replace t => (s.setTable settings t).2
  | .rebuild => (s.rebuildExports settings).2
  | .reload => (s.reload settings).2
  | .select parts => (s.select settings parts).2
  | .summarize parts fields => (s.summarize settings parts fields).2
  | .change files remote => { s with files := files, remote := remote }

/-- The database does its work in what is done. -/
def IsServed {α : Type} (outcome : Except StoreError α × Store) : Prop :=
  ∀ e, outcome.1 = .error e → e.isOfDatabase = false

/-- The database does its work in an event. Of a query only the load before it matters. -/
def ServesIn (settings : StoreSettings) (s : Store) : StoreEvent → Prop
  | .load | .select _ | .summarize _ _ => IsServed (s.load settings)
  | .replace t => IsServed (s.setTable settings t)
  | .rebuild => IsServed (s.rebuildExports settings)
  | .reload => IsServed (s.reload settings)
  | .change _ _ => True

/-- The stores that events lead to, in any order and number, while the database does its work. At the
start nothing is in memory and no database is open; the database file may hold a table, which has
columns. -/
inductive Maintained (settings : StoreSettings) : Store → Prop where
  | start (s : Store) :
    s.table = none → s.connection = none → (∀ t, s.disk = .table t → t.columns ≠ []) →
    Maintained settings s
  | step {s : Store} (e : StoreEvent) :
    Maintained settings s → s.ServesIn settings e → Maintained settings (s.occur settings e)

/-! ## §2 What stays in step -/

/-- Features in memory are in the open database: the stored table was made of them, or they were read
from it. Tables in a database have columns. -/
structure InStep (s : Store) : Prop where
  kept : ∀ t, s.table = some t →
    ∃ stored, s.connection = some (.table stored) ∧ (stored = t.stored ∨ t = stored.fetched)
  opened : ∀ t, s.connection = some (.table t) → t.columns ≠ []
  disk : ∀ t, s.disk = .table t → t.columns ≠ []

theorem columns_stored_ne_nil {t : Table} (h : t.columns ≠ []) : t.stored.columns ≠ [] := by
  rw [ne_eq, ← List.length_eq_zero_iff] at h ⊢
  rwa [Table.length_columns_stored]

/-- All that replacing the features can come to while the database does its work. -/
inductive ServedSet (settings : StoreSettings) (t : Table) (s : Store) :
    Except StoreError Unit × Store → Prop where
  | replaced {prepared : Table} {s' : Store} :
    settings.preparation.apply t = .ok prepared → prepared.columns ≠ [] →
    s'.table = some prepared → s'.connection = some (.table prepared.stored) →
    (s'.disk = s.disk ∨ s'.disk = .table prepared.stored) →
    ServedSet settings t s (.ok (), s')
  /-- The table cannot be prepared, which is found out before anything is replaced. -/
  | unprepared {e : PreparationError} : ServedSet settings t s (.error (.preparation e), s)

theorem setTable_served {t : Table} (h : IsServed (s.setTable settings t)) :
    ServedSet settings t s (s.setTable settings t) := by
  unfold IsServed at h
  unfold setTable at h ⊢
  cases hprepared : settings.preparation.apply t with
  | error e => exact .unprepared
  | ok prepared =>
    simp only [hprepared] at h ⊢
    cases hconnect : connect settings { s with table := some prepared } with
    | error e =>
      -- The database that cannot be opened is the only reason.
      simp only [hconnect] at h
      have hfault : e.isOfDatabase = true := by
        unfold connect at hconnect
        split at hconnect
        · cases hconnect
        · split at hconnect
          · cases hconnect
            rfl
          · cases hconnect
      rw [h e rfl] at hfault
      cases hfault
    | ok opened =>
      obtain ⟨r, rfl⟩ := connect_ok hconnect
      simp only [hconnect, persist] at h ⊢
      by_cases hbroken : relation { s with table := some prepared, connection := some r } =
          .brokenView
      · simp only [hbroken, if_true] at h
        exact absurd (h .catalog rfl) (by decide)
      · cases hcolumns : prepared.columns with
        | nil =>
          simp only [hbroken, if_false, hcolumns, List.isEmpty_nil, if_true] at h
          exact absurd (h .noColumns rfl) (by decide)
        | cons first rest =>
          simp only [hbroken, if_false, List.isEmpty_cons, Bool.false_eq_true]
          refine .replaced hprepared (by simp [hcolumns]) rfl rfl ?_
          simp only [put]
          cases settings.inMemory || s.detached with
          | true => exact .inl rfl
          | false => exact .inr rfl

namespace InStep

/-- Opening the database brings no other table into it than that of its file. -/
theorem connect (h : s.InStep) (hconnect : s.connect settings = .ok s') : s'.InStep := by
  unfold Store.connect at hconnect
  split at hconnect
  · cases hconnect
    exact h
  · next hclosed =>
    split at hconnect
    · cases hconnect
    · cases hconnect
      refine ⟨fun t ht => ?_, fun t ht => ?_, h.disk⟩
      · obtain ⟨stored, hstored, -⟩ := h.kept t ht
        rw [hclosed] at hstored
        cases hstored
      · dsimp only at ht
        split at ht
        · cases ht
        · exact h.disk t (Option.some.inj ht)

theorem setTable {t : Table} (h : s.InStep) (hserved : IsServed (s.setTable settings t)) :
    (s.setTable settings t).2.InStep := by
  have hcases := setTable_served hserved
  generalize s.setTable settings t = outcome at hcases
  cases hcases with
  | unprepared => exact h
  | @replaced prepared s' hprepared hcolumns htable hconnection hdisk =>
    refine ⟨fun t ht => ?_, fun t ht => ?_, fun t ht => ?_⟩
    · rw [htable] at ht
      cases ht
      exact ⟨_, hconnection, .inl rfl⟩
    · rw [hconnection] at ht
      cases ht
      exact columns_stored_ne_nil hcolumns
    · obtain hdisk | hdisk := hdisk
      · exact h.disk t (hdisk ▸ ht)
      · rw [hdisk] at ht
        cases ht
        exact columns_stored_ne_nil hcolumns

theorem setTableThen {α : Type} {t : Table} {answer : Store → α} (h : s.InStep)
    (hserved : IsServed (s.setTableThen settings t answer)) :
    (s.setTableThen settings t answer).2.InStep := by
  have hset : IsServed (s.setTable settings t) := by
    intro e he
    apply hserved e
    unfold Store.setTableThen
    generalize s.setTable settings t = outcome at he
    obtain ⟨result, after⟩ := outcome
    cases he
    rfl
  have hstep := h.setTable hset
  unfold Store.setTableThen
  generalize s.setTable settings t = outcome at hstep
  obtain ⟨result, after⟩ := outcome
  cases result <;> exact hstep

theorem loadRemote (h : s.InStep) (hserved : IsServed (s.loadRemote settings)) :
    (s.loadRemote settings).2.InStep := by
  have hcounted : InStep { s with requests := s.requests + 1 } := ⟨h.kept, h.opened, h.disk⟩
  unfold Store.loadRemote at hserved ⊢
  split
  · next hurl =>
    simp only [hurl, if_true] at hserved
    dsimp only at hserved ⊢
    generalize { s with requests := s.requests + 1 } = counted at hcounted hserved
    generalize s.remote = remote at hserved
    cases remote with
    | table t => exact hcounted.setTableThen hserved
    | _ => exact hcounted
  · exact h

theorem rebuild (h : s.InStep) (hserved : IsServed (s.rebuild settings)) :
    (s.rebuild settings).2.InStep := by
  unfold Store.rebuild at hserved ⊢
  cases hread : readExports settings s.files with
  | error e => exact h
  | ok found =>
    simp only [hread] at hserved
    cases found with
    | none => exact h.loadRemote hserved
    | some t => exact h.setTableThen hserved

theorem rebuildExports (h : s.InStep) (hserved : IsServed (s.rebuildExports settings)) :
    (s.rebuildExports settings).2.InStep := by
  unfold Store.rebuildExports at hserved ⊢
  cases hread : readExports settings s.files with
  | error e => exact h
  | ok found =>
    cases found with
    | none => exact h
    | some t =>
      simp only [hread] at hserved
      exact h.setTableThen hserved

theorem load (h : s.InStep) (hserved : IsServed (s.load settings)) :
    (s.load settings).2.InStep := by
  cases htable : s.table with
  | some t => rwa [load_of_table htable]
  | none =>
    simp only [Store.load, htable] at hserved ⊢
    cases hconnect : s.connect settings with
    | error e => exact h
    | ok opened =>
      simp only [hconnect] at hserved
      have hopened := h.connect hconnect
      dsimp only
      cases hrelation : opened.relation with
      | table stored =>
        have hconnection : opened.connection = some (.table stored) := by
          unfold relation at hrelation
          cases hopen : opened.connection with
          | none => simp [hopen] at hrelation
          | some r => simpa [hopen] using hrelation
        refine ⟨fun t ht => ?_, hopened.opened, hopened.disk⟩
        cases ht
        exact ⟨stored, hconnection, .inr rfl⟩
      | nothing =>
        simp only [hrelation] at hserved
        exact hopened.rebuild hserved
      | brokenView =>
        simp only [hrelation] at hserved
        exact hopened.rebuild hserved

theorem reload (h : s.InStep) : (s.reload settings).2.InStep := by
  have hforgotten : InStep { s with table := none } := by
    refine ⟨fun t ht => ?_, h.opened, h.disk⟩
    cases ht
  unfold Store.reload
  dsimp only
  split
  · exact ⟨hforgotten.kept, hforgotten.opened, hforgotten.disk⟩
  · exact hforgotten
  · refine ⟨fun t ht => ?_, fun t ht => ?_, fun t ht => ?_⟩
    · cases ht
    · cases ht
    · simp only [put] at ht
      split at ht
      · exact h.disk t ht
      · cases ht

end InStep

/-! ## §3 Queries -/

theorem map_ne_error {ε α β : Type} {x : Except ε α} {e : ε} {f : α → β} (h : x ≠ .error e) :
    x.map f ≠ .error e := by
  cases x with
  | error other => exact fun heq => h (congrArg Except.error (Except.error.inj heq))
  | ok a => exact fun heq => nomatch heq

namespace InStep

/-- Features that a load finds are in the open database. -/
theorem connection_load {t : Table} (h : s.InStep) (hserved : IsServed (s.load settings))
    (hload : (s.load settings).1 = .ok t) (hcolumns : t.columns ≠ []) :
    ∃ stored, (s.load settings).2.connection = some (.table stored) := by
  have hloaded := h.load hserved
  have hmemory : (s.load settings).2.table = some t := by
    cases htable : s.table with
    | some own =>
      rw [load_of_table htable] at hload ⊢
      cases hload
      exact htable
    | none =>
      have hcases := load_cases settings htable
      generalize s.load settings = outcome at hcases hload
      cases hcases with
      | found hfound =>
        cases hload
        exact hfound
      | empty =>
        cases hload
        exact absurd rfl hcolumns
      | failed => cases hload
  obtain ⟨stored, hstored, -⟩ := hloaded.kept t hmemory
  exact ⟨stored, hstored⟩

/-- A selection leaves the store as the load before it does, and misses no table. -/
theorem select_cases (h : s.InStep) (hserved : IsServed (s.load settings))
    (parts : List Predicate) :
    (s.select settings parts).2 = (s.load settings).2 ∧
      (s.select settings parts).1 ≠ .error .catalog := by
  have hconnection := fun t => h.connection_load (t := t) hserved
  unfold IsServed at hserved
  unfold select columns
  generalize s.load settings = outcome at hconnection hserved
  obtain ⟨result, after⟩ := outcome
  cases result with
  | error e =>
    refine ⟨rfl, fun heq => ?_⟩
    cases heq
    exact absurd (hserved _ rfl) (by decide)
  | ok t =>
    cases hcolumns : t.columns with
    | nil => simp [Except.map, hcolumns]
    | cons first rest =>
      obtain ⟨stored, hstored⟩ := hconnection t rfl (by simp [hcolumns])
      have hnames : (Except.ok t : Except StoreError Table).map Table.columns =
          .ok (first :: rest) := congrArg Except.ok hcolumns
      simp only [hnames]
      have hwritten := condition_ne_catalog (first :: rest) parts
      generalize condition (first :: rest) parts = written at hwritten
      cases written with
      | error e => exact ⟨rfl, fun heq => hwritten (by cases heq; rfl)⟩
      | ok c =>
        simp only [query_of_connection hstored]
        exact ⟨trivial, map_ne_error (find_ne_catalog hstored c [])⟩

/-- A sum leaves the store as the load before it does, and misses no table. -/
theorem summarize_cases (h : s.InStep) (hserved : IsServed (s.load settings))
    (parts : List Predicate) (fields : List FieldName) :
    (s.summarize settings parts fields).2 = (s.load settings).2 ∧
      (s.summarize settings parts fields).1 ≠ .error .catalog := by
  have hconnection := fun t => h.connection_load (t := t) hserved
  unfold IsServed at hserved
  unfold summarize columns
  generalize s.load settings = outcome at hconnection hserved
  obtain ⟨result, after⟩ := outcome
  cases result with
  | error e =>
    refine ⟨rfl, fun heq => ?_⟩
    cases heq
    exact absurd (hserved _ rfl) (by decide)
  | ok t =>
    cases hcolumns : t.columns with
    | nil => simp [Except.map, hcolumns]
    | cons first rest =>
      obtain ⟨stored, hstored⟩ := hconnection t rfl (by simp [hcolumns])
      have hnames : (Except.ok t : Except StoreError Table).map Table.columns =
          .ok (first :: rest) := congrArg Except.ok hcolumns
      simp only [hnames]
      have hwritten := condition_ne_catalog (first :: rest) parts
      have hnamed := quantityColumns_ne_catalog (first :: rest) fields
      generalize condition (first :: rest) parts = written at hwritten
      generalize quantityColumns (first :: rest) fields = named at hnamed
      cases written with
      | error e => exact ⟨rfl, fun heq => hwritten (by cases heq; rfl)⟩
      | ok c =>
        cases named with
        | error e => exact ⟨rfl, fun heq => hnamed (by cases heq; rfl)⟩
        | ok names =>
          simp only [query_of_connection hstored]
          exact ⟨trivial, map_ne_error (find_ne_catalog hstored c names)⟩

end InStep

/-- A query without conditions finds all that is in the table. -/
theorem find_everything {stored : Table} {names : List String}
    (hopen : s.connection = some (.table stored)) (hnames : "" ∉ names) :
    s.find .everything names =
      .ok ⟨stored, stored, names.map fun name =>
        (Sql.storedColumn? stored.columns name).getD name⟩ := by
  have hcheck : Sql.Condition.check .everything names = .ok () := by
    have hnone : names.any String.isEmpty = false := by
      rw [List.any_eq_false]
      intro name hname hempty
      rw [String.isEmpty_iff] at hempty
      exact hnames (hempty ▸ hname)
    simp only [Sql.Condition.check, Sql.Condition.columnNames, List.nil_append, hnone]
    rfl
  have hall : stored.rows.filter (fun _ => true) = stored.rows :=
    List.filter_eq_self.2 fun _ _ => rfl
  have hkeep : ∀ row ∈ stored.rows,
      (Sql.Condition.everything.resolve stored.columns).keeps (Table.record stored.columns row) =
        .ok ((fun _ => true) row) := fun _ _ => rfl
  rw [find_eq hopen hcheck hkeep, hall]

/-- With features in memory a selection without conditions finds them, as the database gives them
back. -/
theorem select_nil {t stored : Table} (htable : s.table = some t) (hcolumns : t.columns ≠ [])
    (hopen : s.connection = some (.table stored)) :
    s.select settings [] = (.ok stored.fetched, s) := by
  rw [select_eq htable hcolumns hopen rfl, find_everything hopen List.not_mem_nil]
  rfl

/-- With features in memory a sum without conditions counts the rows in the database. -/
theorem summarize_nil {t stored : Table} {names : List String} (htable : s.table = some t)
    (hcolumns : t.columns ≠ []) (hopen : s.connection = some (.table stored)) (hnames : "" ∉ names) :
    ∃ total, s.summarize settings [] (names.map .text) = (.ok ⟨stored.rows.length, total⟩, s) := by
  have hpresent : "" ∉ names.filter (· ∈ t.columns) := fun h => hnames (List.mem_filter.1 h).1
  rw [summarize_eq htable hcolumns hopen rfl (quantityColumns_texts t.columns names),
    find_everything hopen hpresent]
  exact ⟨_, rfl⟩

/-! ## §4 Runs -/

namespace InStep

theorem occur {e : StoreEvent} (h : s.InStep) (he : s.ServesIn settings e) :
    (s.occur settings e).InStep := by
  cases e with
  | load => exact h.load he
  | replace t => exact h.setTable he
  | rebuild => exact h.rebuildExports he
  | reload => exact h.reload
  | select parts =>
    rw [Store.occur, (h.select_cases he parts).1]
    exact h.load he
  | summarize parts fields =>
    rw [Store.occur, (h.summarize_cases he parts fields).1]
    exact h.load he
  | change files remote => exact ⟨h.kept, h.opened, h.disk⟩

end InStep

theorem Maintained.inStep (hs : s.Maintained settings) : s.InStep := by
  induction hs with
  | start s htable hconnection hdisk =>
    refine ⟨fun t ht => ?_, fun t ht => ?_, hdisk⟩
    · rw [htable] at ht
      cases ht
    · rw [hconnection] at ht
      cases ht
  | step e _ he ih => exact ih.occur he

/-- Whatever was done, features in memory are in the open database: the stored table was made of them
or they were read from it. A sum without conditions counts all of them, and a selection without
conditions finds them if the database gives back what is put in. No query misses a table. -/
theorem Maintained.agrees (hs : s.Maintained settings) :
    (∀ t, s.table = some t →
      ∃ stored, s.connection = some (.table stored) ∧ (stored = t.stored ∨ t = stored.fetched) ∧
        (∀ names : List String, "" ∉ names → ∃ total,
          s.summarize settings [] (names.map .text) = (.ok ⟨t.rows.length, total⟩, s)) ∧
        (t.stored.fetched = t → stored.fetched = t ∧ s.select settings [] = (.ok t, s))) ∧
      (IsServed (s.load settings) → ∀ parts fields,
        (s.select settings parts).1 ≠ .error .catalog ∧
          (s.summarize settings parts fields).1 ≠ .error .catalog) := by
  have h := hs.inStep
  refine ⟨fun t htable => ?_, fun hserved parts fields =>
    ⟨(h.select_cases hserved parts).2, (h.summarize_cases hserved parts fields).2⟩⟩
  obtain ⟨stored, hopen, hmade⟩ := h.kept t htable
  have hstored := h.opened stored hopen
  -- Either way the two have as many rows and columns.
  have hrows : stored.rows.length = t.rows.length := by
    obtain rfl | rfl := hmade <;> simp
  have hcolumns : t.columns ≠ [] := by
    obtain rfl | rfl := hmade
    · intro hnone
      rw [← List.length_eq_zero_iff, ← Table.length_columns_stored] at hnone
      exact hstored (List.length_eq_zero_iff.1 hnone)
    · exact hstored
  refine ⟨stored, hopen, hmade, fun names hnames => ?_, fun hkept => ?_⟩
  · rw [← hrows]
    exact summarize_nil htable hcolumns hopen hnames
  · have hfetched : stored.fetched = t := by
      obtain rfl | hread := hmade
      · exact hkept
      · exact hread.symm
    exact ⟨hfetched, by rw [select_nil htable hcolumns hopen, hfetched]⟩

/-- A store that does not keep its database. -/
def salesSettings : StoreSettings where
  database := ""
  glob := .text "data/*.csv"
  preparation :=
    { dateText := .null, metricFields := some [.text "Sales"], dateKey := .text "Day"
      alternates := some [] }
  textColumn := .null
  url := .null
  key := .null
  source := none

def branches : Table :=
  { columns := ["Branch"], rows := [[.text "North"]] }

def sales : Table :=
  { columns := ["Branch", "Sales"]
    rows := [[.text "North", .int 3], [.text "South", .int 5], [.text "North", .int 3]] }

/-- A store that was given a table, forgot it, and was given another, which repeats a row. -/
def salesStore : Store :=
  ((({} : Store).occur salesSettings (.replace branches)).occur salesSettings .reload).occur
    salesSettings (.replace sales)

theorem isServed_of_ok {α : Type} {outcome : Except StoreError α × Store} {a : α}
    (h : outcome.1 = .ok a) : IsServed outcome := by
  intro e he
  rw [h] at he
  cases he

theorem Maintained.agrees_salesStore :
    salesStore.Maintained salesSettings ∧
      salesStore.select salesSettings [] =
        (.ok { sales with rows := sales.rows.take 2 }, salesStore) ∧
      ∃ total, salesStore.summarize salesSettings [] [.text "Sales"] = (.ok ⟨2, total⟩, salesStore) := by
  have hstart : Maintained salesSettings {} := .start _ rfl rfl fun t ht => nomatch ht
  have hs : salesStore.Maintained salesSettings :=
    .step (.replace sales) (.step .reload (.step (.replace branches) hstart
      (isServed_of_ok rfl)) (isServed_of_ok rfl)) (isServed_of_ok rfl)
  obtain ⟨stored, -, -, hsum, hselect⟩ :=
    (Maintained.agrees hs).1 { sales with rows := sales.rows.take 2 } rfl
  obtain ⟨total, htotal⟩ := hsum ["Sales"] (by decide)
  exact ⟨hs, (hselect rfl).2, total, htotal⟩

end Store

end MapFilter
