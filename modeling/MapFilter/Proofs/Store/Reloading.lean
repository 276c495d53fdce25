import MapFilter.Proofs.Store.Again
import MapFilter.Proofs.Store.Refusal

/-!
# Forgetting the features

When the features are forgotten, the next load is to look for them in the exports, as if there had been
none before. Memory is emptied for this, and an open database loses its stored table. A database that is
not open keeps it, and a load prefers what is stored to the exports. So a store that has not opened its
database shows the same features again.

- `Store.exportedTable`, `Store.rebuilt`: what the exports have, and what a load makes of that
- `Store.load_stored`, `Store.load_eq_rebuilt`: a load with nothing in memory
- `Store.LeftBehind`: a stored table that is not forgotten
- `Store.Forgets`: the next load rebuilds the features
- `Store.reload_forgets_iff`: when it does
-/

namespace MapFilter.Store

variable {settings : StoreSettings} {s : Store}

/-! ## §1 Features from the exports -/

/-- The table that the exports have: that of the exported files, or else the remote one. -/
def exportedTable (settings : StoreSettings) (files : Files) (remote : Remote) :
    Except StoreError (Option Table) :=
  match readExports settings files with
  | .error e => .error (.exports e)
  | .ok (some t) => .ok (some t)
  | .ok none =>
    if settings.url.isTruthy then
      match remote with
      | .table t => .ok (some t)
      | .unavailable => .ok none
      | .unreadable => .error .notATable
      | .unstorable e => .error (.unstorable e)
      | .uneven => .error .uneven
    else .ok none

/-- What a load makes of a table from the exports. A database with a view in the place of the features
does not take it, and no database takes a table without columns. -/
def installed (settings : StoreSettings) (r : Relation) (t : Table) : Except StoreError Table :=
  match settings.preparation.apply t with
  | .error e => .error (.preparation e)
  | .ok prepared =>
    if r = .brokenView then .error .catalog
    else if prepared.columns = [] then .error .noColumns
    else .ok prepared

/-- The features that the exports give, and none if they have no table. Features that were there before
have no part in it. -/
def rebuilt (settings : StoreSettings) (s : Store) : Except StoreError Table :=
  match s.connect settings with
  | .error e => .error e
  | .ok _ =>
    match exportedTable settings s.files s.remote with
    | .error e => .error e
    | .ok none => .ok {}
    | .ok (some t) => installed settings (s.contents settings) t

theorem loadTable_eq_installed {r : Relation} (t : Table) (h : s.connection = some r) :
    (s.loadTable settings t).1 = installed settings r t := by
  unfold loadTable setTable installed
  cases settings.preparation.apply t with
  | error e => rfl
  | ok prepared =>
    have hconnect : connect settings { s with table := some prepared } =
        .ok { s with table := some prepared } := connect_of_connection h
    have hrelation : relation { s with table := some prepared } = r := relation_of_connection h
    simp only [hconnect, persist, hrelation]
    by_cases hview : r = .brokenView
    · simp only [if_pos hview]
    · simp only [if_neg hview]
      cases hcolumns : prepared.columns with
      | nil => simp only [List.isEmpty_nil, if_true]
      | cons first rest =>
        simp only [List.isEmpty_cons, Bool.false_eq_true, reduceCtorEq, if_false]
        rfl

theorem rebuild_eq_rebuilt {r : Relation} (h : s.connection = some r) :
    (s.rebuild settings).1 = rebuilt settings s := by
  unfold rebuild rebuilt exportedTable
  rw [connect_of_connection h, contents_of_connection h]
  cases readExports settings s.files with
  | error e => rfl
  | ok found =>
    cases found with
    | some t => exact loadTable_eq_installed t h
    | none =>
      dsimp only
      rw [loadRemote]
      split
      · -- A request is counted, and that is all that it changes.
        generalize s.remote = answer
        cases answer with
        | table t =>
          have hcounted : ({ s with requests := s.requests + 1 } : Store).connection = some r := h
          exact loadTable_eq_installed t hcounted
        | _ => rfl
      · rfl

/-! ## §2 Loads with nothing in memory -/

/-- What the database holds is preferred to the exports. -/
theorem load_stored {opened : Store} {t : Table} (htable : s.table = none)
    (hconnect : s.connect settings = .ok opened) (hstored : s.contents settings = .table t) :
    (s.load settings).1 = .ok t.fetched := by
  have hconnection := congrArg connection (connect_eq_contents hconnect)
  have hrelation : opened.relation = .table t := (relation_of_connection hconnection).trans hstored
  simp only [load, htable, hconnect, hrelation]

/-- A load that finds nothing in the database, or no database, comes to what is rebuilt. -/
theorem load_eq_rebuilt (htable : s.table = none)
    (hnone : ∀ opened t, s.connect settings = .ok opened → s.contents settings ≠ .table t) :
    (s.load settings).1 = rebuilt settings s := by
  cases hconnect : s.connect settings with
  | error e => simp only [load, rebuilt, htable, hconnect]
  | ok opened =>
    have hopened := connect_eq_contents hconnect
    have hconnection := congrArg connection hopened
    have hrelation : opened.relation = s.contents settings := relation_of_connection hconnection
    obtain ⟨hblank, hfiles, hremote, hload⟩ := isBlank_of_connect htable hconnect fun t => by
      rw [hrelation]
      exact hnone opened t hconnect
    rw [hload, hblank.load_eq, rebuild_eq_rebuilt hconnection]
    -- Opening the database has no part in what is rebuilt.
    simp only [rebuilt, hconnect, connect_of_connection hconnection,
      contents_of_connection hconnection, hfiles, hremote]

/-! ## §3 Forgetting -/

/-- A table is stored in a database file that can be opened and has not been. -/
structure LeftBehind (settings : StoreSettings) (s : Store) (t : Table) : Prop where
  closed : s.connection = none
  sound : settings.databaseFault? s.files = none
  stored : s.contents settings = .table t

theorem LeftBehind.exists_connect {t : Table} (h : LeftBehind settings s t) :
    ∃ opened, s.connect settings = .ok opened := by
  simp only [connect, h.closed, h.sound]
  exact ⟨_, rfl⟩

/-- A load with nothing in memory finds what was left behind. -/
theorem LeftBehind.load {t : Table} (h : LeftBehind settings s t) (htable : s.table = none) :
    (s.load settings).1 = .ok t.fetched := by
  obtain ⟨opened, hconnect⟩ := h.exists_connect
  exact load_stored htable hconnect h.stored

theorem load_of_not_leftBehind (hclosed : s.connection = none) (htable : s.table = none)
    (hnone : ∀ t, ¬ LeftBehind settings s t) : (s.load settings).1 = rebuilt settings s := by
  refine load_eq_rebuilt htable fun opened t hconnect hstored => ?_
  cases hfault : settings.databaseFault? s.files with
  | none => exact hnone t ⟨hclosed, hfault, hstored⟩
  | some fault =>
    simp only [connect, hclosed, hfault] at hconnect
    cases hconnect

/-- The store with other exports around it. -/
def withExports (files : Files) (remote : Remote) (s : Store) : Store :=
  { s with files := files, remote := remote }

/-- The store forgets its features and moves on to another generation, and the next load rebuilds them
from the exports as they are by then. -/
def Forgets (settings : StoreSettings) (files : Files) (remote : Remote) (s : Store) : Prop :=
  ∃ s', s.reload settings = (.ok (), s') ∧ s.generation < s'.generation ∧
    ((s'.withExports files remote).load settings).1 = rebuilt settings (s'.withExports files remote)

/-- A store whose database is not open has nothing to drop. -/
theorem reload_of_closed (h : s.connection = none) :
    s.reload settings = (.ok (), { s with table := none, generation := s.generation + 1 }) := by
  simp only [reload, h]

theorem reload_of_open (settings : StoreSettings) {r : Relation} (h : s.connection = some r)
    (hview : r ≠ .brokenView) :
    ∃ s', s.reload settings = (.ok (), s') ∧ s'.table = none ∧ s'.connection = some .nothing ∧
      s'.generation = s.generation + 1 := by
  cases r with
  | brokenView => exact absurd rfl hview
  | _ =>
    simp only [reload, h]
    exact ⟨_, rfl, rfl, rfl, rfl⟩

/-- A view in the way stays there. -/
theorem reload_of_view (h : s.connection = some .brokenView) :
    s.reload settings = (.error .catalog, { s with table := none }) := by
  simp only [reload, h]

/-- What is rebuilt does not depend on the features in memory. -/
theorem rebuilt_of_closed (h : s.connection = none) (generation : Nat) :
    rebuilt settings { s with table := none, generation := generation } = rebuilt settings s := by
  unfold rebuilt connect contents
  simp only [h]
  cases settings.databaseFault? s.files <;> rfl

/-- What a load comes to after the features were forgotten: a table that was left behind, or what is
rebuilt. -/
structure Reloaded (settings : StoreSettings) (files : Files) (remote : Remote) (s s' : Store) :
    Prop where
  generation : s'.generation = s.generation + 1
  stored : ∀ t, LeftBehind settings (s.withExports files remote) t →
    ((s'.withExports files remote).load settings).1 = .ok t.fetched ∧
      rebuilt settings (s'.withExports files remote) = rebuilt settings (s.withExports files remote)
  anew : (∀ t, ¬ LeftBehind settings (s.withExports files remote) t) →
    ((s'.withExports files remote).load settings).1 = rebuilt settings (s'.withExports files remote)

theorem Reloaded.load_eq_rebuilt_iff {files : Files} {remote : Remote} {s' : Store}
    (h : Reloaded settings files remote s s') :
    ((s'.withExports files remote).load settings).1 =
        rebuilt settings (s'.withExports files remote) ↔
      ∀ t, LeftBehind settings (s.withExports files remote) t →
        rebuilt settings (s.withExports files remote) = .ok t.fetched := by
  constructor
  · intro hload t hleft
    obtain ⟨hstored, hsame⟩ := h.stored t hleft
    rw [← hsame, ← hload, hstored]
  · intro hagrees
    by_cases hsome : ∃ t, LeftBehind settings (s.withExports files remote) t
    · obtain ⟨t, hleft⟩ := hsome
      obtain ⟨hstored, hsame⟩ := h.stored t hleft
      rw [hstored, hsame, hagrees t hleft]
    · exact h.anew (not_exists.1 hsome)

theorem reload_reloaded (settings : StoreSettings) (hview : s.connection ≠ some .brokenView)
    (files : Files) (remote : Remote) :
    ∃ s', s.reload settings = (.ok (), s') ∧ Reloaded settings files remote s s' := by
  cases hconnection : s.connection with
  | none =>
    refine ⟨_, reload_of_closed hconnection, rfl, fun t hleft => ⟨?_, ?_⟩, fun hnone => ?_⟩
    · exact LeftBehind.load ⟨hconnection, hleft.sound, hleft.stored⟩ rfl
    · exact rebuilt_of_closed (s := s.withExports files remote) hconnection _
    · refine load_of_not_leftBehind hconnection rfl fun t hleft => hnone t ?_
      exact ⟨hconnection, hleft.sound, hleft.stored⟩
  | some r =>
    have hr : r ≠ .brokenView := by
      rintro rfl
      exact hview hconnection
    obtain ⟨s', hreload, htable, hopen, hgeneration⟩ := reload_of_open settings hconnection hr
    refine ⟨s', hreload, hgeneration, fun t hleft => ?_, fun _ => ?_⟩
    · have hclosed : s.connection = none := hleft.closed
      rw [hconnection] at hclosed
      cases hclosed
    · have hcontents : contents settings (s'.withExports files remote) = .nothing :=
        contents_of_connection hopen
      refine load_eq_rebuilt htable fun opened t _ => ?_
      rw [hcontents]
      exact Relation.noConfusion

/-- The features are forgotten, as far as the next load can tell, if the open database has no view in the
way and no table was left behind in a database file that is not open, other than the one that the exports
give again. A view makes forgetting fail, within the same generation. A table that was left behind is what
the next load comes to, though the generation grows. Where there is neither, the next load is for the
exports alone. -/
theorem reload_forgets_iff (settings : StoreSettings) (s : Store) (files : Files) (remote : Remote) :
    let around := s.withExports files remote
    (Forgets settings files remote s ↔
      s.connection ≠ some .brokenView ∧
        ∀ t, LeftBehind settings around t → rebuilt settings around = .ok t.fetched) ∧
    (s.connection = some .brokenView →
      s.reload settings = (.error .catalog, { s with table := none })) ∧
    (s.connection ≠ some .brokenView →
      ∃ s', s.reload settings = (.ok (), s') ∧ s'.generation = s.generation + 1 ∧
        let later := s'.withExports files remote
        (∀ t, LeftBehind settings around t → (later.load settings).1 = .ok t.fetched) ∧
        ((∀ t, ¬ LeftBehind settings around t) →
          (later.load settings).1 = rebuilt settings later)) := by
  by_cases hview : s.connection = some .brokenView
  · refine ⟨⟨?_, fun h => absurd hview h.1⟩, reload_of_view, fun h => absurd hview h⟩
    rintro ⟨s', hreload, -⟩
    rw [reload_of_view hview] at hreload
    cases hreload
  · obtain ⟨s', hreload, hreloaded⟩ := reload_reloaded settings hview files remote
    refine ⟨⟨?_, ?_⟩, fun h => absurd h hview, fun _ => ⟨s', hreload, hreloaded.generation,
      fun t hleft => (hreloaded.stored t hleft).1, hreloaded.anew⟩⟩
    · rintro ⟨later, hlater, -, hload⟩
      cases hreload.symm.trans hlater
      exact ⟨hview, hreloaded.load_eq_rebuilt_iff.1 hload⟩
    · rintro ⟨-, hleft⟩
      have hgrows : s.generation < s'.generation := by
        rw [hreloaded.generation]
        exact Nat.lt_succ_self _
      exact ⟨s', hreload, hgrows, hreloaded.load_eq_rebuilt_iff.2 hleft⟩

/-- A database file, no exported files, and a remote export. -/
def shopSettings : StoreSettings :=
  { salesSettings with database := "/shop.duckdb", glob := .text "", url := .text "https://shop" }

/-- The database file has a table of an earlier store, and the remote export has another one by now. -/
def shopStore : Store :=
  { disk := .table branches, remote := .table sales }

/-- The same store when it was told to forget its features. -/
def reloadedShop : Store :=
  { shopStore with generation := 1 }

/-- A store that has not opened its database shows the features that it was told to forget, and not those
of the exports. -/
theorem reload_keeps_stored :
    shopStore.reload shopSettings = (.ok (), reloadedShop) ∧
      (reloadedShop.load shopSettings).1 = .ok branches ∧
        rebuilt shopSettings reloadedShop = .ok { sales with rows := sales.rows.take 2 } ∧
          ¬ Forgets shopSettings shopStore.files shopStore.remote shopStore := by
  have hkept : shopSettings.inMemory = false := by simp [StoreSettings.inMemory, shopSettings]
  have hfault : shopSettings.databaseFault? reloadedShop.files = none := by
    simp [StoreSettings.databaseFault?, shopSettings]
  have hstored : reloadedShop.contents shopSettings = .table branches := by
    rw [contents, hkept]
    rfl
  have hleft : LeftBehind shopSettings reloadedShop branches := ⟨rfl, hfault, hstored⟩
  have hload : (reloadedShop.load shopSettings).1 = .ok branches := hleft.load rfl
  have hremote : exportedTable shopSettings reloadedShop.files reloadedShop.remote =
      .ok (some sales) := by
    have hnone : readExports shopSettings reloadedShop.files = .ok none :=
      readExports_of_glob_empty rfl _
    simp only [exportedTable, hnone]
    rfl
  have hrebuilt : rebuilt shopSettings reloadedShop =
      .ok { sales with rows := sales.rows.take 2 } := by
    obtain ⟨opened, hconnect⟩ := hleft.exists_connect
    simp only [rebuilt, hconnect, hremote, hstored]
    rfl
  have hreload : shopStore.reload shopSettings = (.ok (), reloadedShop) := reload_of_closed rfl
  refine ⟨hreload, hload, hrebuilt, ?_⟩
  rintro ⟨s', hreload', -, hforgets⟩
  cases hreload.symm.trans hreload'
  have hsame : reloadedShop.withExports shopStore.files shopStore.remote = reloadedShop := rfl
  rw [hsame, hload, hrebuilt] at hforgets
  cases hforgets

end MapFilter.Store
