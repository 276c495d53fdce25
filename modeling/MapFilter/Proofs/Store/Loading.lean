import MapFilter.Store.Basic

/-!
# What loading can come to

The store loads its features on demand. Whatever the source, a load that finds features keeps them in
memory and in the database, a load that finds none leaves the store without features, and no load
changes the generation.

- `StoreError.isOfReplacement`: features were found and could not be put in place
- `Store.SetOutcome`, `Store.setTable_cases`: all that replacing the features can come to
- `Store.LoadOutcome`, `Store.load_cases`: all that a load can come to
- `Store.LoadsCleanly`, `Store.cleanOutcome_load`: the same where features can be put in place
- `Store.ReloadOutcome`, `Store.reload_cases`: all that forgetting the features can come to
-/

namespace MapFilter

/-- Whether an error is one of replacing the features, and not of finding them. -/
def StoreError.isOfReplacement : StoreError → Bool
  | .preparation _ | .noColumns | .catalog => true
  | .exports _ | .database _ | .notATable | .unstorable _ | .uneven | .condition _ | .query _ =>
    false

namespace Store

variable {settings : StoreSettings} {s s' : Store}

/-! ## §1 Replacing the features -/

theorem connect_ok (h : s.connect settings = .ok s') :
    ∃ r, s' = { s with connection := some r } := by
  unfold connect at h
  cases hconnection : s.connection with
  | some r =>
    simp only [hconnection] at h
    cases h
    exact ⟨r, by rw [← hconnection]⟩
  | none =>
    simp only [hconnection] at h
    split at h
    · cases h
    · cases h
      exact ⟨_, rfl⟩

/-- An open database stays open, and opening it again changes nothing. -/
theorem connect_of_connection {r : Relation} (h : s.connection = some r) :
    s.connect settings = .ok s := by
  simp [connect, h]

/-- All that replacing the features can come to. -/
inductive SetOutcome (s : Store) : Except StoreError Unit × Store → Prop where
  | replaced {s' : Store} {prepared stored : Table} :
    s'.table = some prepared → s'.connection = some (.table stored) →
    s'.generation = (if s.table.isSome then s.generation + 1 else s.generation) →
    SetOutcome s (.ok (), s')
  /-- The table cannot be prepared, or the database does not take it. -/
  | refused {e : StoreError} {s' : Store} :
    e.isOfReplacement = true → s'.generation = s.generation → SetOutcome s (.error e, s')
  /-- The database cannot be opened. -/
  | closed {e : StoreError} {s' : Store} : s.connection = none → SetOutcome s (.error e, s')

theorem setTable_cases (settings : StoreSettings) (t : Table) (s : Store) :
    SetOutcome s (s.setTable settings t) := by
  unfold setTable
  cases settings.preparation.apply t with
  | error e => exact .refused rfl rfl
  | ok prepared =>
    -- From here on the table is in memory, whatever the database says to it.
    dsimp only
    cases hconnect : connect settings { s with table := some prepared } with
    | error e =>
      refine .closed ?_
      -- An open database would have stayed open.
      cases hconnection : s.connection with
      | none => rfl
      | some r =>
        have hopen : connect settings { s with table := some prepared } = .ok _ :=
          connect_of_connection hconnection
        rw [hopen] at hconnect
        cases hconnect
    | ok opened =>
      obtain ⟨r, rfl⟩ := connect_ok hconnect
      simp only [persist]
      split
      · rename_i heq
        split at heq
        · cases heq
        · split at heq
          · cases heq
          · cases heq
            exact .replaced rfl rfl rfl
      · rename_i heq
        split at heq
        · cases heq
          exact .refused rfl rfl
        · split at heq
          · cases heq
            exact .refused rfl rfl
          · cases heq

/-! ## §2 Loading -/

/-- All that a load can come to in a store without features, whose generation is given. -/
inductive LoadOutcome (generation : Nat) : Except StoreError Table × Store → Prop where
  | found {t stored : Table} {s' : Store} :
    s'.table = some t → s'.connection = some (.table stored) → s'.generation = generation →
    LoadOutcome generation (.ok t, s')
  /-- There are no features anywhere. -/
  | empty {s' : Store} :
    s'.table = none → s'.generation = generation → LoadOutcome generation (.ok {}, s')
  /-- Features are not found, or are found and not put in place. -/
  | failed {e : StoreError} {s' : Store} :
    e.isOfReplacement = true ∨ s'.table = none → s'.generation = generation →
    LoadOutcome generation (.error e, s')

/-- Features in memory are what a load finds, and it changes nothing. -/
theorem load_of_table {t : Table} (h : s.table = some t) : s.load settings = (.ok t, s) := by
  simp [load, h]

/-- Features that were found are put in place, if that is possible. -/
theorem loadTable_cases {r : Relation} (settings : StoreSettings) (t : Table)
    (htable : s.table = none) (hconnection : s.connection = some r) :
    LoadOutcome s.generation (s.loadTable settings t) := by
  have hcases := setTable_cases settings t s
  unfold loadTable
  generalize s.setTable settings t = outcome at hcases
  cases hcases with
  | replaced hprepared hstored hgeneration =>
    simp only [htable, Option.isSome_none, Bool.false_eq_true, if_false] at hgeneration
    simp only [hprepared, Option.getD_some]
    exact .found hprepared hstored hgeneration
  | refused herror hgeneration => exact .failed (.inl herror) hgeneration
  | closed hclosed =>
    rw [hclosed] at hconnection
    cases hconnection

theorem loadRemote_cases {r : Relation} (settings : StoreSettings) (htable : s.table = none)
    (hconnection : s.connection = some r) :
    LoadOutcome s.generation (s.loadRemote settings) := by
  unfold loadRemote
  split
  · -- A request is counted, whatever comes of it.
    have htable' : ({ s with requests := s.requests + 1 } : Store).table = none := htable
    dsimp only
    split
    · exact loadTable_cases settings _ htable' hconnection
    · exact .empty htable' rfl
    · exact .failed (.inr htable') rfl
    · exact .failed (.inr htable') rfl
    · exact .failed (.inr htable') rfl
  · exact .empty htable rfl

theorem rebuild_cases {r : Relation} (settings : StoreSettings) (htable : s.table = none)
    (hconnection : s.connection = some r) :
    LoadOutcome s.generation (s.rebuild settings) := by
  unfold rebuild
  split
  · exact .failed (.inr htable) rfl
  · exact loadTable_cases settings _ htable hconnection
  · exact loadRemote_cases settings htable hconnection

theorem load_cases (settings : StoreSettings) (htable : s.table = none) :
    LoadOutcome s.generation (s.load settings) := by
  simp only [load, htable]
  cases hconnect : s.connect settings with
  | error e => exact .failed (.inr htable) rfl
  | ok opened =>
    obtain ⟨r, rfl⟩ := connect_ok hconnect
    -- Opening the database brings nothing into memory, and leaves the generation as it is.
    have htable' : ({ s with connection := some r } : Store).table = none := htable
    cases r with
    | table stored => exact .found rfl rfl rfl
    | nothing => exact rebuild_cases settings htable' rfl
    | brokenView => exact rebuild_cases settings htable' rfl

theorem generation_load (settings : StoreSettings) (s : Store) :
    (s.load settings).2.generation = s.generation := by
  cases htable : s.table with
  | some t => rw [load_of_table htable]
  | none =>
    have hcases := load_cases settings htable
    generalize s.load settings = outcome at hcases
    cases hcases with
    | found _ _ hgeneration => exact hgeneration
    | empty _ hgeneration => exact hgeneration
    | failed _ hgeneration => exact hgeneration

/-! ## §3 Clean loads -/

/-- A load does not find features that cannot be put in place. -/
def LoadsCleanly (settings : StoreSettings) (s : Store) : Prop :=
  ∀ e, (s.load settings).1 = .error e → e.isOfReplacement = false

theorem loadsCleanly_of_table {t : Table} (h : s.table = some t) : s.LoadsCleanly settings := by
  intro e he
  rw [load_of_table h] at he
  cases he

/-- All that a clean load can come to: the features in memory are those it finds, and there are none
if it finds none. -/
inductive CleanOutcome (s : Store) : Except StoreError Table × Store → Prop where
  | kept {t : Table} : s.table = some t → CleanOutcome s (.ok t, s)
  | found {t stored : Table} {s' : Store} :
    s.table = none → s'.table = some t → s'.connection = some (.table stored) →
    s'.generation = s.generation → CleanOutcome s (.ok t, s')
  | empty {s' : Store} :
    s.table = none → s'.table = none → s'.generation = s.generation → CleanOutcome s (.ok {}, s')
  | failed {e : StoreError} {s' : Store} :
    s.table = none → s'.table = none → s'.generation = s.generation → CleanOutcome s (.error e, s')

theorem cleanOutcome_load (hclean : s.LoadsCleanly settings) :
    CleanOutcome s (s.load settings) := by
  unfold LoadsCleanly at hclean
  cases htable : s.table with
  | some t =>
    rw [load_of_table htable]
    exact .kept htable
  | none =>
    have hcases := load_cases settings htable
    generalize s.load settings = outcome at hcases hclean
    cases hcases with
    | found hfound hconnection hgeneration => exact .found htable hfound hconnection hgeneration
    | empty hempty hgeneration => exact .empty htable hempty hgeneration
    | failed hcause hgeneration =>
      obtain hreplacement | hempty := hcause
      · -- Features that were found and not put in place would stay in memory.
        rw [hclean _ rfl] at hreplacement
        cases hreplacement
      · exact .failed htable hempty hgeneration

/-! ## §4 Forgetting the features -/

/-- All that forgetting the features can come to. -/
inductive ReloadOutcome (s : Store) : Except StoreError Unit × Store → Prop where
  | forgotten {s' : Store} :
    s'.table = none → s'.generation = s.generation + 1 → ReloadOutcome s (.ok (), s')
  /-- The open database holds a view that is in the way. -/
  | refused {s' : Store} :
    s.connection = some .brokenView → s'.table = none → s'.generation = s.generation →
    ReloadOutcome s (.error .catalog, s')

theorem reload_cases (settings : StoreSettings) (s : Store) :
    ReloadOutcome s (s.reload settings) := by
  cases hconnection : s.connection with
  | none =>
    simp only [reload, hconnection]
    exact .forgotten rfl rfl
  | some r =>
    cases r with
    | brokenView =>
      simp only [reload, hconnection]
      exact .refused hconnection rfl rfl
    | nothing =>
      simp only [reload, hconnection]
      exact .forgotten rfl rfl
    | table stored =>
      simp only [reload, hconnection]
      exact .forgotten rfl rfl

end Store

end MapFilter
