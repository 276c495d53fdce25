import MapFilter.Proofs.Store.Exports
import MapFilter.Proofs.Store.Loading

/-!
# Loading twice

A load that finds features keeps them, and one that fails or finds none leaves everything as it was for
the next one, so that loading again shows the same records. There is one exception. A view that cannot
be read may stand in the database where the table belongs: a load fails behind it, since the database
does not take the features of the exports, but these are in memory for the next load.

- `Store.shown`: the records that a load shows
- `Store.exported`: the records that the exports have for an empty store
- `Store.IsObstructed`: the exception
- `Store.IsBlank.load`: a load without features in memory or in the database
- `Store.shown_load_load`, `Store.IsObstructed.shown_load`: loading twice
-/

namespace MapFilter.Store

variable {settings : StoreSettings} {s : Store}

/-! ## §1 Records -/

/-- The records of the features that a load finds. One that fails shows none. -/
def shown : Except StoreError Table → List Record
  | .ok t => t.offered
  | .error _ => []

/-- The records of a table once it is prepared. -/
def preparedRecords (settings : StoreSettings) (t : Table) : List Record :=
  match settings.preparation.apply t with
  | .ok prepared => prepared.offered
  | .error _ => []

/-- The records that the exports have for a store without features. -/
def exported (settings : StoreSettings) (files : Files) (remote : Remote) : List Record :=
  match readExports settings files with
  | .error _ => []
  | .ok (some t) => preparedRecords settings t
  | .ok none =>
    match settings.url.isTruthy, remote with
    | true, .table t => preparedRecords settings t
    | _, _ => []

/-- Nothing is in memory, and the exports have records, but the database holds a view that cannot be
read. -/
structure IsObstructed (settings : StoreSettings) (s : Store) : Prop where
  table : s.table = none
  view : ∃ opened, s.connect settings = .ok opened ∧ opened.relation = .brokenView
  exported : exported settings s.files s.remote ≠ []

/-! ## §2 No features at hand -/

/-- Nothing is in memory, and in the open database stands something, but no table. -/
structure IsBlank (r : Relation) (s : Store) : Prop where
  table : s.table = none
  connection : s.connection = some r
  noTable : ∀ t, r ≠ .table t

/-- What a load shows of the records of the exports: none of them behind a view. -/
def seen : Relation → List Record → List Record
  | .brokenView, _ => []
  | _, records => records

theorem seen_nil (r : Relation) : seen r [] = [] := by
  cases r <;> rfl

/-- A load shows what can be seen of these records. They are in memory for the next one, or there are
none and nothing has changed for it. -/
structure Shows (r : Relation) (s : Store) (records : List Record)
    (outcome : Except StoreError Table × Store) : Prop where
  shown : shown outcome.1 = seen r records
  again : (∃ t, outcome.2.table = some t ∧ t.offered = records) ∨
    (records = [] ∧ outcome.2.IsBlank r ∧ outcome.2.files = s.files ∧ outcome.2.remote = s.remote)

variable {r : Relation}

theorem IsBlank.unchanged (h : s.IsBlank r) (e : StoreError) : s.Shows r [] (.error e, s) :=
  ⟨(seen_nil r).symm, .inr ⟨rfl, h, rfl, rfl⟩⟩

theorem IsBlank.loadTable (h : s.IsBlank r) (t : Table) :
    s.Shows r (preparedRecords settings t) (s.loadTable settings t) := by
  unfold Store.loadTable setTable preparedRecords
  cases hprepared : settings.preparation.apply t with
  | error e => exact h.unchanged _
  | ok prepared =>
    have hconnect : connect settings { s with table := some prepared } =
        .ok { s with table := some prepared } := connect_of_connection h.connection
    have hrelation : relation { s with table := some prepared } = r := by
      simp only [relation, h.connection, Option.getD_some]
    simp only [hconnect, persist, hrelation]
    cases r with
    | table stored => exact absurd rfl (h.noTable stored)
    | brokenView =>
      simp only [if_true]
      exact ⟨rfl, .inl ⟨prepared, rfl, rfl⟩⟩
    | nothing =>
      simp only [reduceCtorEq, if_false]
      cases hcolumns : prepared.columns with
      | nil =>
        -- The database refuses a table without columns, but that shows no records either.
        have hempty : prepared.offered = [] := by
          rw [Table.offered, Table.isEmpty, hcolumns]
          rfl
        exact ⟨hempty.symm, .inl ⟨prepared, rfl, rfl⟩⟩
      | cons first rest => exact ⟨rfl, .inl ⟨prepared, rfl, rfl⟩⟩

theorem IsBlank.loadRemote (h : s.IsBlank r)
    (hnone : readExports settings s.files = .ok none) :
    s.Shows r (exported settings s.files s.remote) (s.loadRemote settings) := by
  have hcounted : IsBlank r { s with requests := s.requests + 1 } :=
    ⟨h.table, h.connection, h.noTable⟩
  unfold Store.loadRemote exported
  rw [hnone]
  cases settings.url.isTruthy with
  | false => exact ⟨(seen_nil r).symm, .inr ⟨rfl, h, rfl, rfl⟩⟩
  | true =>
    dsimp only
    simp only [if_true]
    -- A request is counted, and that is all that it changes.
    generalize hcounts : ({ s with requests := s.requests + 1 } : Store) = counted at hcounted
    have hfiles : counted.files = s.files := by rw [← hcounts]
    have hsame : counted.remote = s.remote := by rw [← hcounts]
    generalize hanswer : s.remote = answer
    rw [hanswer] at hsame
    cases answer with
    | table t =>
      obtain ⟨hshown, hmemory | ⟨hnil, hblank, hfiles', hsame'⟩⟩ :=
        (hcounted.loadTable t : counted.Shows r _ (counted.loadTable settings t))
      · exact ⟨hshown, .inl hmemory⟩
      · exact ⟨hshown, .inr ⟨hnil, hblank, hfiles'.trans hfiles,
          hsame'.trans (hsame.trans hanswer.symm)⟩⟩
    | _ => exact ⟨(seen_nil r).symm, .inr ⟨rfl, hcounted, hfiles, hsame.trans hanswer.symm⟩⟩

theorem IsBlank.load_eq (h : s.IsBlank r) : s.load settings = s.rebuild settings := by
  have hrelation : s.relation = r := by rw [relation, h.connection, Option.getD_some]
  simp only [Store.load, h.table, connect_of_connection h.connection, hrelation]
  cases r with
  | table t => exact absurd rfl (h.noTable t)
  | _ => rfl

theorem IsBlank.load (h : s.IsBlank r) :
    s.Shows r (exported settings s.files s.remote) (s.load settings) := by
  rw [h.load_eq, rebuild]
  cases hread : readExports settings s.files with
  | error e =>
    simp only [exported, hread]
    exact h.unchanged _
  | ok found =>
    cases found with
    | none => exact h.loadRemote hread
    | some t =>
      simp only [exported, hread]
      exact h.loadTable t

/-- A database that was just opened and has no table leaves a load without features. -/
theorem isBlank_of_connect {opened : Store} (htable : s.table = none)
    (hconnect : s.connect settings = .ok opened) (hnone : ∀ t, opened.relation ≠ .table t) :
    opened.IsBlank opened.relation ∧ opened.files = s.files ∧ opened.remote = s.remote ∧
      s.load settings = opened.load settings := by
  obtain ⟨r, rfl⟩ := connect_ok hconnect
  have hblank : IsBlank r { s with connection := some r } := ⟨htable, rfl, hnone⟩
  refine ⟨hblank, rfl, rfl, ?_⟩
  rw [hblank.load_eq]
  simp only [Store.load, htable, hconnect, relation, Option.getD_some]
  cases r with
  | table t => exact absurd rfl (hnone t)
  | _ => rfl

/-! ## §3 Loading again -/

/-- A load that follows on a load shows the records of the exports, seen before or not. -/
theorem Shows.load {outcome : Except StoreError Table × Store}
    (h : s.Shows r (exported settings s.files s.remote) outcome) :
    Store.shown (outcome.2.load settings).1 = exported settings s.files s.remote := by
  obtain ⟨-, ⟨t, htable, ht⟩ | ⟨hnil, hblank, hfiles, hsame⟩⟩ := h
  · rw [load_of_table htable]
    exact ht
  · rw [hblank.load.shown, hfiles, hsame, hnil, seen_nil]

/-- Where neither memory nor the database has features, a load shows what can be seen of the exports,
and the next one shows them all. -/
theorem shown_load_of_connect {opened : Store} (htable : s.table = none)
    (hconnect : s.connect settings = .ok opened) (hnone : ∀ t, opened.relation ≠ .table t) :
    shown (s.load settings).1 = seen opened.relation (exported settings s.files s.remote) ∧
      shown ((s.load settings).2.load settings).1 = exported settings s.files s.remote := by
  obtain ⟨hblank, hfiles, hsame, hopened⟩ := isBlank_of_connect htable hconnect hnone
  have hload : opened.Shows opened.relation _ (opened.load settings) := hblank.load
  rw [hopened, ← hfiles, ← hsame]
  exact ⟨hload.shown, hload.load⟩

/-- Loading twice shows the same records, but behind a view. -/
theorem shown_load_load (hview : ¬ s.IsObstructed settings) :
    shown ((s.load settings).2.load settings).1 = shown (s.load settings).1 := by
  cases htable : s.table with
  | some t => simp only [load_of_table htable]
  | none =>
    cases hconnect : s.connect settings with
    | error e =>
      -- A database that cannot be opened cannot be opened again.
      have hfailed : s.load settings = (.error e, s) := by simp only [load, htable, hconnect]
      rw [hfailed, hfailed]
    | ok opened =>
      cases hrelation : opened.relation with
      | table stored =>
        have hfound : s.load settings =
            (.ok stored.fetched, { opened with table := some stored.fetched }) := by
          simp only [load, htable, hconnect, hrelation]
        rw [hfound, load_of_table rfl]
      | nothing =>
        obtain ⟨hfirst, hsecond⟩ := shown_load_of_connect htable hconnect
          (fun t => by rw [hrelation]; exact Relation.noConfusion)
        rw [hfirst, hsecond, hrelation]
        rfl
      | brokenView =>
        obtain ⟨hfirst, hsecond⟩ := shown_load_of_connect htable hconnect
          (fun t => by rw [hrelation]; exact Relation.noConfusion)
        rw [hfirst, hsecond, hrelation]
        -- Behind a view nothing is seen, but there is nothing to be seen either.
        exact not_not.1 fun hne => hview ⟨htable, ⟨opened, hconnect, hrelation⟩, hne⟩

/-- Behind a view nothing is shown at first, and then what the exports have. -/
theorem IsObstructed.shown_load (hview : s.IsObstructed settings) :
    shown (s.load settings).1 = [] ∧
      shown ((s.load settings).2.load settings).1 = Store.exported settings s.files s.remote := by
  obtain ⟨htable, ⟨opened, hconnect, hrelation⟩, -⟩ := hview
  obtain ⟨hfirst, hsecond⟩ := shown_load_of_connect htable hconnect
    (fun t => by rw [hrelation]; exact Relation.noConfusion)
  exact ⟨by rw [hfirst, hrelation]; rfl, hsecond⟩

end MapFilter.Store
