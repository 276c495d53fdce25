import MapFilter.Proofs.Store.Upkeep

/-!
# What a refused table leaves behind

A table is refused because it cannot be prepared, because the database cannot be opened, or because
the database does not take it. The first of these comes before anything is replaced. The others come
when the table is in memory already, and the last one when the stored table is gone: from then on the
store shows the table that was refused, and its generation says that nothing has changed.

- `Store.contents`: what the database holds under the name of the stored table, open or not
- `Store.IsAsBefore`: nothing that is derived from the features has become wrong
- `Store.RefusedSet`, `Store.setTable_refused`: all that refusing a table can come to
- `Store.failed_set_keeps_iff`: the tables that are refused without harm
-/

namespace MapFilter

namespace Store

variable {settings : StoreSettings} {s s' : Store}

/-! ## §1 What can be seen of a store -/

/-- What the database holds under the name of the stored table. A database that is not open holds what
its file does. -/
def contents (settings : StoreSettings) (s : Store) : Relation :=
  s.connection.getD (if settings.inMemory then .nothing else s.disk)

/-- One store shows the features that the other one shows, by way of memory and of the database, and
has not moved on to another generation. -/
structure IsAsBefore (settings : StoreSettings) (s s' : Store) : Prop where
  shown : (s'.load settings).1 = (s.load settings).1
  contents : s'.contents settings = s.contents settings
  generation : s'.generation = s.generation

theorem IsAsBefore.refl (settings : StoreSettings) (s : Store) : IsAsBefore settings s s :=
  ⟨rfl, rfl, rfl⟩

theorem contents_of_connection {r : Relation} (h : s.connection = some r) :
    s.contents settings = r := by
  rw [contents, h, Option.getD_some]

/-- Opening the database brings to light what it holds. -/
theorem connect_eq_contents (h : s.connect settings = .ok s') :
    s' = { s with connection := some (s.contents settings) } := by
  unfold connect at h
  cases hconnection : s.connection with
  | some r =>
    simp only [hconnection] at h
    cases h
    rw [contents_of_connection hconnection, ← hconnection]
  | none =>
    simp only [hconnection] at h
    split at h
    · cases h
    · cases h
      rw [contents, hconnection, Option.getD_none]

/-- Only opening can fail, and only for a fault of the database. -/
theorem connect_error {e : StoreError} (h : s.connect settings = .error e) :
    ∃ fault, e = .database fault := by
  unfold connect at h
  split at h
  · cases h
  · split at h
    · cases h
      exact ⟨_, rfl⟩
    · cases h

/-- A table that can be prepared and has columns is taken by a database that can be opened and holds no
view in its place. -/
theorem setTable_of_connect {t prepared : Table} {opened : Store}
    (hprepared : settings.preparation.apply t = .ok prepared) (hcolumns : prepared.columns ≠ [])
    (hconnect : s.connect settings = .ok opened) (hview : s.contents settings ≠ .brokenView) :
    ∃ s', s.setTable settings t = (.ok (), s') ∧ s'.table = some prepared ∧
      s'.connection = some (.table prepared.stored) := by
  have hopened : connect settings { s with table := some prepared } =
      .ok { opened with table := some prepared } := by
    unfold connect at hconnect ⊢
    dsimp only
    split at hconnect
    · cases hconnect
      rfl
    · split at hconnect
      · cases hconnect
      · cases hconnect
        rfl
  have hconnection := congrArg connection (connect_eq_contents hconnect)
  have hrelation : relation { opened with table := some prepared } ≠ .brokenView := by
    rwa [relation_of_connection (s := { opened with table := some prepared }) hconnection]
  have hempty : prepared.columns.isEmpty = false := by rwa [List.isEmpty_eq_false_iff]
  unfold setTable
  simp only [hprepared, hopened, persist, if_neg hrelation, hempty, Bool.false_eq_true, if_false]
  exact ⟨_, rfl, rfl, rfl⟩

/-! ## §2 Refusals -/

/-- All that refusing a table can come to, with the error and the store that is left. -/
inductive RefusedSet (settings : StoreSettings) (t : Table) (s : Store) : StoreError → Store → Prop where
  /-- The table cannot be prepared. -/
  | unprepared {p : PreparationError} :
    settings.preparation.apply t = .error p → RefusedSet settings t s (.preparation p) s
  /-- The database cannot be opened. -/
  | closed {prepared : Table} {fault : DatabaseFault} :
    settings.preparation.apply t = .ok prepared →
    RefusedSet settings t s (.database fault) { s with table := some prepared }
  /-- A view is in the way. -/
  | obstructed {prepared : Table} :
    settings.preparation.apply t = .ok prepared → s.contents settings = .brokenView →
    RefusedSet settings t s .catalog
      { s with table := some prepared, connection := some .brokenView }
  /-- The table has no columns, which is found out when the stored table is gone. -/
  | withoutColumns {prepared : Table} :
    settings.preparation.apply t = .ok prepared → prepared.columns = [] →
    RefusedSet settings t s .noColumns
      (put settings .nothing
        { s with table := some prepared, connection := some (s.contents settings) })

theorem setTable_refused {t : Table} {e : StoreError}
    (h : s.setTable settings t = (.error e, s')) : RefusedSet settings t s e s' := by
  unfold setTable at h
  cases hprepared : settings.preparation.apply t with
  | error p =>
    simp only [hprepared] at h
    cases h
    exact .unprepared hprepared
  | ok prepared =>
    simp only [hprepared] at h
    -- From here on the table is in memory, and nothing takes it out again.
    cases hconnect : connect settings { s with table := some prepared } with
    | error fault =>
      simp only [hconnect] at h
      cases h
      obtain ⟨fault, rfl⟩ := connect_error hconnect
      exact .closed hprepared
    | ok opened =>
      simp only [hconnect] at h
      have hopened := connect_eq_contents hconnect
      subst hopened
      have hcontents : contents settings { s with table := some prepared } = s.contents settings :=
        rfl
      rw [hcontents, persist, relation_of_connection rfl] at h
      by_cases hbroken : s.contents settings = .brokenView
      · simp only [hbroken, if_true] at h
        cases h
        exact .obstructed hprepared hbroken
      · simp only [hbroken, if_false] at h
        cases hcolumns : prepared.columns with
        | nil =>
          simp only [hcolumns, List.isEmpty_nil, if_true] at h
          cases h
          exact .withoutColumns hprepared hcolumns
        | cons first rest =>
          simp only [hcolumns, List.isEmpty_cons, Bool.false_eq_true, if_false] at h
          cases h

namespace RefusedSet

variable {t : Table} {e : StoreError}

/-- No refusal is counted as a change. -/
theorem generation_eq (h : RefusedSet settings t s e s') : s'.generation = s.generation := by
  cases h <;> rfl

theorem eq_of_preparation {p : PreparationError} (h : RefusedSet settings t s (.preparation p) s') :
    s' = s := by
  cases h
  rfl

/-- A table that was prepared is in memory, though it was refused. -/
theorem load_eq {prepared : Table} (h : RefusedSet settings t s e s')
    (hprepared : settings.preparation.apply t = .ok prepared) :
    s'.load settings = (.ok prepared, s') := by
  apply load_of_table
  cases h with
  | unprepared hfailed =>
    rw [hprepared] at hfailed
    cases hfailed
  | closed hown | obstructed hown | withoutColumns hown =>
    rw [hprepared] at hown
    cases hown
    rfl

/-- The stored table is lost to a table without columns, and to no other. -/
theorem contents_eq (h : RefusedSet settings t s e s') :
    s'.contents settings = if e = .noColumns then .nothing else s.contents settings := by
  cases h with
  | unprepared => rfl
  | closed => rfl
  | obstructed _ hbroken => exact hbroken.symm
  | withoutColumns => rfl

theorem isAsBefore_iff {prepared : Table} (h : RefusedSet settings t s e s')
    (hprepared : settings.preparation.apply t = .ok prepared) :
    IsAsBefore settings s s' ↔
      (s.load settings).1 = .ok prepared ∧ (e = .noColumns → s.contents settings = .nothing) := by
  have hshown : (s'.load settings).1 = .ok prepared := by rw [h.load_eq hprepared]
  have hcontents := h.contents_eq
  constructor
  · intro hsame
    refine ⟨hsame.shown.symm.trans hshown, fun hnone => ?_⟩
    rw [← hsame.contents, hcontents, if_pos hnone]
  · rintro ⟨hload, hkept⟩
    refine ⟨hshown.trans hload.symm, ?_, h.generation_eq⟩
    rw [hcontents]
    split
    · next hnone => exact (hkept hnone).symm
    · rfl

end RefusedSet

/-- A table that is refused leaves the store as it was if and only if it cannot be prepared, or if it
is, prepared, what the store showed before, and the database has no stored table to lose. In any other
case the store shows the refused table from then on, while the generation stays the same. -/
theorem failed_set_keeps_iff {t : Table} {e : StoreError}
    (h : s.setTable settings t = (.error e, s')) :
    (IsAsBefore settings s s' ↔
      (∃ p, e = .preparation p) ∨
        ∃ prepared, settings.preparation.apply t = .ok prepared ∧
          (s.load settings).1 = .ok prepared ∧
          (e = .noColumns → s.contents settings = .nothing)) ∧
      s'.generation = s.generation ∧
      ((∃ p, e = .preparation p) → s' = s) ∧
      ∀ prepared, settings.preparation.apply t = .ok prepared →
        s'.load settings = (.ok prepared, s') ∧
          s'.contents settings = if e = .noColumns then .nothing else s.contents settings := by
  have hrefused := setTable_refused h
  have hunprepared : (∃ p, e = .preparation p) → s' = s := by
    rintro ⟨p, rfl⟩
    exact hrefused.eq_of_preparation
  refine ⟨⟨fun hsame => ?_, ?_⟩, hrefused.generation_eq, hunprepared, fun prepared hprepared =>
    ⟨hrefused.load_eq hprepared, hrefused.contents_eq⟩⟩
  · have hcases := hrefused
    cases hcases with
    | unprepared => exact .inl ⟨_, rfl⟩
    | closed hprepared | obstructed hprepared | withoutColumns hprepared =>
      exact .inr ⟨_, hprepared, (hrefused.isAsBefore_iff hprepared).1 hsame⟩
  · rintro (hpreparation | ⟨prepared, hprepared, hkept⟩)
    · rw [hunprepared hpreparation]
      exact .refl settings s
    · exact (hrefused.isAsBefore_iff hprepared).2 hkept

/-- A store that was given a table and keeps it in memory and in its database. -/
def branchStore : Store :=
  (setTable salesSettings branches {}).2

/-- The same store with a view in the place of its table. -/
def obstructedStore : Store :=
  { branchStore with connection := some .brokenView }

/-- A view in the way is enough to have the store show a table that its database does not hold. -/
theorem failed_set_keeps_iff_obstructed :
    ∃ s' : Store, setTable salesSettings sales obstructedStore = (.error .catalog, s') ∧
      ¬ IsAsBefore salesSettings obstructedStore s' := by
  have hset : setTable salesSettings sales obstructedStore = (.error .catalog, _) := rfl
  refine ⟨_, hset, fun hsame => ?_⟩
  obtain ⟨p, hp⟩ | ⟨prepared, hprepared, hload, -⟩ := (failed_set_keeps_iff hset).1.1 hsame
  · cases hp
  · cases hprepared
    cases hload

/-- A table without columns is refused, and yet it takes the place of the features in memory and
leaves nothing of them in the database, in the same generation. -/
theorem failed_set_loses_table :
    (branchStore.load salesSettings).1 = .ok branches ∧
      branchStore.contents salesSettings = .table branches ∧
      ∃ s' : Store, branchStore.setTable salesSettings {} = (.error .noColumns, s') ∧
        (s'.load salesSettings).1 = .ok {} ∧ s'.contents salesSettings = .nothing ∧
        s'.generation = branchStore.generation ∧ ¬ IsAsBefore salesSettings branchStore s' := by
  refine ⟨rfl, rfl, _, rfl, rfl, rfl, rfl, fun hsame => ?_⟩
  have hcontents : Relation.nothing = .table branches := hsame.contents
  cases hcontents

end Store

end MapFilter
