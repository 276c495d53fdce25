import MapFilter.Proofs.Store.Refusal
import MapFilter.Proofs.Table.Repeats

/-!
# Features that repeat each other

A store that was given a table shows a row for each row of it that did not repeat another one as it
came in. Where rows differ in blanks around a date text or in the spelling of a number only, they are
equal from then on, and the store shows each of them. It gets rid of them when it is given what it
shows, and after that nothing changes any more.

- `Preparation.Settles`: tables whose columns are as preparing leaves them
- `Store.set_shown`: what comes of giving a store what it shows
-/

namespace MapFilter

/-- Preparing leaves each column of the table as it is. -/
def Preparation.Settles (p : Preparation) (t : Table) : Prop :=
  ∀ names, p.numberColumns = .ok names → ∀ i name, t.columns[i]? = some name →
    columnPass p.dateText names name (t.columnAt i) = .ok (t.columnAt i)

/-- Of a table whose columns are settled only the repeated rows are dropped. -/
theorem Preparation.eq_dropDuplicates_of_settles {p : Preparation} {t t' : Table}
    (ht : t.IsRectangular) (h : p.apply t = .ok t') (hsettles : p.Settles t) :
    t' = t.dropDuplicates := by
  obtain ⟨names, hnames, -, hcolumns⟩ := apply_columnwise ht h
  refine hcolumns.eq_self (isRectangular_dropDuplicates ht) fun i name hi => ?_
  exact columnPass_part (hsettles names hnames i name hi) (t.columnAt_dropDuplicates_subset i)

namespace Store

variable {settings : StoreSettings} {s s' : Store}

/-- What a store that was given a table shows: as many rows as the table has that do not repeat an
earlier one. Given what it shows, the store drops the rows that have come to repeat others, so it shows
the same again exactly if there are none, and the third time nothing changes. There are none in any
case if the columns of the table were settled before. -/
theorem set_shown {t : Table} (ht : t.IsRectangular)
    (h : s.setTable settings t = (.ok (), s')) :
    ∃ shown again, s'.load settings = (.ok shown, s') ∧
      shown.columns = t.columns ∧ shown.rows.length = t.dropDuplicates.rows.length ∧
      s'.setTable settings shown = (.ok (), again) ∧
      again.load settings = (.ok shown.dropDuplicates, again) ∧
      ((again.load settings).1 = .ok shown ↔ shown.IsDistinct) ∧
      (settings.preparation.Settles t → shown = t.dropDuplicates ∧ shown.IsDistinct) ∧
      shown.dropDuplicates.IsDistinct ∧
      ∃ third, again.setTable settings shown.dropDuplicates = (.ok (), third) ∧
        third.load settings = (.ok shown.dropDuplicates, third) := by
  have hserved := setTable_served (isServed_of_ok (congrArg Prod.fst h))
  rw [h] at hserved
  cases hserved with
  | @replaced shown _ hprepared hcolumns htable hconnection _ =>
    have hshown := Preparation.apply_ok hprepared
    have hkeys := hshown.keys
    have hagain := Preparation.apply_again ht hprepared
    have hthird := Preparation.apply_again (hshown.rectangular ht) hagain
    have hfewer := Table.hasKeys_dropDuplicates hkeys
    have hdistinct := Table.isDistinct_dropDuplicates hfewer
    rw [(Table.dropDuplicates_eq_self_iff hfewer).2 hdistinct] at hthird
    have hopen {s : Store} {stored : Table} (h : s.connection = some (.table stored)) :
        s.contents settings ≠ .brokenView := by
      rw [contents_of_connection h]
      exact Relation.noConfusion
    obtain ⟨again, hset, hload, hkept⟩ := setTable_of_connect hagain hcolumns
      (connect_of_connection hconnection) (hopen hconnection)
    obtain ⟨third, hset', hload', -⟩ := setTable_of_connect hthird hcolumns
      (connect_of_connection hkept) (hopen hkept)
    refine ⟨shown, again, load_of_table htable, hshown.columns, Preparation.height_apply ht hprepared,
      hset, load_of_table hload, ?_, fun hsettles => ?_, hdistinct, third, hset', load_of_table hload'⟩
    · rw [load_of_table hload, Except.ok.injEq]
      exact Table.dropDuplicates_eq_self_iff hkeys
    · have hsame := Preparation.eq_dropDuplicates_of_settles ht hprepared hsettles
      exact ⟨hsame, hsame ▸ Table.isDistinct_dropDuplicates (hsame ▸ hkeys)⟩

/-- Settings by which the days of sale are texts. -/
def daySettings : StoreSettings :=
  { salesSettings with
    preparation := { salesSettings.preparation with dateText := .text "Day", dateKey := .null } }

/-- Two sales on the same day, of which one is written with a blank. -/
def daySales : Table :=
  { columns := ["Day", "Sales"]
    rows := [[.text "1/1/2026", .int 5], [.text " 1/1/2026", .int 5]] }

/-- The two sales are one as soon as the store is given what it shows. -/
theorem set_shown_daySales :
    ∃ s' again : Store, setTable daySettings daySales {} = (.ok (), s') ∧
      s'.setTable daySettings { daySales with rows := [[.text "1/1/2026", .int 5], [.text "1/1/2026", .int 5]] } =
        (.ok (), again) ∧
      (again.load daySettings).1 = .ok { daySales with rows := [[.text "1/1/2026", .int 5]] } := by
  have hshape : daySales.IsRectangular := by
    simp [Table.IsRectangular, daySales]
  have hfirst : setTable daySettings daySales {} = (.ok (), _) := rfl
  obtain ⟨shown, again, hload, -, -, hset, hagain, -⟩ := set_shown hshape hfirst
  cases hload
  exact ⟨_, again, rfl, hset, congrArg Prod.fst hagain⟩

/-- A table that the store accepts can leave it showing one row twice, and the store does not stay the
same when it is given what it shows. -/
theorem set_shows_row_twice :
    ∃ (s' again : Store) (shown : Table), setTable daySettings daySales {} = (.ok (), s') ∧
      s'.load daySettings = (.ok shown, s') ∧ ¬ shown.IsDistinct ∧
      s'.setTable daySettings shown = (.ok (), again) ∧ (again.load daySettings).1 ≠ .ok shown := by
  refine ⟨_, _, _, rfl, rfl, fun hdistinct => ?_, rfl, by decide⟩
  cases (List.pairwise_cons.1 hdistinct).1 _ List.mem_cons_self

end Store

end MapFilter
