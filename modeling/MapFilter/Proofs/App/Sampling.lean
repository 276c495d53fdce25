import MapFilter.Proofs.App.Preview

/-!
# How many records the probe gets to see

The setting of the sample size goes two ways. The probe looks at one record at least, whatever the
setting says; the store hands out as many as the setting says, and none if that is zero or less. So
the two agree for the sizes above zero only. For all others the features are never looked at, and
nothing is known of them however many there are. The same comes of a source that equals nothing, and of
rows that have no columns.

- `App.IsBlind`: the store hands out no records, whatever it has
- `App.cache_of_isBlind`: nothing is ever remembered then
- `App.capability_sees_rows_iff`: the sizes for which the first rows are looked at
-/

namespace MapFilter

/-! ## §1 Samples -/

/-- A key equals itself, unless it is not a number. -/
theorem Value.same_self_iff {v : Value} (h : v.isKey = true) :
    v.same v = true ↔ v ≠ .float .nan := by
  cases v with
  | float x => cases x <;> simp [same, toExact?, Number.same]
  | list items => cases h
  | object entries => cases h
  | _ => simp [same, toExact?, Number.same]

/-- As soon as there is a record, a probe whose fields are keys finds something out. -/
theorem Probe.exists_sampled (field : FieldName) (alternates : List FieldName) (size : Int)
    (hfields : ∀ name ∈ (make field alternates size).fields, name.isKey = true)
    {records : List Record} (h : records ≠ []) :
    ∃ c, (make field alternates size).inspect records = .ok c ∧ c.sampled = true := by
  obtain ⟨first, rest, rfl⟩ := List.exists_cons_of_ne_nil h
  obtain ⟨size', hsize⟩ : ∃ size', (make field alternates size).sampleSize = size' + 1 :=
    ⟨max size.toNat 1 - 1, by simp only [make]; omega⟩
  have hnone : ((make field alternates size).fields.find? fun name => !name.isKey) = none := by
    simpa using hfields
  rw [inspect, hsize, List.take_succ_cons, hnone]
  exact ⟨_, rfl, rfl⟩

namespace App

variable {app : App} {settings : Record} {s : ServiceState Store}

theorem sampleSize_of_ofSettings {n : Int} (h : ofSettings settings = .ok app)
    (hsize : settings.get? "PROBE_SAMPLE_SIZE" = some (.int n)) : app.sampleSize = n := by
  obtain ⟨metrics, -, h⟩ := bind_ok h
  obtain ⟨layers, -, h⟩ := bind_ok h
  obtain ⟨style, -, h⟩ := bind_ok h
  obtain ⟨fields, -, h⟩ := bind_ok h
  obtain ⟨sampleSize, hsampleSize, h⟩ := bind_ok h
  obtain ⟨ids, -, h⟩ := bind_ok h
  rw [sampleSizeOf, hsize] at hsampleSize
  cases hsampleSize
  split at h
  · cases h
  · cases h
    rfl

/-- The features are those of the source that the service asks for, if that equals itself. -/
theorem IsWired.isSource_iff (hwired : app.IsWired settings) :
    Store.StoreSettings.isSource app.store app.service.source = true ↔
      app.service.source ≠ .float .nan := by
  rw [Store.StoreSettings.isSource, hwired.store_eq, hwired.source_eq]
  have hsource : (StoreSettings.ofSettings settings).source = settings.get? "SOURCE_ID" := rfl
  have hkey := hwired.source_isKey
  rw [hwired.source_eq, Style.sourceOf] at hkey
  rw [hsource, Style.sourceOf]
  cases hset : settings.get? "SOURCE_ID" with
  | none => simp
  | some v =>
    rw [hset] at hkey
    simpa using Value.same_self_iff hkey

/-! ## §2 Stores that hand out nothing -/

/-- The store hands out no records, whatever it has. -/
def IsBlind (app : App) : Prop :=
  app.sampleSize ≤ 0 ∨ Store.StoreSettings.isSource app.store app.service.source = false

theorem IsBlind.offered_eq (h : app.IsBlind) (store : Store) : app.offered store = [] := by
  rw [App.offered_eq]
  rcases h with hsize | hsource
  · rw [Int.toNat_of_nonpos hsize, List.take_zero]
    split <;> rfl
  · rw [hsource, if_neg Bool.false_ne_true]

/-- Without records nothing is known, and nothing is remembered. -/
theorem IsBlind.capability (h : app.IsBlind) (hsource : app.service.source.isKey = true)
    (hcache : s.probe.cache = []) (refresh : Bool) :
    (app.capability refresh s).1 = .ok .unknown ∧ (app.capability refresh s).2.probe.cache = [] := by
  obtain ⟨hanswer, -, hprobe⟩ := renew_cases hsource s
  have hnothing : s.probe.inspect (app.offered s.provider) = .ok .unknown := by
    rw [h.offered_eq, Probe.inspect_nil]
  have hkept : (s.probe.renew app.provider ⟨app.service.source, 0⟩ ⟨generation s, 0⟩
      s.provider).probe.cache = [] := by
    obtain hsame | ⟨c, hc, hsampled, -⟩ := hprobe
    · rw [hsame, hcache]
    · -- What is remembered was found in records.
      cases hnothing.symm.trans hc
      cases hsampled
  have hremembered : app.remembered s = none := by rw [remembered, hcache]; rfl
  unfold App.capability FilterService.capability Probe.get
  rw [cached_eq hsource, hremembered]
  cases refresh <;> exact ⟨hanswer.trans hnothing, hkept⟩

theorem IsBlind.occur (h : app.IsBlind) (hsource : app.service.source.isKey = true)
    (hcache : s.probe.cache = []) (e : DataEvent) : (app.occur s e).probe.cache = [] := by
  cases e with
  | preview state =>
    simp only [App.occur, preview_eq]
    exact (h.capability hsource hcache false).2
  | apply state =>
    simp only [App.occur, apply_eq, preview_eq]
    exact (h.capability hsource hcache false).2
  | capability refresh => exact (h.capability hsource hcache refresh).2
  | load => exact hcache
  | replace t => exact hcache
  | reload => exact hcache
  | change files remote => exact hcache
  | renew =>
    -- What is forgotten of nothing is nothing.
    have hforgotten : (s.probe.invalidate (some app.service.source)).cache = [] := by
      rw [Probe.invalidate, hcache]
      rfl
    unfold App.occur App.reload
    generalize s.provider.reload app.store = outcome
    obtain ⟨result, store⟩ := outcome
    cases result with
    | error e => exact hcache
    | ok _ => exact (h.capability hsource hforgotten true).2

/-- Whatever happened before, nothing is remembered. -/
theorem cache_of_isBlind (h : app.IsBlind) (hsource : app.service.source.isKey = true)
    (hs : app.Reachable s) : s.probe.cache = [] := by
  induction hs with
  | start style files disk remote => rfl
  | step e _ _ ih => exact h.occur hsource ih e

/-! ## §3 The first rows -/

/-- Above zero, as many rows are looked at as the setting says. -/
theorem capability_of_pos (hwired : app.IsWired settings) (hsize : 0 < app.sampleSize)
    (hnumber : app.service.source ≠ .float .nan) (hs : app.Reachable s) {t : Table}
    (hload : (s.provider.load app.store).1 = .ok t) (refresh : Bool) :
    (app.capability refresh s).1 = app.probe.inspect (t.offered.take app.sampleSize.toNat) := by
  have hclean : s.provider.LoadsCleanly app.store := fun e he => by
    rw [hload] at he
    cases he
  have hsource := hwired.source_isKey
  have hcoherent := hs.coherent hsource hsize
  obtain ⟨logs, hdetect⟩ := app.detect_eq_inspect app.probe s.provider
  rw [(hcoherent.capability hsource hsize hclean refresh).1, detect, hdetect, App.offered_eq,
    if_pos (hwired.isSource_iff.2 hnumber), hload]
  rfl

/-- Whatever happened before, the probe answers for the first rows if the setting of the sample size
is above zero, the source equals itself and the rows have columns. Otherwise nothing is known of the
features. -/
theorem capability_sees_rows_iff {n : Int} (hsettings : ofSettings settings = .ok app)
    (hsize : settings.get? "PROBE_SAMPLE_SIZE" = some (.int n))
    (hfields : ∀ field ∈ app.probe.fields, field.isKey = true) (hs : app.Reachable s) {t : Table}
    (hload : (s.provider.load app.store).1 = .ok t) (hrows : t.rows ≠ []) (refresh : Bool) :
    ((∃ c, (app.capability refresh s).1 = .ok c ∧ c.sampled = true
        ∧ app.probe.inspect (t.records.take (max n 1).toNat) = .ok c) ↔
      0 < n ∧ app.service.source ≠ .float .nan ∧ t.columns ≠ [])
    ∧ (¬ (0 < n ∧ app.service.source ≠ .float .nan ∧ t.columns ≠ []) →
      (app.capability refresh s).1 = .ok .unknown) := by
  have hwired := isWired_of_ofSettings hsettings
  obtain rfl := sampleSize_of_ofSettings hsettings hsize
  have hunknown : ¬ (0 < app.sampleSize ∧ app.service.source ≠ .float .nan ∧ t.columns ≠ []) →
      (app.capability refresh s).1 = .ok .unknown := by
    intro hnot
    by_cases hblind : app.IsBlind
    · exact (hblind.capability hwired.source_isKey
        (cache_of_isBlind hblind hwired.source_isKey hs) refresh).1
    · -- The store hands out what it has, which is nothing without columns.
      simp only [IsBlind, not_or, Int.not_le, Bool.not_eq_false] at hblind
      obtain ⟨hpos, hsource⟩ := hblind
      have hnumber := hwired.isSource_iff.1 hsource
      have hcolumns : t.columns = [] := not_not.1 fun hcolumns => hnot ⟨hpos, hnumber, hcolumns⟩
      rw [capability_of_pos hwired hpos hnumber hs hload refresh, Table.offered, Table.isEmpty,
        hcolumns, List.isEmpty_nil, Bool.true_or, if_pos rfl, List.take_nil, Probe.inspect_nil]
  refine ⟨⟨?_, ?_⟩, hunknown⟩
  · rintro ⟨c, hc, hsampled, -⟩
    by_contra hnot
    cases hc.symm.trans (hunknown hnot)
    cases hsampled
  · rintro ⟨hpos, hnumber, hcolumns⟩
    have hoffered : t.offered = t.records := by
      rw [Table.offered, Table.isEmpty, if_neg (by simp [hcolumns, hrows])]
    have hanswer := capability_of_pos hwired hpos hnumber hs hload refresh
    rw [hoffered] at hanswer
    have hmax : max app.sampleSize 1 = app.sampleSize := by omega
    have hne : t.records.take app.sampleSize.toNat ≠ [] := by
      have hrecords : t.records ≠ [] := by simpa [Table.records] using hrows
      have hnat : app.sampleSize.toNat ≠ 0 := by omega
      simp [List.take_eq_nil_iff, hrecords, hnat]
    obtain ⟨c, hc, hsampled⟩ := Probe.exists_sampled _ _ _ hfields hne
    exact ⟨c, hanswer.trans hc, hsampled, by rw [hmax]; exact hc⟩

/-- A table with a day in each of two rows. -/
def daysTable : Table :=
  { columns := ["Day"], rows := [[.int 20240105], [.int 20240106]] }

/-- Two days are in memory, and the probe has not looked at them. -/
def unseenState (app : App) : ServiceState Store :=
  app.occur { style := app.style, probe := app.probe, provider := {} } (.replace daysTable)

theorem capability_sees_rows_iff_small :
    smallSettings.get? "PROBE_SAMPLE_SIZE" = some (.int 2) ∧ smallApp.Reachable smallApp.unseenState
      ∧ ∃ c, (smallApp.capability false smallApp.unseenState).1 = .ok c ∧ c.sampled = true
        ∧ smallApp.probe.inspect (daysTable.records.take (max 2 1 : Int).toNat) = .ok c := by
  have hreachable : smallApp.Reachable smallApp.unseenState :=
    .step (.replace daysTable) (.start smallApp.style [] .nothing .unavailable) rfl
  have hsize : smallSettings.get? "PROBE_SAMPLE_SIZE" = some (.int 2) := rfl
  exact ⟨hsize, hreachable, (capability_sees_rows_iff ofSettings_smallSettings hsize (by decide)
    hreachable rfl (by decide) false).1.2 ⟨by decide, by decide, by decide⟩⟩

/-- The settings of a small map with a sample size of zero. -/
def blindSettings : Record :=
  ("PROBE_SAMPLE_SIZE", .int 0) :: smallSettings

def blindApp : App :=
  { smallApp with sampleSize := 0 }

/-- With a sample size of zero nothing is known of the days in memory, of which the probe would see
the first. -/
theorem capability_sees_nothing_blind :
    App.ofSettings blindSettings = .ok blindApp
      ∧ blindSettings.get? "PROBE_SAMPLE_SIZE" = some (.int 0)
      ∧ blindApp.Reachable blindApp.unseenState
      ∧ (blindApp.unseenState.provider.load blindApp.store).1 = .ok daysTable
      ∧ (blindApp.capability false blindApp.unseenState).1 = .ok ⟨false, [], false⟩
      ∧ blindApp.probe.inspect (daysTable.records.take (max 0 1 : Int).toNat) =
        .ok ⟨true, [.text "Day"], true⟩ := by
  have hreachable : blindApp.Reachable blindApp.unseenState :=
    .step (.replace daysTable) (.start blindApp.style [] .nothing .unavailable) rfl
  exact ⟨rfl, rfl, hreachable, rfl, rfl, rfl⟩

end App

end MapFilter
