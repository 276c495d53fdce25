import MapFilter.Proofs.App.Cycle
import MapFilter.Proofs.App.Wiring
import MapFilter.Proofs.Store.Loading

/-!
# The service compiles for what the features carry now

The probe remembers what it found under the generation of the features, and the generation does not
grow with every change: not when features are loaded, and not when a table replaces nothing. What is
remembered is right all the same. It was found with features in memory, and from there only a
replacement or a reload leads to other features, both of which make the generation grow.

That rests on replacements being carried out. One that is broken off has put its features into memory
and does not make the generation grow.

- `DataEvent`, `App.Reachable`: what happens to the service and the store, in any order
- `Store.Leads`: from one store to a later one without an unnoticed change
- `App.Coherent`: what is remembered for the present generation is what a fresh look finds
- `App.cycle_isFresh`: previews and applications compile for what a fresh look finds
-/

namespace MapFilter

/-! ## §1 Looking at the features in memory -/

/-- The features in memory as records, if they belong to the source. -/
def Store.recordsOf (settings : StoreSettings) (source : Value) (s : Store) : List Record :=
  if StoreSettings.isSource settings source then (s.table.map Table.offered).getD [] else []

@[simp]
theorem Probe.inspect_nil (probe : Probe) : probe.inspect [] = .ok .unknown := by
  simp [inspect]

namespace App

/-- What the probe finds in the features in memory. -/
def look (app : App) (s : Store) : Except NoKey Capability :=
  app.probe.inspect (s.recordsOf app.store app.service.source)

/-- What a fresh look through the sample provider finds. It loads the features if need be. -/
def detect (app : App) (s : Store) : Except NoKey Capability :=
  (app.probe.detect app.provider app.service.source s).1

/-- The store after a look through the sample provider. -/
def sampled (app : App) (s : Store) : Store :=
  (app.provider app.service.source s).2

end App

/-! ## §2 Events -/

/-- What happens to the service and its store. -/
inductive DataEvent where
  | preview (state : FilterState)
  | apply (state : FilterState)
  | capability (refresh : Bool)
  | load
  | replace (t : Table)
  | reload
  /-- The features are forgotten, and what they carry now is found out. -/
  | renew
  /-- The exported files and the remote export change. -/
  | change (files : Files) (remote : Remote)

namespace App

def occur (app : App) (s : ServiceState Store) : DataEvent → ServiceState Store
  | .preview state => (app.preview state s).2
  | .apply state => (app.apply state s).2
  | .capability refresh => (app.capability refresh s).2
  | .load => withStore s (s.provider.load app.store).2
  | .replace t => withStore s (s.provider.setTable app.store t).2
  | .reload => withStore s (s.provider.reload app.store).2
  | .renew => (app.reload s).2
  | .change files remote => withStore s { s.provider with files := files, remote := remote }

/-- No replacement of features is broken off in an event. -/
def IsUnbroken (app : App) (s : ServiceState Store) : DataEvent → Prop
  | .preview _ | .apply _ | .capability _ | .load => s.provider.LoadsCleanly app.store
  | .replace t => (s.provider.setTable app.store t).1 = .ok ()
  | .renew => Store.LoadsCleanly app.store (s.provider.reload app.store).2
  | .reload | .change _ _ => True

/-- The states that unbroken events lead to, in any order and number. At the start nothing is in
memory; the database file may be that of an earlier store. -/
inductive Reachable (app : App) : ServiceState Store → Prop where
  | start (style : Style) (files : Files) (disk : Relation) (remote : Remote) :
    Reachable app
      { style := style, probe := app.probe
        provider := { files := files, disk := disk, remote := remote } }
  | step {s : ServiceState Store} (e : DataEvent) :
    Reachable app s → app.IsUnbroken s e → Reachable app (app.occur s e)

end App

/-! ## §3 Stores that lead to each other -/

namespace Store

variable {settings : StoreSettings} {s s' : Store}

/-- Features in memory are in the open database as well. -/
def IsStored (s : Store) : Prop :=
  s.table.isSome → ∃ t, s.connection = some (.table t)

/-- From one store to a later one without an unnoticed change of features. -/
structure Leads (s s' : Store) : Prop where
  noticed : s.generation < s'.generation ∨
    s'.generation = s.generation ∧ (s.table = none ∨ s'.table = s.table)
  isStored : s'.IsStored

theorem Leads.refl (h : s.IsStored) : s.Leads s :=
  ⟨.inr ⟨rfl, .inr rfl⟩, h⟩

/-- Loading brings features into memory if there are none, and only then. -/
theorem Leads.load (hs : s.IsStored) (hclean : s.LoadsCleanly settings) :
    s.Leads (s.load settings).2 := by
  have hcases := cleanOutcome_load hclean
  generalize s.load settings = outcome at hcases
  cases hcases with
  | kept => exact .refl hs
  | found htable _ hconnection hgeneration =>
    exact ⟨.inr ⟨hgeneration, .inl htable⟩, fun _ => ⟨_, hconnection⟩⟩
  | empty htable hempty hgeneration =>
    exact ⟨.inr ⟨hgeneration, .inl htable⟩, by simp [IsStored, hempty]⟩
  | failed htable hempty hgeneration =>
    exact ⟨.inr ⟨hgeneration, .inl htable⟩, by simp [IsStored, hempty]⟩

/-- A replacement that is carried out makes the generation grow, unless it replaces nothing. -/
theorem Leads.setTable {t : Table} (h : (s.setTable settings t).1 = .ok ()) :
    s.Leads (s.setTable settings t).2 := by
  have hcases := setTable_cases settings t s
  generalize s.setTable settings t = outcome at hcases h
  cases hcases with
  | replaced _ hconnection hgeneration =>
    refine ⟨?_, fun _ => ⟨_, hconnection⟩⟩
    cases htable : s.table with
    | some _ => exact .inl (by simp [hgeneration, htable])
    | none => exact .inr ⟨by simp [hgeneration, htable], .inl rfl⟩
  | refused => cases h
  | closed => cases h

/-- A reload makes the generation grow. One that fails found no features to forget. -/
theorem Leads.reload (hs : s.IsStored) : s.Leads (s.reload settings).2 := by
  have hcases := reload_cases settings s
  generalize s.reload settings = outcome at hcases
  cases hcases with
  | forgotten htable hgeneration =>
    exact ⟨.inl (by simp [hgeneration]), by simp [IsStored, htable]⟩
  | refused hconnection htable hgeneration =>
    refine ⟨.inr ⟨hgeneration, .inl ?_⟩, by simp [IsStored, htable]⟩
    cases hmemory : s.table with
    | none => rfl
    | some t =>
      obtain ⟨stored, hstored⟩ := hs (by simp [hmemory])
      rw [hconnection] at hstored
      cases hstored

end Store

/-! ## §4 Looking through the sample provider -/

namespace App

variable {app : App} {s : Store}

/-- A look loads the features if they are those of the source, and changes nothing else. -/
theorem sampled_eq (app : App) (s : Store) :
    app.sampled s =
      if Store.StoreSettings.isSource app.store app.service.source then (s.load app.store).2
      else s := by
  unfold sampled provider Store.provider Store.sample
  cases Store.StoreSettings.isSource app.store app.service.source with
  | false => rfl
  | true =>
    simp only [if_true]
    cases (s.load app.store).1 <;> rfl

theorem generation_sampled (app : App) (s : Store) :
    (app.sampled s).generation = s.generation := by
  rw [sampled_eq]
  split
  · exact Store.generation_load app.store s
  · rfl

theorem leads_sampled (hs : s.IsStored) (hclean : s.LoadsCleanly app.store) :
    s.Leads (app.sampled s) := by
  rw [sampled_eq]
  split
  · exact .load hs hclean
  · exact .refl hs

/-- The sample is as large as what the probe looks at. -/
theorem inspect_take (hsize : 0 < app.sampleSize) (records : List Record) :
    app.probe.inspect (records.take app.sampleSize.toNat) = app.probe.inspect records := by
  have hprobe : app.probe.sampleSize = app.sampleSize.toNat := by
    simp only [probe, Probe.make]
    omega
  simp only [Probe.inspect, hprobe, List.take_take, Nat.min_self]

/-- A fresh look finds what the features carry that are in memory after it. -/
theorem detect_eq_look (hsize : 0 < app.sampleSize) (hclean : s.LoadsCleanly app.store) :
    app.detect s = app.look (app.sampled s) := by
  unfold detect look Probe.detect sampled provider Store.provider Store.sample Store.recordsOf
  cases Store.StoreSettings.isSource app.store app.service.source with
  | false => rfl
  | true =>
    simp only [if_true]
    have hcases := Store.cleanOutcome_load hclean
    generalize s.load app.store = outcome at hcases
    cases hcases with
    | kept htable =>
      simp only [Except.map, htable]
      exact inspect_take hsize _
    | found _ htable =>
      simp only [Except.map, htable]
      exact inspect_take hsize _
    | empty _ htable =>
      simp only [Except.map, htable]
      exact inspect_take hsize []
    | failed _ htable =>
      -- A sample that fails is as good as none, and nothing is in memory either.
      simp only [Except.map, htable, Option.map_none, Option.getD_none]
      exact app.probe.inspect_nil.symm

theorem look_congr {s' : Store} (h : s'.table = s.table) : app.look s' = app.look s := by
  simp only [look, Store.recordsOf, h]

theorem isSome_table_of_look {c : Capability} (h : app.look s = .ok c) (hc : c.sampled = true) :
    s.table.isSome = true := by
  cases htable : s.table with
  | some t => rfl
  | none =>
    have hunknown : app.look s = .ok .unknown := by simp [look, Store.recordsOf, htable]
    rw [hunknown] at h
    cases h
    cases hc

/-! ## §5 What is remembered -/

/-- What is remembered was found at a generation that is not over yet or is past, and if it is not
over, a look at the features finds it still. -/
structure Coherent (app : App) (s : ServiceState Store) : Prop where
  probe_eq : s.probe = { app.probe with cache := s.probe.cache }
  remembered : ∀ e ∈ s.probe.cache, ∃ g : Nat,
    e.generation = ⟨.int g, 0⟩ ∧ g ≤ s.provider.generation ∧
      (g = s.provider.generation →
        s.provider.table.isSome = true ∧ app.look s.provider = .ok e.capability)
  isStored : s.provider.IsStored

namespace Coherent

variable {s : ServiceState Store}

/-- A store that goes on without an unnoticed change keeps what is remembered right. -/
theorem lead {store : Store} (hc : app.Coherent s) (h : s.provider.Leads store) :
    app.Coherent (withStore s store) := by
  refine ⟨hc.probe_eq, fun e he => ?_, h.isStored⟩
  obtain ⟨g, hgeneration, hle, hpresent⟩ := hc.remembered e he
  refine ⟨g, hgeneration, ?_⟩
  obtain hgrown | ⟨hsame, htable⟩ := h.noticed
  · -- Everything that is remembered is of the past now.
    exact ⟨by simp only [withStore]; omega, fun hnow => by simp only [withStore] at hnow; omega⟩
  · refine ⟨by simp only [withStore]; omega, fun hnow => ?_⟩
    obtain ⟨hmemory, hlook⟩ := hpresent (hnow.trans hsame)
    obtain hnone | hkept := htable
    · simp [hnone] at hmemory
    · exact ⟨by simpa only [withStore, hkept] using hmemory, (look_congr hkept).trans hlook⟩

theorem invalidate (hc : app.Coherent s) (source : Option Value) :
    app.Coherent { s with probe := s.probe.invalidate source } := by
  cases source with
  | none => exact ⟨by rw [hc.probe_eq]; rfl, by simp [Probe.invalidate], hc.isStored⟩
  | some id =>
    exact ⟨by rw [hc.probe_eq]; rfl, fun e he => hc.remembered e (List.mem_filter.1 he).1,
      hc.isStored⟩

/-- What a look at features in memory finds may be remembered for the present generation. -/
theorem remember {c : Capability} (hc : app.Coherent s) (source : ProbeKey)
    (htable : s.provider.table.isSome = true) (hlook : app.look s.provider = .ok c) :
    app.Coherent { s with probe := s.probe.remember source ⟨generation s, 0⟩ c } := by
  refine ⟨by rw [hc.probe_eq]; rfl, fun e he => ?_, hc.isStored⟩
  simp only [Probe.remember, List.mem_append, List.mem_singleton] at he
  obtain hold | rfl := he
  · exact hc.remembered e (List.mem_filter.1 (List.mem_filter.1 hold).1).1
  · exact ⟨s.provider.generation, rfl, Nat.le_refl _, fun _ => ⟨htable, hlook⟩⟩

end Coherent

/-! ## §6 The answer of the probe -/

variable {s : ServiceState Store}

/-- What is remembered for the present generation. -/
def remembered (app : App) (s : ServiceState Store) : Option Capability :=
  (s.probe.cache.find? (ProbeEntry.isFor ⟨app.service.source, 0⟩ ⟨generation s, 0⟩)).map
    ProbeEntry.capability

theorem cached_eq (hsource : app.service.source.isKey = true) :
    s.probe.cached ⟨app.service.source, 0⟩ ⟨generation s, 0⟩ = .ok (app.remembered s) := by
  have hgeneration : (generation s).isKey = true := rfl
  simp [Probe.cached, ProbeKey.isKey, hsource, hgeneration, remembered]

theorem eq_of_isSame_generation {g n : Nat} (h : ProbeKey.isSame ⟨.int g, 0⟩ ⟨.int n, 0⟩ = true) :
    g = n := by
  simp only [ProbeKey.isSame, Value.same, Value.toExact?, Number.same, Number.toRat] at h
  have hrat : ((g : Int) : Rat) = ((n : Int) : Rat) := by simpa using h
  exact Int.ofNat.inj (Rat.intCast_inj.1 hrat)

namespace Coherent

theorem of_remembered {c : Capability} (hc : app.Coherent s) (h : app.remembered s = some c) :
    s.provider.table.isSome = true ∧ app.look s.provider = .ok c := by
  simp only [App.remembered, Option.map_eq_some_iff] at h
  obtain ⟨e, hfind, rfl⟩ := h
  obtain ⟨g, hgeneration, -, hpresent⟩ := hc.remembered e (List.mem_of_find?_eq_some hfind)
  have hfor := List.find?_some hfind
  simp only [ProbeEntry.isFor, hgeneration, Bool.and_eq_true] at hfor
  exact hpresent (eq_of_isSame_generation hfor.2)

/-- A renewed answer is what a fresh look finds, and may be remembered. -/
theorem renew (hc : app.Coherent s) (hsource : app.service.source.isKey = true)
    (hsize : 0 < app.sampleSize) (hclean : s.provider.LoadsCleanly app.store) :
    ∃ logs probe,
      s.probe.renew app.provider ⟨app.service.source, 0⟩ ⟨generation s, 0⟩ s.provider =
        ⟨app.detect s.provider, logs, probe, app.sampled s.provider⟩ ∧
      app.Coherent { s with probe := probe, provider := app.sampled s.provider } := by
  have hlead := hc.lead (leads_sampled hc.isStored hclean)
  have hdetect : s.probe.detect app.provider app.service.source s.provider =
      (app.detect s.provider,
        Probe.sampleLogs app.service.source (app.provider app.service.source s.provider).1,
        app.sampled s.provider) := by
    rw [hc.probe_eq]
    rfl
  have hlook := detect_eq_look hsize hclean
  simp only [Probe.renew, hdetect, cached_eq hsource]
  generalize app.detect s.provider = found at hlook
  cases found with
  | error e => exact ⟨_, _, rfl, hlead⟩
  | ok c =>
    dsimp only
    cases hsampled : c.sampled with
    | false => exact ⟨_, _, rfl, hlead⟩
    | true =>
      have hremember := hlead.remember ⟨app.service.source, 0⟩
        (isSome_table_of_look hlook.symm hsampled) hlook.symm
      -- The look may have loaded the features, which leaves their generation as it was.
      have hgeneration : generation (withStore s (app.sampled s.provider)) = generation s := by
        simp only [generation, withStore, generation_sampled]
      rw [hgeneration] at hremember
      exact ⟨_, _, rfl, hremember⟩

/-- Whether it is remembered or not, the probe answers what a fresh look finds. -/
theorem capability (hc : app.Coherent s) (hsource : app.service.source.isKey = true)
    (hsize : 0 < app.sampleSize) (hclean : s.provider.LoadsCleanly app.store) (refresh : Bool) :
    (app.capability refresh s).1 = app.detect s.provider ∧
      app.detect s.provider = app.look (app.capability refresh s).2.provider ∧
      app.Coherent (app.capability refresh s).2 := by
  obtain ⟨logs, probe, hrenew, hrenewed⟩ := hc.renew hsource hsize hclean
  have hlook := detect_eq_look hsize hclean
  unfold App.capability FilterService.capability Probe.get
  cases refresh with
  | true =>
    simp only [if_true, hrenew]
    exact ⟨trivial, hlook, hrenewed⟩
  | false =>
    simp only [Bool.false_eq_true, if_false, cached_eq hsource]
    cases hremembered : app.remembered s with
    | none =>
      simp only [hrenew]
      exact ⟨trivial, hlook, hrenewed⟩
    | some c =>
      -- What is remembered was found in the features in memory, and a fresh look loads no others.
      obtain ⟨hmemory, hfound⟩ := hc.of_remembered hremembered
      obtain ⟨t, htable⟩ := Option.isSome_iff_exists.1 hmemory
      have hsampled : app.sampled s.provider = s.provider := by
        rw [sampled_eq, Store.load_of_table htable]
        split <;> rfl
      rw [hsampled] at hlook
      exact ⟨(hlook.trans hfound).symm, hlook, hc⟩

end Coherent

/-! ## §7 Runs -/

namespace Coherent

theorem occur {e : DataEvent} (hc : app.Coherent s) (hsource : app.service.source.isKey = true)
    (hsize : 0 < app.sampleSize) (he : app.IsUnbroken s e) : app.Coherent (app.occur s e) := by
  cases e with
  | preview state =>
    simp only [App.occur, preview_eq]
    exact (hc.capability hsource hsize he false).2.2
  | apply state =>
    -- Nothing that is remembered depends on the style.
    obtain ⟨-, -, hprobe, hremembered, hstored⟩ := hc.capability hsource hsize he false
    simp only [App.occur, apply_eq, preview_eq]
    exact ⟨hprobe, hremembered, hstored⟩
  | capability refresh => exact (hc.capability hsource hsize he refresh).2.2
  | load => exact hc.lead (.load hc.isStored he)
  | replace t => exact hc.lead (.setTable he)
  | reload => exact hc.lead (.reload hc.isStored)
  | change files remote => exact hc.lead ⟨.inr ⟨rfl, .inr rfl⟩, hc.isStored⟩
  | renew =>
    have hleads : s.provider.Leads (s.provider.reload app.store).2 := .reload hc.isStored
    have hlead := hc.lead hleads
    unfold App.occur App.reload
    simp only [IsUnbroken] at he
    generalize s.provider.reload app.store = outcome at hlead he
    obtain ⟨result, store⟩ := outcome
    cases result with
    | error e => exact hlead
    | ok _ =>
      exact ((hlead.invalidate (some app.service.source)).capability hsource hsize he true).2.2

end Coherent

theorem Reachable.coherent (hs : app.Reachable s) (hsource : app.service.source.isKey = true)
    (hsize : 0 < app.sampleSize) : app.Coherent s := by
  induction hs with
  | start style files disk remote =>
    exact ⟨rfl, fun e he => absurd he List.not_mem_nil, by simp [Store.IsStored]⟩
  | step e _ he ih => exact ih.occur hsource hsize he

/-- Whatever happened before, previews and applications compile for what a fresh look at the store
finds at that moment, and that is what the features carry that are in memory after it. -/
theorem cycle_isFresh {settings : Record} (hsettings : App.ofSettings settings = .ok app)
    (hsize : 0 < app.sampleSize) (hs : app.Reachable s)
    (hclean : s.provider.LoadsCleanly app.store) (state : FilterState) :
    (app.preview state s).1 = app.service.reportOf state (app.detect s.provider) ∧
      (app.apply state s).1 = (app.service.reportOf state (app.detect s.provider)).bind
        (app.service.written s.style) ∧
      app.detect s.provider = app.look (app.preview state s).2.provider ∧
      app.detect s.provider = app.look (app.apply state s).2.provider := by
  have hsource := (isWired_of_ofSettings hsettings).source_isKey
  obtain ⟨hanswer, hlook, -⟩ := (hs.coherent hsource hsize).capability hsource hsize hclean false
  simp only [apply_eq, preview_eq, hanswer]
  exact ⟨trivial, rfl, hlook, hlook⟩

/-- Features without a date key that were looked at already. -/
def keyless : ServiceState Store :=
  smallApp.occur
    (smallApp.occur { style := smallApp.style, probe := smallApp.probe, provider := {} }
      (.replace { columns := ["Branch"], rows := [[.text "North"]] }))
    (.preview {})

/-- Features with a date key, after others that were looked at. -/
def rekeyed : ServiceState Store :=
  smallApp.occur keyless (.replace { columns := ["Day"], rows := [[.int 20240105]] })

/-- What was remembered of the earlier features does not count for the present ones. -/
theorem cycle_isFresh_rekeyed :
    smallApp.Reachable rekeyed ∧ rekeyed.provider.LoadsCleanly smallApp.store ∧
      rekeyed.probe.cache.map ProbeEntry.capability = [⟨false, [], true⟩] ∧
      (smallApp.preview {} rekeyed).1 =
        smallApp.service.reportOf {} (.ok ⟨true, [.text "Day"], true⟩) := by
  have hstart : smallApp.Reachable
      { style := smallApp.style, probe := smallApp.probe, provider := {} } :=
    .start smallApp.style [] .nothing .unavailable
  have hkeyless : smallApp.Reachable keyless :=
    .step (.preview {}) (.step (.replace _) hstart rfl) (Store.loadsCleanly_of_table rfl)
  have hrekeyed : smallApp.Reachable rekeyed := .step (.replace _) hkeyless rfl
  have hclean : rekeyed.provider.LoadsCleanly smallApp.store := Store.loadsCleanly_of_table rfl
  exact ⟨hrekeyed, hclean, rfl,
    (cycle_isFresh ofSettings_smallSettings (by decide) hrekeyed hclean {}).1⟩

end App

end MapFilter
