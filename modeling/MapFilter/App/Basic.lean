import MapFilter.Metric
import MapFilter.Scheduler
import MapFilter.Selection
import MapFilter.Service
import MapFilter.Store.Query

/-!
# The application

All parts wired together: the store provides the records that the probe looks at, the filter
service compiles for what the probe found and writes to the style, and the scheduler applies edits
through the filter service.

- `App.ofSettings`: the parts that settings ask for
- `App.start`: their state before the first request
- `App.applyNow`, `submit`, `flush`, `cancel`: what becomes of an edit
-/

namespace MapFilter

/-! ## §1 Parts -/

/-- The application: what its parts are set up with. -/
structure App where
  service : FilterService
  store : StoreSettings
  /-- How many records the store hands to the probe. -/
  sampleSize : Int
  /-- The style before anything is written to it. -/
  style : Style
  /-- Whether a fault in a request is passed on, for tests, instead of answered. -/
  passesFaults : Bool

/-- The state of the application's parts: the style, the probe and the store, and the edits that
wait. -/
structure AppState where
  filters : ServiceState Store
  scheduler : Scheduler FilterState ApplyReport := {}
  /-- Whether layers can be written to at all. -/
  layersReachable : Bool := true

/-- Why there is no application for some settings. -/
inductive AppError where
  | metrics (e : MetricsError)
  | style (e : StyleError)
  /-- The alternate date keys are no list of names. -/
  | noAlternates
  | sampleSize (e : SizeError)
  /-- The id of a layer is no text. -/
  | unnamedLayer
deriving DecidableEq

namespace App

def metricsOf (settings : Record) : Except AppError Metrics :=
  let setting (name : String) : Value := (settings.get? name).getD .null
  (Metrics.ofSettings (setting "METRICS") (setting "METRIC_FIELDS")).mapError .metrics

/-- A style error as an error of the application. -/
def ofStyle {α : Type} : Except StyleError α → Except AppError α
  | .ok a => .ok a
  | .error e => .error (.style e)

def sampleSizeOf (settings : Record) : Except AppError Int :=
  match ((settings.get? "PROBE_SAMPLE_SIZE").getD .null).toSize with
  | .ok n => .ok n
  | .error e => .error (.sampleSize e)

def fieldsOf (settings : Record) : Except AppError FieldMapping :=
  match FieldMapping.ofSettings? settings with
  | some fields => .ok fields
  | none => .error .noAlternates

/-- The most days that settings let a range span, if the setting is a number. -/
def limitOf (settings : Record) : Option DayLimit :=
  match settings.get? "MAX_ENUMERATED_DAYS" with
  | some v => DayLimit.ofValue? v
  | none => some defaultDayLimit

/-- The parts that settings ask for. Of several faults in the settings the first counts, in the
order in which the parts are made. -/
def ofSettings (settings : Record) : Except AppError App := do
  let metrics ← metricsOf settings
  let layers ← ofStyle (Style.configuredLayers settings)
  -- The style is answered as a JSON text.
  let style ← ofStyle (Style.ofSettings Value.jsonName settings)
  let fields ← fieldsOf settings
  let sampleSize ← sampleSizeOf settings
  -- Layers are announced by their names, so each of them must have one.
  let ids ← ofStyle style.layerIds
  if (ids.mapM Value.toText?).isNone then throw .unnamedLayer
  return {
    service :=
      { fields := fields
        limit := limitOf settings
        metrics := metrics
        source := Style.sourceOf settings
        layers := layers }
    store := StoreSettings.ofSettings settings
    sampleSize := sampleSize
    style := style
    passesFaults := ((settings.get? "TESTING").getD .null).isTruthy }

/-! ## §2 Start -/

/-- The probe before its first look. -/
def probe (app : App) : Probe :=
  Probe.make app.service.fields.dateKey app.service.fields.alternates app.sampleSize

/-- The metric that is shown before one is chosen. -/
def startMetric : Metric := .sales

/-- The state before the first request: nothing is filtered, and every layer shows the metric that
comes first. -/
def start (app : App) (files : Files) (remote : Remote) : AppState :=
  let fields := app.service.metrics.fieldNames startMetric
  let (_, _, style) := app.service.synchronize (.all []) fields app.style
  { filters :=
      { style := style
        probe := app.probe
        provider := { files := files, remote := remote } } }

/-! ## §3 Filters -/

/-- The store as the probe sees it. -/
def provider (app : App) : SampleProvider Store :=
  Store.provider app.store app.sampleSize

def generation (s : ServiceState Store) : Value :=
  .int s.provider.generation

def capability (app : App) (refresh : Bool) (s : ServiceState Store) :
    Except NoKey Capability × ServiceState Store :=
  let (capability, _, s) := app.service.capability app.provider ⟨generation s, 0⟩ refresh s
  (capability, s)

def preview (app : App) (state : FilterState) (s : ServiceState Store) :
    Except FilterError ApplyReport × ServiceState Store :=
  let (report, _, s) := app.service.preview app.provider ⟨generation s, 0⟩ state s
  (report, s)

/-- Applies selections to the layers; a failure comes to nothing. If no layer can be written to at
all, the selections are compiled and nothing comes of it. -/
def applyEdit (app : App) (reachable : Bool) :
    Callback FilterState ApplyReport (ServiceState Store) := fun state s =>
  if reachable then
    let (report, _, s) := app.service.apply app.provider ⟨generation s, 0⟩ state s
    .finish report.toOption s
  else
    let (_, s) := app.preview state s
    .finish none s

/-! ## §4 Edits -/

/-- The state after an operation of the scheduler, with what the operation yields. -/
def settle (s : AppState)
    (outcome : Outcome FilterState ApplyReport (ServiceState Store)) :
    Option ApplyReport × AppState :=
  (outcome.result, { s with filters := outcome.state, scheduler := outcome.scheduler })

def submit (state : FilterState) (s : AppState) : AppState :=
  { s with scheduler := (s.scheduler.submit state).1 }

/-- Applies an edit at once; what waits is dropped. -/
def applyNow (app : App) (state : FilterState) (s : AppState) :
    Option ApplyReport × AppState :=
  settle s (s.scheduler.applyNow (app.applyEdit s.layersReachable) state s.filters)

def flush (app : App) (s : AppState) : Option ApplyReport × AppState :=
  settle s (s.scheduler.flush (app.applyEdit s.layersReachable) s.filters)

/-- The timer of the edit that waits is over. -/
def elapse (app : App) (timer : Nat) (s : AppState) : AppState :=
  (settle s (s.scheduler.fire (app.applyEdit s.layersReachable) timer s.filters)).2

def cancel (s : AppState) : AppState :=
  { s with scheduler := s.scheduler.cancel }

/-! ## §5 Data -/

/-- Why it is not known what the features carry. -/
inductive SourceError where
  | store (e : StoreError)
  | probe (e : NoKey)
deriving DecidableEq

def withStore (s : ServiceState Store) (store : Store) : ServiceState Store :=
  { s with provider := store }

/-- Forgets the features, and looks at what they carry now. -/
def reload (app : App) (s : ServiceState Store) :
    Except SourceError Capability × ServiceState Store :=
  match s.provider.reload app.store with
  | (.error e, store) => (.error (.store e), withStore s store)
  | (.ok (), store) =>
    let s := { withStore s store with probe := s.probe.invalidate (some app.service.source) }
    let (capability, s) := app.capability true s
    (capability.mapError .probe, s)

/-- Loads the features and looks at what they carry, before the first request. -/
def warmUp (app : App) (s : ServiceState Store) :
    Except SourceError LogEntry × ServiceState Store :=
  match s.provider.size app.store with
  | (.error e, store) => (.error (.store e), withStore s store)
  | (.ok (rows, _), store) =>
    match app.capability false (withStore s store) with
    | (.error e, s) => (.error (.probe e), s)
    | (.ok capability, s) =>
      let found := if capability.hasDateKey then "present" else "absent"
      (.ok ⟨.info, "wlheat",
        "Warm start • " ++ toString rows ++ " row(s) • numeric date key " ++ found⟩, s)

end App

end MapFilter
