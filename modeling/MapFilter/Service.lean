import MapFilter.Capability
import MapFilter.Style.Sync

/-!
# Filter service

One filter cycle: find out what the features carry, compile the selections for it, and write the
result to the layers of the map.

- `FilterService.preview`: the compiled selections, without touching a layer
- `FilterService.apply`: the same, written to every layer
- `FilterService.paint`: the paint properties of every layer for a metric
-/

namespace MapFilter

/-! ## §1 Reports -/

/-- What a filter cycle did. -/
structure ApplyReport where
  metric : Metric
  predicate : Predicate
  metricFields : List FieldName
  capability : Capability
  diagnostics : List Diagnostic
  sync : Option SyncReport := none
deriving DecidableEq

/-- What the features carry, as an object of an answer. -/
def Capability.toValue (c : Capability) : Value :=
  .object [("has_numeric_date_key", .bool c.hasDateKey), ("resolved_fields", .list c.resolved),
    ("sampled", .bool c.sampled)]

namespace ApplyReport

/-- The filter expression as it stands in a style document. -/
def filter (report : ApplyReport) : Value :=
  match report.predicate.toExpression? with
  | some e => e.toValue
  | none => .null

/-- The report as the entries of an answer. -/
def toRecord (report : ApplyReport) : Record :=
  [("filter", report.filter), ("metric", .text report.metric.key),
    ("capability", report.capability.toValue),
    ("diagnostics", .list (report.diagnostics.map Diagnostic.toValue))]
  ++ match report.sync with
    | some sync => [("layers", sync.toValue)]
    | none => []

end ApplyReport

/-! ## §2 The service -/

/-- What a filter service is set up with. The layers are given by id and type. -/
structure FilterService where
  fields : FieldMapping
  /-- The most days of a range that is written out, if the setting is a number. -/
  limit : Option DayLimit
  metrics : Metrics
  source : Value
  layers : List (Value × Value)

/-- What a filter service works on: the style of the map, the probe, and the sample provider. -/
structure ServiceState (σ : Type) where
  style : Style
  probe : Probe
  provider : σ

/-- Why a filter cycle breaks off. -/
inductive FilterError where
  /-- A field, the source or the generation is a list or an object. -/
  | probe (e : NoKey)
  /-- The limit is needed and is no number. -/
  | noLimit
  | sync (e : SyncError)
deriving DecidableEq

namespace FilterService

variable {σ : Type}

def handles (service : FilterService) : List (LayerHandle Style) :=
  service.layers.map fun (id, type) => .ofStyle id type

/-- What the features carry at a generation of the data. -/
def capability (service : FilterService) (provider : SampleProvider σ) (generation : ProbeKey)
    (refresh : Bool) (s : ServiceState σ) :
    Except NoKey Capability × List LogEntry × ServiceState σ :=
  let answer := s.probe.get provider ⟨service.source, 0⟩ generation refresh s.provider
  (answer.capability, answer.logs,
    { s with probe := answer.probe, provider := answer.provider })

def report (service : FilterService) (state : FilterState) (capability : Capability)
    (compiled : Compiled) : ApplyReport :=
  { metric := state.metric
    predicate := compiled.predicate
    metricFields := service.metrics.fieldNames state.metric
    capability := capability
    diagnostics := compiled.diagnostics }

/-- Compiles selections without touching a layer. -/
def preview (service : FilterService) (provider : SampleProvider σ) (generation : ProbeKey)
    (state : FilterState) (s : ServiceState σ) :
    Except FilterError ApplyReport × List LogEntry × ServiceState σ :=
  match service.capability provider generation false s with
  | (.error e, logs, s) => (.error (.probe e), logs, s)
  | (.ok capability, logs, s) =>
    match compile? service.fields service.limit state capability with
    | some compiled => (.ok (service.report state capability compiled), logs ++ compiled.logs, s)
    | none => (.error .noLimit, logs, s)

/-- Writes a predicate and a metric to every layer of the style. -/
def synchronize (service : FilterService) (predicate : Predicate) (fields : List FieldName)
    (style : Style) : Except SyncError SyncReport × List LogEntry × Style :=
  MapFilter.synchronize predicate (some fields) service.handles style

/-- Compiles selections and writes the result to every layer. -/
def apply (service : FilterService) (provider : SampleProvider σ) (generation : ProbeKey)
    (state : FilterState) (s : ServiceState σ) :
    Except FilterError ApplyReport × List LogEntry × ServiceState σ :=
  match service.preview provider generation state s with
  | (.error e, logs, s) => (.error e, logs, s)
  | (.ok report, logs, s) =>
    let (sync, syncLogs, style) := service.synchronize report.predicate report.metricFields s.style
    let result : Except FilterError ApplyReport :=
      match sync with
      | .ok sync => .ok { report with sync := some sync }
      | .error e => .error (.sync e)
    (result, logs ++ syncLogs, { s with style := style })

/-- The paint properties of every layer for a metric, by the id of the layer, which must be a
key. -/
def paint (service : FilterService) (fields : List FieldName) : Except NoKey Value :=
  let properties (type : Value) : Value :=
    .object ((paintProperties type fields).map fun (name, value) => (name, value.toValue))
  let entries : Except NoKey (Keyed Value) := service.layers.foldlM
    (fun acc (id, type) => Keyed.insertKey acc id (properties type)) []
  entries.map fun entries => .object (entries.toObject Value.display)

end FilterService

end MapFilter
