import MapFilter.App.Basic
import MapFilter.Web.Request

/-!
# Replies

What the application answers to a request. Requests about filters carry selections: compiling shows
what would be written to the layers, applying writes it, now or when edits settle, and the summary
counts the features that satisfy it.

- `App.handle`: the reply to a request for a route, or its fault
- `App.respond`: the reply to any request
-/

namespace MapFilter

/-- A reply: its status, and its body if that is a JSON text. -/
structure Reply where
  status : Nat := 200
  body : Option Value := none
deriving DecidableEq

/-- Why a request has no reply of its own. -/
inductive RequestFault where
  /-- The body holds a value that is no object. -/
  | noObject
  | store (e : StoreError)
  | filters (e : FilterError)
  | weights (e : QuantityError)
  /-- The id of a layer or the field of a metric is a list or an object. -/
  | noKey (e : NoKey)
deriving DecidableEq

namespace App

/-! ## §1 Bodies -/

def object (entries : Record) : Reply :=
  { body := some (.object entries) }

/-- The reply to an edit that was applied, or was not. -/
def editReply (report : Option ApplyReport) (s : AppState) : Reply :=
  match report with
  | some report => object report.toRecord
  | none =>
    { object [("state", .text s.scheduler.phase.name), ("ok", .bool false)] with status := 500 }

/-- The reply to an edit that waits. -/
def pendingReply (s : AppState) : Reply :=
  { object [("state", .text s.scheduler.phase.name)] with status := 202 }

/-- The reply that shows what compiling gives, and the paint of the layers with it. -/
def compileReply (app : App) (report : ApplyReport) (paint : Value) : Reply :=
  object (report.toRecord ++
    [("metric_label", app.service.metrics.metricLabel report.metric), ("paint", paint)])

/-- What a summary is made of. -/
structure SummaryParts where
  counted : Summary
  /-- The weight of all rows that were counted. -/
  weight : Number
  /-- The metrics on offer, with their labels. -/
  available : Keyed Value

/-- The reply that counts features. -/
def summaryReply (app : App) (report : ApplyReport) (parts : SummaryParts) : Reply :=
  object
    [("rows", .int parts.counted.rows), ("total", .float parts.counted.total),
      ("weight", .float parts.weight), ("metric", .text report.metric.key),
      ("metric_label", app.service.metrics.metricLabel report.metric),
      ("metrics", .list (parts.available.map fun (key, label) =>
        .object [("key", key), ("label", label)])),
      ("diagnostics", .list (report.diagnostics.map Diagnostic.toValue))]

/-- The reply to a question about health. -/
def healthReply (size : Except StoreError (Nat × Nat)) (s : AppState) : Reply :=
  match size with
  | .ok (rows, columns) =>
    object [("ok", .bool true), ("rows", .int rows), ("cols", .int columns),
      ("scheduler", .text s.scheduler.phase.name)]
  | .error e => { object [("ok", .bool false), ("error", .text e.message)] with status := 500 }

/-! ## §2 Routes -/

/-- The parts of a compiled predicate. -/
def partsOf : Predicate → List Predicate
  | .all parts => parts
  | p => [p]

def summarize (app : App) (report : ApplyReport) (store : Store) :
    Except RequestFault SummaryParts × Store :=
  let parts := partsOf report.predicate
  match store.summarize app.store parts report.metricFields with
  | (.error e, store) => (.error (.store e), store)
  | (.ok counted, store) =>
    match store.select app.store parts with
    | (.error e, store) => (.error (.store e), store)
    | (.ok rows, store) =>
      match rows.weights report.metricFields with
      | .error e => (.error (.weights e), store)
      | .ok weights =>
        -- The metrics on offer depend on the columns of the whole table.
        match store.columns app.store with
        | (.error e, store) => (.error (.store e), store)
        | (.ok columns, store) =>
          match app.service.metrics.available (columns.map .text) with
          | .error e => (.error (.noKey e), store)
          | .ok available => (.ok ⟨counted, Number.sum weights, available⟩, store)

/-- The reply to an edit. An edit that is not immediate is answered before it is applied. -/
def handleEdit (app : App) (immediate : Bool) (state : FilterState) (s : AppState) :
    Reply × AppState :=
  if immediate then
    let (report, s) := app.applyNow state s
    (editReply report s, s)
  else
    let s := submit state s
    (pendingReply s, s)

/-- The reply to a question about compiled selections: what they compile to, or what they count. -/
def handlePreview (app : App) (counts : Bool) (state : FilterState) (s : AppState) :
    Except RequestFault Reply × AppState :=
  match app.preview state s.filters with
  | (.error e, filters) => (.error (.filters e), { s with filters := filters })
  | (.ok report, filters) =>
    if counts then
      let (parts, store) := app.summarize report filters.provider
      (parts.map (app.summaryReply report), { s with filters := withStore filters store })
    else
      let paint := (app.service.paint report.metricFields).mapError .noKey
      (paint.map (app.compileReply report), { s with filters := filters })

/-- The reply to a request that carries selections. -/
def handleFilters (app : App) (route : Route) (immediate : Bool) (state : FilterState)
    (s : AppState) : Except RequestFault Reply × AppState :=
  match route with
  | .apply =>
    let (reply, s) := app.handleEdit immediate state s
    (.ok reply, s)
  | .summary => app.handlePreview true state s
  | _ => app.handlePreview false state s

/-- A fault of the source of features as a fault of a request. -/
def sourceFault : SourceError → RequestFault
  | .store e => .store e
  | .probe e => .filters (.probe e)

/-- The reply to a request about data. -/
def handleReload (app : App) (s : AppState) :
    Except RequestFault Reply × AppState :=
  let (capability, filters) := app.reload s.filters
  let s := { s with filters := filters }
  match capability with
  | .ok capability =>
    (.ok (object [("source", app.service.source),
      ("generation", generation filters), ("capability", capability.toValue)]), s)
  | .error e => (.error (sourceFault e), s)

/-- The reply to a request for a route. -/
def handle (app : App) (route : Route) (request : Request) (s : AppState) :
    Except RequestFault Reply × AppState :=
  match route with
  | .compile | .apply | .summary =>
    match Payload.toState? request.payload with
    | some state => app.handleFilters route request.isImmediate state s
    | none => (.error .noObject, s)
  | .clear =>
    let (report, s) := app.applyNow {} s
    (.ok (editReply report s), s)
  | .reload => app.handleReload s
  | .health =>
    let (size, store) := s.filters.provider.size app.store
    let s := { s with filters := withStore s.filters store }
    (.ok (healthReply size s), s)
  | .style => (.ok { body := some s.filters.style.toValue }, s)
  | .asset => (.ok { status := 404 }, s)

/-! ## §3 Requests -/

/-- The reply to any request. A fault is answered as such, unless it is to be passed on. -/
def respond (app : App) (request : Request) (s : AppState) :
    Except RequestFault Reply × AppState :=
  match request.destination with
  | .unknown => (.ok { status := 404 }, s)
  | .moved => (.ok { status := 308 }, s)
  | .route _ .refused => (.ok { status := 405 }, s)
  | .route _ .options => (.ok {}, s)
  | .route route access =>
    match app.handle route request s with
    | (.ok reply, s) => (.ok (if access = .head then { reply with body := none } else reply), s)
    | (.error fault, s) => (if app.passesFaults then .error fault else .ok { status := 500 }, s)

end App

end MapFilter
