import MapFilter.Compilation
import MapFilter.Metric
import MapFilter.Style.Basic
import MapFilter.Text.Message

/-!
# Synchronising layers

A compiled filter and the paint of a metric go to every layer that shows the data. Layers are
independent of each other: one that cannot be written to is logged and reported, and the others
are written to all the same.

- `LayerHandle`: a layer as the synchroniser sees it, over a state in which writing takes effect
- `synchronize`: one pass over all layers
-/

namespace MapFilter

/-! ## §1 Handles -/

/-- Why a layer was not written to. -/
inductive LayerFault where
  | style (e : StyleError)
  | unsupported
  /-- A fault that a layer reports of itself, by its kind and perhaps what it is about. -/
  | reported (kind : String) (about : Option Value)
deriving DecidableEq

namespace LayerFault

def kind : LayerFault → String
  | .style (.missingSetting _) => "KeyError"
  | .style (.layerNotFound _) => "LayerNotFoundError"
  | .style (.noLayer _) => "AttributeError"
  | .style (.noEntries (.unpaired _ _)) => "ValueError"
  | .style _ => "TypeError"
  | .unsupported => "NotImplementedError"
  | .reported kind _ => kind

/-- What the fault is about, between quotes; empty if nothing is known. -/
def argument : LayerFault → String
  | .style (.missingSetting name) => Text.quoted name
  | .style (.layerNotFound id) => id.quoted
  | .style e => (e.message?.map Text.quoted).getD ""
  | .unsupported => ""
  | .reported _ about => (about.map Value.quoted).getD ""

/-- The message of the fault. The message about a missing key is the quoted key. -/
def message : LayerFault → String
  | .style (.missingSetting name) => Text.quoted name
  | .style (.layerNotFound id) => id.display
  | .style e => e.message?.getD ""
  | .unsupported => ""
  | .reported "KeyError" about => (about.map Value.quoted).getD ""
  | .reported _ about => (about.map Value.display).getD ""

/-- The text for a report: the message, or the kind if there is none. -/
def summary (fault : LayerFault) : String :=
  if fault.message.isEmpty then fault.kind else fault.message

/-- The fault as the log shows it. -/
def quoted (fault : LayerFault) : String :=
  fault.kind ++ "(" ++ fault.argument ++ ")"

end LayerFault

/-- A layer as the synchroniser sees it. Writing acts on a state and may fail; the state that a write
leaves behind is the layer's own affair, also where it fails. -/
structure LayerHandle (σ : Type) where
  id : Value
  type : Value
  setFilter : Value → σ → σ × Option LayerFault
  setPaint : String → Value → σ → σ × Option LayerFault

/-- The outcome of a write to a style, which is as it was if the write fails. -/
def Style.outcome (style : Style) : Except StyleError Style → Style × Option LayerFault
  | .ok written => (written, none)
  | .error e => (style, some (.style e))

def LayerHandle.ofStyle (id type : Value) : LayerHandle Style where
  id := id
  type := type
  setFilter filter style := style.outcome (style.setFilter id filter)
  setPaint name value style := style.outcome (style.setPaint id name value)

/-! ## §2 One layer -/

/-- Sets paint properties up to the first failure. Returns the state reached, and the failure. -/
def paintAll {σ : Type} (handle : LayerHandle σ) :
    List (String × Expression) → σ → σ × Option LayerFault
  | [], s => (s, none)
  | (name, value) :: rest, s =>
    match handle.setPaint name value.toValue s with
    | (s, none) => paintAll handle rest s
    | (s, some fault) => (s, some fault)

/-- Writes the filter, then the paint of the metric, up to the first failure. -/
def writeLayer {σ : Type} (filter : Value) (metric : Option (List FieldName))
    (handle : LayerHandle σ) (s : σ) : σ × Option LayerFault :=
  match handle.setFilter filter s with
  | (s, some fault) => (s, some fault)
  | (s, none) =>
    match metric with
    | none => (s, none)
    | some fields => paintAll handle (paintProperties handle.type fields) s

/-! ## §3 All layers -/

/-- Which layers were written to, and what went wrong with the others. -/
structure SyncReport where
  applied : List Value := []
  failed : Keyed String := []
deriving DecidableEq

/-- Why there is no report. -/
inductive SyncError where
  /-- The predicate has no expression. -/
  | unspecified
  /-- A layer that was not written to cannot be reported, since its id is no key. -/
  | noKey (e : NoKey)
deriving DecidableEq

namespace SyncReport

/-- Some layer was written to, or none had to be. -/
def ok (report : SyncReport) : Bool :=
  !report.applied.isEmpty || report.failed.isEmpty

/-- The report with a further layer that was written to. -/
def addSuccess (report : SyncReport) (id : Value) : SyncReport :=
  { report with applied := report.applied ++ [id] }

/-- The report with a further failure. The last failure of an id counts. -/
def addFailure (report : SyncReport) (id : Value) (text : String) : Except NoKey SyncReport :=
  (Keyed.insertKey report.failed id text).map fun failed => { report with failed := failed }

def toValue (report : SyncReport) : Value :=
  let failed : Keyed Value := report.failed.map fun (id, text) => (id, .text text)
  .object [("ok", .bool report.ok), ("applied", .list report.applied),
    ("failed", .object (failed.toObject Value.display))]

end SyncReport

/-- The warning about a layer that was not written to. -/
def faultEntry (id : Value) (fault : LayerFault) : LogEntry :=
  .warning "wlheat.layers"
    ("Layer " ++ id.display ++ " not updated (non-fatal): " ++ fault.quoted)

/-- Writes to every layer in turn, up to one that fails and cannot be reported. Returns the report,
the warnings and the final state. -/
def writeLayers {σ : Type} (filter : Value) (metric : Option (List FieldName)) :
    List (LayerHandle σ) → SyncReport × List LogEntry × σ →
      Except NoKey SyncReport × List LogEntry × σ
  | [], (report, logs, s) => (.ok report, logs, s)
  | handle :: rest, (report, logs, s) =>
    match writeLayer filter metric handle s with
    | (s, none) => writeLayers filter metric rest (report.addSuccess handle.id, logs, s)
    | (s, some fault) =>
      let logs := logs ++ [faultEntry handle.id fault]
      match report.addFailure handle.id fault.summary with
      | .ok report => writeLayers filter metric rest (report, logs, s)
      | .error e => (.error e, logs, s)

/-- Writes a predicate and the paint of a metric to every layer; no layer is touched if the
predicate has no expression. -/
def synchronize {σ : Type} (predicate : Predicate) (metric : Option (List FieldName))
    (handles : List (LayerHandle σ)) (s : σ) : Except SyncError SyncReport × List LogEntry × σ :=
  match predicate.toExpression? with
  | none => (.error .unspecified, [], s)
  | some filter =>
    let (report, logs, s) := writeLayers filter.toValue metric handles ({}, [], s)
    (report.mapError .noKey, logs, s)

end MapFilter
