import MapFilter.Value.Keyed
import MapFilter.Value.Reading

/-!
# Style documents

The map draws what its style document says. Each layer of the document has an id, a filter, and
paint properties, and only these two change when selections change.

A document may come from elsewhere, so a layer may lack any of these, and several layers may have
one id. The layer with an id is the first one that has it. What stands where layers belong may be
something else; it stays as it is, and it fails who looks for a layer and meets it.

- `Style.ofSettings`: the document for configured layers
- `Style.setFilter`, `Style.setPaint`: writing to one layer
-/

namespace MapFilter

/-! ## §1 Documents -/

/-- A style document: what stands where its layers belong, normally a list of objects, and
everything else that stands in it. -/
structure Style where
  settings : Record
  layers : Value
deriving DecidableEq

/-- Why a document cannot be made, read or written. -/
inductive StyleError where
  /-- A configured layer lacks a setting. -/
  | missingSetting (name : String)
  /-- No layer has the id. -/
  | layerNotFound (id : Value)
  /-- The paint properties of a layer are no object. -/
  | unusablePaint (paint : Value)
  /-- Something else stands where a layer belongs. -/
  | noLayer (v : Value)
  /-- What stands where layers belong lists nothing. -/
  | noLayers (v : Value)
  /-- A document is neither an object nor a list of pairs. -/
  | noEntries (e : EntriesError)
  /-- Settings are of the wrong kind. -/
  | malformed
deriving DecidableEq

/-- The message of the error, where it says more than what it is about. -/
def StyleError.message? : StyleError → Option String
  | .unusablePaint (.list _) => some "list indices must be integers or slices, not str"
  | .unusablePaint v => some ("'" ++ v.kindName ++ "' object does not support item assignment")
  | .noLayer v => some ("'" ++ v.kindName ++ "' object has no attribute 'get'")
  | .noLayers v => some ("'" ++ v.kindName ++ "' object is not iterable")
  | .noEntries e => e.message?
  | .missingSetting _ | .layerNotFound _ | .malformed => none

namespace Style

/-- A document with an empty value for every part it lacks. -/
def ofDocument (document : Record) : Style :=
  let settings : Record := document.filter fun entry => entry.1 != "layers"
  { settings := (settings.insertNew "version" (.int 8)).insertNew "sources" (.object [])
    layers := (document.get? "layers").getD (.list []) }

/-- The document in a value: an object, or a list of pairs. A value that counts as absent is an
empty document. -/
def ofValue (v : Value) : Except StyleError Style :=
  if !v.isTruthy then .ok (ofDocument [])
  else
    match v.entries with
    | .ok entries => .ok (ofDocument (entries.toObject Value.display))
    | .error e => .error (.noEntries e)

def toValue (style : Style) : Value :=
  .object (style.settings ++ [("layers", style.layers)])

/-! ## §2 Configured layers -/

/-- A setting that a layer must have. -/
def setting (spec : Value) (name : String) : Except StyleError Value :=
  match spec with
  | .object entries =>
    match entries.lookup name with
    | some v => .ok v
    | none => .error (.missingSetting name)
  | _ => .error .malformed

def idAndType (spec : Value) : Except StyleError (Value × Value) := do
  let id ← setting spec "id"
  let type ← setting spec "type"
  return (id, type)

/-- The zoom limits of a layer, by its type. -/
def zoomLimits (settings : Record) (type : Value) : Record :=
  if type = .text "heatmap" then
    [("maxzoom", (settings.get? "HEATMAP_MAX_ZOOM").getD (.int 10))]
  else if type = .text "circle" then
    [("minzoom", (settings.get? "POINTS_MIN_ZOOM").getD (.float (.finite (mkRat 29 4))))]
  else []

/-- The source of the layers. -/
def sourceOf (settings : Record) : Value :=
  (settings.get? "SOURCE_ID").getD (.text "wl-src")

/-- A layer as it is configured: unfiltered and without paint properties. -/
def freshLayer (settings : Record) (id type : Value) : Record :=
  [("id", id), ("type", type), ("source", sourceOf settings),
    ("source-layer", (settings.get? "SOURCE_LAYER").getD (.text "")),
    ("filter", .list [.text "all"]), ("paint", .object [])]
  ++ zoomLimits settings type

def idsAndTypes (specs : Value) : Except StyleError (List (Value × Value)) :=
  match specs.items? with
  | some specs => specs.mapM idAndType
  | none => .error .malformed

def configuredLayers (settings : Record) : Except StyleError (List (Value × Value)) :=
  idsAndTypes ((settings.get? "LAYERS").getD (.list []))

/-- The document for configured layers. The source of the layers must be a key, and `name` gives the
name of a key that is no text. -/
def ofSettings (name : Value → String) (settings : Record) : Except StyleError Style :=
  match configuredLayers settings with
  | .error e => .error e
  | .ok specs =>
    let url := "mapbox://" ++ ((settings.get? "TILESET_ID").getD (.text "")).display
    let source : Value := .object [("type", .text "vector"), ("url", .text url)]
    if (sourceOf settings).isKey then
      .ok
        { settings := [("version", .int 8),
            ("sources", .object [(name (sourceOf settings), source)])]
          layers := .list (specs.map fun spec => .object (freshLayer settings spec.1 spec.2)) }
    else .error .malformed

/-! ## §3 Layers -/

/-- What stands in the places of the layers. -/
def items (style : Style) : Except StyleError (List Value) :=
  match style.layers.items? with
  | some items => .ok items
  | none => .error (.noLayers style.layers)

/-- The layer in a place. -/
def layerOf : Value → Except StyleError Record
  | .object layer => .ok layer
  | v => .error (.noLayer v)

def layerId (layer : Record) : Value :=
  (layer.get? "id").getD .null

def layerIds (style : Style) : Except StyleError (List Value) := do
  let layers ← (← style.items).mapM layerOf
  return layers.map layerId

def hasId (id : Value) (layer : Record) : Bool :=
  (layerId layer).same id

/-- The first layer that has the id, as far as layers have to be looked at. -/
def find? (id : Value) : List Value → Except StyleError (Option Record)
  | [] => .ok none
  | item :: rest =>
    match layerOf item with
    | .ok layer => if hasId id layer then .ok (some layer) else find? id rest
    | .error e => .error e

def layer (style : Style) (id : Value) : Except StyleError Record := do
  match ← find? id (← style.items) with
  | some layer => return layer
  | none => throw (.layerNotFound id)

def hasLayer (style : Style) (id : Value) : Except StyleError Bool := do
  return (← find? id (← style.items)).isSome

def removeLayer (style : Style) (id : Value) : Except StyleError Style := do
  let layers ← (← style.items).mapM layerOf
  let others := layers.filter fun layer => !hasId id layer
  return { style with layers := .list (others.map .object) }

/-! ## §4 Writing to a layer -/

/-- Changes the first layer that has the id. -/
def updateFirst (id : Value) (f : Record → Except StyleError Record) :
    List Value → Except StyleError (List Value)
  | [] => .error (.layerNotFound id)
  | item :: rest =>
    match layerOf item with
    | .ok layer =>
      if hasId id layer then (f layer).map fun layer => .object layer :: rest
      else (updateFirst id f rest).map (item :: ·)
    | .error e => .error e

/-- A layer with another filter. -/
def filterLayer (filter : Value) (layer : Record) : Except StyleError Record :=
  .ok (layer.insert "filter" filter)

/-- A layer with a paint property. A layer without paint properties gets them. -/
def paintLayer (name : String) (value : Value) (layer : Record) : Except StyleError Record :=
  match (layer.get? "paint").getD (.object []) with
  | .object paint => .ok (layer.insert "paint" (.object (Record.insert paint name value)))
  | other => .error (.unusablePaint other)

/-- The document with one layer changed. -/
def update (style : Style) (id : Value) (f : Record → Except StyleError Record) :
    Except StyleError Style := do
  let layers ← updateFirst id f (← style.items)
  return { style with layers := .list layers }

/-- The document with another filter on a layer. -/
def setFilter (style : Style) (id filter : Value) : Except StyleError Style :=
  style.update id (filterLayer filter)

/-- The document with a paint property on a layer. -/
def setPaint (style : Style) (id : Value) (name : String) (value : Value) :
    Except StyleError Style :=
  style.update id (paintLayer name value)

end Style

end MapFilter
