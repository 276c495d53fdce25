import Mathlib.Data.List.Basic
import MapFilter.Proofs.Style.Drawing
import MapFilter.Proofs.Style.Layers

/-!
# Where writes land

A write goes to the first layer that has an id. Which one that is, and whether it can be painted, no
write ever changes, so both can be read off the document before anything is written. What a pass
leaves in a place is then what stood there, drawn with all that the handles of that place bring.

- `Style.outline`: what no write changes about an item
- `Style.Seat`, `Style.seat`: the place of the layer that has an id
- `writeLayer_ofStyle`: writing to one layer is drawing in its place
- `writeLayers_ofStyle`: what a pass leaves behind
- `writeLayers_congr`: what a pass reports depends on outlines only
-/

namespace MapFilter

namespace Style

/-! ## §1 Outlines -/

/-- What no write changes about an item: the id of the layer, and paint properties that are no object;
or that the item is no layer. -/
abbrev Outline := Except StyleError (Value × Option Value)

def outline (item : Value) : Outline :=
  (layerOf item).map fun layer => (layerId layer, unusablePaint? layer)

def outlines (style : Style) : Except StyleError (List Outline) :=
  style.items.map (·.map outline)

/-- Where the layer with an id stands, and its paint properties if they are no object. -/
structure Seat where
  place : Nat
  unusable : Option Value
deriving DecidableEq

/-- The seat of the first layer that has the id, as far as layers have to be looked at. -/
def seatAmong (id : Value) : List Outline → Except StyleError Seat
  | [] => .error (.layerNotFound id)
  | .error e :: _ => .error e
  | .ok (other, unusable) :: rest =>
    if other.same id then .ok ⟨0, unusable⟩
    else (seatAmong id rest).map fun seat => { seat with place := seat.place + 1 }

def seat (style : Style) (id : Value) : Except StyleError Seat :=
  style.outlines.bind (seatAmong id)

variable {layer : Record} {filter : Value} {paint : Record} {id : Value} {items : List Value}
  {seat : Seat} {e : StyleError}

theorem outline_object : outline (.object layer) = .ok (layerId layer, unusablePaint? layer) := rfl

theorem outline_paintOver (paint layer : Record) :
    outline (.object (paintOver paint layer)) = outline (.object layer) := by
  rw [outline_object, outline_object, unusablePaint?_paintOver, layerId,
    get?_paintOver_of_ne (by decide), layerId]

theorem outline_insert_filter (filter : Value) (layer : Record) :
    outline (.object (layer.insert "filter" filter)) = outline (.object layer) := by
  rw [outline_object, outline_object, layerId, Record.get?_insert_of_ne (by decide), layerId,
    unusablePaint?, paintOf_insert_of_ne (by decide), unusablePaint?]

theorem outline_draw (filter : Value) (paint layer : Record) :
    outline (.object (draw filter paint layer)) = outline (.object layer) :=
  (outline_paintOver paint _).trans (outline_insert_filter filter layer)

/-- An item is a layer, or its outline is why it is none. -/
theorem item_cases (item : Value) :
    (∃ layer, item = .object layer) ∨ ∃ e, layerOf item = .error e ∧ outline item = .error e := by
  cases item with
  | object layer => exact .inl ⟨layer, rfl⟩
  | _ => exact .inr ⟨_, rfl, rfl⟩

theorem seatAmong_cons :
    seatAmong id ((Value.object layer :: items).map outline) =
      if hasId id layer then .ok ⟨0, unusablePaint? layer⟩
      else (seatAmong id (items.map outline)).map fun seat =>
        { seat with place := seat.place + 1 } := rfl

theorem seatAmong_cons_error {item : Value} (h : outline item = .error e) :
    seatAmong id ((item :: items).map outline) = .error e := by
  rw [List.map_cons, h, seatAmong]

theorem find?_cons :
    find? id (.object layer :: items) =
      if hasId id layer then .ok (some layer) else find? id items := rfl

theorem updateFirst_cons (f : Record → Except StyleError Record) :
    updateFirst id f (.object layer :: items) =
      if hasId id layer then (f layer).map fun layer => .object layer :: items
      else (updateFirst id f items).map (.object layer :: ·) := rfl

/-- The layer in a place has the id, and no layer before it has. -/
structure IsFirst (id : Value) (items : List Value) (place : Nat) (layer : Record) : Prop where
  inPlace : items[place]? = some (.object layer)
  hasId : hasId id layer = true
  before : ∀ earlier < place, ∀ other, items[earlier]? = some (.object other) →
    Style.hasId id other = false

/-- In the seat there is the first layer with the id. -/
theorem exists_layer_of_seat (h : seatAmong id (items.map outline) = .ok seat) :
    ∃ layer, IsFirst id items seat.place layer ∧ unusablePaint? layer = seat.unusable := by
  induction items generalizing seat with
  | nil => cases h
  | cons item rest ih =>
    obtain ⟨layer, rfl⟩ | ⟨e, -, he⟩ := item_cases item
    · rw [seatAmong_cons] at h
      cases hid : hasId id layer with
      | true =>
        rw [hid] at h
        cases h
        exact ⟨layer, ⟨rfl, hid, fun earlier h => absurd h (Nat.not_lt_zero earlier)⟩, rfl⟩
      | false =>
        cases hrest : seatAmong id (rest.map outline) with
        | error e => rw [hid, hrest] at h; cases h
        | ok further =>
          rw [hid, hrest] at h
          cases h
          obtain ⟨found, hfirst, hunusable⟩ := ih hrest
          refine ⟨found, ⟨hfirst.inPlace, hfirst.hasId, fun earlier hlt other hother => ?_⟩, hunusable⟩
          cases earlier with
          | zero => cases hother; exact hid
          | succ earlier => exact hfirst.before earlier (Nat.lt_of_succ_lt_succ hlt) other hother
    · rw [seatAmong_cons_error he] at h
      cases h

/-- The layer in a place. -/
def layerIn (items : List Value) (place : Nat) : Record :=
  match items[place]? with
  | some (.object layer) => layer
  | _ => []

/-- A write replaces the layer in the seat, and fails for the reason for which there is no seat. -/
theorem updateFirst_eq (f : Record → Except StyleError Record) :
    updateFirst id f items = (seatAmong id (items.map outline)).bind fun seat =>
      (f (layerIn items seat.place)).map fun new => items.set seat.place (.object new) := by
  -- Item by item: a layer with the id, a layer with another one, or no layer.
  induction items with
  | nil => rfl
  | cons item rest ih =>
    obtain ⟨layer, rfl⟩ | ⟨e, hlayer, he⟩ := item_cases item
    · rw [updateFirst_cons, seatAmong_cons, ih]
      cases hasId id layer with
      | true => rfl
      | false =>
        cases seatAmong id (rest.map outline) with
        | error e => rfl
        | ok further =>
          change ((f (layerIn rest further.place)).map _).map _ = (f (layerIn rest further.place)).map _
          cases f (layerIn rest further.place) <;> rfl
    · rw [updateFirst, hlayer, seatAmong_cons_error he]
      rfl

/-! ## §2 Drawing in a place -/

/-- An item with something done to it if it is a layer. -/
def mapLayer (f : Record → Record) : Value → Value
  | .object layer => .object (f layer)
  | v => v

/-- A document with other items, if it lists any. -/
def mapItems (g : List Value → List Value) (style : Style) : Style :=
  match style.layers with
  | .list items => { style with layers := .list (g items) }
  | _ => style

variable {style style' : Style}

theorem mapItems_mapItems (g h : List Value → List Value) :
    (style.mapItems g).mapItems h = style.mapItems fun items => h (g items) := by
  cases hlayers : style.layers <;> simp only [mapItems, hlayers]

theorem mapItems_eq_self {g : List Value → List Value}
    (h : ∀ items, style.layers = .list items → g items = items) : style.mapItems g = style := by
  unfold mapItems
  split
  next items hitems => rw [h items hitems, ← hitems]
  next => rfl

theorem outlines_mapItems {g : List Value → List Value}
    (h : ∀ items, (g items).map outline = items.map outline) :
    (style.mapItems g).outlines = style.outlines := by
  cases hlayers : style.layers with
  | list items =>
    simp only [outlines, Style.items, mapItems, hlayers, Value.items?, Except.map, h]
  | _ => simp only [mapItems, hlayers]

theorem modify_mapLayer_eq_self {f : Record → Record} {place : Nat}
    (h : ∀ layer, items[place]? = some (.object layer) → f layer = layer) :
    items.modify place (mapLayer f) = items := by
  refine List.ext_getElem? fun i => ?_
  rw [List.getElem?_modify]
  split
  next hplace =>
    rw [← hplace]
    cases hitem : items[place]? with
    | none => rfl
    | some item =>
      cases item with
      | object layer => exact congrArg (fun layer => some (Value.object layer)) (h layer hitem)
      | _ => rfl
  next => simp

/-- Two changes in one place are one. -/
theorem modify_modify_mapLayer (f g : Record → Record) (place : Nat) :
    (items.modify place (mapLayer f)).modify place (mapLayer g) =
      items.modify place (mapLayer (g ∘ f)) := by
  rw [List.modify_modify_eq]
  congr 1
  funext item
  cases item <;> rfl

theorem map_modify_mapLayer {f : Record → Record} (place : Nat)
    (h : ∀ layer, outline (.object (f layer)) = outline (.object layer)) :
    (items.modify place (mapLayer f)).map outline = items.map outline := by
  -- Whether it is changed or not, an item keeps its outline.
  have hitem : ∀ item, outline (mapLayer f item) = outline item := by
    intro item
    cases item with
    | object layer => exact h layer
    | _ => rfl
  refine List.ext_getElem? fun i => ?_
  rw [List.getElem?_map, List.getElem?_map, List.getElem?_modify]
  cases items[i]? with
  | none => rfl
  | some item =>
    by_cases hplace : place = i
    · simp [hplace, hitem]
    · simp [hplace]

theorem seat_modify {f : Record → Record} (place : Nat)
    (h : ∀ layer, outline (.object (f layer)) = outline (.object layer)) :
    (style.mapItems (·.modify place (mapLayer f))).seat id = style.seat id := by
  rw [Style.seat, outlines_mapItems fun items => map_modify_mapLayer place h, Style.seat]

/-- Only a document that lists its layers has seats. -/
theorem exists_items_of_seat (h : style.seat id = .ok seat) :
    ∃ items, style.layers = .list items ∧ seatAmong id (items.map outline) = .ok seat := by
  -- Names of an object and characters of a text are listed too, but they are no layers.
  have htexts : ∀ items : List Value, (∀ item ∈ items, ∃ s, item = .text s) →
      seatAmong id (items.map outline) ≠ .ok seat := by
    intro items hitems hseat
    obtain ⟨layer, hfirst, -⟩ := exists_layer_of_seat hseat
    obtain ⟨s, hs⟩ := hitems _ (List.mem_of_getElem? hfirst.inPlace)
    cases hs
  unfold Style.seat outlines Style.items at h
  cases hlayers : style.layers with
  | list items => rw [hlayers] at h; exact ⟨items, rfl, h⟩
  | object | text =>
    rw [hlayers] at h
    refine absurd h (htexts _ fun item hitem => ?_)
    obtain ⟨x, -, rfl⟩ := List.mem_map.1 hitem
    exact ⟨_, rfl⟩
  | _ => rw [hlayers] at h; cases h

theorem update_of_error (h : style.seat id = .error e) (f : Record → Except StyleError Record) :
    style.update id f = .error e := by
  unfold Style.seat outlines at h
  unfold update
  cases hitems : style.items with
  | error e' => rw [hitems] at h; cases h; rfl
  | ok items =>
    have hseat : seatAmong id (items.map outline) = .error e := by rw [hitems] at h; exact h
    simp only [bind, Except.bind, updateFirst_eq, hseat]

/-- A write changes the layer in the seat, whatever stands there. -/
theorem exists_layer_update (h : style.seat id = .ok seat) :
    ∃ layer, unusablePaint? layer = seat.unusable ∧
      ∀ f : Record → Except StyleError Record,
        (∀ e, f layer = .error e → style.update id f = .error e) ∧
        ∀ g : Record → Record, f layer = .ok (g layer) →
          style.update id f = .ok (style.mapItems (·.modify seat.place (mapLayer g))) := by
  obtain ⟨items, hitems, hseat⟩ := exists_items_of_seat h
  obtain ⟨layer, hfirst, hunusable⟩ := exists_layer_of_seat hseat
  have hin : layerIn items seat.place = layer := by rw [layerIn, hfirst.inPlace]
  refine ⟨layer, hunusable, fun f => ⟨fun e he => ?_, fun g hg => ?_⟩⟩
  · simp only [update, Style.items, hitems, Value.items?, bind, Except.bind, updateFirst_eq, hseat,
      hin, he, Except.map]
  · have hmodify : items.modify seat.place (mapLayer g) = items.set seat.place (.object (g layer)) := by
      rw [List.modify_eq_set_getElem?, hfirst.inPlace]
      rfl
    simp only [update, Style.items, hitems, Value.items?, bind, Except.bind, updateFirst_eq, hseat,
      hin, hg, Except.map, mapItems, hmodify]
    rfl

theorem setFilter_of_seat (h : style.seat id = .ok seat) :
    style.setFilter id filter =
      .ok (style.mapItems (·.modify seat.place (mapLayer (·.insert "filter" filter)))) := by
  obtain ⟨layer, -, hupdate⟩ := exists_layer_update h
  exact (hupdate (filterLayer filter)).2 _ rfl

theorem setPaint_of_seat {name : String} {v : Value} (h : style.seat id = .ok seat)
    (husable : seat.unusable = none) :
    style.setPaint id name v =
      .ok (style.mapItems (·.modify seat.place (mapLayer (paintOver [(name, v)])))) := by
  obtain ⟨layer, hlayer, hupdate⟩ := exists_layer_update h
  exact (hupdate (paintLayer name v)).2 _ (paintLayer_of_usable name v (hlayer.trans husable))

theorem setPaint_of_unusable {name : String} {v paint : Value} (h : style.seat id = .ok seat)
    (hunusable : seat.unusable = some paint) :
    style.setPaint id name v = .error (.unusablePaint paint) := by
  obtain ⟨layer, hlayer, hupdate⟩ := exists_layer_update h
  exact (hupdate (paintLayer name v)).1 _ (paintLayer_of_unusable name v (hlayer.trans hunusable))

/-! ## §3 Writing to one layer -/

/-- What a handle brings to the place of its layer, if it has one. -/
def strokes (style : Style) (paint : Record) (id : Value) : List (Nat × Record) :=
  match style.seat id with
  | .ok seat => [(seat.place, paint)]
  | .error _ => []

/-- Why a handle fails, if it does. -/
def fault? (style : Style) (paint : Record) (id : Value) : Option StyleError :=
  match style.seat id with
  | .ok seat => if paint.isEmpty then none else seat.unusable.map .unusablePaint
  | .error e => some e

/-- Items that were drawn in their places, one after the other. -/
def drawAll (filter : Value) (strokes : List (Nat × Record)) (items : List Value) : List Value :=
  strokes.foldl (fun items stroke => items.modify stroke.1 (mapLayer (draw filter stroke.2))) items

/-- The paint properties of a layer for a metric, none without one. -/
def paintFor (metric : Option (List FieldName)) (type : Value) : Record :=
  match metric with
  | some fields => metricPaint fields type
  | none => []

theorem map_drawAll (filter : Value) (strokes : List (Nat × Record)) (items : List Value) :
    (drawAll filter strokes items).map outline = items.map outline := by
  induction strokes generalizing items with
  | nil => rfl
  | cons stroke strokes ih =>
    exact (ih _).trans (map_modify_mapLayer stroke.1 (outline_draw filter stroke.2))

end Style

open Style

variable {style : Style} {id : Value} {seat : Seat} {filter : Value}

/-- Nothing comes of painting a layer whose paint properties are no object. -/
theorem mapItems_paintOver_of_unusable {paint : Record} {v : Value} (h : style.seat id = .ok seat)
    (hunusable : seat.unusable = some v) :
    style.mapItems (·.modify seat.place (mapLayer (paintOver paint))) = style := by
  refine mapItems_eq_self fun items hitems => modify_mapLayer_eq_self fun layer hlayer => ?_
  obtain ⟨items', hitems', hseat⟩ := exists_items_of_seat h
  cases hitems.symm.trans hitems'
  obtain ⟨found, hfirst, hpaint⟩ := exists_layer_of_seat hseat
  cases hlayer.symm.trans hfirst.inPlace
  exact paintOver_of_unusable (hpaint.trans hunusable)

theorem paintAll_ofStyle (h : style.seat id = .ok seat) (type : Value)
    (properties : List (String × Expression)) :
    paintAll (.ofStyle id type) properties style =
      (style.mapItems (·.modify seat.place
          (mapLayer (paintOver (properties.map fun (name, e) => (name, e.toValue))))),
        if properties.isEmpty then none else seat.unusable.map fun v => .style (.unusablePaint v)) := by
  -- By induction on the properties: a layer fails at the first of them or takes them all.
  induction properties generalizing style with
  | nil =>
    have hsame : style.mapItems (·.modify seat.place (mapLayer (paintOver []))) = style :=
      mapItems_eq_self fun items _ => modify_mapLayer_eq_self fun layer _ => rfl
    rw [paintAll, List.map_nil, hsame]
    rfl
  | cons property rest ih =>
    obtain ⟨name, value⟩ := property
    cases hunusable : seat.unusable with
    | some v =>
      rw [mapItems_paintOver_of_unusable h hunusable]
      simp only [paintAll, LayerHandle.ofStyle, setPaint_of_unusable h hunusable, outcome]
      rfl
    | none =>
      have hseat := (seat_modify seat.place (outline_paintOver [(name, value.toValue)])).trans h
      have hpaint : ∀ items : List Value,
          (items.modify seat.place (mapLayer (paintOver [(name, value.toValue)]))).modify seat.place
            (mapLayer (paintOver (rest.map fun (name, e) => (name, e.toValue)))) =
          items.modify seat.place (mapLayer
            (paintOver (((name, value) :: rest).map fun (name, e) => (name, e.toValue)))) := by
        intro items
        rw [modify_modify_mapLayer]
        congr 2
        funext layer
        exact paintOver_paintOver
      have hrest := ih hseat
      rw [mapItems_mapItems] at hrest
      simp only [hpaint, hunusable, Option.map_none, ite_self] at hrest
      simp only [paintAll, LayerHandle.ofStyle, setPaint_of_seat h hunusable, outcome]
      exact hrest.trans (by simp)

/-- Writing to the layer that has an id is drawing it in its place. -/
theorem writeLayer_ofStyle (style : Style) (filter : Value) (metric : Option (List FieldName))
    (id type : Value) :
    writeLayer filter metric (.ofStyle id type) style =
      (style.mapItems (drawAll filter (style.strokes (paintFor metric type) id)),
        (style.fault? (paintFor metric type) id).map .style) := by
  unfold writeLayer
  cases h : style.seat id with
  | error e =>
    have hfilter : (LayerHandle.ofStyle id type).setFilter filter style =
        (style, some (.style e)) := by
      simp only [LayerHandle.ofStyle, setFilter, update_of_error h, outcome]
    have hsame : style.mapItems (drawAll filter []) = style := mapItems_eq_self fun items _ => rfl
    rw [hfilter, strokes, fault?, h, hsame]
    rfl
  | ok seat =>
    have hfilter : (LayerHandle.ofStyle id type).setFilter filter style =
        (style.mapItems (·.modify seat.place (mapLayer (·.insert "filter" filter))), none) := by
      simp only [LayerHandle.ofStyle, setFilter_of_seat h, outcome]
    rw [hfilter, strokes, fault?, h]
    cases metric with
    | none => rfl
    | some fields =>
      -- The layer has its seat still when it is painted, and both writes are one drawing.
      have hseat := (seat_modify seat.place (outline_insert_filter filter)).trans h
      have hdraw : ∀ items : List Value,
          (items.modify seat.place (mapLayer (·.insert "filter" filter))).modify seat.place
            (mapLayer (paintOver (metricPaint fields type))) =
          drawAll filter [(seat.place, metricPaint fields type)] items :=
        fun items => modify_modify_mapLayer _ _ _
      have hempty : (paintFor (some fields) type).isEmpty = (paintProperties type fields).isEmpty :=
        List.isEmpty_map
      have hpaint := paintAll_ofStyle hseat type (paintProperties type fields)
      rw [mapItems_mapItems] at hpaint
      refine hpaint.trans (Prod.ext (congrArg (fun g => style.mapItems g) (funext hdraw)) ?_)
      dsimp only
      rw [hempty]
      cases (paintProperties type fields).isEmpty <;> cases seat.unusable <;> rfl

/-! ## §4 Writing to all layers -/

/-- The handles of layers with ids and types. -/
def handlesOf (specs : List (Value × Value)) : List (LayerHandle Style) :=
  specs.map fun spec => .ofStyle spec.1 spec.2

namespace Style

variable {style style' : Style} {metric : Option (List FieldName)} {spec : Value × Value}
  {specs : List (Value × Value)} {filter : Value}

/-- The layers that a pass tries: all of them, or those up to one that fails and has no key. -/
def tried (style : Style) (metric : Option (List FieldName)) :
    List (Value × Value) → List (Value × Value)
  | [] => []
  | spec :: rest =>
    if (style.fault? (paintFor metric spec.2) spec.1).isSome && !spec.1.isKey then [spec]
    else spec :: tried style metric rest

/-- What a pass brings to the places of the layers that it tries. -/
def strokesOf (style : Style) (metric : Option (List FieldName)) (specs : List (Value × Value)) :
    List (Nat × Record) :=
  (style.tried metric specs).flatMap fun spec => style.strokes (paintFor metric spec.2) spec.1

theorem mem_of_mem_tried (h : spec ∈ style.tried metric specs) : spec ∈ specs := by
  induction specs with
  | nil => cases h
  | cons first rest ih =>
    rw [tried] at h
    split at h
    · exact List.mem_cons.2 (.inl (List.mem_singleton.1 h))
    · obtain rfl | hrest := List.mem_cons.1 h
      · exact List.mem_cons_self
      · exact List.mem_cons_of_mem _ (ih hrest)

theorem seat_congr (h : style.outlines = style'.outlines) (id : Value) :
    style.seat id = style'.seat id := by
  rw [Style.seat, h, Style.seat]

theorem fault?_congr (h : style.outlines = style'.outlines) (paint : Record) (id : Value) :
    style.fault? paint id = style'.fault? paint id := by
  rw [fault?, seat_congr h, fault?]

theorem strokes_congr (h : style.outlines = style'.outlines) (paint : Record) (id : Value) :
    style.strokes paint id = style'.strokes paint id := by
  rw [strokes, seat_congr h, strokes]

theorem tried_congr (h : style.outlines = style'.outlines) :
    style.tried metric specs = style'.tried metric specs := by
  induction specs with
  | nil => rfl
  | cons spec rest ih => rw [tried, tried, fault?_congr h, ih]

theorem strokesOf_congr (h : style.outlines = style'.outlines) :
    style.strokesOf metric specs = style'.strokesOf metric specs := by
  rw [strokesOf, tried_congr h, strokesOf]
  exact List.flatMap_congr fun spec _ => strokes_congr h _ _

/-- What a pass brings to a place it brings for a layer that has its seat there. -/
theorem mem_strokesOf {stroke : Nat × Record} (h : stroke ∈ style.strokesOf metric specs) :
    ∃ spec ∈ specs, ∃ seat, style.seat spec.1 = .ok seat ∧
      stroke = (seat.place, paintFor metric spec.2) := by
  obtain ⟨spec, hspec, hstroke⟩ := List.mem_flatMap.1 h
  refine ⟨spec, mem_of_mem_tried hspec, ?_⟩
  unfold strokes at hstroke
  split at hstroke
  next seat hseat => exact ⟨seat, hseat, List.mem_singleton.1 hstroke⟩
  next => cases hstroke

theorem drawAll_append (before after : List (Nat × Record)) (items : List Value) :
    drawAll filter after (drawAll filter before items) = drawAll filter (before ++ after) items :=
  List.foldl_append.symm

theorem outlines_drawAll (strokes : List (Nat × Record)) :
    (style.mapItems (drawAll filter strokes)).outlines = style.outlines :=
  outlines_mapItems (map_drawAll filter strokes)

end Style

variable {metric : Option (List FieldName)} {specs : List (Value × Value)} {filter : Value}

theorem synchronize_of_some {σ : Type} {predicate : Predicate} {filter : Expression}
    (h : predicate.toExpression? = some filter) (handles : List (LayerHandle σ)) (s : σ) :
    synchronize predicate metric handles s =
      ((writeLayers filter.toValue metric handles ({}, [], s)).1.mapError .noKey,
        (writeLayers filter.toValue metric handles ({}, [], s)).2) := by
  simp only [synchronize, h]

theorem synchronize_of_none {σ : Type} {predicate : Predicate} (h : predicate.toExpression? = none)
    (handles : List (LayerHandle σ)) (s : σ) :
    synchronize predicate metric handles s = (.error .unspecified, [], s) := by
  simp only [synchronize, h]

theorem SyncReport.addFailure_eq (report : SyncReport) (id : Value) (text : String) :
    report.addFailure id text =
      if id.isKey then .ok { report with failed := report.failed.insert id text }
      else .error ⟨id⟩ := by
  unfold SyncReport.addFailure Keyed.insertKey
  split <;> rfl

/-- One step of a pass: drawing in the place of the first layer, and then going on unless that failed
and cannot be reported. -/
theorem writeLayers_cons (spec : Value × Value) (report : SyncReport) (logs : List LogEntry)
    (style : Style) :
    writeLayers filter metric (handlesOf (spec :: specs)) (report, logs, style) =
      let next := style.mapItems (drawAll filter (style.strokes (paintFor metric spec.2) spec.1))
      match style.fault? (paintFor metric spec.2) spec.1 with
      | none => writeLayers filter metric (handlesOf specs) (report.addSuccess spec.1, logs, next)
      | some e =>
        let logs := logs ++ [faultEntry spec.1 (.style e)]
        if spec.1.isKey then
          let failed := report.failed.insert spec.1 (LayerFault.style e).summary
          writeLayers filter metric (handlesOf specs) ({ report with failed := failed }, logs, next)
        else (.error ⟨spec.1⟩, logs, next) := by
  have hwrite := writeLayer_ofStyle style filter metric spec.1 spec.2
  rw [handlesOf, List.map_cons, writeLayers, hwrite]
  cases style.fault? (paintFor metric spec.2) spec.1 with
  | none => rfl
  | some e =>
    simp only [Option.map_some, SyncReport.addFailure_eq, LayerHandle.ofStyle]
    cases spec.1.isKey <;> rfl

variable (metric specs filter) in
/-- What a pass leaves behind. -/
theorem writeLayers_ofStyle (style : Style) (report : SyncReport) (logs : List LogEntry) :
    (writeLayers filter metric (handlesOf specs) (report, logs, style)).2.2 =
      style.mapItems (drawAll filter (style.strokesOf metric specs)) := by
  -- By induction on the layers: the first write leaves the outlines, and so what the others bring.
  induction specs generalizing style report logs with
  | nil => exact (mapItems_eq_self fun items _ => rfl).symm
  | cons spec rest ih =>
    have hrest : ∀ report logs, (writeLayers filter metric (handlesOf rest) (report, logs,
        style.mapItems (drawAll filter (style.strokes (paintFor metric spec.2) spec.1)))).2.2 =
        style.mapItems (drawAll filter
          (style.strokes (paintFor metric spec.2) spec.1 ++ style.strokesOf metric rest)) := by
      intro report logs
      rw [ih, strokesOf_congr (outlines_drawAll _), mapItems_mapItems]
      simp only [drawAll_append]
    rw [writeLayers_cons, strokesOf, tried]
    cases style.fault? (paintFor metric spec.2) spec.1 with
    | none => exact hrest _ _
    | some e =>
      cases spec.1.isKey with
      | true => exact hrest _ _
      | false => simp

variable (metric specs filter) in
/-- Passes over documents of the same outlines report the same. -/
theorem writeLayers_congr {style style' : Style} (h : style.outlines = style'.outlines)
    (report : SyncReport) (logs : List LogEntry) :
    (writeLayers filter metric (handlesOf specs) (report, logs, style)).1 =
        (writeLayers filter metric (handlesOf specs) (report, logs, style')).1 ∧
      (writeLayers filter metric (handlesOf specs) (report, logs, style)).2.1 =
        (writeLayers filter metric (handlesOf specs) (report, logs, style')).2.1 := by
  -- Whether a write fails depends on outlines, and writing leaves these alone in both documents.
  induction specs generalizing style style' report logs with
  | nil => exact ⟨rfl, rfl⟩
  | cons spec rest ih =>
    have hnext : ∀ strokes strokes', (style.mapItems (drawAll filter strokes)).outlines =
        (style'.mapItems (drawAll filter strokes')).outlines := by
      intro strokes strokes'
      rw [outlines_drawAll, outlines_drawAll, h]
    have hrest := ih (hnext (style.strokes (paintFor metric spec.2) spec.1)
      (style'.strokes (paintFor metric spec.2) spec.1))
    rw [writeLayers_cons, writeLayers_cons, fault?_congr h]
    cases style'.fault? (paintFor metric spec.2) spec.1 with
    | none => exact hrest _ _
    | some e =>
      cases spec.1.isKey with
      | true => exact hrest _ _
      | false => exact ⟨rfl, rfl⟩

/-! ## §5 What stands in a place -/

namespace Style

variable {style : Style} {filter : Value} {items : List Value} {id : Value}

/-- What is brought to a place. -/
def paintsIn (strokes : List (Nat × Record)) (place : Nat) : List Record :=
  (strokes.filter fun stroke => stroke.1 = place).map Prod.snd

theorem paintsIn_append (before after : List (Nat × Record)) (place : Nat) :
    paintsIn (before ++ after) place = paintsIn before place ++ paintsIn after place := by
  rw [paintsIn, List.filter_append, List.map_append, paintsIn, paintsIn]

/-- In a place there is what stood there before, drawn with all that is brought to it. -/
theorem getElem?_drawAll (strokes : List (Nat × Record)) (place : Nat) :
    (drawAll filter strokes items)[place]? =
      items[place]?.map (mapLayer (redraw filter (paintsIn strokes place))) := by
  induction strokes generalizing items with
  | nil =>
    have hsame : mapLayer (redraw filter (paintsIn [] place)) = id := by
      funext item
      cases item <;> rfl
    rw [hsame, Option.map_id]
    rfl
  | cons stroke strokes ih =>
    change (drawAll filter strokes (items.modify stroke.1 (mapLayer (draw filter stroke.2))))[place]? = _
    rw [ih, List.getElem?_modify, paintsIn, paintsIn, List.filter_cons]
    by_cases hplace : stroke.1 = place
    · cases items[place]? with
      | none => simp [hplace]
      | some item => cases item <;> simp [hplace, mapLayer, redraw]
    · simp [hplace]

/-- The layer that has an id is the one in the seat. -/
theorem find?_eq : ((find? id items).bind fun
      | some layer => .ok layer
      | none => .error (.layerNotFound id)) =
    (seatAmong id (items.map outline)).map fun seat => layerIn items seat.place := by
  induction items with
  | nil => rfl
  | cons item rest ih =>
    obtain ⟨layer, rfl⟩ | ⟨e, hlayer, he⟩ := item_cases item
    · rw [find?_cons, seatAmong_cons]
      cases hasId id layer with
      | true => rfl
      | false =>
        refine ih.trans ?_
        cases seatAmong id (rest.map outline) <;> rfl
    · rw [find?, hlayer, seatAmong_cons_error he]
      rfl

theorem layer_eq (h : style.layers = .list items) :
    style.layer id = (style.seat id).map fun seat => layerIn items seat.place := by
  have hseat : style.seat id = seatAmong id (items.map outline) := by
    simp only [Style.seat, outlines, Style.items, h, Value.items?, Except.map, Except.bind]
  rw [hseat, ← find?_eq]
  simp only [layer, Style.items, h, Value.items?, bind, Except.bind]
  cases find? id items with
  | error e => rfl
  | ok found => cases found <;> rfl

end Style

end MapFilter
