import MapFilter.Proofs.Predicate.Chain
import MapFilter.Service

/-!
# Writing to the configured layers

A document made from settings has the configured layers, and of each of them only the filter and the
paint properties are ever written. With layers of different ids every write reaches its layer, so
that after a pass over all of them each layer shows the filter and the metric, and everything else
stands as it was configured.

- `Style.drawnLayer`: a configured layer with a filter and paint properties
- `Style.updateFirst_append`: the layer that a write reaches
- `FilterService.synchronize_drawn`: what a pass over all layers leaves behind
-/

namespace MapFilter

namespace Style

/-! ## §1 Configured layers -/

/-- A layer as it is configured, with a filter and paint properties. -/
def drawnLayer (settings : Record) (filter : Value) (paint : Record) (spec : Value × Value) :
    Record :=
  [("id", spec.1), ("type", spec.2), ("source", sourceOf settings),
    ("source-layer", (settings.get? "SOURCE_LAYER").getD (.text "")),
    ("filter", filter), ("paint", .object paint)]
  ++ zoomLimits settings spec.2

/-- The paint properties of a layer for a metric, as they stand in a document. -/
def metricPaint (fields : List FieldName) (type : Value) : Record :=
  (paintProperties type fields).map fun (name, e) => (name, e.toValue)

/-- The configured layers, all with a filter and with the paint properties for a metric. -/
def drawnLayers (settings : Record) (filter : Value) (fields : List FieldName)
    (specs : List (Value × Value)) : List Record :=
  specs.map fun spec => drawnLayer settings filter (metricPaint fields spec.2) spec

variable {settings : Record} {filter : Value} {paint : Record} {spec : Value × Value}

theorem layerId_drawnLayer : layerId (drawnLayer settings filter paint spec) = spec.1 := rfl

theorem get?_paint_drawnLayer :
    (drawnLayer settings filter paint spec).get? "paint" = some (.object paint) := rfl

/-- The zoom limits have names of their own. -/
theorem map_zoomLimits {name : String} (v type : Value) (hmax : name ≠ "maxzoom")
    (hmin : name ≠ "minzoom") :
    (zoomLimits settings type).map (fun entry => if entry.1 = name then (name, v) else entry) =
      zoomLimits settings type := by
  unfold zoomLimits
  split
  · simp [hmax.symm]
  · split
    · simp [hmin.symm]
    · rfl

theorem insert_filter_drawnLayer (v : Value) :
    (drawnLayer settings filter paint spec).insert "filter" v =
      drawnLayer settings v paint spec := by
  simp [drawnLayer, Record.insert, map_zoomLimits]

theorem insert_paint_drawnLayer (new : Record) :
    (drawnLayer settings filter paint spec).insert "paint" (.object new) =
      drawnLayer settings filter new spec := by
  simp [drawnLayer, Record.insert, map_zoomLimits]

/-- What a configured layer is painted with: nothing yet, or the paint properties for a metric. -/
inductive IsPaint (type : Value) : Record → Prop where
  | bare : IsPaint type []
  | metric (fields : List FieldName) : IsPaint type (metricPaint fields type)

/-- Painting for a metric replaces what was painted before. -/
theorem IsPaint.insertAll {type : Value} (h : IsPaint type paint) (fields : List FieldName) :
    Record.insertAll paint (metricPaint fields type) = metricPaint fields type := by
  -- The type of the layer decides on its one paint property, or that it has none.
  cases h
  all_goals
    unfold metricPaint paintProperties
    split
    · simp [Record.insertAll, Record.insert]
    · split
      · simp [Record.insertAll, Record.insert]
      · rfl

/-! ## §2 Writing to one layer -/

def withLayers (style : Style) (layers : List Record) : Style :=
  { style with layers := .list (layers.map .object) }

/-- A write reaches the first layer that has the id. -/
theorem updateFirst_append {id : Value} {before rest : List Record} {layer : Record}
    (f : Record → Except StyleError Record) (hbefore : ∀ other ∈ before, hasId id other = false)
    (hlayer : hasId id layer = true) :
    updateFirst id f ((before ++ layer :: rest).map .object) =
      (f layer).map fun layer => (before ++ layer :: rest).map .object := by
  induction before with
  | nil =>
    simp only [List.nil_append, List.map_cons, updateFirst, layerOf, hlayer, if_true]
  | cons other before ih =>
    have hother : hasId id other = false := hbefore other List.mem_cons_self
    simp only [List.cons_append, List.map_cons, updateFirst, layerOf, hother, Bool.false_eq_true,
      if_false]
    rw [ih fun other h => hbefore other (List.mem_cons_of_mem _ h)]
    cases f layer <;> rfl

theorem update_append {style : Style} {id : Value} {before rest : List Record} {layer new : Record}
    {f : Record → Except StyleError Record} (hbefore : ∀ other ∈ before, hasId id other = false)
    (hlayer : hasId id layer = true) (hf : f layer = .ok new) :
    (style.withLayers (before ++ layer :: rest)).update id f =
      .ok (style.withLayers (before ++ new :: rest)) := by
  simp only [update, items, withLayers, Value.items?, bind, Except.bind,
    updateFirst_append f hbefore hlayer, hf]
  rfl

end Style

open Style

variable {style : Style} {settings : Record} {filter : Value} {spec : Value × Value}
  {before rest : List Record}

theorem setFilter_drawn {paint : Record} (hbefore : ∀ other ∈ before, hasId spec.1 other = false)
    (hspec : spec.1.same spec.1 = true) (new : Value) :
    (LayerHandle.ofStyle spec.1 spec.2).setFilter new
        (style.withLayers (before ++ drawnLayer settings filter paint spec :: rest)) =
      (style.withLayers (before ++ drawnLayer settings new paint spec :: rest), none) := by
  have hid : hasId spec.1 (drawnLayer settings filter paint spec) = true := hspec
  have hfilter : filterLayer new (drawnLayer settings filter paint spec) =
      .ok (drawnLayer settings new paint spec) := by
    rw [filterLayer, insert_filter_drawnLayer]
  simp only [LayerHandle.ofStyle, setFilter, update_append hbefore hid hfilter, outcome]

theorem setPaint_drawn {paint : Record} (hbefore : ∀ other ∈ before, hasId spec.1 other = false)
    (hspec : spec.1.same spec.1 = true) (name : String) (v : Value) :
    (LayerHandle.ofStyle spec.1 spec.2).setPaint name v
        (style.withLayers (before ++ drawnLayer settings filter paint spec :: rest)) =
      (style.withLayers
        (before ++ drawnLayer settings filter (Record.insert paint name v) spec :: rest), none) := by
  have hid : hasId spec.1 (drawnLayer settings filter paint spec) = true := hspec
  have hpaint : paintLayer name v (drawnLayer settings filter paint spec) =
      .ok (drawnLayer settings filter (Record.insert paint name v) spec) := by
    simp only [paintLayer, get?_paint_drawnLayer, Option.getD_some, insert_paint_drawnLayer]
  simp only [LayerHandle.ofStyle, setPaint, update_append hbefore hid hpaint, outcome]

theorem paintAll_drawn (hbefore : ∀ other ∈ before, hasId spec.1 other = false)
    (hspec : spec.1.same spec.1 = true) (properties : List (String × Expression))
    (paint : Record) :
    paintAll (.ofStyle spec.1 spec.2) properties
        (style.withLayers (before ++ drawnLayer settings filter paint spec :: rest)) =
      (style.withLayers (before ++ drawnLayer settings filter
        (Record.insertAll paint (properties.map fun (name, e) => (name, e.toValue))) spec :: rest),
        none) := by
  -- By induction on the properties still to come, from any that are there already.
  induction properties generalizing paint with
  | nil => rfl
  | cons property properties ih =>
    obtain ⟨name, e⟩ := property
    simp only [paintAll, setPaint_drawn hbefore hspec]
    exact ih (Record.insert paint name e.toValue)

theorem writeLayer_drawn (hbefore : ∀ other ∈ before, hasId spec.1 other = false)
    (hspec : spec.1.same spec.1 = true) (new : Value) (fields : List FieldName) (paint : Record) :
    writeLayer new (some fields) (.ofStyle spec.1 spec.2)
        (style.withLayers (before ++ drawnLayer settings filter paint spec :: rest)) =
      (style.withLayers (before ++ drawnLayer settings new
        (Record.insertAll paint (metricPaint fields spec.2)) spec :: rest), none) := by
  -- The filter is written first, so that painting finds it in place.
  simp only [writeLayer, setFilter_drawn hbefore hspec]
  exact paintAll_drawn hbefore hspec (paintProperties spec.2 fields) paint

/-! ## §3 Writing to all layers -/

/-- The ids of layers are texts that all differ. -/
structure AreNamedApart (specs : List (Value × Value)) : Prop where
  named : ∀ spec ∈ specs, ∃ name, spec.1 = .text name
  apart : (specs.map Prod.fst).Nodup

/-- No other layer has the id of a layer that follows. -/
theorem AreNamedApart.hasId_eq_false {done todo : List (Value × Value)}
    (h : AreNamedApart (done ++ spec :: todo)) (settings : Record) (filter : Value)
    (fields : List FieldName) :
    ∀ other ∈ drawnLayers settings filter fields done, hasId spec.1 other = false := by
  intro other hother
  obtain ⟨earlier, hearlier, rfl⟩ := List.mem_map.1 hother
  obtain ⟨name, hname⟩ := h.named earlier (List.mem_append_left _ hearlier)
  have hne : earlier.1 ≠ spec.1 := by
    have hapart := h.apart
    rw [List.map_append, List.nodup_append] at hapart
    exact hapart.2.2 _ (List.mem_map_of_mem hearlier) _ (by simp)
  rw [hasId, layerId_drawnLayer, hname, ← Bool.not_eq_true, Value.same_text_iff]
  exact fun heq => hne (hname.trans heq.symm)

theorem AreNamedApart.same_self {specs : List (Value × Value)} (h : AreNamedApart specs)
    (hspec : spec ∈ specs) : spec.1.same spec.1 = true := by
  obtain ⟨name, hname⟩ := h.named spec hspec
  rw [hname, Value.same_text_iff]

variable (style settings filter) in
/-- The layers that a pass has come to show what is written, the others what they showed before. No
layer fails. -/
theorem writeLayers_drawn {paint : Value × Value → Record}
    (hpaint : ∀ spec, IsPaint spec.2 (paint spec)) (new : Value) (fields : List FieldName)
    (done todo : List (Value × Value)) (h : AreNamedApart (done ++ todo)) (report : SyncReport)
    (logs : List LogEntry) :
    writeLayers new (some fields) (todo.map fun spec => .ofStyle spec.1 spec.2)
        (report, logs, style.withLayers (drawnLayers settings new fields done ++
          todo.map fun spec => drawnLayer settings filter (paint spec) spec)) =
      (.ok { report with applied := report.applied ++ todo.map Prod.fst }, logs,
        style.withLayers (drawnLayers settings new fields (done ++ todo))) := by
  -- By induction on the layers still to come: those before them show what is written already.
  induction todo generalizing done report with
  | nil => simp [writeLayers]
  | cons spec todo ih =>
    have hbefore := h.hasId_eq_false settings new fields
    have hspec : spec.1.same spec.1 = true := h.same_self (by simp)
    simp only [List.map_cons, writeLayers, writeLayer_drawn hbefore hspec,
      (hpaint spec).insertAll fields]
    have happ : done ++ spec :: todo = (done ++ [spec]) ++ todo := by simp
    have hrest := ih (done ++ [spec]) (happ ▸ h) (report.addSuccess spec.1)
    simpa [drawnLayers, LayerHandle.ofStyle, SyncReport.addSuccess] using hrest

variable (style settings filter) in
/-- A pass over all layers reports each of them as written to, and leaves a document that shows what
was written and is otherwise as it was. Nothing that it showed before matters. -/
theorem FilterService.synchronize_drawn {service : FilterService} {paint : Value × Value → Record}
    {predicate : Predicate} {e : Expression} (hlayers : AreNamedApart service.layers)
    (hpaint : ∀ spec, IsPaint spec.2 (paint spec)) (he : predicate.toExpression? = some e)
    (fields : List FieldName) :
    service.synchronize predicate fields
        (style.withLayers
          (service.layers.map fun spec => drawnLayer settings filter (paint spec) spec)) =
      (.ok { applied := service.layers.map Prod.fst }, [],
        style.withLayers (drawnLayers settings e.toValue fields service.layers)) := by
  have hwritten := writeLayers_drawn style settings filter hpaint e.toValue fields []
    service.layers hlayers {} []
  simp only [drawnLayers, List.map_nil, List.nil_append] at hwritten
  simp only [synchronize, MapFilter.synchronize, he, handles, hwritten]
  rfl

end MapFilter
