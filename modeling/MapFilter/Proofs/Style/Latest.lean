import MapFilter.Proofs.Style.Places

/-!
# The latest application counts

However often selections were applied to a document, it shows the last of them and nothing of those
before: the filters are replaced, and the paint properties for a metric have the same names whichever
the metric is. Layers that are missing, that share an id or that cannot be painted fail in every
application alike. Nothing but filters and those paint properties ever changes.

- `synchronize_synchronize`: an application after another one
- `Style.IsSynchronized`: what an application changes at most
- `synchronize_latest`: the last of any number of applications
-/

namespace MapFilter

namespace Style

variable {style style' : Style} {specs : List (Value × Value)} {filter filter' : Value}

/-! ## §1 The same strokes -/

/-- The paint properties for a metric have names that depend on the type of the layer only. -/
theorem names_paintFor (fields fields' : List FieldName) (type : Value) :
    (paintFor (some fields) type).names = (paintFor (some fields') type).names := by
  simp only [paintFor, metricPaint, paintProperties]
  split
  · rfl
  · split
    · rfl
    · rfl

theorem fault?_of_names {paint paint' : Record} (h : paint.names = paint'.names) (id : Value) :
    style.fault? paint id = style.fault? paint' id := by
  have hempty : paint.isEmpty = paint'.isEmpty := by
    have hnames := congrArg List.isEmpty h
    rwa [Record.names, Record.names, List.isEmpty_map, List.isEmpty_map] at hnames
  rw [fault?, hempty, fault?]

theorem tried_of_metric (fields fields' : List FieldName) :
    style.tried (some fields) specs = style.tried (some fields') specs := by
  induction specs with
  | nil => rfl
  | cons spec rest ih => rw [tried, tried, fault?_of_names (names_paintFor fields fields' spec.2), ih]

/-- The places that strokes go to and the names of the paint properties that they bring. -/
def traces (strokes : List (Nat × Record)) : List (Nat × List String) :=
  strokes.map fun stroke => (stroke.1, stroke.2.names)

/-- Whatever the metric, the same places get paint properties of the same names. -/
theorem traces_strokesOf (fields fields' : List FieldName) :
    traces (style.strokesOf (some fields) specs) = traces (style.strokesOf (some fields') specs) := by
  rw [traces, traces, strokesOf, strokesOf, List.map_flatMap, List.map_flatMap,
    tried_of_metric fields fields']
  refine List.flatMap_congr fun spec _ => ?_
  unfold strokes
  cases style.seat spec.1 with
  | error e => rfl
  | ok seat => rw [List.map_singleton, List.map_singleton, names_paintFor fields fields']

theorem map_names_paintsIn (strokes : List (Nat × Record)) (place : Nat) :
    (paintsIn strokes place).map Record.names =
      ((traces strokes).filter fun trace => trace.1 = place).map Prod.snd := by
  rw [paintsIn, traces, List.filter_map, List.map_map, List.map_map]
  rfl

/-- Drawing leaves nothing of what was drawn before in the same places under the same names. -/
theorem drawAll_drawAll {strokes strokes' : List (Nat × Record)}
    (h : traces strokes = traces strokes') (items : List Value) :
    drawAll filter' strokes' (drawAll filter strokes items) = drawAll filter' strokes' items := by
  refine List.ext_getElem? fun place => ?_
  have hnames : (paintsIn strokes place).map Record.names =
      (paintsIn strokes' place).map Record.names := by
    rw [map_names_paintsIn, map_names_paintsIn, h]
  rw [getElem?_drawAll, getElem?_drawAll, getElem?_drawAll, Option.map_map]
  congr 1
  funext item
  cases item with
  | object layer => exact congrArg Value.object (redraw_redraw_of_names hnames)
  | _ => rfl

end Style

open Style

variable {predicate : Predicate} {filter : Expression} {specs : List (Value × Value)}

/-! ## §2 Applying again -/

/-- An application behind another one comes to the same as the second one alone. -/
theorem synchronize_synchronize (h : predicate.toExpression? = some filter) (earlier : Predicate)
    (fields fields' : List FieldName) (style : Style) :
    synchronize predicate (some fields') (handlesOf specs)
        (synchronize earlier (some fields) (handlesOf specs) style).2.2 =
      synchronize predicate (some fields') (handlesOf specs) style := by
  cases hearlier : earlier.toExpression? with
  | none => rw [synchronize_of_none hearlier]
  | some filter' =>
    have hstyle := writeLayers_ofStyle (some fields) specs filter'.toValue style {} []
    have houtlines : (style.mapItems (drawAll filter'.toValue
        (style.strokesOf (some fields) specs))).outlines = style.outlines := outlines_drawAll _
    rw [synchronize_of_some h, synchronize_of_some h, synchronize_of_some hearlier, hstyle]
    obtain ⟨hreport, hlogs⟩ := writeLayers_congr (some fields') specs filter.toValue houtlines {} []
    refine Prod.ext (congrArg (Except.mapError SyncError.noKey) hreport) (Prod.ext hlogs ?_)
    rw [writeLayers_ofStyle, writeLayers_ofStyle, strokesOf_congr houtlines, mapItems_mapItems]
    simp only [drawAll_drawAll (traces_strokesOf fields fields')]

/-! ## §3 What an application changes -/

namespace Style

/-- The names of the paint properties that handles of a layer write for a metric. -/
def metricNames (fields : List FieldName) (specs : List (Value × Value)) (layer : Record) :
    List String :=
  (specs.filter fun spec => hasId spec.1 layer).flatMap fun spec => (metricPaint fields spec.2).names

/-- A document that shows a filter and the paint properties for a metric in the layers that handles
name, and otherwise is another document. A handle names the first layer that has its id. -/
structure IsSynchronized (filter : Value) (fields : List FieldName) (specs : List (Value × Value))
    (style after : Style) : Prop where
  settings : after.settings = style.settings
  unlisted : (∀ items, style.layers ≠ .list items) → after = style
  listed : ∀ items, style.layers = .list items → ∃ items', after.layers = .list items' ∧
    items'.length = items.length ∧
    ∀ (place : Nat) (item : Value), items[place]? = some item →
      items'[place]? = some item ∨
        ∃ spec ∈ specs, ∃ layer layer', IsFirst spec.1 items place layer ∧
          items'[place]? = some (.object layer') ∧
          IsRedrawn filter (metricNames fields specs layer) layer layer'

variable {style : Style} {specs : List (Value × Value)} {fields : List FieldName} {filter : Value}

theorem length_drawAll (strokes : List (Nat × Record)) (items : List Value) :
    (drawAll filter strokes items).length = items.length := by
  simpa using congrArg List.length (map_drawAll filter strokes items)

/-- What a pass brings to a place it brings for the layer there, which a handle names. -/
theorem exists_isFirst_of_mem_paintsIn {metric : Option (List FieldName)} {items : List Value}
    {place : Nat} {paint : Record} (hitems : style.layers = .list items)
    (h : paint ∈ paintsIn (style.strokesOf metric specs) place) :
    ∃ spec ∈ specs, ∃ layer, IsFirst spec.1 items place layer ∧ paint = paintFor metric spec.2 := by
  obtain ⟨stroke, hstroke, rfl⟩ := List.mem_map.1 h
  obtain ⟨hmem, hplace⟩ := List.mem_filter.1 hstroke
  obtain ⟨spec, hspec, seat, hseat, rfl⟩ := mem_strokesOf hmem
  obtain ⟨items', hitems', hseat⟩ := exists_items_of_seat hseat
  cases hitems.symm.trans hitems'
  obtain ⟨layer, hfirst, -⟩ := exists_layer_of_seat hseat
  cases of_decide_eq_true hplace
  exact ⟨spec, hspec, layer, hfirst, rfl⟩

/-- A document after a pass over layers. -/
theorem isSynchronized_drawAll :
    IsSynchronized filter fields specs style
      (style.mapItems (drawAll filter (style.strokesOf (some fields) specs))) where
  settings := by
    unfold mapItems
    split <;> rfl
  unlisted h := mapItems_eq_self fun items hitems => absurd hitems (h items)
  listed := by
    intro items hitems
    have hlayers : (style.mapItems (drawAll filter (style.strokesOf (some fields) specs))).layers =
        .list (drawAll filter (style.strokesOf (some fields) specs) items) := by
      rw [mapItems, hitems]
    refine ⟨_, hlayers, length_drawAll _ _, fun place item hitem => ?_⟩
    rw [getElem?_drawAll, hitem, Option.map_some]
    by_cases hpaints : paintsIn (style.strokesOf (some fields) specs) place = []
    · left
      rw [hpaints]
      cases item <;> rfl
    · right
      obtain ⟨paint, hpaint⟩ := List.exists_mem_of_ne_nil _ hpaints
      obtain ⟨spec, hspec, layer, hfirst, -⟩ := exists_isFirst_of_mem_paintsIn hitems hpaint
      cases hitem.symm.trans hfirst.inPlace
      refine ⟨spec, hspec, layer, _, hfirst, rfl, ?_⟩
      rw [redraw_eq_draw hpaints]
      refine isRedrawn_draw fun entry hentry => ?_
      -- Each entry comes with a handle that names the layer in this place, which is the same one.
      obtain ⟨paint', hpaint', hmem⟩ := List.mem_flatten.1 hentry
      obtain ⟨spec', hspec', layer', hfirst', rfl⟩ := exists_isFirst_of_mem_paintsIn hitems hpaint'
      cases hfirst.inPlace.symm.trans hfirst'.inPlace
      exact List.mem_flatMap.2 ⟨spec', List.mem_filter.2 ⟨hspec', hfirst'.hasId⟩,
        List.mem_map_of_mem hmem⟩

end Style

/-- The document after applications, one after the other. -/
def Style.afterAll (specs : List (Value × Value)) (applications : List (Predicate × List FieldName))
    (style : Style) : Style :=
  applications.foldl (fun style application =>
    (synchronize application.1 (some application.2) (handlesOf specs) style).2.2) style

/-- The report, the warnings and the document after the last of any number of applications are those of
this application alone, and it leaves everything alone but the filters and the paint properties for the
metric of layers that handles name. -/
theorem synchronize_latest (h : predicate.toExpression? = some filter) (specs : List (Value × Value))
    (earlier : List (Predicate × List FieldName)) (fields : List FieldName) (style : Style) :
    synchronize predicate (some fields) (handlesOf specs) (style.afterAll specs earlier) =
        synchronize predicate (some fields) (handlesOf specs) style ∧
      IsSynchronized filter.toValue fields specs style
        (synchronize predicate (some fields) (handlesOf specs) style).2.2 := by
  constructor
  · -- By induction on the earlier applications: the last one makes up for the first of them.
    induction earlier generalizing style with
    | nil => rfl
    | cons application rest ih =>
      exact (ih _).trans (synchronize_synchronize h application.1 application.2 fields style)
  · rw [synchronize_of_some h, writeLayers_ofStyle]
    exact isSynchronized_drawAll

/-- A document with two layers of one id and a layer that cannot be painted. -/
def Style.patchwork : Style where
  settings := [("version", .int 8)]
  layers := .list [.object [("id", .text "heat")], .object [("id", .text "heat"), ("filter", .null)],
    .object [("id", .text "dots"), ("paint", .list [])]]

/-- Layers that a document shows twice, cannot paint or does not have. -/
def Style.patchworkSpecs : List (Value × Value) :=
  [(.text "heat", .text "heatmap"), (.text "heat", .text "circle"), (.text "dots", .text "circle"),
    (.text "gone", .text "heatmap")]

theorem synchronize_latest_patchwork :
    (Predicate.all []).toExpression? = some (.all []) ∧
      synchronize (.all []) (some [.text "Sum"]) (handlesOf patchworkSpecs)
          (patchwork.afterAll patchworkSpecs
            [(.equals (.text "Branch") (.text "North"), [.text "Count"])]) =
        synchronize (.all []) (some [.text "Sum"]) (handlesOf patchworkSpecs) patchwork ∧
      IsSynchronized (Expression.all []).toValue [.text "Sum"] patchworkSpecs patchwork
        (synchronize (.all []) (some [.text "Sum"]) (handlesOf patchworkSpecs) patchwork).2.2 ∧
      (synchronize (.all []) (some [.text "Sum"]) (handlesOf patchworkSpecs) patchwork).1 =
        .ok { applied := [.text "heat", .text "heat"],
              failed := [(.text "dots", "list indices must be integers or slices, not str"),
                (.text "gone", "gone")] } := by
  have hfilter : (Predicate.all []).toExpression? = some (.all []) := rfl
  obtain ⟨hsame, hchanged⟩ := synchronize_latest hfilter patchworkSpecs
    [(.equals (.text "Branch") (.text "North"), [.text "Count"])] [.text "Sum"] patchwork
  exact ⟨hfilter, hsame, hchanged, by decide⟩

end MapFilter
