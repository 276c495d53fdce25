import MapFilter.Proofs.Value.Entries
import MapFilter.Style.Basic

/-!
# Drawing a layer

A layer is drawn by writing its filter, and then paint properties as far as these can be written. What
is drawn last counts, and once the same paint properties were drawn again nothing is left of what they
were before. The rest of the layer is never touched.

- `Style.draw`: a layer with a filter and further paint properties
- `Style.draw_draw`, `Style.draw_draw_of_names`: drawing twice
- `Style.redraw`: drawing any number of times
- `Style.IsRedrawn`: what drawing changes at most
-/

namespace MapFilter

namespace Style

/-! ## §1 Painting -/

/-- The paint properties of a layer, none if it lacks them. -/
def paintOf (layer : Record) : Value :=
  (layer.get? "paint").getD (.object [])

/-- A layer with further paint properties. One whose paint properties are no object stays. -/
def paintOver (paint : Record) (layer : Record) : Record :=
  match paint, paintOf layer with
  | _ :: _, .object old => layer.insert "paint" (.object (Record.insertAll old paint))
  | _, _ => layer

/-- Paint properties of a layer that are no object. -/
def unusablePaint? (layer : Record) : Option Value :=
  match paintOf layer with
  | .object _ => none
  | other => some other

variable {layer : Record} {filter filter' : Value} {paint paint' : Record}

theorem paintOf_insert_of_ne {name : String} {v : Value} (h : "paint" ≠ name) :
    paintOf (layer.insert name v) = paintOf layer := by
  rw [paintOf, Record.get?_insert_of_ne h, paintOf]

theorem paintOf_insert_paint {v : Value} : paintOf (layer.insert "paint" v) = v := by
  rw [paintOf, Record.get?_insert_self, Option.getD_some]

theorem paintOver_nil : paintOver [] layer = layer := rfl

theorem paintOver_of_unusable {v : Value} (h : unusablePaint? layer = some v) :
    paintOver paint layer = layer := by
  unfold unusablePaint? at h
  unfold paintOver
  split
  next old hold => rw [hold] at h; cases h
  next => rfl

theorem exists_paintOf_eq (h : unusablePaint? layer = none) : ∃ old, paintOf layer = .object old := by
  unfold unusablePaint? at h
  split at h
  next old hold => exact ⟨old, hold⟩
  next => cases h

theorem paintOver_eq {old : Record} (hpaint : paint ≠ []) (h : paintOf layer = .object old) :
    paintOver paint layer = layer.insert "paint" (.object (Record.insertAll old paint)) := by
  obtain ⟨property, rest, rfl⟩ := List.exists_cons_of_ne_nil hpaint
  simp only [paintOver, h]

theorem get?_paintOver_of_ne {name : String} (h : name ≠ "paint") :
    (paintOver paint layer).get? name = layer.get? name := by
  unfold paintOver
  split
  · exact Record.get?_insert_of_ne h
  · rfl

theorem unusablePaint?_paintOver : unusablePaint? (paintOver paint layer) = unusablePaint? layer := by
  unfold paintOver
  split
  next old hold => rw [unusablePaint?, paintOf_insert_paint, unusablePaint?, hold]
  next => rfl

/-- Painting one property is what writing it does. -/
theorem paintLayer_of_usable (name : String) (v : Value) (h : unusablePaint? layer = none) :
    paintLayer name v layer = .ok (paintOver [(name, v)] layer) := by
  obtain ⟨old, hold⟩ := exists_paintOf_eq h
  rw [paintOver_eq (List.cons_ne_nil _ _) hold]
  rw [paintOf] at hold
  simp only [paintLayer, hold]
  rfl

theorem paintLayer_of_unusable (name : String) (v : Value) {paint : Value}
    (h : unusablePaint? layer = some paint) :
    paintLayer name v layer = .error (.unusablePaint paint) := by
  unfold unusablePaint? paintOf at h
  unfold paintLayer
  cases hpaint : (layer.get? "paint").getD (.object []) with
  | object old => rw [hpaint] at h; cases h
  | _ => rw [hpaint] at h; cases h; rfl

/-- Painting in two goes is painting in one. -/
theorem paintOver_paintOver :
    paintOver paint' (paintOver paint layer) = paintOver (paint ++ paint') layer := by
  by_cases hpaint : paint = []
  · rw [hpaint, paintOver_nil, List.nil_append]
  by_cases hpaint' : paint' = []
  · rw [hpaint', paintOver_nil, List.append_nil]
  cases hunusable : unusablePaint? layer with
  | some v => simp only [paintOver_of_unusable hunusable]
  | none =>
    -- The layer may lack paint properties at first, but not in the second go.
    obtain ⟨old, hold⟩ := exists_paintOf_eq hunusable
    have happend : paint ++ paint' ≠ [] := by simp [hpaint]
    rw [paintOver_eq hpaint hold, paintOver_eq hpaint' paintOf_insert_paint,
      paintOver_eq happend hold, Record.insert_insert_self, Record.insertAll_append]

/-- Painting leaves nothing of paint properties that were put in before under the same names. -/
theorem paintOver_append_of_names (h : paint.names = paint'.names) :
    paintOver (paint ++ paint') layer = paintOver paint' layer := by
  cases hunusable : unusablePaint? layer with
  | some v => simp only [paintOver_of_unusable hunusable]
  | none =>
    obtain ⟨old, hold⟩ := exists_paintOf_eq hunusable
    by_cases hpaint' : paint' = []
    · rw [hpaint'] at h ⊢
      rw [List.map_eq_nil_iff.1 h, List.append_nil]
    · have happend : paint ++ paint' ≠ [] := by simp [hpaint']
      rw [paintOver_eq happend hold, paintOver_eq hpaint' hold, Record.insertAll_append,
        Record.insertAll_insertAll h]

theorem insert_filter_paintOver (h : layer.has "filter" = true) :
    (paintOver paint layer).insert "filter" filter = paintOver paint (layer.insert "filter" filter) := by
  by_cases hpaint : paint = []
  · rw [hpaint, paintOver_nil, paintOver_nil]
  have hsame : paintOf (layer.insert "filter" filter) = paintOf layer := paintOf_insert_of_ne (by decide)
  cases hunusable : unusablePaint? layer with
  | some v =>
    have hafter : unusablePaint? (layer.insert "filter" filter) = some v := by
      rwa [unusablePaint?, hsame]
    rw [paintOver_of_unusable hunusable, paintOver_of_unusable hafter]
  | none =>
    obtain ⟨old, hold⟩ := exists_paintOf_eq hunusable
    rw [paintOver_eq hpaint hold, paintOver_eq hpaint (hsame.trans hold),
      Record.insert_comm_of_has h (by decide)]

/-! ## §2 Drawing -/

/-- A layer with a filter and further paint properties. -/
def draw (filter : Value) (paint : Record) (layer : Record) : Record :=
  paintOver paint (layer.insert "filter" filter)

/-- Of two drawings the last filter counts, and the paint properties add up. -/
theorem draw_draw :
    draw filter' paint' (draw filter paint layer) = draw filter' (paint ++ paint') layer := by
  -- The second filter is written before the first paint, where the first filter has its place already.
  simp only [draw]
  rw [insert_filter_paintOver Record.has_insert_self, Record.insert_insert_self, paintOver_paintOver]

/-- A drawing leaves nothing of one before it that has the same names. -/
theorem draw_draw_of_names (h : paint.names = paint'.names) :
    draw filter' paint' (draw filter paint layer) = draw filter' paint' layer := by
  rw [draw_draw, draw, paintOver_append_of_names h, draw]

/-- A layer that was drawn any number of times. -/
def redraw (filter : Value) (paints : List Record) (layer : Record) : Record :=
  paints.foldl (fun layer paint => draw filter paint layer) layer

/-- Drawing again and again is drawing once with everything. -/
theorem redraw_eq_draw {paints : List Record} (h : paints ≠ []) :
    redraw filter paints layer = draw filter paints.flatten layer := by
  obtain ⟨first, rest, rfl⟩ := List.exists_cons_of_ne_nil h
  induction rest generalizing first with
  | nil => rw [List.flatten_cons, List.flatten_nil, List.append_nil]; rfl
  | cons next rest ih =>
    have hfirst : redraw filter (first :: next :: rest) layer =
        redraw filter ((first ++ next) :: rest) layer := by
      change redraw filter rest (draw filter next (draw filter first layer)) = _
      rw [draw_draw]
      rfl
    rw [hfirst, ih _ (List.cons_ne_nil _ _), List.flatten_cons, List.flatten_cons, List.flatten_cons,
      List.append_assoc]

/-- A layer that was drawn under some names shows nothing of it once it is drawn under the same names
again. -/
theorem redraw_redraw_of_names {paints paints' : List Record}
    (h : paints.map Record.names = paints'.map Record.names) :
    redraw filter' paints' (redraw filter paints layer) = redraw filter' paints' layer := by
  by_cases hpaints : paints = []
  · rw [hpaints, List.map_nil] at h
    rw [hpaints, List.map_eq_nil_iff.1 h.symm]
    rfl
  · have hpaints' : paints' ≠ [] := by
      intro hnil
      rw [hnil] at h
      exact hpaints (List.map_eq_nil_iff.1 h)
    have hnames : Record.names paints.flatten = Record.names paints'.flatten := by
      simp only [Record.names, List.map_flatten]
      exact congrArg List.flatten h
    rw [redraw_eq_draw hpaints, redraw_eq_draw hpaints', redraw_eq_draw hpaints',
      draw_draw_of_names hnames]

/-! ## §3 What drawing leaves alone -/

/-- A layer that shows a filter and may show other values of some paint properties, and otherwise is
another layer. -/
structure IsRedrawn (filter : Value) (properties : List String) (layer layer' : Record) : Prop where
  filter : layer'.get? "filter" = some filter
  others : layer'.others ["filter", "paint"] = layer.others ["filter", "paint"]
  /-- The paint properties are what they were, or they were an object or missing and are an object
  now that holds one of the properties. -/
  paint : layer'.get? "paint" = layer.get? "paint" ∨
    ∃ old new, paintOf layer = .object old ∧ layer'.get? "paint" = some (.object new) ∧
      Record.others properties new = Record.others properties old ∧
      ∃ name ∈ properties, Record.has new name = true

theorem others_paintOver {names : List String} (h : "paint" ∈ names) :
    (paintOver paint layer).others names = layer.others names := by
  unfold paintOver
  split
  · exact Record.others_insert h
  · rfl

theorem isRedrawn_draw {properties : List String} (h : ∀ entry ∈ paint, entry.1 ∈ properties) :
    IsRedrawn filter properties layer (draw filter paint layer) where
  filter := by rw [draw, get?_paintOver_of_ne (by decide), Record.get?_insert_self]
  others := by rw [draw, others_paintOver (by decide), Record.others_insert (by decide)]
  paint := by
    have hget : (layer.insert "filter" filter).get? "paint" = layer.get? "paint" :=
      Record.get?_insert_of_ne (by decide)
    rw [draw]
    cases hunusable : unusablePaint? (layer.insert "filter" filter) with
    | some v => exact .inl (by rw [paintOver_of_unusable hunusable, hget])
    | none =>
      obtain ⟨old, hold⟩ := exists_paintOf_eq hunusable
      cases hpaint : paint with
      | nil => exact .inl hget
      | cons property rest =>
        have hproperty : property.1 ∈ properties := h property (by rw [hpaint]; exact List.mem_cons_self)
        rw [paintOver_eq (List.cons_ne_nil _ _) hold, ← hpaint]
        rw [paintOf_insert_of_ne (by decide)] at hold
        exact .inr ⟨old, _, hold, Record.get?_insert_self, Record.others_insertAll h, property.1,
          hproperty, Record.has_insertAll_of_mem (by rw [hpaint]; exact List.mem_cons_self)⟩

end Style

end MapFilter
