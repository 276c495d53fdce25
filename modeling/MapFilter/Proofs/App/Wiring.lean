import MapFilter.App.Basic
import MapFilter.Proofs.Table.Numeric

/-!
# How the parts are wired

The parts of an application are made from one table of settings, so they agree with each other: the
style has the configured layers in their order and the service writes to these, and the source that
the service asks for is the one whose features the store has.

- `App.IsWired`: what the parts made from settings have in common
- `App.isWired_of_ofSettings`: it holds of every application
- `smallApp`: an application with a heat map and circles
-/

namespace MapFilter

/-- What the parts made from settings have in common. -/
structure App.IsWired (settings : Record) (app : App) : Prop where
  source_eq : app.service.source = Style.sourceOf settings
  source_isKey : app.service.source.isKey = true
  store_eq : app.store = StoreSettings.ofSettings settings
  layers_eq : app.style.layers =
    .list (app.service.layers.map fun spec => .object (Style.freshLayer settings spec.1 spec.2))
  named : ∀ spec ∈ app.service.layers, ∃ name, spec.1 = .text name

/-- A style made from settings has the configured layers, and its source is a key. -/
theorem Style.ofSettings_ok {name : Value → String} {settings : Record}
    {specs : List (Value × Value)} {style : Style}
    (hspecs : configuredLayers settings = .ok specs)
    (h : Style.ofSettings name settings = .ok style) :
    (sourceOf settings).isKey = true ∧
      style.layers = .list (specs.map fun spec => .object (freshLayer settings spec.1 spec.2)) := by
  simp only [Style.ofSettings, hspecs] at h
  split at h
  · cases h
    exact ⟨‹_›, rfl⟩
  · cases h

/-- The layers of a style made from settings have the configured ids. -/
theorem Style.layerIds_eq {settings : Record} {specs : List (Value × Value)} {style : Style}
    (h : style.layers = .list (specs.map fun spec => .object (freshLayer settings spec.1 spec.2))) :
    style.layerIds = .ok (specs.map Prod.fst) := by
  have hlayers (specs : List (Value × Value)) :
      (specs.map fun spec => Value.object (freshLayer settings spec.1 spec.2)).mapM layerOf =
        .ok (specs.map fun spec => freshLayer settings spec.1 spec.2) := by
    induction specs with
    | nil => rfl
    | cons spec specs ih => simp [layerOf, ih, bind, Except.bind, pure, Except.pure]
  simp only [layerIds, items, h, Value.items?, hlayers, bind, Except.bind, pure, Except.pure,
    List.map_map]
  rfl

/-- Values of which each has a text are texts. -/
theorem Value.exists_of_mapM_toText? {values : List Value}
    (h : (values.mapM Value.toText?).isSome = true) : ∀ v ∈ values, ∃ name, v = .text name := by
  induction values with
  | nil => simp
  | cons v values ih =>
    cases v with
    | text name =>
      cases hrest : values.mapM Value.toText? with
      | none => simp [toText?, hrest] at h
      | some names =>
        intro w hw
        rcases List.mem_cons.1 hw with rfl | hw
        · exact ⟨name, rfl⟩
        · exact ih (by simp [hrest]) w hw
    | _ => simp [toText?] at h

namespace App

theorem ofStyle_ok {α : Type} {a : α} {x : Except StyleError α} (h : ofStyle x = .ok a) :
    x = .ok a := by
  cases x with
  | ok b => cases h; rfl
  | error e => cases h

theorem isWired_of_ofSettings {settings : Record} {app : App} (h : ofSettings settings = .ok app) :
    app.IsWired settings := by
  obtain ⟨metrics, -, h⟩ := bind_ok h
  obtain ⟨layers, hlayers, h⟩ := bind_ok h
  obtain ⟨style, hstyle, h⟩ := bind_ok h
  obtain ⟨fields, -, h⟩ := bind_ok h
  obtain ⟨sampleSize, -, h⟩ := bind_ok h
  obtain ⟨ids, hids, h⟩ := bind_ok h
  obtain ⟨hsource, hlayers⟩ := Style.ofSettings_ok (ofStyle_ok hlayers) (ofStyle_ok hstyle)
  -- The ids of the layers are looked at last, and only to announce them.
  split at h
  · cases h
  · rename_i hnamed
    cases h
    have hids : Except.ok (layers.map Prod.fst) = Except.ok ids :=
      (Style.layerIds_eq hlayers).symm.trans (ofStyle_ok hids)
    cases hids
    have hnamed := Value.exists_of_mapM_toText? (Option.isSome_iff_ne_none.2 fun hnone =>
      hnamed (by rw [hnone]; rfl))
    exact ⟨rfl, hsource, rfl, hlayers, fun spec hspec =>
      hnamed spec.1 (List.mem_map_of_mem hspec)⟩

end App

/-! ## A small application -/

/-- The settings of a map with a heat map and circles, whose database is not kept. -/
def smallSettings : Record :=
  [("METRICS", .object []), ("METRIC_FIELDS", .object []),
    ("LAYERS", .list
      [.object [("id", .text "heat"), ("type", .text "heatmap")],
        .object [("id", .text "points"), ("type", .text "circle")]]),
    ("DATE_KEY_FIELD", .text "Day"), ("DATE_KEY_ALT_FIELDS", .list []),
    ("PROBE_SAMPLE_SIZE", .int 2), ("DUCKDB_PATH", .text "")]

def smallApp : App where
  service :=
    { fields := { dateKey := .text "Day", alternates := [] }
      limit := some defaultDayLimit
      metrics := ⟨[], []⟩
      source := .text "wl-src"
      layers := [(.text "heat", .text "heatmap"), (.text "points", .text "circle")] }
  store := StoreSettings.ofSettings smallSettings
  sampleSize := 2
  style :=
    { settings := [("version", .int 8),
        ("sources", .object [("wl-src",
          .object [("type", .text "vector"), ("url", .text "mapbox://")])])]
      layers := .list
        [.object (Style.freshLayer smallSettings (.text "heat") (.text "heatmap")),
          .object (Style.freshLayer smallSettings (.text "points") (.text "circle"))] }
  passesFaults := false

theorem ofSettings_smallSettings : App.ofSettings smallSettings = .ok smallApp := rfl

end MapFilter
