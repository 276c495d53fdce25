import MapFilter.Proofs.Style.Places

/-!
# Layers are written to on their own

A pass tries every layer, whatever became of the others. Each is written its filter first and then the
paint properties of its type, up to the first write that fails, and the report tells of all of them: who
was written to, and who was not and why. Layers of a document with different ids do not get in each
other's way at all.

- `LayerHandle.Takes`: what a layer is written, and where that ends
- `Visits`: a pass over layers, each with what became of it
- `SyncReport.Tells`: a report that tells what became of every layer
- `synchronize_visits`: all of this for every pass
-/

namespace MapFilter

variable {σ : Type} {filter : Value} {metric : Option (List FieldName)}

/-! ## §1 Visits -/

/-- A write to a layer. -/
inductive LayerWrite where
  | filter (filter : Value)
  | paint (name : String) (value : Value)

namespace LayerHandle

/-- A write that a layer takes or does not take, and the state that this leaves behind. -/
def take (handle : LayerHandle σ) : LayerWrite → σ → σ × Option LayerFault
  | .filter filter => handle.setFilter filter
  | .paint name value => handle.setPaint name value

/-- What a layer is to be written: the filter, and then the paint properties of its type. -/
def writes (handle : LayerHandle σ) (filter : Value) (metric : Option (List FieldName)) :
    List LayerWrite :=
  .filter filter :: (Style.paintFor metric handle.type).map fun (name, value) => .paint name value

/-- Writes that a layer takes one after the other, up to the first that fails. -/
inductive Takes (handle : LayerHandle σ) : List LayerWrite → σ → σ → Option LayerFault → Prop where
  | done (s : σ) : Takes handle [] s s none
  | took {write : LayerWrite} {rest : List LayerWrite} {s t u : σ} {fault? : Option LayerFault}
      (htake : handle.take write s = (t, none)) (hrest : Takes handle rest t u fault?) :
      Takes handle (write :: rest) s u fault?
  | failed {write : LayerWrite} {rest : List LayerWrite} {s t : σ} {fault : LayerFault}
      (htake : handle.take write s = (t, some fault)) : Takes handle (write :: rest) s t (some fault)

variable (handle : LayerHandle σ)

theorem takes_paintAll (properties : List (String × Expression)) (s : σ) :
    handle.Takes (properties.map fun (name, e) => .paint name e.toValue) s
      (paintAll handle properties s).1 (paintAll handle properties s).2 := by
  induction properties generalizing s with
  | nil => exact .done s
  | cons property rest ih =>
    obtain ⟨name, e⟩ := property
    rw [paintAll, List.map_cons]
    cases hpaint : handle.setPaint name e.toValue s with
    | mk t fault? =>
      cases fault? with
      | none => exact .took hpaint (ih t)
      | some fault => exact .failed hpaint

/-- Writing to a layer is writing all that it is to be written. -/
theorem takes_writeLayer (filter : Value) (metric : Option (List FieldName)) (s : σ) :
    handle.Takes (handle.writes filter metric) s (writeLayer filter metric handle s).1
      (writeLayer filter metric handle s).2 := by
  rw [writes, writeLayer]
  cases hfilter : handle.setFilter filter s with
  | mk t fault? =>
    cases fault? with
    | some fault => exact .failed hfilter
    | none =>
      refine .took hfilter ?_
      cases metric with
      | none => exact .done t
      | some fields =>
        have hpaint := handle.takes_paintAll (paintProperties handle.type fields) t
        rwa [Style.paintFor, Style.metricPaint, List.map_map]

end LayerHandle

/-- A layer with what became of it: nothing to report, or why it was not written to. -/
structure Visit (σ : Type) where
  handle : LayerHandle σ
  fault? : Option LayerFault

/-- Layers that are tried one after the other, whatever becomes of them. -/
inductive Visits (filter : Value) (metric : Option (List FieldName)) :
    List (Visit σ) → σ → σ → Prop where
  | nil (s : σ) : Visits filter metric [] s s
  | cons {visit : Visit σ} {rest : List (Visit σ)} {s t u : σ}
      (hvisit : visit.handle.Takes (visit.handle.writes filter metric) s t visit.fault?)
      (hrest : Visits filter metric rest t u) : Visits filter metric (visit :: rest) s u

/-- The warnings about the layers that were not written to. -/
def warnings (visits : List (Visit σ)) : List LogEntry :=
  visits.filterMap fun visit => visit.fault?.map (faultEntry visit.handle.id)

/-! ## §2 Reports -/

/-- The last fault of a layer with the id. -/
def lastFault? (visits : List (Visit σ)) (id : Value) : Option LayerFault :=
  (visits.filterMap fun visit =>
    if visit.handle.id.same id then visit.fault? else none).getLast?

namespace SyncReport

/-- A report that tells what became of every layer: the ids of those that were written to, in order, and
under the ids of the others the text of their last fault. -/
structure Tells (report : SyncReport) (visits : List (Visit σ)) : Prop where
  applied : report.applied = (visits.filter (·.fault?.isNone)).map (·.handle.id)
  apart : report.failed.Pairwise fun a b => a.1.same b.1 = false
  onlyFaulty : ∀ entry ∈ report.failed, ∃ visit ∈ visits,
    visit.fault?.isSome = true ∧ visit.handle.id = entry.1
  everyFaulty : ∀ visit ∈ visits, visit.fault?.isSome = true → ∃ entry ∈ report.failed,
    entry.1 = visit.handle.id ∨ entry.1.same visit.handle.id = true
  text : ∀ id, report.failed.get? id = (lastFault? visits id).map LayerFault.summary

variable {report : SyncReport} {visits : List (Visit σ)}

theorem tells_nil : Tells {} ([] : List (Visit σ)) where
  applied := rfl
  apart := .nil
  onlyFaulty _ h := nomatch h
  everyFaulty _ h := nomatch h
  text _ := rfl

theorem Tells.addSuccess (h : report.Tells visits) (handle : LayerHandle σ) :
    (report.addSuccess handle.id).Tells (visits ++ [⟨handle, none⟩]) where
  applied := by
    rw [SyncReport.addSuccess, h.applied]
    simp
  apart := h.apart
  onlyFaulty entry hentry := by
    obtain ⟨visit, hvisit, hfault, hid⟩ := h.onlyFaulty entry hentry
    exact ⟨visit, List.mem_append_left _ hvisit, hfault, hid⟩
  everyFaulty visit hvisit hfault := by
    obtain hbefore | hlast := List.mem_append.1 hvisit
    · exact h.everyFaulty visit hbefore hfault
    · cases List.mem_singleton.1 hlast
      cases hfault
  text id := by
    have hlast : lastFault? (visits ++ [⟨handle, none⟩]) id = lastFault? visits id := by
      simp [lastFault?]
    rw [hlast]
    exact h.text id

theorem lastFault?_append (visits : List (Visit σ)) (handle : LayerHandle σ) (fault : LayerFault)
    (id : Value) :
    lastFault? (visits ++ [⟨handle, some fault⟩]) id =
      if handle.id.same id then some fault else lastFault? visits id := by
  cases h : handle.id.same id <;> simp [lastFault?, h]

theorem Tells.addFailure (h : report.Tells visits)
    (hkeys : ∀ visit ∈ visits, visit.handle.id.isKey = true) {handle : LayerHandle σ}
    (hkey : handle.id.isKey = true) (fault : LayerFault) :
    Tells { report with failed := report.failed.insert handle.id fault.summary }
      (visits ++ [⟨handle, some fault⟩]) where
  applied := by
    rw [h.applied]
    simp
  apart := Keyed.pairwise_insert h.apart
  onlyFaulty entry hentry := by
    have hbefore : ∀ old ∈ report.failed, ∃ visit ∈ visits ++ [⟨handle, some fault⟩],
        visit.fault?.isSome = true ∧ visit.handle.id = old.1 := by
      intro old hold
      obtain ⟨visit, hvisit, hfaulty⟩ := h.onlyFaulty old hold
      exact ⟨visit, List.mem_append_left _ hvisit, hfaulty⟩
    obtain hold | rfl | ⟨old, hold, -, rfl⟩ := Keyed.mem_insert hentry
    · exact hbefore entry hold
    · exact ⟨⟨handle, some fault⟩, List.mem_append_right _ (List.mem_singleton.2 rfl), rfl, rfl⟩
    · exact hbefore old hold
  everyFaulty visit hvisit hfaulty := by
    obtain hbefore | hlast := List.mem_append.1 hvisit
    · obtain ⟨old, hold, hid⟩ := h.everyFaulty visit hbefore hfaulty
      obtain ⟨new, hnew, hsame⟩ := Keyed.exists_mem_insert_of_mem hold
      exact ⟨new, hnew, hsame ▸ hid⟩
    · cases List.mem_singleton.1 hlast
      exact Keyed.exists_mem_insert_self
  text id := by
    have hfailed : Keyed.HasKeys report.failed := by
      intro entry hentry
      obtain ⟨visit, hvisit, -, hid⟩ := h.onlyFaulty entry hentry
      exact hid ▸ hkeys visit hvisit
    rw [Keyed.get?_insert hfailed hkey, lastFault?_append, h.text]
    split <;> rfl

/-- A report is good if some layer was written to, or none had to be. -/
theorem Tells.ok_iff (h : report.Tells visits) :
    report.ok = true ↔ visits = [] ∨ ∃ visit ∈ visits, visit.fault? = none := by
  have happlied : report.applied ≠ [] ↔ ∃ visit ∈ visits, visit.fault? = none := by
    rw [h.applied, ne_eq, List.map_eq_nil_iff, List.filter_eq_nil_iff]
    simp
  have hfailed : report.failed = [] ↔ ∀ visit ∈ visits, visit.fault? = none := by
    constructor
    · intro hnil visit hvisit
      by_contra hfault
      obtain ⟨entry, hentry, -⟩ := h.everyFaulty visit hvisit (Option.isSome_iff_ne_none.2 hfault)
      rw [hnil] at hentry
      cases hentry
    · intro hnone
      refine List.eq_nil_iff_forall_not_mem.2 fun entry hentry => ?_
      obtain ⟨visit, hvisit, hfault, -⟩ := h.onlyFaulty entry hentry
      rw [hnone visit hvisit] at hfault
      cases hfault
  have hok : report.ok = true ↔ report.applied ≠ [] ∨ report.failed = [] := by
    simp [SyncReport.ok]
  rw [hok, happlied, hfailed]
  cases visits with
  | nil => simp
  | cons visit rest =>
    constructor
    · rintro (hsome | hall)
      · exact .inr hsome
      · exact .inr ⟨visit, List.mem_cons_self, hall visit List.mem_cons_self⟩
    · rintro (hnil | hsome)
      · cases hnil
      · exact .inl hsome

end SyncReport

/-! ## §3 Passes -/

variable (filter metric) in
/-- A pass over layers whose ids are keys visits all of them, and its report goes on to tell of them. -/
theorem writeLayers_visits (handles : List (LayerHandle σ))
    (hkeys : ∀ handle ∈ handles, handle.id.isKey = true) {before : List (Visit σ)}
    (hbefore : ∀ visit ∈ before, visit.handle.id.isKey = true) {report : SyncReport}
    (htells : report.Tells before) (logs : List LogEntry) (s : σ) :
    ∃ visits report' t,
      writeLayers filter metric handles (report, logs, s) = (.ok report', logs ++ warnings visits, t) ∧
      visits.map Visit.handle = handles ∧ Visits filter metric visits s t ∧
      report'.Tells (before ++ visits) := by
  -- By induction on the layers still to come, from a report that tells of those before them.
  induction handles generalizing before report logs s with
  | nil =>
    exact ⟨[], report, s, by rw [writeLayers, warnings, List.filterMap_nil, List.append_nil], rfl,
      .nil s, by rwa [List.append_nil]⟩
  | cons handle rest ih =>
    have hkey : handle.id.isKey = true := hkeys handle List.mem_cons_self
    have hrest : ∀ other ∈ rest, other.id.isKey = true :=
      fun other hother => hkeys other (List.mem_cons_of_mem _ hother)
    have hnext : ∀ fault?, ∀ visit ∈ before ++ [⟨handle, fault?⟩], visit.handle.id.isKey = true := by
      intro fault? visit hvisit
      obtain hold | hnew := List.mem_append.1 hvisit
      · exact hbefore visit hold
      · cases List.mem_singleton.1 hnew
        exact hkey
    have htakes := handle.takes_writeLayer filter metric s
    rw [writeLayers]
    cases hwrite : writeLayer filter metric handle s with
    | mk t fault? =>
      rw [hwrite] at htakes
      cases fault? with
      | none =>
        obtain ⟨visits, report', u, hrun, hhandles, hvisits, hreport⟩ :=
          ih hrest (hnext none) (htells.addSuccess handle) logs t
        refine ⟨⟨handle, none⟩ :: visits, report', u, hrun, by rw [List.map_cons, hhandles],
          .cons htakes hvisits, ?_⟩
        rwa [List.append_assoc] at hreport
      | some fault =>
        obtain ⟨visits, report', u, hrun, hhandles, hvisits, hreport⟩ :=
          ih hrest (hnext (some fault)) (htells.addFailure hbefore hkey fault)
            (logs ++ [faultEntry handle.id fault]) t
        refine ⟨⟨handle, some fault⟩ :: visits, report', u, ?_, by rw [List.map_cons, hhandles],
          .cons htakes hvisits, ?_⟩
        · simp only [SyncReport.addFailure_eq, hkey, if_true, hrun, List.append_assoc]
          rfl
        · rwa [List.append_assoc] at hreport

/-! ## §4 Layers with ids of their own -/

namespace Style

variable {style : Style} {specs : List (Value × Value)} {spec other : Value × Value} {seat : Seat}

/-- With ids that are keys a pass tries all layers. -/
theorem tried_of_isKey (h : ∀ spec ∈ specs, spec.1.isKey = true) :
    style.tried metric specs = specs := by
  induction specs with
  | nil => rfl
  | cons spec rest ih =>
    have hrest := ih fun other hother => h other (List.mem_cons_of_mem _ hother)
    rw [tried, h spec List.mem_cons_self, hrest, Bool.not_true, Bool.and_false, if_neg Bool.false_ne_true]

/-- Ids of one seat are equal in value. -/
theorem same_of_place_eq {id id' : Value} {seat' : Seat} (hkey : id.isKey = true)
    (h : style.seat id = .ok seat) (h' : style.seat id' = .ok seat')
    (hplace : seat.place = seat'.place) : id.same id' = true := by
  obtain ⟨items, hitems, hseat⟩ := exists_items_of_seat h
  obtain ⟨items', hitems', hseat'⟩ := exists_items_of_seat h'
  cases hitems.symm.trans hitems'
  obtain ⟨layer, hfirst, -⟩ := exists_layer_of_seat hseat
  obtain ⟨layer', hfirst', -⟩ := exists_layer_of_seat hseat'
  have hlayer : layer' = layer := by
    have hsame := hfirst'.inPlace
    rw [← hplace, hfirst.inPlace] at hsame
    cases hsame
    rfl
  have hid : (layerId layer).same id = true := hfirst.hasId
  have hid' : (layerId layer).same id' = true := by
    rw [← hlayer]
    exact hfirst'.hasId
  have hlayerKey : (layerId layer).isKey = true := by rw [Value.isKey_of_same hid, hkey]
  rw [← Value.same_congr hlayerKey hid, hid']

/-- Layers of different ids bring nothing to each other's places. -/
theorem paintsIn_strokes_eq_nil (hkey : other.1.isKey = true) (hapart : other.1.same spec.1 = false)
    (hseat : style.seat spec.1 = .ok seat) :
    paintsIn (style.strokes (paintFor metric other.2) other.1) seat.place = [] := by
  unfold strokes
  cases hother : style.seat other.1 with
  | error e => rfl
  | ok seat' =>
    have hplace : seat'.place ≠ seat.place := by
      intro hplace
      rw [same_of_place_eq hkey hother hseat hplace] at hapart
      cases hapart
    simp [paintsIn, hplace]

theorem paintsIn_flatMap_eq_nil {others : List (Value × Value)}
    (hkeys : ∀ other ∈ others, other.1.isKey = true)
    (hapart : ∀ other ∈ others, other.1.same spec.1 = false) (hseat : style.seat spec.1 = .ok seat) :
    paintsIn (others.flatMap fun other => style.strokes (paintFor metric other.2) other.1)
      seat.place = [] := by
  induction others with
  | nil => rfl
  | cons other rest ih =>
    rw [List.flatMap_cons, paintsIn_append, paintsIn_strokes_eq_nil (hkeys other List.mem_cons_self)
      (hapart other List.mem_cons_self) hseat, List.nil_append]
    exact ih (fun next h => hkeys next (List.mem_cons_of_mem _ h))
      fun next h => hapart next (List.mem_cons_of_mem _ h)

/-- What a pass brings to the place of a layer is what its own handle brings. -/
theorem paintsIn_strokesOf (hkeys : ∀ spec ∈ specs, spec.1.isKey = true)
    (hapart : specs.Pairwise fun a b => a.1.same b.1 = false) (hspec : spec ∈ specs)
    (hseat : style.seat spec.1 = .ok seat) :
    paintsIn (style.strokesOf metric specs) seat.place =
      paintsIn (style.strokesOf metric [spec]) seat.place := by
  have hsingle : ∀ one ∈ [spec], one.1.isKey = true := by
    intro one hone
    rw [List.mem_singleton.1 hone, hkeys spec hspec]
  rw [strokesOf, tried_of_isKey hkeys, strokesOf, tried_of_isKey hsingle, List.flatMap_singleton]
  -- The layers before this one and those after it bring nothing to its place.
  obtain ⟨before, after, rfl⟩ := List.append_of_mem hspec
  have hbeforeKeys : ∀ other ∈ before, other.1.isKey = true :=
    fun other h => hkeys other (List.mem_append_left _ h)
  have hafterKeys : ∀ other ∈ after, other.1.isKey = true :=
    fun other h => hkeys other (List.mem_append_right _ (List.mem_cons_of_mem _ h))
  obtain ⟨-, hrest, hcross⟩ := List.pairwise_append.1 hapart
  have hbefore : ∀ other ∈ before, other.1.same spec.1 = false :=
    fun other h => hcross other h spec List.mem_cons_self
  have hafter : ∀ other ∈ after, other.1.same spec.1 = false := by
    intro other h
    have hne : spec.1.same other.1 = false := (List.pairwise_cons.1 hrest).1 other h
    cases hsame : other.1.same spec.1 with
    | false => rfl
    | true => rw [Value.same_symm (hafterKeys other h) hsame] at hne; cases hne
  rw [List.flatMap_append, List.flatMap_cons, paintsIn_append, paintsIn_append,
    paintsIn_flatMap_eq_nil hbeforeKeys hbefore hseat, paintsIn_flatMap_eq_nil hafterKeys hafter hseat,
    List.nil_append, List.append_nil]

/-- What a layer looks like after a pass depends on what is brought to its own place only. -/
theorem layer_mapItems_congr {id : Value} {strokes strokes' : List (Nat × Record)}
    (h : ∀ seat, style.seat id = .ok seat →
      paintsIn strokes seat.place = paintsIn strokes' seat.place) :
    (style.mapItems (drawAll filter strokes)).layer id =
      (style.mapItems (drawAll filter strokes')).layer id := by
  cases hlayers : style.layers with
  | list items =>
    have hlayer : ∀ strokes, (style.mapItems (drawAll filter strokes)).layer id =
        (style.seat id).map fun seat => layerIn (drawAll filter strokes items) seat.place := by
      intro strokes
      have hafter : (style.mapItems (drawAll filter strokes)).layers =
          .list (drawAll filter strokes items) := by
        rw [mapItems, hlayers]
      rw [layer_eq hafter, seat_congr (outlines_drawAll strokes)]
    rw [hlayer, hlayer]
    cases hseat : style.seat id with
    | error e => rfl
    | ok seat =>
      have hplace : (drawAll filter strokes items)[seat.place]? =
          (drawAll filter strokes' items)[seat.place]? := by
        rw [getElem?_drawAll, getElem?_drawAll, h seat hseat]
      simp only [Except.map, layerIn, hplace]
  | _ => simp only [mapItems, hlayers]

end Style

open Style

/-- A pass tries every layer, whatever becomes of the others: it writes the filter and then the paint of
the metric, up to the first write that fails. Its report tells what became of every layer. Layers of a
document that have ids of their own end up as if each had been written to alone. No layer is touched for
a predicate without an expression. -/
theorem synchronize_visits (σ : Type) (predicate : Predicate) (metric : Option (List FieldName)) :
    (predicate.toExpression? = none → ∀ (handles : List (LayerHandle σ)) (s : σ),
      synchronize predicate metric handles s = (.error .unspecified, [], s)) ∧
    ∀ filter, predicate.toExpression? = some filter →
      (∀ (handles : List (LayerHandle σ)) (s : σ), (∀ handle ∈ handles, handle.id.isKey = true) →
        ∃ visits report t,
          synchronize predicate metric handles s = (.ok report, warnings visits, t) ∧
          visits.map Visit.handle = handles ∧ Visits filter.toValue metric visits s t ∧
          report.Tells visits ∧
          (report.ok = true ↔ handles = [] ∨ ∃ visit ∈ visits, visit.fault? = none)) ∧
      ∀ (specs : List (Value × Value)) (style : Style), (∀ spec ∈ specs, spec.1.isKey = true) →
        specs.Pairwise (fun a b => a.1.same b.1 = false) → ∀ spec ∈ specs,
          (synchronize predicate metric (handlesOf specs) style).2.2.layer spec.1 =
            (synchronize predicate metric [.ofStyle spec.1 spec.2] style).2.2.layer spec.1 := by
  refine ⟨fun hnone handles s => synchronize_of_none hnone handles s, fun filter hfilter => ⟨?_, ?_⟩⟩
  · intro handles s hkeys
    have hnone : ∀ visit ∈ ([] : List (Visit σ)), visit.handle.id.isKey = true := fun _ h => by cases h
    obtain ⟨visits, report, t, hrun, hhandles, hvisits, htells⟩ :=
      writeLayers_visits filter.toValue metric handles hkeys hnone SyncReport.tells_nil [] s
    have hok := htells.ok_iff
    rw [List.nil_append] at htells hok
    refine ⟨visits, report, t, ?_, hhandles, hvisits, htells, ?_⟩
    · rw [synchronize_of_some hfilter, hrun]
      rfl
    · rw [hok, ← hhandles, List.map_eq_nil_iff]
  · intro specs style hkeys hapart spec hspec
    have halone : [LayerHandle.ofStyle spec.1 spec.2] = handlesOf [spec] := rfl
    rw [halone, synchronize_of_some hfilter, synchronize_of_some hfilter, writeLayers_ofStyle,
      writeLayers_ofStyle]
    exact layer_mapItems_congr fun seat hseat => paintsIn_strokesOf hkeys hapart hspec hseat

/-- A layer that takes writes as long as fewer than a limit were tried on all layers. One that it does
not take is counted too. -/
def LayerHandle.limited (id type : Value) (limit : Nat) (fault : LayerFault) : LayerHandle Nat where
  id := id
  type := type
  setFilter _ tried := (tried + 1, if tried < limit then none else some fault)
  setPaint _ _ tried := (tried + 1, if tried < limit then none else some fault)

/-- Two layers of one id, of which one takes nothing and one the filter only, and one that takes all. -/
def threeLayers : List (LayerHandle Nat) :=
  [.limited (.text "heat") (.text "heatmap") 0 (.reported "RuntimeError" (some (.text "gone"))),
    .limited (.text "heat") (.text "heatmap") 2 (.reported "ValueError" none),
    .limited (.text "dots") (.text "circle") 9 .unsupported]

/-- Two layers with ids of their own. -/
def twoSpecs : List (Value × Value) :=
  [(.text "heat", .text "heatmap"), (.text "dots", .text "circle")]

theorem synchronize_visits_threeLayers :
    (Predicate.toExpression? .unspecified = none ∧
      synchronize .unspecified (some [.text "Sum"]) threeLayers 0 = (.error .unspecified, [], 0)) ∧
    Predicate.toExpression? (.all []) = some (.all []) ∧
    ((∀ handle ∈ threeLayers, handle.id.isKey = true) ∧
      ∃ visits, synchronize (.all []) (some [.text "Sum"]) threeLayers 0 =
          (.ok { applied := [.text "dots"], failed := [(.text "heat", "ValueError")] },
            warnings visits, 5) ∧
        visits.map Visit.handle = threeLayers ∧
        Visits (Expression.all []).toValue (some [.text "Sum"]) visits 0 5 ∧
        (lastFault? visits (.text "heat")).map LayerFault.summary = some "ValueError" ∧
        ∃ visit ∈ visits, visit.fault? = none) ∧
    ((∀ spec ∈ twoSpecs, spec.1.isKey = true) ∧
      twoSpecs.Pairwise (fun a b => a.1.same b.1 = false) ∧
      ∀ style : Style, ∀ spec ∈ twoSpecs,
        (synchronize (.all []) (some [.text "Sum"]) (handlesOf twoSpecs) style).2.2.layer spec.1 =
          (synchronize (.all []) (some [.text "Sum"]) [.ofStyle spec.1 spec.2] style).2.2.layer
            spec.1) := by
  have hkeys : ∀ handle ∈ threeLayers, handle.id.isKey = true := by
    intro handle hhandle
    simp only [threeLayers, List.mem_cons, List.not_mem_nil, or_false] at hhandle
    obtain rfl | rfl | rfl := hhandle <;> rfl
  have hspecs : ∀ spec ∈ twoSpecs, spec.1.isKey = true := by decide
  have hapart : twoSpecs.Pairwise (fun a b => a.1.same b.1 = false) := by decide
  have hrun : ∃ logs, synchronize (.all []) (some [.text "Sum"]) threeLayers 0 =
      (.ok { applied := [.text "dots"], failed := [(.text "heat", "ValueError")] }, logs, 5) :=
    ⟨_, rfl⟩
  obtain ⟨logs, hrun⟩ := hrun
  have hunspecified := (synchronize_visits Nat .unspecified (some [.text "Sum"])).1 rfl threeLayers 0
  refine ⟨⟨rfl, hunspecified⟩, rfl, ?_, ?_⟩
  · obtain ⟨visits, report, t, hvisited, hhandles, hvisits, htells, hok⟩ :=
      ((synchronize_visits Nat (.all []) (some [.text "Sum"])).2 (.all []) rfl).1 threeLayers 0 hkeys
    have hsame := hvisited.symm.trans hrun
    simp only [Prod.mk.injEq, Except.ok.injEq] at hsame
    obtain ⟨rfl, -, rfl⟩ := hsame
    refine ⟨hkeys, visits, hvisited, hhandles, hvisits, (htells.text _).symm, ?_⟩
    exact (hok.1 rfl).resolve_left (List.cons_ne_nil _ _)
  · exact ⟨hspecs, hapart, fun style spec hspec =>
      ((synchronize_visits Style (.all []) (some [.text "Sum"])).2 (.all []) rfl).2 twoSpecs style
        hspecs hapart spec hspec⟩

end MapFilter
