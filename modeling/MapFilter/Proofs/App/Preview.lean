import MapFilter.Proofs.App.Freshness
import MapFilter.Proofs.App.Published
import MapFilter.Proofs.Store.Again

/-!
# What a preview shows is what applying does

A preview and an application compile the selections each on its own, and the preview may load features
and have the probe remember something before the application looks. They come to the same, and the
layers show what the preview listed. One thing can come between them: a view that cannot be read where
the database has its table, behind which the preview finds nothing and the application does.

- `App.capability_capability`: asking the probe again
- `App.respond_compile`, `App.respond_apply`: the replies to the two requests
- `App.preview_shows_apply`: what they have in common
- `App.capability_differs_behind_view`: the exception
-/

namespace MapFilter

/-! ## §1 Asking the probe again -/

namespace App

variable {app : App}

/-- The records that the sample provider has; none if it fails. -/
def offered (app : App) (s : Store) : List Record :=
  match (app.provider app.service.source s).1 with
  | .records rs => rs
  | .failed _ => []

theorem offered_eq (app : App) (s : Store) :
    app.offered s =
      if Store.StoreSettings.isSource app.store app.service.source then
        (Store.shown (s.load app.store).1).take app.sampleSize.toNat
      else [] := by
  unfold offered provider Store.provider Store.sample
  cases Store.StoreSettings.isSource app.store app.service.source with
  | false => rfl
  | true =>
    simp only [if_true]
    cases (s.load app.store).1 with
    | error e => exact (List.take_nil).symm
    | ok t => rfl

/-- A look at the provider loads the features, and another one has the same records. -/
theorem offered_sampled {s : Store} (hview : ¬ s.IsObstructed app.store) :
    app.offered (app.sampled s) = app.offered s := by
  rw [offered_eq, offered_eq, sampled_eq]
  split
  · rw [Store.shown_load_load hview]
  · rfl

theorem detect_eq_inspect (probe : Probe) (s : Store) :
    ∃ logs, probe.detect app.provider app.service.source s =
      (probe.inspect (app.offered s), logs, app.sampled s) := by
  refine ⟨Probe.sampleLogs app.service.source (app.provider app.service.source s).1, ?_⟩
  unfold Probe.detect offered sampled
  generalize app.provider app.service.source s = outcome
  obtain ⟨sample, next⟩ := outcome
  cases sample with
  | records rs => rfl
  | failed message =>
    rw [Probe.inspect_nil]
    rfl

variable {s : ServiceState Store}

/-- What was remembered last is what is remembered. -/
theorem remembered_remember (capability : Capability) (store : Store)
    (hgeneration : store.generation = s.provider.generation) :
    app.remembered
        { s with
          probe := s.probe.remember ⟨app.service.source, 0⟩ ⟨generation s, 0⟩ capability
          provider := store } = some capability := by
  have hsame : generation { s with provider := store } = generation s := by
    rw [generation, generation, hgeneration]
  have hother : ∀ entries : List ProbeEntry,
      (entries.filter fun e => !e.isFor ⟨app.service.source, 0⟩ ⟨generation s, 0⟩).find?
        (ProbeEntry.isFor ⟨app.service.source, 0⟩ ⟨generation s, 0⟩) = none := by
    intro entries
    rw [List.find?_eq_none]
    intro e he
    simpa using (List.mem_filter.1 he).2
  have hown : ProbeEntry.isFor ⟨app.service.source, 0⟩ ⟨generation s, 0⟩
      ⟨⟨app.service.source, 0⟩, ⟨generation s, 0⟩, capability⟩ = true := by
    simp [ProbeEntry.isFor, ProbeKey.isSame]
  simp only [remembered, generation, hgeneration] at hsame hother hown ⊢
  simp only [Probe.remember, List.find?_append, hother, Option.none_or, List.find?_cons, hown,
    Option.map_some]

/-- A renewed answer is what the probe finds in the records, and it is all that is remembered. -/
theorem renew_cases (hsource : app.service.source.isKey = true) (s : ServiceState Store) :
    let answer :=
      s.probe.renew app.provider ⟨app.service.source, 0⟩ ⟨generation s, 0⟩ s.provider
    answer.capability = s.probe.inspect (app.offered s.provider) ∧
      answer.provider = app.sampled s.provider ∧
      (answer.probe = s.probe ∨ ∃ c, s.probe.inspect (app.offered s.provider) = .ok c ∧
        c.sampled = true ∧
        answer.probe = s.probe.remember ⟨app.service.source, 0⟩ ⟨generation s, 0⟩ c) := by
  obtain ⟨logs, hdetect⟩ := app.detect_eq_inspect s.probe s.provider
  simp only [Probe.renew, hdetect, cached_eq hsource]
  cases s.probe.inspect (app.offered s.provider) with
  | error e => exact ⟨rfl, rfl, .inl rfl⟩
  | ok c =>
    dsimp only
    cases hsampled : c.sampled with
    | false => exact ⟨rfl, rfl, .inl rfl⟩
    | true => exact ⟨rfl, rfl, .inr ⟨c, rfl, hsampled, rfl⟩⟩

theorem capability_eq (hsource : app.service.source.isKey = true) (s : ServiceState Store) :
    app.capability false s =
      match app.remembered s with
      | some c => (.ok c, s)
      | none =>
        let answer :=
          s.probe.renew app.provider ⟨app.service.source, 0⟩ ⟨generation s, 0⟩ s.provider
        (answer.capability, { s with probe := answer.probe, provider := answer.provider }) := by
  unfold capability FilterService.capability Probe.get
  simp only [Bool.false_eq_true, if_false, cached_eq hsource]
  cases app.remembered s <;> rfl

/-- Asking the probe a second time gets the answer of the first, whatever the probe remembers. -/
theorem capability_capability (hsource : app.service.source.isKey = true)
    (hview : ¬ s.provider.IsObstructed app.store) :
    (app.capability false (app.capability false s).2).1 = (app.capability false s).1 := by
  cases hremembered : app.remembered s with
  | some c =>
    have hanswer : app.capability false s = (.ok c, s) := by rw [capability_eq hsource, hremembered]
    rw [hanswer, hanswer]
  | none =>
    obtain ⟨hanswer, hprovider, hprobe⟩ := renew_cases hsource s
    have hgeneration := app.generation_sampled s.provider
    have hrecords := offered_sampled hview
    rw [capability_eq hsource s, hremembered]
    simp only [hanswer, hprovider]
    rw [capability_eq hsource]
    obtain hsame | ⟨c, hc, -, hnew⟩ := hprobe
    · -- Nothing is remembered, and the records are the same again.
      rw [hsame]
      have hnone : app.remembered { s with probe := s.probe, provider := app.sampled s.provider } =
          none := by
        rw [← hremembered, remembered, remembered, generation, generation, hgeneration]
      simp only [hnone]
      have hagain := (renew_cases hsource { s with provider := app.sampled s.provider }).1
      exact hagain.trans (congrArg s.probe.inspect hrecords)
    · rw [hnew, hc, remembered_remember c _ hgeneration]

/-- Behind a view that cannot be read nothing is known at first, and then what the exports carry. -/
theorem capability_behind_view (hkey : app.service.source.isKey = true)
    (hsource : Store.StoreSettings.isSource app.store app.service.source = true)
    (hview : s.provider.IsObstructed app.store)
    (hremembered : app.remembered s = none) :
    (app.capability false s).1 = .ok .unknown ∧
      (app.capability false (app.capability false s).2).1 = s.probe.inspect
        ((Store.exported app.store s.provider.files s.provider.remote).take
          app.sampleSize.toNat) := by
  obtain ⟨hfirst, hsecond⟩ := hview.shown_load
  have hnothing : s.probe.inspect (app.offered s.provider) = .ok .unknown := by
    rw [offered_eq, hsource, if_pos rfl, hfirst, List.take_nil, Probe.inspect_nil]
  have hlater : app.offered (app.sampled s.provider) =
      (Store.exported app.store s.provider.files s.provider.remote).take app.sampleSize.toNat := by
    rw [offered_eq, sampled_eq, hsource, if_pos rfl, if_pos rfl, hsecond]
  obtain ⟨hanswer, hprovider, hprobe⟩ := renew_cases hkey s
  have hfound : app.capability false s =
      (.ok .unknown, { s with provider := app.sampled s.provider }) := by
    rw [capability_eq hkey, hremembered]
    simp only [hanswer, hprovider, hnothing]
    obtain hsame | ⟨c, hc, hsampled, -⟩ := hprobe
    · rw [hsame]
    · -- What is not known for want of records is not remembered.
      cases hnothing.symm.trans hc
      cases hsampled
  have hnone : app.remembered { s with provider := app.sampled s.provider } = none := by
    rw [← hremembered, remembered, remembered, generation, generation, app.generation_sampled]
  rw [hfound]
  refine ⟨rfl, ?_⟩
  rw [capability_eq hkey, hnone, ← hlater]
  exact (renew_cases hkey { s with provider := app.sampled s.provider }).1

/-! ## §2 Replies -/

end App

/-- The entry of a reply under a name. -/
def Reply.part? (name : String) (reply : Reply) : Option Value :=
  match reply.body with
  | some (.object entries) => entries.lookup name
  | _ => none

/-- A name that comes once in an object is looked up where it stands. -/
theorem lookup_map_of_mem {α : Type} {f : α → String} {g : α → Value} {l : List α} {a : α}
    (h : (l.map f).Nodup) (ha : a ∈ l) :
    (l.map fun a => (f a, g a)).lookup (f a) = some (g a) := by
  induction l with
  | nil => cases ha
  | cons first rest ih =>
    rw [List.map_cons, List.nodup_cons] at h
    rw [List.map_cons, List.lookup_cons]
    obtain rfl | hrest := List.mem_cons.1 ha
    · simp
    · have hne : (f a == f first) = false := by
        rw [beq_eq_false_iff_ne]
        exact fun heq => h.1 (heq ▸ List.mem_map_of_mem hrest)
      rw [hne]
      exact ih h.2 hrest

namespace FilterService

/-- The paint that a service lists, layer by layer. -/
def listedPaint (service : FilterService) (fields : List FieldName) : Record :=
  service.layers.map fun spec => (spec.1.display, .object (Style.metricPaint fields spec.2))

theorem map_fst_listedPaint (service : FilterService) (fields : List FieldName) :
    (service.listedPaint fields).map Prod.fst = service.layers.map fun spec => spec.1.display := by
  rw [listedPaint, List.map_map]
  rfl

/-- The names of layers that are told apart. -/
theorem nodup_display {specs : List (Value × Value)} (h : AreNamedApart specs) :
    (specs.map fun spec => spec.1.display).Nodup := by
  have hinj : ∀ a ∈ specs.map Prod.fst, ∀ b ∈ specs.map Prod.fst,
      a.display = b.display → a = b := by
    intro a ha b hb heq
    obtain ⟨spec, hspec, rfl⟩ := List.mem_map.1 ha
    obtain ⟨other, hother, rfl⟩ := List.mem_map.1 hb
    obtain ⟨name, hname⟩ := h.named spec hspec
    obtain ⟨othername, hothername⟩ := h.named other hother
    rw [hname, hothername] at heq ⊢
    exact congrArg Value.text heq
  have := (List.nodup_map_iff_inj_on h.apart).2 hinj
  rwa [List.map_map] at this

/-- Entries under ids that are told apart stand one after the other. -/
theorem foldlM_insertKey {f : Value × Value → Value} (done todo : List (Value × Value))
    (h : AreNamedApart (done ++ todo)) :
    (todo.foldlM (fun (acc : Keyed Value) spec => Keyed.insertKey acc spec.1 (f spec))
        (done.map fun spec => (spec.1, f spec)) : Except NoKey (Keyed Value)) =
      .ok ((done ++ todo).map fun spec => (spec.1, f spec)) := by
  -- By induction on the layers still to come: none of those before them has the id of the next.
  induction todo generalizing done with
  | nil => simp [pure, Except.pure]
  | cons spec rest ih =>
    have happ : done ++ spec :: rest = (done ++ [spec]) ++ rest := by simp
    obtain ⟨name, hname⟩ := h.named spec (by simp)
    have hnew : (done.map fun spec => (spec.1, f spec)).any (fun entry => entry.1.same spec.1) =
        false := by
      rw [List.any_eq_false]
      intro entry hentry
      obtain ⟨earlier, hearlier, rfl⟩ := List.mem_map.1 hentry
      obtain ⟨own, hown⟩ := h.named earlier (List.mem_append_left _ hearlier)
      dsimp only
      rw [hown, Value.same_text_iff, hname]
      intro heq
      have hapart := h.apart
      rw [List.map_append, List.nodup_append] at hapart
      exact hapart.2.2 earlier.1 (List.mem_map_of_mem hearlier) spec.1 (by simp)
        (by rw [hown, hname, heq])
    have hinsert : Keyed.insertKey (done.map fun spec => (spec.1, f spec)) spec.1 (f spec) =
        .ok ((done ++ [spec]).map fun spec => (spec.1, f spec)) := by
      have hkey : spec.1.isKey = true := by rw [hname]; rfl
      rw [Keyed.insertKey, hkey, if_pos rfl, Keyed.insert, hnew]
      simp
    rw [List.foldlM_cons, hinsert, happ]
    exact ih (done ++ [spec]) (happ ▸ h)

/-- An object takes entries with names of their own as they come. -/
theorem insertAll_of_nodup (done todo : Record)
    (h : ((done ++ todo).map Prod.fst).Nodup) : Record.insertAll done todo = done ++ todo := by
  induction todo generalizing done with
  | nil => simp [Record.insertAll]
  | cons entry rest ih =>
    have happ : done ++ entry :: rest = (done ++ [entry]) ++ rest := by simp
    have hnew : done.any (·.1 == entry.1) = false := by
      rw [List.any_eq_false]
      intro other hother heq
      rw [List.map_append, List.nodup_append] at h
      exact h.2.2 other.1 (List.mem_map_of_mem hother) entry.1 (by simp) (by simpa using heq)
    rw [Record.insertAll, List.foldl_cons, Record.insert, hnew, if_neg Bool.false_ne_true, happ]
    exact ih (done ++ [entry]) (happ ▸ h)

/-- The paint of all layers is put together layer by layer. -/
theorem paint_eq_foldlM (service : FilterService) (fields : List FieldName) :
    service.paint fields =
      ((service.layers.foldlM (fun (acc : Keyed Value) spec =>
        Keyed.insertKey acc spec.1 (.object (Style.metricPaint fields spec.2))) [] :
          Except NoKey (Keyed Value)).map fun entries =>
        .object (entries.toObject Value.display)) := rfl

theorem paint_eq {service : FilterService} (h : AreNamedApart service.layers)
    (fields : List FieldName) :
    service.paint fields = .ok (.object (service.listedPaint fields)) := by
  have hentries := foldlM_insertKey
    (f := fun spec => .object (Style.metricPaint fields spec.2)) [] service.layers h
  rw [List.map_nil, List.nil_append] at hentries
  have hobject := insertAll_of_nodup [] (service.listedPaint fields)
    (by rw [List.nil_append, map_fst_listedPaint]; exact nodup_display h)
  have hnames : ((service.layers.map fun spec =>
      (spec.1, Value.object (Style.metricPaint fields spec.2))).map fun entry =>
        (entry.1.display, entry.2)) = service.listedPaint fields := by
    rw [List.map_map]
    rfl
  rw [paint_eq_foldlM, hentries]
  simp only [Except.map, Keyed.toObject, hnames, hobject, List.nil_append]

end FilterService

/-! ## §3 The two requests -/

/-- A report on selections that were written to the layers with these ids. -/
def ApplyReport.withApplied (report : ApplyReport) (ids : List Value) : ApplyReport :=
  { report with sync := some { applied := ids } }

/-- A layer with an id stands where it was drawn. -/
theorem Style.layer_drawn {service : FilterService} (h : AreNamedApart service.layers)
    (style : Style) (settings : Record) (filter : Value) (fields : List FieldName)
    {spec : Value × Value} (hspec : spec ∈ service.layers) :
    (style.withLayers (drawnLayers settings filter fields service.layers)).layer spec.1 =
      .ok (drawnLayer settings filter (metricPaint fields spec.2) spec) := by
  obtain ⟨done, todo, hsplit⟩ := List.append_of_mem hspec
  rw [hsplit] at h ⊢
  have hbefore := h.hasId_eq_false settings filter fields
  have hown : hasId spec.1 (drawnLayer settings filter (metricPaint fields spec.2) spec) = true :=
    h.same_self (by simp)
  have hfind : ∀ before : List Record, (∀ other ∈ before, hasId spec.1 other = false) →
      ∀ rest : List Record, find? spec.1 ((before ++
        drawnLayer settings filter (metricPaint fields spec.2) spec :: rest).map .object) =
          .ok (some (drawnLayer settings filter (metricPaint fields spec.2) spec)) := by
    intro before hothers rest
    induction before with
    | nil => simp only [List.nil_append, List.map_cons, find?, layerOf, hown, if_true]
    | cons other before ih =>
      have hother := hothers other List.mem_cons_self
      simp only [List.cons_append, List.map_cons, find?, layerOf, hother, Bool.false_eq_true,
        if_false]
      exact ih fun other h => hothers other (List.mem_cons_of_mem _ h)
  have hdrawn : drawnLayers settings filter fields (done ++ spec :: todo) =
      drawnLayers settings filter fields done ++
        drawnLayer settings filter (metricPaint fields spec.2) spec ::
          drawnLayers settings filter fields todo := by
    simp [drawnLayers]
  simp only [layer, items, withLayers, Value.items?, hdrawn, hfind _ hbefore, bind, Except.bind]
  rfl

namespace App

variable {app : App} {settings : Record} {payload : Record} {report : ApplyReport}

/-- The style shows a filter and a metric on every layer, as it does from the start on. -/
def IsDrawn (app : App) (settings : Record) (style : Style) : Prop :=
  ∃ filter fields, style = app.drawn settings filter fields

/-- What every state of an application has in common. The store, what the probe remembers and the
edit that waits can be any. -/
structure IsState (app : App) (settings : Record) (s : AppState) : Prop where
  drawn : app.IsDrawn settings s.filters.style
  fields : s.filters.probe.fields = app.probe.fields
  reachable : s.layersReachable = true

theorem isState_run (hready : app.IsReady settings) (files : Files) (remote : Remote)
    (events : List AppEvent) : app.IsState settings (app.run files remote events).1 := by
  have hmirrors := mirrors_run hready files remote events
  exact ⟨published_eq_drawn hmirrors.style_eq, hmirrors.fields_eq, hmirrors.reachable_eq⟩

/-- The reply to a request to compile, and what is left behind. -/
theorem respond_of_paint {s : AppState} {request : Request} {paint : Value}
    (hdestination : request.destination = .route .compile .full)
    (hpayload : request.payload = .object payload)
    (hreport : app.service.reportOf (Payload.ofRecord payload) (app.capability false s.filters).1 =
      .ok report) (hpaint : app.service.paint report.metricFields = .ok paint) :
    app.respond request s =
      (.ok (app.compileReply report paint),
        { s with filters := (app.capability false s.filters).2 }) := by
  have hpreview : app.preview (Payload.ofRecord payload) s.filters =
      (.ok report, (app.capability false s.filters).2) := by rw [preview_eq, hreport]
  have hhandle : app.handle .compile request s =
      (.ok (app.compileReply report paint),
        { s with filters := (app.capability false s.filters).2 }) := by
    simp only [handle, hpayload, Payload.toState?, handleFilters, handlePreview, hpreview, hpaint,
      Bool.false_eq_true, if_false]
    rfl
  unfold respond
  rw [hdestination]
  simp only [hhandle, reduceCtorEq, if_false]

theorem respond_compile (hready : app.IsReady settings) {s : AppState} {request : Request}
    (hdestination : request.destination = .route .compile .full)
    (hpayload : request.payload = .object payload)
    (hreport : app.service.reportOf (Payload.ofRecord payload) (app.capability false s.filters).1 =
      .ok report) :
    app.respond request s =
      (.ok (app.compileReply report (.object (app.service.listedPaint report.metricFields))),
        { s with filters := (app.capability false s.filters).2 }) :=
  respond_of_paint hdestination hpayload hreport (FilterService.paint_eq hready.apart _)

/-- Applying what is pending yields what applying it comes to, if it does not fail. -/
theorem result_applyEdit {q : Scheduler FilterState ApplyReport} {state : FilterState}
    (h : q.pending = some state) (filters : ServiceState Store) :
    (q.run (app.applyEdit true) filters).result = (app.apply state filters).1.toOption := by
  have hactivity : app.applyEdit true state filters =
      .finish (app.apply state filters).1.toOption (app.apply state filters).2 := rfl
  simp only [Scheduler.run, h, hactivity, Scheduler.perform]
  cases (app.apply state filters).1.toOption <;> rfl

/-- Applying an edit to layers that are drawn reports every layer as written to. -/
theorem apply_drawn (hready : app.IsReady settings) {filters : ServiceState Store}
    (hdrawn : app.IsDrawn settings filters.style) {state : FilterState}
    (hreport : app.service.reportOf state (app.capability false filters).1 = .ok report) :
    (app.apply state filters).1 = .ok (report.withApplied (app.service.layers.map Prod.fst)) ∧
      (app.apply state filters).2.style =
        app.drawn settings report.filter report.metricFields := by
  obtain ⟨filter, fields, hstyle⟩ := hdrawn
  have hsame : (app.capability false filters).2.style = app.drawn settings filter fields :=
    (app.showsSame_capability filters false).style_eq.trans hstyle
  obtain ⟨⟨e, he, -⟩, -⟩ := FilterService.reportOf_isExpression hreport
  have hsync := FilterService.synchronize_drawn app.style settings filter hready.apart
    (fun spec => .metric fields) he report.metricFields
  rw [apply_eq, preview_eq, hreport, hsame]
  refine ⟨?_, hready.writtenStyle_drawn hreport filter fields⟩
  have happlied : (app.service.synchronize report.predicate report.metricFields
      (app.drawn settings filter fields)).1 = .ok { applied := app.service.layers.map Prod.fst } :=
    congrArg Prod.fst hsync
  simp only [Except.bind, FilterService.written, happlied]
  rfl

/-- The reply to a request to apply an edit at once, and the style that is left behind. -/
theorem respond_apply (hready : app.IsReady settings) {s : AppState} (hstate : app.IsState settings s)
    {request : Request} (hdestination : request.destination = .route .apply .full)
    (himmediate : request.isImmediate = true) (hpayload : request.payload = .object payload)
    (hreport : app.service.reportOf (Payload.ofRecord payload) (app.capability false s.filters).1 =
      .ok report) :
    ∃ s', app.respond request s =
        (.ok (object (report.withApplied (app.service.layers.map Prod.fst)).toRecord), s') ∧
      s'.filters.style = app.drawn settings report.filter report.metricFields := by
  obtain ⟨hanswer, hstyle⟩ := apply_drawn hready hstate.drawn hreport
  have hpending : ({ s.scheduler.stopTimer with pending := some (Payload.ofRecord payload) } :
      Scheduler FilterState ApplyReport).pending = some (Payload.ofRecord payload) := rfl
  have hresult : (app.applyNow (Payload.ofRecord payload) s).1 =
      some (report.withApplied (app.service.layers.map Prod.fst)) := by
    rw [applyNow, hstate.reachable]
    exact (result_applyEdit hpending s.filters).trans (by rw [hanswer]; rfl)
  have hleft : (app.applyNow (Payload.ofRecord payload) s).2.filters.style =
      app.drawn settings report.filter report.metricFields := by
    rw [applyNow, hstate.reachable, ← hstyle]
    exact congrArg ServiceState.style (run_applyEdit app hpending s.filters).1
  refine ⟨_, ?_, hleft⟩
  unfold respond
  rw [hdestination]
  simp only [handle, hpayload, Payload.toState?, handleFilters, handleEdit, himmediate, if_true,
    hresult, editReply, reduceCtorEq, if_false]

/-- The replies to the two requests, one right after the other. -/
theorem respond_respond (hready : app.IsReady settings) {s : AppState} (hstate : app.IsState settings s)
    {preview apply : Request} (hpreview : preview.destination = .route .compile .full)
    (happly : apply.destination = .route .apply .full) (himmediate : apply.isImmediate = true)
    (hpayload : preview.payload = .object payload) (hsame : apply.payload = .object payload)
    {shown applied : ApplyReport}
    (hshown : app.service.reportOf (Payload.ofRecord payload) (app.capability false s.filters).1 =
      .ok shown)
    (happlied : app.service.reportOf (Payload.ofRecord payload)
      (app.capability false (app.capability false s.filters).2).1 = .ok applied) :
    ∃ between after,
      app.respond preview s =
          (.ok (app.compileReply shown (.object (app.service.listedPaint shown.metricFields))),
            between) ∧
        app.respond apply between =
          (.ok (object (applied.withApplied (app.service.layers.map Prod.fst)).toRecord), after) ∧
        after.filters.style = app.drawn settings applied.filter applied.metricFields ∧
        between.filters.style = s.filters.style ∧ between.scheduler = s.scheduler := by
  have hkept := app.showsSame_capability s.filters false
  have hbetween : app.IsState settings { s with filters := (app.capability false s.filters).2 } :=
    ⟨hkept.style_eq ▸ hstate.drawn, hkept.fields_eq.trans hstate.fields, hstate.reachable⟩
  obtain ⟨after, hafter, hstyle⟩ := respond_apply hready hbetween happly himmediate hsame happlied
  exact ⟨_, after, respond_compile hready hpreview hpayload hshown, hafter, hstyle, hkept.style_eq,
    rfl⟩

/-! ## §4 A preview and an application -/

/-- What a preview and an application both answer with. -/
def sharedNames : List String :=
  ["filter", "metric", "capability", "diagnostics"]

/-- Two replies, to a preview and to an application, that came to the same, and the style that shows
what the preview listed. -/
structure CameToTheSame (app : App) (shown applied : Reply) (style : Style) : Prop where
  answered : shown.status = 200 ∧ applied.status = 200
  shared : ∀ name ∈ sharedNames, ∃ v,
    shown.part? name = some v ∧ applied.part? name = some v
  /-- Every layer is reported as written to, and none as failed. -/
  written : applied.part? "layers" = some (.object
    [("ok", .bool true), ("applied", .list (app.service.layers.map Prod.fst)),
      ("failed", .object [])])
  /-- Every layer has the filter that was shown, and the paint that was listed under its name. -/
  layers : ∀ spec ∈ app.service.layers, ∃ layer listed,
    style.layer spec.1 = .ok layer ∧
      layer.get? "filter" = shown.part? "filter" ∧
      shown.part? "paint" = some (.object listed) ∧
      (listed.lookup spec.1.display).isSome ∧
      layer.get? "paint" = listed.lookup spec.1.display

theorem cameToTheSame (hready : app.IsReady settings) (report : ApplyReport) :
    app.CameToTheSame
      (app.compileReply report (.object (app.service.listedPaint report.metricFields)))
      (object (report.withApplied (app.service.layers.map Prod.fst)).toRecord)
      (app.drawn settings report.filter report.metricFields) where
  answered := ⟨rfl, rfl⟩
  shared name hname := by
    simp only [sharedNames, List.mem_cons, List.not_mem_nil, or_false] at hname
    obtain rfl | rfl | rfl | rfl := hname <;> exact ⟨_, rfl, rfl⟩
  written := by
    have hvalue : (SyncReport.mk (app.service.layers.map Prod.fst) []).toValue = .object
        [("ok", .bool true), ("applied", .list (app.service.layers.map Prod.fst)),
          ("failed", .object [])] := by
      simp [SyncReport.toValue, SyncReport.ok, Keyed.toObject, Record.insertAll]
    rw [← hvalue]
    rfl
  layers spec hspec := by
    have hlayer := Style.layer_drawn hready.apart app.style settings report.filter
      report.metricFields hspec
    have hlisted : (app.service.listedPaint report.metricFields).lookup spec.1.display =
        some (.object (Style.metricPaint report.metricFields spec.2)) :=
      lookup_map_of_mem (FilterService.nodup_display hready.apart) hspec
    refine ⟨_, app.service.listedPaint report.metricFields, hlayer, rfl, ?_, ?_, ?_⟩
    · -- The layers of an earlier report would stand in front, under another name.
      unfold Reply.part? compileReply object ApplyReport.toRecord
      cases report.sync <;> rfl
    · rw [hlisted]
      rfl
    · rw [hlisted]
      exact Style.get?_paint_drawnLayer

/-- Applying right after a preview comes to what the preview showed, whatever the store holds, the
probe remembers and waits to be applied, and the preview changes neither the style nor the edits that
wait. Only a view that cannot be read must not stand where the features belong. -/
theorem preview_shows_apply (hsettings : App.ofSettings settings = .ok app)
    (hids : (app.service.layers.map Prod.fst).Nodup) (husable : app.IsUsable) {s : AppState}
    (hstate : app.IsState settings s) (hview : ¬ s.filters.provider.IsObstructed app.store)
    {preview apply : Request}
    (hpreview : preview.destination = .route .compile .full)
    (happly : apply.destination = .route .apply .full) (himmediate : apply.isImmediate = true)
    (hpayload : preview.payload = .object payload) (hsame : apply.payload = .object payload) :
    ∃ shown applied between after,
      app.respond preview s = (.ok shown, between) ∧
        app.respond apply between = (.ok applied, after) ∧
        app.CameToTheSame shown applied after.filters.style ∧
        between.filters.style = s.filters.style ∧ between.scheduler = s.scheduler := by
  have hready := isReady_of_ofSettings hsettings hids husable
  obtain ⟨report, hreport⟩ := hready.exists_reportOf hstate.fields (Payload.ofRecord payload)
  -- The application asks the probe once more, and gets the same answer.
  have hagain := capability_capability hready.wired.source_isKey hview
  obtain ⟨between, after, hbetween, hafter, hstyle, hkept⟩ := respond_respond hready hstate hpreview
    happly himmediate hpayload hsame hreport (hagain.symm ▸ hreport)
  refine ⟨_, _, between, after, hbetween, hafter, ?_, hkept⟩
  rw [hstyle]
  exact cameToTheSame hready report

/-! ## §5 Two runs -/

/-- A request to see what a choice of the other metric comes to. -/
def compileRequest : Request :=
  { method := "POST", target := "/filters/compile", body := "\x7b\"metric\": \"tickets\"\x7d" }

/-- A request to apply the same at once. -/
def immediateRequest : Request :=
  { compileRequest with target := "/filters/apply?immediate=1" }

theorem payload_compileRequest :
    compileRequest.payload = .object [("metric", .text "tickets")] := by decide +kernel

theorem payload_immediateRequest :
    immediateRequest.payload = .object [("metric", .text "tickets")] :=
  have htarget (request : Request) (target : String) :
      Request.payload { request with target := target } = request.payload := rfl
  (htarget compileRequest _).trans payload_compileRequest

theorem isImmediate_immediateRequest : immediateRequest.isImmediate = true := by
  have hquery : String.ofList immediateRequest.parts.query = "immediate=1" := by decide
  have hsplit : "immediate=1".splitOn "&" = ["immediate=1"] := by
    rw [String.splitOn, if_neg (by decide)]
    -- Eleven characters, of which none is an ampersand.
    iterate 11 rw [String.splitOnAux, if_neg (by decide), if_neg (by decide)]
    rw [String.splitOnAux, if_pos (by decide)]
    rfl
  simp only [Request.isImmediate, Request.query, hquery, hsplit]
  decide

/-- The state before the first request, with a store, and maybe an edit that waits. -/
def startWith (app : App) (store : Store) (waiting : Option FilterState) : AppState :=
  let s := app.start [] .unavailable
  { s with filters := withStore s.filters store, scheduler := { pending := waiting } }

theorem isState_startWith (hready : app.IsReady settings) (store : Store)
    (waiting : Option FilterState) : app.IsState settings (app.startWith store waiting) := by
  have hstart := isState_run hready [] .unavailable []
  exact ⟨hstart.drawn, hstart.fields, hstart.reachable⟩

theorem isReady_smallApp : smallApp.IsReady smallSettings :=
  isReady_of_ofSettings ofSettings_smallSettings (by decide) ⟨by decide, rfl⟩

/-- A table with one day. -/
def dayTable : Table :=
  { columns := ["Day"], rows := [[.int 20240105]] }

/-- A day is in memory, and an edit waits. -/
def waitingState : AppState :=
  smallApp.startWith { table := some dayTable, generation := 3 } (some {})

theorem preview_shows_apply_waiting :
    ∃ shown applied between after,
      smallApp.respond compileRequest waitingState = (.ok shown, between) ∧
        smallApp.respond immediateRequest between = (.ok applied, after) ∧
        smallApp.CameToTheSame shown applied after.filters.style ∧
        between.filters.style = waitingState.filters.style ∧
        between.scheduler = waitingState.scheduler := by
  have hids : (smallApp.service.layers.map Prod.fst).Nodup := by decide
  have hview : ¬ waitingState.filters.provider.IsObstructed smallApp.store :=
    fun h => Option.some_ne_none _ h.table
  have hpreview : compileRequest.destination = .route .compile .full := by decide
  have happly : immediateRequest.destination = .route .apply .full := by decide
  exact preview_shows_apply ofSettings_smallSettings hids isReady_smallApp.usable
    (isState_startWith isReady_smallApp _ _) hview hpreview happly
    isImmediate_immediateRequest payload_compileRequest payload_immediateRequest

/-- The settings of a map whose features come from a remote export, there being no files. -/
def remoteSettings : Record :=
  smallSettings ++ [("CSV_GLOB", .text ""), ("BUCKET_URL", .text "https://export")]

def remoteApp : App :=
  { smallApp with store := StoreSettings.ofSettings remoteSettings }

theorem ofSettings_remoteSettings : App.ofSettings remoteSettings = .ok remoteApp := rfl

theorem isReady_remoteApp : remoteApp.IsReady remoteSettings :=
  isReady_of_ofSettings ofSettings_remoteSettings (by decide) ⟨by decide, rfl⟩

/-- The remote export has a day, and a view that cannot be read stands where the features belong. -/
def viewState : AppState :=
  remoteApp.startWith { remote := .table dayTable, connection := some .brokenView } none

theorem exported_viewState :
    Store.exported remoteApp.store [] (.table dayTable) = [[("Day", .int 20240105)]] := by
  have hnone : Store.readExports remoteApp.store [] = .ok none :=
    Store.readExports_of_glob_empty rfl []
  have hurl : remoteApp.store.url.isTruthy = true := by decide
  simp only [Store.exported, hnone, hurl]
  rfl

/-- Behind the view the preview knows of no date key, and the application finds one. -/
theorem capability_differs_behind_view :
    remoteApp.IsReady remoteSettings ∧ remoteApp.IsState remoteSettings viewState ∧
      ∃ shown applied between after,
        remoteApp.respond compileRequest viewState = (.ok shown, between) ∧
          remoteApp.respond immediateRequest between = (.ok applied, after) ∧
          shown.part? "capability" = some (Capability.toValue .unknown) ∧
          applied.part? "capability" = some (Capability.toValue ⟨true, [.text "Day"], true⟩) ∧
          shown.part? "capability" ≠ applied.part? "capability" := by
  have hready := isReady_remoteApp
  have hstate : remoteApp.IsState remoteSettings viewState := isState_startWith hready _ _
  -- With nothing in memory the first look fails at the view, and keeps what it found elsewhere.
  have hview : viewState.filters.provider.IsObstructed remoteApp.store :=
    ⟨rfl, ⟨_, Store.connect_of_connection rfl, rfl⟩, exported_viewState ▸ List.cons_ne_nil _ _⟩
  obtain ⟨hunknown, hfound⟩ := capability_behind_view (s := viewState.filters) rfl (by decide)
    hview rfl
  have hday : viewState.filters.probe.inspect
      ((Store.exported remoteApp.store [] (.table dayTable)).take remoteApp.sampleSize.toNat) =
        .ok ⟨true, [.text "Day"], true⟩ := by
    rw [exported_viewState]
    decide
  obtain ⟨shown, hshown, hnothing⟩ :=
    hready.usable.exists_reportOf (Payload.ofRecord [("metric", .text "tickets")]) .unknown
  obtain ⟨applied, happlied, hsomething⟩ :=
    hready.usable.exists_reportOf (Payload.ofRecord [("metric", .text "tickets")])
      ⟨true, [.text "Day"], true⟩
  obtain ⟨between, after, hbetween, hafter, -⟩ := respond_respond hready hstate (by decide) (by decide)
    isImmediate_immediateRequest payload_compileRequest payload_immediateRequest
    (hunknown.symm ▸ hshown) ((hfound.trans hday).symm ▸ happlied)
  have hfirst : (remoteApp.compileReply shown
      (.object (remoteApp.service.listedPaint shown.metricFields))).part? "capability" =
        some (Capability.toValue .unknown) := by
    rw [← hnothing]
    rfl
  have hsecond : (object (applied.withApplied
      (remoteApp.service.layers.map Prod.fst)).toRecord).part? "capability" =
        some (Capability.toValue ⟨true, [.text "Day"], true⟩) := by
    rw [← hsomething]
    rfl
  refine ⟨hready, hstate, _, _, between, after, hbetween, hafter, hfirst, hsecond, ?_⟩
  rw [hfirst, hsecond]
  decide

end App

end MapFilter
