import MapFilter.Proofs.App.Preview

/-!
# Requests with any body

Nothing in the body of a request to compile is to be fatal. A body that is no JSON text, or a value
that counts as absent, is taken for an empty object, and within an object every value under every name
is a selection. A value that counts as present and is no object gets past that: it is asked for its
entries, has none, and the request fails.

- `Request.asksInObject`, `Request.entries`: whether a body is tolerated, and the entries it has
- `App.fields_foldl`: whatever happens, the probe looks at the same fields
- `App.compile_answers_iff`: the bodies that get a filter, and what the others get
-/

namespace MapFilter

/-! ## §1 Bodies -/

namespace Request

/-- Whether the body is an object, or nothing that counts as present. -/
def asksInObject (request : Request) : Bool :=
  match request.json? with
  | some (.object _) => true
  | some v => !v.isTruthy
  | none => true

/-- The entries of the object in the body; none if there is no object. -/
def entries (request : Request) : Record :=
  match request.json? with
  | some (.object entries) => entries
  | _ => []

variable {request : Request}

/-- A tolerated body is an object with its entries. -/
theorem payload_of_asksInObject (h : request.asksInObject = true) :
    request.payload = .object request.entries := by
  unfold asksInObject at h
  unfold payload entries
  split at h
  · rename_i entries hjson
    -- An object without entries counts as absent, and is replaced by another one.
    cases entries with
    | nil => simp [hjson, Value.isTruthy]
    | cons entry rest => simp [hjson, Value.isTruthy]
  · rename_i v hnot hjson
    have hfalsy : v.isTruthy = false := by simpa using h
    simp only [hjson, hfalsy, Bool.false_eq_true, if_false]
    split
    · rename_i entries hentries
      exact absurd (Option.some.inj hentries) (hnot entries)
    · rfl
  · rename_i hjson
    simp [hjson]

/-- Any other body holds no selections. -/
theorem toState?_of_not_asksInObject (h : request.asksInObject = false) :
    Payload.toState? request.payload = none := by
  unfold asksInObject at h
  unfold payload
  split at h
  · cases h
  · rename_i v hnot hjson
    have htruthy : v.isTruthy = true := by simpa using h
    simp only [hjson, htruthy, if_true]
    cases v with
    | object entries => exact absurd rfl (hnot entries)
    | _ => rfl
  · cases h

end Request

/-- A fold comes to a result if every step does. -/
theorem exists_foldlM_ok {α β ε : Type} {f : β → α → Except ε β} {l : List α}
    (h : ∀ a ∈ l, ∀ acc, ∃ next, f acc a = .ok next) (acc : β) :
    ∃ out, l.foldlM f acc = .ok out := by
  induction l generalizing acc with
  | nil => exact ⟨acc, rfl⟩
  | cons a rest ih =>
    obtain ⟨next, hnext⟩ := h a List.mem_cons_self acc
    rw [List.foldlM_cons, hnext]
    exact ih (fun b hb => h b (List.mem_cons_of_mem _ hb)) next

/-- Layers with names have paint, whether the names differ or not. -/
theorem FilterService.exists_paint {service : FilterService}
    (h : ∀ spec ∈ service.layers, ∃ name, spec.1 = .text name) (fields : List FieldName) :
    ∃ paint, service.paint fields = .ok paint := by
  have hstep : ∀ spec ∈ service.layers, ∀ acc : Keyed Value, ∃ next,
      Keyed.insertKey acc spec.1 (.object (Style.metricPaint fields spec.2)) = .ok next := by
    intro spec hspec acc
    obtain ⟨name, hname⟩ := h spec hspec
    rw [hname]
    exact ⟨_, rfl⟩
  obtain ⟨entries, hentries⟩ := exists_foldlM_ok hstep []
  rw [paint_eq_foldlM, hentries]
  exact ⟨_, rfl⟩

/-! ## §2 What a probe looks at -/

namespace App

variable {app : App} {settings : Record}

/-- Applying an edit comes to an end, and the probe looks at the same fields afterwards. -/
theorem exists_applyEdit (app : App) (reachable : Bool) (state : FilterState)
    (s : ServiceState Store) :
    ∃ result s', app.applyEdit reachable state s = .finish result s'
      ∧ s'.probe.fields = s.probe.fields := by
  have hpreview := (app.showsSame_preview state s).fields_eq
  cases reachable with
  | true =>
    refine ⟨(app.apply state s).1.toOption, (app.apply state s).2, rfl, ?_⟩
    rw [apply_eq]
    exact hpreview
  | false => exact ⟨none, (app.preview state s).2, rfl, hpreview⟩

theorem fields_runEdit (app : App) (reachable : Bool) (q : Scheduler FilterState ApplyReport)
    (s : ServiceState Store) :
    (q.run (app.applyEdit reachable) s).state.probe.fields = s.probe.fields := by
  unfold Scheduler.run
  cases q.pending with
  | none => rfl
  | some state =>
    obtain ⟨result, s', hactivity, hfields⟩ := app.exists_applyEdit reachable state s
    simp only [hactivity, Scheduler.perform]
    cases result <;> exact hfields

theorem fields_settle (app : App) (reachable : Bool) (q : Scheduler FilterState ApplyReport)
    (s : AppState) :
    (settle s (q.run (app.applyEdit reachable) s.filters)).2.filters.probe.fields =
      s.filters.probe.fields :=
  app.fields_runEdit reachable q s.filters

theorem fields_respond (app : App) (request : Request) (s : AppState) :
    (app.respond request s).2.filters.probe.fields = s.filters.probe.fields := by
  cases hedit : request.edit? with
  | none => exact (keeps_respond hedit s).shows.fields_eq
  | some edit =>
    obtain ⟨state, immediate⟩ := edit
    rw [respond_of_edit hedit]
    cases immediate with
    | false => rfl
    | true =>
      rw [if_pos rfl]
      exact app.fields_settle _ _ s

theorem fields_after (app : App) (s : AppState) (e : AppEvent) :
    (app.after s e).filters.probe.fields = s.filters.probe.fields := by
  cases e with
  | request request =>
    have hafter : app.after s (.request request) = (app.respond request s).2 := rfl
    rw [hafter, fields_respond]
  | flush => exact app.fields_settle _ _ s
  | elapse timer =>
    -- What the timer yields is dropped; the filters are those of the run all the same.
    have hfire : (app.after s (.elapse timer)).filters =
        (s.scheduler.fire (app.applyEdit s.layersReachable) timer s.filters).state := rfl
    rw [hfire, Scheduler.fire]
    split
    · exact app.fields_runEdit _ _ s.filters
    · rfl
  | change files remote => rfl

/-- Whatever happens, the probe looks at the same fields. -/
theorem fields_foldl (app : App) (events : List AppEvent) (run : AppState × Ledger) :
    (events.foldl app.step run).1.filters.probe.fields = run.1.filters.probe.fields := by
  induction events generalizing run with
  | nil => rfl
  | cons e events ih => exact (ih (app.step run e)).trans (app.fields_after run.1 e)

/-! ## §3 Requests to compile -/

/-- A request whose body is no object fails and changes nothing. -/
theorem respond_of_not_asksInObject {request : Request}
    (hdestination : request.destination = .route .compile .full)
    (h : request.asksInObject = false) (s : AppState) :
    app.respond request s =
      (if app.passesFaults then .error .noObject else .ok { status := 500 }, s) := by
  have hhandle : app.handle .compile request s = (.error .noObject, s) := by
    simp only [handle, Request.toState?_of_not_asksInObject h]
  unfold respond
  rw [hdestination]
  simp only [hhandle]

/-- In every state that requests, timers and changes of the data lead to, a request to compile is
answered with a filter exactly if its body is an object, or nothing that counts as present, which is
an empty object. Any other value makes it fail, as a fault that is passed on or an error of the
service. -/
theorem compile_answers_iff (hsettings : App.ofSettings settings = .ok app) (husable : app.IsUsable)
    (files : Files) (remote : Remote) (events : List AppEvent) {request : Request}
    (hdestination : request.destination = .route .compile .full) :
    ((∃ reply, (app.respond request (app.run files remote events).1).1 = .ok reply
        ∧ reply.status = 200 ∧ (reply.part? "filter").isSome = true) ↔
      request.asksInObject = true)
    ∧ (request.asksInObject = true → ∃ report e paint,
      app.service.reportOf (Payload.ofRecord request.entries)
          (app.capability false (app.run files remote events).1.filters).1 = .ok report
        ∧ report.predicate.toExpression? = some e ∧ report.filter = e.toValue
        ∧ (app.respond request (app.run files remote events).1).1 =
          .ok (app.compileReply report paint))
    ∧ (request.asksInObject = false → app.respond request (app.run files remote events).1 =
      (if app.passesFaults then .error .noObject else .ok { status := 500 },
        (app.run files remote events).1)) := by
  have hwired := isWired_of_ofSettings hsettings
  have hfields : (app.run files remote events).1.filters.probe.fields = app.probe.fields :=
    app.fields_foldl events (app.start files remote, {})
  generalize (app.run files remote events).1 = s at hfields
  have hanswered (h : request.asksInObject = true) : ∃ report e paint,
      app.service.reportOf (Payload.ofRecord request.entries) (app.capability false s.filters).1 =
          .ok report
        ∧ report.predicate.toExpression? = some e ∧ report.filter = e.toValue
        ∧ (app.respond request s).1 = .ok (app.compileReply report paint) := by
    obtain ⟨report, hreport⟩ :=
      exists_reportOf_capability hwired husable hfields (Payload.ofRecord request.entries)
    obtain ⟨⟨e, he, hfilter⟩, -⟩ := FilterService.reportOf_isExpression hreport
    obtain ⟨paint, hpaint⟩ := FilterService.exists_paint hwired.named report.metricFields
    refine ⟨report, e, paint, hreport, he, hfilter, ?_⟩
    rw [respond_of_paint hdestination (Request.payload_of_asksInObject h) hreport hpaint]
  have hfailed (h : request.asksInObject = false) : app.respond request s =
      (if app.passesFaults then .error .noObject else .ok { status := 500 }, s) :=
    respond_of_not_asksInObject hdestination h s
  refine ⟨⟨?_, fun h => ?_⟩, hanswered, hfailed⟩
  · rintro ⟨reply, hreply, hstatus, -⟩
    by_contra h
    rw [hfailed (by simpa using h)] at hreply
    -- A fault that is not passed on is answered, but not with success.
    split at hreply
    · cases hreply
    · cases hreply
      cases hstatus
  · obtain ⟨report, e, paint, -, -, -, hreply⟩ := hanswered h
    exact ⟨_, hreply, rfl, rfl⟩

/-- A request to compile with a body that is no JSON text. -/
def unreadableRequest : Request :=
  { method := "POST", target := "/filters/compile", body := "not json" }

theorem compile_answers_iff_unreadable :
    smallApp.IsUsable ∧ unreadableRequest.destination = .route .compile .full
      ∧ unreadableRequest.asksInObject = true
      ∧ ∃ reply, (smallApp.respond unreadableRequest (smallApp.run [] .unavailable []).1).1 = .ok reply
        ∧ reply.status = 200 ∧ (reply.part? "filter").isSome = true := by
  have hdestination : unreadableRequest.destination = .route .compile .full := by decide
  have hasks : unreadableRequest.asksInObject = true := by decide +kernel
  exact ⟨isReady_smallApp.usable, hdestination, hasks,
    (compile_answers_iff ofSettings_smallSettings isReady_smallApp.usable [] .unavailable []
      hdestination).1.2 hasks⟩

/-- A request to compile with a list for a body. -/
def listRequest : Request :=
  { method := "POST", target := "/filters/compile", body := "[1]" }

/-- A list gets past the tolerance for bodies that are no objects, and the request fails. -/
theorem compile_fails_list :
    listRequest.destination = .route .compile .full ∧ listRequest.json? = some (.list [.int 1])
      ∧ (smallApp.respond listRequest (smallApp.run [] .unavailable []).1).1 =
        .ok { status := 500 } := by
  have hdestination : listRequest.destination = .route .compile .full := by decide
  have hjson : listRequest.json? = some (.list [.int 1]) := by decide +kernel
  have hasks : listRequest.asksInObject = false := by
    rw [Request.asksInObject, hjson]
    rfl
  refine ⟨hdestination, hjson, ?_⟩
  rw [respond_of_not_asksInObject hdestination hasks]
  rfl

end App

end MapFilter
