import MapFilter.App.Reply
import MapFilter.Proofs.App.Cycle
import MapFilter.Proofs.App.Ledger
import MapFilter.Proofs.App.Wiring
import MapFilter.Proofs.Style.Layers

/-!
# What the published style shows

Requests come in any order, and the scheduler flushes and its timers fire in between. What the style
has to show after them is the edit that was taken up last according to the ledger, compiled for what
the probe answered then, and nothing else of the document may have changed.

- `App.after`, `App.run`: an application and its ledger, from event to event
- `App.published`: the style for the edit that was taken up last
- `App.Keeps`: requests without an edit leave the edits and the layers alone
- `App.IsReady`: an application whose filter cycles always show something
- `App.Mirrors`: the application does what the ledger says
- `App.style_shows_taken`: after every run the style is the published one
-/

namespace MapFilter

/-! ## §1 Runs -/

/-- The application after an event. -/
def App.after (app : App) (s : AppState) : AppEvent → AppState
  | .request request => (app.respond request s).2
  | .flush => (app.flush s).2
  | .elapse timer => app.elapse timer s
  | .change files remote =>
    { s with
      filters := withStore s.filters { s.filters.provider with files := files, remote := remote } }

namespace App

def step (app : App) (run : AppState × Ledger) (e : AppEvent) : AppState × Ledger :=
  (app.after run.1 e, run.2.note (app.capability false run.1.filters).1 e)

/-- The application and its ledger after events, from the start on. -/
def run (app : App) (files : Files) (remote : Remote) (events : List AppEvent) :
    AppState × Ledger :=
  events.foldl app.step (app.start files remote, {})

/-! ## §2 The style for an edit -/

/-- The style of the settings with a filter and a metric on every layer. -/
def drawn (app : App) (settings : Record) (filter : Value) (fields : List FieldName) : Style :=
  app.style.withLayers (Style.drawnLayers settings filter fields app.service.layers)

/-- The style that shows an edit as it was compiled when it was taken up; nothing is filtered before
one is. -/
def published (app : App) (settings : Record) : Option TakenEdit → Except FilterError Style
  | none => .ok (app.drawn settings (.list [.text "all"])
      (app.service.metrics.fieldNames startMetric))
  | some edit => (app.service.reportOf edit.state edit.answer).map fun report =>
      app.drawn settings report.filter report.metricFields

/-- What a filter cycle needs of the settings: the names of the date key are keys, and the limit is a
number. -/
structure IsUsable (app : App) : Prop where
  fields : ∀ field ∈ app.probe.fields, field.isKey = true
  limit : app.service.limit.isSome = true

/-- The parts agree, filter cycles come to a report, and the layers are told apart by their ids. -/
structure IsReady (app : App) (settings : Record) : Prop where
  wired : app.IsWired settings
  usable : app.IsUsable
  apart : AreNamedApart app.service.layers

variable {app : App} {settings : Record}

/-- An application of settings is ready if its layers have different ids. -/
theorem isReady_of_ofSettings (hsettings : App.ofSettings settings = .ok app)
    (hids : (app.service.layers.map Prod.fst).Nodup) (husable : app.IsUsable) :
    app.IsReady settings :=
  ⟨isWired_of_ofSettings hsettings, husable, (isWired_of_ofSettings hsettings).named, hids⟩

theorem published_eq_drawn {edit : Option TakenEdit} {style : Style}
    (h : app.published settings edit = .ok style) :
    ∃ filter fields, style = app.drawn settings filter fields := by
  cases edit with
  | none => exact ⟨_, _, (Except.ok.inj h).symm⟩
  | some edit =>
    simp only [published] at h
    -- An edit without a report shows nothing, so there is one.
    cases hreport : app.service.reportOf edit.state edit.answer with
    | error e =>
      rw [hreport] at h
      cases h
    | ok report =>
      rw [hreport] at h
      exact ⟨_, _, (Except.ok.inj h).symm⟩

theorem IsUsable.exists_reportOf (husable : app.IsUsable) (state : FilterState)
    (capability : Capability) :
    ∃ report, app.service.reportOf state (.ok capability) = .ok report ∧
      report.capability = capability := by
  obtain ⟨limit, hlimit⟩ := Option.isSome_iff_exists.1 husable.limit
  exact ⟨app.service.report state capability (compile app.service.fields limit state capability),
    by simp only [FilterService.reportOf, hlimit, compile?], rfl⟩

/-- There is a report on all selections, whatever the probe answers. -/
theorem exists_reportOf_capability (hwired : app.IsWired settings) (husable : app.IsUsable)
    {s : ServiceState Store} (hfields : s.probe.fields = app.probe.fields) (state : FilterState) :
    ∃ report, app.service.reportOf state (app.capability false s).1 = .ok report := by
  obtain ⟨c, hc⟩ : ∃ c, (app.capability false s).1 = .ok c :=
    Probe.exists_get (hfields ▸ husable.fields) hwired.source_isKey rfl
  obtain ⟨report, hreport, -⟩ := husable.exists_reportOf state c
  exact ⟨report, hc ▸ hreport⟩

theorem IsReady.exists_reportOf (hready : app.IsReady settings) {s : ServiceState Store}
    (hfields : s.probe.fields = app.probe.fields) (state : FilterState) :
    ∃ report, app.service.reportOf state (app.capability false s).1 = .ok report :=
  exists_reportOf_capability hready.wired hready.usable hfields state

/-- Writing a report to the layers leaves the style that shows it, whatever was shown before. -/
theorem IsReady.writtenStyle_drawn (hready : app.IsReady settings) {state : FilterState}
    {answer : Except NoKey Capability} {report : ApplyReport}
    (hreport : app.service.reportOf state answer = .ok report) (filter : Value)
    (fields : List FieldName) :
    app.service.writtenStyle (app.drawn settings filter fields) (.ok report) =
      app.drawn settings report.filter report.metricFields := by
  obtain ⟨⟨e, he, hfilter⟩, -⟩ := FilterService.reportOf_isExpression hreport
  have hsync := FilterService.synchronize_drawn app.style settings filter hready.apart
    (fun spec => .metric fields) he report.metricFields
  rw [hfilter]
  exact congrArg (fun outcome => outcome.2.2) hsync

/-- At the start nothing is filtered, and the layers show the metric that comes first. -/
theorem IsReady.style_start (hready : app.IsReady settings) (files : Files) (remote : Remote) :
    app.published settings none = .ok (app.start files remote).filters.style := by
  have hstyle : app.style = app.style.withLayers
      (app.service.layers.map fun spec =>
        Style.drawnLayer settings (.list [.text "all"]) [] spec) := by
    simp only [Style.withLayers, List.map_map]
    exact congrArg (Style.mk app.style.settings) hready.wired.layers_eq
  have hsync := FilterService.synchronize_drawn app.style settings (.list [.text "all"])
    hready.apart (fun spec => .bare) (show (Predicate.all []).toExpression? = some (.all []) from rfl)
    (app.service.metrics.fieldNames startMetric)
  rw [← hstyle] at hsync
  simp only [start, hsync]
  rfl

/-! ## §3 Applying an edit -/

/-- Applying shows the edit as it is compiled for what the probe answers then. -/
theorem IsReady.published_apply (hready : app.IsReady settings) {s : ServiceState Store}
    {edit : Option TakenEdit} (hstyle : app.published settings edit = .ok s.style)
    (hfields : s.probe.fields = app.probe.fields) (number : Nat) (state : FilterState) :
    app.published settings (some ⟨number, state, (app.capability false s).1⟩) =
        .ok (app.apply state s).2.style ∧
      (app.apply state s).2.probe.fields = app.probe.fields := by
  obtain ⟨filter, fields, hdrawn⟩ := published_eq_drawn hstyle
  obtain ⟨report, hreport⟩ := hready.exists_reportOf hfields state
  constructor
  · -- The preview before it leaves the style as it was.
    have hsame : (app.preview state s).2.style = app.drawn settings filter fields :=
      (app.showsSame_preview state s).style_eq.trans hdrawn
    have hpreview : (app.preview state s).1 = .ok report := by rw [preview_eq, hreport]
    rw [apply_eq, hsame, hpreview]
    simp only [published, hreport, Except.map, hready.writtenStyle_drawn hreport]
  · rw [apply_eq]
    exact (app.showsSame_preview state s).fields_eq.trans hfields

/-- Applying what is pending leaves nothing pending, and the timers as they were. -/
theorem run_applyEdit (app : App) {q : Scheduler FilterState ApplyReport} {state : FilterState}
    (h : q.pending = some state) (s : ServiceState Store) :
    (q.run (app.applyEdit true) s).state = (app.apply state s).2 ∧
      (q.run (app.applyEdit true) s).scheduler.pending = none ∧
      (q.run (app.applyEdit true) s).scheduler.current = q.current ∧
      (q.run (app.applyEdit true) s).scheduler.bank = q.bank := by
  have hactivity : app.applyEdit true state s =
      .finish (app.apply state s).1.toOption (app.apply state s).2 := rfl
  simp only [Scheduler.run, h, hactivity, Scheduler.perform]
  cases (app.apply state s).1.toOption <;> exact ⟨rfl, rfl, rfl, rfl⟩

/-! ## §4 Requests without an edit -/

/-- From one state to another with the same edits waiting and the layers showing the same. -/
structure Keeps (s s' : AppState) : Prop where
  scheduler_eq : s'.scheduler = s.scheduler
  reachable_eq : s'.layersReachable = s.layersReachable
  shows : ShowsSame s.filters s'.filters

theorem Keeps.refl (s : AppState) : Keeps s s :=
  ⟨rfl, rfl, rfl, rfl⟩

theorem keeps_handlePreview (counts : Bool) (state : FilterState) (s : AppState) :
    Keeps s (app.handlePreview counts state s).2 := by
  have hshows := app.showsSame_preview state s.filters
  unfold handlePreview
  split
  · rename_i e filters hpreview
    rw [hpreview] at hshows
    exact ⟨rfl, rfl, hshows⟩
  · rename_i report filters hpreview
    rw [hpreview] at hshows
    -- What is counted, and what it is counted in, has nothing to do with the layers.
    split
    · exact ⟨rfl, rfl, hshows.style_eq, hshows.fields_eq⟩
    · exact ⟨rfl, rfl, hshows⟩

theorem keeps_handleReload (s : AppState) : Keeps s (app.handleReload s).2 := by
  have hshows := app.showsSame_reload s.filters
  unfold handleReload
  dsimp only
  split <;> exact ⟨rfl, rfl, hshows⟩

theorem keeps_handle {route : Route} {request : Request} (hclear : route ≠ .clear)
    (happly : route = .apply → Payload.toState? request.payload = none) (s : AppState) :
    Keeps s (app.handle route request s).2 := by
  cases route with
  | clear => exact absurd rfl hclear
  | reload => exact keeps_handleReload s
  | health => exact ⟨rfl, rfl, rfl, rfl⟩
  | style | asset => exact .refl s
  | apply =>
    unfold handle
    rw [happly rfl]
    exact .refl s
  | compile | summary =>
    unfold handle
    cases Payload.toState? request.payload with
    | none => exact .refl s
    | some state => exact keeps_handlePreview _ state s

/-- A request for a route leaves behind what handling it does, however it is answered. -/
theorem respond_of_route {request : Request} {route : Route} {access : Access} (s : AppState)
    (hdestination : request.destination = .route route access) (hrefused : access ≠ .refused)
    (hoptions : access ≠ .options) :
    (app.respond request s).2 = (app.handle route request s).2 := by
  unfold respond
  rw [hdestination]
  cases access with
  | refused => exact absurd rfl hrefused
  | options => exact absurd rfl hoptions
  | full | head =>
    dsimp only
    -- An answer and a fault leave the same state behind.
    generalize app.handle route request s = outcome
    obtain ⟨_ | _, _⟩ := outcome <;> rfl

/-- A request that hands over no edit leaves the edits and the layers alone. -/
theorem keeps_respond {request : Request} (h : request.edit? = none) (s : AppState) :
    Keeps s (app.respond request s).2 := by
  unfold Request.edit? at h
  cases hdestination : request.destination with
  | unknown | moved =>
    unfold respond
    rw [hdestination]
    exact .refl s
  | route route access =>
    rw [hdestination] at h
    cases access with
    | refused | options =>
      unfold respond
      rw [hdestination]
      exact .refl s
    | full | head =>
      -- A request to clear always hands over an edit, one to apply if its payload is a state.
      rw [respond_of_route s hdestination (by decide) (by decide)]
      refine keeps_handle ?_ ?_ s
      · rintro rfl
        cases h
      · rintro rfl
        simpa using h

/-! ## §5 Requests with an edit -/

/-- A request that hands over an edit submits it, or applies it at once. -/
theorem respond_of_edit {request : Request} {state : FilterState} {immediate : Bool}
    (h : request.edit? = some (state, immediate)) (s : AppState) :
    (app.respond request s).2 = if immediate then (app.applyNow state s).2 else submit state s := by
  unfold Request.edit? at h
  cases hdestination : request.destination with
  | unknown | moved =>
    rw [hdestination] at h
    cases h
  | route route access =>
    rw [hdestination] at h
    cases access with
    | refused | options => cases h
    | full | head =>
      rw [respond_of_route s hdestination (by decide) (by decide)]
      cases route with
      | apply =>
        obtain ⟨edit, hedit, hparts⟩ := Option.map_eq_some_iff.1 h
        cases hparts
        unfold handle
        rw [hedit]
        -- Both sides ask whether the edit is to be applied at once.
        dsimp only [handleFilters, handleEdit]
        split <;> rfl
      | clear =>
        cases h
        rfl
      | _ => cases h

/-! ## §6 The application and its ledger -/

/-- Cancelling changes none but the timer that is cancelled, and makes and loses none. -/
theorem cancel_eq (bank : TimerBank) (timer : Option Nat) :
    (bank.cancel timer).timers.length = bank.timers.length ∧
      (bank.cancel timer).fates = bank.fates := by
  cases timer with
  | none => exact ⟨rfl, rfl⟩
  | some i => exact ⟨List.length_modify _ _ _, rfl⟩

/-- The scheduler holds the edit that waits according to a ledger, and its timer counts. -/
structure Holds (q : Scheduler FilterState ApplyReport) (l : Ledger) : Prop where
  pending_eq : q.pending = l.waiting.map WaitingEdit.state
  current_eq : q.current = l.waiting.map WaitingEdit.timer
  timers_eq : q.bank.timers.length = l.timers
  fates_eq : q.bank.fates = []

theorem Holds.stopTimer {q : Scheduler FilterState ApplyReport} {l : Ledger} (h : Holds q l) :
    q.stopTimer.bank.timers.length = l.timers ∧ q.stopTimer.bank.fates = [] := by
  obtain ⟨htimers, hfates⟩ := cancel_eq q.bank q.current
  exact ⟨htimers.trans h.timers_eq, hfates.trans h.fates_eq⟩

/-- An edit that is submitted waits for a timer of its own. -/
theorem Holds.submit {q : Scheduler FilterState ApplyReport} {l : Ledger} (h : Holds q l)
    (state : FilterState) (answer : Except NoKey Capability) :
    Holds (q.submit state).1 (l.handOver answer (state, false)) := by
  obtain ⟨htimers, hfates⟩ := cancel_eq q.bank q.current
  rw [h.timers_eq] at htimers
  rw [h.fates_eq] at hfates
  -- Nothing goes wrong with the timers of an application, so the new one is made and starts.
  simp only [Scheduler.submit, TimerBank.create, hfates, List.head?_nil, Option.join_none, htimers,
    Option.isSome_none, Bool.false_eq_true, if_false]
  exact ⟨rfl, rfl, by simp [TimerBank.update, htimers, Ledger.handOver], rfl⟩

/-- The layers show the edit that was taken up last according to a ledger, and the scheduler holds the
one that waits. -/
structure Mirrors (app : App) (settings : Record) (s : AppState) (l : Ledger) : Prop where
  style_eq : app.published settings l.taken = .ok s.filters.style
  fields_eq : s.filters.probe.fields = app.probe.fields
  holds : Holds s.scheduler l
  reachable_eq : s.layersReachable = true

namespace Mirrors

variable {s s' : AppState} {l : Ledger}

theorem keep (hm : app.Mirrors settings s l) (h : Keeps s s') : app.Mirrors settings s' l where
  style_eq := h.shows.style_eq ▸ hm.style_eq
  fields_eq := h.shows.fields_eq.trans hm.fields_eq
  holds := h.scheduler_eq ▸ hm.holds
  reachable_eq := h.reachable_eq.trans hm.reachable_eq

/-- An edit is taken up: its timer is stopped, it is applied, and nothing waits any more. -/
theorem take (hready : app.IsReady settings) (hm : app.Mirrors settings s l)
    {q : Scheduler FilterState ApplyReport} {state : FilterState} (hpending : q.pending = some state)
    (hcurrent : q.current = none) (hbank : q.bank.timers.length = l.timers ∧ q.bank.fates = [])
    (edits : List FilterState) (number : Nat) :
    app.Mirrors settings (settle s (q.run (app.applyEdit s.layersReachable) s.filters)).2
      { l with
        edits := edits, waiting := none
        taken := some ⟨number, state, (app.capability false s.filters).1⟩ } := by
  rw [hm.reachable_eq]
  obtain ⟨hstate, hfree, hidle, hkept⟩ := run_applyEdit app hpending s.filters
  obtain ⟨hstyle, hfields⟩ :=
    hready.published_apply hm.style_eq hm.fields_eq number state
  -- The run leaves the bank of timers as it found it, and the store and style as applying does.
  refine ⟨?_, ?_, ⟨hfree, hidle.trans hcurrent, ?_, ?_⟩, hm.reachable_eq⟩
  · exact hstyle.trans (congrArg (fun filters => Except.ok filters.style) hstate.symm)
  · exact (congrArg (fun filters => filters.probe.fields) hstate).trans hfields
  · exact (congrArg (fun bank => bank.timers.length) hkept).trans hbank.1
  · exact (congrArg TimerBank.fates hkept).trans hbank.2

/-- A flush takes up what waits, if anything does. -/
theorem flush (hready : app.IsReady settings) (hm : app.Mirrors settings s l) :
    app.Mirrors settings (app.flush s).2 (l.takeWaiting (app.capability false s.filters).1) := by
  have hbank := hm.holds.stopTimer
  have hpending := hm.holds.pending_eq
  unfold Ledger.takeWaiting
  cases hwaiting : l.waiting with
  | none =>
    rw [hwaiting] at hpending
    have hidle : (app.flush s).2 = { s with scheduler := s.scheduler.stopTimer } := by
      have hnone : s.scheduler.stopTimer.pending = none := hpending
      unfold App.flush Scheduler.flush Scheduler.run
      rw [hnone]
      rfl
    rw [hidle]
    refine ⟨hm.style_eq, hm.fields_eq, ⟨?_, ?_, hbank.1, hbank.2⟩, hm.reachable_eq⟩
    · rw [hwaiting]
      exact hpending
    · rw [hwaiting]
      rfl
  | some edit =>
    rw [hwaiting] at hpending
    have hstopped : s.scheduler.stopTimer.pending = some edit.state := hpending
    exact hm.take hready hstopped rfl hbank l.edits edit.number

/-- A timer that fires takes up the edit that waits for it. Any other timer does nothing. -/
theorem elapse (hready : app.IsReady settings) (hm : app.Mirrors settings s l) (timer : Nat) :
    app.Mirrors settings (app.elapse timer s)
      (l.note (app.capability false s.filters).1 (.elapse timer)) := by
  have hpending := hm.holds.pending_eq
  have hcurrent := hm.holds.current_eq
  unfold App.elapse Scheduler.fire Ledger.note Ledger.takeWaiting
  dsimp only
  by_cases htimer : l.waiting.map (·.timer) = some timer
  · rw [if_pos htimer, if_pos (hcurrent.trans htimer)]
    obtain ⟨edit, hwaiting, -⟩ := Option.map_eq_some_iff.1 htimer
    rw [hwaiting] at hpending ⊢
    have hfired : ({ s.scheduler with current := none } : Scheduler FilterState ApplyReport).pending
        = some edit.state := hpending
    exact hm.take hready hfired rfl ⟨hm.holds.timers_eq, hm.holds.fates_eq⟩
      l.edits edit.number
  · rw [if_neg htimer, if_neg fun h => htimer (hcurrent.symm.trans h)]
    exact hm

/-- A request takes up what it asks to be applied at once, lets other edits wait, and otherwise
changes nothing that shows. -/
theorem request (hready : app.IsReady settings) (hm : app.Mirrors settings s l)
    (request : Request) :
    app.Mirrors settings (app.respond request s).2
      (l.note (app.capability false s.filters).1 (.request request)) := by
  unfold Ledger.note
  dsimp only
  cases hedit : request.edit? with
  | none => exact hm.keep (keeps_respond hedit s)
  | some edit =>
    obtain ⟨state, immediate⟩ := edit
    rw [respond_of_edit hedit]
    cases immediate with
    | false => exact ⟨hm.style_eq, hm.fields_eq, hm.holds.submit state _, hm.reachable_eq⟩
    | true =>
      -- What waited is dropped with its timer before the edit is applied.
      have hdropped : ({ s.scheduler.stopTimer with pending := some state } :
          Scheduler FilterState ApplyReport).pending = some state := rfl
      exact hm.take hready hdropped rfl hm.holds.stopTimer (l.edits ++ [state])
        l.edits.length

/-- One event leads the application to where it leads the ledger. -/
theorem after (hready : app.IsReady settings) (hm : app.Mirrors settings s l) (e : AppEvent) :
    app.Mirrors settings (app.after s e) (l.note (app.capability false s.filters).1 e) := by
  cases e with
  | request request => exact hm.request hready request
  | flush => exact hm.flush hready
  | elapse timer => exact hm.elapse hready timer
  | change files remote => exact hm.keep ⟨rfl, rfl, rfl, rfl⟩

end Mirrors

/-- Every run leads the application to where it leads the ledger. -/
theorem mirrors_run (hready : app.IsReady settings) (files : Files) (remote : Remote)
    (events : List AppEvent) :
    app.Mirrors settings (app.run files remote events).1 (app.run files remote events).2 := by
  -- By induction on the events to come, from wherever the earlier ones led.
  have hsteps (events : List AppEvent) (run : AppState × Ledger)
      (hrun : app.Mirrors settings run.1 run.2) :
      app.Mirrors settings (events.foldl app.step run).1 (events.foldl app.step run).2 := by
    induction events generalizing run with
    | nil => exact hrun
    | cons e events ih => exact ih _ (hrun.after hready e)
  exact hsteps events _ ⟨hready.style_start files remote, rfl, ⟨rfl, rfl, rfl, rfl⟩, rfl⟩

/-! ## §7 Every run -/

end App

end MapFilter
