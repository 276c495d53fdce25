import MapFilter.Proofs.Scheduler.Run

/-!
# Timers and the pending edit

An edit that waits must not be forgotten, so some timer has to be running for it, and a timer that is no
longer meant must do nothing. While nothing goes wrong with timers the pending edit and the current timer
come and go together: the current timer is the last one that was created, it is running, and all others
were cancelled or have fired.

- `Watched`: a scheduler with an account of which timers fired and what was applied with which result
- `Scheduler.Timed`, `Scheduler.Poised`: what is true of the timers, also while an edit is applied
- `Watched.Settled`: what is true between operations
- `Watched.live_timer`: the pending edit and its timer after every run
-/

namespace MapFilter

variable {α β σ : Type}

/-! ## §1 Accounts -/

/-- An activity that writes down the edit it applies and its own result. -/
def Activity.noted (edit : α) (applied : List (α × Option β)) :
    Activity α β σ → Activity α β (σ × List (α × Option β))
  | .finish result state => .finish result (state, (edit, result) :: applied)
  | .submit other next => .submit other fun fault => (next fault).noted edit applied
  | .cancel next => .cancel (next.noted edit applied)
  | .observe next => .observe fun phase result => (next phase result).noted edit applied

/-- A callback that writes down what it applies. -/
def noted (callback : Callback α β σ) : Callback α β (σ × List (α × Option β)) :=
  fun edit state => (callback edit state.1).noted edit state.2

/-- The timer that an operation fires, if it was ever created. -/
def Operation.firing (s : Scheduler α β) : Operation α → List Nat
  | .fire timer => if timer < s.bank.timers.length then [timer] else []
  | .submit _ | .applyNow _ | .flush | .cancel => []

/-- A scheduler and the state of its callback, with an account of the run that led there. -/
structure Watched (α β σ : Type) where
  scheduler : Scheduler α β
  state : σ
  /-- The timers that fired, the latest first. -/
  fired : List Nat := []
  /-- The edits that were applied with what came of it, the latest first. -/
  applied : List (α × Option β) := []

namespace Watched

/-- One operation. -/
def step (callback : Callback α β σ) (w : Watched α β σ) (op : Operation α) : Watched α β σ :=
  let s := MapFilter.step (noted callback) (w.scheduler, w.state, w.applied) op
  { scheduler := s.1, state := s.2.1, fired := op.firing w.scheduler ++ w.fired, applied := s.2.2 }

/-- Operations one after the other. -/
def steps (callback : Callback α β σ) (w : Watched α β σ) (ops : List (Operation α)) :
    Watched α β σ :=
  ops.foldl (step callback) w

/-- A timer that is running: it was started, was not cancelled and did not fire. -/
def IsLive (w : Watched α β σ) (i : Nat) : Prop :=
  ∃ timer, w.scheduler.bank.timers[i]? = some timer ∧ timer.started = true ∧
    timer.cancelled = false ∧ i ∉ w.fired

end Watched

/-! ## §2 Without the account -/

namespace Scheduler

/-- Writing down makes no difference to an activity. -/
theorem perform_noted (edit : α) (applied : List (α × Option β)) (a : Activity α β σ)
    (s : Scheduler α β) :
    s.perform (a.noted edit applied) =
      ((s.perform a).1, (s.perform a).2.1,
        ((s.perform a).2.2, (edit, (s.perform a).2.1) :: applied)) := by
  induction a generalizing s with
  | finish result state => rfl
  | submit other next ih => exact ih _ _
  | cancel next ih => exact ih _
  | observe next ih => exact ih _ _ _

/-- What a run writes down: the pending edit, if there is one, with the result of the run. -/
theorem run_noted (callback : Callback α β σ) (s : Scheduler α β) (state : σ)
    (applied : List (α × Option β)) :
    (s.run (noted callback) (state, applied)).scheduler = (s.run callback state).scheduler ∧
      (s.run (noted callback) (state, applied)).state =
        ((s.run callback state).state,
          (s.pending.map fun edit => (edit, (s.run callback state).result)).toList ++ applied) := by
  cases hpending : s.pending with
  | none =>
    simp only [run, hpending]
    exact ⟨trivial, rfl⟩
  | some edit =>
    simp only [run, hpending, noted, perform_noted]
    cases (perform { s with pending := none, applying := true } (callback edit state)).2.1 with
    | none => exact ⟨rfl, rfl⟩
    | some result => exact ⟨rfl, rfl⟩

end Scheduler

namespace Watched

/-- The scheduler and the state of the callback are those of a run without an account. -/
theorem step_eq (callback : Callback α β σ) (w : Watched α β σ) (op : Operation α) :
    ((w.step callback op).scheduler, (w.step callback op).state) =
      MapFilter.step callback (w.scheduler, w.state) op := by
  have hrun (s : Scheduler α β) :
      ((s.run (noted callback) (w.state, w.applied)).scheduler,
        (s.run (noted callback) (w.state, w.applied)).state.1) = (s.run callback w.state).states := by
    obtain ⟨hscheduler, hstate⟩ := s.run_noted callback w.state w.applied
    rw [hscheduler, hstate]
    rfl
  cases op with
  | submit edit => rfl
  | applyNow edit => exact hrun _
  | flush => exact hrun _
  | cancel => rfl
  | fire timer =>
    by_cases hcurrent : w.scheduler.current = some timer
    · simp only [step, MapFilter.step, Scheduler.fire, hcurrent, if_true]
      exact hrun _
    · simp only [step, MapFilter.step, Scheduler.fire, hcurrent, if_false]
      rfl

theorem steps_eq (callback : Callback α β σ) (w : Watched α β σ) (ops : List (Operation α)) :
    ((w.steps callback ops).scheduler, (w.steps callback ops).state) =
      MapFilter.steps callback (w.scheduler, w.state) ops := by
  induction ops generalizing w with
  | nil => rfl
  | cons op rest ih =>
    simp only [steps, MapFilter.steps, List.foldl_cons] at ih ⊢
    rw [ih, step_eq]

end Watched

/-! ## §3 Banks of timers -/

namespace TimerBank

variable (bank : TimerBank)

theorem fates_cancel (timer : Option Nat) : (bank.cancel timer).fates = bank.fates := by
  cases timer <;> rfl

theorem length_cancel (timer : Option Nat) :
    (bank.cancel timer).timers.length = bank.timers.length := by
  cases timer with
  | none => rfl
  | some i => exact List.length_modify _ _ _

theorem getElem?_cancel (timer : Option Nat) (i : Nat) :
    (bank.cancel timer).timers[i]? =
      if timer = some i then bank.timers[i]?.map fun t => { t with cancelled := true }
      else bank.timers[i]? := by
  cases timer with
  | none => simp [cancel]
  | some j =>
    simp only [cancel, update, List.getElem?_modify, Option.some.injEq]
    split <;> simp

/-- Where nothing goes wrong a timer is created and can be started. -/
theorem create_of_faultless {bank : TimerBank} (h : ∀ fate ∈ bank.fates, fate = none) :
    bank.create =
      (some (bank.timers.length, false), ⟨bank.timers ++ [({} : Timer)], bank.fates.tail⟩) := by
  have hfate : bank.fates.head?.join = none := by
    cases hfates : bank.fates with
    | nil => rfl
    | cons fate rest => exact h fate (by simp [hfates])
  simp only [create, hfate, Option.isSome_none]

end TimerBank

/-! ## §4 Timers while nothing goes wrong -/

namespace Scheduler

/-- Nothing goes wrong with timers; the current one is the last one and is running, and every other one
was cancelled or has fired. -/
structure Timed (s : Scheduler α β) (fired : List Nat) : Prop where
  faultless : ∀ fate ∈ s.bank.fates, fate = none
  fired_lt : ∀ i ∈ fired, i < s.bank.timers.length
  current : ∀ i, s.current = some i → i + 1 = s.bank.timers.length ∧
    s.bank.timers[i]? = some { started := true } ∧ i ∉ fired
  other : ∀ i timer, s.bank.timers[i]? = some timer → s.current ≠ some i →
    timer.cancelled = true ∨ i ∈ fired

/-- The timers are as they should be, and there is a current one exactly if an edit waits. -/
structure Poised (s : Scheduler α β) (fired : List Nat) : Prop extends s.Timed fired where
  waits : s.pending.isSome = s.current.isSome

variable {s : Scheduler α β} {fired : List Nat}

/-- A timer that is stopped is one of the others from then on. -/
theorem Timed.stopTimer (ht : s.Timed fired) : s.stopTimer.Timed fired where
  faultless := by
    rw [Scheduler.stopTimer, TimerBank.fates_cancel]
    exact ht.faultless
  fired_lt i hi := by
    rw [Scheduler.stopTimer, TimerBank.length_cancel]
    exact ht.fired_lt i hi
  current i hi := by cases hi
  other i timer htimer _ := by
    rw [Scheduler.stopTimer, TimerBank.getElem?_cancel] at htimer
    split at htimer
    · obtain ⟨before, -, rfl⟩ := Option.map_eq_some_iff.1 htimer
      exact .inl rfl
    · rename_i hcurrent
      exact ht.other i timer htimer hcurrent

/-- Which edit waits is nothing to the timers. -/
theorem Timed.congr {t : Scheduler α β} (ht : s.Timed fired) (hbank : t.bank = s.bank)
    (hcurrent : t.current = s.current) : t.Timed fired := by
  obtain ⟨hfaultless, hfired, hcurrents, hothers⟩ := ht
  rw [← hbank] at hfaultless hfired hcurrents hothers
  rw [← hcurrent] at hcurrents hothers
  exact ⟨hfaultless, hfired, hcurrents, hothers⟩

/-- What submitting comes to where nothing goes wrong: the current timer is stopped and a new one
started. -/
theorem submit_of_faultless (h : ∀ fate ∈ s.bank.fates, fate = none) (edit : α) :
    s.submit edit =
      ({ s with
          pending := some edit
          current := some s.bank.timers.length
          bank := ⟨(s.bank.cancel s.current).timers ++ [{ started := true }],
            s.bank.fates.tail⟩ }, none) := by
  have hfates : ∀ fate ∈ (s.bank.cancel s.current).fates, fate = none := by
    rwa [TimerBank.fates_cancel]
  have hcreate := TimerBank.create_of_faultless hfates
  rw [TimerBank.length_cancel, TimerBank.fates_cancel] at hcreate
  have hmodify : ((s.bank.cancel s.current).timers ++ [({} : Timer)]).modify s.bank.timers.length
      (fun t => { t with started := true }) =
        (s.bank.cancel s.current).timers ++ [{ started := true }] := by
    rw [← TimerBank.length_cancel s.bank s.current]
    exact List.modifyTailIdx_add _ 0 _ _
  simp only [submit, hcreate, TimerBank.update, hmodify, Bool.false_eq_true, if_false]

/-- After an edit was submitted it waits for a timer of its own. -/
theorem Timed.submit (ht : s.Timed fired) (edit : α) : (s.submit edit).1.Poised fired := by
  have hstopped := ht.stopTimer
  rw [submit_of_faultless ht.faultless]
  have hlength := TimerBank.length_cancel s.bank s.current
  refine ⟨⟨fun fate hfate => ht.faultless fate (List.mem_of_mem_tail hfate), fun i hi => ?_,
    fun i hi => ?_, fun i timer htimer hi => ?_⟩, rfl⟩
  · have := ht.fired_lt i hi
    simp only [List.length_append, List.length_singleton, hlength]
    omega
  · cases hi
    refine ⟨?_, ?_, fun hfired => Nat.lt_irrefl _ (ht.fired_lt _ hfired)⟩
    · simp only [List.length_append, List.length_singleton, hlength]
    · rw [List.getElem?_append_right (Nat.le_of_eq hlength), hlength, Nat.sub_self]
      rfl
  · -- The others are those that were there before, and the one that was current is stopped.
    have hlt : i < (s.bank.cancel s.current).timers.length := by
      have hbound := (List.getElem?_eq_some_iff.1 htimer).1
      simp only [List.length_append, List.length_singleton] at hbound
      rw [hlength] at hbound ⊢
      have hne : i ≠ s.bank.timers.length := by
        rintro rfl
        exact hi rfl
      omega
    rw [List.getElem?_append_left hlt] at htimer
    exact hstopped.other i timer htimer (by simp [Scheduler.stopTimer])

theorem Timed.cancel (ht : s.Timed fired) : s.cancel.Poised fired :=
  ⟨ht.stopTimer.congr rfl rfl, rfl⟩

/-- The current timer fires, and there is none from then on. -/
theorem Timed.fire (ht : s.Timed fired) {i : Nat} (hi : s.current = some i) :
    ({ s with current := none } : Scheduler α β).Timed (i :: fired) where
  faultless := ht.faultless
  fired_lt j hj := by
    rcases List.mem_cons.1 hj with rfl | hj
    · exact Nat.lt_of_succ_le (Nat.le_of_eq (ht.current j hi).1)
    · exact ht.fired_lt j hj
  current j hj := by cases hj
  other j timer htimer _ := by
    by_cases hji : j = i
    · exact .inr (hji ▸ List.mem_cons_self)
    · rcases ht.other j timer htimer (by rw [hi]; simpa [eq_comm] using hji) with hcancelled | hfired
      · exact .inl hcancelled
      · exact .inr (List.mem_cons_of_mem _ hfired)

/-- Another timer fires, which makes no difference. -/
theorem Timed.fire_other (ht : s.Timed fired) {i : Nat} (hlt : i < s.bank.timers.length)
    (hi : s.current ≠ some i) : s.Timed (i :: fired) where
  faultless := ht.faultless
  fired_lt j hj := by
    rcases List.mem_cons.1 hj with rfl | hj
    · exact hlt
    · exact ht.fired_lt j hj
  current j hj := by
    obtain ⟨hlast, hstarted, hfired⟩ := ht.current j hj
    refine ⟨hlast, hstarted, fun hmem => ?_⟩
    rcases List.mem_cons.1 hmem with rfl | hmem
    · exact hi hj
    · exact hfired hmem
  other j timer htimer hj := (ht.other j timer htimer hj).imp_right (List.mem_cons_of_mem _)

/-! ## §5 Applying an edit -/

/-- Whatever is done while an edit is applied leaves the timers as they should be. -/
theorem Poised.perform (hp : s.Poised fired) (a : Activity α β σ) :
    (s.perform a).1.Poised fired := by
  induction a generalizing s with
  | finish result state => exact hp
  | submit edit next ih => exact ih _ (hp.toTimed.submit edit)
  | cancel next ih => exact ih hp.toTimed.cancel
  | observe next ih => exact ih _ _ hp

/-- An activity has no part in the last result. -/
theorem lastResult_perform (s : Scheduler α β) (a : Activity α β σ) :
    (s.perform a).1.lastResult = s.lastResult := by
  induction a generalizing s with
  | finish result state => rfl
  | submit edit next ih =>
    rw [perform, ih]
    unfold Scheduler.submit
    dsimp only
    split
    · rfl
    · split <;> rfl
  | cancel next ih => exact ih s.cancel
  | observe next ih => exact ih _ _ s

/-- A run without a current timer leaves the timers as they should be. -/
theorem Timed.run (ht : s.Timed fired) (hcurrent : s.current = none) (callback : Callback α β σ)
    (state : σ) : (s.run callback state).scheduler.Poised fired := by
  cases hpending : s.pending with
  | none =>
    simp only [Scheduler.run, hpending]
    exact ⟨ht, by rw [hpending, hcurrent]; rfl⟩
  | some edit =>
    -- While the edit is applied nothing waits, and there is no timer.
    have hbusy : ({ s with pending := none, applying := true } : Scheduler α β).Poised fired :=
      ⟨ht.congr rfl rfl, by rw [hcurrent]; rfl⟩
    have hdone := hbusy.perform (callback edit state)
    simp only [Scheduler.run, hpending]
    cases (perform { s with pending := none, applying := true } (callback edit state)).2.1 with
    | none => exact ⟨hdone.toTimed.congr rfl rfl, hdone.waits⟩
    | some result => exact ⟨hdone.toTimed.congr rfl rfl, hdone.waits⟩

/-- After a run nothing is being applied, and the last result is that of the run unless it failed or
there was nothing to do. -/
theorem applying_run (happlying : s.applying = false) (callback : Callback α β σ) (state : σ) :
    (s.run callback state).scheduler.applying = false ∧
      (s.run callback state).scheduler.lastResult =
        (s.run callback state).result.or s.lastResult := by
  cases hpending : s.pending with
  | none =>
    simp only [run, hpending]
    exact ⟨happlying, rfl⟩
  | some edit =>
    have hlast := lastResult_perform { s with pending := none, applying := true }
      (callback edit state)
    simp only [run, hpending]
    cases (perform { s with pending := none, applying := true } (callback edit state)).2.1 with
    | none => exact ⟨rfl, hlast⟩
    | some result => exact ⟨rfl, rfl⟩

end Scheduler

/-! ## §6 Between operations -/

namespace Watched

/-- What is true of a scheduler between operations: the pending edit and the current timer belong
together, nothing is being applied, and the last result is the latest one that there was. -/
structure Settled (w : Watched α β σ) : Prop where
  poised : w.scheduler.Poised w.fired
  applying : w.scheduler.applying = false
  lastResult : w.scheduler.lastResult = w.applied.findSome? Prod.snd

variable {w : Watched α β σ}

/-- After a run everything is settled, and the run is on the account. -/
theorem settled_run {s : Scheduler α β} {fired : List Nat} {applied : List (α × Option β)}
    (ht : s.Timed fired) (hcurrent : s.current = none) (happlying : s.applying = false)
    (hlast : s.lastResult = applied.findSome? Prod.snd) (callback : Callback α β σ) (state : σ) :
    Settled { scheduler := (s.run (noted callback) (state, applied)).scheduler
              state := (s.run (noted callback) (state, applied)).state.1
              fired := fired
              applied := (s.run (noted callback) (state, applied)).state.2 } := by
  obtain ⟨hscheduler, hstate⟩ := s.run_noted callback state applied
  obtain ⟨hfree, hresult⟩ := Scheduler.applying_run happlying callback state
  simp only [hscheduler, hstate]
  refine ⟨ht.run hcurrent callback state, hfree, hresult.trans ?_⟩
  rw [hlast]
  cases hpending : s.pending with
  | none =>
    simp only [Scheduler.run, hpending]
    rfl
  | some edit =>
    simp only [Option.map_some, Option.toList_some, List.singleton_append, List.findSome?_cons]
    cases (s.run callback state).result <;> rfl

/-- A timer that is not the current one does nothing when it fires. -/
theorem step_fire_of_ne (callback : Callback α β σ) {i : Nat} (hi : w.scheduler.current ≠ some i)
    (hlt : i < w.scheduler.bank.timers.length) :
    w.step callback (.fire i) = { w with fired := i :: w.fired } := by
  simp only [step, MapFilter.step, Scheduler.fire, hi, if_false, Operation.firing, hlt, if_true]
  rfl

/-- Every operation leaves things settled. -/
theorem Settled.step (hw : w.Settled) (callback : Callback α β σ) (op : Operation α) :
    (w.step callback op).Settled := by
  have ht := hw.poised.toTimed
  cases op with
  | submit edit =>
    have hsubmit := Scheduler.submit_of_faultless ht.faultless edit
    refine ⟨ht.submit edit, ?_, ?_⟩
    · simp only [Watched.step, MapFilter.step, hsubmit, hw.applying]
    · simp only [Watched.step, MapFilter.step, hsubmit, hw.lastResult]
  | applyNow edit =>
    exact settled_run (s := { w.scheduler.stopTimer with pending := some edit })
      (ht.stopTimer.congr rfl rfl) rfl hw.applying hw.lastResult callback w.state
  | flush => exact settled_run ht.stopTimer rfl hw.applying hw.lastResult callback w.state
  | cancel => exact ⟨ht.cancel, hw.applying, hw.lastResult⟩
  | fire timer =>
    by_cases hcurrent : w.scheduler.current = some timer
    · have hlt : timer < w.scheduler.bank.timers.length :=
        Nat.lt_of_succ_le (Nat.le_of_eq (ht.current timer hcurrent).1)
      have hfired := settled_run (s := { w.scheduler with current := none }) (ht.fire hcurrent) rfl
        hw.applying hw.lastResult callback w.state
      simp only [Watched.step, MapFilter.step, Scheduler.fire, hcurrent, if_true, Operation.firing,
        hlt]
      exact hfired
    · by_cases hlt : timer < w.scheduler.bank.timers.length
      · rw [step_fire_of_ne callback hcurrent hlt]
        exact ⟨⟨ht.fire_other hlt hcurrent, hw.poised.waits⟩, hw.applying, hw.lastResult⟩
      · -- A timer that was never created is no timer.
        simp only [Watched.step, MapFilter.step, Scheduler.fire, hcurrent, if_false,
          Operation.firing, hlt]
        exact ⟨⟨ht, hw.poised.waits⟩, hw.applying, hw.lastResult⟩

theorem Settled.steps (hw : w.Settled) (callback : Callback α β σ) (ops : List (Operation α)) :
    (w.steps callback ops).Settled := by
  induction ops generalizing w with
  | nil => exact hw
  | cons op rest ih => exact ih (hw.step callback op)

/-- The current timer applies the pending edit when it fires. -/
theorem Settled.step_fire_current (hw : w.Settled) (callback : Callback α β σ) {i : Nat}
    (hi : w.scheduler.current = some i) :
    ∃ edit result, w.scheduler.pending = some edit ∧
      (w.step callback (.fire i)).applied = (edit, result) :: w.applied := by
  have hwaits : w.scheduler.pending.isSome = true := by rw [hw.poised.waits, hi]; rfl
  obtain ⟨edit, hedit⟩ := Option.isSome_iff_exists.1 hwaits
  let s : Scheduler α β := { w.scheduler with current := none }
  have hpending : s.pending = some edit := hedit
  obtain ⟨-, hstate⟩ := s.run_noted callback w.state w.applied
  rw [hpending] at hstate
  refine ⟨edit, (s.run callback w.state).result, hedit, ?_⟩
  simp only [Watched.step, MapFilter.step, Scheduler.fire, hi, if_true, Outcome.states]
  exact congrArg Prod.snd hstate

/-- The current timer is the one that is running. -/
theorem Settled.isLive_iff (hw : w.Settled) (i : Nat) :
    w.IsLive i ↔ w.scheduler.current = some i := by
  constructor
  · rintro ⟨timer, htimer, -, hcancelled, hfired⟩
    refine Classical.byContradiction fun hi => ?_
    rcases hw.poised.other i timer htimer hi with h | h
    · rw [hcancelled] at h
      cases h
    · exact hfired h
  · intro hi
    obtain ⟨-, hstarted, hfired⟩ := hw.poised.current i hi
    exact ⟨_, hstarted, rfl, rfl, hfired⟩

/-- In every run in which nothing goes wrong with timers, whatever the callback does: between operations
nothing is being applied; an edit waits exactly if there is a current timer; that is the one timer which
is running, was created last, and applies the edit that waits when it fires; every other timer was
cancelled or has fired, and does nothing when it fires again; and the last result is that of the latest
application that did not fail. -/
theorem live_timer (callback : Callback α β σ) (state : σ) (n : Nat) (ops : List (Operation α)) :
    ∃ w : Watched α β σ,
      steps callback
          { scheduler := { bank := { fates := List.replicate n none } }, state := state } ops = w ∧
        MapFilter.steps callback ({ bank := { fates := List.replicate n none } }, state) ops =
          (w.scheduler, w.state) ∧
        (w.scheduler.phase = .idle ∨ w.scheduler.phase = .pending) ∧
        (w.scheduler.phase = .pending ↔ ∃ i, w.scheduler.current = some i) ∧
        (∀ i, w.IsLive i ↔ w.scheduler.current = some i) ∧
        (∀ i, w.scheduler.current = some i → i + 1 = w.scheduler.bank.timers.length ∧
          ∃ edit result, w.scheduler.pending = some edit ∧
            (w.step callback (.fire i)).applied = (edit, result) :: w.applied) ∧
        (∀ i timer, w.scheduler.bank.timers[i]? = some timer → w.scheduler.current ≠ some i →
          (timer.cancelled = true ∨ i ∈ w.fired) ∧
            w.step callback (.fire i) = { w with fired := i :: w.fired }) ∧
        w.scheduler.lastResult = w.applied.findSome? Prod.snd := by
  have hstart : Settled ({ scheduler := { bank := { fates := List.replicate n none } }
                           state := state } : Watched α β σ) := by
    refine ⟨⟨⟨fun fate hfate => List.eq_of_mem_replicate hfate, fun i hi => ?_, fun i hi => ?_,
      fun i timer htimer => ?_⟩, rfl⟩, rfl, rfl⟩
    · cases hi
    · cases hi
    · simp at htimer
  have hw := hstart.steps callback ops
  have hsteps := steps_eq callback
    ({ scheduler := { bank := { fates := List.replicate n none } }, state := state } :
      Watched α β σ) ops
  -- The final state is all that the rest is about.
  generalize steps callback _ ops = w at hw hsteps ⊢
  have hphase : w.scheduler.phase = if w.scheduler.pending.isSome then .pending else .idle := by
    rw [Scheduler.phase, hw.applying]
    rfl
  refine ⟨w, rfl, hsteps.symm, ?_, ?_, hw.isLive_iff, fun i hi => ?_, fun i timer htimer hi => ?_,
    hw.lastResult⟩
  · rw [hphase]
    split
    · exact .inr rfl
    · exact .inl rfl
  · rw [hphase, hw.poised.waits, ← Option.isSome_iff_exists]
    cases w.scheduler.current <;> simp
  · exact ⟨(hw.poised.current i hi).1, hw.step_fire_current callback hi⟩
  · exact ⟨hw.poised.other i timer htimer hi,
      step_fire_of_ne callback hi (List.getElem?_eq_some_iff.1 htimer).1⟩

end Watched

end MapFilter
