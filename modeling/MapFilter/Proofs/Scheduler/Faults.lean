import MapFilter.Proofs.Scheduler.Timers

/-!
# Edits whose timer fails

An edit is handed over in steps: the timer that was running is cancelled, the edit takes the slot, and
only then a new timer is created and started, both of which may fail. Nothing takes the first steps
back. So the edit that waited before is gone, the new one waits without a timer that would ever apply it,
and the scheduler says that an edit is pending all the same. This holds of every state, also of those
in the middle of an application.

- `Scheduler.IsArmed`: a timer is running and will apply the edit that waits
- `Scheduler.Keeps`: what a scheduler should be like after a submission that failed
- `Scheduler.FailedSubmit`: what it is like
- `Scheduler.failed_submit_keeps_iff`: when both are the same, and what happens from then on
-/

namespace MapFilter

variable {α β σ : Type}

/-! ## §1 Running timers -/

/-- The timer was started and not cancelled. -/
def TimerBank.IsRunning (bank : TimerBank) (i : Nat) : Prop :=
  ∃ timer, bank.timers[i]? = some timer ∧ timer.started = true ∧ timer.cancelled = false

namespace TimerBank

variable {bank : TimerBank}

theorem not_isRunning_cancel (i : Nat) : ¬ (bank.cancel (some i)).IsRunning i := by
  rintro ⟨timer, htimer, -, hcancelled⟩
  rw [getElem?_cancel, if_pos rfl] at htimer
  obtain ⟨before, -, rfl⟩ := Option.map_eq_some_iff.1 htimer
  cases hcancelled

/-- A timer that was only created is not running. -/
theorem not_isRunning_append_new (timers : List Timer) (fates : List (Option TimerFault)) :
    ¬ (⟨timers ++ [({} : Timer)], fates⟩ : TimerBank).IsRunning timers.length := by
  rintro ⟨timer, htimer, hstarted, -⟩
  rw [List.getElem?_append_right (Nat.le_refl _), Nat.sub_self] at htimer
  cases htimer
  cases hstarted

end TimerBank

namespace Scheduler

variable {s t : Scheduler α β}

/-- The timer is running, and it will apply the edit that waits when it fires. -/
def IsArmed (s : Scheduler α β) (i : Nat) : Prop :=
  s.current = some i ∧ s.bank.IsRunning i

/-- As before, the same edit waits, the scheduler reports the same, and the timer that was going to
apply the edit is still going to. -/
structure Keeps (s t : Scheduler α β) : Prop where
  pending : t.pending = s.pending
  phase : t.phase = s.phase
  armed : ∀ i, s.IsArmed i → t.IsArmed i

/-! ## §2 A submission that fails -/

/-- What a submission leaves behind whose timer fails. Either way the running timer is cancelled and
the edit waits. -/
inductive FailedSubmit (s : Scheduler α β) (edit : α) : TimerFault → Scheduler α β → Prop where
  /-- There is no new timer, so the cancelled one stays the current one. -/
  | creation (fates : List (Option TimerFault)) :
    FailedSubmit s edit .creation
      { s with pending := some edit, bank := ⟨(s.bank.cancel s.current).timers, fates⟩ }
  /-- The new timer is the current one, and is not running. -/
  | start (fates : List (Option TimerFault)) :
    FailedSubmit s edit .start
      { s with
        pending := some edit
        current := some (s.bank.cancel s.current).timers.length
        bank := ⟨(s.bank.cancel s.current).timers ++ [{}], fates⟩ }

theorem failedSubmit {edit : α} {fault : TimerFault} (h : (s.submit edit).2 = some fault) :
    FailedSubmit s edit fault (s.submit edit).1 := by
  -- The fate of the new timer decides, and without one nothing would fail.
  unfold submit TimerBank.create at h ⊢
  cases hfate : (s.bank.cancel s.current).fates.head?.join with
  | none => simp [hfate] at h
  | some fate =>
    cases fate with
    | creation =>
      simp only [hfate, Option.some.injEq] at h ⊢
      exact h ▸ .creation _
    | start =>
      simp only [hfate, Option.isSome_some, if_true, Option.some.injEq] at h ⊢
      exact h ▸ .start _

variable {edit : α} {fault : TimerFault}

theorem FailedSubmit.pending_eq (h : FailedSubmit s edit fault t) : t.pending = some edit := by
  cases h <;> rfl

/-- No timer is going to apply the edit that waits then. -/
theorem FailedSubmit.not_isArmed (h : FailedSubmit s edit fault t) (i : Nat) : ¬ t.IsArmed i := by
  rintro ⟨hcurrent, hrunning⟩
  cases h with
  | creation fates =>
    have hcancelled : (s.bank.cancel (some i)).IsRunning i := by
      rw [← show s.current = some i from hcurrent]
      exact hrunning
    exact TimerBank.not_isRunning_cancel i hcancelled
  | start fates =>
    cases hcurrent
    exact TimerBank.not_isRunning_append_new _ fates hrunning

theorem phase_of_pending (h : s.pending = some edit) : s.phase = .pending := by
  rw [phase, h]
  rfl

/-! ## §3 What happens next -/

/-- A timer that is running and does not count makes no difference when it fires. -/
theorem step_fire_of_not_isArmed (callback : Callback α β σ) (state : σ) {i : Nat}
    (harmed : ¬ s.IsArmed i) (hrunning : s.bank.IsRunning i) :
    step callback (s, state) (.fire i) = (s, state) := by
  have hcurrent : s.current ≠ some i := fun h => harmed ⟨h, hrunning⟩
  simp only [step, fire, hcurrent, if_false]
  rfl

/-- Where no timer counts the edit waits on, whichever timers run out. -/
theorem steps_fire_of_not_isArmed (callback : Callback α β σ) (state : σ)
    (harmed : ∀ i, ¬ s.IsArmed i) {timers : List Nat} (hrunning : ∀ i ∈ timers, s.bank.IsRunning i) :
    steps callback (s, state) (timers.map .fire) = (s, state) := by
  -- Each firing leaves the very state in which the next one is as little meant.
  induction timers with
  | nil => rfl
  | cons i rest ih =>
    have hfire := step_fire_of_not_isArmed callback state (harmed i)
      (hrunning i List.mem_cons_self)
    rw [List.map_cons, steps, List.foldl_cons, hfire]
    exact ih fun j hj => hrunning j (List.mem_cons_of_mem _ hj)

/-- A submission whose timer fails leaves the scheduler as it was only if the same edit waited already
and no timer was going to apply it. Always the new edit waits afterwards, so that the one that waited
before is gone, and the scheduler reports that an edit is pending; but no timer is going to apply it, and
however many of the timers that are running fire, all stays as it is. -/
theorem failed_submit_keeps_iff (callback : Callback α β σ) (state : σ) (s : Scheduler α β)
    (edit : α) (fault : TimerFault) (h : (s.submit edit).2 = some fault) :
    let t := (s.submit edit).1
    (s.Keeps t ↔ s.pending = some edit ∧ ∀ i, ¬ s.IsArmed i) ∧
      t.pending = some edit ∧ t.phase = .pending ∧ (∀ i, ¬ t.IsArmed i) ∧
        ∀ timers : List Nat, (∀ i ∈ timers, t.bank.IsRunning i) →
          steps callback (t, state) (timers.map .fire) = (t, state) := by
  intro t
  have hfailed : FailedSubmit s edit fault t := failedSubmit h
  have hpending : t.pending = some edit := hfailed.pending_eq
  have hphase : t.phase = .pending := phase_of_pending hpending
  refine ⟨⟨fun hkeeps => ⟨?_, fun i hi => ?_⟩, fun ⟨hsame, hnone⟩ => ?_⟩, hpending, hphase,
    hfailed.not_isArmed, fun timers hrunning =>
      steps_fire_of_not_isArmed callback state hfailed.not_isArmed hrunning⟩
  · exact hkeeps.pending.symm.trans hpending
  · exact hfailed.not_isArmed i (hkeeps.armed i hi)
  · exact ⟨hpending.trans hsame.symm, hphase.trans (phase_of_pending hsame).symm,
      fun i hi => absurd hi (hnone i)⟩

/-- An edit waits for its timer, and the timer of the next edit cannot be created. -/
def oneWaiting : Scheduler String String :=
  (submit { bank := { fates := [none, some .creation] } } "first").1

theorem oneWaiting_isArmed : oneWaiting.IsArmed 0 :=
  ⟨rfl, _, rfl, rfl, rfl⟩

theorem failed_submit_keeps_iff_oneWaiting :
    (oneWaiting.submit "second").2 = some .creation ∧
      ¬ oneWaiting.Keeps (oneWaiting.submit "second").1 := by
  obtain ⟨hkeeps, -⟩ := failed_submit_keeps_iff (fun edit () => .finish (some edit) ()) ()
    oneWaiting "second" .creation rfl
  exact ⟨rfl, fun h => (hkeeps.1 h).2 0 oneWaiting_isArmed⟩

/-- An edit whose timer cannot be created takes the place of the one that waited, whose timer is
cancelled. -/
theorem failed_submit_forgets :
    oneWaiting.pending = some "first" ∧ oneWaiting.bank.timers = [⟨true, false⟩] ∧
      (oneWaiting.submit "second").2 = some .creation ∧
      (oneWaiting.submit "second").1.pending = some "second" ∧
      (oneWaiting.submit "second").1.bank.timers = [⟨true, true⟩] := by
  decide

end Scheduler

end MapFilter
