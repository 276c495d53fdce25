import MapFilter.Proofs.Scheduler.History
import MapFilter.Scheduler

/-!
# Runs of the scheduler

A scheduler is told to submit, apply, flush and cancel, and its timers fire, all in any order and
any number of times. To follow the edits they are numbered as they are handed over, and what happens
is written down. Numbers and history are for the reader only: without them the run is the same.

- `Operation`, `steps`: what happens to a scheduler from outside
- `numberedSteps`: the same with numbers and a history
- `Scheduler.Tracks`: the pending edit is the one that waits according to the history
- `numberedSteps_sound`: nothing is lost, applied twice or applied out of order
-/

namespace MapFilter

variable {α β σ : Type}

/-! ## §1 Operations -/

/-- What happens to a scheduler from outside. -/
inductive Operation (α : Type) where
  | submit (edit : α)
  | applyNow (edit : α)
  | flush
  | cancel
  /-- A timer fires, whatever became of it. -/
  | fire (timer : Nat)

/-- The scheduler and the state of its callback after an operation. -/
def Outcome.states (o : Outcome α β σ) : Scheduler α β × σ :=
  (o.scheduler, o.state)

/-- One operation. -/
def step (callback : Callback α β σ) (s : Scheduler α β × σ) : Operation α → Scheduler α β × σ
  | .submit edit => ((s.1.submit edit).1, s.2)
  | .applyNow edit => (s.1.applyNow callback edit s.2).states
  | .flush => (s.1.flush callback s.2).states
  | .cancel => (s.1.cancel, s.2)
  | .fire timer => (s.1.fire callback timer s.2).states

/-- Operations one after the other. -/
def steps (callback : Callback α β σ) (s : Scheduler α β × σ) (ops : List (Operation α)) :
    Scheduler α β × σ :=
  ops.foldl (step callback) s

/-! ## §2 Numbers -/

/-- An activity that numbers the edits it submits and writes down what it does. -/
def Activity.numbered : Activity α β σ → History α → Activity (Nat × α) β (σ × History α)
  | .finish result state, h => .finish result (state, h)
  | .submit edit next, h =>
    .submit (h.calls, edit) fun fault => (next fault).numbered (.call edit :: h)
  | .cancel next, h => .cancel (next.numbered (.cancel :: h))
  | .observe next, h => .observe fun phase result => (next phase result).numbered h

/-- A callback that writes down which edit it is given. -/
def numbered (callback : Callback α β σ) : Callback (Nat × α) β (σ × History α) :=
  fun edit state => (callback edit.2 state.1).numbered (.apply edit.1 edit.2 :: state.2)

/-- An operation with the next number for its edit. -/
def Operation.numbered (h : History α) : Operation α → Operation (Nat × α)
  | .submit edit => .submit (h.calls, edit)
  | .applyNow edit => .applyNow (h.calls, edit)
  | .flush => .flush
  | .cancel => .cancel
  | .fire timer => .fire timer

/-- The history with what an operation is. -/
def Operation.record (h : History α) : Operation α → History α
  | .submit edit | .applyNow edit => .call edit :: h
  | .cancel => .cancel :: h
  | .flush | .fire _ => h

/-- One operation with numbers and history. -/
def numberedStep (callback : Callback α β σ)
    (s : Scheduler (Nat × α) β × σ × History α) (op : Operation α) :
    Scheduler (Nat × α) β × σ × History α :=
  step (numbered callback) (s.1, s.2.1, op.record s.2.2) (op.numbered s.2.2)

/-- Operations one after the other, with numbers and history. -/
def numberedSteps (callback : Callback α β σ) (s : Scheduler (Nat × α) β × σ × History α)
    (ops : List (Operation α)) : Scheduler (Nat × α) β × σ × History α :=
  ops.foldl (numberedStep callback) s

/-! ## §3 Without numbers -/

/-- The scheduler without the number of its pending edit. -/
def Scheduler.erase (s : Scheduler (Nat × α) β) : Scheduler α β :=
  { s with pending := s.pending.map Prod.snd }

namespace Scheduler

/-- Submitting does not look at numbers. -/
theorem erase_submit (s : Scheduler (Nat × α) β) (n : Nat) (edit : α) :
    (s.submit (n, edit)).1.erase = (s.erase.submit edit).1
      ∧ (s.submit (n, edit)).2 = (s.erase.submit edit).2 := by
  unfold submit erase
  dsimp only
  split
  · simp
  · rename_i i failing bank hcreate
    cases failing <;> simp

theorem phase_erase (s : Scheduler (Nat × α) β) : s.erase.phase = s.phase := by
  unfold phase erase
  simp

/-- An activity does the same without numbers. -/
theorem perform_numbered (a : Activity α β σ) (s : Scheduler (Nat × α) β) (h : History α) :
    (s.perform (a.numbered h)).1.erase = (s.erase.perform a).1
      ∧ (s.perform (a.numbered h)).2.1 = (s.erase.perform a).2.1
      ∧ (s.perform (a.numbered h)).2.2.1 = (s.erase.perform a).2.2 := by
  -- What the activity is told about faults and phases is the same, so it goes on in the same way.
  induction a generalizing s h with
  | finish result state => exact ⟨rfl, rfl, rfl⟩
  | submit edit next ih =>
    obtain ⟨hscheduler, hfault⟩ := s.erase_submit h.calls edit
    simp only [Activity.numbered, perform, hfault, ← hscheduler]
    exact ih _ _ _
  | cancel next ih => exact ih s.cancel _
  | observe next ih =>
    simp only [Activity.numbered, perform, phase_erase]
    exact ih _ _ _ _

/-- Applying the pending edit is the same without numbers. -/
theorem run_numbered (callback : Callback α β σ) (s : Scheduler (Nat × α) β) (state : σ)
    (h : History α) :
    (s.run (numbered callback) (state, h)).scheduler.erase = (s.erase.run callback state).scheduler
      ∧ (s.run (numbered callback) (state, h)).state.1 = (s.erase.run callback state).state := by
  cases hpending : s.pending with
  | none =>
    have herased : s.erase.pending = none := by simp [erase, hpending]
    simp only [run, hpending, herased]
    exact ⟨trivial, trivial⟩
  | some numberedEdit =>
    obtain ⟨n, edit⟩ := numberedEdit
    have herased : s.erase.pending = some edit := by simp [erase, hpending]
    obtain ⟨hscheduler, hresult, hstate⟩ := perform_numbered (callback edit state)
      { s with pending := none, applying := true } (.apply n edit :: h)
    have hconclude (t : Scheduler (Nat × α) β) (result : Option β) (final : σ × History α) :
        (t.conclude result final).scheduler.erase = (t.erase.conclude result final.1).scheduler
          ∧ (t.conclude result final).state.1 = (t.erase.conclude result final.1).state := by
      cases result <;> exact ⟨rfl, rfl⟩
    -- The slot is emptied on both sides before the callback is called.
    have hcleared : Scheduler.erase { s with pending := none, applying := true } =
        ({ s.erase with pending := none, applying := true } : Scheduler α β) := rfl
    rw [hcleared] at hscheduler hresult hstate
    simp only [run, hpending, herased, numbered]
    rw [← hscheduler, ← hresult, ← hstate]
    exact hconclude _ _ _

end Scheduler

/-- The states without numbers and history. -/
def erased (s : Scheduler (Nat × α) β × σ × History α) : Scheduler α β × σ :=
  (s.1.erase, s.2.1)

/-- An operation does the same without numbers and history. -/
theorem erased_numberedStep (callback : Callback α β σ)
    (s : Scheduler (Nat × α) β × σ × History α) (op : Operation α) :
    erased (numberedStep callback s op) = step callback (erased s) op := by
  obtain ⟨s, state, h⟩ := s
  -- Numbers are given where an edit is handed over, and no operation looks at them.
  cases op with
  | submit edit =>
    exact Prod.ext (s.erase_submit h.calls edit).1 rfl
  | applyNow edit =>
    obtain ⟨hscheduler, hstate⟩ := Scheduler.run_numbered callback
      { s.stopTimer with pending := some (h.calls, edit) } state (.call edit :: h)
    exact Prod.ext hscheduler hstate
  | flush =>
    obtain ⟨hscheduler, hstate⟩ := Scheduler.run_numbered callback s.stopTimer state h
    exact Prod.ext hscheduler hstate
  | cancel => rfl
  | fire timer =>
    by_cases hcurrent : s.current = some timer
    · obtain ⟨hscheduler, hstate⟩ := Scheduler.run_numbered callback
        { s with current := none } state h
      have hcurrent' : s.erase.current = some timer := hcurrent
      simp only [numberedStep, step, Operation.numbered, Operation.record, erased, Scheduler.fire,
        hcurrent, hcurrent', if_true]
      exact Prod.ext hscheduler hstate
    · have hcurrent' : s.erase.current ≠ some timer := hcurrent
      simp only [numberedStep, step, Operation.numbered, Operation.record, erased, Scheduler.fire,
        hcurrent, hcurrent', if_false]
      rfl

theorem erased_numberedSteps (callback : Callback α β σ)
    (s : Scheduler (Nat × α) β × σ × History α) (ops : List (Operation α)) :
    erased (numberedSteps callback s ops) = steps callback (erased s) ops := by
  induction ops generalizing s with
  | nil => rfl
  | cons op rest ih =>
    simp only [numberedSteps, steps, List.foldl_cons] at ih ⊢
    rw [ih, erased_numberedStep]

/-! ## §4 The pending edit -/

namespace Scheduler

/-- The history is sound, and the pending edit is the one that waits according to it. -/
structure Tracks (s : Scheduler (Nat × α) β) (h : History α) : Prop where
  sound : h.Sound
  pending_eq : s.pending = h.waiting

variable {s : Scheduler (Nat × α) β} {h : History α}

theorem Tracks.cancel (ht : s.Tracks h) : s.cancel.Tracks (.cancel :: h) :=
  ⟨.cancel ht.sound, rfl⟩

/-- An edit that is submitted waits, whatever becomes of its timer. -/
theorem Tracks.submit (ht : s.Tracks h) (edit : α) :
    (s.submit (h.calls, edit)).1.Tracks (.call edit :: h) := by
  refine ⟨.call edit ht.sound, ?_⟩
  -- The slot is filled before a timer is created, so no fault leaves it as it was.
  unfold Scheduler.submit
  dsimp only
  split
  · rfl
  · split <;> rfl

/-- What an activity does is written down. -/
theorem Tracks.perform (a : Activity α β σ) (ht : s.Tracks h) :
    (s.perform (a.numbered h)).1.Tracks (s.perform (a.numbered h)).2.2.2 := by
  induction a generalizing s h with
  | finish result state => exact ht
  | submit edit next ih => exact ih _ (ht.submit edit)
  | cancel next ih => exact ih ht.cancel
  | observe next ih => exact ih _ _ ht

/-- Applying the pending edit is written down, and so is what that does. -/
theorem Tracks.run (callback : Callback α β σ) (state : σ) (ht : s.Tracks h) :
    (s.run (numbered callback) (state, h)).scheduler.Tracks
      (s.run (numbered callback) (state, h)).state.2 := by
  cases hpending : s.pending with
  | none =>
    simp only [Scheduler.run, hpending]
    exact ht
  | some numberedEdit =>
    obtain ⟨n, edit⟩ := numberedEdit
    -- The slot is empty while the edit is applied, and the edit no longer waits.
    have happly : Tracks { s with pending := none, applying := true } (.apply n edit :: h) :=
      ⟨.apply ht.sound (ht.pending_eq.symm.trans hpending), rfl⟩
    have hperform := happly.perform (callback edit state)
    have hconclude {t : Scheduler (Nat × α) β} (result : Option β) {final : σ × History α}
        (h' : t.Tracks final.2) :
        (t.conclude result final).scheduler.Tracks (t.conclude result final).state.2 := by
      cases result with
      | none => exact ⟨h'.sound, h'.pending_eq⟩
      | some b => exact ⟨h'.sound, h'.pending_eq⟩
    simp only [Scheduler.run, hpending, numbered]
    exact hconclude _ hperform

end Scheduler

/-- Every operation is written down. -/
theorem tracks_numberedStep (callback : Callback α β σ)
    {s : Scheduler (Nat × α) β × σ × History α} (ht : s.1.Tracks s.2.2) (op : Operation α) :
    (numberedStep callback s op).1.Tracks (numberedStep callback s op).2.2 := by
  obtain ⟨s, state, h⟩ := s
  cases op with
  | submit edit => exact ht.submit edit
  | applyNow edit =>
    have hcall : Scheduler.Tracks { s.stopTimer with pending := some (h.calls, edit) }
        (.call edit :: h) := ⟨.call edit ht.sound, rfl⟩
    exact hcall.run callback state
  | flush =>
    have hstopped : s.stopTimer.Tracks h := ⟨ht.sound, ht.pending_eq⟩
    exact hstopped.run callback state
  | cancel => exact ht.cancel
  | fire timer =>
    -- Only the current timer counts; any other one changes nothing.
    by_cases hcurrent : s.current = some timer
    · have hfired : Scheduler.Tracks { s with current := none } h := ⟨ht.sound, ht.pending_eq⟩
      simp only [numberedStep, step, Operation.numbered, Operation.record, Scheduler.fire, hcurrent,
        if_true]
      exact hfired.run callback state
    · simp only [numberedStep, step, Operation.numbered, Operation.record, Scheduler.fire, hcurrent,
        if_false]
      exact ht

theorem tracks_numberedSteps (callback : Callback α β σ)
    {s : Scheduler (Nat × α) β × σ × History α} (ht : s.1.Tracks s.2.2)
    (ops : List (Operation α)) :
    (numberedSteps callback s ops).1.Tracks (numberedSteps callback s ops).2.2 := by
  induction ops generalizing s with
  | nil => exact ht
  | cons op rest ih => exact ih (tracks_numberedStep callback ht op)

/-- In every run each edit that is handed over is applied at most once, and only as the latest one
with nothing cancelled since. At the end it was applied, superseded by a later one, dropped by a
cancellation, or is pending, which at most one edit is. Without the numbers this is the run of the
scheduler. -/
theorem numberedSteps_sound (callback : Callback α β σ) (state : σ)
    (fates : List (Option TimerFault)) (ops : List (Operation α)) :
    ∃ (s : Scheduler (Nat × α) β) (final : σ) (h : History α),
      numberedSteps callback ({ bank := { fates := fates } }, state, []) ops = (s, final, h)
      ∧ steps callback ({ bank := { fates := fates } }, state) ops = (s.erase, final)
      ∧ h.applied.reverse.Pairwise (· < ·)
      ∧ (∀ later n edit before, h = later ++ .apply n edit :: before →
        History.IsFresh before n edit)
      ∧ (∀ n < h.calls, ∃ fate, h.HasFate s.pending n fate
        ∧ ∀ other, h.HasFate s.pending n other → other = fate)
      ∧ ∀ m n, h.HasFate s.pending m .pending → h.HasFate s.pending n .pending → m = n := by
  have hstart : Scheduler.Tracks (β := β) { bank := { fates := fates } } ([] : History α) :=
    ⟨.nil, rfl⟩
  have hsteps := erased_numberedSteps callback
    (({ bank := { fates := fates } }, state, []) : Scheduler (Nat × α) β × σ × History α) ops
  have htracks := tracks_numberedSteps callback
    (s := (({ bank := { fates := fates } }, state, []) : Scheduler (Nat × α) β × σ × History α))
    hstart ops
  -- The final state is all that the rest is about.
  generalize numberedSteps callback _ ops = final at hsteps htracks ⊢
  obtain ⟨s, final, h⟩ := final
  refine ⟨s, final, h, rfl, hsteps.symm, htracks.sound.applied_increasing, ?_, ?_, ?_⟩
  · rintro later n edit before rfl
    exact htracks.sound.isFresh
  · intro n hn
    have hfate := htracks.sound.hasFate_iff hn
    rw [← htracks.pending_eq] at hfate
    exact ⟨h.fate n, (hfate _).2 rfl, fun other hother => (hfate other).1 hother⟩
  · rintro m n ⟨edit, hm⟩ ⟨other, hn⟩
    rw [hm] at hn
    cases hn
    rfl

end MapFilter
