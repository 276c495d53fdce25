import MapFilter.Text.Message

/-!
# Scheduling edits

Edits come in bursts, and only the last one of a burst is worth applying. Each submitted edit
replaces the pending one and restarts a timer; when the timer fires, the pending edit is applied.
An edit can also be applied at once, which drops what was pending.

Applying is the work of a callback, which may fail, and which may itself submit and cancel edits.
Timers come from outside: creating one may fail, starting one may fail, and a timer may fire
although it was cancelled or has fired before. An operation that fails inside of a callback fails
the callback only if that does nothing about it.

- `Scheduler.submit`, `cancel`, `flush`, `applyNow`, `fire`: the five operations
- `Callback`: what the scheduler applies edits with
-/

namespace MapFilter

/-! ## §1 Timers -/

/-- A timer that was created: whether it was started, and whether it was cancelled. -/
structure Timer where
  started : Bool := false
  cancelled : Bool := false
deriving DecidableEq, Inhabited

/-- What goes wrong with a timer. -/
inductive TimerFault where
  /-- It cannot be created. -/
  | creation
  /-- It is created and cannot be started. -/
  | start
deriving DecidableEq

/-- All timers that were created, in order, and what goes wrong with the next ones. With timers
beyond that list nothing goes wrong. -/
structure TimerBank where
  timers : List Timer := []
  fates : List (Option TimerFault) := []
deriving DecidableEq, Inhabited

namespace TimerBank

def update (bank : TimerBank) (i : Nat) (f : Timer → Timer) : TimerBank :=
  { bank with timers := bank.timers.modify i f }

/-- Cancels a timer, if one is given. -/
def cancel (bank : TimerBank) : Option Nat → TimerBank
  | none => bank
  | some i => bank.update i fun t => { t with cancelled := true }

/-- Creates a timer and settles the fate of its start. The number of the timer is `none` if it
cannot be created. -/
def create (bank : TimerBank) : Option (Nat × Bool) × TimerBank :=
  match bank.fates.head?.join with
  | some .creation => (none, { bank with fates := bank.fates.tail })
  | fault => (some (bank.timers.length, fault.isSome), ⟨bank.timers ++ [{}], bank.fates.tail⟩)

end TimerBank

/-! ## §2 The scheduler -/

/-- What the scheduler reports of itself. -/
inductive Phase where
  | idle
  | pending
  | applying
deriving DecidableEq

/-- The name that answers use. -/
def Phase.name : Phase → String
  | .idle => "idle"
  | .pending => "pending"
  | .applying => "applying"

/-- The state of a scheduler of edits `α` whose application yields `β`. -/
structure Scheduler (α β : Type) where
  /-- The edit that waits to be applied. -/
  pending : Option α := none
  /-- The timer whose firing counts. -/
  current : Option Nat := none
  applying : Bool := false
  /-- What the last application that did not fail yielded. -/
  lastResult : Option β := none
  bank : TimerBank := {}

/-- What becomes of an edit that is applied: operations on the scheduler on the way, and then a
result or a failure. What happens next may depend on how an operation ended and on what the
scheduler reports. -/
inductive Activity (α β σ : Type) where
  | finish (result : Option β) (state : σ)
  | submit (edit : α) (next : Option TimerFault → Activity α β σ)
  | cancel (next : Activity α β σ)
  | observe (next : Phase → Option β → Activity α β σ)

/-- Applies an edit in a state of its own. -/
abbrev Callback (α β σ : Type) := α → σ → Activity α β σ

/-- The outcome of an operation. -/
structure Outcome (α β σ : Type) where
  scheduler : Scheduler α β
  state : σ
  result : Option β := none
  logs : List LogEntry := []

namespace Scheduler

variable {α β σ : Type}

def phase (s : Scheduler α β) : Phase :=
  if s.pending.isSome then .pending else if s.applying then .applying else .idle

/-- Makes an edit the pending one and restarts the timer. The second part says what failed. -/
def submit (s : Scheduler α β) (edit : α) : Scheduler α β × Option TimerFault :=
  let s := { s with bank := s.bank.cancel s.current, pending := some edit }
  match s.bank.create with
  | (none, bank) => ({ s with bank := bank }, some .creation)
  | (some (i, failing), bank) =>
    -- The timer is the current one even if it does not start: the edit is still pending.
    if failing then ({ s with bank := bank, current := some i }, some .start)
    else
      ({ s with
          bank := bank.update i fun t => { t with started := true }
          current := some i }, none)

/-- Stops the timer and forgets which one it was. -/
def stopTimer (s : Scheduler α β) : Scheduler α β :=
  { s with bank := s.bank.cancel s.current, current := none }

def cancel (s : Scheduler α β) : Scheduler α β :=
  { s.stopTimer with pending := none }

/-- Carries out an activity. The second part is its result, if it did not fail. -/
def perform (s : Scheduler α β) : Activity α β σ → Scheduler α β × Option β × σ
  | .finish result state => (s, result, state)
  | .submit edit next => (s.submit edit).1.perform (next (s.submit edit).2)
  | .cancel next => s.cancel.perform next
  | .observe next => s.perform (next s.phase s.lastResult)

/-- The log entry of an application that failed. -/
def failureEntry : LogEntry :=
  ⟨.error, "wlheat.scheduler", "Filter apply failed; waiting for the next edit"⟩

/-- The outcome of an application, after which the scheduler is free again. -/
def conclude (s : Scheduler α β) (result : Option β) (state : σ) : Outcome α β σ :=
  match result with
  | some b =>
    { scheduler := { s with applying := false, lastResult := some b }
      state := state, result := some b }
  | none => { scheduler := { s with applying := false }, state := state, logs := [failureEntry] }

/-- Applies the pending edit, if there is one. -/
def run (callback : Callback α β σ) (s : Scheduler α β) (state : σ) : Outcome α β σ :=
  match s.pending with
  | none => { scheduler := s, state := state }
  | some edit =>
    -- The slot is emptied first: an edit that is submitted meanwhile waits for a timer of its own.
    let s := { s with pending := none, applying := true }
    let (s, result, state) := s.perform (callback edit state)
    s.conclude result state

/-- Applies the pending edit now instead of when the timer fires. -/
def flush (callback : Callback α β σ) (s : Scheduler α β) (state : σ) : Outcome α β σ :=
  run callback s.stopTimer state

/-- Applies an edit now. What was pending is dropped. -/
def applyNow (callback : Callback α β σ) (s : Scheduler α β) (edit : α) (state : σ) :
    Outcome α β σ :=
  run callback { s.stopTimer with pending := some edit } state

/-- A timer fires. It counts only if it is the current one. -/
def fire (callback : Callback α β σ) (s : Scheduler α β) (i : Nat) (state : σ) : Outcome α β σ :=
  if s.current = some i then
    { run callback { s with current := none } state with result := none }
  else { scheduler := s, state := state }

end Scheduler

end MapFilter
