import MapFilter.Capability
import MapFilter.Selection
import MapFilter.Store.Basic
import MapFilter.Web.Request

/-!
# A ledger of edits

Requests hand over edits: one that is to be applied at once is taken up at once and drops what waits,
any other one waits for a timer of its own and takes the place of what waited. To say what a run has
to come to, a ledger is kept of the edits that were handed over, of the one that waits, and of the one
that was taken up last, with what the probe answered then. The ledger knows nothing of schedulers and
styles.

- `AppEvent`, `Request.edit?`: what happens to an application, and the edits that are handed over
- `Ledger`, `Ledger.note`: the ledger, and what an event changes in it
- `Ledger.IsSound`: what the ledger says of an edit is what was handed over under its number
- `Ledger.IsSince`: earlier edits neither wait nor were taken up last
-/

namespace MapFilter

/-! ## §1 Events -/

inductive AppEvent where
  | request (request : Request)
  | flush
  /-- A timer of the scheduler fires, whatever became of it. -/
  | elapse (timer : Nat)
  /-- The exported files and the remote export change. -/
  | change (files : Files) (remote : Remote)

/-- The edit that a request hands over, and whether it is to be applied at once. -/
def Request.edit? (request : Request) : Option (FilterState × Bool) :=
  match request.destination with
  | .route _ .refused | .route _ .options => none
  | .route .apply _ => (Payload.toState? request.payload).map (·, request.isImmediate)
  | .route .clear _ => some ({}, true)
  | _ => none

def AppEvent.edit? : AppEvent → Option FilterState
  | .request r => r.edit?.map Prod.fst
  | .flush | .elapse _ | .change _ _ => none

/-! ## §2 The ledger -/

/-- An edit that waits for a timer. Edits and timers are numbered from zero. -/
structure WaitingEdit where
  number : Nat
  state : FilterState
  timer : Nat

/-- An edit that was taken up, and what the probe answered then. -/
structure TakenEdit where
  number : Nat
  state : FilterState
  answer : Except NoKey Capability

structure Ledger where
  /-- The edits that were handed over, in order. -/
  edits : List FilterState := []
  /-- How many timers were set. -/
  timers : Nat := 0
  waiting : Option WaitingEdit := none
  taken : Option TakenEdit := none

namespace Ledger

/-- The edit that waits is taken up, if there is one. -/
def takeWaiting (answer : Except NoKey Capability) (l : Ledger) : Ledger :=
  match l.waiting with
  | some edit => { l with waiting := none, taken := some ⟨edit.number, edit.state, answer⟩ }
  | none => l

/-- An edit is handed over. It is taken up at once and nothing waits, or it is the one that waits and
has a new timer. -/
def handOver (answer : Except NoKey Capability) (l : Ledger) : FilterState × Bool → Ledger
  | (state, true) =>
    { l with
      edits := l.edits ++ [state], waiting := none, taken := some ⟨l.edits.length, state, answer⟩ }
  | (state, false) =>
    { l with
      edits := l.edits ++ [state], timers := l.timers + 1
      waiting := some ⟨l.edits.length, state, l.timers⟩ }

/-- The ledger after an event, given what the probe answers then. A timer counts only if an edit waits
for it. -/
def note (answer : Except NoKey Capability) (l : Ledger) : AppEvent → Ledger
  | .request request =>
    match request.edit? with
    | some edit => l.handOver answer edit
    | none => l
  | .flush => l.takeWaiting answer
  | .elapse timer => if l.waiting.map (·.timer) = some timer then l.takeWaiting answer else l
  | .change _ _ => l

end Ledger

/-! ## §3 Numbers of edits -/

namespace Ledger

variable {l : Ledger} {answer : Except NoKey Capability} {n : Nat}

/-- In a ledger nothing happens, what waits is taken up, or an edit is handed over. -/
theorem note_of {motive : Ledger → Prop} {e : AppEvent} (h : motive l)
    (htake : motive (l.takeWaiting answer)) (hhand : ∀ edit, motive (l.handOver answer edit)) :
    motive (l.note answer e) := by
  unfold note
  cases e with
  | request request =>
    dsimp only
    cases request.edit? with
    | none => exact h
    | some edit => exact hhand edit
  | flush => exact htake
  | elapse timer =>
    dsimp only
    split
    · exact htake
    · exact h
  | change files remote => exact h

/-- What waits and what was taken up last are edits that were handed over, by their numbers. -/
structure IsSound (l : Ledger) : Prop where
  waiting : ∀ edit, l.waiting = some edit → l.edits[edit.number]? = some edit.state
  taken : ∀ edit, l.taken = some edit → l.edits[edit.number]? = some edit.state

theorem IsSound.takeWaiting (h : l.IsSound) : (l.takeWaiting answer).IsSound := by
  unfold Ledger.takeWaiting
  cases hwaiting : l.waiting with
  | none => exact h
  | some edit =>
    refine ⟨fun other hother => (by cases hother), fun other hother => ?_⟩
    cases hother
    exact h.waiting edit hwaiting

theorem getElem?_append_of_some {edits : List FilterState} {state : FilterState}
    (h : edits[n]? = some state) (more : List FilterState) : (edits ++ more)[n]? = some state := by
  rw [List.getElem?_append_left (List.getElem?_eq_some_iff.1 h).1, h]

theorem IsSound.handOver (h : l.IsSound) (edit : FilterState × Bool) :
    (l.handOver answer edit).IsSound := by
  obtain ⟨state, _ | _⟩ := edit
  · -- It waits under the next number, and what was taken up last stays so.
    refine ⟨fun other hother => ?_, fun other hother => ?_⟩
    · cases hother
      simp [Ledger.handOver]
    · exact getElem?_append_of_some (h.taken other hother) _
  · refine ⟨fun other hother => (by cases hother), fun other hother => ?_⟩
    cases hother
    simp [Ledger.handOver]

theorem IsSound.note (h : l.IsSound) (e : AppEvent) : (l.note answer e).IsSound :=
  note_of h h.takeWaiting h.handOver

/-- Neither what waits nor what was taken up last is one of the first `n` edits. -/
structure IsSince (n : Nat) (l : Ledger) : Prop where
  handed : n ≤ l.edits.length
  waiting : ∀ edit, l.waiting = some edit → n ≤ edit.number
  taken : ∃ edit, l.taken = some edit ∧ n ≤ edit.number

theorem IsSince.takeWaiting (h : l.IsSince n) : (l.takeWaiting answer).IsSince n := by
  unfold Ledger.takeWaiting
  cases hwaiting : l.waiting with
  | none => exact h
  | some edit =>
    exact ⟨h.handed, fun other hother => (by cases hother), _, rfl, h.waiting edit hwaiting⟩

theorem IsSince.handOver (h : l.IsSince n) (edit : FilterState × Bool) :
    (l.handOver answer edit).IsSince n := by
  have hlength : n ≤ l.edits.length + 1 := Nat.le_succ_of_le h.handed
  -- Either way it has the number of edits so far, of which there are at least `n`.
  obtain ⟨state, _ | _⟩ := edit
  · refine ⟨by simpa [Ledger.handOver] using hlength, fun other hother => ?_, h.taken⟩
    cases hother
    exact h.handed
  · exact ⟨by simpa [Ledger.handOver] using hlength, fun other hother => (by cases hother), _, rfl,
      h.handed⟩

theorem IsSince.note (h : l.IsSince n) (e : AppEvent) : (l.note answer e).IsSince n :=
  note_of h h.takeWaiting h.handOver

end Ledger

end MapFilter
