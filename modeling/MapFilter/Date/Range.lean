import MapFilter.Date.Basic
import MapFilter.Number.Written
import MapFilter.Text.Message
import MapFilter.Value.Reading

/-!
# Ranges of days

A range is given by two date keys in either order. `spanDays` is the distance of its ends, and
`enumerate` writes out every day between them as date text, unless an end is no real day or the
range is longer than the limit. Why a range is not written out is part of the answer.
-/

namespace MapFilter

/-! ## §1 Limits -/

/-- How many days a range may span to be written out: normally a whole number. -/
inductive DayLimit where
  | days (n : Int)
  | number (x : Number)
  /-- A truth value counts as zero or one. -/
  | truth (b : Bool)
deriving DecidableEq

namespace DayLimit

def ofValue? : Value → Option DayLimit
  | .int n => some (.days n)
  | .bool b => some (.truth b)
  | .float x => some (.number x)
  | _ => none

/-- The limit as a number to compare with. -/
def exact : DayLimit → Number
  | .days n => .finite n
  | .number x => x
  | .truth b => .finite (if b then 1 else 0)

/-- Whether a span is beyond the limit. Nothing is beyond a limit that is not a number. -/
def isExceededBy (limit : DayLimit) (span : Nat) : Bool :=
  limit.exact.lt (.finite span)

/-- The limit as it was given. -/
def toText : DayLimit → String
  | .days n => toString n
  | .number x => x.toText
  | .truth b => (Value.bool b).display

/-- The limit without its fraction, if it is finite. -/
def whole? : DayLimit → Option Int
  | .days n => some n
  | .number x => if x.isFinite then some x.truncated else none
  | .truth b => some (if b then 1 else 0)

end DayLimit

/-- The limit when none is configured. -/
def defaultDayLimit : DayLimit := .days 370

namespace DateRange

/-! ## §2 Spans -/

/-- The parts of a value that is the key of a real day. -/
def realDay? (v : Value) : Option DateParts :=
  (DateKey.decode? v).bind fun d => if d.isReal then some d else none

/-- The number of days between two keys of real days, in either order. -/
def spanDays (a b : Value) : Option Nat :=
  match realDay? a, realDay? b with
  | some d, some e => some (max d.dayNumber e.dayNumber - min d.dayNumber e.dayNumber)
  | _, _ => none

/-! ## §3 Writing out a range -/

/-- Why a range is not written out. -/
inductive Refusal where
  | invalidBound (start stop : Value)
  | tooLarge (start stop : Value) (span : Nat) (limit : DayLimit)

/-- The warning for a range that is not written out. It shows the limit as a whole number, so there
is none for a limit that is infinite. -/
def Refusal.message? : Refusal → Option String
  | .invalidBound start stop =>
    some ("Cannot enumerate dates between " ++ start.display ++ " and " ++ stop.display
      ++ ": invalid bound")
  | .tooLarge start stop span limit =>
    limit.whole?.map fun whole =>
      "Date range " ++ start.display ++ ".." ++ stop.display ++ " spans " ++ toString span
        ++ " days (limit " ++ toString whole ++ "); too large for literal enumeration"

/-- The warning as the log has it. -/
def Refusal.logs (refusal : Refusal) : List LogEntry :=
  (refusal.message?.map (LogEntry.warning "wlheat.dates")).toList

/-- Every day from the earlier to the later key, both included. -/
def enumerateDays (start stop : Value) (limit : DayLimit) : Except Refusal (List DateParts) :=
  match realDay? start, realDay? stop with
  | some d, some e =>
    let span := max d.dayNumber e.dayNumber - min d.dayNumber e.dayNumber
    if limit.isExceededBy span then .error (.tooLarge start stop span limit)
    else .ok (daysFrom (if d.key ≤ e.key then d else e) span)
  | _, _ => .error (.invalidBound start stop)

/-- The date texts of every day from the earlier to the later key. -/
def enumerate (start stop : Value) (limit : DayLimit) : Except Refusal (List String) :=
  (enumerateDays start stop limit).map (·.map DateParts.text)

end DateRange

end MapFilter
