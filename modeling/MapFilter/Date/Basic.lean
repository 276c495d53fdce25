import MapFilter.Text.Basic
import MapFilter.Value.Basic

/-!
# Days and their keys

A day is named by an integer key, `year * 10000 + month * 100 + day`, so that keys sort like days.
A key only promises a month between 1 and 12 and a day between 1 and 31; whether the day exists is
a question for the calendar.

Two written forms lead to a key: `year-month-day` with a four-digit year first, and
`month/day/year` with a four-digit year last. Digits of every script count, and blanks around the
text are ignored.

The calendar is the Gregorian one, continued backward to the year 1 and kept up to the year 9999. A
day is *real* if its month is long enough for it.

- `encode`: the key of a written date
- `decode?`: the parts of a key, the inverse of `DateParts.key` on valid keys
- `DateParts.dayNumber`: days counted from the first of January of the year 1
- `DateParts.next`: the day after
- `daysFrom`: a run of consecutive days
-/

namespace MapFilter

/-- A year, a month and a day, not checked against the calendar. -/
structure DateParts where
  year : Nat
  month : Nat
  day : Nat
deriving DecidableEq, Inhabited

namespace DateParts

/-! ## §1 Parts and keys -/

/-- The parts are of the right size; the month may be too short for the day. -/
def isValid (d : DateParts) : Bool :=
  1 ≤ d.year && d.year ≤ 9999 && 1 ≤ d.month && d.month ≤ 12 && 1 ≤ d.day && d.day ≤ 31

/-- The integer that names the day. -/
def key (d : DateParts) : Int :=
  d.year * 10000 + d.month * 100 + d.day

/-- The digits of a number with zeros in front up to a width. -/
def padded (width n : Nat) : String :=
  let digits := Nat.toDigits 10 n
  String.ofList (List.replicate (width - digits.length) '0' ++ digits)

/-- The form `year-month-day` with zeros in front. -/
def iso (d : DateParts) : String :=
  padded 4 d.year ++ "-" ++ padded 2 d.month ++ "-" ++ padded 2 d.day

/-- The form `month/day/year` that the records hold, without zeros in front. -/
def text (d : DateParts) : String :=
  toString d.month ++ "/" ++ toString d.day ++ "/" ++ toString d.year

end DateParts

namespace DateKey

open MapFilter.Text

/-! ## §2 Reading written dates -/

/-- The three fields of a text with two separators, each field made of digits. -/
def fields? (separator : Char) (cs : List Char) : Option (List Char × List Char × List Char) :=
  match cs.dropWhile isDigit with
  | [] => none
  | s :: rest =>
    match rest.dropWhile isDigit with
    | [] => none
    | t :: last =>
      if s == separator && t == separator && last.all isDigit then
        some (cs.takeWhile isDigit, rest.takeWhile isDigit, last)
      else none

/-- One or two digits: the width of a written month or day. -/
def isShort (cs : List Char) : Bool :=
  cs.length == 1 || cs.length == 2

/-- The parts of a text in the form `year-month-day`. -/
def readIso? (cs : List Char) : Option DateParts :=
  (fields? '-' cs).bind fun (y, m, d) =>
    if y.length == 4 && isShort m && isShort d then
      some ⟨digitsValue y, digitsValue m, digitsValue d⟩
    else none

/-- The parts of a text in the form `month/day/year`. -/
def readSlashed? (cs : List Char) : Option DateParts :=
  (fields? '/' cs).bind fun (m, d, y) =>
    if isShort m && isShort d && y.length == 4 then
      some ⟨digitsValue y, digitsValue m, digitsValue d⟩
    else none

/-- The parts that a text writes down, of any size. -/
def readParts? (s : String) : Option DateParts :=
  let cs := stripChars isBlank s.toList
  (readIso? cs).or (readSlashed? cs)

/-- The key of a written date; `none` if the text is in neither form or a part is out of range. -/
def encode (s : String) : Option Int :=
  (readParts? s).bind fun d => if d.isValid then some d.key else none

/-- The key that a value writes down. Only texts do. -/
def encodeValue : Value → Option Int
  | .text s => encode s
  | _ => none

/-! ## §3 Reading keys -/

/-- The parts of an integer, read as a key. -/
def parts (key : Int) : DateParts :=
  ⟨(key / 10000).toNat, (key % 10000 / 100).toNat, (key % 100).toNat⟩

/-- Whether an integer is the key of parts of the right size. -/
def isValid (key : Int) : Bool :=
  0 ≤ key && (parts key).isValid

/-- The integer in a value, if it is a valid key. Truth values and binary64 numbers are none. -/
def ofValue? : Value → Option Int
  | .int key => if isValid key then some key else none
  | _ => none

/-- The parts of a valid key. -/
def decode? (v : Value) : Option DateParts :=
  (ofValue? v).map parts

end DateKey

/-! ## §4 Months and years -/

/-- Every fourth year is a leap year, but of the full centuries only every fourth one. -/
def isLeapYear (year : Nat) : Bool :=
  year % 4 == 0 && (year % 100 != 0 || year % 400 == 0)

def daysInMonth (year month : Nat) : Nat :=
  if month == 2 then (if isLeapYear year then 29 else 28)
  else if month == 4 || month == 6 || month == 9 || month == 11 then 30
  else 31

def daysBeforeYear (year : Nat) : Nat :=
  let years := year - 1
  years * 365 + years / 4 - years / 100 + years / 400

def daysBeforeMonth (year : Nat) : Nat → Nat
  | 0 => 0
  | 1 => 0
  | month + 1 => daysBeforeMonth year month + daysInMonth year month

namespace DateParts

/-! ## §5 Real days -/

/-- The parts name a day of the calendar. -/
def isReal (d : DateParts) : Bool :=
  d.isValid && d.day ≤ daysInMonth d.year d.month

/-- The number of a real day, counted from zero at the start of the year 1. -/
def dayNumber (d : DateParts) : Nat :=
  daysBeforeYear d.year + daysBeforeMonth d.year d.month + (d.day - 1)

def next (d : DateParts) : DateParts :=
  if d.day < daysInMonth d.year d.month then { d with day := d.day + 1 }
  else if d.month < 12 then ⟨d.year, d.month + 1, 1⟩
  else ⟨d.year + 1, 1, 1⟩

end DateParts

/-- A day and the `n` days that follow it. -/
def daysFrom (d : DateParts) : Nat → List DateParts
  | 0 => [d]
  | n + 1 => d :: daysFrom d.next n

end MapFilter
