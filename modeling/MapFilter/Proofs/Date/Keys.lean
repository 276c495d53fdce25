import Mathlib.Tactic.IntervalCases
import MapFilter.Proofs.Date.Listing

/-!
# Keys are a copy of the calendar

Days are packed into keys by two decimal places for the month and two for the day, and are counted
from the start of the year 1. Neither the packing nor the count is what the calendar says, which is a
table of twelve lengths and a rule for leap years. Still the keys of its days are a copy of it: they lead
back to their days, come in the same order, and are as far apart.

- `IsLeap`, `monthLength`: the leap rule, and the lengths of the months
- `DateParts.IsDay`, `DateParts.isReal_iff_isDay`: the days of the calendar are the real ones
- `DateParts.daysOnTheWay`: the days that lie on the way from one day to another
- `DateKey.copies_calendar`: keys and days, in order and at a distance
-/

namespace MapFilter

/-! ## §1 The Gregorian calendar -/

/-- The leap rule: every fourth year, but of the full centuries only every fourth one. -/
def IsLeap (year : Nat) : Prop :=
  4 ∣ year ∧ (100 ∣ year → 400 ∣ year)

instance (year : Nat) : Decidable (IsLeap year) :=
  inferInstanceAs (Decidable (_ ∧ _))

/-- The lengths of the months, from January on. -/
def monthLengths (year : Nat) : List Nat :=
  [31, if IsLeap year then 29 else 28, 31, 30, 31, 30, 31, 31, 30, 31, 30, 31]

/-- The length of a month, the first of which is January. -/
def monthLength (year month : Nat) : Nat :=
  (monthLengths year).getD (month - 1) 0

theorem isLeapYear_iff (year : Nat) : isLeapYear year = true ↔ IsLeap year := by
  simp only [isLeapYear, IsLeap, Bool.and_eq_true, Bool.or_eq_true, beq_iff_eq, bne_iff_ne]
  omega

/-- Where there is a month, its length is the one in the table. -/
theorem daysInMonth_eq {month : Nat} (year : Nat) (hlow : 1 ≤ month) (hhigh : month ≤ 12) :
    daysInMonth year month = monthLength year month := by
  have hfebruary : (if isLeapYear year = true then 29 else 28) = if IsLeap year then 29 else 28 :=
    if_congr (isLeapYear_iff year) rfl rfl
  -- February depends on the year, and the other months are given by number.
  interval_cases month
  all_goals simp [daysInMonth, monthLength, monthLengths, hfebruary]

namespace DateParts

/-- The days of the years 1 to 9999. -/
structure IsDay (d : DateParts) : Prop where
  year : 1 ≤ d.year ∧ d.year ≤ 9999
  month : 1 ≤ d.month ∧ d.month ≤ 12
  day : 1 ≤ d.day ∧ d.day ≤ monthLength d.year d.month

variable {d e : DateParts}

/-- The real days are those of the calendar. -/
theorem isReal_iff_isDay : d.isReal = true ↔ d.IsDay := by
  rw [isReal_iff]
  constructor
  · rintro ⟨hyear, hmonth, hday⟩
    rw [daysInMonth_eq d.year hmonth.1 hmonth.2] at hday
    exact ⟨hyear, hmonth, hday⟩
  · rintro ⟨hyear, hmonth, hday⟩
    rw [← daysInMonth_eq d.year hmonth.1 hmonth.2] at hday
    exact ⟨hyear, hmonth, hday⟩

/-- Parts of the right size are a day unless their month is too short. -/
theorem isReal_eq_false_iff (h : d.isValid = true) :
    d.isReal = false ↔ monthLength d.year d.month < d.day := by
  have hmonth := ((isValid_iff d).1 h).2.1
  rw [isReal, h, Bool.true_and, decide_eq_false_iff_not,
    daysInMonth_eq d.year hmonth.1 hmonth.2, Nat.not_le]

/-! ## §2 Days apart -/

/-- The days on the way from one day to another, in either direction: those that come after exactly one
of the two. -/
def daysOnTheWay (d e : DateParts) : Set DateParts :=
  {x | x.IsDay ∧ ¬ (d.IsBefore x ↔ e.IsBefore x)}

/-- On the way lie the days with a key above the lower of the two keys, up to the higher one. -/
theorem daysOnTheWay_eq (hd : d.isReal = true) (he : e.isReal = true) :
    d.daysOnTheWay e =
      {x | x.isReal = true ∧ min d.key e.key < x.key ∧ x.key ≤ max d.key e.key} := by
  ext x
  show (x.IsDay ∧ ¬ (d.IsBefore x ↔ e.IsBefore x)) ↔ _
  rw [← isReal_iff_isDay]
  refine and_congr_right fun hx => ?_
  rw [← key_lt_iff (isReal.isValid hd) (isReal.isValid hx),
    ← key_lt_iff (isReal.isValid he) (isReal.isValid hx)]
  omega

end DateParts

/-! ## §3 Keys and days -/

namespace DateKey

open DateRange

/-- Keys of days are a copy of the calendar. The key of a day is valid and leads back to the day. A
value that is a valid key leads to parts; these are no day exactly if the month is shorter than the day
says, and if they are one, the value is its key. Keys are ordered like their days, and are as many days
apart as there are on the way from one to the other. -/
theorem copies_calendar :
    (∀ d : DateParts, d.IsDay →
      ofValue? (.int d.key) = some d.key ∧ decode? (.int d.key) = some d ∧
        realDay? (.int d.key) = some d) ∧
    (∀ (v : Value) (key : Int), ofValue? v = some key →
      ∃ d : DateParts, decode? v = some d ∧
        (realDay? v = none ↔ monthLength d.year d.month < d.day) ∧
        ∀ e : DateParts, realDay? v = some e → e = d ∧ e.IsDay ∧ e.key = key) ∧
    ∀ d e : DateParts, d.IsDay → e.IsDay →
      (d.IsBefore e ↔ d.key < e.key) ∧
        ∃ span : Nat, spanDays (.int d.key) (.int e.key) = some span ∧
          (d.daysOnTheWay e).encard = span := by
  refine ⟨fun d hd => ?_, fun v key hkey => ?_, fun d e hd he => ?_⟩
  · have hreal := DateParts.isReal_iff_isDay.2 hd
    have hvalid := DateParts.isReal.isValid hreal
    exact ⟨ofValue?_eq_some_iff.2 ⟨rfl, isValid_key hvalid⟩, decode?_eq_some_iff.2 ⟨rfl, hvalid⟩,
      realDay?_key hreal⟩
  · -- What a valid key leads to is found by its quotients.
    have hdecode : decode? v = some (parts key) := by rw [decode?, hkey, Option.map_some]
    have hvalid := (decode?_eq_some_iff.1 hdecode).2
    refine ⟨parts key, hdecode, ?_, fun e he => ?_⟩
    · rw [← DateParts.isReal_eq_false_iff hvalid, realDay?, hdecode, Option.bind_some]
      cases (parts key).isReal <;> simp
    · obtain ⟨rfl, hreal⟩ := realDay?_eq_some_iff.1 he
      obtain ⟨hsame, -⟩ := ofValue?_eq_some_iff.1 hkey
      cases hsame
      exact ⟨(parts_key (DateParts.isReal.isValid hreal)).symm, DateParts.isReal_iff_isDay.1 hreal, rfl⟩
  · have hdreal := DateParts.isReal_iff_isDay.2 hd
    have hereal := DateParts.isReal_iff_isDay.2 he
    have horder := DateParts.key_lt_iff (DateParts.isReal.isValid hdreal)
      (DateParts.isReal.isValid hereal)
    refine ⟨horder.symm, _, spanDays_key hdreal hereal, ?_⟩
    rw [DateParts.daysOnTheWay_eq hdreal hereal]
    exact encard_span (spanDays_key hdreal hereal)

/-- The year 1900 is no leap year, and the year 2000 is one. -/
example : realDay? (.int 19000229) = none ∧ realDay? (.int 20000229) = some ⟨2000, 2, 29⟩ := by
  decide

end DateKey

end MapFilter
