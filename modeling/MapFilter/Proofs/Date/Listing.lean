import Mathlib.Data.Set.Card
import MapFilter.Proofs.Date.Calendar
import MapFilter.Proofs.Date.Range

/-!
# Written-out ranges are the calendar

Days are written out by going from one to the next, and ranges are given and compared by packed keys.
All the same, what is written out for two keys are the days of the calendar whose keys lie between
them: each of them once, in order, up to the last day that there is. Where a range is not written out,
there is one warning and nothing else.

- `IsCalendar`: all real days with keys between two bounds, in ascending order
- `DateParts.isCalendar_daysBetween`: the days from one real day to another
- `DateRange.isCalendar_of_enumerateDays`: what is written out lies between two real days
- `DateRange.listing`: what is written out for a range, and what is warned of
- `DateRange.listing_isCalendar`: the listing of any two integers
-/

namespace MapFilter

/-! ## §1 Days in order -/

/-- The days are all real days with keys from one bound to the other, in ascending order. -/
structure IsCalendar (low high : Int) (days : List DateParts) : Prop where
  mem_iff : ∀ x, x ∈ days ↔ x.isReal = true ∧ low ≤ x.key ∧ x.key ≤ high
  ascending : days.Pairwise fun x y => x.key < y.key

theorem length_daysFrom (d : DateParts) (n : Nat) : (daysFrom d n).length = n + 1 := by
  induction n generalizing d with
  | zero => rfl
  | succ n ih => rw [daysFrom, List.length_cons, ih]

/-- The keys of a run ascend as long as the calendar lasts. -/
theorem pairwise_daysFrom {d e : DateParts} (hd : d.isReal = true) (he : e.isReal = true) (n : Nat)
    (h : d.dayNumber + n ≤ e.dayNumber) : (daysFrom d n).Pairwise fun x y => x.key < y.key := by
  obtain ⟨hreal, hnumbers⟩ := daysFrom_spec hd he n h
  have hascending : ((daysFrom d n).map DateParts.dayNumber).Pairwise (· < ·) :=
    hnumbers ▸ List.pairwise_lt_range'
  -- Numbers of real days are ordered like keys.
  refine (List.pairwise_map.1 hascending).imp_of_mem fun hx hy hlt => ?_
  rw [DateParts.key_lt_iff (DateParts.isReal.isValid (hreal _ hx))
    (DateParts.isReal.isValid (hreal _ hy))]
  exact (DateParts.dayNumber_lt_iff (hreal _ hx) (hreal _ hy)).1 hlt

namespace DateParts

variable {d e : DateParts}

/-- Parts of the right size with one key are the same. -/
theorem key_injective (hd : d.isValid = true) (he : e.isValid = true) (h : d.key = e.key) :
    d = e := by
  rw [← DateKey.parts_key hd, h, DateKey.parts_key he]

theorem length_daysBetween (d e : DateParts) :
    (d.daysBetween e).length = d.daysApart e + 1 :=
  length_daysFrom _ _

theorem daysBetween_comm (hd : d.isReal = true) (he : e.isReal = true) :
    d.daysBetween e = e.daysBetween d := by
  have hearlier : (if d.key ≤ e.key then d else e) = if e.key ≤ d.key then e else d := by
    by_cases hde : d.key ≤ e.key
    · by_cases hed : e.key ≤ d.key
      · rw [if_pos hde, if_pos hed]
        exact key_injective (isReal.isValid hd) (isReal.isValid he) (Int.le_antisymm hde hed)
      · rw [if_pos hde, if_neg hed]
    · rw [if_neg hde, if_pos (by omega)]
  rw [daysBetween, daysBetween, hearlier, daysApart_comm]

/-- The days from one real day to another are those of the calendar between their keys. -/
theorem isCalendar_daysBetween (hd : d.isReal = true) (he : e.isReal = true) :
    IsCalendar (min d.key e.key) (max d.key e.key) (d.daysBetween e) where
  mem_iff x := by
    rw [DateRange.mem_daysBetween hd he, and_congr_right_iff]
    exact fun hx => isBetween_iff_key hx hd he
  ascending := by
    have hnumbers := key_le_iff_dayNumber_le hd he
    rw [daysBetween, daysApart]
    by_cases hle : d.key ≤ e.key
    · rw [if_pos hle]
      exact pairwise_daysFrom hd he _ (by omega)
    · rw [if_neg hle]
      exact pairwise_daysFrom he hd _ (by omega)

end DateParts

namespace IsCalendar

variable {low high : Int} {days : List DateParts}

theorem nodup (h : IsCalendar low high days) : days.Nodup := by
  refine h.ascending.imp fun hlt => ?_
  rintro rfl
  exact Int.lt_irrefl _ hlt

/-- The texts of different days are different. -/
theorem nodup_texts (h : IsCalendar low high days) : (days.map DateParts.text).Nodup :=
  h.nodup.map fun _ _ => DateParts.text_injective

/-- All days but the first one are those with a key above it. -/
theorem encard_above {first : DateParts} (h : IsCalendar first.key high days)
    (hfirst : first.isReal = true) (hle : first.key ≤ high) :
    {x : DateParts | x.isReal = true ∧ first.key < x.key ∧ x.key ≤ high}.encard =
      (days.length - 1 : Nat) := by
  have hmem : first ∈ days.toFinset :=
    List.mem_toFinset.2 ((h.mem_iff first).2 ⟨hfirst, Int.le_refl _, hle⟩)
  have hset : {x : DateParts | x.isReal = true ∧ first.key < x.key ∧ x.key ≤ high} =
      ↑(days.toFinset.erase first) := by
    ext x
    rw [Set.mem_ofPred_eq, Finset.mem_coe, Finset.mem_erase, List.mem_toFinset, h.mem_iff]
    constructor
    · rintro ⟨hx, hlow, hhigh⟩
      refine ⟨?_, hx, Int.le_of_lt hlow, hhigh⟩
      rintro rfl
      exact Int.lt_irrefl _ hlow
    · rintro ⟨hne, hx, hlow, hhigh⟩
      refine ⟨hx, lt_of_le_of_ne hlow fun hkey => hne ?_, hhigh⟩
      exact DateParts.key_injective (DateParts.isReal.isValid hx) (DateParts.isReal.isValid hfirst)
        hkey.symm
  rw [hset, Set.encard_coe_eq_coe_finsetCard, Finset.card_erase_of_mem hmem,
    List.toFinset_card_of_nodup h.nodup]

end IsCalendar

/-! ## §2 Listings -/

namespace DateRange

/-- The dates that are written out for a range, and the warnings about it. -/
def listing (start stop : Value) (limit : DayLimit) : List String × List LogEntry :=
  match enumerate start stop limit with
  | .ok dates => (dates, [])
  | .error refusal => ([], refusal.logs)

theorem isExceededBy_days (limit : Int) (span : Nat) :
    (DayLimit.days limit).isExceededBy span = decide (limit < span) := by
  have hcast : ((limit : Rat) < (span : Rat)) ↔ limit < span := by
    exact_mod_cast Iff.rfl
  simp [DayLimit.isExceededBy, DayLimit.exact, Number.lt, Number.toRat, hcast]

/-- A limit that is a whole number can be shown, so there is a warning whatever is wrong. -/
theorem exists_logs_of_refusal {start stop : Value} {limit : Int} {refusal : Refusal}
    (h : enumerateDays start stop (.days limit) = .error refusal) :
    ∃ message, refusal.logs = [.warning "wlheat.dates" message] := by
  unfold enumerateDays at h
  split at h
  · dsimp only at h
    split at h
    · cases h
      exact ⟨_, rfl⟩
    · cases h
  · cases h
    exact ⟨_, rfl⟩

/-- What is written out are the days of the calendar between two real days. -/
theorem isCalendar_of_enumerateDays {start stop : Value} {limit : DayLimit} {days : List DateParts}
    (h : enumerateDays start stop limit = .ok days) :
    ∃ d e : DateParts, start = .int d.key ∧ stop = .int e.key ∧
      IsCalendar (min d.key e.key) (max d.key e.key) days := by
  unfold enumerateDays at h
  split at h
  · rename_i d e hd he
    obtain ⟨rfl, hdreal⟩ := realDay?_eq_some_iff.1 hd
    obtain ⟨rfl, hereal⟩ := realDay?_eq_some_iff.1 he
    dsimp only at h
    split at h
    · cases h
    · cases h
      exact ⟨d, e, rfl, rfl, DateParts.isCalendar_daysBetween hdreal hereal⟩
  · cases h

/-- Two integers have a span if they are the keys of real days. -/
theorem exists_spanDays_iff (a b : Int) :
    (∃ span, spanDays (.int a) (.int b) = some span) ↔
      (∃ d : DateParts, d.isReal = true ∧ d.key = a) ∧
        ∃ e : DateParts, e.isReal = true ∧ e.key = b := by
  constructor
  · rintro ⟨span, hspan⟩
    obtain ⟨d, e, hd, he, hdkey, hekey, -⟩ := spanDays_eq_some hspan
    exact ⟨⟨d, hd, hdkey⟩, e, he, hekey⟩
  · rintro ⟨⟨d, hd, rfl⟩, e, he, rfl⟩
    exact ⟨_, spanDays_key hd he⟩

variable {a b limit : Int} {span : Nat}

/-- The span is the number of days above the earlier key, up to the later one. -/
theorem encard_span (h : spanDays (.int a) (.int b) = some span) :
    {x : DateParts | x.isReal = true ∧ min a b < x.key ∧ x.key ≤ max a b}.encard = span := by
  obtain ⟨d, e, hd, he, rfl, rfl, rfl⟩ := spanDays_eq_some h
  have hcalendar := DateParts.isCalendar_daysBetween hd he
  have hlength : (d.daysBetween e).length - 1 = d.daysApart e := by
    rw [DateParts.length_daysBetween, Nat.add_sub_cancel]
  rw [← hlength]
  -- One of the two days is the first one.
  rcases Int.le_total d.key e.key with hle | hle
  · rw [Int.min_eq_left hle, Int.max_eq_right hle] at hcalendar ⊢
    exact hcalendar.encard_above hd hle
  · rw [Int.min_eq_right hle, Int.max_eq_left hle] at hcalendar ⊢
    exact hcalendar.encard_above he hle

theorem listing_key {d e : DateParts} (hd : d.isReal = true) (he : e.isReal = true)
    (hle : d.daysApart e ≤ limit) :
    listing (.int d.key) (.int e.key) (.days limit) =
      ((d.daysBetween e).map DateParts.text, []) := by
  have hlimit : (DayLimit.days limit).isExceededBy (d.daysApart e) = false := by
    rw [isExceededBy_days, decide_eq_false (by omega)]
  simp only [listing, enumerate, enumerateDays_key hd he hlimit, Except.map]

/-- A range within the limit is listed by the days of the calendar. -/
theorem listing_of_le (h : spanDays (.int a) (.int b) = some span) (hle : span ≤ limit) :
    ∃ days : List DateParts,
      listing (.int a) (.int b) (.days limit) = (days.map DateParts.text, []) ∧
        IsCalendar (min a b) (max a b) days ∧ days.length = span + 1 := by
  obtain ⟨d, e, hd, he, rfl, rfl, rfl⟩ := spanDays_eq_some h
  exact ⟨d.daysBetween e, listing_key hd he hle, DateParts.isCalendar_daysBetween hd he,
    DateParts.length_daysBetween d e⟩

/-- Every other range is listed as nothing, with one warning. -/
theorem listing_of_lt (h : ∀ span, spanDays (.int a) (.int b) = some span → limit < span) :
    ∃ message, listing (.int a) (.int b) (.days limit) =
      ([], [.warning "wlheat.dates" message]) := by
  cases hdays : enumerateDays (.int a) (.int b) (.days limit) with
  | error refusal =>
    obtain ⟨message, hmessage⟩ := exists_logs_of_refusal hdays
    exact ⟨message, by simp only [listing, enumerate, hdays, Except.map, hmessage]⟩
  | ok days =>
    -- What is written out has a span, and it is within the limit.
    unfold enumerateDays at hdays
    split at hdays
    · rename_i d e hd he
      have hspan := h _ (by rw [spanDays, hd, he])
      dsimp only at hdays
      rw [isExceededBy_days, decide_eq_true hspan] at hdays
      cases hdays
    · cases hdays

theorem spanDays_comm (start stop : Value) : spanDays start stop = spanDays stop start := by
  unfold spanDays
  cases realDay? start with
  | none => cases realDay? stop <;> rfl
  | some d =>
    cases realDay? stop with
    | none => rfl
    | some e => exact congrArg some (d.daysApart_comm e)

/-- The order of the bounds makes no difference to what is written out. -/
theorem listing_swap (a b limit : Int) :
    (listing (.int b) (.int a) (.days limit)).1 = (listing (.int a) (.int b) (.days limit)).1 := by
  by_cases h : ∃ span, spanDays (.int a) (.int b) = some span ∧ (span : Int) ≤ limit
  · obtain ⟨span, hspan, hle⟩ := h
    obtain ⟨d, e, hd, he, rfl, rfl, rfl⟩ := spanDays_eq_some hspan
    have hswapped : (e.daysApart d : Int) ≤ limit := by
      rw [e.daysApart_comm]
      exact hle
    rw [listing_key hd he hle, listing_key he hd hswapped, DateParts.daysBetween_comm he hd]
  · -- Nothing is written out, whichever bound comes first.
    have hlt (span : Nat) (hspan : spanDays (.int a) (.int b) = some span) : limit < span :=
      Int.not_le.1 fun hle => h ⟨span, hspan, hle⟩
    obtain ⟨message, hmessage⟩ := listing_of_lt hlt
    obtain ⟨other, hother⟩ := listing_of_lt fun span (hspan : spanDays (.int b) (.int a) = _) =>
      hlt span ((spanDays_comm _ _).trans hspan)
    rw [hmessage, hother]

/-! ## §3 All integers -/

/-- Whatever two integers are given for the bounds of a range, and a third for the limit: they have a
span if they are the keys of real days, which is the number of days above the earlier one; a span
within the limit is listed by the texts of all days of the calendar in order, each once and without a
warning; every other range is listed as nothing, with one warning; and the order of the bounds does not
matter. -/
theorem listing_isCalendar (a b limit : Int) :
    ((∃ span, spanDays (.int a) (.int b) = some span) ↔
        (∃ d : DateParts, d.isReal = true ∧ d.key = a) ∧
          ∃ e : DateParts, e.isReal = true ∧ e.key = b) ∧
      (∀ span, spanDays (.int a) (.int b) = some span →
        {x : DateParts | x.isReal = true ∧ min a b < x.key ∧ x.key ≤ max a b}.encard = span) ∧
      (∀ span : Nat, spanDays (.int a) (.int b) = some span → span ≤ limit →
        ∃ days : List DateParts,
          listing (.int a) (.int b) (.days limit) = (days.map DateParts.text, []) ∧
            (∀ x, x ∈ days ↔ x.isReal = true ∧ min a b ≤ x.key ∧ x.key ≤ max a b) ∧
            days.Pairwise (fun x y => x.key < y.key) ∧
            (days.map DateParts.text).Nodup ∧ days.length = span + 1) ∧
      ((∀ span, spanDays (.int a) (.int b) = some span → limit < span) →
        ∃ message, listing (.int a) (.int b) (.days limit) =
          ([], [.warning "wlheat.dates" message])) ∧
      (listing (.int b) (.int a) (.days limit)).1 = (listing (.int a) (.int b) (.days limit)).1 := by
  refine ⟨exists_spanDays_iff a b, fun span hspan => encard_span hspan, ?_, listing_of_lt,
    listing_swap a b limit⟩
  intro span hspan hle
  obtain ⟨days, hlisting, hcalendar, hlength⟩ := listing_of_le hspan hle
  exact ⟨days, hlisting, hcalendar.mem_iff, hcalendar.ascending, hcalendar.nodup_texts, hlength⟩

/-- The calendar ends with the last day of the year 9999, and so does a listing. -/
example : listing (.int 99991230) (.int 99991231) (.days 1) =
    (["12/30/9999", "12/31/9999"], []) := by decide

end DateRange

end MapFilter
