import MapFilter.Date.Range
import MapFilter.Proofs.Date.Calendar

/-!
# Ranges between keys of real days

The key of a day leads back to the day, so a range between two keys is a range between two days: its
length is their distance, and writing it out gives the real days between them.

- `DateKey.parts_key`, `DateKey.key_parts`: from a key to its parts and back
- `DateKey.decode?_eq_some_iff`, `DateRange.realDay?_eq_some_iff`: the values that lead to parts, and
  those that lead to a day
- `DateRange.spanDays_key`: the distance of two days
- `DateRange.enumerateDays_key`, `DateRange.mem_daysBetween`: what writing out a range gives
- `DateRange.exists_enumerate_eq`: a range with a span within the limit is written out
-/

namespace MapFilter

/-- The distance of two days. -/
def DateParts.daysApart (d e : DateParts) : Nat :=
  max d.dayNumber e.dayNumber - min d.dayNumber e.dayNumber

/-- Every day from the earlier of two days to the later one. -/
def DateParts.daysBetween (d e : DateParts) : List DateParts :=
  daysFrom (if d.key ≤ e.key then d else e) (d.daysApart e)

/-- A day lies between two others, which may come in either order. -/
def DateParts.IsBetween (x d e : DateParts) : Prop :=
  min d.dayNumber e.dayNumber ≤ x.dayNumber ∧ x.dayNumber ≤ max d.dayNumber e.dayNumber

instance (x d e : DateParts) : Decidable (x.IsBetween d e) :=
  inferInstanceAs (Decidable (_ ∧ _))

theorem DateParts.daysApart_comm (d e : DateParts) : d.daysApart e = e.daysApart d := by
  rw [daysApart, daysApart, Nat.max_comm, Nat.min_comm]

theorem DateParts.isBetween_comm {x d e : DateParts} : x.IsBetween d e ↔ x.IsBetween e d := by
  rw [DateParts.IsBetween, DateParts.IsBetween, Nat.max_comm, Nat.min_comm]

/-- A real day lies between two others if its key lies between theirs. -/
theorem DateParts.isBetween_iff_key {x d e : DateParts} (hx : x.isReal = true)
    (hd : d.isReal = true) (he : e.isReal = true) :
    x.IsBetween d e ↔ min d.key e.key ≤ x.key ∧ x.key ≤ max d.key e.key := by
  have hdx := key_le_iff_dayNumber_le hd hx
  have hex := key_le_iff_dayNumber_le he hx
  have hxd := key_le_iff_dayNumber_le hx hd
  have hxe := key_le_iff_dayNumber_le hx he
  rw [IsBetween]
  omega

/-! ## §1 From a key to its day -/

namespace DateKey

theorem parts_key {d : DateParts} (h : d.isValid = true) : parts d.key = d := by
  rw [DateParts.isValid_iff] at h
  have hyear : (d.key / 10000).toNat = d.year := by
    simp only [DateParts.key]
    omega
  have hmonth : (d.key % 10000 / 100).toNat = d.month := by
    simp only [DateParts.key]
    omega
  have hday : (d.key % 100).toNat = d.day := by
    simp only [DateParts.key]
    omega
  rw [parts, hyear, hmonth, hday]

theorem isValid_key {d : DateParts} (h : d.isValid = true) : isValid d.key = true := by
  have hnonneg : 0 ≤ d.key := by
    simp only [DateParts.key]
    omega
  simp [isValid, hnonneg, parts_key h, h]

theorem key_parts {k : Int} (h : isValid k = true) : (parts k).key = k := by
  simp only [isValid, Bool.and_eq_true, decide_eq_true_eq, parts, DateParts.isValid_iff] at h
  simp only [parts, DateParts.key]
  omega

variable {v : Value} {k : Int} {d : DateParts}

theorem ofValue?_eq_some_iff : ofValue? v = some k ↔ v = .int k ∧ isValid k = true := by
  cases v with
  | int i =>
    simp only [ofValue?, Option.ite_none_right_eq_some, Option.some.injEq, Value.int.injEq]
    constructor
    · rintro ⟨hvalid, rfl⟩
      exact ⟨rfl, hvalid⟩
    · rintro ⟨rfl, hvalid⟩
      exact ⟨hvalid, rfl⟩
  | _ => simp [ofValue?]

/-- Only the key of parts of the right size leads to parts, and it leads to those. -/
theorem decode?_eq_some_iff : decode? v = some d ↔ v = .int d.key ∧ d.isValid = true := by
  simp only [decode?, Option.map_eq_some_iff, ofValue?_eq_some_iff]
  constructor
  · rintro ⟨k, ⟨rfl, hvalid⟩, rfl⟩
    refine ⟨by rw [key_parts hvalid], ?_⟩
    simp only [isValid, Bool.and_eq_true] at hvalid
    exact hvalid.2
  · rintro ⟨rfl, hvalid⟩
    exact ⟨d.key, ⟨rfl, isValid_key hvalid⟩, parts_key hvalid⟩

end DateKey

namespace DateRange

variable {d e : DateParts}

/-- Only the key of a real day leads to a day, and it leads to that one. -/
theorem realDay?_eq_some_iff {v : Value} :
    realDay? v = some d ↔ v = .int d.key ∧ d.isReal = true := by
  simp only [realDay?, Option.bind_eq_some_iff, DateKey.decode?_eq_some_iff,
    Option.ite_none_right_eq_some, Option.some.injEq]
  constructor
  · rintro ⟨e, ⟨rfl, -⟩, hreal, rfl⟩
    exact ⟨rfl, hreal⟩
  · rintro ⟨rfl, hreal⟩
    exact ⟨d, ⟨rfl, DateParts.isReal.isValid hreal⟩, hreal, rfl⟩

/-- The key of a real day leads back to the day. -/
theorem realDay?_key (h : d.isReal = true) : realDay? (.int d.key) = some d :=
  realDay?_eq_some_iff.2 ⟨rfl, h⟩

/-! ## §2 Ranges -/

/-- The span of two keys is the distance of their days. -/
theorem spanDays_key (hd : d.isReal = true) (he : e.isReal = true) :
    spanDays (.int d.key) (.int e.key) = some (d.daysApart e) := by
  simp [spanDays, realDay?_key hd, realDay?_key he, DateParts.daysApart]

theorem spanDays_eq_some {a b : Int} {span : Nat} (h : spanDays (.int a) (.int b) = some span) :
    ∃ d e : DateParts, d.isReal = true ∧ e.isReal = true ∧ d.key = a ∧ e.key = b
      ∧ d.daysApart e = span := by
  unfold spanDays at h
  split at h
  · rename_i d e hd he
    obtain ⟨hdkey, hdreal⟩ := realDay?_eq_some_iff.1 hd
    obtain ⟨hekey, hereal⟩ := realDay?_eq_some_iff.1 he
    exact ⟨d, e, hdreal, hereal, (Value.int.inj hdkey).symm, (Value.int.inj hekey).symm,
      Option.some.inj h⟩
  · cases h

/-- The real days from the earlier of two days to the later one. -/
theorem mem_daysBetween (hd : d.isReal = true) (he : e.isReal = true) (x : DateParts) :
    x ∈ d.daysBetween e ↔ x.isReal = true ∧ x.IsBetween d e := by
  simp only [DateParts.daysBetween, DateParts.IsBetween, DateParts.daysApart]
  -- The run starts at the earlier day and ends at the later one.
  by_cases hle : d.key ≤ e.key
  · have hnumber := (DateParts.key_le_iff_dayNumber_le hd he).1 hle
    rw [if_pos hle, Nat.max_eq_right hnumber, Nat.min_eq_left hnumber,
      mem_daysFrom hd he _ (by omega), Nat.add_sub_cancel' hnumber]
  · have hnumber : e.dayNumber ≤ d.dayNumber := by
      rw [DateParts.key_le_iff_dayNumber_le hd he] at hle
      omega
    rw [if_neg hle, Nat.max_eq_left hnumber, Nat.min_eq_right hnumber,
      mem_daysFrom he hd _ (by omega), Nat.add_sub_cancel' hnumber]

/-- A range within the limit is written out. -/
theorem enumerateDays_key (hd : d.isReal = true) (he : e.isReal = true) {limit : DayLimit}
    (hlimit : limit.isExceededBy (d.daysApart e) = false) :
    enumerateDays (.int d.key) (.int e.key) limit = .ok (d.daysBetween e) := by
  rw [DateParts.daysApart] at hlimit
  simp [enumerateDays, realDay?_key hd, realDay?_key he, DateParts.daysBetween,
    DateParts.daysApart, hlimit]

/-- Whoever tests the span and the limit beforehand is not refused, and at least one day is written
out. -/
theorem exists_enumerate_eq {start stop : Value} {span : Nat} {limit : DayLimit}
    (h : spanDays start stop = some span) (hlimit : limit.isExceededBy span = false) :
    ∃ first rest, enumerate start stop limit = .ok (first :: rest) := by
  unfold spanDays at h
  split at h
  · rename_i d e hd he
    cases h
    simp only [enumerate, enumerateDays, hd, he, hlimit, Bool.false_eq_true, if_false, Except.map]
    -- A run has its first day whether or not others follow.
    cases max d.dayNumber e.dayNumber - min d.dayNumber e.dayNumber with
    | zero => exact ⟨_, _, rfl⟩
    | succ n => exact ⟨_, _, rfl⟩
  · cases h

end DateRange

end MapFilter
