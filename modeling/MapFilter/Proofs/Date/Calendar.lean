import MapFilter.Date.Basic

/-!
# Days, keys and their order

A real day is known by three things: its parts, its number in the calendar, and its key. All three
are ordered alike, so that a range of keys is a range of days.

- `DateParts.IsBefore`: the order of parts, year before month before day
- `DateParts.dayNumber_lt_iff`, `key_lt_iff`: numbers and keys are ordered like the parts
- `DateParts.isReal_next`, `dayNumber_next`: the day after is the next number
- `mem_daysFrom`: a run of days holds exactly the real days between its ends
- `DateParts.text_injective`: two days with one text are one day
-/

namespace MapFilter

/-! ## §1 Months and years -/

def yearLength (year : Nat) : Nat :=
  if isLeapYear year then 366 else 365

theorem daysInMonth_le (year month : Nat) : daysInMonth year month ≤ 31 := by
  unfold daysInMonth
  split
  · split <;> omega
  · split <;> omega

theorem daysInMonth_pos (year month : Nat) : 0 < daysInMonth year month := by
  unfold daysInMonth
  split
  · split <;> omega
  · split <;> omega

theorem daysBeforeMonth_succ {month : Nat} (year : Nat) (h : 1 ≤ month) :
    daysBeforeMonth year (month + 1) = daysBeforeMonth year month + daysInMonth year month := by
  obtain ⟨m, rfl⟩ : ∃ m, month = m + 1 := ⟨month - 1, by omega⟩
  rfl

theorem daysBeforeMonth_thirteen (year : Nat) : daysBeforeMonth year 13 = yearLength year := by
  cases h : isLeapYear year <;> simp [daysBeforeMonth, daysInMonth, yearLength, h]

/-- The days before a later month include all days of this one. -/
theorem daysBeforeMonth_add_le {month later : Nat} (year : Nat) (hm : 1 ≤ month)
    (h : month < later) :
    daysBeforeMonth year month + daysInMonth year month ≤ daysBeforeMonth year later := by
  induction later with
  | zero => omega
  | succ later ih =>
    rw [daysBeforeMonth_succ year (by omega)]
    rcases Nat.lt_or_ge month later with hlt | hge
    · have := ih hlt
      omega
    · obtain rfl : month = later := by omega
      omega

theorem daysBeforeYear_succ {year : Nat} (h : 1 ≤ year) :
    daysBeforeYear (year + 1) = daysBeforeYear year + yearLength year := by
  obtain ⟨y, rfl⟩ : ∃ y, year = y + 1 := ⟨year - 1, by omega⟩
  simp only [daysBeforeYear, Nat.add_sub_cancel, yearLength, isLeapYear]
  -- The leap rule is one of divisibility, so it says which quotients grow.
  rw [Nat.succ_div, Nat.succ_div, Nat.succ_div]
  by_cases h400 : (y + 1) % 400 = 0
  · have h100 : (y + 1) % 100 = 0 := by omega
    have h4 : (y + 1) % 4 = 0 := by omega
    simp only [Nat.dvd_iff_mod_eq_zero, h400, h100, h4, if_true, beq_self_eq_true, bne_self_eq_false,
      Bool.or_true, Bool.and_true]
    omega
  · by_cases h100 : (y + 1) % 100 = 0
    · have h4 : (y + 1) % 4 = 0 := by omega
      simp [Nat.dvd_iff_mod_eq_zero, h400, h100, h4]
      omega
    · by_cases h4 : (y + 1) % 4 = 0 <;> simp [Nat.dvd_iff_mod_eq_zero, h400, h100, h4] <;> omega

theorem daysBeforeYear_add_le {year later : Nat} (hy : 1 ≤ year) (h : year < later) :
    daysBeforeYear year + yearLength year ≤ daysBeforeYear later := by
  induction later with
  | zero => omega
  | succ later ih =>
    rw [daysBeforeYear_succ (by omega)]
    rcases Nat.lt_or_ge year later with hlt | hge
    · have := ih hlt
      omega
    · obtain rfl : year = later := by omega
      omega

namespace DateParts

/-! ## §2 The order of days -/

/-- The order of parts: by year, then by month, then by day. -/
def IsBefore (d e : DateParts) : Prop :=
  d.year < e.year ∨ (d.year = e.year ∧ (d.month < e.month ∨ (d.month = e.month ∧ d.day < e.day)))

/-- Of two days one is before the other, or they are the same. -/
theorem isBefore_trichotomy (d e : DateParts) : d.IsBefore e ∨ d = e ∨ e.IsBefore d := by
  obtain ⟨y, m, n⟩ := d
  obtain ⟨y', m', n'⟩ := e
  simp only [IsBefore, mk.injEq]
  omega

theorem isValid_iff (d : DateParts) :
    d.isValid = true ↔
      (1 ≤ d.year ∧ d.year ≤ 9999) ∧ (1 ≤ d.month ∧ d.month ≤ 12) ∧ (1 ≤ d.day ∧ d.day ≤ 31) := by
  simp [isValid, and_assoc]

theorem isReal_iff (d : DateParts) :
    d.isReal = true ↔
      (1 ≤ d.year ∧ d.year ≤ 9999) ∧ (1 ≤ d.month ∧ d.month ≤ 12)
        ∧ (1 ≤ d.day ∧ d.day ≤ daysInMonth d.year d.month) := by
  have hlength := daysInMonth_le d.year d.month
  simp only [isReal, Bool.and_eq_true, isValid_iff, decide_eq_true_eq]
  omega

theorem isReal.isValid {d : DateParts} (h : d.isReal = true) : d.isValid = true := by
  simp only [isReal, Bool.and_eq_true] at h
  exact h.1

/-- A day of a year is over before the year is. -/
theorem dayOfYear_lt {d : DateParts} (h : d.isReal = true) :
    daysBeforeMonth d.year d.month + (d.day - 1) < yearLength d.year := by
  rw [isReal_iff] at h
  have hmonth : daysBeforeMonth d.year d.month + daysInMonth d.year d.month
      ≤ daysBeforeMonth d.year 13 :=
    daysBeforeMonth_add_le d.year h.2.1.1 (by omega)
  rw [daysBeforeMonth_thirteen] at hmonth
  omega

/-- An earlier real day has a smaller number. -/
theorem dayNumber_lt_of_isBefore {d e : DateParts} (hd : d.isReal = true) (he : e.isReal = true)
    (h : d.IsBefore e) : d.dayNumber < e.dayNumber := by
  have hyear := dayOfYear_lt hd
  rw [isReal_iff] at hd he
  unfold dayNumber
  rcases h with hy | ⟨hy, hm | ⟨hm, hn⟩⟩
  · have := daysBeforeYear_add_le hd.1.1 hy
    omega
  · have := daysBeforeMonth_add_le d.year hd.2.1.1 hm
    rw [← hy]
    omega
  · rw [← hy, ← hm]
    omega

/-- The numbers of real days are ordered like the days. -/
theorem dayNumber_lt_iff {d e : DateParts} (hd : d.isReal = true) (he : e.isReal = true) :
    d.dayNumber < e.dayNumber ↔ d.IsBefore e := by
  constructor
  · intro h
    rcases isBefore_trichotomy d e with hlt | rfl | hgt
    · exact hlt
    · omega
    · have := dayNumber_lt_of_isBefore he hd hgt
      omega
  · exact dayNumber_lt_of_isBefore hd he

/-- Real days of one number are one day. -/
theorem dayNumber_injective {d e : DateParts} (hd : d.isReal = true) (he : e.isReal = true)
    (h : d.dayNumber = e.dayNumber) : d = e := by
  rcases isBefore_trichotomy d e with hlt | heq | hgt
  · have := dayNumber_lt_of_isBefore hd he hlt
    omega
  · exact heq
  · have := dayNumber_lt_of_isBefore he hd hgt
    omega

/-- Keys of the right size are ordered like their parts. -/
theorem key_lt_iff {d e : DateParts} (hd : d.isValid = true) (he : e.isValid = true) :
    d.key < e.key ↔ d.IsBefore e := by
  rw [isValid_iff] at hd he
  simp only [key, IsBefore]
  omega

/-- Keys of real days are ordered like their numbers. -/
theorem key_le_iff_dayNumber_le {d e : DateParts} (hd : d.isReal = true) (he : e.isReal = true) :
    d.key ≤ e.key ↔ d.dayNumber ≤ e.dayNumber := by
  rw [← Int.not_lt, ← Nat.not_lt, key_lt_iff (isReal.isValid he) (isReal.isValid hd),
    dayNumber_lt_iff he hd]

/-! ## §3 The day after -/

/-- The number of the day after is the next one. -/
theorem dayNumber_next {d : DateParts} (h : d.isReal = true) :
    d.next.dayNumber = d.dayNumber + 1 := by
  rw [isReal_iff] at h
  unfold next
  split
  · simp only [dayNumber]
    omega
  · split
    · simp only [dayNumber, daysBeforeMonth_succ d.year h.2.1.1]
      omega
    · -- The last day of December: the number goes on in the next year.
      have hdecember : d.month = 12 := by omega
      have hyear := daysBeforeMonth_thirteen d.year
      rw [daysBeforeMonth_succ d.year (by omega)] at hyear
      simp only [dayNumber, daysBeforeYear_succ h.1.1, daysBeforeMonth, hdecember] at *
      omega

/-- The day after is real unless the calendar is over. -/
theorem isReal_next {d e : DateParts} (hd : d.isReal = true) (he : e.isReal = true)
    (h : d.dayNumber < e.dayNumber) : d.next.isReal = true := by
  have hbefore := (dayNumber_lt_iff hd he).1 h
  rw [isReal_iff] at hd he ⊢
  unfold next
  split
  · simp only
    omega
  · split
    · have := daysInMonth_pos d.year (d.month + 1)
      simp only
      omega
    · have := daysInMonth_pos (d.year + 1) 1
      -- The last day of the last year is before no real day.
      have hyear : d.year < e.year := by
        rcases hbefore with hy | ⟨hy, hm | ⟨hm, hn⟩⟩
        · exact hy
        · omega
        · rw [← hy, ← hm] at he
          omega
      simp only
      omega

end DateParts

/-! ## §4 Runs of days -/

/-- The days of a run are real, and their numbers are consecutive, as long as the calendar lasts. -/
theorem daysFrom_spec {d e : DateParts} (hd : d.isReal = true) (he : e.isReal = true) (n : Nat)
    (h : d.dayNumber + n ≤ e.dayNumber) :
    (∀ x ∈ daysFrom d n, x.isReal = true)
      ∧ (daysFrom d n).map DateParts.dayNumber = List.range' d.dayNumber (n + 1) := by
  -- The rest of a run is a run of its own, which starts on the day after.
  induction n generalizing d with
  | zero => simp [daysFrom, hd]
  | succ n ih =>
    have hnext := DateParts.isReal_next hd he (by omega)
    have hnumber := DateParts.dayNumber_next hd
    have ⟨hreal, hmap⟩ := ih hnext (by omega)
    constructor
    · intro x hx
      rcases List.mem_cons.1 hx with rfl | hx
      · exact hd
      · exact hreal x hx
    · rw [daysFrom, List.map_cons, hmap, hnumber, ← List.range'_succ]

/-- A run of days holds exactly the real days between its ends. -/
theorem mem_daysFrom {d e x : DateParts} (hd : d.isReal = true) (he : e.isReal = true) (n : Nat)
    (h : d.dayNumber + n ≤ e.dayNumber) :
    x ∈ daysFrom d n ↔
      x.isReal = true ∧ d.dayNumber ≤ x.dayNumber ∧ x.dayNumber ≤ d.dayNumber + n := by
  have ⟨hreal, hmap⟩ := daysFrom_spec hd he n h
  constructor
  · intro hx
    have hnumber : x.dayNumber ∈ List.range' d.dayNumber (n + 1) :=
      hmap ▸ List.mem_map_of_mem hx
    rw [List.mem_range'_1] at hnumber
    exact ⟨hreal x hx, hnumber.1, by omega⟩
  · -- Some day of the run has the same number, and real days of one number are one day.
    rintro ⟨hx, hlow, hhigh⟩
    have hnumber : x.dayNumber ∈ (daysFrom d n).map DateParts.dayNumber := by
      rw [hmap, List.mem_range'_1]
      omega
    obtain ⟨y, hy, hxy⟩ := List.mem_map.1 hnumber
    rwa [← DateParts.dayNumber_injective (hreal y hy) hx hxy]

/-! ## §5 Texts

The records hold dates as `month/day/year` without zeros in front. Although the fields have no fixed
width, the text determines the day: a separator is no digit, so the fields can be told apart. -/

/-- Two rows that end at their first separator are equal if the rows with what follows are. -/
theorem separated_inj {α : Type} {c : α} {xs ys zs ws : List α} (hx : c ∉ xs) (hy : c ∉ ys)
    (h : xs ++ c :: zs = ys ++ c :: ws) : xs = ys ∧ zs = ws := by
  -- Neither row holds the separator, so both are at their end when it comes.
  induction xs generalizing ys with
  | nil =>
    cases ys with
    | nil => simpa using h
    | cons y ys =>
      simp only [List.nil_append, List.cons_append, List.cons.injEq] at h
      exact absurd (h.1 ▸ List.mem_cons_self) hy
  | cons x xs ih =>
    cases ys with
    | nil =>
      simp only [List.nil_append, List.cons_append, List.cons.injEq] at h
      exact absurd (h.1 ▸ List.mem_cons_self) hx
    | cons y ys =>
      simp only [List.cons_append, List.cons.injEq] at h
      obtain ⟨rfl, h⟩ := h
      have ⟨hxs, hzs⟩ := ih (fun hc => hx (List.mem_cons_of_mem _ hc))
        (fun hc => hy (List.mem_cons_of_mem _ hc)) h
      exact ⟨by rw [hxs], hzs⟩

theorem slash_notMem_toDigits (n : Nat) : '/' ∉ Nat.toDigits 10 n := by
  intro h
  have hdigit := Nat.isDigit_of_mem_toDigits (by omega) (by omega) h
  exact absurd hdigit (by decide)

theorem toDigits_ten_injective {m n : Nat} (h : Nat.toDigits 10 m = Nat.toDigits 10 n) : m = n := by
  rw [← Nat.ofDigitChars_ten_toDigits (n := m), h, Nat.ofDigitChars_ten_toDigits]

namespace DateParts

/-- The characters of a date text: three rows of digits between slashes. -/
theorem toList_text (d : DateParts) :
    d.text.toList =
      Nat.toDigits 10 d.month ++ '/' :: (Nat.toDigits 10 d.day ++ '/' :: Nat.toDigits 10 d.year) := by
  have hslash : "/".toList = ['/'] := rfl
  simp [text, hslash]

/-- A date text names one day. -/
theorem text_injective {d e : DateParts} (h : d.text = e.text) : d = e := by
  have hlist := congrArg String.toList h
  rw [toList_text, toList_text] at hlist
  -- The first slash ends the month, the next one the day.
  have ⟨hmonth, hrest⟩ :=
    separated_inj (slash_notMem_toDigits d.month) (slash_notMem_toDigits e.month) hlist
  have ⟨hday, hyear⟩ :=
    separated_inj (slash_notMem_toDigits d.day) (slash_notMem_toDigits e.day) hrest
  calc
    d = ⟨d.year, d.month, d.day⟩ := rfl
    _ = ⟨e.year, e.month, e.day⟩ := by
      rw [toDigits_ten_injective hmonth, toDigits_ten_injective hday, toDigits_ten_injective hyear]
    _ = e := rfl

end DateParts

end MapFilter
