import MapFilter.Proofs.Date.Calendar
import MapFilter.Proofs.Date.Range
import MapFilter.Proofs.Predicate.Chain
import MapFilter.Proofs.Predicate.Holding

/-!
# Two ways to filter by date

A range of dates is compiled to a comparison of keys if the features carry a key, and to a list of
date texts if they do not. On a feature that carries both for one day, the two clauses agree: each
of them holds exactly if the day lies between the bounds.

- `dateClause_holds`: what the clause of the date selection says of such a feature, either way
- `compile_holds_eq`: the whole filter does not depend on whether a key was found
-/

namespace MapFilter

/-! ## §1 Bounds -/

/-- A bound that names a day is there. -/
theorem isTruthy_of_encodeValue {v : Value} {key : Int} (h : DateKey.encodeValue v = some key) :
    v.isTruthy = true := by
  cases v with
  | text s =>
    have hne : s ≠ "" := by
      rintro rfl
      have hempty : DateKey.encode "" = none := by decide
      simp [DateKey.encodeValue, hempty] at h
    simpa [Value.isTruthy, String.isEmpty_iff] using hne
  | _ => simp [DateKey.encodeValue] at h

/-- The bounds in order are the keys of two days between which the same days lie. -/
theorem ordered_keys (a b : DateParts) (ha : a.isReal = true) (hb : b.isReal = true) :
    ∃ low high : DateParts, ordered (some a.key, some b.key) = (some low.key, some high.key)
      ∧ low.isReal = true ∧ high.isReal = true ∧ low.key ≤ high.key
      ∧ low.daysApart high = a.daysApart b
      ∧ ∀ x : DateParts, x.IsBetween low high ↔ x.IsBetween a b := by
  by_cases h : b.key < a.key
  · exact ⟨b, a, by simp [ordered, h], hb, ha, by omega, b.daysApart_comm a,
      fun _ => DateParts.isBetween_comm⟩
  · exact ⟨a, b, by simp [ordered, h], ha, hb, by omega, rfl, fun _ => Iff.rfl⟩

/-- Both bounds name real days, and these are no further apart than the limit allows. -/
structure DateBounds.NameDays (bounds : DateBounds) (limit : DayLimit) (a b : DateParts) :
    Prop where
  start : DateKey.encodeValue bounds.start = some a.key
  stop : DateKey.encodeValue bounds.stop = some b.key
  start_isReal : a.isReal = true
  stop_isReal : b.isReal = true
  withinLimit : limit.isExceededBy (a.daysApart b) = false

/-- A feature carries a real day twice: as date text, and as the first number under the names of
the date key. -/
structure CarriesDay (fields : FieldMapping) (r : Record) (d : DateParts) : Prop where
  isReal : d.isReal = true
  text : r.field? fields.dateText = some (.text d.text)
  key : r.FirstNumber (fields.dateKey :: fields.alternates) (.finite d.key)

/-! ## §2 The clauses -/

variable {fields : FieldMapping} {r : Record} {low high d : DateParts}

/-- The comparison of keys holds of a feature if its key lies between the bounds. -/
theorem keyClause_holds (h : CarriesDay fields r d) :
    (Predicate.all (keyClause fields (some low.key) (some high.key))).holds r =
      .ok (decide (low.key ≤ d.key ∧ d.key ≤ high.key)) := by
  have hquantity : quantity r fields.dateKeyChain = .ok (.finite d.key) := by
    rw [FieldMapping.dateKeyChain, quantity_firstOccurrences]
    exact quantity_of_firstNumber h.key
  cases hchain : fields.dateKeyChain with
  | nil =>
    -- A chain without fields has the quantity zero, which is no key.
    rw [hchain, quantity] at hquantity
    simp only [Except.ok.injEq, Number.finite.injEq] at hquantity
    have hzero : (0 : Int) = d.key := by exact_mod_cast hquantity
    have hreal := (DateParts.isReal_iff d).1 h.isReal
    rw [DateParts.key] at hzero
    omega
  | cons field rest =>
    rw [hchain, ← quantity_chain] at hquantity
    simp only [keyClause, hchain, boundValue]
    rw [Predicate.holds_all_singleton, Predicate.holds_within hquantity, Predicate.isWithin_int]

/-- A range of real days within the limit is compiled to the list of its days. -/
theorem textClause_days {limit : DayLimit} (fields : FieldMapping) (hlow : low.isReal = true)
    (hhigh : high.isReal = true) (hlimit : limit.isExceededBy (low.daysApart high) = false) :
    ∃ days : List DateParts, (∀ x, x ∈ days ↔ x.isReal = true ∧ x.IsBetween low high)
      ∧ textClause fields limit (some low.key) (some high.key) =
        ([.member fields.dateText ((days.map DateParts.text).map .text)], [], []) := by
  have hdays := DateRange.enumerateDays_key hlow hhigh hlimit
  have hmem := DateRange.mem_daysBetween hlow hhigh
  generalize low.daysBetween high = days at hdays hmem
  refine ⟨days, hmem, ?_⟩
  simp only [textClause, DateRange.spanDays_key hlow hhigh, hlimit, Bool.false_eq_true, if_false,
    DateRange.enumerate, hdays, Except.map]
  -- The bounds themselves are among the days, so the list is not empty.
  cases days with
  | nil =>
    have := (hmem low).2 ⟨hlow, by unfold DateParts.IsBetween; omega⟩
    simp at this
  | cons first rest => rfl

/-- The list of date texts holds of a feature if its day lies between the bounds. -/
theorem textClause_holds {limit : DayLimit} (hlow : low.isReal = true) (hhigh : high.isReal = true)
    (hlimit : limit.isExceededBy (low.daysApart high) = false) (h : CarriesDay fields r d) :
    (Predicate.all (textClause fields limit (some low.key) (some high.key)).1).holds r =
      .ok (decide (d.IsBetween low high)) := by
  obtain ⟨days, hmem, hclause⟩ := textClause_days fields hlow hhigh hlimit
  have hlook : r.lookFor fields.dateText = .ok (some (.text d.text)) := by
    have htext := h.text
    cases hfield : fields.dateText with
    | text s => rw [← htext, hfield, Record.lookFor, if_pos (by rfl)]
    | _ => simp [hfield, Record.field?] at htext
  have htexts : d.text ∈ days.map DateParts.text ↔ d.IsBetween low high := by
    rw [List.mem_map]
    constructor
    · rintro ⟨x, hx, hxd⟩
      obtain rfl := DateParts.text_injective hxd
      exact ((hmem x).1 hx).2
    · intro hbetween
      exact ⟨d, (hmem d).2 ⟨h.isReal, hbetween⟩, rfl⟩
  rw [hclause, Predicate.holds_all_singleton, Predicate.holds_member hlook]
  simp only [htexts]

/-! ## §3 The filter -/

variable {limit : DayLimit} {bounds : DateBounds} {a b : DateParts}

/-- The clause of the date selection holds of a feature if its day lies between the bounds, whether
keys are compared or texts. -/
theorem dateClause_holds (hbounds : bounds.NameDays limit a b) (h : CarriesDay fields r d)
    (hasDateKey : Bool) :
    (Predicate.all (dateClause fields limit hasDateKey (some bounds)).1).holds r =
      .ok (decide (d.IsBetween a b)) := by
  have hempty : bounds.isEmpty = false := by
    simp [DateBounds.isEmpty, isTruthy_of_encodeValue hbounds.start]
  obtain ⟨low, high, hordered, hlow, hhigh, hle, hapart, hbetween⟩ :=
    ordered_keys a b hbounds.start_isReal hbounds.stop_isReal
  have hkeys : ordered bounds.keys = (some low.key, some high.key) := by
    rw [DateBounds.keys, hbounds.start, hbounds.stop, hordered]
  simp only [dateClause, hempty, Bool.false_eq_true, if_false, hkeys]
  -- Either clause says in its own way that the day lies between the ordered bounds.
  cases hasDateKey with
  | true =>
    have hbounded := DateParts.isBetween_iff_key h.isReal hlow hhigh
    rw [Int.min_eq_left hle, Int.max_eq_right hle] at hbounded
    rw [if_pos rfl, keyClause_holds h]
    simp only [← hbounded, hbetween]
  | false =>
    have hlimit : limit.isExceededBy (low.daysApart high) = false := by
      rw [hapart]
      exact hbounds.withinLimit
    rw [if_neg Bool.false_ne_true, textClause_holds hlow hhigh hlimit h]
    simp only [hbetween]

def selectorClauses (fields : FieldMapping) (state : FilterState) : Predicate :=
  .all (selectorClause fields.branch state.branch ++ selectorClause fields.group state.group)

/-- The filter holds of a feature if the selectors do and its day lies between the bounds. -/
theorem compile_holds {state : FilterState} (hdates : state.dates = some bounds)
    (hbounds : bounds.NameDays limit a b) (h : CarriesDay fields r d) (capability : Capability) :
    (compile fields limit state capability).predicate.holds r =
      Predicate.bothHold ((selectorClauses fields state).holds r)
        (.ok (decide (d.IsBetween a b))) := by
  have hclause := dateClause_holds hbounds h capability.hasDateKey
  rw [Compiled.predicate, compile, hdates, Predicate.holds_all_append, hclause, selectorClauses]

/-- The two ways to filter by date select the same features: on a feature that carries a day both as
text and as key, it makes no difference to the filter what is known of the features. It holds if the
selectors do and the day lies between the bounds. -/
theorem compile_holds_eq {state : FilterState} (hdates : state.dates = some bounds)
    (hbounds : bounds.NameDays limit a b) (h : CarriesDay fields r d) (keyed plain : Capability) :
    (compile fields limit state keyed).predicate.holds r =
        (compile fields limit state plain).predicate.holds r
      ∧ ∀ selected, (selectorClauses fields state).holds r = .ok selected →
        (compile fields limit state keyed).predicate.holds r =
          .ok (selected && decide (d.IsBetween a b)) := by
  constructor
  · rw [compile_holds hdates hbounds h keyed, compile_holds hdates hbounds h plain]
  · intro selected hselected
    rw [compile_holds hdates hbounds h keyed, hselected]
    cases selected with
    | false => rfl
    | true => rfl

/-- Bounds in reverse order and in both written forms, and a feature with its key under an
alternate name only: the last day of February in a leap year. -/
theorem compile_holds_eq_leap_day :
    let fields : FieldMapping := {}
    let bounds : DateBounds := ⟨.text " 3/1/2024", .text "2024-02-28"⟩
    let state : FilterState := { branch := .exact "Bryan", dates := some bounds }
    let r : Record := [("BranchName", .text "Bryan"), ("SaleDate", .text "2/29/2024"),
      ("SaleDateKey", .text "n/a"), ("\ufeffSaleDateKey", .int 20240229)]
    (bounds.NameDays (.days 2) ⟨2024, 3, 1⟩ ⟨2024, 2, 28⟩ ∧ CarriesDay fields r ⟨2024, 2, 29⟩)
      ∧ (compile fields (.days 2) state { hasDateKey := true }).predicate.holds r =
        (compile fields (.days 2) state {}).predicate.holds r
      ∧ (compile fields (.days 2) state { hasDateKey := true }).predicate.holds r = .ok true := by
  intro fields bounds state r
  have hbounds : bounds.NameDays (.days 2) ⟨2024, 3, 1⟩ ⟨2024, 2, 28⟩ :=
    ⟨by decide, by decide, by decide, by decide, by decide⟩
  have hcarries : CarriesDay fields r ⟨2024, 2, 29⟩ := by
    refine ⟨by decide, by decide, [.text "SaleDateKey"], .text "\ufeffSaleDateKey", [], rfl, ?_, rfl⟩
    intro other hother
    rw [List.mem_singleton.1 hother]
    rfl
  have hmain := compile_holds_eq (rfl : state.dates = some bounds) hbounds hcarries
    { hasDateKey := true } {}
  exact ⟨⟨hbounds, hcarries⟩, hmain.1, hmain.2 true rfl⟩

end MapFilter
