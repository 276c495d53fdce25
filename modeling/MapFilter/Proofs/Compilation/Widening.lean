import MapFilter.Proofs.Compilation.Diagnostics

/-!
# Wider selections hide nothing

A selection is wider than another one if it drops selectors of it, or moves bounds of its dates
outward. What a filter shows, the filter of a wider selection shows too, although a range that grows
may change its form: a list of days grows up to the limit, and then the clause is left out.

- `FilterState.IsWider`: the order of selections
- `keyClause_widen`, `textClause_widen`: a clause about dates for a wider interval
- `compile_holds_of_isWider`: the filters of selections follow the order of selections
-/

namespace MapFilter

/-! ## §1 Wider selections -/

/-- The keys between which dates have to lie, the lower one first, and none where there is no bound. -/
def FilterState.interval (state : FilterState) : Option Int × Option Int :=
  match state.dates with
  | none => (none, none)
  | some bounds =>
    match bounds.keys with
    | (some a, some b) => (some (min a b), some (max a b))
    | keys => keys

/-- Every bound that is there names a real day. -/
def FilterState.NamesDays (state : FilterState) : Prop :=
  ∀ bounds, state.dates = some bounds → ∀ bound ∈ [bounds.start, bounds.stop],
    bound.isTruthy = true →
      ∃ d : DateParts, d.isReal = true ∧ DateKey.encodeValue bound = some d.key

/-- An interval contains another one: where it is bounded, so is the other, and no further out. -/
structure ContainsInterval (outer inner : Option Int × Option Int) : Prop where
  low : ∀ a, outer.1 = some a → ∃ b, inner.1 = some b ∧ a ≤ b
  high : ∀ a, outer.2 = some a → ∃ b, inner.2 = some b ∧ b ≤ a

/-- A selection asks for no more than another one. -/
structure FilterState.IsWider (wide narrow : FilterState) : Prop where
  branch : wide.branch = .any ∨ wide.branch = narrow.branch
  group : wide.group = .any ∨ wide.group = narrow.group
  interval : ContainsInterval wide.interval narrow.interval

/-! ## §2 Clauses -/

namespace Predicate

theorem bothHold_eq_true {first second : Except MatchError Bool} :
    bothHold first second = .ok true ↔ first = .ok true ∧ second = .ok true := by
  constructor
  · intro h
    unfold bothHold at h
    split at h
    · exact ⟨rfl, h⟩
    · rename_i hne
      exact absurd h hne
  · rintro ⟨rfl, rfl⟩
    rfl

end Predicate

variable {fields : FieldMapping} {r : Record}

/-- A selector that is dropped or kept holds where it held. -/
theorem selectorClause_widen {field : FieldName} {wide narrow : Selector}
    (h : wide = .any ∨ wide = narrow)
    (hholds : (Predicate.all (selectorClause field narrow)).holds r = .ok true) :
    (Predicate.all (selectorClause field wide)).holds r = .ok true := by
  rcases h with rfl | rfl
  · rfl
  · exact hholds

theorem interval_eq_ordered (bounds : DateBounds) (state : FilterState)
    (h : state.dates = some bounds) : state.interval = ordered bounds.keys := by
  simp only [FilterState.interval, h]
  cases hkeys : bounds.keys with
  | mk start stop =>
    cases start with
    | none => cases stop <;> rfl
    | some a =>
      cases stop with
      | none => rfl
      | some b => rw [ordered_eq]

/-- The clause about dates is one for the interval, however its bounds were given. -/
theorem dateClause_eq (fields : FieldMapping) (limit : DayLimit) (hasDateKey : Bool)
    (state : FilterState) :
    (dateClause fields limit hasDateKey state.dates).1 =
      if hasDateKey then keyClause fields state.interval.1 state.interval.2
      else (textClause fields limit state.interval.1 state.interval.2).1 := by
  cases hdates : state.dates with
  | none =>
    simp only [dateClause, FilterState.interval, hdates]
    cases hasDateKey <;> rfl
  | some bounds =>
    rw [interval_eq_ordered bounds state hdates]
    simp only [dateClause]
    split
    · -- Where no bound is there, none has a key either.
      rename_i hempty
      simp only [DateBounds.isEmpty, Bool.and_eq_true, Bool.not_eq_true'] at hempty
      have hkeys : bounds.keys = (none, none) := by
        rw [DateBounds.keys, encodeValue_of_not_isTruthy hempty.1,
          encodeValue_of_not_isTruthy hempty.2]
      rw [hkeys]
      cases hasDateKey <;> rfl
    · cases hasDateKey <;> rfl

/-! ## §3 Comparing keys -/

theorem isBound_boundValue (key : Option Int) : (boundValue key).isBound = true := by
  cases key <;> rfl

/-- A finite number lies within keys if it is above the lower one and below the upper one. -/
theorem isWithin_boundValue {x : Number} (hx : x.isFinite = true) (low high : Option Int) :
    Predicate.isWithin (boundValue low) (boundValue high) x = .ok true ↔
      (∀ a, low = some a → (a : Rat) ≤ x.toRat) ∧ ∀ b, high = some b → x.toRat ≤ (b : Rat) := by
  have hle (a : Int) : Number.le (.finite a) x = decide ((a : Rat) ≤ x.toRat) :=
    Number.le_of_isFinite rfl hx
  have hge (b : Int) : x.le (.finite b) = decide (x.toRat ≤ (b : Rat)) :=
    Number.le_of_isFinite hx rfl
  rw [Predicate.isWithin_of_isBound (isBound_boundValue low) (isBound_boundValue high) hx,
    Predicate.liesBetween]
  cases low <;> cases high <;> simp [boundValue, Value.toExact?, hle, hge]

/-- A comparison of keys that holds, holds for a wider interval. -/
theorem keyClause_widen {wide narrow : Option Int × Option Int}
    (hcontains : ContainsInterval wide narrow)
    (hholds : (Predicate.all (keyClause fields narrow.1 narrow.2)).holds r = .ok true) :
    (Predicate.all (keyClause fields wide.1 wide.2)).holds r = .ok true := by
  by_cases hwide : wide.1.isSome = true ∨ wide.2.isSome = true
  · -- Where the wider interval is bounded, so is the narrower one, and both clauses are comparisons.
    have hnarrow : narrow.1.isSome = true ∨ narrow.2.isSome = true := by
      rcases hwide with h | h
      · obtain ⟨a, ha⟩ := Option.isSome_iff_exists.1 h
        obtain ⟨b, hb, -⟩ := hcontains.low a ha
        exact .inl (by rw [hb]; rfl)
      · obtain ⟨a, ha⟩ := Option.isSome_iff_exists.1 h
        obtain ⟨b, hb, -⟩ := hcontains.high a ha
        exact .inr (by rw [hb]; rfl)
    obtain ⟨others, hchain⟩ := dateKeyChain_eq fields
    rw [keyClause_eq hchain hnarrow, Predicate.holds_all_singleton] at hholds
    rw [keyClause_eq hchain hwide, Predicate.holds_all_singleton]
    cases hquantity : quantity r (Predicate.chain fields.dateKey others) with
    | error e => simp [Predicate.holds, hquantity] at hholds
    | ok x =>
      have hx := quantity_isFinite hquantity
      rw [Predicate.holds_within hquantity, isWithin_boundValue hx] at hholds ⊢
      constructor
      · intro a ha
        obtain ⟨b, hb, hab⟩ := hcontains.low a ha
        exact Rat.le_trans (Rat.intCast_le_intCast.2 hab) (hholds.1 b hb)
      · intro a ha
        obtain ⟨b, hb, hba⟩ := hcontains.high a ha
        exact Rat.le_trans (hholds.2 b hb) (Rat.intCast_le_intCast.2 hba)
  · -- An unbounded interval asks for nothing.
    simp only [not_or, Bool.not_eq_true, Option.isSome_eq_false_iff, Option.isNone_iff_eq_none]
      at hwide
    rw [hwide.1, hwide.2]
    rfl

/-! ## §4 Listing days -/

/-- A span within the limit stays within it when it shrinks. -/
theorem DayLimit.isExceededBy_mono {limit : DayLimit} {m n : Nat} (h : m ≤ n)
    (hn : limit.isExceededBy n = false) : limit.isExceededBy m = false := by
  unfold DayLimit.isExceededBy at hn ⊢
  cases hfinite : limit.exact.isFinite with
  | true =>
    have hmn : ((m : Int) : Rat) ≤ ((n : Int) : Rat) := Rat.intCast_le_intCast.2 (by omega)
    rw [Number.lt_of_isFinite hfinite rfl, decide_eq_false_iff_not, Rat.not_lt] at hn ⊢
    exact Rat.le_trans hmn hn
  | false =>
    -- Every span is within such a limit, or none is.
    cases hexact : limit.exact with
    | nan => rfl
    | infinite negative =>
      rw [hexact] at hn
      exact hn
    | negativeZero => simp [hexact, Number.isFinite] at hfinite
    | finite q => simp [hexact, Number.isFinite] at hfinite

/-- The distance of two days is no more than that of two others around them. -/
theorem DateParts.daysApart_le {low high d e : DateParts} (hlow : low.dayNumber ≤ d.dayNumber)
    (hhigh : e.dayNumber ≤ high.dayNumber) (h : d.dayNumber ≤ e.dayNumber) :
    d.daysApart e ≤ low.daysApart high := by
  unfold DateParts.daysApart
  omega

theorem DateParts.IsBetween.widen {low high d e x : DateParts}
    (hlow : low.dayNumber ≤ d.dayNumber) (hhigh : e.dayNumber ≤ high.dayNumber)
    (h : d.dayNumber ≤ e.dayNumber) (hx : x.IsBetween d e) : x.IsBetween low high := by
  unfold DateParts.IsBetween at *
  omega

/-- A text that is one of several is one of more. -/
theorem Predicate.holds_member_mono {field : FieldName} {values more : List Value}
    (hsubset : values ⊆ more) (hholds : (Predicate.member field values).holds r = .ok true) :
    (Predicate.member field more).holds r = .ok true := by
  have hmember (property : Option Value) (h : isMember property values = true) :
      isMember property more = true := by
    unfold isMember at h ⊢
    split at h
    · cases h
    · cases h
    · exact List.contains_iff_mem.2 (hsubset (List.contains_iff_mem.1 h))
  simp only [Predicate.holds, Predicate.onProperty] at hholds ⊢
  split at hholds
  · simp only [Except.ok.injEq] at hholds ⊢
    exact hmember _ hholds
  · cases hholds

/-- Both keys of an interval are those of real days, the lower one first. -/
structure IsOfDays (interval : Option Int × Option Int) : Prop where
  low : ∀ a, interval.1 = some a → ∃ d : DateParts, d.isReal = true ∧ d.key = a
  high : ∀ b, interval.2 = some b → ∃ d : DateParts, d.isReal = true ∧ d.key = b
  le : ∀ a b, interval.1 = some a → interval.2 = some b → a ≤ b

/-- A list of days that holds, holds for a wider interval, whatever becomes of it there. -/
theorem textClause_widen {wide narrow : Option Int × Option Int} {limit : DayLimit}
    (hwide : IsOfDays wide) (hnarrow : IsOfDays narrow) (hcontains : ContainsInterval wide narrow)
    (hholds : (Predicate.all (textClause fields limit narrow.1 narrow.2).1).holds r = .ok true) :
    (Predicate.all (textClause fields limit wide.1 wide.2).1).holds r = .ok true := by
  obtain ⟨low, high⟩ := wide
  cases low with
  | none => cases high <;> rfl
  | some low =>
    cases high with
    | none => rfl
    | some high =>
      obtain ⟨lowDay, hlowReal, rfl⟩ := hwide.low low rfl
      obtain ⟨highDay, hhighReal, rfl⟩ := hwide.high high rfl
      cases hlimit : limit.isExceededBy (lowDay.daysApart highDay) with
      | true =>
        simp only [textClause, DateRange.spanDays_key hlowReal hhighReal, hlimit, if_true]
        rfl
      | false =>
        -- The narrower interval is bounded too, so its days are listed and are among these.
        obtain ⟨a, ha, hlow⟩ := hcontains.low _ rfl
        obtain ⟨b, hb, hhigh⟩ := hcontains.high _ rfl
        obtain ⟨d, hd, rfl⟩ := hnarrow.low a ha
        obtain ⟨e, he, rfl⟩ := hnarrow.high b hb
        have hle := (DateParts.key_le_iff_dayNumber_le hd he).1 (hnarrow.le _ _ ha hb)
        have hlow := (DateParts.key_le_iff_dayNumber_le hlowReal hd).1 hlow
        have hhigh := (DateParts.key_le_iff_dayNumber_le he hhighReal).1 hhigh
        have hlimit' := DayLimit.isExceededBy_mono (DateParts.daysApart_le hlow hhigh hle) hlimit
        obtain ⟨days, hdays, hclause⟩ := textClause_days fields hd he hlimit'
        obtain ⟨more, hmore, hclause'⟩ := textClause_days fields hlowReal hhighReal hlimit
        rw [ha, hb, hclause, Predicate.holds_all_singleton] at hholds
        rw [hclause', Predicate.holds_all_singleton]
        refine Predicate.holds_member_mono ?_ hholds
        refine List.map_subset _ (List.map_subset _ fun x hx => ?_)
        obtain ⟨hreal, hbetween⟩ := (hdays x).1 hx
        exact (hmore x).2 ⟨hreal, hbetween.widen hlow hhigh hle⟩

/-! ## §5 The filter -/

theorem FilterState.NamesDays.isOfDays {state : FilterState} (h : state.NamesDays) :
    IsOfDays state.interval := by
  -- A bound with a key is there, so its key is that of a real day.
  have hreal {bounds : DateBounds} (hdates : state.dates = some bounds) {bound : Value}
      (hbound : bound ∈ [bounds.start, bounds.stop]) {a : Int}
      (ha : DateKey.encodeValue bound = some a) : ∃ d : DateParts, d.isReal = true ∧ d.key = a := by
    obtain ⟨d, hd, hkey⟩ := h bounds hdates bound hbound (isTruthy_of_encodeValue ha)
    rw [ha] at hkey
    exact ⟨d, hd, (Option.some.inj hkey).symm⟩
  cases hdates : state.dates with
  | none =>
    have hinterval : state.interval = (none, none) := by simp [FilterState.interval, hdates]
    rw [hinterval]
    exact ⟨by simp, by simp, by simp⟩
  | some bounds =>
    rw [interval_eq_ordered bounds state hdates, DateBounds.keys]
    have hstart {a : Int} (ha : DateKey.encodeValue bounds.start = some a) :
        ∃ d : DateParts, d.isReal = true ∧ d.key = a := hreal hdates (by simp) ha
    have hstop {b : Int} (hb : DateKey.encodeValue bounds.stop = some b) :
        ∃ d : DateParts, d.isReal = true ∧ d.key = b := hreal hdates (by simp) hb
    cases ha : DateKey.encodeValue bounds.start with
    | none =>
      cases hb : DateKey.encodeValue bounds.stop with
      | none => exact ⟨by simp [ordered], by simp [ordered], by simp [ordered]⟩
      | some b => exact ⟨by simp [ordered], by simpa [ordered] using hstop hb, by simp [ordered]⟩
    | some a =>
      cases hb : DateKey.encodeValue bounds.stop with
      | none => exact ⟨by simpa [ordered] using hstart ha, by simp [ordered], by simp [ordered]⟩
      | some b =>
        rw [ordered_eq]
        rcases Int.le_total a b with hle | hle
        · rw [Int.min_eq_left hle, Int.max_eq_right hle]
          exact ⟨by simpa using hstart ha, by simpa using hstop hb, by simpa using hle⟩
        · rw [Int.min_eq_right hle, Int.max_eq_left hle]
          exact ⟨by simpa using hstop hb, by simpa using hstart ha, by simpa using hle⟩

/-- What the filter of a selection holds of, the filter of a wider selection holds of. -/
theorem compile_holds_of_isWider {wide narrow : FilterState} (hwide : wide.NamesDays)
    (hnarrow : narrow.NamesDays) (h : wide.IsWider narrow) (fields : FieldMapping)
    (limit : DayLimit) (capability : Capability) (r : Record)
    (hholds : (compile fields limit narrow capability).predicate.holds r = .ok true) :
    (compile fields limit wide capability).predicate.holds r = .ok true := by
  rw [Compiled.predicate, compile_eq, Predicate.holds_all_append, Predicate.holds_all_append,
    Predicate.bothHold_eq_true, Predicate.bothHold_eq_true, dateClause_eq] at hholds ⊢
  obtain ⟨⟨hbranch, hgroup⟩, hdates⟩ := hholds
  refine ⟨⟨selectorClause_widen h.branch hbranch, selectorClause_widen h.group hgroup⟩, ?_⟩
  cases hkey : capability.hasDateKey with
  | true =>
    simp only [hkey, if_true] at hdates ⊢
    exact keyClause_widen h.interval hdates
  | false =>
    simp only [hkey, Bool.false_eq_true, if_false] at hdates ⊢
    exact textClause_widen hwide.isOfDays hnarrow.isOfDays h.interval hdates

/-- Two days of a branch, against a reversed range of a week for all branches that is over the limit
and so left out. -/
theorem compile_holds_of_isWider_over_limit :
    let narrow : FilterState :=
      { branch := .exact "Bryan", dates := some ⟨.text "2024-02-28", .text "2/29/2024"⟩ }
    let wide : FilterState := { dates := some ⟨.text "3/3/2024", .text "2/26/2024"⟩ }
    let r : Record := [("BranchName", .text "Bryan"), ("SaleDate", .text "2/29/2024")]
    (wide.NamesDays ∧ narrow.NamesDays ∧ wide.IsWider narrow)
      ∧ (compile {} (.days 3) narrow {}).predicate.holds r = .ok true
      ∧ (compile {} (.days 3) wide {}).predicate.holds r = .ok true := by
  intro narrow wide r
  have hwide : wide.NamesDays := by
    intro bounds hbounds bound hbound _
    cases hbounds
    simp only [List.mem_cons, List.not_mem_nil, or_false] at hbound
    rcases hbound with rfl | rfl
    · exact ⟨⟨2024, 3, 3⟩, by decide, by decide⟩
    · exact ⟨⟨2024, 2, 26⟩, by decide, by decide⟩
  have hnarrow : narrow.NamesDays := by
    intro bounds hbounds bound hbound _
    cases hbounds
    simp only [List.mem_cons, List.not_mem_nil, or_false] at hbound
    rcases hbound with rfl | rfl
    · exact ⟨⟨2024, 2, 28⟩, by decide, by decide⟩
    · exact ⟨⟨2024, 2, 29⟩, by decide, by decide⟩
  have hwideInterval : wide.interval = (some 20240226, some 20240303) := by decide
  have hnarrowInterval : narrow.interval = (some 20240228, some 20240229) := by decide
  have hwider : wide.IsWider narrow := by
    refine ⟨.inl rfl, .inl rfl, ?_⟩
    rw [hwideInterval, hnarrowInterval]
    exact ⟨fun a ha => ⟨20240228, rfl, by cases ha; decide⟩,
      fun a ha => ⟨20240229, rfl, by cases ha; decide⟩⟩
  -- The days of the narrow range are written out before the clauses are looked at.
  have hdays : (textClause {} (.days 3) (some 20240228) (some 20240229)).1 =
      [.member (.text "SaleDate") [.text "2/28/2024", .text "2/29/2024"]] := by decide
  have hholds : (compile {} (.days 3) narrow {}).predicate.holds r = .ok true := by
    rw [Compiled.predicate, compile_eq, dateClause_eq, hnarrowInterval]
    simp only [Bool.false_eq_true, if_false, hdays]
    rfl
  exact ⟨⟨hwide, hnarrow, hwider⟩, hholds,
    compile_holds_of_isWider hwide hnarrow hwider {} (.days 3) {} r hholds⟩

end MapFilter
