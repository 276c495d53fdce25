import MapFilter.Proofs.Number.Whole
import MapFilter.Sql.Stored

/-!
# Casts of integers

A query compares integers with binary64 numbers by casting them. One of more than 64 bits is cast in two
halves, and each half and their sum are rounded. Rounding three times may lead elsewhere than rounding
once, but not from an integer that is a binary64 number already: its halves are such integers too.

- `Number.IsShort`: the integers of few significant bits
- `Number.ofInt_eq_finite_iff`: they are the binary64 numbers among the integers
- `Sql.castDouble_eq_finite`: they are cast to themselves
-/

namespace MapFilter.Number

/-! ## §1 Integers of few significant bits -/

/-- The integer has at most 53 significant bits, or it is a power of two. -/
def IsShort (i : Int) : Prop :=
  ∃ m k : Nat, m ≤ 2 ^ 53 ∧ i.natAbs = m * 2 ^ k

theorem gridPoint_of_dvd {n : Nat} (h : 2 ^ gridBits n ∣ n) : gridPoint n = n := by
  have hwhole : n / 2 ^ gridBits n * 2 ^ gridBits n = n := Nat.div_mul_cancel h
  have hquotient : divToEven n (2 ^ gridBits n) = n / 2 ^ gridBits n := by
    have hexact := divToEven_mul (m := n / 2 ^ gridBits n) (Nat.two_pow_pos (gridBits n))
    rwa [hwhole] at hexact
  rw [gridPoint, hquotient, hwhole]

/-- The bits that rounding drops are zeros. -/
theorem dvd_of_isShort {i : Int} (h : IsShort i) (hne : i ≠ 0) :
    2 ^ gridBits i.natAbs ∣ i.natAbs := by
  obtain ⟨m, k, hm, hi⟩ := h
  have habs : i.natAbs ≠ 0 := Int.natAbs_ne_zero.2 hne
  have hle : i.natAbs ≤ 2 ^ (53 + k) := by
    rw [hi, Nat.pow_add]
    exact Nat.mul_le_mul_right _ hm
  obtain hlt | heq := Nat.lt_or_eq_of_le hle
  · have hlog : i.natAbs.log2 < 53 + k := (Nat.log2_lt habs).2 hlt
    have hbits : gridBits i.natAbs ≤ k := by
      unfold gridBits
      omega
    exact hi ▸ (Nat.pow_dvd_pow 2 hbits).mul_left m
  · rw [heq, gridBits, Nat.log2_two_pow]
    exact Nat.pow_dvd_pow 2 (by omega)

theorem round_of_isShort {i : Int} (h : IsShort i) (hbits : i.natAbs.log2 < 1000) :
    round (i : Rat) = .finite i := by
  by_cases hsmall : i.natAbs ≤ 2 ^ 53
  · exact round_small hsmall
  have hne : i ≠ 0 := by
    rintro rfl
    simp at hsmall
  rw [round_intCast (le_log2 hsmall) hbits, gridPoint_of_dvd (dvd_of_isShort h hne), finite.injEq,
    ← Int.cast_natCast]
  split
  · next hneg =>
    have hneg : i < 0 := by exact_mod_cast hneg
    rw [← Int.cast_neg]
    congr 1
    omega
  · next hpos =>
    have hpos : ¬ i < 0 := by exact_mod_cast hpos
    congr 1
    omega

/-- The integers of few significant bits are the binary64 numbers among the integers. -/
theorem ofInt_eq_finite_iff {i : Int} (hbits : i.natAbs.log2 < 1000) :
    ofInt i = .finite i ↔ IsShort i := by
  refine ⟨fun h => ?_, fun h => by rw [ofInt_eq_round, round_of_isShort h hbits]⟩
  by_cases hsmall : i.natAbs ≤ 2 ^ 53
  · exact ⟨i.natAbs, 0, hsmall, by rw [Nat.pow_zero, Nat.mul_one]⟩
  -- A large integer that is its own grid point has the significand of that point.
  rw [ofInt_eq_round, round_intCast (le_log2 hsmall) hbits, finite.injEq, ← Int.cast_natCast] at h
  have hpoint : gridPoint i.natAbs = i.natAbs := by
    split at h
    · rw [← Int.cast_neg, Int.cast_inj] at h
      omega
    · rw [Int.cast_inj] at h
      omega
  exact ⟨_, gridBits i.natAbs, (significand_bounds (le_log2 hsmall)).2, hpoint.symm⟩

/-- The upper half of an integer of few significant bits. -/
theorem IsShort.ediv {i : Int} (h : IsShort i) : IsShort (i / 2 ^ 64) := by
  obtain ⟨m, k, hm, hi⟩ := h
  by_cases hk : 64 ≤ k
  · -- All of the bits that are cut off are zeros.
    obtain ⟨j, rfl⟩ := Nat.exists_eq_add_of_le hk
    refine ⟨m, j, hm, ?_⟩
    rw [Nat.pow_add, Nat.mul_left_comm] at hi
    omega
  · -- What is left is not larger than the significand.
    have hle : i.natAbs ≤ m * 2 ^ 64 := by
      rw [hi]
      exact Nat.mul_le_mul_left m (Nat.pow_le_pow_right (by omega) (by omega))
    exact ⟨(i / 2 ^ 64).natAbs, 0, by omega, by omega⟩

/-- Of many bits the last ones are zeros. -/
theorem IsShort.dvd {i : Int} (h : IsShort i) (hlarge : 2 ^ 63 < i.natAbs) : 2 ^ 11 ∣ i.natAbs := by
  obtain ⟨m, k, hm, hi⟩ := h
  have hk : 11 ≤ k := by
    by_contra hk
    have hle : m * 2 ^ k ≤ 2 ^ 53 * 2 ^ 10 :=
      Nat.mul_le_mul hm (Nat.pow_le_pow_right (by omega) (by omega))
    omega
  exact hi ▸ (Nat.pow_dvd_pow 2 hk).mul_left m

/-- The lower half of an integer of few significant bits, of which there are more than 63 in all. -/
theorem IsShort.emod {i : Int} (h : IsShort i) (hlarge : 2 ^ 63 < i.natAbs) : IsShort (i % 2 ^ 64) := by
  obtain ⟨q, hq⟩ := h.dvd hlarge
  exact ⟨(i % 2 ^ 64).natAbs / 2 ^ 11, 11, by omega, by omega⟩

theorem IsShort.mul_twoPow {i : Int} (h : IsShort i) : IsShort (i * 2 ^ 64) := by
  obtain ⟨m, k, hm, hi⟩ := h
  refine ⟨m, k + 64, hm, ?_⟩
  rw [Int.natAbs_mul, hi, Nat.pow_add, Nat.mul_assoc]
  rfl

/-! ## §2 Rounding on the way -/

theorem log2_lt_of_lt {n : Nat} (h : n < 2 ^ 200) : n.log2 < 1000 := by
  by_cases hzero : n = 0
  · rw [hzero]
    decide
  · have hlog : n.log2 < 200 := (Nat.log2_lt hzero).2 h
    omega

theorem add_finite (q r : Rat) : (finite q).add (finite r) = round (q + r) := rfl

/-- Next to an integer of 64 bits that is a binary64 number, rounding leads to it. -/
theorem ofInt_of_next {n : Nat} (hdvd : 2 ^ 11 ∣ n) (hlow : 2 ^ 63 < n) (hhigh : n ≤ 2 ^ 64) {m : Nat}
    (hm : m = n - 1 ∨ m = n + 1) : ofInt m = .finite ((n : Int) : Rat) := by
  obtain ⟨q, rfl⟩ := hdvd
  -- The grid has the spacing of the larger integers, but for the power of two at the upper end.
  have hlog : m.log2 = 63 ∨ m.log2 = 64 ∧ q = 2 ^ 53 := by
    by_cases hlt : m < 2 ^ 64
    · exact .inl ((Nat.log2_eq_iff (by omega)).2 ⟨by omega, by omega⟩)
    · exact .inr ⟨(Nat.log2_eq_iff (by omega)).2 ⟨by omega, by omega⟩, by omega⟩
  have hpoint : gridPoint m = 2 ^ 11 * q := by
    rw [gridPoint, gridBits]
    rcases hlog with hlog | ⟨hlog, rfl⟩ <;> rw [hlog] <;> simp only [divToEven] <;>
      split_ifs <;> omega
  have hlarge : 52 ≤ ((m : Int)).natAbs.log2 := by
    rw [Int.natAbs_natCast]
    omega
  rw [ofInt_eq_round, round_intCast hlarge (by rw [Int.natAbs_natCast]; omega), Int.natAbs_natCast,
    hpoint, if_neg]
  · norm_cast
  · rw [not_lt]
    exact_mod_cast Int.natCast_nonneg m

end MapFilter.Number

namespace MapFilter.Sql

open MapFilter.Number

/-! ## §3 Two halves -/

/-- Just below minus `2 ^ 63` the upper half is minus one, and the rest is put together in another
way. -/
theorem wideToNumber_of_upper {i : Int} (h : IsShort i) (hlow : -2 ^ 64 ≤ i) (hhigh : i < -2 ^ 63) :
    wideToNumber i = .finite i := by
  obtain ⟨n, rfl⟩ : ∃ n : Nat, i = -n := ⟨i.natAbs, by omega⟩
  have hdvd : 2 ^ 11 ∣ n := by simpa using h.dvd (by omega)
  have hne : ((n : Int) : Rat) ≠ 0 := by
    rw [Ne, Rat.intCast_eq_zero_iff]
    omega
  have hneg : (Number.finite ((n : Int) : Rat)).neg = .finite ((-(n : Int) : Int) : Rat) := by
    rw [Number.neg, if_neg hne, Int.cast_neg]
  -- Both integers that are rounded on the way are neighbours of the magnitude.
  have hbelow : ofInt ((n - 1 : Nat) : Int) = .finite ((n : Int) : Rat) :=
    ofInt_of_next hdvd (by omega) (by omega) (.inl rfl)
  have habove : Number.round ((-((n + 1 : Nat) : Int) : Int) : Rat) =
      .finite ((-(n : Int) : Int) : Rat) := by
    rw [← ofInt_eq_round, ofInt_neg (by omega) (log2_lt_of_lt (by omega)),
      ofInt_of_next hdvd (by omega) (by omega) (.inr rfl), hneg]
  have hupper : -(n : Int) / 0x10000000000000000 = -1 := by omega
  have hlower : (0x10000000000000000 : Int) - 1 - -(n : Int) % 0x10000000000000000 =
      ((n - 1 : Nat) : Int) := by omega
  have hsum : ((-(n : Int) : Int) : Rat) + -1 = (-((n + 1 : Nat) : Int) : Int) := by
    push_cast
    exact (neg_add _ _).symm
  simp only [wideToNumber, hupper, if_true, hlower, hbelow, hneg]
  rw [add_finite, hsum, habove]

/-- An integer that is a binary64 number is cast to that number. -/
theorem castDouble_eq_finite {i : Int} (hi : isStorable i = true) (h : Number.ofInt i = .finite i) :
    castDouble i = .finite i := by
  simp only [isStorable, Bool.and_eq_true, decide_eq_true_eq] at hi
  have hshort := (ofInt_eq_finite_iff (log2_lt_of_lt (by omega))).1 h
  rw [castDouble]
  split
  · exact h
  rename_i hsigned
  simp only [Column.isSigned, Bool.and_eq_true, decide_eq_true_eq, not_and_or] at hsigned
  by_cases hnarrow : 0 ≤ i ∧ i < 2 ^ 64
  · rw [wideToNumber_eq (by omega) (by omega), h]
  by_cases hupper : i / 2 ^ 64 = -1
  · exact wideToNumber_of_upper hshort (by omega) (by omega)
  have hlower : ofInt (i % 2 ^ 64) = .finite (i % 2 ^ 64 : Int) :=
    (ofInt_eq_finite_iff (log2_lt_of_lt (by omega))).2 (hshort.emod (by omega))
  have hquotient : ofInt (i / 2 ^ 64) = .finite (i / 2 ^ 64 : Int) :=
    (ofInt_eq_finite_iff (log2_lt_of_lt (by omega))).2 hshort.ediv
  have hscaled : Number.round ((i / 2 ^ 64 : Int) * (2 ^ 64 : Int) : Rat) =
      .finite (i / 2 ^ 64 * 2 ^ 64 : Int) := by
    rw [← Int.cast_mul]
    exact round_of_isShort hshort.ediv.mul_twoPow (log2_lt_of_lt (by omega))
  have hsum : ((i % 2 ^ 64 : Int) : Rat) + (i / 2 ^ 64 * 2 ^ 64 : Int) = i := by
    rw [← Int.cast_add]
    congr 1
    omega
  have hwide : wideToNumber i =
      (ofInt (i % 2 ^ 64)).add (Number.round ((ofInt (i / 2 ^ 64)).toRat * (2 ^ 64 : Int))) := by
    rw [wideToNumber]
    exact if_neg hupper
  rw [hwide, hlower, hquotient, toRat, hscaled, add_finite, hsum]
  exact round_of_isShort hshort (log2_lt_of_lt (by omega))

end MapFilter.Sql
