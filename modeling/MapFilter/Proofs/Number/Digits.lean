import MapFilter.Number.Reading
import MapFilter.Proofs.Number.Nearest

/-!
# Shortest digits

The digits that a number is written with are those of a decimal that names it, or all digits it has. A
decimal that names a number is not far from it, so it is rounded as it stands, without regard to the
size of its digits, and rounding leads back to the number.

- `Number.readsAs_shortest`: the shortest digits name their number
- `Number.ofDecimal_eq`: decimals within the range of numbers
- `Number.IsPoint.ofDecimal_of_readsAs`: digits that name a number are read as that number
- `Number.isBinary64_round`, `Number.isBinary64_ofPlain?`: what is rounded is not changed by rounding
-/

namespace MapFilter.Number

variable {q : ℚ} {m : Nat} {e : Int}

/-! ## §1 Shortest digits -/

namespace Decimal

theorem toRat_eq (d : Decimal) : d.toRat = d.digits * (10 : ℚ) ^ d.exponent := by
  rw [toRat, tenPow_eq_zpow]

/-- Zeros at the end count in the exponent. -/
theorem toRat_stripZeros (fuel : Nat) (d : Decimal) : (d.stripZeros fuel).toRat = d.toRat := by
  induction fuel generalizing d with
  | zero => rfl
  | succ fuel ih =>
    rw [stripZeros]
    split
    · next h =>
      rw [ih, toRat_eq, toRat_eq, zpow_add₀ (by norm_num), zpow_one]
      have htens : (d.digits : ℚ) = (d.digits / 10 : Nat) * 10 := by
        have : d.digits = d.digits / 10 * 10 := by omega
        exact_mod_cast this
      rw [htens]
      push_cast
      ring
    · rfl

theorem le_exponent_stripZeros (fuel : Nat) (d : Decimal) :
    d.exponent ≤ (d.stripZeros fuel).exponent := by
  induction fuel generalizing d with
  | zero => exact le_refl _
  | succ fuel ih =>
    rw [stripZeros]
    split
    · have := ih ⟨d.digits / 10, d.exponent + 1⟩
      dsimp only at this
      omega
    · exact le_refl _

end Decimal

/-- A decimal of a grid names the number if it is chosen. -/
theorem readsAs_onGrid {exponent : Int} {d : Decimal} (h : onGrid q exponent = some d) :
    readsAs q d.toRat = true ∧ d.exponent = exponent := by
  unfold onGrid at h
  dsimp only at h
  split at h
  · cases h
  · next hdown _ =>
    cases h
    exact ⟨hdown, rfl⟩
  · next _ hup =>
    cases h
    exact ⟨hup, rfl⟩
  · next hdown hup =>
    split at h
    · cases h
      exact ⟨hdown, rfl⟩
    · split at h
      · cases h
        exact ⟨hup, rfl⟩
      · split at h
        · cases h
          exact ⟨hdown, rfl⟩
        · cases h
          exact ⟨hup, rfl⟩

theorem IsPoint.readsAs_self (h : IsPoint q m e) : readsAs q q = true := by
  have hself := h.readsAs_iff (y := m)
  rw [← h.value] at hself
  rw [hself]
  split
  · constructor
    · split <;> linarith
    · linarith
  · constructor <;> linarith

/-- A grid point has no more decimal places than its grid has binary ones. -/
theorem IsPoint.exists_digits (h : IsPoint q m e) (places : Nat) (hplaces : -(places : Int) ≤ e) :
    ∃ n : Nat, q * 10 ^ (places : Int) = n := by
  obtain ⟨k, hk⟩ := Int.eq_ofNat_of_zero_le (a := e + places) (by linarith)
  refine ⟨m * 2 ^ k * 5 ^ places, ?_⟩
  have hten : (10 : ℚ) ^ places = 2 ^ places * 5 ^ places := by
    rw [← mul_pow]
    norm_num
  have htwo : (2 : ℚ) ^ k = 2 ^ e * 2 ^ places := by
    rw [← zpow_natCast, ← zpow_natCast, ← zpow_add₀ (by norm_num), hk]
  rw [zpow_natCast, hten, h.value]
  push_cast
  rw [htwo]
  ring

theorem lt_twoPow_log2 {x : ℚ} (hx : 0 < x) :
    x < 2 ^ ((x.num.natAbs.log2 : Int) - x.den.log2 + 1) := by
  have h : (x.num.natAbs : ℚ) / x.den < 2 ^ (((x.num.natAbs.log2 + 1 : Nat) : Int) - x.den.log2) := by
    rw [← div_lt_twoPow_iff x.den_pos rfl, mul_comm x.den]
    exact Nat.mul_lt_mul_of_lt_of_le Nat.lt_log2_self (Nat.log2_self_le x.den_pos.ne') x.den_pos
  rw [num_div_den hx] at h
  convert h using 2
  push_cast
  ring

/-- The digits of a grid point do not begin far behind the point. -/
theorem IsPoint.le_decimalScale (h : IsPoint q m e) : -330 ≤ decimalScale q := by
  have hbits : -1075 < (q.num.natAbs.log2 : Int) - q.den.log2 + 1 := by
    have hlow : (2 : ℚ) ^ (-1074 : Int) ≤ q := by
      rw [h.value]
      have hm : (1 : ℚ) ≤ m := by exact_mod_cast h.pos
      calc
        (2 : ℚ) ^ (-1074 : Int) ≤ 2 ^ e := zpow_le_zpow_right₀ (by norm_num) h.finest
        _ ≤ m * 2 ^ e := le_mul_of_one_le_left (by positivity) hm
    have := (zpow_lt_zpow_iff_right₀ (by norm_num : (1 : ℚ) < 2)).1
      (hlow.trans_lt (lt_twoPow_log2 h.isPos))
    linarith
  unfold decimalScale
  dsimp only
  have hdiv := Int.fdiv_eq_ediv_of_nonneg (((q.num.natAbs.log2 : Int) - q.den.log2) * 30103)
    (by norm_num : (0 : Int) ≤ 100000)
  omega

/-- The shortest digits of a grid point name it, and none of them stands far behind the point. -/
theorem readsAs_shortest (h : IsPoint q m e) :
    readsAs q (shortest q).toRat = true ∧ -1074 ≤ (shortest q).exponent := by
  unfold shortest
  dsimp only
  split
  · next d hd =>
    -- One of the grids that were tried has a decimal that names the number.
    obtain ⟨i, hi, hgrid⟩ := List.exists_of_findSome?_eq_some hd
    obtain ⟨hread, hexponent⟩ := readsAs_onGrid hgrid
    have hscale := h.le_decimalScale
    have hi := List.mem_range.1 hi
    have hle := d.le_exponent_stripZeros 20
    rw [Decimal.toRat_stripZeros]
    exact ⟨hread, by omega⟩
  · -- All digits there are.
    obtain ⟨n, hn⟩ := h.exists_digits 1074 h.finest
    have hdigits : (q * tenPow 1074).num.natAbs = n := by
      have hcast : q * tenPow 1074 = (n : ℚ) := by rw [tenPow_eq_zpow]; exact hn
      rw [hcast, Rat.num_natCast, Int.natAbs_natCast]
    rw [Decimal.toRat_stripZeros, Decimal.toRat_eq, hdigits]
    refine ⟨?_, Decimal.le_exponent_stripZeros 1100 ⟨n, -1074⟩⟩
    have hback : (n : ℚ) * 10 ^ (-1074 : Int) = q := by
      rw [← hn, mul_assoc, ← zpow_add₀ (by norm_num)]
      exact mul_one q
    rw [hback]
    exact h.readsAs_self

/-! ## §2 Decimals -/

/-- Where `10 ^ t` reaches up to `2 ^ p`, bits lead to a number of digits that is large enough. -/
theorem twoPow_le_of_ratio {p t : Nat} (hp : 0 < p) (h : 2 ^ p ≤ 10 ^ t) (bits : Nat) :
    2 ^ bits ≤ 10 ^ (bits * t / p + 1) := by
  refine (Nat.pow_le_pow_iff_left hp.ne').1 ?_
  calc
    (2 ^ bits) ^ p = (2 ^ p) ^ bits := by rw [← Nat.pow_mul, ← Nat.pow_mul, Nat.mul_comm]
    _ ≤ (10 ^ t) ^ bits := Nat.pow_le_pow_left h bits
    _ = 10 ^ (bits * t) := by rw [← Nat.pow_mul, Nat.mul_comm]
    _ ≤ 10 ^ ((bits * t / p + 1) * p) := by
      refine Nat.pow_le_pow_right (by decide) ?_
      rw [Nat.add_mul, Nat.one_mul]
      exact (Nat.lt_div_mul_add hp).le
    _ = (10 ^ (bits * t / p + 1)) ^ p := by rw [Nat.pow_mul]

/-- Where it does not reach far beyond, the number of digits is not much too large, for bits that are
not very many. -/
theorem tenPow_le_of_ratio {p t bits : Nat} (hp : 0 < p) (h : 10 ^ t ≤ 2 ^ (p + 1))
    (hbits : 2 ^ bits ≤ 10 ^ p) : 10 ^ (bits * t / p) ≤ 10 * 2 ^ bits := by
  refine (Nat.pow_le_pow_iff_left hp.ne').1 ?_
  calc
    (10 ^ (bits * t / p)) ^ p = 10 ^ (bits * t / p * p) := by rw [← Nat.pow_mul]
    _ ≤ 10 ^ (bits * t) := Nat.pow_le_pow_right (by decide) (Nat.div_mul_le_self _ _)
    _ = (10 ^ t) ^ bits := by rw [← Nat.pow_mul, Nat.mul_comm]
    _ ≤ (2 ^ (p + 1)) ^ bits := Nat.pow_le_pow_left h bits
    _ = 2 ^ bits * (2 ^ bits) ^ p := by
      rw [← Nat.pow_mul, ← Nat.pow_mul, ← Nat.pow_add]
      congr 1
      ring
    _ ≤ 10 ^ p * (2 ^ bits) ^ p := Nat.mul_le_mul_right _ hbits
    _ = (10 * 2 ^ bits) ^ p := by rw [Nat.mul_pow]

/-- Digits of a decimal that is not large are not many, unless they stand far behind the point. -/
theorem digits_lt_of_lt {digits a b : Nat} {exponent : Int} (hexponent : -(b : Int) ≤ exponent)
    (h : (digits : ℚ) * 10 ^ exponent < 2 ^ (a : Int)) : digits < 2 ^ a * 10 ^ b := by
  have hten : (0 : ℚ) < 10 ^ b := by positivity
  have hpower : ((10 : ℚ) ^ b)⁻¹ ≤ 10 ^ exponent := by
    rw [← zpow_natCast, ← zpow_neg]
    exact zpow_le_zpow_right₀ (by norm_num) hexponent
  have hdigits : (digits : ℚ) * ((10 : ℚ) ^ b)⁻¹ < 2 ^ a := by
    rw [← zpow_natCast 2 a]
    exact (mul_le_mul_of_nonneg_left hpower (Nat.cast_nonneg _)).trans_lt h
  rw [← div_eq_mul_inv, div_lt_iff₀ hten] at hdigits
  exact_mod_cast hdigits

/-- The size of digits, as the reader of decimals takes it from their bits. -/
def decimalSize (digits : Nat) : Nat :=
  digits.log2 * 30103 / 100000

/-- For digits that are not very many it is their number, or one less. -/
theorem decimalSize_bounds {digits : Nat} (hne : digits ≠ 0) (h : digits ≤ 10 ^ 100000) :
    10 ^ decimalSize digits ≤ 10 * digits ∧ digits < 2 * 10 ^ (decimalSize digits + 1) := by
  have hbits := Nat.log2_self_le hne
  have hlarge : 10 ^ decimalSize digits ≤ 10 * 2 ^ digits.log2 :=
    tenPow_le_of_ratio (by decide) (by decide +kernel) (hbits.trans h)
  have hsmall : 2 ^ digits.log2 ≤ 10 ^ (decimalSize digits + 1) :=
    twoPow_le_of_ratio (by decide) (by decide +kernel) digits.log2
  have hnext := Nat.lt_log2_self (n := digits)
  exact ⟨hlarge.trans (Nat.mul_le_mul_left 10 hbits), by omega⟩

section

variable {digits : Nat} {exponent : Int}

/-- A decimal below the last power of two is not taken for an infinity. -/
theorem size_le (hne : digits ≠ 0) (hfew : digits ≤ 10 ^ 100000)
    (h : (digits : ℚ) * 10 ^ exponent < 2 ^ (1024 : Int)) : exponent + decimalSize digits ≤ 310 := by
  by_contra hlarge
  have hten : (0 : ℚ) < 10 ^ exponent := by positivity
  have hpowers : 10 * 2 ^ 1024 ≤ 10 ^ 311 := by decide +kernel
  have hdigits : (10 : ℚ) ^ decimalSize digits ≤ 10 * digits := by
    exact_mod_cast (decimalSize_bounds hne hfew).1
  refine lt_irrefl ((10 : ℚ) * 2 ^ (1024 : Int)) ?_
  calc
    (10 : ℚ) * 2 ^ (1024 : Int) ≤ 10 ^ (311 : Int) := by exact_mod_cast hpowers
    _ ≤ 10 ^ (exponent + decimalSize digits) := zpow_le_zpow_right₀ (by norm_num) (by omega)
    _ = 10 ^ exponent * 10 ^ decimalSize digits := by rw [zpow_add₀ (by norm_num), zpow_natCast]
    _ ≤ 10 ^ exponent * (10 * digits) := mul_le_mul_of_nonneg_left hdigits hten.le
    _ = 10 * (digits * 10 ^ exponent) := by ring
    _ < 10 * 2 ^ (1024 : Int) := mul_lt_mul_of_pos_left h (by norm_num)

/-- A decimal that is half of the first number at least is not taken for zero. -/
theorem le_size (hne : digits ≠ 0) (hfew : digits ≤ 10 ^ 100000)
    (h : (2 : ℚ) ^ (-1075 : Int) ≤ digits * 10 ^ exponent) :
    -330 ≤ exponent + decimalSize digits := by
  by_contra hsmall
  have hten : (0 : ℚ) < 10 ^ exponent := by positivity
  have hpowers : (2 : ℚ) * 10 ^ (-330 : Int) ≤ 2 ^ (-1075 : Int) := by
    have : 2 * 2 ^ 1075 ≤ 10 ^ 330 := by decide +kernel
    rw [zpow_neg, zpow_neg, ← div_eq_mul_inv, div_le_iff₀ (by positivity), inv_mul_eq_div,
      le_div_iff₀ (by positivity)]
    exact_mod_cast this
  have hdigits : (digits : ℚ) < 2 * 10 ^ (decimalSize digits + 1) := by
    exact_mod_cast (decimalSize_bounds hne hfew).2
  refine lt_irrefl ((2 : ℚ) ^ (-1075 : Int)) ?_
  calc
    (2 : ℚ) ^ (-1075 : Int) ≤ digits * 10 ^ exponent := h
    _ < 2 * 10 ^ (decimalSize digits + 1) * 10 ^ exponent := mul_lt_mul_of_pos_right hdigits hten
    _ = 2 * 10 ^ (exponent + decimalSize digits + 1) := by
      rw [add_assoc, zpow_add₀ (by norm_num), ← Nat.cast_add_one, zpow_natCast]
      ring
    _ ≤ 2 * 10 ^ (-330 : Int) := by
      refine mul_le_mul_of_nonneg_left ?_ (by norm_num)
      exact zpow_le_zpow_right₀ (by norm_num) (by omega)
    _ ≤ 2 ^ (-1075 : Int) := hpowers

/-- A decimal within the range of numbers is rounded as it stands. -/
theorem ofDecimal_eq (hexponent : -1074 ≤ exponent)
    (hlow : (2 : ℚ) ^ (-1075 : Int) ≤ digits * 10 ^ exponent)
    (hhigh : (digits : ℚ) * 10 ^ exponent < 2 ^ (1024 : Int)) :
    ofDecimal digits exponent = round (digits * 10 ^ exponent) := by
  have hne : digits ≠ 0 := by
    rintro rfl
    rw [Nat.cast_zero, zero_mul] at hlow
    exact absurd hlow (not_le.2 (by positivity))
  have hfew : digits ≤ 10 ^ 100000 := by
    have hdigits := digits_lt_of_lt (a := 1024) (b := 1074) hexponent hhigh
    have hpowers : 2 ^ 1024 * 10 ^ 1074 ≤ 10 ^ 100000 := by decide +kernel
    exact hdigits.le.trans hpowers
  have hupper := not_lt.2 (size_le hne hfew hhigh)
  have hlower := not_lt.2 (le_size hne hfew hlow)
  unfold decimalSize at hupper hlower
  unfold ofDecimal
  simp only [hne, hupper, hlower, if_false, tenPow_eq_zpow]

end

/-- A rational whose nearest grid point is in the range of numbers is rounded to it. -/
theorem round_of_roundMagnitude {d : ℚ} (hd : 0 < d) (hq : 0 < q) (hsmall : q < 2 ^ (1024 : Int))
    (h : roundMagnitude d.num.natAbs d.den = q) : round d = .finite q := by
  have hnegative : ¬ d < 0 := not_lt.2 hd.le
  have hlarge : ¬ twoPow 1024 ≤ q := by rwa [twoPow_eq_zpow, not_le]
  simp only [round, hd.ne', h, hlarge, hq.ne', hnegative, if_false]

namespace IsPoint

/-- What names a grid point is in the range of numbers, as the point is. -/
theorem bounds_of_readsAs (h : IsPoint q m e) (hsmall : q < 2 ^ (1024 : Int)) {d : ℚ}
    (hread : readsAs q d = true) : (2 : ℚ) ^ (-1075 : Int) ≤ d ∧ d < 2 ^ (1024 : Int) := by
  have hpower : (0 : ℚ) < 2 ^ e := by positivity
  obtain ⟨y, rfl, hnear⟩ := h.exists_isNear hread
  have hm : (1 : ℚ) ≤ m := by exact_mod_cast h.pos
  constructor
  · calc
      (2 : ℚ) ^ (-1075 : Int) ≤ 2 ^ (e - 1) :=
        zpow_le_zpow_right₀ (by norm_num) (by linarith [h.finest])
      _ = 1 / 2 * 2 ^ e := by rw [zpow_sub₀ (by norm_num), zpow_one]; ring
      _ ≤ y * 2 ^ e := mul_le_mul_of_nonneg_right (by linarith [hnear.low]) hpower.le
  · -- All 53 bits of a significand on this grid are in the range.
    have hexponent : e + 53 ≤ 1024 := by
      obtain hfinest | hfull := h.full
      · omega
      have hfull : (2 : ℚ) ^ (52 : Int) ≤ m := by exact_mod_cast hfull
      have hlt : (2 : ℚ) ^ (52 + e) < 2 ^ (1024 : Int) := by
        rw [zpow_add₀ (by norm_num)]
        exact (mul_le_mul_of_nonneg_right hfull hpower.le).trans_lt (h.value ▸ hsmall)
      have := (zpow_lt_zpow_iff_right₀ (by norm_num : (1 : ℚ) < 2)).1 hlt
      omega
    exact (hnear.scaled_lt h).trans_le (zpow_le_zpow_right₀ (by norm_num) hexponent)

/-- Digits that name a grid point in the range of numbers are read as that point. -/
theorem ofDecimal_of_readsAs (h : IsPoint q m e) (hsmall : q < 2 ^ (1024 : Int)) {digits : Nat}
    {exponent : Int} (hexponent : -1074 ≤ exponent)
    (hread : readsAs q (digits * 10 ^ exponent) = true) : ofDecimal digits exponent = .finite q := by
  obtain ⟨hlow, hhigh⟩ := h.bounds_of_readsAs hsmall hread
  obtain ⟨hd, hround⟩ := h.roundMagnitude_of_readsAs hread
  rw [ofDecimal_eq hexponent hlow hhigh]
  exact round_of_roundMagnitude hd h.isPos hsmall hround

end IsPoint

/-! ## §3 Numbers of the format -/

/-- A positive number of the format is a grid point in the range of numbers. -/
theorem exists_isPoint_of_isBinary64 (hq : 0 < q) (h : (Number.finite q).IsBinary64) :
    (∃ m e, IsPoint q m e) ∧ q < 2 ^ (1024 : Int) := by
  have hround : round q = .finite q := h
  have hnegative : ¬ q < 0 := not_lt.2 hq.le
  have hpoint := exists_isPoint hq
  simp only [round, hq.ne', hnegative, if_false, twoPow_eq_zpow] at hround
  split at hround
  · cases hround
  · next hrange =>
    split at hround
    · cases hround
      exact absurd rfl hq.ne'
    · next hzero =>
      have hself := Number.finite.inj hround
      rw [hself] at hpoint hrange
      exact ⟨hpoint.resolve_left hq.ne', not_le.1 hrange⟩

theorem neg_twice (x : Number) : x.neg.neg = x := by
  cases x with
  | nan => rfl
  | infinite n => cases n <;> rfl
  | negativeZero => rfl
  | finite q =>
    by_cases hq : q = 0
    · subst hq
      rfl
    · simp [neg, hq]

/-- Rounding keeps the sign. -/
theorem round_neg (hq : q ≠ 0) : round (-q) = (round q).neg := by
  -- For a negative rational it is the same fact about its opposite.
  wlog hpos : 0 < q generalizing q
  · have hneg : 0 < -q := neg_pos.2 (lt_of_le_of_ne (not_lt.1 hpos) hq)
    have h := this hneg.ne' hneg
    rw [neg_neg] at h
    rw [h, neg_twice]
  have hnegative : ¬ q < 0 := not_lt.2 hpos.le
  have hnegative' : -q < 0 := neg_lt_zero.2 hpos
  have hnum : (-q).num.natAbs = q.num.natAbs := by rw [Rat.neg_num, Int.natAbs_neg]
  simp only [round, hq, neg_eq_zero, hnegative, hnegative', hnum, Rat.den_neg_eq_den, if_false,
    if_true, decide_true, decide_false]
  split
  · rfl
  · split
    · rfl
    · next hzero => simp only [neg, hzero, if_false]

theorem IsBinary64.neg {x : Number} (h : x.IsBinary64) : x.neg.IsBinary64 := by
  cases x with
  | nan | infinite => exact h
  | negativeZero => rfl
  | finite q =>
    by_cases hq : q = 0
    · subst hq
      trivial
    · have hround : round q = .finite q := h
      have hneg : (Number.finite q).neg = .finite (-q) := if_neg hq
      rw [hneg]
      change round (-q) = .finite (-q)
      rw [round_neg hq, hround, hneg]

theorem IsBinary64.withSign {x : Number} (h : x.IsBinary64) (negative : Bool) :
    (withSign negative x).IsBinary64 := by
  cases negative with
  | true => exact h.neg
  | false => exact h

/-- What is rounded is a number of the format. -/
theorem isBinary64_round (q : ℚ) : (round q).IsBinary64 := by
  wlog hpos : 0 < q generalizing q
  · obtain hneg | rfl := lt_or_eq_of_le (not_lt.1 hpos)
    · have h := (this (-q) (neg_pos.2 hneg)).neg
      rwa [round_neg hneg.ne, neg_twice] at h
    · rfl
  have hnegative : ¬ q < 0 := not_lt.2 hpos.le
  have hpoint := exists_isPoint hpos
  simp only [round, hpos.ne', hnegative, if_false]
  split
  · trivial
  · next hrange =>
    split
    · rfl
    · next hzero =>
      -- The grid point that the rational was rounded to names itself.
      obtain ⟨m, e, hpoint⟩ := hpoint.resolve_left hzero
      obtain ⟨hpos, hself⟩ := hpoint.roundMagnitude_of_readsAs hpoint.readsAs_self
      rw [twoPow_eq_zpow, not_le] at hrange
      exact round_of_roundMagnitude hpos hpos hrange hself

theorem isBinary64_ofDecimal (digits : Nat) (exponent : Int) :
    (ofDecimal digits exponent).IsBinary64 ∧ ofDecimal digits exponent ≠ .nan := by
  unfold ofDecimal
  dsimp only
  split
  · exact ⟨rfl, Number.noConfusion⟩
  · split
    · exact ⟨trivial, Number.noConfusion⟩
    · split
      · exact ⟨rfl, Number.noConfusion⟩
      · exact ⟨isBinary64_round _, round_ne_nan _⟩

theorem Numeral.isBinary64_value (n : Numeral) : n.value.IsBinary64 ∧ n.value ≠ .nan :=
  isBinary64_ofDecimal _ _

theorem withSign_ne_nan {x : Number} (h : x ≠ .nan) (negative : Bool) : withSign negative x ≠ .nan := by
  intro heq
  cases negative with
  | false => exact h heq
  | true =>
    have hneg : x.neg = .nan := heq
    refine h ?_
    rw [← neg_twice x, hneg]
    rfl

/-- Every text that is read is read as a number of the format. -/
theorem isBinary64_ofPlain? {s : String} {x : Number} (h : ofPlain? s = some x) :
    x.IsBinary64 ∧ x ≠ .nan := by
  unfold ofPlain? at h
  dsimp only at h
  split at h
  · cases h
    exact ⟨trivial, Number.noConfusion⟩
  · obtain ⟨numeral, -, rfl⟩ := Option.map_eq_some_iff.1 h
    obtain ⟨hbinary, hnan⟩ := numeral.isBinary64_value
    exact ⟨hbinary.withSign _, withSign_ne_nan hnan _⟩

end MapFilter.Number
