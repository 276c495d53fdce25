import Mathlib.Algebra.Order.Field.Basic
import Mathlib.Algebra.Order.Field.Power
import Mathlib.Data.Nat.Log
import Mathlib.Tactic.FieldSimp
import Mathlib.Tactic.Linarith
import Mathlib.Tactic.NormNum
import Mathlib.Tactic.Positivity
import Mathlib.Tactic.Ring
import MapFilter.Number.Written
import MapFilter.Proofs.Number.Whole

/-!
# Decimals that name a number

Around every grid point lie the reals of which it is the nearest point, the two ends among them if its
significand is even. A number is written with the digits of such a real, so that rounding what was
written leads back to the number.

- `Number.IsNearest`, `Number.IsScale`: the natural number and the grid that rounding chooses
- `Number.roundMagnitude_eq`: rounding in terms of the two
- `Number.IsPoint`, `Number.IsNear`: grid points by significand and exponent, and the reals around them
- `Number.IsPoint.roundMagnitude_of_readsAs`: what names a grid point is rounded to it
-/

namespace MapFilter.Number

/-! ## §1 Powers -/

theorem twoPow_eq_zpow (e : Int) : twoPow e = (2 : ℚ) ^ e := by
  unfold twoPow
  split
  · next h =>
    obtain ⟨n, rfl⟩ := Int.eq_ofNat_of_zero_le h
    simp [Nat.one_shiftLeft]
  · next h =>
    obtain ⟨n, hn⟩ := Int.eq_ofNat_of_zero_le (a := -e) (by omega)
    obtain rfl : e = -(n : Int) := by omega
    simp [Nat.one_shiftLeft, Rat.mkRat_eq_div]

theorem tenPow_eq_zpow (e : Int) : tenPow e = (10 : ℚ) ^ e := by
  unfold tenPow
  split
  · next h =>
    obtain ⟨n, rfl⟩ := Int.eq_ofNat_of_zero_le h
    simp
  · next h =>
    obtain ⟨n, hn⟩ := Int.eq_ofNat_of_zero_le (a := -e) (by omega)
    obtain rfl : e = -(n : Int) := by omega
    simp [Rat.mkRat_eq_div]

/-! ## §2 The nearest natural number -/

/-- The natural number is nearest to the rational, and even if another one is equally near. -/
def IsNearest (y : ℚ) (k : Nat) : Prop :=
  |y - k| ≤ 1 / 2 ∧ (|y - k| = 1 / 2 → k % 2 = 0)

theorem IsNearest.unique {y : ℚ} {k k' : Nat} (h : IsNearest y k) (h' : IsNearest y k') : k = k' := by
  by_contra hne
  wlog hlt : k < k' generalizing k k'
  · exact this h' h (Ne.symm hne) (by omega)
  -- Two different ones are one apart, with the rational in the middle.
  have hstep : (k : ℚ) + 1 ≤ k' := by exact_mod_cast hlt
  obtain ⟨-, hhigh⟩ := abs_le.1 h.1
  obtain ⟨hlow, -⟩ := abs_le.1 h'.1
  have hk : y - k = 1 / 2 := by linarith
  have hk' : y - k' = -(1 / 2) := by linarith
  have heven := h.2 (by rw [hk]; norm_num)
  have heven' := h'.2 (by rw [hk']; norm_num)
  have hnext : k' = k + 1 := by
    have : (k' : ℚ) = k + 1 := by linarith
    exact_mod_cast this
  omega

namespace IsNearest

variable {k : Nat} {r : ℚ}

theorem below (hnonneg : 0 ≤ r) (h : r < 1 / 2) : IsNearest (k + r) k := by
  have hdown : (k : ℚ) + r - k = r := by ring
  rw [IsNearest, hdown, abs_of_nonneg hnonneg]
  exact ⟨h.le, fun htie => absurd htie h.ne⟩

theorem above (h : 1 / 2 < r) (hlt : r < 1) : IsNearest (k + r) (k + 1) := by
  have hup : (k : ℚ) + r - (k + 1 : Nat) = -(1 - r) := by push_cast; ring
  rw [IsNearest, hup, abs_neg, abs_of_nonneg (by linarith)]
  refine ⟨by linarith, fun htie => ?_⟩
  linarith

/-- In the middle the even neighbour is taken. -/
theorem middle : IsNearest (k + 1 / 2) (if k % 2 == 0 then k else k + 1) := by
  have hdown : (k : ℚ) + 1 / 2 - k = 1 / 2 := by ring
  have hup : (k : ℚ) + 1 / 2 - (k + 1 : Nat) = -(1 / 2) := by push_cast; ring
  have habs : |(1 / 2 : ℚ)| = 1 / 2 := abs_of_nonneg (by norm_num)
  split
  · next heven =>
    rw [IsNearest, hdown, habs]
    exact ⟨le_refl _, fun _ => beq_iff_eq.1 heven⟩
  · next hodd =>
    have hodd : k % 2 ≠ 0 := fun h => hodd (beq_iff_eq.2 h)
    rw [IsNearest, hup, abs_neg, habs]
    exact ⟨le_refl _, fun _ => by omega⟩

end IsNearest

theorem isNearest_divToEven {n d : Nat} (hd : 0 < d) : IsNearest ((n : ℚ) / d) (divToEven n d) := by
  have hpos : (0 : ℚ) < d := by exact_mod_cast hd
  obtain ⟨r, hr⟩ : ∃ r, r = ((n % d : Nat) : ℚ) / d := ⟨_, rfl⟩
  have hsplit : (n : ℚ) / d = (n / d : Nat) + r := by
    have hn : (n : ℚ) = d * (n / d : Nat) + (n % d : Nat) := by
      exact_mod_cast (Nat.div_add_mod n d).symm
    rw [hn, hr]
    field_simp
  have hnonneg : 0 ≤ r := hr ▸ by positivity
  have hlt : r < 1 := by
    rw [hr, div_lt_one hpos]
    exact_mod_cast Nat.mod_lt n hd
  -- What is left of the division, against one half.
  have hdouble : 2 * r * d = (2 * (n % d) : Nat) := by
    rw [hr]
    push_cast
    field_simp
  have hlow : 2 * (n % d) < d ↔ r < 1 / 2 := by
    rw [← Nat.cast_lt (α := ℚ), ← hdouble, mul_lt_iff_lt_one_left hpos, lt_div_iff₀' two_pos]
  have hhigh : d < 2 * (n % d) ↔ 1 / 2 < r := by
    rw [← Nat.cast_lt (α := ℚ), ← hdouble, lt_mul_iff_one_lt_left hpos, div_lt_iff₀' two_pos]
  unfold divToEven
  dsimp only
  rw [hsplit, if_congr hlow rfl rfl, if_congr hhigh rfl rfl]
  split
  · next h => exact .below hnonneg h
  · next hnotLow =>
    split
    · next h => exact .above h hlt
    · next hnotHigh =>
      have hmiddle : r = 1 / 2 := le_antisymm (not_lt.1 hnotHigh) (not_lt.1 hnotLow)
      rw [hmiddle]
      exact .middle

/-! ## §3 The grid around a rational -/

/-- The exponent of the grid around a positive rational: 53 bits reach beyond it, and 52 do not, unless
the grid is the finest one. -/
structure IsScale (x : ℚ) (e : Int) : Prop where
  finest : -1074 ≤ e
  below : x < 2 ^ (e + 53)
  above : e = -1074 ∨ (2 : ℚ) ^ (e + 52) ≤ x

theorem IsScale.unique {x : ℚ} {e e' : Int} (h : IsScale x e) (h' : IsScale x e') : e = e' := by
  by_contra hne
  wlog hlt : e < e' generalizing e e'
  · exact this h' h (Ne.symm hne) (by omega)
  obtain heq | habove := h'.above
  · have := h.finest
    omega
  · have hpower : (2 : ℚ) ^ (e + 53) ≤ 2 ^ (e' + 52) :=
      zpow_le_zpow_right₀ (by norm_num) (by omega)
    linarith [h.below]

/-- A quotient against a power of two, without fractions. -/
theorem div_lt_twoPow_iff {n d a b : Nat} {e : Int} (hd : 0 < d) (he : e = b - a) :
    n * 2 ^ a < d * 2 ^ b ↔ (n : ℚ) / d < 2 ^ e := by
  have hpos : (0 : ℚ) < d := by exact_mod_cast hd
  rw [he, zpow_sub₀ (by norm_num), zpow_natCast, zpow_natCast,
    div_lt_div_iff₀ hpos (by positivity), mul_comm ((2 : ℚ) ^ b)]
  exact_mod_cast Iff.rfl

theorem isScale_gridExponent {n d : Nat} (hn : 0 < n) (hd : 0 < d) :
    IsScale ((n : ℚ) / d) (gridExponent n d) := by
  have hlow : ¬ (n : ℚ) / d < 2 ^ ((n.log2 : Int) - (d.log2 + 1 : Nat)) := by
    rw [← div_lt_twoPow_iff hd rfl, Nat.not_lt, mul_comm d]
    exact Nat.mul_le_mul (Nat.log2_self_le hn.ne') Nat.lt_log2_self.le
  have hhigh : (n : ℚ) / d < 2 ^ (((n.log2 + 1 : Nat) : Int) - d.log2) := by
    rw [← div_lt_twoPow_iff hd rfl, mul_comm d]
    exact Nat.mul_lt_mul_of_lt_of_le Nat.lt_log2_self (Nat.log2_self_le hd.ne') hd
  rw [not_lt] at hlow
  -- The quotient of the leading bits is right, or one too large.
  have hbelow : n <<< (-((n.log2 : Int) - d.log2 - 52)).toNat <
        d <<< (((n.log2 : Int) - d.log2 - 52).toNat + 52) ↔
      (n : ℚ) / d < 2 ^ ((n.log2 : Int) - d.log2) := by
    rw [Nat.shiftLeft_eq, Nat.shiftLeft_eq]
    exact div_lt_twoPow_iff hd (by omega)
  have hmax {e : Int} (hupper : (n : ℚ) / d < 2 ^ (e + 53)) (hlower : (2 : ℚ) ^ (e + 52) ≤ (n : ℚ) / d) :
      IsScale ((n : ℚ) / d) (max (-1074) e) := by
    refine ⟨le_max_left _ _, hupper.trans_le ?_, ?_⟩
    · exact zpow_le_zpow_right₀ (by norm_num) (by omega)
    · obtain h | h := max_choice (-1074) e
      · exact .inl h
      · exact .inr (h.symm ▸ hlower)
  unfold gridExponent
  dsimp only
  rw [if_congr hbelow rfl rfl]
  split
  · next h =>
    refine hmax ?_ ?_
    · rwa [show (n.log2 : Int) - d.log2 - 52 - 1 + 53 = n.log2 - d.log2 by omega]
    · rwa [show (n.log2 : Int) - d.log2 - 52 - 1 + 52 = n.log2 - (d.log2 + 1 : Nat) by omega]
  · next h =>
    refine hmax ?_ ?_
    · rwa [show (n.log2 : Int) - d.log2 - 52 + 53 = (n.log2 + 1 : Nat) - d.log2 by omega]
    · rw [show (n.log2 : Int) - d.log2 - 52 + 52 = n.log2 - d.log2 by omega]
      exact not_lt.1 h

/-- Rounding takes the nearest natural number on the grid around the quotient. -/
theorem roundMagnitude_eq {n d k : Nat} {e : Int} (hn : 0 < n) (hd : 0 < d)
    (he : IsScale ((n : ℚ) / d) e) (hk : IsNearest ((n : ℚ) / d / 2 ^ e) k) :
    roundMagnitude n d = k * (2 : ℚ) ^ e := by
  obtain rfl := (isScale_gridExponent hn hd).unique he
  have hquotient : ((n <<< (-gridExponent n d).toNat : Nat) : ℚ) /
      (d <<< (gridExponent n d).toNat : Nat) = (n : ℚ) / d / 2 ^ gridExponent n d := by
    have hexponent : gridExponent n d =
        (gridExponent n d).toNat - ((-gridExponent n d).toNat : Int) := by omega
    conv_rhs => rw [hexponent, zpow_sub₀ (by norm_num), zpow_natCast, zpow_natCast]
    have hpos : (d : ℚ) ≠ 0 := by exact_mod_cast hd.ne'
    rw [Nat.shiftLeft_eq, Nat.shiftLeft_eq]
    push_cast
    field_simp
  have hdenominator : 0 < d <<< (gridExponent n d).toNat := by
    rw [Nat.shiftLeft_eq]
    exact Nat.mul_pos hd (Nat.two_pow_pos _)
  have hnearest := isNearest_divToEven (n := n <<< (-gridExponent n d).toNat) hdenominator
  rw [hquotient] at hnearest
  rw [roundMagnitude, hnearest.unique hk, twoPow_eq_zpow]

theorem num_div_den {x : ℚ} (hx : 0 < x) : (x.num.natAbs : ℚ) / x.den = x := by
  rw [Nat.cast_natAbs, abs_of_nonneg (Rat.num_nonneg.2 hx.le), Rat.num_div_den]

theorem roundMagnitude_rat {x : ℚ} {k : Nat} {e : Int} (hx : 0 < x) (he : IsScale x e)
    (hk : IsNearest (x / 2 ^ e) k) : roundMagnitude x.num.natAbs x.den = k * (2 : ℚ) ^ e := by
  rw [← num_div_den hx] at he hk
  exact roundMagnitude_eq (Int.natAbs_pos.2 (Rat.num_pos.2 hx).ne') x.den_pos he hk

theorem isScale_rat {x : ℚ} (hx : 0 < x) : IsScale x (gridExponent x.num.natAbs x.den) := by
  have h := isScale_gridExponent (Int.natAbs_pos.2 (Rat.num_pos.2 hx).ne') x.den_pos
  rwa [num_div_den hx] at h

theorem exists_isNearest {y : ℚ} (hy : 0 < y) : ∃ k, IsNearest y k :=
  ⟨_, num_div_den hy ▸ isNearest_divToEven y.den_pos⟩

/-! ## §4 Grid points -/

/-- A positive point of the grid, with its significand of 53 bits and its exponent. -/
structure IsPoint (q : ℚ) (m : Nat) (e : Int) : Prop where
  value : q = m * 2 ^ e
  pos : 0 < m
  bits : m < 2 ^ 53
  finest : -1074 ≤ e
  full : e = -1074 ∨ 2 ^ 52 ≤ m

namespace IsPoint

variable {q d : ℚ} {m : Nat} {e : Int}

theorem isPos (h : IsPoint q m e) : 0 < q := by
  have hm : (0 : ℚ) < m := by exact_mod_cast h.pos
  rw [h.value]
  positivity

/-- A grid point is on the grid around it. -/
theorem isScale (h : IsPoint q m e) : IsScale q e := by
  have hpower : (0 : ℚ) < 2 ^ e := by positivity
  refine ⟨h.finest, ?_, h.full.imp_right fun hfull => ?_⟩
  · have hbits : (m : ℚ) < 2 ^ 53 := by exact_mod_cast h.bits
    rw [h.value, zpow_add₀ (by norm_num), mul_comm]
    exact mul_lt_mul_of_pos_left (by exact_mod_cast hbits) hpower
  · have hfull : (2 : ℚ) ^ 52 ≤ m := by exact_mod_cast hfull
    rw [h.value, zpow_add₀ (by norm_num), mul_comm]
    exact mul_le_mul_of_nonneg_right (by exact_mod_cast hfull) hpower.le

end IsPoint

/-- What a positive rational is rounded to is zero or a grid point. -/
theorem exists_isPoint {x : ℚ} (hx : 0 < x) :
    roundMagnitude x.num.natAbs x.den = 0 ∨
      ∃ m e, IsPoint (roundMagnitude x.num.natAbs x.den) m e := by
  have he := isScale_rat hx
  generalize gridExponent x.num.natAbs x.den = e at he
  have hpower : (0 : ℚ) < 2 ^ e := by positivity
  obtain ⟨k, hk⟩ := exists_isNearest (div_pos hx hpower)
  have hround := roundMagnitude_rat hx he hk
  obtain ⟨hlow, hhigh⟩ := abs_le.1 hk.1
  have hk53 : k ≤ 2 ^ 53 := by
    have hbelow : x / 2 ^ e < 2 ^ 53 := by
      rw [div_lt_iff₀ hpower, ← zpow_natCast, ← zpow_add₀ (by norm_num)]
      simpa [add_comm] using he.below
    have : (k : ℚ) < 2 ^ 53 + 1 := by linarith
    have : k < 2 ^ 53 + 1 := by exact_mod_cast this
    omega
  have hk52 : e = -1074 ∨ 2 ^ 52 ≤ k := by
    refine he.above.imp_right fun habove => ?_
    have habove : (2 : ℚ) ^ 52 ≤ x / 2 ^ e := by
      rw [le_div_iff₀ hpower, ← zpow_natCast, ← zpow_add₀ (by norm_num)]
      simpa [add_comm] using habove
    have : (2 : ℚ) ^ 52 < k + 1 := by linarith
    have : 2 ^ 52 < k + 1 := by exact_mod_cast this
    omega
  rw [hround]
  obtain rfl | hpos := Nat.eq_zero_or_pos k
  · exact .inl (by simp)
  right
  obtain hlt | rfl := Nat.lt_or_eq_of_le hk53
  · exact ⟨k, e, rfl, hpos, hlt, he.finest, hk52⟩
  · -- The next power of two has 53 bits on the next grid.
    refine ⟨2 ^ 52, e + 1, ?_, by norm_num, by norm_num, by linarith [he.finest], .inr (le_refl _)⟩
    rw [zpow_add₀ (by norm_num)]
    push_cast
    ring

/-! ## §5 Names of grid points -/

namespace IsPoint

variable {q d : ℚ} {m : Nat} {e : Int}

/-- Just below a power of two that is not on the finest grid, the points lie twice as close. -/
def IsNarrow (m : Nat) (e : Int) : Prop :=
  m = 2 ^ 52 ∧ -1074 < e

instance (m : Nat) (e : Int) : Decidable (IsNarrow m e) :=
  inferInstanceAs (Decidable (m = 2 ^ 52 ∧ -1074 < e))

theorem IsNarrow.even (h : IsNarrow m e) : m % 2 = 0 := by
  rw [h.1]
  norm_num

/-- The decimals that name a grid point, measured by the distance of its grid. -/
theorem readsAs_iff (h : IsPoint q m e) {y : ℚ} :
    readsAs q (y * 2 ^ e) = true ↔
      if m % 2 = 0 then (if IsNarrow m e then (m : ℚ) - 1 / 4 else m - 1 / 2) ≤ y ∧ y ≤ m + 1 / 2
      else (m : ℚ) - 1 / 2 < y ∧ y < m + 1 / 2 := by
  have hpower : (0 : ℚ) < 2 ^ e := by positivity
  have hscale : gridExponent q.num.natAbs q.den = e := (isScale_rat h.isPos).unique h.isScale
  have hfloor : (q / 2 ^ e).floor = m := by
    rw [h.value, mul_div_cancel_right₀ _ hpower.ne']
    simpa using Rat.floor_intCast (m : Int)
  have hnarrow : ((m : Int) == leadingBit && decide (-1074 < e)) = decide (IsNarrow m e) := by
    have hbit : ((m : Int) == leadingBit) = decide (m = 2 ^ 52) := by
      rw [Bool.eq_iff_iff, beq_iff_eq, decide_eq_true_eq]
      exact Int.ofNat_inj
    rw [hbit, ← Bool.decide_and]
    rfl
  have heven : ((m : Int) % 2 == 0) = decide (m % 2 = 0) := by
    rw [Bool.eq_iff_iff, beq_iff_eq, decide_eq_true_eq]
    omega
  have hlow (c : ℚ) : q - 2 ^ e * c ≤ y * 2 ^ e ↔ m - c ≤ y := by
    rw [h.value, mul_comm _ c, ← sub_mul, mul_le_mul_iff_of_pos_right hpower]
  have hhigh (c : ℚ) : y * 2 ^ e ≤ q + 2 ^ e * c ↔ y ≤ m + c := by
    rw [h.value, mul_comm _ c, ← add_mul, mul_le_mul_iff_of_pos_right hpower]
  have hlow' (c : ℚ) : q - 2 ^ e * c < y * 2 ^ e ↔ m - c < y := by
    rw [h.value, mul_comm _ c, ← sub_mul, mul_lt_mul_iff_of_pos_right hpower]
  have hhigh' (c : ℚ) : y * 2 ^ e < q + 2 ^ e * c ↔ y < m + c := by
    rw [h.value, mul_comm _ c, ← add_mul, mul_lt_mul_iff_of_pos_right hpower]
  have hquarter : (2 : ℚ) ^ e / 4 = 2 ^ e * (1 / 4) := by ring
  have hhalf : (2 : ℚ) ^ e / 2 = 2 ^ e * (1 / 2) := by ring
  simp only [readsAs, hscale, twoPow_eq_zpow, hfloor, hnarrow, heven, hquarter, hhalf,
    decide_eq_true_eq]
  by_cases hm : m % 2 = 0
  · simp only [hm, if_true, Bool.and_eq_true, decide_eq_true_eq, hhigh]
    split
    · rw [hlow]
    · rw [hlow]
  · have hwide : ¬ IsNarrow m e := fun hnarrow => hm hnarrow.even
    simp only [hm, hwide, if_false, Bool.and_eq_true, decide_eq_true_eq, hhigh', hlow']

end IsPoint

/-- How near to a significand the decimals are that name its grid point: half a step, less than that if
the significand is odd, and a quarter below a power of two. -/
structure IsNear (m : Nat) (e : Int) (y : ℚ) : Prop where
  low : (m : ℚ) - 1 / 2 ≤ y
  high : y ≤ m + 1 / 2
  odd : m % 2 = 1 → (m : ℚ) - 1 / 2 < y ∧ y < m + 1 / 2
  narrow : IsPoint.IsNarrow m e → (m : ℚ) - 1 / 4 ≤ y

namespace IsNear

variable {y : ℚ} {m : Nat} {e : Int}

theorem isNearest (h : IsNear m e y) : IsNearest y m := by
  refine ⟨abs_le.2 ⟨by linarith [h.low], by linarith [h.high]⟩, fun htie => ?_⟩
  by_contra hne
  obtain ⟨hlow, hhigh⟩ := h.odd (by omega)
  have := abs_lt.2 (⟨by linarith, by linarith⟩ : -(1 / 2) < y - m ∧ y - m < 1 / 2)
  linarith

/-- Below the power of two the grid is finer by one bit. -/
theorem isNearest_double (h : IsNear m e y) (hnarrow : IsPoint.IsNarrow m e) (hless : y < m) :
    IsNearest (2 * y) (2 ^ 53) := by
  have hm : (m : ℚ) = 2 ^ 52 := by exact_mod_cast hnarrow.1
  have hclose := h.narrow hnarrow
  rw [hm] at hclose hless
  refine ⟨?_, fun _ => by norm_num⟩
  push_cast
  rw [abs_le]
  constructor <;> linarith

variable {q : ℚ}

theorem scaled_lt (hpoint : IsPoint q m e) (h : IsNear m e y) : y * 2 ^ e < 2 ^ (e + 53) := by
  have hpower : (0 : ℚ) < 2 ^ e := by positivity
  have hbits : (m : ℚ) + 1 ≤ 2 ^ 53 := by exact_mod_cast hpoint.bits
  rw [zpow_add₀ (by norm_num), mul_comm]
  refine mul_lt_mul_of_pos_left ?_ hpower
  have := h.high
  norm_num at hbits ⊢
  linarith

theorem isScale_double (h : IsNear m e y) (hnarrow : IsPoint.IsNarrow m e) (hless : y < m) :
    IsScale (y * 2 ^ e) (e - 1) := by
  have hpower : (0 : ℚ) < 2 ^ e := by positivity
  have hm : (m : ℚ) = 4503599627370496 := by exact_mod_cast hnarrow.1
  have hlow := h.low
  refine ⟨by linarith [hnarrow.2], ?_, .inr ?_⟩
  · rw [show e - 1 + 53 = e + 52 by ring, zpow_add₀ (by norm_num), mul_comm]
    refine mul_lt_mul_of_pos_left ?_ hpower
    norm_num
    linarith
  · rw [show e - 1 + 52 = e + 51 by ring, zpow_add₀ (by norm_num), mul_comm y]
    refine mul_le_mul_of_nonneg_left ?_ hpower.le
    norm_num
    linarith

theorem isScale (hpoint : IsPoint q m e) (h : IsNear m e y)
    (hwide : ¬ (IsPoint.IsNarrow m e ∧ y < m)) : IsScale (y * 2 ^ e) e := by
  have hpower : (0 : ℚ) < 2 ^ e := by positivity
  refine ⟨hpoint.finest, h.scaled_lt hpoint, ?_⟩
  by_cases hfinest : e = -1074
  · exact .inl hfinest
  have hfull := hpoint.full.resolve_left hfinest
  right
  rw [zpow_add₀ (by norm_num), mul_comm y]
  refine mul_le_mul_of_nonneg_left ?_ hpower.le
  obtain heq | hlt := Nat.eq_or_lt_of_le hfull
  · have hless : ¬ y < m := fun hless =>
      hwide ⟨⟨heq.symm, lt_of_le_of_ne hpoint.finest (Ne.symm hfinest)⟩, hless⟩
    have hm : (m : ℚ) = 4503599627370496 := by exact_mod_cast heq.symm
    norm_num
    linarith
  · have hm : (4503599627370497 : ℚ) ≤ m := by exact_mod_cast hlt
    have hlow := h.low
    norm_num
    linarith

end IsNear

namespace IsPoint

variable {q d : ℚ} {m : Nat} {e : Int}

theorem exists_isNear (h : IsPoint q m e) (hread : readsAs q d = true) :
    ∃ y, d = y * 2 ^ e ∧ IsNear m e y := by
  have hpower : (0 : ℚ) < 2 ^ e := by positivity
  obtain ⟨y, rfl⟩ : ∃ y : ℚ, d = y * 2 ^ e := ⟨d / 2 ^ e, by field_simp⟩
  rw [h.readsAs_iff] at hread
  refine ⟨y, rfl, ?_⟩
  split at hread
  · next heven =>
    obtain ⟨hlow, hhigh⟩ := hread
    refine ⟨?_, hhigh, fun hodd => by omega, fun hnarrow => by simpa [hnarrow] using hlow⟩
    split at hlow <;> linarith
  · next hodd =>
    exact ⟨hread.1.le, hread.2.le, fun _ => hread, fun hnarrow => absurd hnarrow.even hodd⟩

/-- A decimal that names a grid point is rounded to it. -/
theorem roundMagnitude_of_readsAs (h : IsPoint q m e) (hread : readsAs q d = true) :
    0 < d ∧ roundMagnitude d.num.natAbs d.den = q := by
  have hpower : (0 : ℚ) < 2 ^ e := by positivity
  obtain ⟨y, rfl, hnear⟩ := h.exists_isNear hread
  have hm : (1 : ℚ) ≤ m := by exact_mod_cast h.pos
  have hy : 0 < y := by linarith [hnear.low]
  have hd : 0 < y * 2 ^ e := mul_pos hy hpower
  refine ⟨hd, ?_⟩
  by_cases hcloser : IsNarrow m e ∧ y < m
  · obtain ⟨hnarrow, hless⟩ := hcloser
    have hfiner : y * 2 ^ e / 2 ^ (e - 1) = 2 * y := by
      rw [zpow_sub₀ (by norm_num), zpow_one]
      field_simp
    rw [roundMagnitude_rat hd (hnear.isScale_double hnarrow hless)
      (hfiner.symm ▸ hnear.isNearest_double hnarrow hless), h.value, hnarrow.1,
      zpow_sub₀ (by norm_num), zpow_one]
    push_cast
    ring
  · have hquotient : y * 2 ^ e / 2 ^ e = y := mul_div_cancel_right₀ _ hpower.ne'
    rw [roundMagnitude_rat hd (hnear.isScale h hcloser) (hquotient.symm ▸ hnear.isNearest), h.value]

end IsPoint

end MapFilter.Number
