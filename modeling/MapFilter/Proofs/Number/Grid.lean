import Mathlib.Data.Nat.Log
import Mathlib.Data.Rat.Cast.Order
import MapFilter.Sql.Stored

/-!
# Numbers in order and on the grid

Finite numbers are compared like the rationals they stand for, so that "not below" and "above or
equal" are the same for them. Rounding never leads outside of the numbers.

An integer of more than 53 bits is rounded to the grid of numbers with 53 significant bits. What comes
out is a point of that grid, so that rounding it again changes nothing; integers that a database keeps
as two halves come to the same number as others.

- `Number.lt_of_isFinite`, `Number.le_of_isFinite`: comparisons as those of rationals
- `Number.not_lt_eq_le`: one comparison by the other
- `Number.gridPoint`: the grid point of a large natural number
- `Number.round_intCast`: rounding a large integer
- `Number.isFinite_ofInt`: integers of up to 128 bits have numbers
- `Sql.wideToNumber_eq`: the number of an integer without a sign
-/

namespace MapFilter.Number

/-! ## §1 Comparisons -/

/-- Finite numbers are compared like the rationals they stand for. -/
theorem lt_of_isFinite {x y : Number} (hx : x.isFinite = true) (hy : y.isFinite = true) :
    x.lt y = decide (x.toRat < y.toRat) := by
  cases x <;> cases y <;> simp_all [isFinite, lt]

theorem same_of_isFinite {x y : Number} (hx : x.isFinite = true) (hy : y.isFinite = true) :
    x.same y = (x.toRat == y.toRat) := by
  cases x <;> cases y <;> simp_all [isFinite, same]

theorem le_of_isFinite {x y : Number} (hx : x.isFinite = true) (hy : y.isFinite = true) :
    x.le y = decide (x.toRat ≤ y.toRat) := by
  rw [le, lt_of_isFinite hx hy, same_of_isFinite hx hy, Bool.eq_iff_iff]
  simp only [Bool.or_eq_true, decide_eq_true_eq, beq_iff_eq, Rat.le_iff_lt_or_eq]

/-- A finite number that is not below another is above it or equal to it. -/
theorem not_lt_eq_le {x y : Number} (hx : x.isFinite = true) (hy : y.isFinite = true) :
    (!x.lt y) = y.le x := by
  rw [lt_of_isFinite hx hy, le_of_isFinite hy hx, ← decide_not]
  simp only [Rat.not_lt]

/-! ## §2 Rounding -/

theorem round_ne_nan (q : Rat) : round q ≠ .nan := by
  unfold round
  split
  · simp
  · simp only
    split
    · simp
    · split
      · split <;> simp
      · simp

theorem ofInt_ne_nan (i : Int) : ofInt i ≠ .nan := by
  unfold ofInt
  split
  · simp
  · exact round_ne_nan i

/-! ## §3 Quotients -/

theorem divToEven_mul {m d : Nat} (hd : 0 < d) : divToEven (m * d) d = m := by
  have hrest : m * d % d = 0 := Nat.mul_mod_left m d
  have hquotient : m * d / d = m := Nat.mul_div_cancel m hd
  simp only [divToEven, hrest, hquotient]
  rw [if_pos (by omega)]

theorem divToEven_bounds (n d : Nat) : n / d ≤ divToEven n d ∧ divToEven n d ≤ n / d + 1 := by
  unfold divToEven
  dsimp only
  split
  · omega
  · split
    · omega
    · split <;> omega

/-! ## §4 Natural numbers -/

/-- The exponent of the grid around a natural number. -/
def gridBits (n : Nat) : Nat :=
  n.log2 - 52

/-- The grid point nearest to a natural number of more than 52 bits. -/
def gridPoint (n : Nat) : Nat :=
  divToEven n (2 ^ gridBits n) * 2 ^ gridBits n

variable {n : Nat}

/-- The significand has 53 bits, or is the next power of two. -/
theorem significand_bounds (h : 52 ≤ n.log2) :
    2 ^ 52 ≤ divToEven n (2 ^ gridBits n) ∧ divToEven n (2 ^ gridBits n) ≤ 2 ^ 53 := by
  have hne : n ≠ 0 := by
    rintro rfl
    simp at h
  have hlow : 2 ^ (52 + gridBits n) ≤ n := by
    have := Nat.log2_self_le hne
    rwa [show 52 + gridBits n = n.log2 by unfold gridBits; omega]
  have hhigh : n < 2 ^ (53 + gridBits n) := by
    have := Nat.lt_log2_self (n := n)
    rwa [show 53 + gridBits n = n.log2 + 1 by unfold gridBits; omega]
  have hpos : 0 < 2 ^ gridBits n := Nat.two_pow_pos _
  have hquotient : 2 ^ 52 ≤ n / 2 ^ gridBits n ∧ n / 2 ^ gridBits n < 2 ^ 53 := by
    rw [Nat.pow_add] at hlow hhigh
    exact ⟨(Nat.le_div_iff_mul_le hpos).2 hlow, (Nat.div_lt_iff_lt_mul hpos).2 hhigh⟩
  have hround := divToEven_bounds n (2 ^ gridBits n)
  omega

theorem gridPoint_mul {m k : Nat} (hlow : 2 ^ 52 ≤ m) (hhigh : m < 2 ^ 53) :
    gridPoint (m * 2 ^ k) = m * 2 ^ k := by
  have hlog : (m * 2 ^ k).log2 = 52 + k := by
    have hpos : 0 < m * 2 ^ k := Nat.mul_pos (by omega) (Nat.two_pow_pos k)
    rw [Nat.log2_eq_iff hpos.ne', Nat.pow_add, Nat.add_right_comm, Nat.pow_add]
    constructor
    · exact Nat.mul_le_mul_right _ hlow
    · exact Nat.mul_lt_mul_of_pos_right hhigh (Nat.two_pow_pos k)
  have hbits : gridBits (m * 2 ^ k) = k := by
    rw [gridBits, hlog]
    omega
  rw [gridPoint, hbits, divToEven_mul (Nat.two_pow_pos k)]

/-- A grid point is its own grid point. -/
theorem gridPoint_gridPoint (h : 52 ≤ n.log2) : gridPoint (gridPoint n) = gridPoint n := by
  obtain ⟨hlow, hhigh⟩ := significand_bounds h
  obtain hlt | heq := Nat.lt_or_eq_of_le hhigh
  · exact gridPoint_mul hlow hlt
  · -- The next power of two has a significand of 53 bits on the next grid.
    have hnext : gridPoint n = 2 ^ 52 * 2 ^ (gridBits n + 1) := by
      rw [gridPoint, heq, Nat.pow_succ]
      omega
    rw [hnext]
    exact gridPoint_mul (Nat.le_refl _) (by decide)

theorem le_gridPoint (h : 52 ≤ n.log2) : 52 ≤ (gridPoint n).log2 := by
  obtain ⟨hlow, -⟩ := significand_bounds h
  have hle : 2 ^ 52 ≤ gridPoint n := hlow.trans (Nat.le_mul_of_pos_right _ (Nat.two_pow_pos _))
  exact (Nat.le_log2 (by omega)).2 hle

theorem gridPoint_le (h : 52 ≤ n.log2) : gridPoint n ≤ 2 ^ (n.log2 + 1) := by
  obtain ⟨-, hhigh⟩ := significand_bounds h
  calc
    gridPoint n ≤ 2 ^ 53 * 2 ^ gridBits n := Nat.mul_le_mul_right _ hhigh
    _ = 2 ^ (n.log2 + 1) := by
      rw [← Nat.pow_add]
      congr 1
      unfold gridBits
      omega

/-! ## §5 Rounding -/

theorem gridExponent_one (h : 52 ≤ n.log2) : gridExponent n 1 = gridBits n := by
  have hne : n ≠ 0 := by
    rintro rfl
    simp at h
  have hexponent : (n.log2 : Int) - ((1 : Nat).log2 : Int) - 52 = gridBits n := by
    rw [gridBits, show (1 : Nat).log2 = 0 from rfl]
    omega
  have hbelow : ¬ n < 2 ^ (gridBits n + 52) := by
    have := Nat.log2_self_le hne
    rw [show gridBits n + 52 = n.log2 by unfold gridBits; omega]
    omega
  have hzero : (-(gridBits n : Int)).toNat = 0 := by omega
  simp only [gridExponent, hexponent, hzero, Int.toNat_natCast, Nat.shiftLeft_zero,
    Nat.one_shiftLeft, hbelow, if_false]
  omega

theorem twoPow_natCast (k : Nat) : twoPow k = ((2 ^ k : Nat) : Rat) := by
  rw [twoPow, if_pos (Int.natCast_nonneg k), Int.toNat_natCast, Nat.one_shiftLeft]

theorem not_twoPow_le {j k m : Nat} (hm : m ≤ 2 ^ j) (h : j < k) : ¬ twoPow k ≤ (m : Rat) := by
  rw [twoPow_natCast, Nat.cast_le, Nat.not_le]
  exact Nat.lt_of_le_of_lt hm (Nat.pow_lt_pow_right Nat.one_lt_two h)

theorem roundMagnitude_one (h : 52 ≤ n.log2) : roundMagnitude n 1 = (gridPoint n : Nat) := by
  have hzero : (-(gridBits n : Int)).toNat = 0 := by omega
  simp only [roundMagnitude, gridExponent_one h, twoPow_natCast, hzero, Int.toNat_natCast,
    Nat.shiftLeft_zero, Nat.one_shiftLeft, gridPoint, Nat.cast_mul]

/-- An integer of more than 52 bits, and not of very many, is rounded to its grid point. -/
theorem round_intCast {i : Int} (hlow : 52 ≤ i.natAbs.log2) (hhigh : i.natAbs.log2 < 1000) :
    round (i : Rat) =
      .finite (if (i : Rat) < 0 then -((gridPoint i.natAbs : Nat) : Rat) else gridPoint i.natAbs) := by
  have hne : (i : Rat) ≠ 0 := by
    intro hzero
    rw [Rat.intCast_eq_zero_iff] at hzero
    subst hzero
    simp at hlow
  have hpos : gridPoint i.natAbs ≠ 0 := by
    intro hzero
    have := le_gridPoint hlow
    rw [hzero] at this
    simp at this
  have hsize : ¬ twoPow 1024 ≤ ((gridPoint i.natAbs : Nat) : Rat) := by
    have hexponent : i.natAbs.log2 + 1 < 1024 := by omega
    exact not_twoPow_le (gridPoint_le hlow) hexponent
  have hnum : ((i : Rat)).num.natAbs = i.natAbs := by rw [Rat.num_intCast]
  have hden : ((i : Rat)).den = 1 := Rat.den_intCast i
  simp only [round, hne, if_false, hnum, hden, roundMagnitude_one hlow, hsize, Nat.cast_eq_zero,
    hpos]

/-! ## §6 Integers -/

theorem le_log2 {i : Int} (h : ¬ i.natAbs ≤ 0x20000000000000) : 52 ≤ i.natAbs.log2 :=
  (Nat.le_log2 (by omega)).2 (by omega)

/-- Integers of up to 128 bits have finite numbers. -/
theorem isFinite_ofInt {i : Int} (h : i.natAbs < 2 ^ 129) : (ofInt i).isFinite = true := by
  unfold ofInt
  split
  · rfl
  · next hlarge =>
    have hlog : i.natAbs.log2 < 129 := (Nat.log2_lt (by omega)).2 h
    rw [round_intCast (le_log2 hlarge) (by omega)]
    rfl

/-- Adding zero changes nothing, since the number is a grid point. -/
theorem ofInt_add_zero {i : Int} (hlow : 0x20000000000000 < i) (hhigh : i < 2 ^ 128) :
    (ofInt i).add (.finite 0) = ofInt i := by
  have hlarge : ¬ i.natAbs ≤ 0x20000000000000 := by omega
  have hlog : i.natAbs.log2 < 128 := (Nat.log2_lt (by omega)).2 (by omega)
  have hpoint := gridPoint_le (le_log2 hlarge)
  have hnonneg : ¬ (i : Rat) < 0 := by
    rw [not_lt]
    exact_mod_cast (by omega : (0 : Int) ≤ i)
  have hround : ofInt i = .finite ((gridPoint i.natAbs : Nat) : Rat) := by
    rw [ofInt, if_neg hlarge, round_intCast (le_log2 hlarge) (by omega), if_neg hnonneg]
  have hagain : round ((gridPoint i.natAbs : Nat) : Rat) =
      .finite ((gridPoint i.natAbs : Nat) : Rat) := by
    have hlow := le_gridPoint (le_log2 hlarge)
    have hsize : (gridPoint i.natAbs).log2 < 130 := by
      have hne : gridPoint i.natAbs ≠ 0 := by
        intro hzero
        rw [hzero] at hlow
        simp at hlow
      rw [Nat.log2_lt hne]
      calc
        gridPoint i.natAbs ≤ 2 ^ (i.natAbs.log2 + 1) := hpoint
        _ < 2 ^ 130 := Nat.pow_lt_pow_right (by omega) (by omega)
    have hcast := round_intCast (i := (gridPoint i.natAbs : Nat)) (by simpa using hlow)
      (by rw [Int.natAbs_natCast]; omega)
    rw [Int.natAbs_natCast, gridPoint_gridPoint (le_log2 hlarge), if_neg] at hcast
    · exact_mod_cast hcast
    · rw [not_lt]
      exact_mod_cast Nat.zero_le _
  rw [hround]
  simp only [add, toRat, add_zero, hagain]

end MapFilter.Number

namespace MapFilter.Sql

/-- An integer without a sign is rounded like any other, although its halves are rounded first. -/
theorem wideToNumber_eq {i : Int} (hlow : 0x8000000000000000 ≤ i) (hhigh : i < 0x10000000000000000) :
    wideToNumber i = Number.ofInt i := by
  have hupper : i / 0x10000000000000000 = 0 := by omega
  have hlower : i % 0x10000000000000000 = i := by omega
  have hzero : Number.round ((Number.ofInt 0).toRat * ((0x10000000000000000 : Int) : Rat)) =
      .finite 0 := by
    rw [show (Number.ofInt 0).toRat = 0 from rfl, zero_mul]
    rfl
  simp only [wideToNumber, hupper, hlower, hzero]
  rw [if_neg (by decide)]
  exact Number.ofInt_add_zero (by omega) (by omega)

end MapFilter.Sql
