import Mathlib.Tactic.Ring
import MapFilter.Proofs.Number.Grid

/-!
# Integers beyond the last number

The last binary64 number is `2 ^ 1024 - 2 ^ 971`. Integers that are nearer to it than to `2 ^ 1024` are
rounded to it; from the middle between the two on there is no number. The middle itself goes to the even
neighbour, which is the one that does not exist.

- `Number.lt_divToEven_iff`: when a quotient is rounded up past an odd number
- `Number.gridPoint_lt_iff`: when the grid point of an integer is below a power of two
- `Number.isFinite_ofInt_iff`: the integers that have a number
-/

namespace MapFilter.Number

/-- A quotient is rounded past an odd number from the middle to the next number on. -/
theorem lt_divToEven_iff {n d q : Nat} (hd : 0 < d) (hq : q % 2 = 1) :
    q < divToEven n d ↔ (2 * q + 1) * d ≤ 2 * n := by
  have hsplit := Nat.div_add_mod n d
  have hrest := Nat.mod_lt n hd
  have hbounds := divToEven_bounds n d
  have hmiddle : (2 * q + 1) * d = 2 * (d * q) + d := by ring
  rw [hmiddle]
  rcases Nat.lt_trichotomy (n / d) q with hlt | heq | hgt
  · -- The quotient is at least one below, and rounding adds one at most.
    have hmul : d * (n / d + 1) ≤ d * q := Nat.mul_le_mul_left d hlt
    rw [Nat.mul_add, Nat.mul_one] at hmul
    omega
  · -- What is left of the division decides, and in the middle the odd number gives way.
    rw [heq] at hsplit
    simp only [divToEven, heq, hq]
    split
    · omega
    · split
      · omega
      · simp
        omega
  · have hmul : d * (q + 1) ≤ d * (n / d) := Nat.mul_le_mul_left d hgt
    rw [Nat.mul_add, Nat.mul_one] at hmul
    omega

/-- The grid point of an integer is below a power of two if the integer is below the middle between
that and the number before. -/
theorem gridPoint_lt_iff {n : Nat} (h : 52 ≤ n.log2) (k : Nat) :
    gridPoint n < 2 ^ (54 + k) ↔ n < 2 ^ (54 + k) - 2 ^ k := by
  have hne : n ≠ 0 := by
    rintro rfl
    simp at h
  have hbelow := Nat.log2_self_le hne
  have habove := Nat.lt_log2_self (n := n)
  have hpos : 0 < 2 ^ k := Nat.two_pow_pos k
  rcases Nat.lt_trichotomy n.log2 (53 + k) with hlt | heq | hgt
  · -- Far below, both are below.
    have hpoint : gridPoint n ≤ 2 ^ (53 + k) :=
      (gridPoint_le h).trans (Nat.pow_le_pow_right (by decide) hlt)
    have hn : n < 2 ^ (53 + k) := habove.trans_le (Nat.pow_le_pow_right (by decide) hlt)
    rw [Nat.pow_add] at hpoint hn ⊢
    omega
  · -- Here the grid has steps of twice the smaller power, and its last point is odd.
    have hbits : 2 ^ gridBits n = 2 * 2 ^ k := by
      rw [gridBits, heq, ← Nat.pow_succ']
      congr 1
      omega
    have hround := lt_divToEven_iff (n := n) (q := 2 ^ 53 - 1) (Nat.two_pow_pos (gridBits n))
      (by decide)
    have hpower : 2 ^ (54 + k) = 2 ^ 53 * 2 ^ gridBits n := by
      rw [hbits, Nat.pow_add]
      omega
    have hpoint : gridPoint n < 2 ^ (54 + k) ↔ divToEven n (2 ^ gridBits n) < 2 ^ 53 := by
      rw [gridPoint, hpower, Nat.mul_lt_mul_right (Nat.two_pow_pos _)]
    rw [hpoint, hpower]
    rw [hbits] at hround ⊢
    omega
  · -- From the power of two on the grid has no point below it.
    have hpoint : 2 ^ (54 + k) ≤ gridPoint n := by
      obtain ⟨hlow, -⟩ := significand_bounds h
      calc
        2 ^ (54 + k) ≤ 2 ^ (52 + gridBits n) :=
          Nat.pow_le_pow_right (by decide) (by unfold gridBits; omega)
        _ = 2 ^ 52 * 2 ^ gridBits n := Nat.pow_add 2 52 _
        _ ≤ gridPoint n := Nat.mul_le_mul_right _ hlow
    have hn : 2 ^ (54 + k) ≤ n := (Nat.pow_le_pow_right (by decide) (by omega)).trans hbelow
    omega

/-- The middle between the last number and the power of two that would follow it. -/
def middleBeyond : Nat :=
  2 ^ 1024 - 2 ^ 970

/-- A large integer is rounded to a number if its grid point is one. -/
theorem isFinite_round_intCast {i : Int} (h : 52 ≤ i.natAbs.log2) :
    (round (i : Rat)).isFinite = true ↔ gridPoint i.natAbs < 2 ^ (54 + 970) := by
  have hne : (i : Rat) ≠ 0 := by
    intro hzero
    rw [Rat.intCast_eq_zero_iff] at hzero
    subst hzero
    simp at h
  have hnum : ((i : Rat)).num.natAbs = i.natAbs := by rw [Rat.num_intCast]
  have hden : ((i : Rat)).den = 1 := Rat.den_intCast i
  have htop : twoPow 1024 = ((2 ^ (54 + 970) : Nat) : Rat) := twoPow_natCast (54 + 970)
  simp only [round, hne, if_false, hnum, hden, roundMagnitude_one h, htop, Nat.cast_le]
  split
  · rename_i hlarge
    exact iff_of_false Bool.false_ne_true (Nat.not_lt.2 hlarge)
  · rename_i hsmall
    rw [Nat.not_le] at hsmall
    -- Whatever the sign, and even where the number is zero, it is finite.
    split
    · split <;> exact iff_of_true rfl hsmall
    · exact iff_of_true rfl hsmall

/-- The integers that have a number: those below the middle. -/
theorem isFinite_ofInt_iff {i : Int} : (ofInt i).isFinite = true ↔ i.natAbs < middleBeyond := by
  have hexponent : 1024 = 54 + 970 := rfl
  rw [middleBeyond, hexponent, ofInt]
  split
  · rename_i hsmall
    have hlarge (k : Nat) : i.natAbs < 2 ^ (54 + k) - 2 ^ k := by
      have hpos := Nat.two_pow_pos k
      rw [Nat.pow_add]
      omega
    exact iff_of_true rfl (hlarge 970)
  · rename_i hlarge
    rw [isFinite_round_intCast (le_log2 hlarge), gridPoint_lt_iff (le_log2 hlarge)]

end MapFilter.Number
