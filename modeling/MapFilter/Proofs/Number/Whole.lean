import MapFilter.Number.Reading
import MapFilter.Proofs.Number.Grid
import MapFilter.Proofs.Text.Blank

/-!
# Whole numbers

The same integer may come as an integer, as a binary64 number or as a text of digits. Up to 53 bits an
integer is a number as it stands, and beyond that it is rounded. The reader of decimals and the reader
of integers therefore come to the same number, except that only the first one tells the two zeros apart.

- `Number.round_small`, `Number.ofInt_eq_round`: integers on the grid
- `Number.ofInt_neg`: rounding keeps the sign
- `Number.IsBinary64`, `Number.ofInt_of_toInt?`: whole numbers of the format as integers
- `Number.aboveZero_congr`, `Number.clipped_of_same`: what is left above zero
- `Number.same_ofInt_of_plain`: a cell that is read as a number and as an integer
-/

namespace MapFilter.Number

/-! ## §1 Small integers -/

/-- Below 52 bits the grid is finer than the integers. -/
theorem gridExponent_small {n : Nat} (hne : n ≠ 0) (h : n.log2 < 52) :
    gridExponent n 1 = -((52 - n.log2 : Nat) : Int) := by
  have hexponent : (n.log2 : Int) - ((1 : Nat).log2 : Int) - 52 = -((52 - n.log2 : Nat) : Int) := by
    rw [show (1 : Nat).log2 = 0 from rfl]
    omega
  have hshift : (- -((52 - n.log2 : Nat) : Int)).toNat = 52 - n.log2 := by omega
  have hzero : (-((52 - n.log2 : Nat) : Int)).toNat = 0 := by omega
  have hbelow : ¬ n * 2 ^ (52 - n.log2) < 1 * 2 ^ (0 + 52) := by
    rw [Nat.not_lt, Nat.one_mul, Nat.zero_add]
    calc
      2 ^ 52 = 2 ^ n.log2 * 2 ^ (52 - n.log2) := by
        rw [← Nat.pow_add]
        congr 1
        omega
      _ ≤ n * 2 ^ (52 - n.log2) := Nat.mul_le_mul_right _ (Nat.log2_self_le hne)
  simp only [gridExponent, hexponent, hshift, hzero, Nat.shiftLeft_eq, hbelow, if_false]
  omega

/-- A natural number of up to 53 bits is rounded to itself. -/
theorem roundMagnitude_small {n : Nat} (hne : n ≠ 0) (h : n ≤ 2 ^ 53) : roundMagnitude n 1 = n := by
  by_cases hlog : n.log2 < 52
  · have hshift : (- -((52 - n.log2 : Nat) : Int)).toNat = 52 - n.log2 := by omega
    have hzero : (-((52 - n.log2 : Nat) : Int)).toNat = 0 := by omega
    have hnegative : ¬ 0 ≤ -((52 - n.log2 : Nat) : Int) := by omega
    have hexact : divToEven (n * 2 ^ (52 - n.log2)) 1 = n * 2 ^ (52 - n.log2) := by
      conv_lhs => rw [← Nat.mul_one (n * 2 ^ (52 - n.log2))]
      exact divToEven_mul Nat.one_pos
    have hpower : ((2 ^ (52 - n.log2) : Nat) : Rat) ≠ 0 :=
      Nat.cast_ne_zero.2 (Nat.two_pow_pos _).ne'
    simp only [roundMagnitude, gridExponent_small hne hlog, hshift, hzero, twoPow, hnegative, if_false,
      Nat.shiftLeft_eq, Nat.one_mul, Nat.pow_zero, hexact, Nat.cast_mul, Rat.mkRat_eq_div, Nat.cast_one,
      Int.cast_one, one_div]
    exact mul_inv_cancel_right₀ hpower _
  · have hlow : 52 ≤ n.log2 := by omega
    rw [roundMagnitude_one hlow]
    have hbits : 2 ^ 52 ≤ n := (Nat.le_log2 hne).1 hlow
    obtain hlt | heq := Nat.lt_or_eq_of_le h
    · have hpoint := gridPoint_mul (k := 0) hbits hlt
      rw [Nat.pow_zero, Nat.mul_one] at hpoint
      rw [hpoint]
    · have hpoint := gridPoint_mul (m := 2 ^ 52) (k := 1) (Nat.le_refl _) (by decide)
      rw [heq]
      exact congrArg Nat.cast hpoint

theorem round_small {i : Int} (h : i.natAbs ≤ 2 ^ 53) : round (i : Rat) = .finite i := by
  by_cases hzero : i = 0
  · subst hzero
    rfl
  have hne : (i : Rat) ≠ 0 := by rwa [Ne, Rat.intCast_eq_zero_iff]
  have habs : i.natAbs ≠ 0 := Int.natAbs_ne_zero.2 hzero
  have hsize : ¬ twoPow 1024 ≤ ((i.natAbs : Nat) : Rat) := not_twoPow_le (k := 1024) h (by decide)
  have hnum : ((i : Rat)).num.natAbs = i.natAbs := by rw [Rat.num_intCast]
  have hden : ((i : Rat)).den = 1 := Rat.den_intCast i
  simp only [round, hne, if_false, hnum, hden, roundMagnitude_small habs h, hsize, Nat.cast_eq_zero,
    habs, finite.injEq]
  split
  · next hneg =>
    have hneg : i < 0 := by exact_mod_cast hneg
    have hcast : ((i.natAbs : Nat) : Int) = -i := by omega
    rw [← Int.cast_natCast, hcast, Int.cast_neg, neg_neg]
  · next hpos =>
    have hpos : ¬ i < 0 := by exact_mod_cast hpos
    have hcast : ((i.natAbs : Nat) : Int) = i := by omega
    rw [← Int.cast_natCast, hcast]

/-- Every integer is rounded to its number. -/
theorem ofInt_eq_round (i : Int) : ofInt i = round i := by
  unfold ofInt
  split
  · next h => exact (round_small h).symm
  · rfl

/-- Rounding an integer of not very many bits keeps its sign. -/
theorem ofInt_neg {n : Nat} (hne : n ≠ 0) (h : n.log2 < 1000) :
    ofInt (-(n : Int)) = (ofInt n).neg := by
  have hnegative : ((-(n : Int) : Int) : Rat) < 0 := by
    have : -(n : Int) < 0 := by omega
    exact_mod_cast this
  have hpositive : ¬ (((n : Int)) : Rat) < 0 := by
    rw [not_lt]
    exact_mod_cast Int.natCast_nonneg n
  unfold ofInt
  rw [Int.natAbs_neg, Int.natAbs_natCast]
  split
  · have hcast : (((n : Int)) : Rat) ≠ 0 := by
      rw [Ne, Rat.intCast_eq_zero_iff]
      omega
    simp only [neg, hcast, if_false, Int.cast_neg]
  · next hlarge =>
    have hlow : 52 ≤ n.log2 := le_log2 (i := n) (by rwa [Int.natAbs_natCast])
    have hpoint : ((gridPoint n : Nat) : Rat) ≠ 0 := by
      rw [Nat.cast_ne_zero]
      intro hzero
      have := le_gridPoint hlow
      rw [hzero] at this
      simp at this
    rw [round_intCast (by rwa [Int.natAbs_neg, Int.natAbs_natCast])
        (by rwa [Int.natAbs_neg, Int.natAbs_natCast]),
      round_intCast (i := n) (by rwa [Int.natAbs_natCast]) (by rwa [Int.natAbs_natCast]),
      if_pos hnegative, if_neg hpositive, Int.natAbs_neg, Int.natAbs_natCast]
    simp only [neg, hpoint, if_false]

/-! ## §2 Numbers of the format -/

/-- The value of a number is a point of the binary64 grid: it is its own nearest point. -/
def IsBinary64 : Number → Prop
  | .finite q => round q = .finite q
  | .nan | .infinite _ | .negativeZero => True

instance : DecidablePred IsBinary64
  | .finite q => inferInstanceAs (Decidable (round q = .finite q))
  | .nan | .infinite _ | .negativeZero => .isTrue trivial

theorem same_self {x : Number} (h : x.isFinite = true) : x.same x = true := by
  rw [same_of_isFinite h h, beq_self_eq_true]

/-- A whole number of the format is the number of the integer it is equal to. -/
theorem ofInt_of_toInt? {x : Number} {i : Int} (hx : x.IsBinary64) (h : x.toInt? = some i) :
    x.same (ofInt i) = true := by
  cases x with
  | nan | infinite => cases h
  | negativeZero =>
    cases h
    rfl
  | finite q =>
    simp only [toInt?] at h
    split at h
    · next hden =>
      cases h
      have hq : ((q.num : Int) : Rat) = q := Rat.den_eq_one_iff q |>.1 hden
      rw [ofInt_eq_round, hq, show round q = .finite q from hx]
      exact same_self rfl
    · cases h

/-- The larger of zero and a number does not tell the two zeros apart. -/
theorem aboveZero_congr {x y : Number} (h : x.same y = true) : x.aboveZero = y.aboveZero := by
  cases x with
  | nan => cases h
  | infinite n =>
    cases y with
    | infinite m => rw [eq_of_beq h]
    | _ => cases h
  | negativeZero =>
    cases y with
    | nan | infinite => cases h
    | negativeZero => rfl
    | finite r =>
      have hr : 0 = r := eq_of_beq h
      rw [← hr]
      rfl
  | finite q =>
    cases y with
    | nan | infinite => cases h
    | negativeZero =>
      have hq : q = 0 := eq_of_beq h
      rw [hq]
      rfl
    | finite r => rw [show q = r from eq_of_beq h]

/-- Of a number that equals another one, clipping leaves what is above zero, or else the negative zero,
where nothing is. -/
theorem clipped_of_same {x y : Number} (h : x.same y = true) :
    y.clipped = x.aboveZero ∨ y.clipped = .negativeZero ∧ x.aboveZero = .finite 0 := by
  rw [aboveZero_congr h]
  cases y with
  | nan => cases x <;> cases h
  | infinite n => cases n <;> exact .inl rfl
  | negativeZero => exact .inr ⟨rfl, rfl⟩
  | finite q =>
    refine .inl ?_
    have hbelow : (finite q).lt (finite 0) = decide (q < 0) := rfl
    have habove : (finite 0).lt (finite q) = decide (0 < q) := rfl
    rw [clipped, aboveZero, hbelow, habove]
    obtain hneg | rfl | hpos := lt_trichotomy q 0
    · simp [hneg, hneg.not_gt]
    · rfl
    · simp [hpos, hpos.not_gt]

/-! ## §3 Digits -/

/-- Digits without an exponent stand for the number of their integer, unless they are very many. -/
theorem ofDecimal_zero {n : Nat} (h : n.log2 < 1000) : ofDecimal n 0 = ofInt n := by
  unfold ofDecimal
  split
  · next hzero =>
    subst hzero
    rfl
  · have hlow : ¬ (0 : Int) + ((n.log2 * 30103 / 100000 : Nat) : Int) < -330 := by omega
    have hhigh : ¬ 310 < (0 : Int) + ((n.log2 * 30103 / 100000 : Nat) : Int) := by omega
    have hone : tenPow 0 = 1 := rfl
    simp only [hlow, hhigh, if_false, hone, mul_one]
    rw [ofInt_eq_round, Int.cast_natCast]

theorem numeral?_digits {digit : Char → Bool} {cs : List Char} (hne : cs ≠ [])
    (h : ∀ c ∈ cs, digit c = true) : numeral? digit cs = some ⟨cs, [], 0⟩ := by
  have htake : cs.takeWhile digit = cs := List.takeWhile_eq_self_iff.2 h
  have hdrop : cs.dropWhile digit = [] := List.dropWhile_eq_nil_iff.2 h
  simp [numeral?, htake, hdrop, hne]

theorem mem_of_mem_splitSign {cs : List Char} {c : Char} (h : c ∈ (splitSign cs).2) : c ∈ cs := by
  unfold splitSign at h
  split at h
  · exact List.mem_cons_of_mem _ h
  · exact List.mem_cons_of_mem _ h
  · exact h

theorem mem_splitSign_of_digit {cs : List Char} {c : Char} (hc : isAsciiDigit c = true)
    (h : c ∈ cs) : c ∈ (splitSign cs).2 := by
  unfold splitSign
  split
  · refine (List.mem_cons.1 h).resolve_left fun heq => ?_
    rw [heq] at hc
    cases hc
  · refine (List.mem_cons.1 h).resolve_left fun heq => ?_
    rw [heq] at hc
    cases hc
  · exact h

/-- A digit has no other case. -/
theorem toLower_of_isAsciiDigit {c : Char} (hc : isAsciiDigit c = true) : c.toLower = c := by
  have hle : c.val ≤ '9'.val := (Bool.and_eq_true_iff.1 hc).2 |> of_decide_eq_true
  have hlt : ¬ 'A'.val ≤ c.val := fun h => absurd (UInt32.le_trans h hle) (by decide)
  unfold Char.toLower
  exact dif_neg fun hupper => hlt hupper.1

/-- A text with a digit in it is no word. -/
theorem ne_word_of_digit {cs : List Char} {c : Char} (hc : isAsciiDigit c = true) (h : c ∈ cs)
    (word : String) (hword : ∀ d ∈ word.toList, isAsciiDigit d = false) :
    (String.ofList (Text.lowerAscii cs) == word) = false := by
  rw [beq_eq_false_iff_ne]
  intro heq
  have hmem : c ∈ word.toList := by
    rw [← heq, String.toList_ofList, Text.lowerAscii, List.mem_map]
    exact ⟨c, h, toLower_of_isAsciiDigit hc⟩
  rw [hword c hmem] at hc
  cases hc

/-- A cell that is an integer is read as the number of its digits, with the sign it is written with. -/
theorem exists_digits_of_plainInt? {s : String} {i : Int} (h : plainInt? s = some i) :
    ∃ (negative : Bool) (n : Nat), i = (if negative then -(n : Int) else n) ∧
      ofPlain? s = some (withSign negative (ofDecimal n 0)) := by
  unfold plainInt? at h
  dsimp only at h
  split at h
  · cases h
  · next hbody =>
    simp only [Bool.or_eq_true, List.isEmpty_iff, Bool.not_eq_true', not_or, Bool.not_eq_false,
      List.all_eq_true] at hbody
    obtain ⟨hne, hdigits⟩ := hbody
    cases h
    refine ⟨_, _, rfl, ?_⟩
    obtain ⟨c, hc⟩ := List.exists_mem_of_ne_nil _ hne
    have hdigit := hdigits c hc
    -- The digits stand in the text before it is trimmed, so it is no word.
    have hmem : c ∈ (splitSign s.toList).2 := by
      apply mem_splitSign_of_digit hdigit
      obtain ⟨before, after, hs, -, -⟩ := Text.exists_around_stripChars isCellBlank s.toList
      rw [hs]
      exact List.mem_append_right _ (List.mem_append_left _ (mem_of_mem_splitSign hc))
    unfold ofPlain?
    dsimp only
    rw [ne_word_of_digit hdigit hmem "inf" (by simp [isAsciiDigit]),
      ne_word_of_digit hdigit hmem "infinity" (by simp [isAsciiDigit]), Bool.or_false, if_neg Bool.false_ne_true, numeral?_digits hne hdigits, Option.map_some]
    simp only [Numeral.value, List.append_nil, List.length_nil, Nat.cast_zero, sub_zero]

/-- A cell that is an integer of 64 bits is read as the number of that integer. Only zero may get a
sign. -/
theorem same_ofInt_of_plain {s : String} {x : Number} {i : Int} (hx : ofPlain? s = some x)
    (hi : plainInt? s = some i) (hsize : i.natAbs < 2 ^ 65) : x.same (ofInt i) = true := by
  obtain ⟨negative, n, rfl, hdigits⟩ := exists_digits_of_plainInt? hi
  rw [hx] at hdigits
  have hn : n < 2 ^ 65 := by
    cases negative with
    | false => simpa using hsize
    | true => simpa using hsize
  have hlog : n.log2 < 1000 := by
    by_cases hzero : n = 0
    · rw [hzero]
      decide
    · have := (Nat.log2_lt hzero).2 hn
      omega
  rw [Option.some.inj hdigits, ofDecimal_zero hlog]
  have hfinite (j : Int) (hj : j.natAbs = n) : (ofInt j).isFinite = true :=
    isFinite_ofInt (hj ▸ hn.trans (by decide))
  cases negative with
  | false => exact same_self (hfinite n (Int.natAbs_natCast n))
  | true =>
    by_cases hzero : n = 0
    · subst hzero
      rfl
    · rw [withSign, if_pos rfl, if_pos rfl, ← ofInt_neg hzero hlog]
      exact same_self (hfinite _ (by rw [Int.natAbs_neg, Int.natAbs_natCast]))

end MapFilter.Number
