/-!
# Numbers of the records

A number of a property record is one of the values of the binary64 format. Finite values are kept
as exact rationals, so that comparing one with an integer of any size is exact and laws about the
order need no rounding. What rounds is stated: `round` picks the nearest point of the binary64
grid, ties to even, and the arithmetic below is exact arithmetic followed by `round`.

- `Number.lt`, `Number.le`: the order, false whenever one side is not a number
- `Number.round`: the nearest grid point, an infinity beyond the last one
- `Number.toBits`: the 64-bit interchange form
-/

namespace MapFilter

/-- A binary64 value. Finite values are exact; zero has a negative twin. -/
inductive Number where
  | nan
  | infinite (negative : Bool)
  | negativeZero
  | finite (value : Rat)
deriving DecidableEq

/-- An integer that is beyond the largest binary64 number. -/
structure IntegerTooLarge where
  value : Int
deriving DecidableEq

namespace Number

instance : Inhabited Number := ⟨.finite 0⟩

/-! ## §1 Order -/

/-- Neither an infinity nor the value that is not a number. -/
def isFinite : Number → Bool
  | .nan | .infinite _ => false
  | .negativeZero | .finite _ => true

/-- The rational that a finite number stands for; zero for the others. -/
def toRat : Number → Rat
  | .finite q => q
  | .nan | .infinite _ | .negativeZero => 0

/-- Strictly below. Nothing is below, or above, the value that is not a number. -/
def lt : Number → Number → Bool
  | .nan, _ => false
  | _, .nan => false
  | .infinite n, .infinite m => n && !m
  | .infinite n, _ => n
  | _, .infinite m => !m
  | a, b => a.toRat < b.toRat

/-- Equal in value: the two zeros are equal, and a value that is not a number equals nothing. -/
def same : Number → Number → Bool
  | .nan, _ => false
  | _, .nan => false
  | .infinite n, .infinite m => n == m
  | .infinite _, _ => false
  | _, .infinite _ => false
  | a, b => a.toRat == b.toRat

/-- Below or equal in value. -/
def le (a b : Number) : Bool :=
  a.lt b || a.same b

def isZero : Number → Bool
  | .negativeZero => true
  | .finite q => q == 0
  | .nan | .infinite _ => false

def toInt? : Number → Option Int
  | .negativeZero => some 0
  | .finite q => if q.den = 1 then some q.num else none
  | .nan | .infinite _ => none

def truncated (x : Number) : Int :=
  if x.toRat < 0 then -((-x.toRat).floor) else x.toRat.floor

/-! ## §2 Rounding to the binary64 grid -/

def twoPow (e : Int) : Rat :=
  if 0 ≤ e then ((1 <<< e.toNat : Nat) : Rat) else mkRat 1 (1 <<< (-e).toNat)

/-- The quotient rounded to a natural number, a half going to the even neighbour. -/
def divToEven (num den : Nat) : Nat :=
  let q := num / den
  let r := num % den
  if 2 * r < den then q
  else if den < 2 * r then q + 1
  else if q % 2 == 0 then q else q + 1

/-- The exponent of the grid around the positive quotient `num / den`: grid points near it are
the multiples of two to this power that have at most 53 significant bits. -/
def gridExponent (num den : Nat) : Int :=
  let e : Int := (num.log2 : Int) - (den.log2 : Int) - 52
  let below := num <<< (-e).toNat < den <<< (e.toNat + 52)
  max (-1074) (if below then e - 1 else e)

/-- The grid point nearest to the quotient `num / den`, as a rational. The grid is continued
beyond the largest binary64 value. -/
def roundMagnitude (num den : Nat) : Rat :=
  let e := gridExponent num den
  ((divToEven (num <<< (-e).toNat) (den <<< e.toNat) : Nat) : Rat) * twoPow e

/-- The binary64 value nearest to a rational: an infinity beyond the last value, a zero that
keeps the sign when the nearest value is zero. -/
def round (q : Rat) : Number :=
  if q = 0 then .finite 0
  else
    let m := roundMagnitude q.num.natAbs q.den
    if twoPow 1024 ≤ m then .infinite (q < 0)
    else if m = 0 then (if q < 0 then .negativeZero else .finite 0)
    else .finite (if q < 0 then -m else m)

/-- The binary64 value nearest to an integer. Integers of up to 53 bits are grid points. -/
def ofInt (i : Int) : Number :=
  if i.natAbs ≤ 0x20000000000000 then .finite i else round i

/-! ## §3 Arithmetic -/

def neg : Number → Number
  | .nan => .nan
  | .infinite n => .infinite (!n)
  | .negativeZero => .finite 0
  | .finite q => if q = 0 then .negativeZero else .finite (-q)

/-- The rounded sum. Opposite infinities have none. -/
def add : Number → Number → Number
  | .nan, _ => .nan
  | _, .nan => .nan
  | .infinite n, .infinite m => if n == m then .infinite n else .nan
  | .infinite n, _ => .infinite n
  | _, .infinite m => .infinite m
  | .negativeZero, .negativeZero => .negativeZero
  | a, b => round (a.toRat + b.toRat)

/-- The sum from the left, starting at zero. -/
def sum (xs : List Number) : Number :=
  xs.foldl add (.finite 0)

/-- The larger of zero and the number; zero if it is not a number. -/
def aboveZero (x : Number) : Number :=
  if Number.lt (.finite 0) x then x else .finite 0

/-- The number, or zero if it is below zero. The negative zero is not, and stays. -/
def clipped (x : Number) : Number :=
  if x.lt (.finite 0) then .finite 0 else x

/-! ## §4 Interchange form -/

/-- The leading bit of a significand of 53 bits; the fraction field leaves it out. -/
def leadingBit : Nat := 0x10000000000000

/-- The bits of the magnitude of a grid point: exponent field, then fraction field. -/
def magnitudeBits (q : Rat) : Nat :=
  let e := gridExponent q.num.natAbs q.den
  let m := divToEven (q.num.natAbs <<< (-e).toNat) (q.den <<< e.toNat)
  if m < leadingBit then m else (e + 1075).toNat * leadingBit + (m - leadingBit)

/-- The 64 bits of a value: sign, eleven bits of exponent, 52 bits of fraction. -/
def toBits : Number → UInt64
  | .nan => 0x7FF8000000000000
  | .infinite negative => if negative then 0xFFF0000000000000 else 0x7FF0000000000000
  | .negativeZero => 0x8000000000000000
  | .finite q =>
    if q = 0 then 0
    else UInt64.ofNat (magnitudeBits q + if q < 0 then 0x8000000000000000 else 0)

/-- The value of 64 bits. -/
def ofBits (b : UInt64) : Number :=
  let negative := b >>> 63 == 1
  let e := ((b >>> 52) &&& 0x7FF).toNat
  let f := (b &&& 0xFFFFFFFFFFFFF).toNat
  if e == 2047 then (if f == 0 then .infinite negative else .nan)
  else
    let m : Rat :=
      if e == 0 then (f : Rat) * twoPow (-1074)
      else ((leadingBit + f : Nat) : Rat) * twoPow (e - 1075)
    if m = 0 then (if negative then .negativeZero else .finite 0)
    else .finite (if negative then -m else m)

/-! ## §5 Logarithms -/

/-- The natural logarithm of one more than a number that is not negative. Near zero the rounding
of `1 + x` is made good by the factor `x / ((1 + x) - 1)`. -/
def log1p (x : Number) : Number :=
  let y := Float.ofBits x.toBits
  let u := 1.0 + y
  if u == 1.0 then x
  else if !x.isFinite then x
  else ofBits (Float.log u * (y / (u - 1.0))).toBits

def log (x : Number) : Number :=
  ofBits (Float.log (Float.ofBits x.toBits)).toBits

end Number

end MapFilter
