import MapFilter.Number.Basic

/-!
# Number text

How a binary64 number is written in messages and when it is compared as text: its shortest
digits, positionally for leading digits between `10^-4` and `10^15`, otherwise with an exponent
of at least two digits. A whole number keeps `.0`, so that it is never taken for an integer.

The shortest digits are the fewest that still name the number: the decimal must lie among the reals
whose nearest grid point is the number. Of two such decimals of the same length the nearer is taken,
and of two equally near ones the even one. The search walks the decimal grids from one digit upward
and tests the two neighbours of the number on each; if any point of a grid names the number, one of
those two does.

- `shortest`: the shortest decimal that names a number
- `toText`: the text of a number
-/

namespace MapFilter.Number

def tenPow (e : Int) : Rat :=
  if 0 ≤ e then ((Nat.pow 10 e.toNat : Nat) : Rat) else mkRat 1 (Nat.pow 10 (-e).toNat)

/-! ## §1 The reals that a grid point stands for -/

/-- Whether the decimal `d` names the positive grid point `q`: it lies between the midpoints to
the two neighbours, which count themselves when the significand is even. Just below a power of
two the neighbour is only half as far away. -/
def readsAs (q d : Rat) : Bool :=
  let e := gridExponent q.num.natAbs q.den
  let gap := twoPow e
  let m := (q / gap).floor
  let narrow := m == leadingBit && -1074 < e
  let low := if narrow then q - gap / 4 else q - gap / 2
  let high := q + gap / 2
  if m % 2 == 0 then low ≤ d && d ≤ high else low < d && d < high

/-! ## §2 The search -/

/-- Digits and a power of ten: `digits * 10 ^ exponent`. -/
structure Decimal where
  digits : Nat
  exponent : Int
deriving DecidableEq, Inhabited

def Decimal.toRat (d : Decimal) : Rat :=
  (d.digits : Rat) * tenPow d.exponent

/-- The least `k` with `q < 10 ^ k`, for a positive `q`: an estimate from the binary logarithm,
then at most a few steps. -/
def decimalScale (q : Rat) : Int :=
  let bits : Int := (q.num.natAbs.log2 : Int) - (q.den.log2 : Int)
  let low := (bits * 30103).fdiv 100000 - 1
  let steps := (List.range 5).find? fun (i : Nat) => q < tenPow (low + i)
  low + ((steps.getD 5 : Nat) : Int)

/-- Of the two neighbours of `q` on the grid of `10 ^ exponent`, the one that names `q`; the
nearer if both do, and the even one if they are equally near. -/
def onGrid (q : Rat) (exponent : Int) : Option Decimal :=
  let scaled := q / tenPow exponent
  let below := scaled.floor.toNat
  let down : Decimal := ⟨below, exponent⟩
  let up : Decimal := ⟨below + 1, exponent⟩
  match readsAs q down.toRat, readsAs q up.toRat with
  | false, false => none
  | true, false => some down
  | false, true => some up
  | true, true =>
    -- Both neighbours name the number, so the nearer one is taken.
    let middle := (below : Rat) + mkRat 1 2
    if scaled < middle then some down
    else if middle < scaled then some up
    else if below % 2 == 0 then some down else some up

/-- The decimal without zeros at the end of its digits; `fuel` bounds how many are dropped. -/
def Decimal.stripZeros : Nat → Decimal → Decimal
  | 0, d => d
  | fuel + 1, d =>
    if d.digits ≠ 0 ∧ d.digits % 10 = 0 then stripZeros fuel ⟨d.digits / 10, d.exponent + 1⟩ else d

/-- The shortest decimal that names a positive grid point. Seventeen digits always suffice; were
none found, the exact value would be written. -/
def shortest (q : Rat) : Decimal :=
  let k := decimalScale q
  match (List.range 17).findSome? fun (i : Nat) => onGrid q (k - 1 - i) with
  | some d => d.stripZeros 20
  | none => Decimal.stripZeros 1100 ⟨(q * tenPow 1074).num.natAbs, -1074⟩

/-! ## §3 Layout -/

def decimalDigits (n : Nat) : List Char :=
  Nat.toDigits 10 n

/-- A row of digits with the point `scale` places after its start. -/
def positional (digits : List Char) (scale : Int) : List Char :=
  if scale ≤ 0 then '0' :: '.' :: (List.replicate (-scale).toNat '0' ++ digits)
  else if (digits.length : Int) ≤ scale then
    digits ++ List.replicate (scale.toNat - digits.length) '0' ++ ['.', '0']
  else digits.take scale.toNat ++ '.' :: digits.drop scale.toNat

/-- A row of digits with the point after the first and the power of ten of that digit. -/
def scientific (digits : List Char) (power : Int) : List Char :=
  let significand :=
    match digits with
    | [] => []
    | [d] => [d]
    | d :: rest => d :: '.' :: rest
  let size := decimalDigits power.natAbs
  let padded := if size.length < 2 then '0' :: size else size
  significand ++ 'e' :: (if power < 0 then '-' else '+') :: padded

/-- The text of a positive finite number. -/
def magnitudeText (q : Rat) : List Char :=
  let d := shortest q
  let digits := decimalDigits d.digits
  let scale := d.exponent + digits.length
  if -4 ≤ scale - 1 && scale - 1 ≤ 15 then positional digits scale
  else scientific digits (scale - 1)

def toText : Number → String
  | .nan => "nan"
  | .infinite negative => if negative then "-inf" else "inf"
  | .negativeZero => "-0.0"
  | .finite q =>
    if q = 0 then "0.0"
    else if q < 0 then String.ofList ('-' :: magnitudeText (-q))
    else String.ofList (magnitudeText q)

end MapFilter.Number
