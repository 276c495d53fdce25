import MapFilter.Text.Basic

/-!
# Code points and encodings

A text in a request may hold half of a surrogate pair without the other half. A half is no
character, so two characters stand for it: a mark, which is the last of all code points, and one
from a private range that tells which half it is. The mark itself is written twice where it is meant
as a character. A text written this way is called *marked* here; every text of the library is.

A JSON text may be written in units of one, two or four bytes. It begins with ASCII, so the zeros
among its first four bytes tell the width of a unit and which of its bytes comes first. A body is
given as the text that its bytes are in units of one.

- `CodePoint.marked`: the characters that stand for a code point
- `codePoints`: the code points of a marked text, which are the ones that were written
- `Encoding.ofBytes`: the encoding that bytes tell
- `decodeBody?`: the text of a body
-/

namespace MapFilter.Text

/-! ## §1 Writing -/

/-- A unit of a text: a character, or half of a surrogate pair. -/
inductive CodePoint where
  | char (c : Char)
  /-- A half, by its place among the halves. -/
  | half (i : Fin 0x800)
deriving DecidableEq

/-- The character that announces a half. -/
def halfMark : Char := Char.ofNat 0x10FFFF

/-- The character that tells which half is meant. -/
def halfChar (i : Fin 0x800) : Char := Char.ofNat (0xE000 + i.val)

/-- The code unit of a half. -/
def halfUnit (i : Fin 0x800) : Nat := 0xD800 + i.val

/-- The code point of a code unit: a half where the unit is one. -/
def CodePoint.ofUnit (unit : Nat) : CodePoint :=
  if h : 0xD800 ≤ unit ∧ unit < 0xE000 then .half ⟨unit - 0xD800, by omega⟩
  else .char (Char.ofNat unit)

/-- The character that a high and a low half are together. -/
def CodePoint.ofPair? (high low : Nat) : Option CodePoint :=
  if 0xD800 ≤ high ∧ high < 0xDC00 ∧ 0xDC00 ≤ low ∧ low < 0xE000 then
    some (.char (Char.ofNat (0x10000 + (high - 0xD800) * 0x400 + (low - 0xDC00))))
  else none

/-- The characters that stand for a code point. -/
def CodePoint.marked : CodePoint → List Char
  | .char c => if c = halfMark then [c, c] else [c]
  | .half i => [halfMark, halfChar i]

/-! ## §2 Reading -/

/-- The half that a character behind a mark tells. -/
def half? (c : Char) : Option (Fin 0x800) :=
  if h : 0xE000 ≤ c.toNat ∧ c.toNat < 0xE800 then some ⟨c.toNat - 0xE000, by omega⟩ else none

/-- The code points of a marked text. A mark that announces nothing is a character. -/
def codePoints : List Char → List CodePoint
  | [] => []
  | [c] => [.char c]
  | c :: d :: rest =>
    if c ≠ halfMark then .char c :: codePoints (d :: rest)
    else if d = halfMark then .char c :: codePoints rest
    else
      match half? d with
      | some i => .half i :: codePoints rest
      | none => .char c :: codePoints (d :: rest)

/-! ## §3 Reading what was written -/

theorem toNat_halfChar (i : Fin 0x800) : (halfChar i).toNat = 0xE000 + i.val := by
  have h : (0xE000 + i.val).isValidChar := .inr ⟨by omega, by omega⟩
  rw [halfChar, Char.ofNat, dif_pos h]
  exact BitVec.toNat_ofNatLT _ _

theorem half?_halfChar (i : Fin 0x800) : half? (halfChar i) = some i := by
  have h := toNat_halfChar i
  rw [half?, dif_pos (by omega)]
  exact congrArg some (Fin.ext (by simp only [h, Nat.add_sub_cancel_left]))

theorem halfChar_ne_halfMark (i : Fin 0x800) : halfChar i ≠ halfMark := by
  intro h
  have hi := toNat_halfChar i
  have hm : halfMark.toNat = 0x10FFFF := by decide
  rw [h, hm] at hi
  omega

/-- The code points of a marked text are the ones that were written. -/
theorem codePoints_marked (ps : List CodePoint) :
    codePoints (ps.flatMap CodePoint.marked) = ps := by
  induction ps with
  | nil => rfl
  | cons p rest ih =>
    cases p with
    | half i =>
      simp [CodePoint.marked, codePoints, half?_halfChar, halfChar_ne_halfMark, ih]
    | char c =>
      by_cases h : c = halfMark
      · simp [CodePoint.marked, codePoints, h, ih]
      · cases hr : rest.flatMap CodePoint.marked with
        | nil => rw [hr] at ih; simp [CodePoint.marked, h, codePoints, ← ih]
        | cons d ds => rw [hr] at ih; simp [CodePoint.marked, h, hr, codePoints, ih]

/-! ## §4 Encodings -/

/-- How a text is written as bytes. -/
inductive Encoding where
  /-- Units of one byte, of which a character takes one to four. -/
  | single
  /-- Units of two bytes. -/
  | double (highFirst : Bool)
  /-- Units of four bytes. -/
  | quadruple (highFirst : Bool)
deriving DecidableEq

/-- The encoding that the first bytes of a text tell. -/
def Encoding.ofBytes : List UInt8 → Encoding
  | [a, b] => if a = 0 then .double true else if b = 0 then .double false else .single
  | a :: b :: c :: d :: _ =>
    if a = 0 then (if b = 0 then .quadruple true else .double true)
    else if b = 0 then (if c = 0 ∧ d = 0 then .quadruple false else .double false)
    else .single
  | _ => .single

/-- The number that the bytes of a unit stand for. -/
def unitOf (highFirst : Bool) (bytes : List UInt8) : Nat :=
  (if highFirst then bytes else bytes.reverse).foldl (fun n b => 0x100 * n + b.toNat) 0

/-- The units of two bytes; `none` if a byte is left over. -/
def doubleUnits (highFirst : Bool) : List UInt8 → Option (List Nat)
  | [] => some []
  | a :: b :: rest => (doubleUnits highFirst rest).map (unitOf highFirst [a, b] :: ·)
  | [_] => none

/-- The units of four bytes; `none` if bytes are left over. -/
def quadrupleUnits (highFirst : Bool) : List UInt8 → Option (List Nat)
  | [] => some []
  | a :: b :: c :: d :: rest =>
    (quadrupleUnits highFirst rest).map (unitOf highFirst [a, b, c, d] :: ·)
  | _ => none

/-! ## §5 Code points -/

/-- The code points of units of two bytes, where two halves in a row are one character. -/
def joinPairs : List Nat → List CodePoint
  | [] => []
  | [unit] => [.ofUnit unit]
  | high :: low :: rest =>
    match CodePoint.ofPair? high low with
    | some point => point :: joinPairs rest
    | none => .ofUnit high :: joinPairs (low :: rest)

/-- The code point of a unit of four bytes. -/
def wideUnit? (unit : Nat) : Option CodePoint :=
  if unit < 0x110000 then some (.ofUnit unit) else none

/-- The code points that bytes stand for in an encoding of wider units. -/
def Encoding.decode? (encoding : Encoding) (bytes : List UInt8) : Option (List CodePoint) :=
  match encoding with
  | .single => none
  | .double highFirst => (doubleUnits highFirst bytes).map joinPairs
  | .quadruple highFirst => (quadrupleUnits highFirst bytes).bind fun units => units.mapM wideUnit?

/-- The bytes of a code point in units of one byte. A half has the bytes of a character of its
number. -/
def CodePoint.bytes : CodePoint → List UInt8
  | .char c => String.utf8EncodeChar c
  | .half i =>
    let unit := halfUnit i
    [UInt8.ofNat (0xE0 + unit / 0x1000), UInt8.ofNat (0x80 + unit / 0x40 % 0x40),
      UInt8.ofNat (0x80 + unit % 0x40)]

/-- The text of a body, without the byte order mark that it may begin with; `none` if its bytes are
no text in their encoding. -/
def decodeBody? (body : String) : Option String :=
  let bytes := (codePoints body.toList).flatMap CodePoint.bytes
  match Encoding.ofBytes bytes with
  | .single => some (dropMark body)
  | encoding => (encoding.decode? bytes).map fun points =>
    String.ofList (points.flatMap CodePoint.marked)

end MapFilter.Text
