/-!
# Characters of texts

The classes of characters that reading depends on. Blanks count as white space at the ends of a text
a person typed: the control characters that move the cursor or separate records, and every Unicode
space and line break. A byte order mark and the zero-width characters are not blank. Digits may be
those of any script. Keywords are compared without regard to case.

- `trim`: the text without blanks at both ends, `dropMark`: without one byte order mark in front
- `digitsValue`: the number that a row of decimal digits stands for
- `lower`, `lowerAscii`: the text in lower case, as far as comparisons with ASCII words can tell
-/

namespace MapFilter.Text

/-! ## §1 Blanks -/

/-- Space-like control characters, the separators, and the Unicode spaces. -/
def isBlank (c : Char) : Bool :=
  let n := c.toNat
  (0x09 ≤ n && n ≤ 0x0D) || (0x1C ≤ n && n ≤ 0x20) || n == 0x85 || n == 0xA0 || n == 0x1680
    || (0x2000 ≤ n && n ≤ 0x200A) || n == 0x2028 || n == 0x2029 || n == 0x202F || n == 0x205F
    || n == 0x3000

/-! ## §2 Trimming -/

/-- The characters without those at the end that satisfy `p`. -/
def dropEndWhile (p : Char → Bool) (cs : List Char) : List Char :=
  (cs.reverse.dropWhile p).reverse

/-- The characters without those at either end that satisfy `p`. -/
def stripChars (p : Char → Bool) (cs : List Char) : List Char :=
  dropEndWhile p (cs.dropWhile p)

/-- The text without blanks at either end. -/
def trim (s : String) : String :=
  String.ofList (stripChars isBlank s.toList)

/-- A text of blanks only, the empty text included. -/
def isAllBlank (s : String) : Bool :=
  s.toList.all isBlank

/-! ## §3 Byte order marks -/

/-- The text without a byte order mark in front. A second mark stays. -/
def dropMark (s : String) : String :=
  match s.toList with
  | '\ufeff' :: rest => String.ofList rest
  | _ => s

/-! ## §4 Digits of every script

Unicode lays out each set of decimal digits as ten consecutive characters, so a set is given by its
zero. -/

/-- The zeros of all sets of decimal digits. -/
def digitZeros : List Nat :=
  [0x30, 0x660, 0x6F0, 0x7C0, 0x966, 0x9E6, 0xA66, 0xAE6, 0xB66, 0xBE6, 0xC66, 0xCE6, 0xD66,
   0xDE6, 0xE50, 0xED0, 0xF20, 0x1040, 0x1090, 0x17E0, 0x1810, 0x1946, 0x19D0, 0x1A80, 0x1A90,
   0x1B50, 0x1BB0, 0x1C40, 0x1C50, 0xA620, 0xA8D0, 0xA900, 0xA9D0, 0xA9F0, 0xAA50, 0xABF0,
   0xFF10, 0x104A0, 0x10D30, 0x11066, 0x110F0, 0x11136, 0x111D0, 0x112F0, 0x11450, 0x114D0,
   0x11650, 0x116C0, 0x11730, 0x118E0, 0x11950, 0x11C50, 0x11D50, 0x11DA0, 0x16A60, 0x16AC0,
   0x16B50, 0x1D7CE, 0x1D7D8, 0x1D7E2, 0x1D7EC, 0x1D7F6, 0x1E140, 0x1E2F0, 0x1E950, 0x1FBF0]

/-- The value of a decimal digit, `none` for every other character. -/
def digitValue? (c : Char) : Option Nat :=
  (digitZeros.find? fun first => first ≤ c.toNat && c.toNat < first + 10).map (c.toNat - ·)

/-- Whether the character is a decimal digit of some script. -/
def isDigit (c : Char) : Bool :=
  (digitValue? c).isSome

/-- The number that a row of digits stands for, the most significant digit first. A character
that is no digit counts as zero; readers test the row before they take its value. -/
def digitsValue (cs : List Char) : Nat :=
  cs.foldl (fun n c => n * 10 + (digitValue? c).getD 0) 0

/-! ## §5 Case of letters

A word to compare with is always plain ASCII, so only characters whose lower case is an ASCII letter
matter: the capitals A to Z, and the KELVIN SIGN, whose lower case is `k`. -/

/-- The lower case of every character whose lower case is an ASCII letter; all others stay. -/
def lowerChar (c : Char) : Char :=
  if c.toNat == 0x212A then 'k' else c.toLower

/-- The text in lower case, as far as a comparison with ASCII words can tell. -/
def lower (s : String) : String :=
  String.ofList (s.toList.map lowerChar)

/-- The text with the ASCII capitals in lower case and everything else as it was. -/
def lowerAscii (cs : List Char) : List Char :=
  cs.map Char.toLower

end MapFilter.Text
