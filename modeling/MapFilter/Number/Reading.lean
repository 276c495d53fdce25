import MapFilter.Number.Written
import MapFilter.Text.Basic
import MapFilter.Text.Message

/-!
# Numbers written as text

Two grammars for the same numerals.

- *Typed numbers* come from people and from property records. Blanks around them are ignored, the
  digits of every script count, single underscores may separate digits, and `inf`, `infinity` and
  `nan` are numbers in any case. Numbers in settings are of this kind, with fewer characters
  counting as blanks.
- *Plain numbers* stand in table cells. Digits are ASCII, there are no separators, and no word
  stands for the value that is not a number.

Either way the value is the binary64 number nearest to the decimal, an infinity beyond the last.

Main functions: `Number.ofTyped?`, `ofSetting?`, `settingInt`, `ofPlain?`, `plainInt?`.
-/

namespace MapFilter.Number

open MapFilter.Text

/-! ## §1 Numerals -/

/-- The parts of a decimal numeral as they were written, without the sign. -/
structure Numeral where
  whole : List Char
  fraction : List Char
  exponent : Int

/-- The sign in front of a numeral, and the rest. -/
def splitSign : List Char → Bool × List Char
  | '-' :: cs => (true, cs)
  | '+' :: cs => (false, cs)
  | cs => (false, cs)

/-- Whether a digit begins the row. -/
def startsWithDigit : List Char → Bool
  | c :: _ => isDigit c
  | [] => false

/-- The text without its digit separators; `none` if one does not stand between two digits.
The flag says whether the character in front is a digit. -/
def dropSeparators : Bool → List Char → Option (List Char)
  | _, [] => some []
  | afterDigit, '_' :: cs =>
    if afterDigit && startsWithDigit cs then dropSeparators false cs else none
  | _, c :: cs => (dropSeparators (isDigit c) cs).map (c :: ·)

/-- The text without its digit separators, each of which must stand between two digits. -/
def withoutSeparators (cs : List Char) : Option (List Char) :=
  dropSeparators false cs

/-- The exponent after its mark: a sign and at least one digit, up to the end of the text. -/
def exponent? (digit : Char → Bool) (cs : List Char) : Option Int :=
  let (negative, digits) := splitSign cs
  if digits.isEmpty || !digits.all digit then none
  else some (if negative then -(digitsValue digits : Int) else digitsValue digits)

/-- An unsigned decimal numeral that takes up the whole text: digits with at most one point among
or around them, and perhaps an exponent. -/
def numeral? (digit : Char → Bool) (cs : List Char) : Option Numeral :=
  let whole := cs.takeWhile digit
  let afterWhole := cs.dropWhile digit
  let (fraction, rest) :=
    match afterWhole with
    | '.' :: more => (more.takeWhile digit, more.dropWhile digit)
    | _ => ([], afterWhole)
  if whole.isEmpty && fraction.isEmpty then none
  else
    match rest with
    | [] => some ⟨whole, fraction, 0⟩
    | mark :: more =>
      if mark == 'e' || mark == 'E' then (exponent? digit more).map (⟨whole, fraction, ·⟩)
      else none

/-! ## §2 Typed numbers -/

/-- The number nearest to `digits * 10 ^ exponent`. Exponents far outside the range of the grid
are settled by the size of the digits alone. -/
def ofDecimal (digits : Nat) (exponent : Int) : Number :=
  if digits = 0 then .finite 0
  else
    let size := exponent + ((digits.log2 * 30103 / 100000 : Nat) : Int)
    if 310 < size then .infinite false
    else if size < -330 then .finite 0
    else round ((digits : Rat) * tenPow exponent)

def withSign (negative : Bool) (x : Number) : Number :=
  if negative then x.neg else x

def Numeral.value (n : Numeral) : Number :=
  ofDecimal (digitsValue (n.whole ++ n.fraction)) (n.exponent - n.fraction.length)

/-- The words for numbers that have no numeral, in lower case. -/
def wordValue? (cs : List Char) : Option Number :=
  if cs == "inf".toList || cs == "infinity".toList then some (.infinite false)
  else if cs == "nan".toList then some .nan
  else none

/-- The number that a text without blanks around it stands for. -/
def ofTrimmed? (cs : List Char) : Option Number :=
  let (negative, body) := splitSign cs
  match wordValue? (lowerAscii body) with
  | some x => some (withSign negative x)
  | none =>
    (withoutSeparators body).bind fun cs =>
      (numeral? isDigit cs).map fun n => withSign negative n.value

/-- The number that a typed text stands for. -/
def ofTyped? (s : String) : Option Number :=
  ofTrimmed? (stripChars isBlank s.toList)

/-- The blanks that may surround a number in a setting: all but those that separate records. -/
def isSettingBlank (c : Char) : Bool :=
  isBlank c && !(0x1C ≤ c.toNat && c.toNat ≤ 0x1F)

/-- The number that a text in a setting stands for. -/
def ofSetting? (s : String) : Option Number :=
  ofTrimmed? (stripChars isSettingBlank s.toList)

/-- The most digits that the text of an integer may have. -/
def integerDigits : Nat := 4300

/-- Why a text in a setting is no integer. -/
inductive IntegerTextError where
  | unreadable (text : String)
  /-- The text has too many digits. -/
  | tooLong (digits : Nat)
deriving DecidableEq

/-- The integer that a text in a setting stands for: a sign and digits of any script. -/
def settingInt (s : String) : Except IntegerTextError Int :=
  let (negative, body) := splitSign (stripChars isSettingBlank s.toList)
  match withoutSeparators body with
  | none => .error (.unreadable s)
  | some cs =>
    if cs.isEmpty || !cs.all isDigit then .error (.unreadable s)
    else if integerDigits < cs.length then .error (.tooLong cs.length)
    else .ok (if negative then -(digitsValue cs : Int) else digitsValue cs)

/-- The message for a setting that is no number. -/
def unreadableMessage (s : String) : String :=
  "could not convert string to float: " ++ quoted s

/-- The message for a setting that is no integer. It shows two hundred characters at most of an
unreadable text. -/
def IntegerTextError.message : IntegerTextError → String
  | .unreadable s =>
    "invalid literal for int() with base 10: " ++ String.ofList ((quoted s).toList.take 200)
  | .tooLong digits =>
    "Exceeds the limit (" ++ toString integerDigits
      ++ " digits) for integer string conversion: value has " ++ toString digits
      ++ " digits; use sys.set_int_max_str_digits() to increase the limit"

/-! ## §3 Plain numbers -/

/-- The blanks that may surround a number in a table cell. -/
def isCellBlank (c : Char) : Bool :=
  c == ' ' || (0x09 ≤ c.toNat && c.toNat ≤ 0x0D)

/-- The digits zero to nine. -/
def isAsciiDigit (c : Char) : Bool :=
  '0' ≤ c && c ≤ '9'

/-- The number that a table cell stands for. The words for infinity count only without blanks
around them. -/
def ofPlain? (s : String) : Option Number :=
  let (negative, body) := splitSign s.toList
  let word := String.ofList (lowerAscii body)
  if word == "inf" || word == "infinity" then some (.infinite negative)
  else
    let (negative, body) := splitSign (stripChars isCellBlank s.toList)
    (numeral? isAsciiDigit body).map fun n => withSign negative n.value

/-- The integer that a table cell stands for: a sign and ASCII digits. -/
def plainInt? (s : String) : Option Int :=
  let (negative, body) := splitSign (stripChars isCellBlank s.toList)
  if body.isEmpty || !body.all isAsciiDigit then none
  else some (if negative then -(digitsValue body : Int) else digitsValue body)

end MapFilter.Number
