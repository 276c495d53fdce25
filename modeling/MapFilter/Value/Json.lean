import MapFilter.Number.Reading
import MapFilter.Value.Basic

/-!
# JSON reader

Reads a JSON text as a `Value`. Numbers without a point or exponent are integers, whose digits may
be limited in number. The words `NaN`, `Infinity` and `-Infinity` are numbers. Of several entries
with one name the last value counts, at the place of the first. A control character inside a text is
an error; half of a surrogate pair that has no other half stays what it is.

The reader recurses on `fuel`. Every step consumes a character, so the length of the text is
enough, and `readJson?` supplies it.
-/

namespace MapFilter.Value.Json

/-! ## §1 Texts -/

/-- The blanks between the tokens of a JSON text. -/
def isSpace (c : Char) : Bool :=
  c == ' ' || c == '\t' || c == '\n' || c == '\r'

/-- The rest after blanks. -/
def skip (cs : List Char) : List Char :=
  cs.dropWhile isSpace

/-- The value of a hexadecimal digit. -/
def hexValue? (c : Char) : Option Nat :=
  if '0' ≤ c ∧ c ≤ '9' then some (c.toNat - '0'.toNat)
  else if 'a' ≤ c ∧ c ≤ 'f' then some (c.toNat - 'a'.toNat + 10)
  else if 'A' ≤ c ∧ c ≤ 'F' then some (c.toNat - 'A'.toNat + 10)
  else none

/-- Four hexadecimal digits as a number. -/
def codeUnit? (a b c d : Char) : Option Nat := do
  let a ← hexValue? a
  let b ← hexValue? b
  let c ← hexValue? c
  let d ← hexValue? d
  return ((a * 16 + b) * 16 + c) * 16 + d

/-- The character that a backslash and a letter stand for. -/
def escape? : Char → Option Char
  | '"' => some '"'
  | '\\' => some '\\'
  | '/' => some '/'
  | 'b' => some (Char.ofNat 8)
  | 'f' => some (Char.ofNat 12)
  | 'n' => some '\n'
  | 'r' => some '\r'
  | 't' => some '\t'
  | _ => none

/-- The code point of a code unit, or of a high one followed by a low one; and whether the low one
was used. -/
def joinUnits (high : Nat) (low : Option Nat) : Text.CodePoint × Bool :=
  match low.bind (Text.CodePoint.ofPair? high) with
  | some point => (point, true)
  | none => (.ofUnit high, false)

/-- The text up to the closing quote, and the rest after it. -/
def readText : Nat → List Char → Option (List Char × List Char)
  | 0, _ => none
  | _ + 1, [] => none
  | _ + 1, '"' :: rest => some ([], rest)
  | fuel + 1, '\\' :: 'u' :: a :: b :: c :: d :: rest =>
    match codeUnit? a b c d with
    | none => none
    | some unit =>
      let low :=
        match rest with
        | '\\' :: 'u' :: e :: f :: g :: h :: _ => codeUnit? e f g h
        | _ => none
      -- Two escapes in a row may be the halves of one character.
      let (point, both) := joinUnits unit low
      (readText fuel (if both then rest.drop 6 else rest)).map fun r => (point.marked ++ r.1, r.2)
  | fuel + 1, '\\' :: c :: rest =>
    match escape? c with
    | none => none
    | some ch => (readText fuel rest).map fun r => (ch :: r.1, r.2)
  | fuel + 1, c :: rest =>
    if c.toNat < 0x20 || c == '\\' then none
    else (readText fuel rest).map fun r => (c :: r.1, r.2)

/-! ## §2 Numbers -/

/-- The fraction of a number: a point and at least one digit. -/
def splitFraction : List Char → Option (List Char) × List Char
  | '.' :: rest =>
    let digits := rest.takeWhile Number.isAsciiDigit
    if digits.isEmpty then (none, '.' :: rest)
    else (some digits, rest.dropWhile Number.isAsciiDigit)
  | cs => (none, cs)

/-- The exponent of a number: its mark, perhaps a sign, and at least one digit. -/
def splitExponent : List Char → Option Int × List Char
  | [] => (none, [])
  | mark :: rest =>
    if mark == 'e' || mark == 'E' then
      let (negative, body) := Number.splitSign rest
      let digits := body.takeWhile Number.isAsciiDigit
      if digits.isEmpty then (none, mark :: rest)
      else
        let size : Int := Text.digitsValue digits
        (some (if negative then -size else size), body.dropWhile Number.isAsciiDigit)
    else (none, mark :: rest)

/-- The digits before the point. A leading zero stands alone. -/
def splitWhole : List Char → Option (List Char × List Char)
  | '0' :: rest => some (['0'], rest)
  | cs =>
    let digits := cs.takeWhile Number.isAsciiDigit
    if digits.isEmpty then none else some (digits, cs.dropWhile Number.isAsciiDigit)

/-- Whether a row of digits is within a limit, if there is one. -/
def isWithin (limit : Option Nat) (digits : List Char) : Bool :=
  limit.all (digits.length ≤ ·)

/-- A number: an integer unless it has a fraction or an exponent. Only an integer may be too
long. -/
def readNumber (limit : Option Nat) (cs : List Char) : Option (Value × List Char) :=
  let (negative, body) :=
    match cs with
    | '-' :: rest => (true, rest)
    | _ => (false, cs)
  (splitWhole body).bind fun (whole, afterWhole) =>
    let (fraction, afterFraction) := splitFraction afterWhole
    let (exponent, rest) := splitExponent afterFraction
    match fraction, exponent with
    | none, none =>
      let i : Int := Text.digitsValue whole
      if isWithin limit whole then some (.int (if negative then -i else i), rest) else none
    | _, _ =>
      let n : Number.Numeral := ⟨whole, fraction.getD [], exponent.getD 0⟩
      some (.float (Number.withSign negative n.value), rest)

/-! ## §3 Values -/

/-- The words that stand for values. -/
def words : List (List Char × Value) :=
  [("null".toList, .null), ("true".toList, .bool true), ("false".toList, .bool false),
    ("NaN".toList, .float .nan), ("Infinity".toList, .float (.infinite false)),
    ("-Infinity".toList, .float (.infinite true))]

/-- A word that stands for a value, and the rest after it. -/
def readWord (cs : List Char) : Option (Value × List Char) :=
  words.findSome? fun (word, v) =>
    if word.isPrefixOf cs then some (v, cs.drop word.length) else none

mutual

/-- A value, and the rest after it. -/
def read (limit : Option Nat) : Nat → List Char → Option (Value × List Char)
  | 0, _ => none
  | fuel + 1, cs =>
    match cs with
    | '"' :: rest => (readText (rest.length + 1) rest).map fun r => (.text (String.ofList r.1), r.2)
    | '[' :: rest =>
      match skip rest with
      | ']' :: after => some (.list [], after)
      | inner => (readItems limit fuel inner).map fun r => (.list r.1, r.2)
    | '\x7b' :: rest =>
      match skip rest with
      | '\x7d' :: after => some (.object [], after)
      | inner => (readEntries limit fuel [] inner).map fun r => (.object r.1, r.2)
    | _ =>
      match readWord cs with
      | some r => some r
      | none => readNumber limit cs

/-- The items of a list up to its closing bracket, and the rest after it. -/
def readItems (limit : Option Nat) : Nat → List Char → Option (List Value × List Char)
  | 0, _ => none
  | fuel + 1, cs =>
    match read limit fuel cs with
    | none => none
    | some (v, after) =>
      match skip after with
      | ']' :: rest => some ([v], rest)
      | ',' :: rest => (readItems limit fuel (skip rest)).map fun r => (v :: r.1, r.2)
      | _ => none

/-- The entries of an object up to its closing brace, put into the given ones, and the rest. -/
def readEntries (limit : Option Nat) : Nat → Record → List Char → Option (Record × List Char)
  | 0, _, _ => none
  | fuel + 1, acc, cs =>
    match cs with
    | '"' :: rest =>
      match readText (rest.length + 1) rest with
      | none => none
      | some (name, afterName) =>
        match skip afterName with
        | ':' :: afterColon =>
          match read limit fuel (skip afterColon) with
          | none => none
          | some (v, after) =>
            let entries := acc.insert (String.ofList name) v
            match skip after with
            | '\x7d' :: more => some (entries, more)
            | ',' :: more => readEntries limit fuel entries (skip more)
            | _ => none
        | _ => none
    | _ => none

end

end Json

/-- The value of a JSON text, whose integers may have so many digits; `none` if the text is not JSON
or something follows the value. -/
def readJson? (limit : Option Nat) (s : String) : Option Value :=
  let cs := s.toList
  match Json.read limit (2 * cs.length + 2) (Json.skip cs) with
  | some (v, rest) => if (Json.skip rest).isEmpty then some v else none
  | none => none

end MapFilter.Value
