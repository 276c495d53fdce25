import MapFilter.Number.Reading
import MapFilter.Table.Basic
import MapFilter.Value.Reading

/-!
# Tables in a database

A database keeps a table under its own rules. Column names are equal there if they differ in the
case of ASCII letters only, so some columns get other names. A column has one type: cells of
several kinds become numbers if all of them can, and texts otherwise. What a query returns are
columns of numbers again, in which an integer next to a missing cell is a binary64 number.

A query compares texts with parameters of other types by casting the text: to an integer, which
rounds a fraction, to a binary64 number, or to a truth value. Blanks around a number are ignored,
its digits are ASCII, and single underscores may separate them.

- `castNumber?`, `castInteger?`, `castTruth?`: the value of a text, if it has one
- `Table.stored`: a table as it is kept
- `Table.fetched`: a kept table as a query returns it
- `storedColumn?`: the kept column that a name in a query means
-/

namespace MapFilter

namespace Sql

open MapFilter.Number

/-! ## §1 Casts of texts -/

/-- The numeral in a text without blanks and sign. -/
def castNumeral? (cs : List Char) : Option Numeral :=
  (withoutSeparators cs).bind (numeral? isAsciiDigit)

/-- The number that a text is cast to. Behind a plus sign there may still be a minus sign. -/
def castNumber? (s : String) : Option Number :=
  let trimmed := Text.stripChars isCellBlank s.toList
  let (negative, body) :=
    match trimmed with
    | '+' :: '-' :: rest => (true, rest)
    | _ => splitSign trimmed
  match wordValue? (Text.lowerAscii body) with
  | some x => some (withSign negative x)
  | none => (castNumeral? body).map fun n => withSign negative n.value

/-- The integer nearest to a rational that is not negative, a half going up. -/
def roundHalfUp (q : Rat) : Int :=
  (q + mkRat 1 2).floor

/-- The largest exponent of a numeral that is cast to an integer. -/
def maxExponent : Nat := 0x7FFF

/-- The integer that a text is cast to, of any size: the nearest one, a half going away from
zero. -/
def castInteger? (s : String) : Option Int :=
  let (negative, body) := splitSign (Text.stripChars isCellBlank s.toList)
  (castNumeral? body).bind fun n =>
    if maxExponent < n.exponent.natAbs then none
    else
      let digits : Nat := Text.digitsValue (n.whole ++ n.fraction)
      let size := roundHalfUp ((digits : Rat) * tenPow (n.exponent - n.fraction.length))
      some (if negative then -size else size)

/-- The truth value that a text is cast to. -/
def castTruth? (s : String) : Option Bool :=
  let word := String.ofList (Text.lowerAscii s.toList)
  if ["t", "true", "1", "y", "yes"].contains word then some true
  else if ["f", "false", "0", "n", "no"].contains word then some false
  else none

/-- An integer of more than 64 bits as a binary64 number: its halves are rounded first. -/
def wideToNumber (i : Int) : Number :=
  let half : Int := 0x10000000000000000
  let upper := i / half
  let lower := i % half
  if upper = -1 then
    (Number.ofInt (half - 1 - lower)).neg |>.add (.finite (-1))
  else (Number.ofInt lower).add (.round ((Number.ofInt upper).toRat * (half : Rat)))

/-! ## §2 Names -/

/-- A name without regard to the case of its ASCII letters. -/
def foldCase (name : String) : String :=
  String.ofList (Text.lowerAscii name.toList)

/-- How often names were given out, without regard to case. -/
abbrev NameCounts := List (String × Nat)

def NameCounts.get (counts : NameCounts) (name : String) : Nat :=
  (counts.lookup (foldCase name)).getD 0

def NameCounts.add (counts : NameCounts) (name : String) : NameCounts :=
  (foldCase name, counts.get name + 1) :: counts

/-- A numbered form of a name that was not given out, and the counts with that name. Each number
that is passed over belongs to a name that was given out, so their number is enough fuel. -/
def freeName (name : String) : Nat → NameCounts → String × NameCounts
  | 0, counts => (name, counts)
  | fuel + 1, counts =>
    let candidate := name ++ "_" ++ toString (counts.get name)
    if counts.get candidate = 0 then (candidate, (counts.add candidate).add name)
    else freeName name fuel (counts.add name)

/-- The names with every repetition of an earlier one numbered. -/
def distinctNames : NameCounts → List String → List String
  | _, [] => []
  | counts, name :: rest =>
    if counts.get name = 0 then name :: distinctNames (counts.add name) rest
    else
      let (own, counts) := freeName name (counts.length + 1) counts
      own :: distinctNames counts rest

/-- The names of the columns of a stored table. A column without a name is named by its place. -/
def storedNames (names : List String) : List String :=
  (distinctNames [] names).zipIdx.map fun (name, i) =>
    if name.isEmpty then "C" ++ toString i else name

/-- The first of some columns that a name in a query means. -/
def storedColumn? (columns : List String) (name : String) : Option String :=
  columns.find? fun column => foldCase column == foldCase name

/-! ## §3 Cells -/

/-- Whether an integer fits in 128 bits, with a sign or without. -/
def isStorable (i : Int) : Bool :=
  -0x80000000000000000000000000000000 ≤ i && i < 0x100000000000000000000000000000000

/-- Whether a stored column of numbers can hold the cell. -/
def isStorableNumber : Value → Bool
  | .null | .bool _ | .float _ => true
  | .int i => isStorable i
  | _ => false

/-- A cell of a stored column of texts. -/
def storedText : Value → Value
  | .null => .null
  | v => .text v.display

/-- The binary64 number that an integer is cast to. -/
def castDouble (i : Int) : Number :=
  if Column.isSigned i then Number.ofInt i else wideToNumber i

/-- A cell as a binary64 number. -/
def storedNumber : Value → Value
  | .int i => .float (castDouble i)
  | v => Column.toFloat v

/-- The cells of a column as a database stores them. -/
def storedCells (cells : List Value) : List Value :=
  let isFloat : Value → Bool
    | .float _ => true
    | _ => false
  let isInteger : Value → Bool
    | .int _ => true
    | _ => false
  if !cells.all isStorableNumber then cells.map storedText
  else if cells.any isFloat then cells.map storedNumber
  else if cells.any isInteger then cells.map Column.truthToInt
  else cells

def integersOf (cells : List Value) : List Int :=
  cells.filterMap fun
    | .int i => some i
    | _ => none

/-- Some cells of a stored column as a query returns them: integers only if none is missing and all
of the column are of one kind. -/
def fetchedCells (column cells : List Value) : List Value :=
  let isNarrow := Column.haveOneKind (integersOf column)
  if isNarrow && ((integersOf cells).isEmpty || !cells.any Column.isMissing) then cells
  else cells.map storedNumber

end Sql

namespace Table

/-! ## §4 Tables -/

/-- The table as a database keeps it. -/
def stored (t : Table) : Table :=
  { columns := Sql.storedNames t.columns
    rows := transpose ((List.range t.columns.length).map fun i => Sql.storedCells (t.columnAt i))
      t.rows.length }

/-- Rows of a stored table as a query returns them. -/
def fetchedFrom (t whole : Table) : Table :=
  { t with
      rows := transpose ((List.range t.columns.length).map fun i =>
        Sql.fetchedCells (whole.columnAt i) (t.columnAt i)) t.rows.length }

/-- The stored table as a query returns it. -/
def fetched (t : Table) : Table :=
  t.fetchedFrom t

end Table

end MapFilter
