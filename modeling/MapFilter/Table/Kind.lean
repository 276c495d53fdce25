import MapFilter.Value.Basic

/-!
# Kinds of columns

The cells of a column are of one kind where that is possible. A column of numbers is one of
integers only if none is missing and 64 bits hold each of them; otherwise its cells are binary64
numbers. Cells that have nothing in common stay as they are.

- `ColumnKind.ofCells`: the kind of cells
- `ColumnKind.join?`: the kind that columns have when one is put below the other
- `Column.ofCells`: cells of one kind, from cells of any
-/

namespace MapFilter

/-- What the cells of a column have in common. -/
inductive ColumnKind where
  | truths
  /-- Integers of 64 bits with a sign. -/
  | integers
  /-- Integers of 64 bits without a sign. -/
  | naturals
  /-- Binary64 numbers, any of which may be missing. -/
  | numbers
  /-- Texts, any of which may be missing. -/
  | texts
  | mixed
deriving DecidableEq

namespace Column

/-! ## §1 Cells -/

/-- A cell that is not a number counts as missing. -/
def dropNan : Value → Value
  | .float .nan => .null
  | v => v

/-- Whether the integer fits in 64 bits with a sign. -/
def isSigned (i : Int) : Bool :=
  -0x8000000000000000 ≤ i && i < 0x8000000000000000

/-- Whether the integer fits in 64 bits without a sign. -/
def isUnsigned (i : Int) : Bool :=
  0 ≤ i && i < 0x10000000000000000

def isMissing : Value → Bool
  | .null => true
  | _ => false

def isNumeric : Value → Bool
  | .null | .int _ | .float _ => true
  | _ => false

/-- An integer or a truth value as a binary64 number. -/
def toFloat : Value → Value
  | .bool b => .float (.finite (if b then 1 else 0))
  | .int i => .float (Number.ofInt i)
  | v => v

/-- A truth value as an integer. -/
def truthToInt : Value → Value
  | .bool b => .int (if b then 1 else 0)
  | v => v

end Column

/-! ## §2 Kinds -/

namespace ColumnKind

/-- Whether a column of the kind can hold a cell. -/
def holds : ColumnKind → Value → Bool
  | .truths, .bool _ => true
  | .integers, .int i => Column.isSigned i
  | .naturals, .int i => Column.isUnsigned i
  | .numbers, .null | .numbers, .float _ => true
  | .texts, .null | .texts, .text _ => true
  | .mixed, _ => true
  | _, _ => false

/-- The first kind that can hold all cells. Without a cell there is nothing in common. -/
def ofCells (cells : List Value) : ColumnKind :=
  if cells.isEmpty then .mixed
  else
    ([.numbers, .integers, .naturals, .truths, .texts].find? fun kind => cells.all kind.holds).getD
      .mixed

/-- Whether the cells are numbers or truth values and none of them stands for another kind. -/
def isNumeric : ColumnKind → Bool
  | .truths | .integers | .naturals | .numbers => true
  | .texts | .mixed => false

/-- The kind of two columns of numbers together; `none` if their cells have no kind in common.
Truth values count as integers, but not as binary64 numbers. -/
def join? : ColumnKind → ColumnKind → Option ColumnKind
  | .truths, .numbers | .numbers, .truths => none
  | .truths, other | other, .truths => some other
  | .integers, .integers => some .integers
  | .naturals, .naturals => some .naturals
  | _, _ => some .numbers

/-- The kind of columns of numbers put one below the other, `none` if there is none: as soon as
there are binary64 numbers, truth values stay what they are, and so does every other cell. -/
def joinAll? (kinds : List ColumnKind) : Option ColumnKind :=
  if !kinds.all isNumeric || (kinds.contains .truths && kinds.contains .numbers) then none
  else
    match kinds with
    | [] => none
    | first :: rest => rest.foldlM join? first

/-- A cell as one of a column of the kind. -/
def convert : ColumnKind → Value → Value
  | .numbers, v => Column.toFloat v
  | .integers, v | .naturals, v => Column.truthToInt v
  | .truths, v | .texts, v | .mixed, v => v

end ColumnKind

namespace Column

/-! ## §3 Columns of given cells -/

/-- Whether integers are of one kind: they fit in 64 bits, all with a sign or all without. -/
def haveOneKind (integers : List Int) : Bool :=
  integers.all isSigned || integers.all isUnsigned

/-- The integers before the first missing cell. -/
def integersBeforeMissing (cells : List Value) : List Int :=
  (cells.takeWhile fun v => !isMissing v).filterMap fun
    | .int i => some i
    | _ => none

/-- The cells of a column whose cells are given. Numbers are made binary64 numbers where they are
not all integers, but not where integers stand in front that are too large to count as numbers. -/
def ofCells (cells : List Value) : List Value :=
  if cells.all isNumeric && haveOneKind (integersBeforeMissing cells)
      && (ColumnKind.ofCells (cells.map dropNan)) = .mixed then
    cells.map (toFloat ∘ dropNan)
  else cells.map dropNan

end Column

end MapFilter
