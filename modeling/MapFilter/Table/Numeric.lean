import MapFilter.Number.Reading
import MapFilter.Table.Kind

/-!
# Reading columns as numbers

A column that is to hold numbers is read cell by cell. A text stands for a plain number, and what
cannot be read is missing. A column in which every cell is an integer keeps integers; a column of
numbers or of truth values stays as it is.
-/

namespace MapFilter.Column

/-- Whether some column of integers can hold the integer. -/
def isStorable (i : Int) : Bool :=
  isSigned i || isUnsigned i

/-- A cell that was read: as it stands in a column of integers if it can, and in one of binary64
numbers, where zero may have a sign. -/
structure NumberCell where
  exact : Value
  float : Value

/-- A cell that stands for no number. -/
def NumberCell.missing : NumberCell := ⟨.null, .null⟩

/-- The number that a text stands for, missing if it stands for none. It ends at the character of
code zero, behind which nothing may stand if it is an integer. -/
def readText (s : String) : NumberCell :=
  let number := String.ofList (s.toList.takeWhile (· != '\x00'))
  match Number.ofPlain? number, Number.plainInt? number with
  | none, _ => .missing
  | some x, none => ⟨.float x, .float x⟩
  | some x, some i =>
    if number != s || Number.integerDigits < number.toList.countP Number.isAsciiDigit then .missing
    else ⟨if isStorable i then .int i else .float x, .float x⟩

/-- The number that a cell stands for, missing if it stands for none. -/
def readCell : Value → Except IntegerTooLarge NumberCell
  | .text s => .ok (readText s)
  | .int i =>
    match Number.ofInt i with
    | .infinite _ => .error ⟨i⟩
    | x => .ok ⟨if isStorable i then .int i else .float x, .float x⟩
  | .list _ | .object _ => .ok .missing
  | v => .ok ⟨dropNan v, toFloat (dropNan v)⟩

def isTruth : Value → Bool
  | .bool _ => true
  | _ => false

def isInteger : Value → Bool
  | .int _ => true
  | _ => false

def isFloat : Value → Bool
  | .float _ => true
  | _ => false

/-- The integer of 64 bits with a sign that a cell is equal to. -/
def equalInteger? : Value → Option Int
  | .bool b => some (if b then 1 else 0)
  | .int i => if isSigned i then some i else none
  | .float x => x.toInt?.filter isSigned
  | _ => none

/-- The cells as integers, if the first one is an integer and all others are equal to one. -/
def asIntegers? (cells : List Value) : Option (List Value) :=
  if (cells.head?.map isInteger).getD false then
    cells.mapM fun v => (equalInteger? v).map Value.int
  else none

/-- Cells that were read, with all numbers of one kind. A missing cell is a binary64 number, unless
the column has a place for missing cells. -/
def unify (missingAllowed : Bool) (cells : List NumberCell) : List Value :=
  let exact := cells.map NumberCell.exact
  let integers := exact.filterMap fun
    | .int i => some i
    | _ => none
  if exact.any isFloat || (!missingAllowed && exact.any isMissing) || !haveOneKind integers then
    cells.map NumberCell.float
  else if exact.all isTruth then exact
  else exact.map truthToInt

/-- The cells of a column, read as numbers. -/
def toNumbers (missingAllowed : Bool) (cells : List Value) :
    Except IntegerTooLarge (List Value) :=
  if (ColumnKind.ofCells cells).isNumeric then .ok cells
  else
    match asIntegers? cells with
    | some integers => .ok integers
    | none => (cells.mapM readCell).map (unify missingAllowed)

/-- The finite number in a cell of a column of numbers. -/
def finiteCell? : Value → Option Number
  | .bool b => some (.finite (if b then 1 else 0))
  | .int i => (Number.ofInt i) |> fun x => if x.isFinite then some x else none
  | .float x => if x.isFinite then some x else none
  | _ => none

end MapFilter.Column
