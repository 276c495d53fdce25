import MapFilter.Sql.Basic
import MapFilter.Sql.Stored
import MapFilter.Value.Reading

/-!
# What a query condition means

A condition is true, false or unknown of a row. A cell that is missing makes a comparison unknown,
and a query keeps the rows of which its condition is true. A conjunction is settled by its first
part that is not true.

Parameters have types. Where one is no text, the text of a cell is cast to its type before they are
compared, and a text parameter that is compared with a number is cast to a number. A cast that fails
fails the query. A number that is no number counts as greater than all others.

- `Condition.check`: why a query with the condition fails before it looks at any row
- `Condition.evaluate`: the truth value of a condition for a row
-/

namespace MapFilter.Sql

/-! ## §1 Errors -/

/-- Why a query fails. -/
inductive QueryError where
  /-- A column without a name cannot be written. -/
  | emptyName
  /-- An integer parameter takes more than 128 bits. -/
  | integerTooLarge (value : Int)
  /-- A parameter of this type cannot be compared with a number. -/
  | incomparable (value : Value)
  /-- A text cannot be cast to a type. -/
  | conversion (text : String)
deriving DecidableEq

/-- The column names that a condition is about. -/
def Condition.columnNames : Condition → List String
  | .everything | .always | .never => []
  | .textEquals column _ | .textIn column _ => [column]
  | .within columns minimum maximum =>
    if minimum = .null && maximum = .null then [] else columns
  | .every parts => namesOfParts parts
where
  /-- The column names that parts are about. -/
  namesOfParts : List Condition → List String
    | [] => []
    | c :: rest => c.columnNames ++ namesOfParts rest

/-- Whether a bound can be compared with a quantity. Without columns the quantity is an integer,
and a truth value counts as one. -/
def isBound (columns : List String) : Value → Bool
  | .list _ | .object _ => false
  | .bool _ => columns.isEmpty
  | _ => true

/-- The first bound in a condition that cannot be compared. -/
def Condition.incomparable? : Condition → Option Value
  | .within columns minimum maximum => [minimum, maximum].find? fun v => !isBound columns v
  | .every parts => incomparableOfParts? parts
  | .everything | .always | .never | .textEquals _ _ | .textIn _ _ => none
where
  /-- The first bound in parts that cannot be compared. -/
  incomparableOfParts? : List Condition → Option Value
    | [] => none
    | c :: rest => c.incomparable?.or (incomparableOfParts? rest)

/-- The first parameter that is too large an integer. -/
def tooLarge? (params : List Value) : Option Int :=
  params.findSome? fun
    | .int i => if isStorable i then none else some i
    | _ => none

/-- Why a query with the condition, about further columns, fails before it looks at any row. -/
def Condition.check (c : Condition) (further : List String) : Except QueryError Unit :=
  if (c.columnNames ++ further).any String.isEmpty then .error .emptyName
  else
    match tooLarge? c.params, c.incomparable? with
    | some i, _ => .error (.integerTooLarge i)
    | none, some v => .error (.incomparable v)
    | none, none => .ok ()

/-! ## §2 Cells -/

/-- The text that a cell is cast to; `none` for a missing cell. -/
def castText : Value → Option String
  | .null => none
  | .bool b => some (if b then "true" else "false")
  | v => some v.display

/-- The finite number that a cell is cast to; `none` for every other cell. -/
def castFinite (v : Value) : Option Number :=
  match storedNumber v with
  | .float x => x.finite?
  | .text s => (castNumber? s).bind Number.finite?
  | _ => none

/-- The cell in a column; missing if there is none. -/
def cell (row : Record) (column : String) : Value :=
  (row.get? column).getD .null

/-- The quantity of a chain of columns in a row. -/
def rowQuantity (row : Record) (columns : List String) : Number :=
  (columns.findSome? fun column => castFinite (cell row column)).getD (.finite 0)

/-! ## §3 Types -/

/-- Types of integers, by their size. -/
inductive IntegerType where
  | int32
  | int64
  | nat64
  | int128
  | nat128
deriving DecidableEq

namespace IntegerType

/-- Whether a type has an integer. -/
def holds : IntegerType → Int → Bool
  | .int32, i => -0x80000000 ≤ i && i < 0x80000000
  | .int64, i => Column.isSigned i
  | .nat64, i => Column.isUnsigned i
  | .int128, i => -0x80000000000000000000000000000000 ≤ i && i < 0x80000000000000000000000000000000
  | .nat128, i => 0 ≤ i && i < 0x100000000000000000000000000000000

/-- The smallest type that has an integer. -/
def ofInt (i : Int) : IntegerType :=
  ([.int32, .int64, .nat64, .int128].find? fun type => type.holds i).getD .nat128

def join : IntegerType → IntegerType → IntegerType
  | .int32, .int32 => .int32
  | .int32, .int64 | .int64, .int32 | .int64, .int64 => .int64
  | .nat64, .nat64 => .nat64
  | .nat128, .nat64 | .nat64, .nat128 | .nat128, .nat128 => .nat128
  | _, _ => .int128

end IntegerType

/-- What the text of a cell is compared as. -/
inductive OperandType where
  | text
  | truth
  | integer (type : IntegerType)
  | number
  /-- A list or an object. -/
  | compound
deriving DecidableEq

namespace OperandType

def ofValue : Value → OperandType
  | .null | .text _ => .text
  | .bool _ => .truth
  | .int i => .integer (.ofInt i)
  | .float _ => .number
  | .list _ | .object _ => .compound

/-- The type for operands of two types: all types but texts go before texts, and numbers before
truth values. -/
def join : OperandType → OperandType → OperandType
  | .compound, _ | _, .compound => .compound
  | .number, _ | _, .number => .number
  | .integer a, .integer b => .integer (a.join b)
  | .integer a, _ | _, .integer a => .integer a
  | .truth, _ | _, .truth => .truth
  | .text, .text => .text

/-- The type for the text of a cell and parameters. -/
def ofValues (values : List Value) : OperandType :=
  values.foldl (fun type v => type.join (ofValue v)) .text

/-- The value of a text as an operand. -/
def ofText? (type : OperandType) (s : String) : Option Value :=
  match type with
  | .text => some (.text s)
  | .truth => (castTruth? s).map .bool
  | .integer t => ((castInteger? s).filter t.holds).map .int
  | .number => (castNumber? s).map .float
  | .compound => none

/-- A parameter as an operand. -/
def cast (type : OperandType) (v : Value) : Except QueryError Value :=
  match v with
  | .text s =>
    match type.ofText? s with
    | some w => .ok w
    | none => .error (.conversion s)
  | .bool _ | .int _ =>
    match type with
    | .number => .ok (storedNumber v)
    | .integer _ => .ok (Column.truthToInt v)
    | _ => .ok v
  | v => .ok v

end OperandType

/-! ## §4 Comparisons -/

/-- Whether two operands are equal. A number that is no number equals itself. -/
def equalOperands : Value → Value → Bool
  | .float .nan, .float .nan => true
  | a, b => a.same b

/-- Whether the text of a cell equals one of some parameters. -/
def isAmong (v : Value) (values : List Value) : Except QueryError (Option Bool) :=
  let values := values.filter (· ≠ .null)
  match castText v with
  | none => .ok none
  | some s => do
    if values.isEmpty then return none
    let type := OperandType.ofValues values
    let operand ← type.cast (.text s)
    let others ← values.mapM type.cast
    return some (others.any (equalOperands operand))

/-- Whether a number is below another or equal to it. No number is greater than one that is no
number. -/
def isAtMost : Number → Number → Bool
  | _, .nan => true
  | .nan, _ => false
  | x, y => x.le y

/-- A bound as a number to compare with a quantity. Without columns the quantity is an integer, and
so is the bound in a text. -/
def boundNumber (columns : List String) (bound : Value) : Except QueryError Number :=
  match bound with
  | .text s =>
    let number :=
      if columns.isEmpty then ((castInteger? s).filter IntegerType.int32.holds).map Number.ofInt
      else castNumber? s
    match number with
    | some x => .ok x
    | none => .error (.conversion s)
  | v =>
    match storedNumber v with
    | .float x => .ok x
    | other => .error (.incomparable other)

/-- Whether a quantity respects a bound; an absent bound is respected. -/
def respects (compare : Number → Number → Bool) (columns : List String) (x : Number)
    (bound : Value) : Except QueryError Bool :=
  match bound with
  | .null => .ok true
  | v => (boundNumber columns v).map (compare x)

/-! ## §5 Three truth values -/

namespace Condition

mutual

/-- The truth value of a condition for a row, unknown if there is none. -/
def evaluate (row : Record) : Condition → Except QueryError (Option Bool)
  | .everything | .always => .ok (some true)
  | .never => .ok (some false)
  | .textEquals column value => isAmong (cell row column) [value]
  | .textIn column values => isAmong (cell row column) values
  | .within columns minimum maximum => do
    let x := rowQuantity row columns
    if ← respects (fun a b => isAtMost b a) columns x minimum then
      return some (← respects isAtMost columns x maximum)
    else return some false
  | .every parts => evaluateAll row parts

/-- The truth value of a conjunction for a row: true, or that of the first part that is not. -/
def evaluateAll (row : Record) : List Condition → Except QueryError (Option Bool)
  | [] => .ok (some true)
  | c :: rest =>
    match evaluate row c with
    | .ok (some true) => evaluateAll row rest
    | other => other

end

/-- Whether a query keeps a row: its condition is true of it. -/
def keeps (c : Condition) (row : Record) : Except QueryError Bool :=
  (c.evaluate row).map (· == some true)

/-- The condition with the columns that its names mean among those of a table. -/
def resolve (columns : List String) : Condition → Condition
  | .everything => .everything
  | .always => .always
  | .never => .never
  | .textEquals column value => .textEquals (named column) value
  | .textIn column values => .textIn (named column) values
  | .within names minimum maximum => .within (names.map named) minimum maximum
  | .every parts => .every (resolveParts columns parts)
where
  /-- The column that a name means. -/
  named (name : String) : String :=
    (storedColumn? columns name).getD name
  /-- Parts with the columns that their names mean. -/
  resolveParts (columns : List String) : List Condition → List Condition
    | [] => []
    | c :: rest => c.resolve columns :: resolveParts columns rest

end Condition

end MapFilter.Sql
