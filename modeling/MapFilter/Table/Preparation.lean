import MapFilter.Table.Basic
import MapFilter.Table.Numeric
import MapFilter.Text.Basic
import MapFilter.Value.Reading

/-!
# Preparing a table

Tables are prepared before they are stored: rows that repeat an earlier one are dropped, the date
texts are trimmed, and the columns that are to hold numbers are read as numbers.

- `Preparation`: which columns those are
- `Preparation.apply`: the prepared table, or why there is none
-/

namespace MapFilter

/-- The columns that hold the date text, and numbers. The lists of names come from settings; `none`
is a setting that is no list of names. -/
structure Preparation where
  dateText : Value
  metricFields : Option (List Value)
  dateKey : Value
  alternates : Option (List Value)

/-- Why a table cannot be prepared. -/
inductive PreparationError where
  /-- A list or an object stands where a name or a comparable cell is needed. -/
  | notComparable (v : Value)
  /-- Two columns have the name of the date text. -/
  | severalDateTexts
  /-- Two columns have the name of a column of numbers. -/
  | severalNumberColumns
  /-- An integer in a column of numbers is beyond the largest number. -/
  | integerTooLarge (e : IntegerTooLarge)
  /-- The fields of the metrics are no object. -/
  | noMetricFields
  /-- The alternates are no list of names. -/
  | noAlternates
deriving DecidableEq

def PreparationError.message : PreparationError → String
  | .notComparable v => "unhashable type: '" ++ v.kindName ++ "'"
  | .severalDateTexts => "several columns hold the date text"
  | .severalNumberColumns => "several columns have the name of a column of numbers"
  | .integerTooLarge _ => "int too large to convert to float"
  | .noMetricFields => "the metric fields are no object"
  | .noAlternates => "the alternate date keys are no list"

namespace Preparation

/-- A cell of the date text: its text, trimmed. -/
def trimCell : Value → Value
  | .null => .null
  | v => .text (Text.trim v.display)

/-- The first cell that cannot be compared. -/
def incomparable? (t : Table) : Option Value :=
  t.rows.findSome? fun row => row.find? fun v => !v.isKey

/-- The table without repeated rows. -/
def withoutDuplicates (t : Table) : Except PreparationError Table :=
  match incomparable? t with
  | some v => .error (.notComparable v)
  | none => .ok t.dropDuplicates

/-- Changes the column of a name, if there is one. -/
def changeColumn (several : PreparationError)
    (f : List Value → Except PreparationError (List Value)) (name : String) (t : Table) :
    Except PreparationError Table :=
  match t.columns.idxOf? name with
  | none => .ok t
  | some i =>
    if 1 < t.countColumn name then .error several
    else (f (t.columnAt i)).map (t.setColumnAt i)

def trimDates (dateText : Value) (t : Table) : Except PreparationError Table :=
  match dateText with
  | .text name =>
    if name.isEmpty then .ok t
    else changeColumn .severalDateTexts (fun cells => .ok (cells.map trimCell)) name t
  | .list (x :: xs) => .error (.notComparable (.list (x :: xs)))
  | .object (x :: xs) => .error (.notComparable (.object (x :: xs)))
  | _ => .ok t

/-- Reads the column of a name as numbers. The date texts have a place for missing cells. -/
def readColumn (dateText : Value) (name : String) (t : Table) : Except PreparationError Table :=
  changeColumn .severalNumberColumns
    (fun cells =>
      match Column.toNumbers (dateText == .text name) cells with
      | .ok numbers => .ok numbers
      | .error e => .error (.integerTooLarge e)) name t

/-- Reads columns as numbers, one name after the other. A name that is empty is passed over. -/
def readNumbers (dateText : Value) : List Value → Table → Except PreparationError Table
  | [], t => .ok t
  | .text name :: rest, t =>
    if name.isEmpty then readNumbers dateText rest t
    else do
      let t ← readColumn dateText name t
      readNumbers dateText rest t
  | v :: rest, t =>
    if v.isTruthy && !v.isKey then .error (.notComparable v) else readNumbers dateText rest t

def numberColumns (p : Preparation) : Except PreparationError (List Value) :=
  match p.metricFields, p.alternates with
  | none, _ => .error .noMetricFields
  | some _, none => .error .noAlternates
  | some fields, some alternates => .ok (fields ++ [p.dateKey] ++ alternates)

def apply (p : Preparation) (t : Table) : Except PreparationError Table := do
  let t ← withoutDuplicates t
  let t ← trimDates p.dateText t
  readNumbers p.dateText (← p.numberColumns) t

end Preparation

end MapFilter
