import MapFilter.Value.Basic

/-!
# Conditions of a query

The local copy of the features is queried with a condition made of a text and its parameters.
Column names stand in the text between double quotes, in which a double quote is written twice;
values never do, they are parameters and leave a question mark behind.

A query is written for the columns that are there. They are given as a list of names, as a set of
them, or as a text that a name may be part of; a field of the filter is a column if it is among
them. Some questions have no answer: what lists nothing has no columns, a set is only asked for
keys, and a text only for texts.

- `Columns.has`: whether a field is a column, `Columns.distinct`: the columns as a set
- `Condition.text` and `Condition.params`: the two parts of a rendered condition
- `quantityText`: the number that a chain of columns has in a row
-/

namespace MapFilter.Sql

/-! ## §1 Columns at hand -/

/-- The columns at hand. -/
inductive Columns where
  /-- It is not known which columns there are, and every field is taken for one. -/
  | every
  /-- The names in a list. Fields are compared with them by value. -/
  | listed (names : List Value)
  /-- The names in a set of keys. -/
  | keyed (names : List Value)
  /-- Every part of a text. -/
  | partsOf (text : String)
  /-- What was given lists nothing. -/
  | unusable
deriving DecidableEq

/-- Why it is not known whether a field is a column. -/
inductive ColumnError where
  /-- The field is of a kind that cannot be asked for. -/
  | noName (field : FieldName)
  /-- The columns are no collection. -/
  | noCollection
deriving DecidableEq

/-- Whether a row of characters stands somewhere in another. -/
def occursIn (part : List Char) : List Char → Bool
  | [] => part.isEmpty
  | c :: cs => part.isPrefixOf (c :: cs) || occursIn part cs

namespace Columns

/-- The columns in a value; null says nothing about them. -/
def ofValue : Value → Columns
  | .null => .every
  | .list names => .listed names
  | .object entries => .keyed (entries.map fun entry => .text entry.1)
  | .text s => .partsOf s
  | .bool _ | .int _ | .float _ => .unusable

def has : Columns → FieldName → Except ColumnError Bool
  | .every, _ => .ok true
  | .listed names, field => .ok (field.isAmong names)
  | .keyed names, field =>
    if field.isKey then .ok (field.isAmong names) else .error (.noName field)
  | .partsOf text, .text name => .ok (occursIn name.toList text.toList)
  | .partsOf _, field => .error (.noName field)
  | .unusable, _ => .error .noCollection

/-- The names as a set, each of which must be a key. -/
def keySet (names : List Value) : Except ColumnError Columns :=
  match names.find? fun name => !name.isKey with
  | some name => .error (.noName name)
  | none => .ok (.keyed names)

/-- The columns as a set: the items of a list, or the single characters of a text. -/
def distinct : Columns → Except ColumnError Columns
  | .every => .ok .every
  | .listed names | .keyed names => keySet names
  | .partsOf text => keySet ((Value.text text).items?.getD [])
  | .unusable => .error .noCollection

end Columns

/-! ## §2 Column names -/

/-- The characters of a name with every double quote written twice. -/
def doubleQuotes : List Char → List Char
  | [] => []
  | '"' :: cs => '"' :: '"' :: doubleQuotes cs
  | c :: cs => c :: doubleQuotes cs

/-- A column name as it stands in a query. -/
def identifier (name : String) : String :=
  String.ofList ('"' :: doubleQuotes name.toList ++ ['"'])

/-! ## §3 Conditions -/

/-- A condition on the rows of a table. -/
inductive Condition where
  /-- The condition of a query that asks for everything. -/
  | everything
  | always
  | never
  /-- The text of a cell equals a value. -/
  | textEquals (column : String) (value : Value)
  /-- The text of a cell is one of several values. -/
  | textIn (column : String) (values : List Value)
  /-- The quantity of a chain of columns lies within bounds, each of which may be null. -/
  | within (columns : List String) (minimum maximum : Value)
  /-- All parts hold. -/
  | every (parts : List Condition)

/-- The text of a cell. -/
def textOf (column : String) : String :=
  "CAST(" ++ identifier column ++ " AS VARCHAR)"

/-- The finite number in a cell, null otherwise. -/
def finiteOf (column : String) : String :=
  let cast := "TRY_CAST(" ++ identifier column ++ " AS DOUBLE)"
  "CASE WHEN isfinite(" ++ cast ++ ") THEN " ++ cast ++ " END"

/-- The first finite number of a chain of columns, zero if there is none. -/
def quantityText : List String → String
  | [] => "0"
  | columns => "COALESCE(" ++ String.intercalate ", " (columns.map finiteOf) ++ ", 0)"

/-- The comparisons of a quantity with the bounds that are there, and those bounds. -/
def comparisons (columns : List String) (minimum maximum : Value) : List (String × Value) :=
  (if minimum = .null then [] else [(quantityText columns ++ " >= ?", minimum)])
    ++ (if maximum = .null then [] else [(quantityText columns ++ " <= ?", maximum)])

/-- Parts that must all hold; true if there are none. -/
def conjunction (parts : List String) : String :=
  if parts.isEmpty then "TRUE" else String.intercalate " AND " parts

namespace Condition

mutual

def text : Condition → String
  | .everything => "1=1"
  | .always => "TRUE"
  | .never => "FALSE"
  | .textEquals column _ => textOf column ++ " = ?"
  | .textIn column values =>
    textOf column ++ " IN (" ++ String.intercalate ", " (values.map fun _ => "?") ++ ")"
  | .within columns minimum maximum =>
    conjunction ((comparisons columns minimum maximum).map Prod.fst)
  | .every parts => conjunction (partTexts parts)

def partTexts : List Condition → List String
  | [] => []
  | c :: rest => ("(" ++ c.text ++ ")") :: partTexts rest

end

mutual

/-- The values for the question marks of the text, from left to right. -/
def params : Condition → List Value
  | .everything | .always | .never => []
  | .textEquals _ value => [value]
  | .textIn _ values => values
  | .within columns minimum maximum => (comparisons columns minimum maximum).map Prod.snd
  | .every parts => partParams parts

def partParams : List Condition → List Value
  | [] => []
  | c :: rest => c.params ++ partParams rest

end

end Condition

end MapFilter.Sql
