import MapFilter.Number.Reading
import MapFilter.Number.Written
import MapFilter.Value.Basic

/-!
# Values as texts and numbers

How values appear in messages and where a value of any kind is compared as text. A text stands for
itself; inside lists and objects, and wherever a message shows an input, it stands between quotes.

The same quantity may stand under different names, as a number or as text, or may be unreadable.
A quantity is read through a chain of field names: the first one whose value reads as a finite
number counts, and a record without one has the quantity zero.

- `Value.quoted`: the value as a message shows it, `Value.display`: as plain text
- `Value.toNumber?`: the finite number in one value
- `quantity`: the number that a chain of fields has in a record
-/

namespace MapFilter

/-! ## §1 Texts -/

namespace Value

mutual

/-- The value as a message shows it. -/
def quoted : Value → String
  | .null => "None"
  | .bool b => if b then "True" else "False"
  | .int i => toString i
  | .float x => x.toText
  | .text s => Text.quoted s
  | .list items => "[" ++ quotedItems items ++ "]"
  | .object entries => "\x7b" ++ quotedEntries entries ++ "\x7d"

def quotedItems : List Value → String
  | [] => ""
  | [x] => quoted x
  | x :: xs => quoted x ++ ", " ++ quotedItems xs

def quotedEntries : List (String × Value) → String
  | [] => ""
  | [(k, x)] => Text.quoted k ++ ": " ++ quoted x
  | (k, x) :: xs => Text.quoted k ++ ": " ++ quoted x ++ ", " ++ quotedEntries xs

end

/-- The value as plain text: a text is itself, everything else is written as in a message. -/
def display : Value → String
  | .text s => s
  | v => v.quoted

/-- The plain text of a value that is present, and the empty text otherwise. -/
def displayOrEmpty (v : Value) : String :=
  if v.isTruthy then v.display else ""

/-- The text that a key has as a name in a JSON text. -/
def jsonName : Value → String
  | .null => "null"
  | .bool b => if b then "true" else "false"
  | .float .nan => "NaN"
  | .float (.infinite negative) => if negative then "-Infinity" else "Infinity"
  | v => v.display

/-- The name of the kind of a value, as messages show it. -/
def kindName : Value → String
  | .null => "NoneType"
  | .bool _ => "bool"
  | .int _ => "int"
  | .float _ => "float"
  | .text _ => "str"
  | .list _ => "list"
  | .object _ => "dict"

end Value

/-! ## §2 Numbers -/

/-- The number if it is finite. -/
def Number.finite? (x : Number) : Option Number :=
  if x.isFinite then some x else none

/-- The finite number in a value: truth values count as one and zero, texts are read as typed
numbers, and infinities and everything else have none. -/
def Value.toNumber? : Value → Except IntegerTooLarge (Option Number)
  | .bool b => .ok (some (.finite (if b then 1 else 0)))
  | .int i =>
    match Number.ofInt i with
    | .infinite _ => .error ⟨i⟩
    | x => .ok (some x)
  | .float x => .ok x.finite?
  | .text s => .ok ((Number.ofTyped? s).bind Number.finite?)
  | .null | .list _ | .object _ => .ok none

/-- Why a record has no quantity. -/
inductive QuantityError where
  /-- A field on the way is a list or an object. -/
  | noName (field : FieldName)
  /-- An integer is beyond the largest binary64 number. -/
  | integerTooLarge (value : Int)
deriving DecidableEq

/-- The first finite number under the fields of a chain, zero if there is none. -/
def quantity (r : Record) : List FieldName → Except QuantityError Number
  | [] => .ok (.finite 0)
  | field :: rest =>
    match r.lookFor field with
    | .error e => .error (.noName e.value)
    | .ok none => quantity r rest
    | .ok (some v) =>
      match v.toNumber? with
      | .error e => .error (.integerTooLarge e.value)
      | .ok (some x) => .ok x
      | .ok none => quantity r rest

end MapFilter
