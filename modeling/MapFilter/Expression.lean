import MapFilter.Value.Reading

/-!
# Style expressions

The map evaluates filters and paint properties itself, from expressions in its style document.
This is the part of the expression language that filters and metrics need. In the document an
expression is a list whose first item names the operation; literals stand for themselves.

The value of an expression is that for the record of a feature. An absent property is null. Equality
looks at the type as well as the value, and an operation on operands of the wrong type has no value,
which is written as null; a filter whose value is not true hides the feature.

- `Expression.toValue`: the expression as it stands in a document
- `Expression.ofValue?`: the expression that a value in a document stands for
- `Expression.evaluate`: the value for a record
-/

namespace MapFilter

/-- An expression over the properties of a feature. -/
inductive Expression where
  /-- A value that stands for itself. -/
  | literal (v : Value)
  /-- The property of a feature, null if it is absent. -/
  | property (field : FieldName)
  | equal (a b : Expression)
  | different (a b : Expression)
  | atLeast (a b : Expression)
  | atMost (a b : Expression)
  | all (parts : List Expression)
  | ifThenElse (condition yes no : Expression)
  /-- The number in a value, or the fallback where there is none. -/
  | toNumber (input fallback : Expression)
  | toText (input : Expression)
  /-- Whether the input is one of the labels. -/
  | oneOf (input : Expression) (labels : List Value)
  | logarithm (x : Expression)
  | sum (a b : Expression)
  | larger (a b : Expression)
  /-- Linear interpolation of the input between pairs of an input and an output value. -/
  | linear (input : Expression) (stops : List (Nat × Nat))

namespace Expression

/-! ## §1 Writing -/

mutual

/-- The expression as it stands in a style document. -/
def toValue : Expression → Value
  | .literal v => v
  | .property field => .list [.text "get", field]
  | .equal a b => .list [.text "==", a.toValue, b.toValue]
  | .different a b => .list [.text "!=", a.toValue, b.toValue]
  | .atLeast a b => .list [.text ">=", a.toValue, b.toValue]
  | .atMost a b => .list [.text "<=", a.toValue, b.toValue]
  | .all parts => .list (.text "all" :: toValues parts)
  | .ifThenElse c a b => .list [.text "case", c.toValue, a.toValue, b.toValue]
  | .toNumber a b => .list [.text "to-number", a.toValue, b.toValue]
  | .toText a => .list [.text "to-string", a.toValue]
  | .oneOf a labels => .list [.text "match", a.toValue, .list labels, .bool true, .bool false]
  | .logarithm x => .list [.text "ln", x.toValue]
  | .sum a b => .list [.text "+", a.toValue, b.toValue]
  | .larger a b => .list [.text "max", a.toValue, b.toValue]
  | .linear input stops =>
    .list (.text "interpolate" :: .list [.text "linear"] :: input.toValue
      :: stops.flatMap fun (x, y) => [.int x, .int y])

/-- The parts of a conjunction as they stand in a style document. -/
def toValues : List Expression → List Value
  | [] => []
  | e :: rest => e.toValue :: toValues rest

end

/-- The quantity that a chain of fields has in a feature. A null property is passed over like an
absent one. -/
def quantity : List FieldName → Expression
  | [] => .literal (.int 0)
  | field :: rest =>
    .ifThenElse (.different (.property field) (.literal .null))
      (.toNumber (.property field) (quantity rest)) (quantity rest)

/-! ## §2 Reading -/

/-- The stops of an interpolation, each an input and an output. -/
def stops? : List Value → Option (List (Nat × Nat))
  | [] => some []
  | .int x :: .int y :: rest => (stops? rest).map ((x.toNat, y.toNat) :: ·)
  | _ => none

/-- An integer that can be a label: one of those that binary64 numbers tell apart. -/
def isLabelInt : Value → Bool
  | .int i => i.natAbs < 0x20000000000000
  | _ => false

/-- Whether values can be the labels of a choice: there is one, they are texts or integers all alike,
and none is there twice. -/
def areLabels (labels : List Value) : Bool :=
  !labels.isEmpty && (labels.all Value.isText || labels.all isLabelInt) && decide labels.Nodup

mutual

/-- The expression that a value in a style document stands for. -/
def ofValue? : Value → Option Expression
  | .list items => ofItems? items
  | .object _ => none
  | v => some (.literal v)

/-- The expression that a list in a style document stands for. -/
def ofItems? : List Value → Option Expression
  | [.text "get", field] => some (.property field)
  | [.text "==", a, b] => do return .equal (← ofValue? a) (← ofValue? b)
  | [.text "!=", a, b] => do return .different (← ofValue? a) (← ofValue? b)
  | [.text ">=", a, b] => do return .atLeast (← ofValue? a) (← ofValue? b)
  | [.text "<=", a, b] => do return .atMost (← ofValue? a) (← ofValue? b)
  | [.text "case", c, a, b] => do return .ifThenElse (← ofValue? c) (← ofValue? a) (← ofValue? b)
  | [.text "to-number", a, b] => do return .toNumber (← ofValue? a) (← ofValue? b)
  | [.text "to-string", a] => do return .toText (← ofValue? a)
  | [.text "match", a, .list labels, .bool true, .bool false] =>
    if areLabels labels then (ofValue? a).map (.oneOf · labels) else none
  | [.text "ln", x] => do return .logarithm (← ofValue? x)
  | [.text "+", a, b] => do return .sum (← ofValue? a) (← ofValue? b)
  | [.text "max", a, b] => do return .larger (← ofValue? a) (← ofValue? b)
  | .text "interpolate" :: .list [.text "linear"] :: input :: stops => do
    return .linear (← ofValue? input) (← stops? stops)
  | .text "all" :: parts => do return .all (← ofValues? parts)
  | _ => none

def ofValues? : List Value → Option (List Expression)
  | [] => some []
  | v :: rest => do return (← ofValue? v) :: (← ofValues? rest)

end

/-! ## §3 Operations -/

/-- The number in a value, which is a binary64 number also where it is written as an integer. Truth
values are none. -/
def numberOf? : Value → Option Number
  | .int i => some (Number.ofInt i)
  | .float x => some x
  | _ => none

/-- Equality of type and value. Numbers are of one type. -/
def alike (a b : Value) : Bool :=
  match numberOf? a, numberOf? b with
  | some x, some y => x.same y
  | none, none => a == b
  | _, _ => false

def onNumbers (f : Number → Number → Value) (a b : Value) : Value :=
  match numberOf? a, numberOf? b with
  | some x, some y => f x y
  | _, _ => .null

/-- The number that a value is converted to, or the fallback. Null is converted to zero. -/
def convertToNumber (input fallback : Value) : Value :=
  match input with
  | .null => .float (.finite 0)
  | v =>
    match v.toNumber? with
    | .ok (some x) => .float x
    | .ok none | .error _ => fallback

/-- The text that a value is converted to. Null is converted to the empty text. -/
def convertToText : Value → String
  | .null => ""
  | v => v.display

/-- The output for an input between stops: that of the nearest stop outside of them, and on the
straight line between two stops inside. -/
def interpolate (x : Number) : List (Nat × Nat) → Value
  | [] => .null
  | [(_, out)] => .float (.finite out)
  | (a, u) :: (b, v) :: rest =>
    if x.le (.finite a) then .float (.finite u)
    else if x.lt (.finite b) then
      .float (.round (u + ((v : Rat) - u) * (x.toRat - a) / ((b : Rat) - a)))
    else interpolate x ((b, v) :: rest)

/-! ## §4 Values -/

mutual

/-- The value of an expression for a record. -/
def evaluate (r : Record) : Expression → Value
  | .literal v => v
  | .property field => (r.field? field).getD .null
  | .equal a b => .bool (alike (evaluate r a) (evaluate r b))
  | .different a b => .bool (!alike (evaluate r a) (evaluate r b))
  | .atLeast a b => onNumbers (fun x y => .bool (y.le x)) (evaluate r a) (evaluate r b)
  | .atMost a b => onNumbers (fun x y => .bool (x.le y)) (evaluate r a) (evaluate r b)
  | .all parts => .bool (evaluateAll r parts)
  | .ifThenElse condition yes no =>
    if evaluate r condition = .bool true then evaluate r yes else evaluate r no
  | .toNumber input fallback => convertToNumber (evaluate r input) (evaluate r fallback)
  | .toText input => .text (convertToText (evaluate r input))
  | .oneOf input labels => .bool (labels.any (alike (evaluate r input)))
  | .logarithm x => onNumbers (fun x _ => .float x.log) (evaluate r x) (evaluate r x)
  | .sum a b => onNumbers (fun x y => .float (x.add y)) (evaluate r a) (evaluate r b)
  | .larger a b =>
    onNumbers (fun x y => .float (if x.lt y then y else x)) (evaluate r a) (evaluate r b)
  | .linear input stops =>
    onNumbers (fun x _ => interpolate x stops) (evaluate r input) (evaluate r input)

/-- Whether every part is true of a record. -/
def evaluateAll (r : Record) : List Expression → Bool
  | [] => true
  | e :: rest => evaluate r e == .bool true && evaluateAll r rest

end

end Expression

end MapFilter
