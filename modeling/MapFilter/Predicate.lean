import MapFilter.Expression
import MapFilter.Sql.Basic
import MapFilter.Value.Reading

/-!
# Predicates on features

A filter is a predicate on the records of the map's features. It has three readings that answer
the same question: `holds` decides it for a record, `toExpression` hands it to the map, and
`toCondition` hands it to a query over the local copy of the features.

- `Predicate.all`: every part holds; no part at all holds of every record
- `Predicate.equals`: a property is exactly this text
- `Predicate.within`: a quantity lies within inclusive bounds
- `Predicate.member`: the text of a property is one of several
- `Predicate.unspecified`: a clause of which nothing is known; no reading of it succeeds
-/

namespace MapFilter

/-- A predicate on the record of a feature. A bound that is null is absent. -/
inductive Predicate where
  | all (parts : List Predicate)
  | equals (field : FieldName) (literal : Value)
  | within (field : FieldName) (minimum maximum : Value) (fallbacks : List FieldName)
  | member (field : FieldName) (values : List Value)
  | unspecified

namespace Predicate

instance : Inhabited Predicate := ⟨.all []⟩

/-! ## §1 Structural equality -/

mutual

def beq : Predicate → Predicate → Bool
  | .all xs, .all ys => beqList xs ys
  | .equals f a, .equals g b => f == g && a == b
  | .within f a b c, .within g d e h => f == g && a == d && b == e && c == h
  | .member f a, .member g b => f == g && a == b
  | .unspecified, .unspecified => true
  | _, _ => false

def beqList : List Predicate → List Predicate → Bool
  | [], [] => true
  | x :: xs, y :: ys => beq x y && beqList xs ys
  | _, _ => false

end

mutual

theorem beq_iff_eq (p q : Predicate) : beq p q = true ↔ p = q := by
  cases p <;> cases q <;> simp [beq, and_assoc]
  exact beqList_iff_eq _ _

theorem beqList_iff_eq (xs ys : List Predicate) : beqList xs ys = true ↔ xs = ys := by
  match xs, ys with
  | [], [] => simp [beqList]
  | [], _ :: _ => simp [beqList]
  | _ :: _, [] => simp [beqList]
  | x :: xs, y :: ys => simp [beqList, beq_iff_eq x y, beqList_iff_eq xs ys]

end

instance : DecidableEq Predicate := fun p q => decidable_of_iff _ (beq_iff_eq p q)

/-! ## §2 Reading a record -/

/-- Why a predicate has no answer for a record. -/
inductive MatchError where
  /-- There is no quantity. -/
  | quantity (e : QuantityError)
  /-- A field is a list or an object. -/
  | noName (field : FieldName)
  /-- A bound is no number. -/
  | incomparable (bound : Value)
  | unspecified
deriving DecidableEq

/-- The fields through which a quantity is read: the field itself and the fallbacks, without those
that repeat it. -/
def chain (field : FieldName) (fallbacks : List FieldName) : List FieldName :=
  field :: fallbacks.filter fun other => !other.same field

/-- Whether the bound is absent or on the right side of the number. -/
def respects (holds : Number → Bool) (bound : Value) : Except MatchError Bool :=
  match bound with
  | .null => .ok true
  | v =>
    match v.toExact? with
    | some b => .ok (holds b)
    | none => .error (.incomparable v)

/-- Whether a number lies within inclusive bounds. -/
def isWithin (minimum maximum : Value) (x : Number) : Except MatchError Bool := do
  -- The upper bound is looked at only if the lower one is respected.
  if ← respects (fun b => !x.lt b) minimum then respects (fun b => !b.lt x) maximum
  else return false

/-- Whether a property is exactly this text. -/
def isText (property : Option Value) (literal : Value) : Bool :=
  match property with
  | some (.text s) => literal == .text s
  | _ => false

def isMember (property : Option Value) (values : List Value) : Bool :=
  match property with
  | none | some .null => false
  | some v => values.contains (.text v.display)

/-- What a test says of the property that a field names. -/
def onProperty (r : Record) (field : FieldName) (test : Option Value → Bool) :
    Except MatchError Bool :=
  match r.lookFor field with
  | .ok property => .ok (test property)
  | .error e => .error (.noName e.value)

mutual

/-- Whether the predicate holds of a record. -/
def holds (r : Record) : Predicate → Except MatchError Bool
  | .all parts => holdsAll r parts
  | .equals field literal => onProperty r field (isText · literal)
  | .within field minimum maximum fallbacks =>
    match MapFilter.quantity r (chain field fallbacks) with
    | .ok x => isWithin minimum maximum x
    | .error e => .error (.quantity e)
  | .member field values => onProperty r field (isMember · values)
  | .unspecified => .error .unspecified

/-- Whether every part holds of a record, tried from the left up to the first that does not. -/
def holdsAll (r : Record) : List Predicate → Except MatchError Bool
  | [] => .ok true
  | p :: rest =>
    match holds r p with
    | .ok true => holdsAll r rest
    | other => other

end

/-! ## §3 Handing it to the map -/

/-- The comparisons of a quantity with the bounds that are there. -/
def bounds (value : Expression) (minimum maximum : Value) : List Expression :=
  (if minimum = .null then [] else [.atLeast value (.literal minimum)])
    ++ (if maximum = .null then [] else [.atMost value (.literal maximum)])

mutual

/-- The predicate as an expression; `none` if a clause is unspecified. -/
def toExpression? : Predicate → Option Expression
  | .all parts => (toExpressions? parts).map .all
  | .equals field literal => some (.equal (.property field) (.literal literal))
  | .within field minimum maximum fallbacks =>
    match bounds (.quantity (chain field fallbacks)) minimum maximum with
    | [one] => some one
    | parts => some (.all parts)
  | .member field values =>
    if values.isEmpty then some (.literal (.bool false))
    else some (.oneOf (.toText (.property field)) values)
  | .unspecified => none

def toExpressions? : List Predicate → Option (List Expression)
  | [] => some []
  | p :: rest =>
    match toExpression? p, toExpressions? rest with
    | some e, some es => some (e :: es)
    | _, _ => none

end

/-! ## §4 Handing it to a query -/

/-- Why a predicate has no query condition. -/
inductive ConditionError where
  | unspecified
  /-- A field that is no text is a column, but has no name to write. -/
  | unnamedColumn (field : FieldName)
  /-- It is not known whether a field is a column. -/
  | columns (e : Sql.ColumnError)
deriving DecidableEq

def columnName : FieldName → Except ConditionError String
  | .text name => .ok name
  | other => .error (.unnamedColumn other)

/-- Whether a field is a column at hand. -/
def isColumn (columns : Sql.Columns) (field : FieldName) : Except ConditionError Bool :=
  (columns.has field).mapError .columns

/-- The name of the column that a field is, if it is at hand. -/
def column? (columns : Sql.Columns) (field : FieldName) :
    Except ConditionError (Option String) := do
  if ← isColumn columns field then return some (← columnName field)
  else return none

def columnChain (columns : Sql.Columns) (fields : List FieldName) :
    Except ConditionError (List String) := do
  -- All fields are looked for before the first one is named.
  (← fields.filterM (isColumn columns)).mapM columnName

mutual

/-- The predicate as a query condition over the columns at hand. A clause on a column that is not
there is never true, but a quantity without columns is zero. -/
def toCondition (columns : Sql.Columns) : Predicate → Except ConditionError Sql.Condition
  | .all parts => (toConditions columns parts).map .every
  | .equals field literal => do
    match ← column? columns field with
    | some name => return .textEquals name literal
    | none => return .never
  | .within field minimum maximum fallbacks => do
    return .within (← columnChain columns (chain field fallbacks)) minimum maximum
  | .member field values =>
    if values.isEmpty then .ok .never
    else do
      match ← column? columns field with
      | some name => return .textIn name values
      | none => return .never
  | .unspecified => .error .unspecified

def toConditions (columns : Sql.Columns) :
    List Predicate → Except ConditionError (List Sql.Condition)
  | [] => .ok []
  | p :: rest => do
    let first ← toCondition columns p
    let others ← toConditions columns rest
    return first :: others

end

/-- The condition of a whole query over the set of columns: a conjunction without parts asks for
everything. -/
def toQuery (columns : Sql.Columns) (parts : List Predicate) :
    Except ConditionError Sql.Condition :=
  if parts.isEmpty then .ok .everything
  else do
    let columns ← columns.distinct.mapError .columns
    toCondition columns (.all parts)

end Predicate

end MapFilter
