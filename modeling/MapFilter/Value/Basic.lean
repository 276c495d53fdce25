import MapFilter.Number.Basic
import MapFilter.Text.Encoding

/-!
# Values

Feature properties, request bodies, configuration settings and style documents hold values of one
kind: null, truth values, integers, binary64 numbers, texts, lists, and objects whose entries keep
their order.

- `Value.isTruthy`: what counts as present where a setting or an input may be left empty
- `Value.same`: equality in value, where `1`, `1.0` and `true` are equal
- `Value.items?`: what a value lists
- structural equality is decidable, so values can be compared as data as well
-/

namespace MapFilter

/-- A null, scalar, list or object value. An integer and a binary64 number of equal value are
different data: they are written differently. -/
inductive Value where
  | null
  | bool (b : Bool)
  | int (i : Int)
  | float (x : Number)
  | text (s : String)
  | list (items : List Value)
  | object (entries : List (String × Value))

/-- Named values in order, such as the properties of one map feature. -/
abbrev Record := List (String × Value)

namespace Value

instance : Inhabited Value := ⟨.null⟩

/-! ## §1 Structural equality -/

mutual

/-- Whether two values are the same data. -/
def beq : Value → Value → Bool
  | .null, .null => true
  | .bool a, .bool b => a == b
  | .int a, .int b => a == b
  | .float a, .float b => a == b
  | .text a, .text b => a == b
  | .list xs, .list ys => beqList xs ys
  | .object xs, .object ys => beqEntries xs ys
  | _, _ => false

def beqList : List Value → List Value → Bool
  | [], [] => true
  | x :: xs, y :: ys => beq x y && beqList xs ys
  | _, _ => false

def beqEntries : List (String × Value) → List (String × Value) → Bool
  | [], [] => true
  | (k, x) :: xs, (l, y) :: ys => k == l && beq x y && beqEntries xs ys
  | _, _ => false

end

mutual

theorem beq_iff (a b : Value) : beq a b = true ↔ a = b := by
  cases a <;> cases b <;> simp [beq]
  · exact beqList_iff _ _
  · exact beqEntries_iff _ _

theorem beqList_iff (xs ys : List Value) : beqList xs ys = true ↔ xs = ys := by
  match xs, ys with
  | [], [] => simp [beqList]
  | [], _ :: _ => simp [beqList]
  | _ :: _, [] => simp [beqList]
  | x :: xs, y :: ys => simp [beqList, beq_iff x y, beqList_iff xs ys]

theorem beqEntries_iff (xs ys : List (String × Value)) : beqEntries xs ys = true ↔ xs = ys := by
  match xs, ys with
  | [], [] => simp [beqEntries]
  | [], _ :: _ => simp [beqEntries]
  | _ :: _, [] => simp [beqEntries]
  | (k, x) :: xs, (l, y) :: ys => simp [beqEntries, beq_iff x y, beqEntries_iff xs ys]

end

instance : DecidableEq Value := fun a b => decidable_of_iff _ (beq_iff a b)

/-! ## §2 Kinds -/

/-- Whether the value counts as present: not null, false, zero or empty. -/
def isTruthy : Value → Bool
  | .null => false
  | .bool b => b
  | .int i => i != 0
  | .float x => !x.isZero
  | .text s => !s.isEmpty
  | .list items => !items.isEmpty
  | .object entries => !entries.isEmpty

def toText? : Value → Option String
  | .text s => some s
  | _ => none

/-- Whether the value is a text. -/
def isText : Value → Bool
  | .text _ => true
  | _ => false

def toList? : Value → Option (List Value)
  | .list items => some items
  | _ => none

def toRecord? : Value → Option Record
  | .object entries => some entries
  | _ => none

/-- What a value lists, where a list is needed: the items of a list, the names of an object, or the
single characters of a text. -/
def items? : Value → Option (List Value)
  | .list items => some items
  | .object entries => some (entries.map fun entry => .text entry.1)
  | .text s => some ((Text.codePoints s.toList).map fun p => .text (String.ofList p.marked))
  | _ => none

/-- The number that takes part in comparisons: a truth value counts as zero or one, and an
integer is taken exactly, whatever its size. -/
def toExact? : Value → Option Number
  | .bool b => some (.finite (if b then 1 else 0))
  | .int i => some (.finite i)
  | .float x => some x
  | _ => none

/-- Whether the value may be a key of a table. Lists and objects may not. -/
def isKey : Value → Bool
  | .list _ | .object _ => false
  | _ => true

/-! ## §3 Equality in value -/

mutual

/-- Equality in value: numbers and truth values by their exact value, lists item by item, objects
entry by entry without regard to order. -/
def same : Value → Value → Bool
  | .null, .null => true
  | .text a, .text b => a == b
  | .list xs, .list ys => sameList xs ys
  | .object xs, .object ys => xs.length == ys.length && sameEntries xs ys
  | a, b =>
    match a.toExact?, b.toExact? with
    | some x, some y => x.same y
    | _, _ => false

/-- Lists of equal length whose items are equal in value. -/
def sameList : List Value → List Value → Bool
  | [], [] => true
  | x :: xs, y :: ys => same x y && sameList xs ys
  | _, _ => false

/-- Every entry of the first object has an equal entry in the second. -/
def sameEntries : List (String × Value) → List (String × Value) → Bool
  | [], _ => true
  | (k, x) :: xs, ys =>
    (match ys.lookup k with
      | some y => same x y
      | none => false) && sameEntries xs ys

end

/-- Whether the value equals one of several. -/
def isAmong (v : Value) (vs : List Value) : Bool :=
  vs.any v.same

end Value

/-- A list or an object stands where a key is needed. -/
structure NoKey where
  value : Value
deriving DecidableEq

/-! ## §4 Records -/

namespace Record

def get? (r : Record) (name : String) : Option Value :=
  r.lookup name

def has (r : Record) (name : String) : Bool :=
  (r.get? name).isSome

def names (r : Record) : List String :=
  r.map Prod.fst

/-- The record with a value under a name: in place if the name is there, at the end otherwise. -/
def insert (r : Record) (name : String) (v : Value) : Record :=
  if r.any (·.1 == name) then r.map fun entry => if entry.1 == name then (name, v) else entry
  else r ++ [(name, v)]

/-- The record with a value under a name that had none; other records stay. -/
def insertNew (r : Record) (name : String) (v : Value) : Record :=
  if r.any (·.1 == name) then r else r ++ [(name, v)]

/-- The record with all entries of another put in, in order. -/
def insertAll (r : Record) (entries : Record) : Record :=
  entries.foldl (fun acc entry => acc.insert entry.1 entry.2) r

end Record

/-- A field as it is configured. A text names the property of that name; a setting of another
kind names no property of any record. -/
abbrev FieldName := Value

namespace Record

/-- The property that a configured field names. -/
def field? (r : Record) : FieldName → Option Value
  | .text name => r.get? name
  | _ => none

/-- The property that a configured field names. A list or an object cannot be looked for. -/
def lookFor (r : Record) (field : FieldName) : Except NoKey (Option Value) :=
  if field.isKey then .ok (r.field? field) else .error ⟨field⟩

end Record

end MapFilter
