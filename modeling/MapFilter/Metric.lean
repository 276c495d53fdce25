import MapFilter.Expression
import MapFilter.Selection
import MapFilter.Table.Basic
import MapFilter.Table.Numeric
import MapFilter.Value.Keyed
import MapFilter.Value.Reading

/-!
# Metric weights

A feature weighs `ln (1 + max 0 q)`, where `q` is the quantity of the chosen metric. The weight is
handed to the map as an expression, and a layer takes it up in the paint property that suits its
type: a heat map as the weight of a point, circles as the radius.

- `weight`: the weight of a record
- `weightExpression`: the same for the map
- `Table.weights`: the weights of all rows of a table
- `Metrics`: labels and fields of the metrics
-/

namespace MapFilter

/-! ## §1 Weights -/

/-- The weight of a record through a chain of fields. -/
def weight (r : Record) (fields : List FieldName) : Except QuantityError Number :=
  (quantity r fields).map fun q => q.aboveZero.log1p

/-- The weight of a feature as an expression. -/
def weightExpression (fields : List FieldName) : Expression :=
  .logarithm (.sum (.literal (.int 1)) (.larger (.literal (.int 0)) (.quantity fields)))

/-- The radius of a circle for some weights; in between it is interpolated. -/
def radiusStops : List (Nat × Nat) := [(0, 2), (3, 4), (6, 7), (9, 11)]

/-- The paint properties that depend on the metric, by the type of the layer. -/
def paintProperties (type : Value) (fields : List FieldName) : List (String × Expression) :=
  if type = .text "heatmap" then [("heatmap-weight", weightExpression fields)]
  else if type = .text "circle" then
    [("circle-radius", .linear (weightExpression fields) radiusStops)]
  else []

/-! ## §2 Weights of a table

The weights of all rows of a table are found column by column: every column of the metric is read
as numbers once, and a row takes the first finite number among its cells. That gives each row the
weight of its record; only a negative zero keeps its sign here. -/

/-- The columns of a chain of fields that a table has, read as numbers. -/
def Table.numberColumns (t : Table) : List FieldName → Except QuantityError (List (List Value))
  | [] => .ok []
  | .text name :: rest =>
    match t.column? name with
    | none => t.numberColumns rest
    | some cells =>
      match Column.toNumbers false cells with
      | .ok numbers => (t.numberColumns rest).map (numbers :: ·)
      | .error e => .error (.integerTooLarge e.value)
  | field :: rest => if field.isKey then t.numberColumns rest else .error (.noName field)

/-- Fills the numbers that are still missing from a further column. -/
def fillFrom (values : List (Option Number)) (cells : List Value) : List (Option Number) :=
  (values.zip cells).map fun (value, cell) => value.or (Column.finiteCell? cell)

def Table.quantities (t : Table) (fields : List FieldName) : Except QuantityError (List Number) :=
  (t.numberColumns fields).map fun columns =>
    let values := columns.foldl fillFrom (t.rows.map fun _ => none)
    values.map fun value => value.getD (.finite 0)

def Table.weights (t : Table) (fields : List FieldName) : Except QuantityError (List Number) :=
  (t.quantities fields).map fun quantities => quantities.map fun q => q.clipped.log1p

/-! ## §3 Labels and fields -/

/-- The labels of the metrics and the fields that hold them. -/
structure Metrics where
  labels : Keyed Value
  fields : List (String × List FieldName)

/-- Why settings describe no metrics. -/
inductive MetricsError where
  /-- The labels are neither an object nor a list of pairs. -/
  | noLabels (e : EntriesError)
  /-- The fields of the metrics are no object. -/
  | noFields (fields : Value)
  /-- The fields of a metric are no names. -/
  | noNames (fields : Value)
deriving DecidableEq

/-- The chain of fields that a setting names: one text, or what it lists. -/
def fieldChain? : Value → Option (List FieldName)
  | .text s => some [.text s]
  | v => v.items?

namespace Metrics

def fieldsOf (entry : String × Value) : Except MetricsError (String × List FieldName) :=
  match fieldChain? entry.2 with
  | some chain => .ok (entry.1, chain)
  | none => .error (.noNames entry.2)

def ofSettings (labels fields : Value) : Except MetricsError Metrics :=
  match labels.entries, fields with
  | .error e, _ => .error (.noLabels e)
  | .ok labels, .object fields => (fields.mapM fieldsOf).map (⟨labels, ·⟩)
  | .ok _, fields => .error (.noFields fields)

/-- The label of a key: the key itself if it has none, and an empty text for an empty key. A list
or an object is no key. -/
def label? (m : Metrics) (key : Value) : Option Value :=
  if !key.isTruthy then some (.text "")
  else if key.isKey then some ((m.labels.get? key).getD key)
  else none

/-- The label of a metric: its key if it has none. -/
def metricLabel (m : Metrics) (metric : Metric) : Value :=
  (m.labels.get? (.text metric.key)).getD (.text metric.key)

/-- The chain of fields under a key, by default the key itself. -/
def chain (m : Metrics) (key : Value) : List FieldName :=
  (key.toText?.bind (m.fields.lookup ·)).getD [key]

def fieldNames (m : Metrics) (metric : Metric) : List FieldName :=
  m.chain (.text metric.key)

/-- Whether some field of a chain is among columns, looked for from the left up to the first that
is. -/
def anyAmong (columns : List Value) : List FieldName → Except NoKey Bool
  | [] => .ok false
  | field :: rest =>
    if !field.isKey then .error ⟨field⟩
    else if field.isAmong columns then .ok true
    else anyAmong columns rest

/-- The labelled metrics of which some field is among the columns, which must be keys. -/
def available (m : Metrics) (columns : List Value) : Except NoKey (Keyed Value) :=
  match columns.find? fun column => !column.isKey with
  | some column => .error ⟨column⟩
  | none => m.labels.filterM fun entry => anyAmong columns (m.chain entry.1)

end Metrics

end MapFilter
