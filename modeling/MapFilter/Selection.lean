import MapFilter.Date.Basic
import MapFilter.Text.Basic
import MapFilter.Value.Reading

/-!
# Selections

What the user of the map has chosen: at most one branch, at most one product group, a range of
days, and the metric that weighs the features.

An exact selector on the empty text is a constraint. It is a different selection from no selector
at all.

- `FilterState`: all selections
- `Payload.toState?`: the selections that a request names
-/

namespace MapFilter

/-! ## §1 Selectors -/

/-- Either no constraint or one text that a property must equal. -/
inductive Selector where
  | any
  | exact (text : String)
deriving DecidableEq, Inhabited

namespace Selector

/-- The text to match, if there is a constraint. -/
def text? : Selector → Option String
  | .any => none
  | .exact s => some s

/-- The exact selector for a value, which is matched by its text. Null has none. -/
def ofValue? : Value → Option Selector
  | .null => none
  | v => some (.exact v.display)

/-- The selector as a message shows it. -/
def quoted : Selector → String
  | .any => "Any"
  | .exact s => "Exact(" ++ Text.quoted s ++ ")"

end Selector

/-! ## §2 Metrics -/

/-- What a feature weighs on the map: the amount of its sales or the number of its tickets. -/
inductive Metric where
  | sales
  | tickets
deriving DecidableEq, Inhabited

namespace Metric

/-- The name that configuration and answers use. -/
def key : Metric → String
  | .sales => "sales"
  | .tickets => "tickets"

/-- The spellings of the ticket metric. -/
def ticketNames : List String := ["tickets", "ticketcount", "ticket_count"]

/-- The metric that an input names, in any case and with blanks around it. Everything that does
not name the tickets means the sales. -/
def ofValue (v : Value) : Metric :=
  if ticketNames.contains (Text.lower (Text.trim v.displayOrEmpty)) then .tickets else .sales

end Metric

/-! ## §3 Filter states -/

/-- The bounds of a range of days as the user typed them. A bound that is null, empty or zero is
absent. -/
structure DateBounds where
  start : Value
  stop : Value
deriving DecidableEq, Inhabited

namespace DateBounds

/-- Neither bound is there. -/
def isEmpty (b : DateBounds) : Bool :=
  !b.start.isTruthy && !b.stop.isTruthy

def keys (b : DateBounds) : Option Int × Option Int :=
  (DateKey.encodeValue b.start, DateKey.encodeValue b.stop)

end DateBounds

/-- All selections of the user. The defaults are those of a cleared filter. -/
structure FilterState where
  branch : Selector := .any
  group : Selector := .any
  dates : Option DateBounds := none
  metric : Metric := .sales
deriving DecidableEq, Inhabited

/-! ## §4 Selections in a request

A request names its selections in an object. Selectors come from drop-down lists, where the
placeholder for everything posts an empty text; `{"exact": ""}` asks for the empty text itself.
Dates are texts, of which blank ones count as absent.

Only an object is a request. Within an object every value of every field is a selection. -/

namespace Payload

/-- The selector that a drop-down value asks for. -/
def selector : Value → Selector
  | .null | .text "" => .any
  | .object entries =>
    match entries.lookup "exact" with
    | some v => (Selector.ofValue? v).getD .any
    | none => .any
  | v => .exact v.display

/-- The text of a date bound; null for a bound that is absent or blank. -/
def dateText : Value → Value
  | .null => .null
  | v => if Text.isAllBlank v.display then .null else .text v.display

/-- The selections of an object. -/
def ofRecord (r : Record) : FilterState :=
  let field (name : String) : Value := (r.get? name).getD .null
  let bounds : DateBounds := ⟨dateText (field "start_date"), dateText (field "end_date")⟩
  { branch := selector (field "branch")
    group := selector (field "group")
    dates := if bounds.isEmpty then none else some bounds
    metric := Metric.ofValue (field "metric") }

/-- The selections of a request; `none` if it is not an object. -/
def toState? : Value → Option FilterState
  | .object entries => some (ofRecord entries)
  | _ => none

end Payload

end MapFilter
