import MapFilter.Date.Range
import MapFilter.Predicate
import MapFilter.Selection
import MapFilter.Text.Message

/-!
# Compiling selections

The selections of the user become one predicate: a clause for the branch, one for the product
group, one for the dates. Dates are compared as numbers when the features carry a date key. When
they do not, the days of the range are written out and the date text of a feature must be one of
them; a range that cannot be written out is left out of the filter, so that the map shows too much
rather than nothing, and a diagnostic says so.

- `FieldMapping`: which properties the clauses are about
- `compile`: the predicate and the diagnostics
- `compile?`: the same where the limit on written-out ranges may be no number
-/

namespace MapFilter

/-! ## §1 Fields -/

/-- The properties that filters are about. The date key may stand under several names. -/
structure FieldMapping where
  branch : FieldName := .text "BranchName"
  group : FieldName := .text "ProductGroupLevel1"
  dateText : FieldName := .text "SaleDate"
  dateKey : FieldName := .text "SaleDateKey"
  alternates : List FieldName := [.text "\ufeffSaleDateKey"]
deriving DecidableEq

namespace FieldMapping

/-- The fields that settings name; `none` if the alternates are no list of names. -/
def ofSettings? (settings : Record) : Option FieldMapping :=
  let defaults : FieldMapping := {}
  let field (name : String) (default : FieldName) : FieldName := (settings.get? name).getD default
  let alternates : Option (List FieldName) :=
    match settings.get? "DATE_KEY_ALT_FIELDS" with
    | none => some defaults.alternates
    | some v => v.items?
  alternates.map fun alternates =>
    { branch := field "BRANCH_FIELD" defaults.branch
      group := field "GROUP_FIELD" defaults.group
      dateText := field "DATE_TEXT_FIELD" defaults.dateText
      dateKey := field "DATE_KEY_FIELD" defaults.dateKey
      alternates := alternates }

end FieldMapping

/-- The list with every later repetition of an item left out. -/
def firstOccurrences (names : List FieldName) : List FieldName :=
  names.foldl (fun chain name => if name.isAmong chain then chain else chain ++ [name]) []

/-! ## §2 Capability of the data -/

/-- What the features at hand are known to carry. -/
structure Capability where
  /-- A valid date key stands under one of the configured names. -/
  hasDateKey : Bool := false
  /-- The names it stands under, in configured order. -/
  resolved : List FieldName := []
  /-- There were records to look at. -/
  sampled : Bool := false
deriving DecidableEq, Inhabited

/-- What is known without records. -/
def Capability.unknown : Capability := {}

/-! ## §3 Diagnostics -/

/-- Why a date selection is not, or not fully, part of the filter. -/
inductive Diagnostic where
  | unreadableStart (bound : Value)
  | unreadableStop (bound : Value)
  | openEnded
  | notCalendar (start stop : Int)
  | tooLarge (span : Nat) (limit : DayLimit)
deriving DecidableEq

namespace Diagnostic

/-- The code that answers and logs use. -/
def code : Diagnostic → String
  | .unreadableStart _ | .unreadableStop _ => "date_bound_unparseable"
  | .openEnded => "date_range_open_ended"
  | .notCalendar _ _ => "date_range_unparseable"
  | .tooLarge _ _ => "date_range_too_large"

/-- The explanation. -/
def message : Diagnostic → String
  | .unreadableStart bound => "ignoring start date " ++ bound.quoted
  | .unreadableStop bound => "ignoring end date " ++ bound.quoted
  | .openEnded => "open-ended date range needs the numeric date key; date filter skipped"
  | .notCalendar start stop =>
    toString start ++ ".." ++ toString stop ++ " is not a calendar range; date filter skipped"
  | .tooLarge span limit =>
    toString span ++ " days exceeds the " ++ limit.toText ++ " day limit; date filter skipped"

def toValue (d : Diagnostic) : Value :=
  .object [("code", .text d.code), ("message", .text d.message)]

/-- The warning that goes with the diagnostic. -/
def logEntry (d : Diagnostic) : LogEntry :=
  .warning "wlheat.compiler" (d.code ++ ": " ++ d.message)

end Diagnostic

/-! ## §4 Compilation -/

/-- What selections compile to: the clauses of the filter, the diagnostics, and all warnings. -/
structure Compiled where
  clauses : List Predicate
  diagnostics : List Diagnostic
  logs : List LogEntry

/-- The filter: all clauses hold. -/
def Compiled.predicate (c : Compiled) : Predicate :=
  .all c.clauses

/-- The names of the date key: the primary one first, each name once. -/
def FieldMapping.dateKeyChain (fields : FieldMapping) : List FieldName :=
  firstOccurrences (fields.dateKey :: fields.alternates)

/-- A selector as a clause about a property. -/
def selectorClause (field : FieldName) (s : Selector) : List Predicate :=
  match s.text? with
  | some text => [.equals field (.text text)]
  | none => []

/-- An absent bound is null. -/
def boundValue (key : Option Int) : Value :=
  match key with
  | some k => .int k
  | none => .null

/-- The diagnostics for bounds that are there but name no day. -/
def unreadableBounds (bounds : DateBounds) : List Diagnostic :=
  (if bounds.start.isTruthy && bounds.keys.1.isNone then [.unreadableStart bounds.start] else [])
    ++ (if bounds.stop.isTruthy && bounds.keys.2.isNone then [.unreadableStop bounds.stop] else [])

/-- Two bounds with the lower one first. -/
def ordered : Option Int × Option Int → Option Int × Option Int
  | (some a, some b) => if b < a then (some b, some a) else (some a, some b)
  | keys => keys

/-- The clause of a date range over a chain of date key fields. -/
def keyClause (fields : FieldMapping) (start stop : Option Int) : List Predicate :=
  match start, stop, fields.dateKeyChain with
  | none, none, _ => []
  | _, _, [] => []
  | _, _, field :: rest => [.within field (boundValue start) (boundValue stop) rest]

/-- The clause of a date range over the date text, with what stands in its way: a diagnostic, or a
warning from writing out the range. -/
def textClause (fields : FieldMapping) (limit : DayLimit) (start stop : Option Int) :
    List Predicate × List Diagnostic × List LogEntry :=
  match start, stop with
  | none, none => ([], [], [])
  | some a, some b =>
    match DateRange.spanDays (.int a) (.int b) with
    | none => ([], [.notCalendar a b], [])
    | some span =>
      if limit.isExceededBy span then ([], [.tooLarge span limit], [])
      else
        -- The ends are real days within the limit, so the range is written out.
        match DateRange.enumerate (.int a) (.int b) limit with
        | .ok [] => ([], [], [])
        | .ok dates => ([.member fields.dateText (dates.map .text)], [], [])
        | .error refusal => ([], [], refusal.logs)
  | _, _ => ([], [.openEnded], [])

/-- The clause of the date selection with its diagnostics, and the warnings from writing out the
range. -/
def dateClause (fields : FieldMapping) (limit : DayLimit) (hasDateKey : Bool)
    (dates : Option DateBounds) : List Predicate × List Diagnostic × List LogEntry :=
  match dates with
  | none => ([], [], [])
  | some bounds =>
    if bounds.isEmpty then ([], [], [])
    else
      let (start, stop) := ordered bounds.keys
      if hasDateKey then (keyClause fields start stop, unreadableBounds bounds, [])
      else
        let (clause, diagnostics, logs) := textClause fields limit start stop
        (clause, unreadableBounds bounds ++ diagnostics, logs)

/-- The filter for the selections, given what the features carry. -/
def compile (fields : FieldMapping) (limit : DayLimit) (state : FilterState)
    (capability : Capability) : Compiled :=
  let (clause, diagnostics, logs) := dateClause fields limit capability.hasDateKey state.dates
  { clauses :=
      selectorClause fields.branch state.branch ++ selectorClause fields.group state.group ++ clause
    diagnostics := diagnostics
    logs := logs ++ diagnostics.map Diagnostic.logEntry }

/-- Whether the filter depends on the limit: the days of a range would be written out. -/
def limitDecides (state : FilterState) (capability : Capability) : Bool :=
  !capability.hasDateKey && state.dates.any fun bounds =>
    match bounds.keys with
    | (some a, some b) => !bounds.isEmpty && (DateRange.spanDays (.int a) (.int b)).isSome
    | _ => false

/-- The filter for the selections where the setting of the limit may be none; `none` if it would be
needed. -/
def compile? (fields : FieldMapping) (limit : Option DayLimit) (state : FilterState)
    (capability : Capability) : Option Compiled :=
  match limit with
  | some limit => some (compile fields limit state capability)
  | none =>
    if limitDecides state capability then none
    else some (compile fields defaultDayLimit state capability)

end MapFilter
