import MapFilter.Export
import MapFilter.Settings.Basic
import MapFilter.Table.Parquet

/-!
# Command line

Prepares an export: reads the file that the command line names, adds the keys of its dates, and
stores the table beside it.
-/

namespace MapFilter.Export

/-- The variables of the process that name fields. -/
def fieldEnvironment : IO Environment :=
  Settings.fieldSettings.filterMapM fun setting => do
    return (← IO.getEnv setting.variableName).map fun text => (setting.variableName, text)

/-- What the columns of dates are called in the environment of the process. -/
def dateColumns : IO DateColumns := do
  match Settings.values Settings.fieldSettings (← fieldEnvironment) with
  | .ok settings => return DateColumns.ofSettings settings
  | .error _ => return {}

/-- The text of a file, if there is such a file. -/
def readText? (path : String) : IO (Option String) := do
  try
    return some (← IO.FS.readFile path)
  catch _ =>
    return none

def Failure.message : Failure → String
  | .csv e => e.message
  | .severalDateTexts => "several columns hold the date text"
  | .severalDateKeys => "several columns hold the date key"
  | .severalColumns => "several columns have the same name"
  | .unstorable e => e.message

/-- Carries out a run: says what it says, and stores its table. -/
def carryOut (run : Run) : IO UInt32 := do
  -- The table is stored first, since the last line says that it was.
  if let some (path, t) := run.table then
    IO.FS.writeBinFile path (ByteArray.mk (Parquet.file t).toArray)
  run.lines.forM fun line => IO.println line
  match run.ending with
  | .done => return 0
  | .refused => return 1
  | .failed e =>
    IO.eprintln e.message
    return 1

end MapFilter.Export

/-- Prepares the export that the words of the command line name. -/
def main (words : List String) : IO UInt32 := do
  let columns ← MapFilter.Export.dateColumns
  let text ←
    match MapFilter.Export.source? words with
    | some path => MapFilter.Export.readText? path
    | none => pure none
  MapFilter.Export.carryOut (MapFilter.Export.run columns words text)
