import MapFilter.Date.Basic
import MapFilter.Files
import MapFilter.Table.Csv
import MapFilter.Table.Parquet
import MapFilter.Value.Reading

/-!
# Preparing exports

Sales come as comma-separated text with written dates. Preparing an export adds a column with the
key of every date, so that filters can compare dates as numbers, and stores the table beside the
text.

- `Table.addDateKey`: the table with the keys of its dates
- `Export.run`: what a command line stores, and what it says
-/

namespace MapFilter

/-! ## §1 Date keys -/

/-- Why a table gets no date keys. -/
inductive DateKeyError where
  /-- No column has the name of the date texts. -/
  | noDateTexts (name : Value)
  /-- Several columns have the name of the date texts. -/
  | severalDateTexts
  /-- A name is a list or an object. -/
  | noName
  /-- There are not as many names for the keys as there are keys. -/
  | unevenNames
  /-- Columns share names, and one of the names for the keys is not among them. -/
  | unknownName
deriving DecidableEq

/-- The message of the error, where it has one of its own: it is quoted once more, as every message
about a name is. -/
def DateKeyError.message? : DateKeyError → Option String
  | .noDateTexts name => some (Text.quoted ("column " ++ name.quoted ++ " not found"))
  | .severalDateTexts | .noName | .unevenNames | .unknownName => none

namespace Table

/-- A column name without the byte order marks in front of it and the blanks around it. -/
def cleanHeader (name : String) : String :=
  String.ofList (Text.stripChars Text.isBlank (name.toList.dropWhile (· == '\ufeff')))

/-- The key of a date cell, missing if the cell is no written date. -/
def dateKeyCell (cell : Value) : Value :=
  match DateKey.encodeValue cell with
  | some key => .int key
  | none => .null

/-- The positions at which a name stands among the columns. -/
def positionsOf (t : Table) (name : Value) : List Nat :=
  (List.range t.columns.length).filter fun i => Value.text (t.columns.getD i "") = name

/-- The table with the columns at some positions replaced by the same cells. -/
def setColumnsAt (t : Table) (positions : List Nat) (cells : List Value) : Table :=
  positions.foldl (fun acc i => acc.setColumnAt i cells) t

/-- The table with a column replaced, wherever its name stands, or added at the end. A name that is
no text is the name of no column that is there. -/
def putColumn (t : Table) (name : Value) (cells : List Value) : Table :=
  match t.positionsOf name with
  | [] => t.addColumn name.display cells
  | positions => t.setColumnsAt positions cells

/-- The table with each of some columns filled with one cell. -/
def fillColumnsAt (t : Table) (fills : List (Nat × Value)) : Table :=
  fills.foldl (fun acc (i, cell) => acc.setColumnAt i (acc.rows.map fun _ => cell)) t

/-- The table with each of some columns filled with one cell, a column for every name. Where
columns share names, every column of a name counts, and a name without a column has no place. -/
def fillColumns (names cells : List Value) (t : Table) : Except DateKeyError Table :=
  if t.columns.Nodup then
    if names.length ≠ cells.length then .error .unevenNames
    else if names.any (!·.isKey) then .error .noName
    else
      .ok ((names.zip cells).foldl
        (fun acc (name, cell) => acc.putColumn name (acc.rows.map fun _ => cell)) t)
  else if names.any fun name => (t.positionsOf name).isEmpty then .error .unknownName
  else
    let positions := names.flatMap t.positionsOf
    if positions.length ≠ cells.length then .error .unevenNames
    else .ok (t.fillColumnsAt (positions.zip cells))

/-- The table with a column of date keys. Several names, and as many columns of one name as there
are rows, are taken as a list of columns, each of which is filled with one key. -/
def putDateKeys (name : Value) (keys : List Value) (t : Table) : Except DateKeyError Table :=
  match name with
  | .list names => t.fillColumns names keys
  | .object _ => .error .noName
  | name =>
    let positions := t.positionsOf name
    if 1 < positions.length && positions.length == keys.length then
      .ok (t.fillColumnsAt (positions.zip keys))
    else .ok (t.putColumn name keys)

/-- The table with clean headers and the keys of its dates. -/
def addDateKey (dateText dateKey : Value) (t : Table) : Except DateKeyError Table :=
  let t := { t with columns := t.columns.map cleanHeader }
  match dateText with
  | .text name =>
    match t.column? name with
    | none => .error (.noDateTexts dateText)
    | some cells =>
      if 1 < t.countColumn name then .error .severalDateTexts
      else t.putDateKeys dateKey (cells.map dateKeyCell)
  | v => .error (if v.isKey then .noDateTexts v else .noName)

end Table

namespace Export

/-! ## §2 The command line -/

/-- What the columns of dates are called. -/
structure DateColumns where
  text : String := "SaleDate"
  key : String := "SaleDateKey"
deriving DecidableEq

/-- What settings call the columns of dates. -/
def DateColumns.ofSettings (settings : Record) : DateColumns :=
  let name (setting default : String) : String :=
    ((settings.get? setting).bind Value.toText?).getD default
  { text := name "DATE_TEXT_FIELD" "SaleDate", key := name "DATE_KEY_FIELD" "SaleDateKey" }

/-- Why an export is not prepared although everything goes as it should. -/
inductive Refusal where
  | noFileName
  | fileNotFound (path : String)
  /-- The name of the file has another ending. -/
  | notTabular
  | noDateTexts (message : String)
deriving DecidableEq

/-- What the command line says when it refuses. -/
def Refusal.message : Refusal → String
  | .noFileName => "Usage: python prepare_export.py <filename.csv> [data_dir]"
  | .fileNotFound path => "❌ File not found: " ++ path
  | .notTabular => "❌ Please provide a .csv file."
  | .noDateTexts message => "❌ " ++ message

/-- Why an export breaks off. -/
inductive Failure where
  | csv (e : Csv.Error)
  | severalDateTexts
  /-- Several columns have the name of the keys. -/
  | severalDateKeys
  /-- Several other columns have one name. -/
  | severalColumns
  /-- The table cannot be stored. -/
  | unstorable (e : Parquet.Error)
deriving DecidableEq

/-- How a run ends. -/
inductive Ending where
  | done
  | refused
  | failed (e : Failure)
deriving DecidableEq

/-- What a run says, line by line, how it ends, and the table it stores under a path. -/
structure Run where
  lines : List String := []
  ending : Ending := .done
  table : Option (String × Table) := none
deriving DecidableEq

/-- The run that refuses. -/
def refuse (reason : Refusal) : Run :=
  { lines := [reason.message], ending := .refused }

/-- The run that breaks off. -/
def fail (lines : List String) (e : Failure) : Run :=
  { lines := lines, ending := .failed e }

/-- What is said about cells whose date has no key. -/
def unreadableDates (columns : DateColumns) (keys : List Value) : List String :=
  match keys.countP (· == .null) with
  | 0 => []
  | n => ["⚠️  " ++ toString n ++ " row(s) have an unreadable " ++ columns.text]

/-- Stores a table under a path. A table with several columns of one name cannot be stored, and
neither can one with cells that its columns do not hold. -/
def store (columns : DateColumns) (source target : String) (t : Table) : Run :=
  if 1 < t.countColumn columns.key then fail [] .severalDateKeys
  else
    let warnings := unreadableDates columns ((t.column? columns.key).getD [])
    if !t.columns.Nodup then fail warnings .severalColumns
    else if let some e := Parquet.error? t then fail warnings (.unstorable e)
    else
      let notice := "✅ Added " ++ columns.key ++ " and wrote " ++ source ++ " → " ++ target
      { lines := warnings ++ [notice]
        table := some (target, t) }

/-- Prepares the export in a text. A byte order mark that the export was saved with is dropped, like
the one that tables may begin with. -/
def prepareText (columns : DateColumns) (source target text : String) : Run :=
  match Csv.read (· == columns.text) (Text.dropMark text) with
  | .error e => fail [] (.csv e)
  | .ok t =>
    match t.addDateKey (.text columns.text) (.text columns.key) with
    | .ok t => store columns source target t
    | .error .severalDateTexts => fail [] .severalDateTexts
    | .error e => refuse (.noDateTexts (e.message?.getD ""))

/-- Whether the name of a file has the ending of comma-separated text, in any case. -/
def isTabular (fileName : String) : Bool :=
  ".csv".toList.reverse.isPrefixOf (Text.lowerAscii fileName.toList).reverse

/-- Prepares the export in a file of a directory, given its text if there is such a file. The table
is stored beside it. -/
def prepare (columns : DateColumns) (directory fileName : String) (text : Option String) : Run :=
  let source := Files.join directory fileName
  match text with
  | none => refuse (.fileNotFound source)
  | some text =>
    if !isTabular fileName then refuse .notTabular
    else
      let target := Files.join directory (Files.withoutEnding fileName ++ ".parquet")
      prepareText columns source target text

/-- The directory and the file that the words of a command line name. Further words are ignored. -/
def location? : List String → Option (String × String)
  | [] => none
  | [fileName] => some ("data", fileName)
  | fileName :: directory :: _ => some (directory, fileName)

/-- The path of the file that a command line names. -/
def source? (words : List String) : Option String :=
  (location? words).map fun (directory, fileName) => Files.join directory fileName

/-- Runs a command line, given the text of the file that it names, if there is such a file. -/
def run (columns : DateColumns) (words : List String) (text : Option String) : Run :=
  match location? words with
  | none => refuse .noFileName
  | some (directory, fileName) => prepare columns directory fileName text

end Export

end MapFilter
