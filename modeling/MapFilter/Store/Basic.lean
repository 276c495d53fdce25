import MapFilter.Compilation
import MapFilter.Files
import MapFilter.Metric
import MapFilter.Sql.Evaluation
import MapFilter.Table.Csv
import MapFilter.Table.Parquet
import MapFilter.Table.Preparation

/-!
# Feature store

The store keeps a local copy of the features: a table in memory, and the same table in a database
that can be queried. It loads on demand, first from a database that outlived an earlier store, then
from the exported files, then from a remote export. Its generation grows whenever the data it
shows may have changed, so that whoever derived something from the data knows to look again.

What surrounds the store, the files and the database on disk and the remote export, is part of its
state, so that everything it does is a function from state to state. An operation that fails may
still leave a changed state behind.

- `Store.load`: the features, loaded if need be
- `Store.setTable`: replaces the features
- `Store.reload`: forgets them
-/

namespace MapFilter

/-! ## §1 Settings -/

/-- What a store is set up with. -/
structure StoreSettings where
  /-- The path of the database file; `:memory:` is a database that is not kept. -/
  database : String
  /-- The pattern of the exported files. -/
  glob : Value
  preparation : Preparation
  /-- The column of the exported files that is always text. -/
  textColumn : Value
  url : Value
  key : Value
  /-- The source whose features these are; every source if none is set. -/
  source : Option Value

/-- The values of an object. -/
def valuesOf? : Value → Option (List Value)
  | .object entries => some (entries.map Prod.snd)
  | _ => none

/-- The settings of a store in a table of settings. -/
def StoreSettings.ofSettings (settings : Record) : StoreSettings :=
  let setting (name : String) : Value := (settings.get? name).getD .null
  { database := (setting "DUCKDB_PATH").display
    glob := (settings.get? "CSV_GLOB").getD (.text "data/*.csv")
    preparation :=
      { dateText := setting "DATE_TEXT_FIELD"
        metricFields := valuesOf? ((settings.get? "METRIC_FIELDS").getD (.object []))
        dateKey := setting "DATE_KEY_FIELD"
        alternates := ((settings.get? "DATE_KEY_ALT_FIELDS").getD (.list [])).items? }
    textColumn := (settings.get? "DATE_TEXT_FIELD").getD (.text "SaleDate")
    url := setting "BUCKET_URL"
    key := setting "BUCKET_KEY"
    source := settings.get? "SOURCE_ID" }

/-- The database is not kept. -/
def StoreSettings.inMemory (settings : StoreSettings) : Bool :=
  settings.database.isEmpty || settings.database.startsWith ":memory:"

/-! ## §2 State -/

/-- What stands in a database under the name of the stored table. -/
inductive Relation where
  | nothing
  /-- A table as the database keeps it. -/
  | table (t : Table)
  /-- A view that cannot be read, and that no table can take the place of. -/
  | brokenView
deriving DecidableEq, Inhabited

/-- What a request for the remote export yields. -/
inductive Remote where
  | table (t : Table)
  /-- The request fails. -/
  | unavailable
  /-- The answer is no table. -/
  | unreadable
  /-- The answer is a table that its file cannot hold. -/
  | unstorable (e : Parquet.Error)
  /-- The answer is a table whose columns differ in length. -/
  | uneven
deriving DecidableEq, Inhabited

/-- The remote export of a table; none is a table whose columns differ in length. -/
def Remote.ofTable? : Option Table → Remote
  | none => .uneven
  | some t =>
    match Parquet.error? t with
    | some e => .unstorable e
    | none => .table t

/-- Why a database cannot be opened. -/
inductive DatabaseFault where
  /-- The path leads to something else. -/
  | noDatabase (path : String)
  /-- Its directory is a file. -/
  | directoryIsFile (path : String)
  /-- Above its directory stands a file. -/
  | fileAbove (path : String)
deriving DecidableEq

def DatabaseFault.message : DatabaseFault → String
  | .noDatabase path => "IO Error: Cannot open file \"" ++ path ++ "\""
  | .directoryIsFile path => "[Errno 17] File exists: " ++ Text.quoted path
  | .fileAbove path => "[Errno 20] Not a directory: " ++ Text.quoted path

/-- What is wrong with making directories one below the other. -/
def directoryFault? (files : Files) (above : List String) : List String → Option DatabaseFault
  | [] => none
  | name :: rest =>
    let path := above ++ [name]
    match files.entryAt? path with
    | some (.file _) =>
      match rest with
      | [] => some (.directoryIsFile (String.intercalate "/" path))
      | next :: _ => some (.fileAbove (String.intercalate "/" (path ++ [next])))
    | _ => directoryFault? files path rest

/-- Why the database of settings cannot be opened among files, if it cannot. -/
def StoreSettings.databaseFault? (settings : StoreSettings) (files : Files) :
    Option DatabaseFault :=
  let path := settings.database
  if settings.inMemory || path.startsWith "/" then none
  else
    let fault := directoryFault? files [] (Files.names (Files.splitPath path).1)
    if (files.entry? path).isSome || Files.isDirectoryPath path then
      fault.or (some (.noDatabase path))
    else fault

/-- Why the exported files cannot be read. -/
inductive ExportError where
  /-- The pattern of the files is no text. -/
  | noPattern (v : Value)
  /-- The name of the date text is a list or an object. -/
  | noName (v : Value)
  /-- A path that the pattern selects leads to a directory. -/
  | directory (path : String)
  | csv (e : Csv.Error)
deriving DecidableEq

def ExportError.message : ExportError → String
  | .noPattern (.list _) => "expected str, bytes or os.PathLike object, not list"
  | .noPattern (.object _) => "unhashable type: 'slice'"
  | .noPattern v => Text.quoted v.kindName ++ " object is not subscriptable"
  | .noName v => "unhashable type: " ++ Text.quoted v.kindName
  | .directory path => "[Errno 21] Is a directory: " ++ Text.quoted path
  | .csv e => e.message

/-- A store and its surroundings. -/
structure Store where
  /-- The features in memory. -/
  table : Option Table := none
  /-- The database, if it is open. -/
  connection : Option Relation := none
  generation : Nat := 0
  files : Files := []
  /-- The database file. -/
  disk : Relation := .nothing
  /-- The database file was deleted while the database was open. -/
  detached : Bool := false
  remote : Remote := .unavailable
  /-- How many requests were made for the remote export. -/
  requests : Nat := 0
deriving DecidableEq, Inhabited

/-- Why an operation of the store fails. -/
inductive StoreError where
  | preparation (e : PreparationError)
  | exports (e : ExportError)
  | database (fault : DatabaseFault)
  /-- The database refuses a table without columns. -/
  | noColumns
  /-- The stored table is missing, or a view that is in the way. -/
  | catalog
  /-- The remote export is no table. -/
  | notATable
  /-- The remote export cannot be held by its file. -/
  | unstorable (e : Parquet.Error)
  /-- The columns of the remote export differ in length. -/
  | uneven
  | condition (e : Predicate.ConditionError)
  | query (e : Sql.QueryError)
deriving DecidableEq

def StoreError.message : StoreError → String
  | .preparation e => e.message
  | .exports e => e.message
  | .database fault => fault.message
  | .noColumns => "Invalid Input Error: Need a DataFrame with at least one column"
  | .catalog => "Catalog Error: the stored table cannot be used"
  | .notATable =>
    "Could not open Parquet input source '<Buffer>': Parquet magic bytes not found in footer. "
      ++ "Either the file is corrupted or this is not a parquet file."
  | .unstorable e => e.message
  | .uneven => "All arrays must be of the same length"
  | .condition _ => "the condition names no column"
  | .query _ => "the query fails"

namespace Store

/-! ## §3 Database -/

/-- Opens the database, if it is not open. -/
def connect (settings : StoreSettings) (s : Store) : Except StoreError Store :=
  match s.connection with
  | some _ => .ok s
  | none =>
    match settings.databaseFault? s.files with
    | some fault => .error (.database fault)
    | none =>
      .ok { s with connection := some (if settings.inMemory then .nothing else s.disk) }

def relation (s : Store) : Relation :=
  s.connection.getD .nothing

/-- Puts something into the open database. A database file keeps it. -/
def put (settings : StoreSettings) (r : Relation) (s : Store) : Store :=
  { s with
      connection := some r
      disk := if settings.inMemory || s.detached then s.disk else r }

/-- Closes the store and opens a new one on the same database. -/
def reopen (s : Store) : Store :=
  { s with table := none, connection := none, detached := false, generation := 0 }

def writeFile (path text : String) (s : Store) : Store :=
  { s with files := s.files.write path text }

/-- Deletes a file, which may be that of the database. -/
def deleteFile (settings : StoreSettings) (path : String) (s : Store) : Store :=
  let s := { s with files := s.files.remove path }
  if Files.normalize path == Files.normalize settings.database then
    { s with disk := .nothing, detached := s.connection.isSome }
  else s

/-! ## §4 Replacing the features -/

/-- Puts the features into the open database. -/
def persist (settings : StoreSettings) (t : Table) (s : Store) : Except StoreError Unit × Store :=
  if s.relation = .brokenView then (.error .catalog, s)
  else
    let s := s.put settings .nothing
    if t.columns.isEmpty then (.error .noColumns, s)
    else (.ok (), s.put settings (.table t.stored))

/-- Replaces the features by a table, in memory and in the database. The generation grows if
features were loaded before. -/
def setTable (settings : StoreSettings) (t : Table) (s : Store) : Except StoreError Unit × Store :=
  match settings.preparation.apply t with
  | .error e => (.error (.preparation e), s)
  | .ok prepared =>
    let replaced := s.table.isSome
    -- The features in memory are replaced first, and stay so if the database refuses the table.
    let s := { s with table := some prepared }
    match s.connect settings with
    | .error e => (.error e, s)
    | .ok s =>
      match s.persist settings prepared with
      | (.ok (), s) =>
        (.ok (), { s with generation := if replaced then s.generation + 1 else s.generation })
      | (.error e, s) => (.error e, s)

/-- Replaces the features, and says what they are then. -/
def loadTable (settings : StoreSettings) (t : Table) (s : Store) :
    Except StoreError Table × Store :=
  match s.setTable settings t with
  | (.ok (), s) => (.ok (s.table.getD {}), s)
  | (.error e, s) => (.error e, s)

/-! ## §5 Loading -/

/-- The table in an exported file. -/
def readExport (settings : StoreSettings) (files : Files) (path : String) :
    Except ExportError Table :=
  match files.entry? path with
  | some .directory => .error (.directory path)
  | some (.file text) =>
    match Csv.read (fun name => settings.textColumn == .text name) text with
    | .ok t => .ok t
    | .error e => .error (.csv e)
  | none => .ok {}

/-- The exported files as one table; `none` if there are none. -/
def readExports (settings : StoreSettings) (files : Files) : Except ExportError (Option Table) :=
  match settings.glob with
  | .text pattern =>
    match files.glob pattern with
    | [] => .ok none
    | selected =>
      if settings.textColumn.isKey then
        (selected.mapM (readExport settings files)).map fun tables => some (Table.stack tables)
      else .error (.noName settings.textColumn)
  | v => .error (.noPattern v)

/-- Loads the remote export, if one is configured. Without any data the store shows an empty table
and loads again next time. -/
def loadRemote (settings : StoreSettings) (s : Store) : Except StoreError Table × Store :=
  if settings.url.isTruthy then
    let s := { s with requests := s.requests + 1 }
    match s.remote with
    | .table t => s.loadTable settings t
    | .unavailable => (.ok {}, s)
    | .unreadable => (.error .notATable, s)
    | .unstorable e => (.error (.unstorable e), s)
    | .uneven => (.error .uneven, s)
  else (.ok {}, s)

/-- Loads the exported files, or else the remote export. -/
def rebuild (settings : StoreSettings) (s : Store) : Except StoreError Table × Store :=
  match readExports settings s.files with
  | .error e => (.error (.exports e), s)
  | .ok (some t) => s.loadTable settings t
  | .ok none => s.loadRemote settings

/-- The features: those in memory, else those in the database, else those of the exports. -/
def load (settings : StoreSettings) (s : Store) : Except StoreError Table × Store :=
  match s.table with
  | some t => (.ok t, s)
  | none =>
    match s.connect settings with
    | .error e => (.error e, s)
    | .ok s =>
      match s.relation with
      | .table t => (.ok t.fetched, { s with table := some t.fetched })
      | .nothing | .brokenView => s.rebuild settings

/-- Forgets the features. A table in an open database is dropped. -/
def reload (settings : StoreSettings) (s : Store) : Except StoreError Unit × Store :=
  let s := { s with table := none }
  match s.connection with
  | none => (.ok (), { s with generation := s.generation + 1 })
  | some .brokenView => (.error .catalog, s)
  | some _ =>
    let s := s.put settings .nothing
    (.ok (), { s with generation := s.generation + 1 })

end Store

end MapFilter
