import MapFilter.Table.Kind

/-!
# Tables

The features come as tables: named columns and rows of cells, a cell being a value or missing.
Null is the missing cell.

- `Table.ofColumns?`, `Table.stack`: building tables
- `Table.dropDuplicates`: the rows that do not repeat an earlier one
- `Table.records`: the rows as records, without missing cells
-/

namespace MapFilter

/-- Named columns, and rows of as many cells. -/
structure Table where
  columns : List String := []
  rows : List (List Value) := []
deriving DecidableEq, Inhabited

namespace Table

/-! ## §1 Building tables -/

/-- The rows of columns of equal length; a column that is too short is filled with missing cells. -/
def transpose (columns : List (List Value)) (height : Nat) : List (List Value) :=
  (List.range height).map fun i => columns.map fun cells => cells.getD i .null

/-- Named columns with a further one: in place of the one of its name, or at the end. -/
def putCells (columns : List (String × List Value)) (column : String × List Value) :
    List (String × List Value) :=
  if columns.any (·.1 == column.1) then
    columns.map fun other => if other.1 == column.1 then column else other
  else columns ++ [column]

/-- The table of named columns, of which the last of a name counts, at the place of the first;
`none` if they are not of one length. -/
def ofColumns? (columns : List (String × List Value)) : Option Table :=
  let columns := columns.foldl putCells []
  let height := (columns.head?.map fun column => column.2.length).getD 0
  if columns.all fun column => column.2.length == height then
    some
      { columns := columns.map Prod.fst
        rows := transpose (columns.map fun column => Column.ofCells column.2) height }
  else none

def columnAt (t : Table) (i : Nat) : List Value :=
  t.rows.map fun row => row.getD i .null

def column? (t : Table) (name : String) : Option (List Value) :=
  (t.columns.idxOf? name).map t.columnAt

/-- The table with the cells of one position replaced. -/
def setColumnAt (t : Table) (i : Nat) (cells : List Value) : Table :=
  { t with rows := (t.rows.zip cells).map fun (row, cell) => row.set i cell }

def addColumn (t : Table) (name : String) (cells : List Value) : Table :=
  { columns := t.columns ++ [name]
    rows := (t.rows.zip cells).map fun (row, cell) => row ++ [cell] }

def countColumn (t : Table) (name : String) : Nat :=
  t.columns.count name

/-- The names of several tables in the order of their first appearance. -/
def unitedColumns (tables : List Table) : List String :=
  (tables.flatMap Table.columns).foldl
    (fun names name => if names.contains name then names else names ++ [name]) []

/-- The kind of a column in one of several tables: where a table lacks the column, its cells are
missing, and so are numbers. -/
def kindOf (name : String) (t : Table) : ColumnKind :=
  match t.column? name with
  | some cells => .ofCells cells
  | none => .numbers

/-- The cells of a column in one of several tables. -/
def cellsOf (name : String) (t : Table) : List Value :=
  (t.column? name).getD (t.rows.map fun _ => .null)

/-- The column of a name in tables put one below the other. -/
def stackColumn (tables : List Table) (name : String) : List Value :=
  let cells := tables.flatMap (cellsOf name)
  match ColumnKind.joinAll? (tables.map (kindOf name)) with
  | some kind => cells.map kind.convert
  | none => cells

/-- The tables one below the other. A column that a table lacks is missing in its rows. -/
def stack (tables : List Table) : Table :=
  let names := unitedColumns tables
  { columns := names
    rows := transpose (names.map (stackColumn tables))
      (tables.foldl (fun height t => height + t.rows.length) 0) }

/-! ## §2 Rows -/

/-- Without columns a table is empty, even if it has rows. -/
def isEmpty (t : Table) : Bool :=
  t.columns.isEmpty || t.rows.isEmpty

/-- Whether two cells are equal. A missing cell equals a missing cell. -/
def sameCell (a b : Value) : Bool :=
  a.same b

/-- Whether two rows are equal in every cell. -/
def sameRow : List Value → List Value → Bool
  | [], [] => true
  | a :: as, b :: bs => sameCell a b && sameRow as bs
  | _, _ => false

/-- The rows that do not repeat an earlier one, given the rows that were kept before. -/
def keepNew (kept : List (List Value)) : List (List Value) → List (List Value)
  | [] => []
  | row :: rest =>
    if kept.any (sameRow row) then keepNew kept rest else row :: keepNew (row :: kept) rest

/-- The table without rows that repeat an earlier one. -/
def dropDuplicates (t : Table) : Table :=
  { t with rows := keepNew [] t.rows }

/-- A row as a record, without its missing cells. -/
def record (columns : List String) (row : List Value) : Record :=
  (columns.zip row).filter fun entry => entry.2 != .null

def records (t : Table) : List Record :=
  t.rows.map (record t.columns)

/-- The records to look at. An empty table has none. -/
def offered (t : Table) : List Record :=
  if t.isEmpty then [] else t.records

end Table

end MapFilter
