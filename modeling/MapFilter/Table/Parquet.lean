import MapFilter.Table.Basic
import MapFilter.Value.Reading

/-!
# Tables as columnar files

A table is stored column by column. The file begins and ends with a mark. Between the marks stand
the columns, each as one page of cells, and behind them a description of the file: the names and
kinds of the columns, and where their pages begin.

The description is a record of numbered fields in a compact form, where numbers take up as many
bytes as they need. A page says for each cell whether it is there, and then gives the cells that
are, without compression.

- `Parquet.error?`: why a table cannot be stored
- `Parquet.file`: the bytes of a table
-/

namespace MapFilter.Parquet

abbrev Bytes := List UInt8

/-! ## §1 Numbers -/

/-- The lowest bytes of a number, the lowest first. -/
def littleEndian : Nat → Nat → Bytes
  | 0, _ => []
  | width + 1, n => UInt8.ofNat (n % 256) :: littleEndian width (n / 256)

/-- A number in groups of seven bits, the lowest first. All groups but the last are marked. -/
def grouped (n : Nat) : Bytes :=
  if n < 128 then [UInt8.ofNat n] else UInt8.ofNat (n % 128 + 128) :: grouped (n / 128)
termination_by n
decreasing_by omega

/-- Integers as numbers: those near zero become small, whatever their sign. -/
def zigzag (i : Int) : Nat :=
  if 0 ≤ i then 2 * i.toNat else 2 * (-i).toNat - 1

def textBytes (s : String) : Bytes :=
  s.toUTF8.toList

/-! ## §2 Descriptions -/

/-- The kinds of items in a description. -/
inductive ItemKind where
  | int32
  | int64
  | text
  | list
  | record
deriving DecidableEq

/-- The number of a kind. -/
def ItemKind.code : ItemKind → Nat
  | .int32 => 5
  | .int64 => 6
  | .text => 8
  | .list => 9
  | .record => 12

/-- An item of a description. The fields of a record have numbers that grow. -/
inductive Item where
  | int32 (n : Int)
  | int64 (n : Int)
  | text (s : String)
  | list (kind : ItemKind) (items : List Item)
  | record (fields : List (Nat × Item))

namespace Item

def kind : Item → ItemKind
  | .int32 _ => .int32
  | .int64 _ => .int64
  | .text _ => .text
  | .list _ _ => .list
  | .record _ => .record

/-- The head of a list: its length and the kind of its items. -/
def listHead (kind : ItemKind) (length : Nat) : Bytes :=
  if length < 15 then [UInt8.ofNat (length * 16 + kind.code)]
  else UInt8.ofNat (15 * 16 + kind.code) :: grouped length

mutual

def bytes : Item → Bytes
  | .int32 n | .int64 n => grouped (zigzag n)
  | .text s => grouped (textBytes s).length ++ textBytes s
  | .list kind items => listHead kind items.length ++ bytesOfItems items
  | .record fields => bytesOfFields 0 fields

def bytesOfItems : List Item → Bytes
  | [] => []
  | item :: rest => bytes item ++ bytesOfItems rest

/-- The bytes of fields. Each is numbered by its distance from the one before, and a zero ends
them. -/
def bytesOfFields (before : Nat) : List (Nat × Item) → Bytes
  | [] => [0]
  | (number, item) :: rest =>
    UInt8.ofNat ((number - before) * 16 + item.kind.code) :: bytes item
      ++ bytesOfFields number rest

end

end Item

/-! ## §3 Columns -/

/-- What the cells of a page are. -/
inductive PageKind where
  | truths
  | integers
  /-- Integers without a sign. -/
  | naturals
  | numbers
  | texts
deriving DecidableEq

namespace PageKind

/-- Whether a page of the kind can hold a cell. -/
def holds : PageKind → Value → Bool
  | _, .null => true
  | .truths, .bool _ => true
  | .integers, .int i => Column.isSigned i
  | .naturals, .int i => Column.isUnsigned i
  | .numbers, .float _ => true
  | .texts, .text _ => true
  | _, _ => false

/-- The first kind that can hold all cells, if there is one. -/
def ofCells? (cells : List Value) : Option PageKind :=
  [.numbers, .integers, .naturals, .truths, .texts].find? fun kind => cells.all (holds kind)

/-- The kind of the page for cells. Cells that have no kind in common are stored as texts. -/
def ofCells (cells : List Value) : PageKind :=
  (ofCells? cells).getD .texts

/-- The number of the way the cells are stored. -/
def code : PageKind → Int
  | .truths => 0
  | .integers | .naturals => 2
  | .numbers => 5
  | .texts => 6

/-- The number of the meaning that stored cells have beyond that. -/
def meaning? : PageKind → Option Int
  | .naturals => some 14
  | .texts => some 0
  | .truths | .integers | .numbers => none

end PageKind

/-- Truth values, eight to a byte, the first in the lowest bit. -/
def packBits (bits : List Bool) : Bytes :=
  (List.range ((bits.length + 7) / 8)).map fun i =>
    UInt8.ofNat (((bits.drop (8 * i)).take 8).foldr (fun bit higher => bit.toNat + 2 * higher) 0)

/-- The bytes of a cell; none for truth values, which are stored together, and for missing cells. -/
def cellBytes (kind : PageKind) (cell : Value) : Bytes :=
  match kind, cell with
  | _, .null => []
  | .truths, _ => []
  | .integers, .int i | .naturals, .int i => littleEndian 8 (i % 0x10000000000000000).toNat
  | .numbers, .float x => littleEndian 8 x.toBits.toNat
  | _, v =>
    let text := textBytes v.display
    littleEndian 4 text.length ++ text

/-- The truth value of a cell, if it is one. -/
def truthCell? : Value → Option Bool
  | .bool b => some b
  | _ => none

/-- The cells that are there, one after the other. -/
def presentCells (kind : PageKind) (cells : List Value) : Bytes :=
  match kind with
  | .truths => packBits (cells.filterMap truthCell?)
  | kind => cells.flatMap (cellBytes kind)

/-- Which cells are there: for each cell a run of one, with a one or a zero. -/
def presence (cells : List Value) : Bytes :=
  let runs := cells.flatMap fun cell => grouped 2 ++ [if cell = .null then 0 else 1]
  littleEndian 4 runs.length ++ runs

/-- The page of a column: its head, and its cells. -/
def page (cells : List Value) : Bytes :=
  let content := presence cells ++ presentCells (.ofCells cells) cells
  let head : Item := .record
    [(1, .int32 0), (2, .int32 content.length), (3, .int32 content.length),
      (5, .record [(1, .int32 cells.length), (2, .int32 0), (3, .int32 3), (4, .int32 3)])]
  head.bytes ++ content

/-! ## §4 Cells that are not alike -/

/-- Why a column cannot be stored. -/
inductive Error where
  /-- A cell is not of the kind that the cells before it show. -/
  | unlike (column : String) (cell : Value) (kind : PageKind)
  /-- An integer does not fit in 64 bits. -/
  | integerTooLarge (column : String) (i : Int)
  /-- Lists or objects stand next to other cells. -/
  | mixed (column : String)
  /-- The objects of a column have no entries. -/
  | noEntries
deriving DecidableEq

/-- The name of a kind in messages. -/
def PageKind.name : PageKind → String
  | .truths => "boolean"
  | .integers => "int64"
  | .naturals => "uint64"
  | .numbers => "double"
  | .texts => "string"

def Error.message : Error → String
  | .unlike column cell kind =>
    let reason :=
      if kind = .texts then "Expected bytes, got a " ++ Text.quoted cell.kindName ++ " object"
      else
        "Could not convert " ++ cell.quoted ++ " with type " ++ cell.kindName
          ++ ": tried to convert to " ++ kind.name
    let place := "Conversion failed for column " ++ column ++ " with type object"
    "(" ++ Text.quoted reason ++ ", " ++ Text.quoted place ++ ")"
  | .integerTooLarge _ _ => "Python int too large to convert to C long"
  | .mixed column =>
    let place := "Conversion failed for column " ++ column ++ " with type object"
    "('cannot mix list and non-list, non-null values', " ++ Text.quoted place ++ ")"
  | .noEntries => "Cannot write struct type '' with no child field to Parquet"

/-- The cells that are looked at to tell the kind of all: those up to the first that is no integer,
list or object. -/
def inspected : List Value → List Value
  | [] => []
  | cell :: rest =>
    match cell with
    | .bool _ | .float _ | .text _ => [cell]
    | _ => cell :: inspected rest

/-- The kind that cells show. Binary64 numbers come before integers, and these before truth
values. -/
def shownKind (cells : List Value) : PageKind :=
  if cells.any (· matches .float _) then .numbers
  else if cells.any (· matches .int _) then .integers
  else if cells.any (· matches .bool _) then .truths
  else .texts

/-- Whether an integer is a binary64 number without being rounded. -/
def isExactNumber (i : Int) : Bool :=
  -0x20000000000000 ≤ i && i ≤ 0x20000000000000

/-- What is wrong with a cell of a column whose cells show a kind. -/
def cellError? (column : String) (kind : PageKind) (cell : Value) : Option Error :=
  match kind, cell with
  | .integers, .int i => if Column.isSigned i then none else some (.integerTooLarge column i)
  | .numbers, .int i => if isExactNumber i then none else some (.unlike column cell kind)
  | kind, cell => if kind.holds cell then none else some (.unlike column cell kind)

/-- The items of a list; nothing else has any. -/
def listItems (cell : Value) : List Value :=
  cell.toList?.getD []

/-- The entries of an object; nothing else has any. -/
def objectEntries (cell : Value) : Record :=
  cell.toRecord?.getD []

/-- What stands under a name in cells that are objects or missing. -/
def cellsUnder (name : String) (cells : List Value) : List Value :=
  cells.map fun cell => ((objectEntries cell).get? name).getD .null

/-- Why cells cannot be stored, if they cannot, given the ones that were inspected. Lists are stored
as their items, and objects as what stands under their names. Cells are as deep as there is fuel. -/
def cellsError? (column : String) : Nat → List Value → List Value → Option Error
  | 0, _, _ => none
  | depth + 1, shown, cells =>
    let present := shown.filter (· ≠ .null)
    if present.any (· matches .list _) then
      if present.all (· matches .list _) then
        let items := present.flatMap fun cell => inspected (listItems cell)
        cellsError? column depth items (cells.flatMap listItems)
      else some (.mixed column)
    else if present.any (· matches .object _) then
      if present.all (· matches .object _) then
        let names := (cells.flatMap fun cell => (objectEntries cell).names).eraseDups
        if names.isEmpty then some .noEntries
        else
          names.findSome? fun name =>
            cellsError? column depth (cellsUnder name shown) (cellsUnder name cells)
      else some (.mixed column)
    else cells.findSome? (cellError? column (shownKind shown))

mutual

/-- How deep lists and objects in a value are. -/
def depth : Value → Nat
  | .list items => depthOfItems items + 1
  | .object entries => depthOfEntries entries + 1
  | _ => 1

/-- How deep the deepest of several values is. -/
def depthOfItems : List Value → Nat
  | [] => 0
  | item :: rest => max (depth item) (depthOfItems rest)

/-- How deep the deepest value of several entries is. -/
def depthOfEntries : List (String × Value) → Nat
  | [] => 0
  | (_, v) :: rest => max (depth v) (depthOfEntries rest)

end

/-- Why the cells of a column cannot be stored, if they cannot. -/
def columnError? (column : String) (cells : List Value) : Option Error :=
  match PageKind.ofCells? cells with
  | some _ => none
  | none => cellsError? column (depthOfItems cells) (inspected cells) cells

def error? (t : Table) : Option Error :=
  t.columns.zipIdx.findSome? fun (name, i) => columnError? name (t.columnAt i)

/-! ## §5 Files -/

/-- The mark at both ends of a file. -/
def mark : Bytes := textBytes "PAR1"

/-- A column of a file: its name, its cells, and the place where its page begins. -/
structure PlacedColumn where
  name : String
  cells : List Value
  place : Nat

/-- Gives every column its place, one page after the other. -/
def placeColumns (place : Nat) : List (String × List Value) → List PlacedColumn
  | [] => []
  | (name, cells) :: rest =>
    ⟨name, cells, place⟩ :: placeColumns (place + (page cells).length) rest

/-- What the description says about the kind of a column. -/
def schemaItem (column : PlacedColumn) : Item :=
  let kind := PageKind.ofCells column.cells
  .record ([(1, .int32 kind.code), (3, .int32 1), (4, .text column.name)]
    ++ kind.meaning?.toList.map fun meaning => (6, .int32 meaning))

/-- What the description says about the page of a column. -/
def chunkItem (column : PlacedColumn) : Item :=
  let size : Int := (page column.cells).length
  let kind := PageKind.ofCells column.cells
  .record
    [(2, .int64 column.place),
      (3, .record
        [(1, .int32 kind.code), (2, .list .int32 [.int32 0, .int32 3]),
          (3, .list .text [.text column.name]), (4, .int32 0),
          (5, .int64 column.cells.length), (6, .int64 size), (7, .int64 size),
          (9, .int64 column.place)])]

/-- The description of a file. -/
def description (columns : List PlacedColumn) (height : Nat) : Item :=
  let size := columns.foldl (fun size column => size + (page column.cells).length) 0
  .record
    [(1, .int32 1),
      (2, .list .record
        (.record [(4, .text "schema"), (5, .int32 columns.length)] :: columns.map schemaItem)),
      (3, .int64 height),
      (4, .list .record
        [.record [(1, .list .record (columns.map chunkItem)), (2, .int64 size),
          (3, .int64 height)]])]

def file (t : Table) : Bytes :=
  let named := t.columns.zipIdx.map fun (name, i) => (name, t.columnAt i)
  let columns := placeColumns mark.length named
  let foot := (description columns t.rows.length).bytes
  mark ++ columns.flatMap (fun column => page column.cells) ++ foot
    ++ littleEndian 4 foot.length ++ mark

end MapFilter.Parquet
