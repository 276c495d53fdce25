import MapFilter.Number.Reading
import MapFilter.Table.Basic

/-!
# Tables from comma-separated text

The first line names the columns, each further line is a row. Fields stand between commas; a field
that begins with a double quote goes on to the closing one, in which a double quote is written
twice and line ends are part of the field. Lines of blanks only are skipped.

Empty fields and the usual words for nothing are missing cells. A column whose present cells all
read as integers holds integers, else numbers, else truth values, else texts. Columns that are
known to hold text are not looked into. A field ends at a character that ends texts elsewhere, the
one of code zero.

- `Csv.records`: the fields of every line
- `Csv.read`: the table
-/

namespace MapFilter.Csv

/-! ## §1 Lines and fields -/

/-- Why a text is no table. -/
inductive Error where
  /-- There is no line to name the columns. -/
  | noColumns
  /-- A row is longer than the rows before it. -/
  | tooManyFields (expected line found : Nat)
  /-- A quoted field is not closed. -/
  | openQuote (line : Nat)
deriving DecidableEq

def Error.message : Error → String
  | .noColumns => "No columns to parse from file"
  | .tooManyFields expected line found =>
    "Error tokenizing data. C error: Expected " ++ toString expected ++ " fields in line "
      ++ toString line ++ ", saw " ++ toString found ++ "\n"
  | .openQuote line =>
    "Error tokenizing data. C error: EOF inside string starting at row " ++ toString line

/-- What stands before the start of a line. -/
inductive LineStart where
  /-- Nothing, or a whole line end. -/
  | fresh
  /-- A carriage return that ended a row. -/
  | afterRow
  /-- A carriage return that ended a line without fields. -/
  | afterBlank
deriving DecidableEq

/-- Where in a line the scanner is. -/
inductive Place where
  | lineStart (before : LineStart)
  /-- After blanks that begin a line. -/
  | margin
  | fieldStart
  | bare
  | quoted
  /-- After a quote inside a quoted field. -/
  | afterQuote
deriving DecidableEq

/-- What has been scanned: lines, fields of the current line and characters of the current field,
each with the last one first. -/
structure Scan where
  place : Place := .lineStart .fresh
  lines : List (Nat × List String) := []
  fields : List String := []
  field : List Char := []
  line : Nat := 1

namespace Scan

/-- Adds a character to the field. -/
def push (s : Scan) (place : Place) (c : Char) : Scan :=
  { s with place := place, field := c :: s.field }

def endField (s : Scan) : Scan :=
  let field := s.field.reverse.takeWhile (· != '\x00')
  { s with place := .fieldStart, fields := String.ofList field :: s.fields, field := [] }

/-- What stands before the line that a character makes start, in front of which is a row or not. -/
def lineStart (row : Bool) (c : Char) : Place :=
  .lineStart (if c != '\r' then .fresh else if row then .afterRow else .afterBlank)

/-- Ends the line with a character. -/
def endLine (s : Scan) (c : Char) : Scan :=
  let s := s.endField
  { s with
      place := lineStart true c
      lines := (s.line, s.fields.reverse) :: s.lines
      fields := []
      line := s.line + 1 }

/-- Skips a line without fields, which ends with a character. -/
def skipLine (s : Scan) (c : Char) : Scan :=
  { s with place := lineStart false c, field := [], line := s.line + 1 }

/-- A character that ends a line. -/
def isLineEnd (c : Char) : Bool :=
  c == '\n' || c == '\r'

/-- A character outside quotes, where a field may go on. -/
def stepBare (s : Scan) (c : Char) : Scan :=
  if c == ',' then s.endField
  else if isLineEnd c then s.endLine c
  else s.push .bare c

/-- A character where a field begins. -/
def stepField (s : Scan) (c : Char) : Scan :=
  if c == '"' then { s with place := .quoted } else s.stepBare c

/-- A blank that may begin a line without fields. -/
def isMargin (c : Char) : Bool :=
  c == ' ' || c == '\t'

/-- A character at the start of a line. -/
def stepLine (s : Scan) (c : Char) : Scan :=
  if isLineEnd c then s.skipLine c
  else if isMargin c then { s with place := .margin }
  else s.stepField c

/-- Takes in one character. -/
def step (s : Scan) (c : Char) : Scan :=
  match s.place with
  | .lineStart before =>
    -- A carriage return and a line feed end one line, not two.
    if before ≠ .fresh && c == '\n' then { s with place := .lineStart .fresh }
    -- So do, behind a line without fields, a carriage return and a comma.
    else if before = .afterBlank && c == ',' then { s with place := .lineStart .fresh }
    else s.stepLine c
  | .margin => s.stepLine c
  | .fieldStart => s.stepField c
  | .bare => s.stepBare c
  | .quoted => if c == '"' then { s with place := .afterQuote } else s.push .quoted c
  | .afterQuote => if c == '"' then s.push .quoted c else s.stepBare c

/-- Whether a character shows that a line that begins with blanks has fields. -/
def endsMargin (s : Scan) (c : Char) : Bool :=
  s.place = .margin && !isMargin c && !isLineEnd c

/-- Where lines that are skipped begin, given a character, the rest after it, and where they began
before: behind every line feed, and behind a carriage return that ended a row. -/
def resume (s : Scan) (c : Char) (rest start : List Char) : List Char :=
  if c == '\n' then rest
  else if s.place = .lineStart .afterRow && c != ',' then c :: rest
  else start

/-- Takes in characters. A line that begins with blanks and has fields is read again as a row, and
so are the lines that were skipped right before it. Each of them is read again once only, so the
square of the length is enough fuel. -/
def run : Nat → Scan → List Char → List Char → Scan
  | 0, s, _, _ => s
  | _ + 1, s, _, [] => s
  | fuel + 1, s, start, c :: rest =>
    if s.endsMargin c then run fuel { s with place := .fieldStart, field := [] } start start
    else run fuel (s.step c) (s.resume c rest start) rest

/-- The lines when the text is over. -/
def finish (s : Scan) : Except Error (List (Nat × List String)) :=
  match s.place with
  | .lineStart _ | .margin => .ok s.lines.reverse
  | .quoted => .error (.openQuote (s.line - 1))
  | .fieldStart | .bare | .afterQuote => .ok (s.endLine '\n').lines.reverse

end Scan

/-- The fields of every line that has any, with the number of the line. -/
def records (text : String) : Except Error (List (Nat × List String)) :=
  let cs := text.toList
  (Scan.run ((cs.length + 2) * (cs.length + 2)) {} cs cs).finish

/-! ## §2 Column names -/

/-- How often each name was given out. -/
abbrev Counts := List (String × Nat)

def Counts.get (counts : Counts) (name : String) : Nat :=
  (counts.lookup name).getD 0

def Counts.set (counts : Counts) (name : String) (n : Nat) : Counts :=
  (name, n) :: counts

/-- Looks for a numbered form of a name that is still free. -/
def freeName (header : List String) (name : String) :
    Nat → Nat → String → Counts → String × Counts
  | 0, _, candidate, counts => (candidate, counts)
  | _, 0, candidate, counts => (candidate, counts)
  | fuel + 1, n, _, counts =>
    let counts := counts.set name (n + 1)
    let candidate := name ++ "." ++ toString n
    let next := if header.contains candidate then n + 1 else counts.get candidate
    freeName header name fuel next candidate counts

/-- Gives the column at a position a name of its own. -/
def nameColumn (acc : List String × Counts) (i : Nat) : List String × Counts :=
  let (header, counts) := acc
  let name := header.getD i ""
  let fuel := (header.length + 2) * (header.length + 2)
  let (own, counts) := freeName header name fuel (counts.get name) name counts
  (header.set i own, counts.set own (counts.get own + 1))

/-- The names of the columns: a column without a name is named by its position, and of columns of
one name all but the first are numbered. -/
def columnNames (header : List String) : List String :=
  let positions := List.range header.length
  let named := positions.filter fun i => header.getD i "" != ""
  let unnamed := positions.filter fun i => header.getD i "" == ""
  let filled := (positions.zip header).map fun (i, name) =>
    if name == "" then "Unnamed: " ++ toString i else name
  ((named ++ unnamed).foldl nameColumn (filled, [])).1

/-! ## §3 Cells -/

/-- The words that stand for a missing cell. -/
def missingWords : List String :=
  ["", "#N/A", "#N/A N/A", "#NA", "-1.#IND", "-1.#QNAN", "-NaN", "-nan", "1.#IND", "1.#QNAN",
    "<NA>", "N/A", "NA", "NULL", "NaN", "None", "n/a", "nan", "null"]

def isMissing (field : String) : Bool :=
  missingWords.contains field

/-- A field as a cell, given how a field that is there is read. -/
def cellWith (reader : String → Value) (field : String) : Value :=
  if isMissing field then .null else reader field

def textCell (field : String) : Value :=
  cellWith .text field

/-- Reads every field that is there with one reader, if it can read all of them. -/
def readAll (reader : String → Option Value) (fields : List String) : Option (List Value) :=
  fields.mapM fun field => if isMissing field then some .null else reader field

/-- The truth value of a word, in any case. -/
def truth? (field : String) : Option Bool :=
  match String.ofList (Text.lowerAscii field.toList) with
  | "true" => some true
  | "false" => some false
  | _ => none

/-- How a field reads as an integer. -/
inductive IntegerReading where
  | integer (i : Int)
  /-- The field begins with an integer that is too large. -/
  | tooLarge
  | unreadable
deriving DecidableEq

/-- The sign and the digits that a field begins with, and the rest. -/
def splitInteger (field : String) : Bool × List Char × List Char :=
  let (negative, body) := Number.splitSign (field.toList.dropWhile Number.isCellBlank)
  (negative, body.takeWhile Number.isAsciiDigit, body.dropWhile Number.isAsciiDigit)

/-- A field as an integer that fits. Whether it fits is settled before what follows the digits. -/
def readInteger (fits : Int → Bool) (field : String) : IntegerReading :=
  match splitInteger field with
  | (_, [], _) => .unreadable
  | (negative, digits, rest) =>
    let size : Int := Text.digitsValue digits
    let i := if negative then -size else size
    if !fits i then .tooLarge
    else if rest.all Number.isCellBlank then .integer i
    else .unreadable

/-- Whether a field begins with a minus sign. -/
def isNegative (field : String) : Bool :=
  (splitInteger field).1

/-- A field as an integer without a sign. What follows a minus sign is not looked into. -/
def readNatural (field : String) : IntegerReading :=
  if isNegative field then .integer (-1) else readInteger Column.isUnsigned field

/-- The reading of the first field that is no integer, if there is one. -/
def firstFault (reader : String → IntegerReading) (fields : List String) :
    Option IntegerReading :=
  (fields.map reader).find? fun
    | .integer _ => false
    | .tooLarge | .unreadable => true

/-- A field as an integer of any size, with underscores between its digits. -/
def largeInteger? (field : String) : Option Int :=
  let (negative, body) := Number.splitSign (Text.stripChars Number.isCellBlank field.toList)
  (Number.withoutSeparators body).bind fun digits =>
    if digits.isEmpty || !digits.all Number.isAsciiDigit
        || Number.integerDigits < digits.length then none
    else
      let size : Int := Text.digitsValue digits
      some (if negative then -size else size)

/-- The cells of a column of integers. If any is missing, all are binary64 numbers, and those equal
to the least integer, which marks missing cells, are missing, too. -/
def integerCells (fields : List String) : List Value :=
  let cells := fields.map (cellWith fun field => .int ((Number.plainInt? field).getD 0))
  let dropMark : Value → Value
    | .float x => if x = .finite (-0x8000000000000000) then .null else .float x
    | v => v
  if fields.any isMissing then cells.map (dropMark ∘ Column.toFloat) else cells

/-- The cells of a column with integers of more than 64 bits: integers of any size, or texts. -/
def largeCells (fields : List String) : List Value :=
  (readAll (fun field => (largeInteger? field).map .int) fields).getD (fields.map textCell)

/-- The cells of a column that does not hold integers. -/
def otherCells (fields : List String) : List Value :=
  let numbers := readAll (fun field => (Number.ofPlain? field).map .float) fields
  let truths := readAll (fun field => (truth? field).map .bool) fields
  (numbers.or truths).getD (fields.map textCell)

/-- The cells of a column in which an integer does not fit into 64 bits with a sign. -/
def naturalCells (fields present : List String) : List Value :=
  let negative := present.any isNegative
  let large := (present.filter fun field => !isNegative field).any fun field =>
    readInteger Column.isSigned field == .tooLarge
  match firstFault readNatural present with
  | some .unreadable => otherCells fields
  | some _ => largeCells fields
  | none =>
    if !large then largeCells fields
    -- A column without signs has no room for a sign or a missing cell: its fields stay as they are.
    else if negative || fields.any isMissing then fields.map .text
    else integerCells fields

/-- The cells of a column, read as what they all are. -/
def inferCells (fields : List String) : List Value :=
  let present := fields.filter fun field => !isMissing field
  match firstFault (readInteger Column.isSigned) present with
  | none => integerCells fields
  | some .tooLarge => naturalCells fields present
  | some _ => otherCells fields

/-! ## §4 Tables -/

/-- The lines after the first, each with as many fields as the widest of the first two lines. A
later line may not be longer. -/
def checkWidths (width : Nat) : List (Nat × List String) → Except Error (List (List String))
  | [] => .ok []
  | (line, fields) :: rest =>
    if width < fields.length then .error (.tooManyFields width line fields.length)
    else
      (checkWidths width rest).map fun rows =>
        (fields ++ List.replicate (width - fields.length) "") :: rows

/-- The table of a header and rows. Fields in front of the columns, which a header that is too
short leaves without a name, are not part of the table. -/
def assemble (isTextColumn : String → Bool) (header : List String)
    (lines : List (Nat × List String)) : Except Error Table :=
  let first := (lines.head?.map fun line => line.2.length).getD 0
  let width := max header.length first
  (checkWidths width lines).map fun rows =>
    -- The names belong to the last fields of a row.
    let rows := rows.map (·.drop (width - header.length))
    let names := columnNames header
    let column (i : Nat) : List Value :=
      let fields := rows.map fun row => row.getD i ""
      if isTextColumn (names.getD i "") || isTextColumn (header.getD i "") then fields.map textCell
      else inferCells fields
    { columns := names
      rows := Table.transpose ((List.range names.length).map column) rows.length }

/-- The table in a text. A byte order mark in front is not part of it. -/
def read (isTextColumn : String → Bool) (text : String) : Except Error Table :=
  match records (Text.dropMark text) with
  | .error e => .error e
  | .ok [] => .error .noColumns
  | .ok ((_, header) :: lines) => assemble isTextColumn header lines

end MapFilter.Csv
