import MapFilter.Capability
import MapFilter.Sql.Evaluation
import MapFilter.Store.Basic

/-!
# Questions to the store

Everything that is asked of the features loads them first. Records are handed out from memory;
selections and sums are queries of the database.

- `Store.sample`: the first records of a source
- `Store.select`: the rows that satisfy a predicate
- `Store.summarize`: how many rows satisfy it, and the sum of a quantity over them
-/

namespace MapFilter

/-! ## §1 Queries on a table -/

namespace Sql

/-- The rows that a condition keeps. -/
def selectRows (c : Condition) (t : Table) : Except QueryError Table :=
  (t.rows.filterM fun row => c.keeps (Table.record t.columns row)).map fun rows =>
    { t with rows := rows }

/-- The sum of a quantity over all rows. -/
def sumQuantity (columns : List String) (t : Table) : Number :=
  Number.sum (t.records.map fun r => rowQuantity r columns)

end Sql

/-- How many rows satisfy a predicate, and the sum of a quantity over them. -/
structure Summary where
  rows : Nat
  total : Number
deriving DecidableEq

namespace Store

/-! ## §2 Records -/

def columns (settings : StoreSettings) (s : Store) : Except StoreError (List String) × Store :=
  let (t, s) := s.load settings
  (t.map Table.columns, s)

def size (settings : StoreSettings) (s : Store) : Except StoreError (Nat × Nat) × Store :=
  let (t, s) := s.load settings
  (t.map fun t => (t.rows.length, t.columns.length), s)

/-- Whether the features belong to a source. -/
def StoreSettings.isSource (settings : StoreSettings) (source : Value) : Bool :=
  settings.source.all (source.same ·)

/-- The first records of a source, without missing cells; none of another source, and none of a table
without columns. -/
def sample (settings : StoreSettings) (source : Value) (limit : Int) (s : Store) :
    Except StoreError (List Record) × Store :=
  if StoreSettings.isSource settings source then
    let (t, s) := s.load settings
    (t.map fun t => t.offered.take limit.toNat, s)
  else (.ok [], s)

def provider (settings : StoreSettings) (limit : Int) : SampleProvider Store := fun source s =>
  match s.sample settings source limit with
  | (.ok records, s) => (.records records, s)
  | (.error e, s) => (.failed e.message, s)

/-! ## §3 Selections -/

/-- What a query finds: the stored table, its rows that were kept, and columns by the names that the
table has. -/
structure Found where
  whole : Table
  kept : Table
  columns : List String

/-- What a query with a condition and further columns finds in the stored table. -/
def find (c : Sql.Condition) (columns : List String) (s : Store) : Except StoreError Found :=
  match c.check columns, s.relation with
  -- A query that cannot be read fails even without a table.
  | .error .emptyName, _ => .error (.query .emptyName)
  | _, .nothing | _, .brokenView => .error .catalog
  | .error e, _ => .error (.query e)
  | .ok (), .table t =>
    match Sql.selectRows (c.resolve t.columns) t with
    | .error e => .error (.query e)
    | .ok kept =>
      .ok ⟨t, kept, columns.map fun name => (Sql.storedColumn? t.columns name).getD name⟩

/-- Opens the database and asks it. -/
def query (settings : StoreSettings) (c : Sql.Condition) (columns : List String) (s : Store) :
    Except StoreError Found × Store :=
  match s.connect settings with
  | .error e => (.error e, s)
  | .ok s => (s.find c columns, s)

/-- The condition of a query over a table with the columns. -/
def condition (columns : List String) (parts : List Predicate) :
    Except StoreError Sql.Condition :=
  match Predicate.toQuery (.listed (columns.map .text)) parts with
  | .ok c => .ok c
  | .error e => .error (.condition e)

/-- The columns of a quantity. -/
def quantityColumns (columns : List String) (fields : List FieldName) :
    Except StoreError (List String) :=
  match Predicate.columnChain (.listed (columns.map .text)) fields with
  | .ok names => .ok names
  | .error e => .error (.condition e)

/-- The rows that satisfy all parts of a predicate. -/
def select (settings : StoreSettings) (parts : List Predicate) (s : Store) :
    Except StoreError Table × Store :=
  match s.columns settings with
  | (.error e, s) => (.error e, s)
  | (.ok [], s) => (.ok {}, s)
  | (.ok columns, s) =>
    match condition columns parts with
    | .error e => (.error e, s)
    | .ok c =>
      let (found, s) := s.query settings c []
      (found.map fun found => found.kept.fetchedFrom found.whole, s)

/-- How many rows satisfy all parts of a predicate, and the sum of a quantity over them. -/
def summarize (settings : StoreSettings) (parts : List Predicate) (fields : List FieldName)
    (s : Store) : Except StoreError Summary × Store :=
  match s.columns settings with
  | (.error e, s) => (.error e, s)
  | (.ok [], s) => (.ok ⟨0, .finite 0⟩, s)
  | (.ok columns, s) =>
    match condition columns parts, quantityColumns columns fields with
    | .error e, _ => (.error e, s)
    | _, .error e => (.error e, s)
    | .ok c, .ok names =>
      let (found, s) := s.query settings c names
      (found.map fun found =>
        ⟨found.kept.rows.length, Sql.sumQuantity found.columns found.kept⟩, s)

end Store

end MapFilter
