import MapFilter.Value.Basic

/-!
# Entries under keys

Entries in order, each under a key of any kind. Keys that are equal in value are one key, and it
looks like the first of them that was used; its entry is the last one that was put in. The value
that is not a number equals no key, so it is a new key whenever it is used.

- `Keyed.insert`: putting an entry in
- `Keyed.toObject`: the entries of an object, where every key needs a name
- `Value.entries`: the entries that a value has, an object or a list of pairs
-/

namespace MapFilter

/-- Entries under keys, in the order in which their keys were used first. -/
abbrev Keyed (α : Type) := List (Value × α)

namespace Keyed

variable {α : Type}

def insert (entries : Keyed α) (key : Value) (a : α) : Keyed α :=
  if entries.any (·.1.same key) then
    entries.map fun entry => if entry.1.same key then (entry.1, a) else entry
  else entries ++ [(key, a)]

/-- The entries with one put in, whose key must be one. -/
def insertKey (entries : Keyed α) (key : Value) (a : α) : Except NoKey (Keyed α) :=
  if key.isKey then .ok (entries.insert key a) else .error ⟨key⟩

/-- Entries put in from the left. -/
def ofList (entries : List (Value × α)) : Keyed α :=
  entries.foldl (fun acc entry => insert acc entry.1 entry.2) []

def get? (entries : Keyed α) (key : Value) : Option α :=
  (entries.find? (·.1.same key)).map Prod.snd

/-- The entries as an object, each under the name of its key. Of several keys with one name the last
counts, at the place of the first. -/
def toObject (entries : Keyed Value) (name : Value → String) : Record :=
  Record.insertAll [] (entries.map fun entry => (name entry.1, entry.2))

end Keyed

/-! ## Entries of a value -/

/-- Why a value has no entries. -/
inductive EntriesError where
  /-- An item has another length than two. -/
  | unpaired (place length : Nat)
  /-- The value is neither an object nor a list of pairs with keys. -/
  | malformed
deriving DecidableEq

/-- The message of the error, where it says more than what it is about. -/
def EntriesError.message? : EntriesError → Option String
  | .unpaired place length =>
    some ("dictionary update sequence element #" ++ toString place ++ " has length "
      ++ toString length ++ "; 2 is required")
  | .malformed => none

namespace Value

/-- The key and the value in an item of a list of pairs. -/
def pair (place : Nat) (item : Value) : Except EntriesError (Value × Value) :=
  match item.items? with
  | some [key, v] => if key.isKey then .ok (key, v) else .error .malformed
  | some items => .error (.unpaired place items.length)
  | none => .error .malformed

/-- The entries that a value has: those of an object, or those of a list of pairs. -/
def entries (v : Value) : Except EntriesError (Keyed Value) :=
  match v, v.items? with
  | .object entries, _ => .ok (entries.map fun (name, v) => (.text name, v))
  | _, some items =>
    (items.zipIdx.mapM fun (item, place) => pair place item).map Keyed.ofList
  | _, none => .error .malformed

end Value

end MapFilter
