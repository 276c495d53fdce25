import MapFilter.Proofs.Sql.Reading
import MapFilter.Sql.Evaluation

/-!
# What a condition means to a database

A term has a value for a row, and truth values may be unknown. What casts and comparisons make of
single values is the database's own; a few of its rules are all that conditions rely on.

- `Engine`: what a database makes of single values
- `Term.evaluate`: the value of a term for a row
- `keeps?`: whether a query keeps a row
- `evaluate_conjunctionTerm`: a conjunction is true if all its terms are
- `Engine.Serves`: what is relied on for a row
- `database`: the casts that the store's own queries are made of
-/

namespace MapFilter.Sql

/-! ## §1 Values -/

/-- What a database makes of single values. -/
structure Engine where
  /-- The value as a text. -/
  castText : Value → Value
  /-- The value as a number, null if it has none. -/
  castNumber : Value → Value
  /-- The number that a value takes part in comparisons with. -/
  operand : Value → Option Number

/-- The truth value that a value is; unknown for null. -/
def truth? : Value → Option (Option Bool)
  | .null => some none
  | .bool b => some (some b)
  | _ => none

/-- The value that is a truth value. -/
def ofTruth : Option Bool → Value
  | none => .null
  | some b => .bool b

/-- Both are true: false if one is false, and unknown if that depends on an unknown one. -/
def bothTruths : Option Bool → Option Bool → Option Bool
  | some false, _ | _, some false => some false
  | some true, some true => some true
  | none, _ | _, none => none

/-- One is true: true if one is true, and unknown if that depends on an unknown one. -/
def eitherTruth : Option Bool → Option Bool → Option Bool
  | some true, _ | _, some true => some true
  | some false, some false => some false
  | none, _ | _, none => none

/-- Whether a comparison is true of two numbers. -/
def Comparison.test : Comparison → Number → Number → Bool
  | .equal, x, y => x.same y
  | .atLeast, x, y => y.le x
  | .atMost, x, y => x.le y

/-- The value of a comparison. Nothing is known of null, and texts are only compared for equality. Two
integers are compared as they are, if they take at most 128 bits. -/
def Engine.compare (engine : Engine) (c : Comparison) (a b : Value) : Option Value :=
  match a, b with
  | .null, _ | _, .null => some .null
  | .text s, .text t => if c = .equal then some (.bool (s == t)) else none
  | .int i, .int j =>
    if isStorable i && isStorable j then some (.bool (c.test (.finite i) (.finite j))) else none
  | a, b =>
    match engine.operand a, engine.operand b with
    | some x, some y => some (.bool (c.test x y))
    | _, _ => none

/-- Whether a number is neither an infinity nor no number. -/
def finiteness? : Value → Option Value
  | .null => some .null
  | .float x => some (.bool x.isFinite)
  | _ => none

/-! ## §2 Terms -/

/-- The value of a term for a row; `none` where the query fails. -/
def Term.evaluate (engine : Engine) (row : Record) : Term → Option Value
  | .column name => row.get? name
  | .value v => some v
  | .castText t => (t.evaluate engine row).map engine.castText
  | .castNumber t => (t.evaluate engine row).map engine.castNumber
  | .isFinite t => (t.evaluate engine row).bind finiteness?
  | .onlyIf condition t =>
    match (condition.evaluate engine row).bind truth? with
    | some (some true) => t.evaluate engine row
    | some _ => some .null
    | none => none
  | .firstOf t u =>
    match t.evaluate engine row with
    | some .null => u.evaluate engine row
    | result => result
  | .compare c t u =>
    (t.evaluate engine row).bind fun a => (u.evaluate engine row).bind (engine.compare c a)
  | .both t u =>
    ((t.evaluate engine row).bind truth?).bind fun p =>
      ((u.evaluate engine row).bind truth?).map fun q => ofTruth (bothTruths p q)
  | .either t u =>
    ((t.evaluate engine row).bind truth?).bind fun p =>
      ((u.evaluate engine row).bind truth?).map fun q => ofTruth (eitherTruth p q)

/-- Whether a query keeps a row: the text with its parameters is a term, and the term is true. -/
def keeps? (engine : Engine) (row : Record) (text : String) (params : List Value) : Option Bool :=
  ((read? text params).bind (Term.evaluate engine row)).map (· == .bool true)

variable {engine : Engine} {row : Record}

theorem truth?_ofTruth (p : Option Bool) : truth? (ofTruth p) = some p := by
  cases p <;> rfl

theorem evaluate_both {t u : Term} {p q : Option Bool}
    (ht : t.evaluate engine row = some (ofTruth p)) (hu : u.evaluate engine row = some (ofTruth q)) :
    (Term.both t u).evaluate engine row = some (ofTruth (bothTruths p q)) := by
  simp only [Term.evaluate, ht, hu, Option.bind_some, truth?_ofTruth, Option.map_some]

theorem evaluate_either {t u : Term} {p q : Option Bool}
    (ht : t.evaluate engine row = some (ofTruth p)) (hu : u.evaluate engine row = some (ofTruth q)) :
    (Term.either t u).evaluate engine row = some (ofTruth (eitherTruth p q)) := by
  simp only [Term.evaluate, ht, hu, Option.bind_some, truth?_ofTruth, Option.map_some]

theorem bothTruths_eq_true (p q : Option Bool) :
    (bothTruths p q == some true) = (p == some true && q == some true) := by
  cases p with
  | none => cases q with
    | none => rfl
    | some c => cases c <;> rfl
  | some b => cases q with
    | none => cases b <;> rfl
    | some c => cases b <;> cases c <;> rfl

/-- A conjunction is true if all its terms are. -/
theorem evaluate_conjunctionTerm {parts : List (Term × Option Bool)}
    (h : ∀ part ∈ parts, part.1.evaluate engine row = some (ofTruth part.2)) :
    ∃ q, (conjunctionTerm (parts.map Prod.fst)).evaluate engine row = some (ofTruth q)
      ∧ (q == some true) = parts.all (·.2 == some true) := by
  induction parts with
  | nil => exact ⟨some true, rfl, rfl⟩
  | cons part rest ih =>
    have hpart := h part List.mem_cons_self
    obtain ⟨q, hq, hall⟩ := ih fun other hother => h other (List.mem_cons_of_mem _ hother)
    -- The last term stands alone, without a truth value to be joined with.
    cases rest with
    | nil => exact ⟨part.2, hpart, by simp⟩
    | cons next rest =>
      refine ⟨bothTruths part.2 q, evaluate_both hpart hq, ?_⟩
      rw [bothTruths_eq_true, hall]
      rfl

/-! ## §3 What is relied on -/

/-- The number in a value, finite or not. -/
def reading? : Value → Option Number
  | .bool b => some (.finite (if b then 1 else 0))
  | .int i => some (Number.ofInt i)
  | .float x => some x
  | .text s => Number.ofTyped? s
  | .null | .list _ | .object _ => none

/-- What is known of a database: casts keep texts and null, the cells of the row are cast to the
numbers that they hold, and an integer that is compared with a number is cast to one. -/
structure Engine.Serves (engine : Engine) (row : Record) : Prop where
  castText_null : engine.castText .null = .null
  castText_text : ∀ s, engine.castText (.text s) = .text s
  castNumber_cell : ∀ name v, row.get? name = some v →
    engine.castNumber v = (reading? v).elim .null .float
  operand_float : ∀ x, engine.operand (.float x) = some x
  operand_int : ∀ i, isStorable i = true → engine.operand (.int i) = some (castDouble i)

/-- The casts that the store's own queries are made of. An integer of more than 128 bits is no
parameter. -/
def database : Engine where
  castText v := (castText v).elim .null .text
  castNumber v :=
    match storedNumber v with
    | .float x => .float x
    | .text s => (castNumber? s).elim .null .float
    | _ => .null
  operand
    | .int i => if isStorable i then some (castDouble i) else none
    | .float x => some x
    | _ => none

/-- The casts serve a row of missing cells, numbers, small integers, and texts that are read alike. -/
theorem database_serves {row : Record}
    (h : ∀ name v, row.get? name = some v →
      match v with
      | .null | .float _ => True
      | .int i => Column.isSigned i = true
      | .text s => castNumber? s = Number.ofTyped? s
      | .bool _ | .list _ | .object _ => False) :
    database.Serves row where
  castText_null := rfl
  castText_text _ := rfl
  castNumber_cell name v hv := by
    have hcell := h name v hv
    cases v with
    | null | float => rfl
    | bool | list | object => cases hcell
    | int i =>
      have hcast : storedNumber (.int i) = .float (Number.ofInt i) := by
        rw [storedNumber, castDouble, if_pos hcell]
      simp only [database, hcast]
      rfl
    | text s =>
      have htext : storedNumber (.text s) = .text s := rfl
      simp only [database, htext, hcell]
      rfl
  operand_float _ := rfl
  operand_int i hi := by simp only [database, hi, if_true]

/-! ## §4 Texts -/

/-- Nothing is known of the text of a missing cell. -/
theorem evaluate_oneOf_null {t : Term} (ht : t.evaluate engine row = some .null) (v : Value)
    (rest : List Value) :
    (t.oneOf (.value v) (rest.map .value)).evaluate engine row = some (ofTruth none) := by
  induction rest generalizing v with
  | nil => simp [Term.oneOf, Term.evaluate, ht, Engine.compare, ofTruth]
  | cons w rest ih =>
    have hfirst : (Term.compare .equal t (.value v)).evaluate engine row = some (ofTruth none) := by
      simp [Term.evaluate, ht, Engine.compare, ofTruth]
    exact evaluate_either hfirst (ih w)

/-- The text of a cell is one of several texts. -/
theorem evaluate_oneOf_text {t : Term} {s : String}
    (ht : t.evaluate engine row = some (.text s)) (first : String) (rest : List String) :
    (t.oneOf (.value (.text first)) ((rest.map .text).map .value)).evaluate engine row =
      some (ofTruth (some (decide (s ∈ first :: rest)))) := by
  have hfirst (u : String) : (Term.compare .equal t (.value (.text u))).evaluate engine row =
      some (ofTruth (some (decide (s = u)))) := by
    simp [Term.evaluate, ht, Engine.compare, ofTruth]
    rfl
  induction rest generalizing first with
  | nil =>
    rw [List.map_nil, List.map_nil, Term.oneOf, hfirst]
    simp
  | cons next rest ih =>
    -- Neither truth value is unknown, so the alternative is the usual one.
    refine (evaluate_either (hfirst first) (ih next)).trans ?_
    by_cases h : s = first <;> by_cases h' : s ∈ next :: rest <;> simp_all [eitherTruth]

end MapFilter.Sql
