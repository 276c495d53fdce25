import MapFilter.Proofs.Number.Largest
import MapFilter.Proofs.Predicate.Chain

/-!
# Which quantities can be read

Null, texts that are no number, infinities, lists and objects are passed over when a quantity is read
through a chain of fields. An integer beyond the last number is not: it has no number, and it ends the
reading if no field before it has one. Apart from that there is always a quantity, which is finite: the
first number of the chain, or zero.

- `Value.reading?`, `Record.reading?`: the finite number of a value and of a field
- `Record.IsReadable`: integers beyond the last number stand behind fields with a number
- `quantity_of_isReadable`, `exists_beyond_of_error`: the quantity, and what goes wrong without one
- `quantity_isTotal_iff`: for every record and every list of names
-/

namespace MapFilter

open Number (middleBeyond)

/-! ## §1 Readings -/

/-- The finite number that a value reads as. An integer beyond the last number reads as none. -/
def Value.reading? : Value → Option Number
  | .bool b => some (.finite (if b then 1 else 0))
  | .int i => (Number.ofInt i).finite?
  | .float x => x.finite?
  | .text s => (Number.ofTyped? s).bind Number.finite?
  | .null | .list _ | .object _ => none

theorem Value.toNumber?_int {i : Int} (h : i.natAbs < middleBeyond) :
    (Value.int i).toNumber? = .ok (Value.int i).reading? := by
  have hfinite := Number.isFinite_ofInt_iff.2 h
  simp only [toNumber?, reading?]
  cases hi : Number.ofInt i with
  | nan => exact absurd hi (Number.ofInt_ne_nan i)
  | infinite negative =>
    rw [hi] at hfinite
    cases hfinite
  | negativeZero => rfl
  | finite q => rfl

/-- An integer beyond the last number is an error, where it should read as no number. -/
theorem Value.toNumber?_beyond {i : Int} (h : middleBeyond ≤ i.natAbs) :
    (Value.int i).toNumber? = .error ⟨i⟩ ∧ (Value.int i).reading? = none := by
  have hinfinite : ¬ (Number.ofInt i).isFinite = true := by
    rw [Number.isFinite_ofInt_iff, Nat.not_lt]
    exact h
  simp only [toNumber?, reading?, Number.finite?, hinfinite]
  cases hi : Number.ofInt i with
  | nan => exact absurd hi (Number.ofInt_ne_nan i)
  | infinite negative => exact ⟨rfl, rfl⟩
  | negativeZero => exact absurd (by rw [hi]; rfl) hinfinite
  | finite q => exact absurd (by rw [hi]; rfl) hinfinite

namespace Record

variable {r : Record} {name : String} {names : List String}

/-- The finite number that the property of a name reads as. -/
def reading? (r : Record) (name : String) : Option Number :=
  (r.get? name).bind Value.reading?

theorem number?_eq_reading (h : ∀ i, r.get? name = some (.int i) → i.natAbs < middleBeyond) :
    r.number? (.text name) = .ok (r.reading? name) := by
  cases hproperty : r.get? name with
  | none =>
    rw [number?_eq_none hproperty, reading?, hproperty]
    rfl
  | some v =>
    rw [reading?, hproperty, Option.bind_some]
    refine number?_eq hproperty ?_
    cases v with
    | int i => exact Value.toNumber?_int (h i hproperty)
    | _ => rfl

theorem number?_beyond {i : Int} (h : r.get? name = some (.int i)) (hi : middleBeyond ≤ i.natAbs) :
    r.number? (.text name) = .error (.integerTooLarge i) :=
  number?_eq_error h (Value.toNumber?_beyond hi).1

/-! ## §2 Chains that can be read -/

/-- Where one of the names holds an integer beyond the last number, a name before it holds a finite
number. -/
def IsReadable (r : Record) (names : List String) : Prop :=
  ∀ before name after i, names = before ++ name :: after → r.get? name = some (.int i) →
    middleBeyond ≤ i.natAbs → ∃ other ∈ before, ∃ x, r.reading? other = some x

/-- The first name may not hold such an integer, and unless it holds a number the rest counts. -/
theorem isReadable_cons :
    r.IsReadable (name :: names) ↔
      (∀ i, r.get? name = some (.int i) → i.natAbs < middleBeyond) ∧
        (r.reading? name = none → r.IsReadable names) := by
  constructor
  · intro h
    refine ⟨fun i hi => Nat.lt_of_not_le fun hbeyond => ?_, fun hnone before other after i hnames => ?_⟩
    · obtain ⟨other, hother, -⟩ := h [] name names i rfl hi hbeyond
      exact absurd hother List.not_mem_nil
    · intro hi hbeyond
      obtain ⟨earlier, hearlier, x, hx⟩ :=
        h (name :: before) other after i (by rw [hnames, List.cons_append]) hi hbeyond
      -- The first name holds no number, so the name with one is behind it.
      rcases List.mem_cons.1 hearlier with rfl | hearlier
      · rw [hnone] at hx
        cases hx
      · exact ⟨earlier, hearlier, x, hx⟩
  · rintro ⟨hfirst, hrest⟩ before other after i hnames hi hbeyond
    cases before with
    | nil =>
      cases hnames
      exact absurd (hfirst i hi) (Nat.not_lt.2 hbeyond)
    | cons earlier before =>
      cases hnames
      cases hx : r.reading? name with
      | some x => exact ⟨name, List.mem_cons_self, x, hx⟩
      | none =>
        obtain ⟨between, hbetween, hnumber⟩ := hrest hx before other after i rfl hi hbeyond
        exact ⟨between, List.mem_cons_of_mem _ hbetween, hnumber⟩

end Record

/-! ## §3 Quantities -/

variable {r : Record} {names : List String}

/-- A chain that can be read has its first number for a quantity, or zero. -/
theorem quantity_of_isReadable (h : r.IsReadable names) :
    quantity r (names.map Value.text) = .ok ((names.findSome? r.reading?).getD (.finite 0)) := by
  induction names with
  | nil => rfl
  | cons name rest ih =>
    obtain ⟨hfirst, hrest⟩ := Record.isReadable_cons.1 h
    rw [List.map_cons, quantity_cons, Record.number?_eq_reading hfirst, List.findSome?_cons]
    cases hx : r.reading? name with
    | some x => rfl
    | none => exact ih (hrest hx)

/-- A chain with a quantity can be read. -/
theorem isReadable_of_quantity {x : Number} (h : quantity r (names.map Value.text) = .ok x) :
    r.IsReadable names := by
  induction names with
  | nil =>
    intro before name after i hnames
    simp at hnames
  | cons name rest ih =>
    rw [List.map_cons, quantity_cons] at h
    have hfirst (i : Int) (hi : r.get? name = some (.int i)) : i.natAbs < middleBeyond := by
      refine Nat.lt_of_not_le fun hbeyond => ?_
      rw [Record.number?_beyond hi hbeyond] at h
      cases h
    refine Record.isReadable_cons.2 ⟨hfirst, fun hnone => ?_⟩
    rw [Record.number?_eq_reading hfirst, hnone] at h
    exact ih h

/-- Only an integer beyond the last number leads to an error. -/
theorem exists_beyond_of_error {e : QuantityError}
    (h : quantity r (names.map Value.text) = .error e) :
    ∃ name ∈ names, ∃ i, r.get? name = some (.int i) ∧ middleBeyond ≤ i.natAbs ∧
      e = .integerTooLarge i := by
  induction names with
  | nil => cases h
  | cons name rest ih =>
    rw [List.map_cons, quantity_cons] at h
    by_cases hfirst : ∀ i, r.get? name = some (.int i) → i.natAbs < middleBeyond
    · -- The name is passed over, since a number would have been the quantity.
      rw [Record.number?_eq_reading hfirst] at h
      cases hx : r.reading? name with
      | some x =>
        rw [hx] at h
        cases h
      | none =>
        rw [hx] at h
        obtain ⟨other, hother, hbeyond⟩ := ih h
        exact ⟨other, List.mem_cons_of_mem _ hother, hbeyond⟩
    · push Not at hfirst
      obtain ⟨i, hi, hbeyond⟩ := hfirst
      rw [Record.number?_beyond hi hbeyond] at h
      cases h
      exact ⟨name, List.mem_cons_self, i, hi, hbeyond, rfl⟩

/-- For every record and every list of names there is a quantity exactly if the names can be read, that
is unless an integer beyond the last number comes before all numbers. A quantity is finite, and is the
first number under the names or zero if there is none; what goes wrong is always such an integer. -/
theorem quantity_isTotal_iff (r : Record) (names : List String) :
    ((∃ x, quantity r (names.map Value.text) = .ok x) ↔ r.IsReadable names) ∧
      (∀ x, quantity r (names.map Value.text) = .ok x →
        x = (names.findSome? r.reading?).getD (.finite 0) ∧ x.isFinite = true) ∧
      ∀ e, quantity r (names.map Value.text) = .error e → ∃ name ∈ names, ∃ i,
        r.get? name = some (.int i) ∧ middleBeyond ≤ i.natAbs ∧ e = .integerTooLarge i := by
  refine ⟨⟨fun ⟨x, hx⟩ => isReadable_of_quantity hx, fun h => ⟨_, quantity_of_isReadable h⟩⟩,
    fun x hx => ⟨?_, quantity_isFinite hx⟩, fun e he => exists_beyond_of_error he⟩
  rw [quantity_of_isReadable (isReadable_of_quantity hx)] at hx
  exact (Except.ok.inj hx).symm

/-- Of two fields the first one holds `2 ^ 1024`, which has no number, and the second one holds five: the
first number is five, but there is no quantity. -/
theorem quantity_fails_beyond :
    quantity [("a", .int ((2 ^ 1024 : Nat) : Int)), ("b", .int 5)] [.text "a", .text "b"] =
        .error (.integerTooLarge ((2 ^ 1024 : Nat) : Int)) ∧
      ["a", "b"].findSome?
        (Record.reading? [("a", .int ((2 ^ 1024 : Nat) : Int)), ("b", .int 5)]) =
        some (.finite 5) := by
  have hbeyond : middleBeyond ≤ ((2 ^ 1024 : Nat) : Int).natAbs := by
    rw [Int.natAbs_natCast]
    exact Nat.sub_le _ _
  have hfirst : Record.get? [("a", .int ((2 ^ 1024 : Nat) : Int)), ("b", .int 5)] "a" =
      some (.int ((2 ^ 1024 : Nat) : Int)) := rfl
  refine ⟨?_, ?_⟩
  · rw [quantity_cons, Record.number?_beyond hfirst hbeyond]
  · rw [List.findSome?_cons, Record.reading?, hfirst, Option.bind_some,
      (Value.toNumber?_beyond hbeyond).2]
    rfl

end MapFilter
