import MapFilter.Proofs.Number.Grid
import MapFilter.Proofs.Predicate.Tree

/-!
# When clauses hold

What the single clauses of a filter say of a record, and how the clauses of a conjunction come
together.

- `holds_all_append`: a conjunction is answered by its first part, and then by the rest
- `isWithin_int`: a range of integers is the usual one
- `isWithin_of_isBound`: a range of finite numbers
- `holds_member`: membership in a list of texts
-/

namespace MapFilter.Predicate

/-! ## §1 Conjunctions -/

theorem holds_all_singleton (r : Record) (p : Predicate) : (all [p]).holds r = p.holds r := by
  simp only [holds, holdsAll]
  split
  · rename_i h
    exact h.symm
  · rfl

/-- The answer of two tests in turn: that of the second one if the first one holds. -/
def bothHold (first second : Except MatchError Bool) : Except MatchError Bool :=
  match first with
  | .ok true => second
  | other => other

/-- A conjunction in two portions is answered by one after the other. -/
theorem holds_all_append (r : Record) (xs ys : List Predicate) :
    (all (xs ++ ys)).holds r = bothHold ((all xs).holds r) ((all ys).holds r) := by
  simp only [holds]
  induction xs with
  | nil => rfl
  | cons p rest ih =>
    simp only [List.cons_append, holdsAll]
    -- Only a first part that holds leads on to what follows.
    cases hp : p.holds r with
    | error e => rfl
    | ok b =>
      cases b with
      | false => rfl
      | true => exact ih

/-! ## §2 Ranges -/

theorem lt_finite_int (a b : Int) : Number.lt (.finite a) (.finite b) = decide (a < b) := by
  have hrat : Number.lt (.finite a) (.finite b) = decide ((a : Rat) < (b : Rat)) := rfl
  rw [hrat]
  simp only [Rat.intCast_lt_intCast]

theorem isWithin_int (low high k : Int) :
    isWithin (.int low) (.int high) (.finite k) = .ok (decide (low ≤ k ∧ k ≤ high)) := by
  have hlow : respects (fun b => !(Number.finite k).lt b) (.int low) = .ok (decide (low ≤ k)) := by
    simp only [respects, Value.toExact?, lt_finite_int, ← decide_not, Int.not_lt]
  have hhigh : respects (fun b => !b.lt (.finite k)) (.int high) = .ok (decide (k ≤ high)) := by
    simp only [respects, Value.toExact?, lt_finite_int, ← decide_not, Int.not_lt]
  rw [isWithin, hlow]
  by_cases h : low ≤ k
  · simpa [h, bind, Except.bind] using hhigh
  · simp [h, bind, Except.bind, pure, Except.pure]

theorem mem_of_mem_chain {field name : FieldName} {fallbacks : List FieldName}
    (h : name ∈ chain field fallbacks) : name ∈ field :: fallbacks := by
  rcases List.mem_cons.1 h with rfl | h
  · exact List.mem_cons_self
  · exact List.mem_cons_of_mem _ (List.mem_filter.1 h).1

theorem exists_chain_eq {field : FieldName} {fallbacks : List FieldName}
    (h : ∀ name ∈ field :: fallbacks, name.isText = true) :
    ∃ names : List String, chain field fallbacks = names.map .text := by
  exact Value.exists_map_of_isText fun name hname => h name (mem_of_mem_chain hname)

/-- Whether a number lies between two bounds, of which an absent one is respected by all numbers. -/
def liesBetween (minimum maximum : Value) (x : Number) : Bool :=
  minimum.toExact?.all (·.le x) && maximum.toExact?.all x.le

/-- A bound is absent or a finite number. -/
theorem toExact?_of_isBound {bound : Value} (h : bound.isBound = true) :
    bound = .null ∨ ∃ y, bound.toExact? = some y ∧ y.isFinite = true ∧ bound ≠ .null := by
  cases bound with
  | null => exact .inl rfl
  | int i => exact .inr ⟨.finite i, rfl, rfl, nofun⟩
  | float y => exact .inr ⟨y, rfl, h, nofun⟩
  | _ => simp [Value.isBound] at h

theorem isKey_of_isBound {bound : Value} (h : bound.isBound = true) : bound.isKey = true := by
  cases bound <;> simp_all [Value.isBound, Value.isKey]

/-- Looking at a bound means comparing with its number, if there is one. -/
theorem respects_of_isBound {bound : Value} (h : bound.isBound = true) (test : Number → Bool) :
    respects test bound = .ok (bound.toExact?.all test) := by
  rcases toExact?_of_isBound h with rfl | ⟨y, hy, -, hnull⟩
  · rfl
  · cases bound with
    | null => exact absurd rfl hnull
    | _ => simp only [respects, hy, Option.all_some]

/-- A finite number is within bounds if it is compared with them favourably. -/
theorem isWithin_of_isBound {minimum maximum : Value} {x : Number} (hmin : minimum.isBound = true)
    (hmax : maximum.isBound = true) (hx : x.isFinite = true) :
    isWithin minimum maximum x = .ok (liesBetween minimum maximum x) := by
  have hlow : respects (fun b => !x.lt b) minimum = .ok (minimum.toExact?.all (·.le x)) := by
    rw [respects_of_isBound hmin]
    rcases toExact?_of_isBound hmin with rfl | ⟨y, hy, hfinite, -⟩
    · rfl
    · rw [hy, Option.all_some, Option.all_some, Number.not_lt_eq_le hx hfinite]
  have hhigh : respects (fun b => !b.lt x) maximum = .ok (maximum.toExact?.all x.le) := by
    rw [respects_of_isBound hmax]
    rcases toExact?_of_isBound hmax with rfl | ⟨y, hy, hfinite, -⟩
    · rfl
    · rw [hy, Option.all_some, Option.all_some, Number.not_lt_eq_le hfinite hx]
  rw [isWithin, hlow, hhigh, liesBetween]
  cases minimum.toExact?.all (·.le x) <;> rfl

theorem holds_within {r : Record} {field : FieldName} {fallbacks : List FieldName} {x : Number}
    (h : MapFilter.quantity r (chain field fallbacks) = .ok x) (minimum maximum : Value) :
    (within field minimum maximum fallbacks).holds r = isWithin minimum maximum x := by
  rw [holds, h]

/-! ## §3 Membership -/

theorem holds_member {r : Record} {field : FieldName} {s : String}
    (h : r.lookFor field = .ok (some (.text s))) (texts : List String) :
    (member field (texts.map .text)).holds r = .ok (decide (s ∈ texts)) := by
  simp [holds, onProperty, h, isMember, Value.display]

end MapFilter.Predicate
