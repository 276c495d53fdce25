import MapFilter.Predicate

/-!
# Clauses of a filter

A filter is a tree of conjunctions with clauses at its leaves. What a filter is allowed to contain,
and what it asks of a record, is a matter of its clauses.

- `Predicate.inductionOn`: induction on a filter, whose parts may be any number
- `Predicate.clauses`: the leaves, from left to right
- `Predicate.of_clauses`: a filter has what its clauses have and conjunctions take over
- `Predicate.IsPlain`: every clause names properties by text, compares them with texts, and has
  finite numbers for bounds
- `Predicate.BoundsPass`: every bound passes a test
- `Value.isRepresentable`: the test for a binary64 number
-/

namespace MapFilter

/-- Whether a value is a bound: a finite number, or null where there is none. -/
def Value.isBound : Value → Bool
  | .null | .int _ => true
  | .float x => x.isFinite
  | _ => false

/-- Whether a value has no other value as a binary64 number. Only large integers have. -/
def Value.isRepresentable : Value → Bool
  | .int i => Number.ofInt i = .finite i
  | _ => true

theorem Value.exists_of_isText {v : Value} (h : v.isText = true) : ∃ s, v = .text s := by
  cases v with
  | text s => exact ⟨s, rfl⟩
  | _ => simp [isText] at h

theorem Value.exists_map_of_isText {values : List Value} (h : ∀ v ∈ values, v.isText = true) :
    ∃ texts : List String, values = texts.map .text := by
  induction values with
  | nil => exact ⟨[], rfl⟩
  | cons v rest ih =>
    obtain ⟨s, rfl⟩ := Value.exists_of_isText (h v List.mem_cons_self)
    obtain ⟨texts, rfl⟩ := ih fun w hw => h w (List.mem_cons_of_mem _ hw)
    exact ⟨s :: texts, rfl⟩

namespace Predicate

/-! ## §1 Induction -/

/-- Induction on a filter: a conjunction may use what holds of all its parts. -/
theorem inductionOn {motive : Predicate → Prop}
    (all : ∀ parts, (∀ p ∈ parts, motive p) → motive (.all parts))
    (equals : ∀ field literal, motive (.equals field literal))
    (within : ∀ field minimum maximum fallbacks, motive (.within field minimum maximum fallbacks))
    (member : ∀ field values, motive (.member field values))
    (unspecified : motive .unspecified) (p : Predicate) : motive p := by
  refine @Predicate.rec motive (fun parts => ∀ p ∈ parts, motive p)
    all equals within member unspecified ?_ ?_ p
  · simp
  · intro head tail hhead htail q hq
    rcases List.mem_cons.1 hq with rfl | hq
    · exact hhead
    · exact htail q hq

/-! ## §2 Clauses -/

mutual

/-- The clauses of a filter from left to right. -/
def clauses : Predicate → List Predicate
  | .all parts => clausesOfParts parts
  | p => [p]

def clausesOfParts : List Predicate → List Predicate
  | [] => []
  | p :: rest => p.clauses ++ clausesOfParts rest

end

theorem mem_clauses_all {parts : List Predicate} {clause : Predicate} :
    clause ∈ (all parts).clauses ↔ ∃ p ∈ parts, clause ∈ p.clauses := by
  rw [clauses]
  induction parts with
  | nil => simp [clausesOfParts]
  | cons p rest ih => simp [clausesOfParts, ih]

/-- What conjunctions take over from their parts holds of a filter if it holds of its clauses. -/
theorem of_clauses {motive : Predicate → Prop} {p : Predicate}
    (hall : ∀ parts, (∀ q ∈ parts, motive q) → motive (.all parts))
    (hclauses : ∀ clause ∈ p.clauses, motive clause) : motive p := by
  induction p using inductionOn with
  | all parts ih =>
    refine hall parts fun q hq => ih q hq fun clause hclause => ?_
    exact hclauses clause (mem_clauses_all.2 ⟨q, hq, hclause⟩)
  | equals field literal => exact hclauses _ (by simp [clauses])
  | within field minimum maximum fallbacks => exact hclauses _ (by simp [clauses])
  | member field values => exact hclauses _ (by simp [clauses])
  | unspecified => exact hclauses _ (by simp [clauses])

/-! ## §3 Plain filters -/

/-- A clause is plain. -/
def IsPlainClause : Predicate → Prop
  | .all _ | .unspecified => False
  | .equals field literal => field.isText = true ∧ literal.isText = true
  | .within field minimum maximum fallbacks =>
    (∀ name ∈ field :: fallbacks, name.isText = true)
      ∧ minimum.isBound = true ∧ maximum.isBound = true
  | .member field values => field.isText = true ∧ ∀ v ∈ values, v.isText = true

/-- The field whose property a clause takes for a text. -/
def textField? : Predicate → Option FieldName
  | .equals field _ | .member field _ => some field
  | .all _ | .within .. | .unspecified => none

/-- The bounds of a clause that is a range, where an absent one is null. -/
def ends : Predicate → List Value
  | .within _ minimum maximum _ => [minimum, maximum]
  | .all _ | .equals .. | .member .. | .unspecified => []

/-- Every clause of the filter is plain. -/
def IsPlain (p : Predicate) : Prop :=
  ∀ clause ∈ p.clauses, clause.IsPlainClause

/-- All bounds in the filter pass a test. -/
def BoundsPass (test : Value → Bool) (p : Predicate) : Prop :=
  ∀ clause ∈ p.clauses, ∀ bound ∈ clause.ends, test bound = true

theorem BoundsPass.within {test : Value → Bool} {p : Predicate} (h : p.BoundsPass test)
    {field minimum maximum : Value} {fallbacks : List FieldName}
    (hclause : .within field minimum maximum fallbacks ∈ p.clauses) :
    test minimum = true ∧ test maximum = true := by
  have hends := h _ hclause
  exact ⟨hends minimum (by simp [ends]), hends maximum (by simp [ends])⟩

instance : DecidablePred IsPlainClause
  | .all _ | .unspecified => .isFalse id
  | .equals field literal => inferInstanceAs (Decidable (field.isText = true ∧ literal.isText = true))
  | .within field minimum maximum fallbacks => inferInstanceAs (Decidable
      ((∀ name ∈ field :: fallbacks, name.isText = true)
        ∧ minimum.isBound = true ∧ maximum.isBound = true))
  | .member field values =>
    inferInstanceAs (Decidable (field.isText = true ∧ ∀ v ∈ values, v.isText = true))

instance : DecidablePred IsPlain := fun p =>
  inferInstanceAs (Decidable (∀ clause ∈ p.clauses, clause.IsPlainClause))

instance (test : Value → Bool) : DecidablePred (BoundsPass test) := fun p =>
  inferInstanceAs (Decidable (∀ clause ∈ p.clauses, ∀ bound ∈ clause.ends, test bound = true))

end Predicate

end MapFilter
