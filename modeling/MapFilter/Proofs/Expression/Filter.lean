import MapFilter.Expression
import MapFilter.Proofs.Expression.Document
import MapFilter.Proofs.Predicate.Chain
import MapFilter.Proofs.Predicate.Holding

/-!
# Filters on the map

The map shows what a filter holds of. It is handed the filter as an expression, reads that from the
style document, and finds the same truth value for a record as the filter itself. The numbers of the
document are binary64 numbers and the labels of a choice differ, so an integer that is rounded may move
a bound, and a filter that repeats a value is not read at all.

- `Expression.evaluate_quantity`: the nested expression for a chain has the quantity for its value
- `Predicate.AgreesOnMap`: the expression of a filter is readable and has the answer of the filter
- `Predicate.evaluate_toExpression_eq_holds`: plain filters agree with their expressions, if their
  bounds are binary64 numbers and their values distinct
- `Predicate.expression_differs_rounded_repeated`: without that they need not
-/

namespace MapFilter

/-! ## §1 Quantities -/

namespace Expression

/-- A property that is there and not null differs from null. -/
theorem alike_null {v : Value} (h : v ≠ .null) : alike v .null = false := by
  cases v with
  | null => exact absurd rfl h
  | bool b => rfl
  | int i => rfl
  | float x => rfl
  | text s => rfl
  | list items => rfl
  | object entries => rfl

theorem evaluate_quantity_cons_of_null {r : Record} {field : FieldName}
    (h : (r.field? field).getD .null = .null) (rest : List FieldName) :
    evaluate r (quantity (field :: rest)) = evaluate r (quantity rest) := by
  have hnull : alike .null .null = true := rfl
  simp [quantity, evaluate, h, hnull]

/-- A field with a value is converted to a number, with the rest of the chain as the fallback. -/
theorem evaluate_quantity_cons {r : Record} {field : FieldName} {v : Value}
    (h : r.field? field = some v) (hv : v ≠ .null) (rest : List FieldName) :
    evaluate r (quantity (field :: rest)) = convertToNumber v (evaluate r (quantity rest)) := by
  simp [quantity, evaluate, h, alike_null hv]

/-- A value that can be read is converted to the number it reads as, or else to the fallback. -/
theorem numberOf?_convertToNumber {v fallback : Value} {x : Option Number} (hv : v ≠ .null)
    (h : v.toNumber? = .ok x) :
    numberOf? (convertToNumber v fallback) = x.or (numberOf? fallback) := by
  have hconvert : convertToNumber v fallback = (x.map Value.float).getD fallback := by
    cases v with
    | null => exact absurd rfl hv
    | _ => cases x <;> simp only [convertToNumber, h] <;> rfl
  rw [hconvert]
  cases x with
  | none => rfl
  | some x => rfl

/-- The expression of a chain has the quantity of the chain for its value. -/
theorem evaluate_quantity {r : Record} {names : List FieldName} {x : Number}
    (hnames : ∀ name ∈ names, ∃ s, name = .text s) (h : MapFilter.quantity r names = .ok x) :
    numberOf? (evaluate r (quantity names)) = some x := by
  -- Each field repeats the expression for the rest twice, so the rest is what the induction is on.
  induction names with
  | nil =>
    cases h
    rfl
  | cons field rest ih =>
    obtain ⟨s, rfl⟩ := hnames field List.mem_cons_self
    have hrest := ih fun name hname => hnames name (List.mem_cons_of_mem _ hname)
    rw [quantity_cons] at h
    cases hproperty : r.get? s with
    | none =>
      -- An absent property is null to the map, and so passed over.
      rw [Record.number?_eq_none hproperty] at h
      rw [evaluate_quantity_cons_of_null (by simp [Record.field?, hproperty])]
      exact hrest h
    | some v =>
      by_cases hv : v = .null
      · subst hv
        rw [Record.number?_eq hproperty rfl] at h
        rw [evaluate_quantity_cons_of_null (by simp [Record.field?, hproperty])]
        exact hrest h
      · rw [evaluate_quantity_cons (show r.field? (.text s) = some v from hproperty) hv]
        cases hnumber : v.toNumber? with
        | error e =>
          rw [Record.number?_eq_error hproperty hnumber] at h
          cases h
        | ok y =>
          rw [Record.number?_eq hproperty hnumber] at h
          rw [numberOf?_convertToNumber hv hnumber]
          cases y with
          | none => exact hrest h
          | some y =>
            cases h
            rfl

theorem isWritten_quantity (names : List FieldName) : (quantity names).isWritten = true := by
  induction names with
  | nil => rfl
  | cons field rest ih => simp [quantity, isWritten, ih, Value.isKey]

end Expression

/-! ## §2 Clauses -/

namespace Predicate

variable {r : Record}

/-- The expression of a filter is readable and has the answer of the filter for its value. -/
def AgreesOnMap (r : Record) (p : Predicate) : Prop :=
  ∃ e b, p.toExpression? = some e ∧ e.isWritten = true ∧ e.evaluate r = .bool b
    ∧ p.holds r = .ok b

theorem agreesOnMap_equals (name s : String) : AgreesOnMap r (.equals (.text name) (.text s)) := by
  refine ⟨_, isText (r.get? name) (.text s), rfl, rfl, ?_, rfl⟩
  simp only [Expression.evaluate, Record.field?, Value.bool.injEq]
  cases r.get? name with
  | none => rfl
  | some v =>
    cases v with
    | text t =>
      simp only [Option.getD_some, Expression.alike, Expression.numberOf?, isText]
      exact BEq.comm
    | _ => simp [Expression.alike, Expression.numberOf?, isText]

/-- Being one of some texts is told alike by the map, unless the empty text, which null is converted
to, is one of them. -/
theorem agreesOnMap_member {name : String} {values : List Value}
    (hvalues : ∀ v ∈ values, v.isText = true) (hdistinct : values.Nodup) (hempty : .text "" ∉ values)
    (hrecord : ∀ v, r.get? name = some v → v = .null ∨ v.isText = true) :
    AgreesOnMap r (.member (.text name) values) := by
  -- A text is one of the labels in the same sense on both sides.
  have hlabels (s : String) :
      values.any (Expression.alike (.text s)) = values.contains (.text s) := by
    rw [Bool.eq_iff_iff, List.any_eq_true, List.contains_iff_mem]
    constructor
    · rintro ⟨v, hv, halike⟩
      obtain ⟨t, rfl⟩ := Value.exists_of_isText (hvalues v hv)
      rwa [eq_of_beq halike]
    · intro hs
      exact ⟨.text s, hs, BEq.rfl⟩
  have hnone : values.any (Expression.alike (.text "")) = false := by
    rw [hlabels, List.contains_eq_mem, decide_eq_false hempty]
  cases hlist : values.isEmpty with
  | true =>
    -- A list without labels is written as a literal.
    refine ⟨.literal (.bool false), false, by simp [toExpression?, hlist], rfl, rfl, ?_⟩
    have hnil := List.isEmpty_iff.1 hlist
    subst hnil
    simp only [holds, onProperty, Record.lookFor, Value.isKey, if_true]
    unfold isMember
    split <;> rfl
  | false =>
    have hproper : Expression.areLabels values = true := by
      simp [Expression.areLabels, hlist, hdistinct, List.all_eq_true.2 hvalues]
    refine ⟨.oneOf (.toText (.property (.text name))) values, isMember (r.get? name) values,
      by simp [toExpression?, hlist], by simp [Expression.isWritten, hproper], ?_, rfl⟩
    simp only [Expression.evaluate, Record.field?, Value.bool.injEq]
    -- An absent or null property is converted to the empty text, which is no label.
    cases hproperty : r.get? name with
    | none => exact hnone
    | some v =>
      rcases hrecord v hproperty with rfl | htext
      · exact hnone
      · obtain ⟨s, rfl⟩ := Value.exists_of_isText htext
        exact hlabels s

/-- A bound of the format is the same number to the map. -/
theorem numberOf?_of_isBound {bound : Value} (h : bound.isBound = true)
    (hformat : bound.isRepresentable = true) : Expression.numberOf? bound = bound.toExact? := by
  cases bound <;>
    simp_all [Value.isBound, Value.isRepresentable, Expression.numberOf?, Value.toExact?]

theorem evaluateAll_append (r : Record) (xs ys : List Expression) :
    Expression.evaluateAll r (xs ++ ys) =
      (Expression.evaluateAll r xs && Expression.evaluateAll r ys) := by
  induction xs with
  | nil => rfl
  | cons e rest ih => rw [List.cons_append, Expression.evaluateAll, ih, ← Bool.and_assoc]; rfl

theorem evaluateAll_singleton {e : Expression} {b : Bool} (h : e.evaluate r = .bool b) :
    Expression.evaluateAll r [e] = b := by
  rw [Expression.evaluateAll, h]
  cases b <;> simp [Expression.evaluateAll]

section Bounds

variable {value : Expression} {x y : Number} {bound minimum maximum : Value}

theorem evaluate_atLeast (hvalue : Expression.numberOf? (value.evaluate r) = some x)
    (hbound : bound.isBound = true) (hformat : bound.isRepresentable = true)
    (hy : bound.toExact? = some y) :
    (Expression.atLeast value (.literal bound)).evaluate r = .bool (y.le x) := by
  simp only [Expression.evaluate, Expression.onNumbers, hvalue, numberOf?_of_isBound hbound hformat,
    hy]

theorem evaluate_atMost (hvalue : Expression.numberOf? (value.evaluate r) = some x)
    (hbound : bound.isBound = true) (hformat : bound.isRepresentable = true)
    (hy : bound.toExact? = some y) :
    (Expression.atMost value (.literal bound)).evaluate r = .bool (x.le y) := by
  simp only [Expression.evaluate, Expression.onNumbers, hvalue, numberOf?_of_isBound hbound hformat,
    hy]

/-- The comparisons with the bounds that are there are true of a number between the bounds. -/
theorem evaluateAll_bounds (hvalue : Expression.numberOf? (value.evaluate r) = some x)
    (hmin : minimum.isBound = true) (hmax : maximum.isBound = true)
    (hformat : minimum.isRepresentable = true ∧ maximum.isRepresentable = true) :
    Expression.evaluateAll r (bounds value minimum maximum) = liesBetween minimum maximum x := by
  rw [bounds, evaluateAll_append, liesBetween]
  -- An absent bound leaves its comparison out, and every number respects it.
  congr 1
  · rcases toExact?_of_isBound hmin with rfl | ⟨y, hy, -, hnull⟩
    · rfl
    · rw [if_neg hnull, evaluateAll_singleton (evaluate_atLeast hvalue hmin hformat.1 hy), hy]
      rfl
  · rcases toExact?_of_isBound hmax with rfl | ⟨y, hy, -, hnull⟩
    · rfl
    · rw [if_neg hnull, evaluateAll_singleton (evaluate_atMost hvalue hmax hformat.2 hy), hy]
      rfl

/-- The comparisons with the bounds are readable, and each of them is true or false. -/
theorem bounds_spec (hwritten : value.isWritten = true)
    (hvalue : Expression.numberOf? (value.evaluate r) = some x)
    (hmin : minimum.isBound = true) (hmax : maximum.isBound = true)
    (hformat : minimum.isRepresentable = true ∧ maximum.isRepresentable = true) :
    ∀ e ∈ bounds value minimum maximum, e.isWritten = true ∧ ∃ b, e.evaluate r = .bool b := by
  intro e he
  rcases List.mem_append.1 he with he | he
  · rcases toExact?_of_isBound hmin with rfl | ⟨y, hy, -, hnull⟩
    · cases he
    · rw [if_neg hnull, List.mem_singleton] at he
      subst he
      refine ⟨?_, y.le x, evaluate_atLeast hvalue hmin hformat.1 hy⟩
      simp [Expression.isWritten, hwritten, isKey_of_isBound hmin]
  · rcases toExact?_of_isBound hmax with rfl | ⟨y, hy, -, hnull⟩
    · cases he
    · rw [if_neg hnull, List.mem_singleton] at he
      subst he
      refine ⟨?_, x.le y, evaluate_atMost hvalue hmax hformat.2 hy⟩
      simp [Expression.isWritten, hwritten, isKey_of_isBound hmax]

end Bounds

theorem agreesOnMap_within (hr : r.IntegersFit) {field minimum maximum : Value}
    {fallbacks : List FieldName} (hnames : ∀ name ∈ field :: fallbacks, name.isText = true)
    (hmin : minimum.isBound = true) (hmax : maximum.isBound = true)
    (hformat : minimum.isRepresentable = true ∧ maximum.isRepresentable = true) :
    AgreesOnMap r (.within field minimum maximum fallbacks) := by
  obtain ⟨names, hchain⟩ := exists_chain_eq hnames
  have htexts : ∀ name ∈ chain field fallbacks, ∃ s, name = .text s := by
    intro name hname
    rw [hchain] at hname
    obtain ⟨s, -, hs⟩ := List.mem_map.1 hname
    exact ⟨s, hs.symm⟩
  obtain ⟨x, hx⟩ := hr.exists_quantity htexts
  have hvalue := Expression.evaluate_quantity htexts hx
  have hholds : (within field minimum maximum fallbacks).holds r
      = .ok (liesBetween minimum maximum x) := by
    rw [holds_within hx, isWithin_of_isBound hmin hmax (quantity_isFinite hx)]
  have hspec := bounds_spec (Expression.isWritten_quantity _) hvalue hmin hmax hformat
  have hall := evaluateAll_bounds hvalue hmin hmax hformat
  -- A single comparison stands for itself; otherwise there is a conjunction of none or two.
  rw [AgreesOnMap, toExpression?]
  split
  · rename_i one hone
    rw [hone] at hspec hall
    obtain ⟨hwritten, b, hb⟩ := hspec one List.mem_cons_self
    refine ⟨one, _, rfl, hwritten, ?_, hholds⟩
    rw [← hall, hb, evaluateAll_singleton hb]
  · refine ⟨.all _, _, rfl, ?_, ?_, hholds⟩
    · rw [Expression.isWritten, Expression.areWritten_iff]
      exact fun e he => (hspec e he).1
    · rw [Expression.evaluate, hall]

/-! ## §3 Conjunctions -/

/-- A conjunction agrees with its expression if all its parts do. -/
theorem agreesOnMap_all {parts : List Predicate} (h : ∀ p ∈ parts, AgreesOnMap r p) :
    AgreesOnMap r (.all parts) := by
  have hparts : ∃ es b, toExpressions? parts = some es ∧ Expression.areWritten es = true
      ∧ Expression.evaluateAll r es = b ∧ holdsAll r parts = .ok b := by
    induction parts with
    | nil => exact ⟨[], true, rfl, rfl, rfl, rfl⟩
    | cons p rest ih =>
      obtain ⟨e, b, he, hwritten, hevaluate, hholds⟩ := h p List.mem_cons_self
      obtain ⟨es, c, hes, hwrittens, hevaluates, hrest⟩ :=
        ih fun q hq => h q (List.mem_cons_of_mem _ hq)
      refine ⟨e :: es, b && c, by simp [toExpressions?, he, hes],
        by simp [Expression.areWritten, hwritten, hwrittens], ?_, ?_⟩
      · -- Whether parts are tried one after the other or all at once makes no difference.
        rw [Expression.evaluateAll, hevaluate, hevaluates]
        cases b <;> simp
      · cases b with
        | false => simp [holdsAll, hholds]
        | true => simp [holdsAll, hholds, hrest]
  obtain ⟨es, b, hes, hwritten, hevaluate, hholds⟩ := hparts
  refine ⟨.all es, b, by simp [toExpression?, hes], by simp [Expression.isWritten, hwritten], ?_, ?_⟩
  · rw [Expression.evaluate, hevaluate]
  · rw [holds, hholds]

/-- The map finds of a record what a plain filter says of it: the filter has an expression, that
expression is read back from the style document, and its value is the answer of the filter. -/
theorem evaluate_toExpression_eq_holds {p : Predicate} (hp : p.IsPlain)
    (hformat : p.BoundsPass Value.isRepresentable)
    (hdistinct : ∀ field values, .member field values ∈ p.clauses → values.Nodup)
    (hvalues : ∀ field values, .member field values ∈ p.clauses → .text "" ∉ values)
    (hrecord : ∀ field values, .member field values ∈ p.clauses →
      ∀ v, r.field? field = some v → v = .null ∨ v.isText = true)
    (hfit : r.IntegersFit) :
    ∃ e b, p.toExpression? = some e ∧ Expression.ofValue? e.toValue = some e
      ∧ e.evaluate r = .bool b ∧ p.holds r = .ok b := by
  have hagrees : AgreesOnMap r p := by
    refine of_clauses (fun parts => agreesOnMap_all) fun clause hclause => ?_
    have hplain := hp clause hclause
    cases clause with
    | all parts => cases hplain
    | equals field literal =>
      obtain ⟨name, rfl⟩ := Value.exists_of_isText hplain.1
      obtain ⟨s, rfl⟩ := Value.exists_of_isText hplain.2
      exact agreesOnMap_equals name s
    | within field minimum maximum fallbacks =>
      exact agreesOnMap_within hfit hplain.1 hplain.2.1 hplain.2.2 (hformat.within hclause)
    | member field values =>
      obtain ⟨name, rfl⟩ := Value.exists_of_isText hplain.1
      exact agreesOnMap_member hplain.2 (hdistinct _ values hclause) (hvalues _ values hclause)
        (hrecord _ values hclause)
    | unspecified => cases hplain
  obtain ⟨e, b, he, hwritten, hevaluate, hholds⟩ := hagrees
  exact ⟨e, b, he, Expression.ofValue?_toValue e hwritten, hevaluate, hholds⟩

/-- A nested filter with one-sided bounds and an empty part, and a feature whose quantities stand
behind a null and behind a text that is no number. -/
theorem evaluate_toExpression_eq_holds_nested :
    let p : Predicate := .all [.equals (.text "BranchName") (.text "Bryan"),
      .all [.within (.text "Sales") (.int 10) .null [.text "Total"],
        .within (.text "Share") .null (.float (.finite 3)) [.text "Share", .text "Part"]],
      .all [], .member (.text "Status") [.text "Open", .text "Closed"]]
    let r : Record := [("BranchName", .text "Bryan"), ("Sales", .null), ("Total", .int 12),
      ("Share", .text "n/a"), ("Part", .float (.finite 1)), ("Status", .text "Closed")]
    (p.IsPlain ∧ p.BoundsPass Value.isRepresentable ∧ r.IntegersFit)
      ∧ ∃ e, p.toExpression? = some e ∧ Expression.ofValue? e.toValue = some e
        ∧ e.evaluate r = .bool true ∧ p.holds r = .ok true := by
  intro p r
  have hplain : p.IsPlain := by decide
  have hformat : p.BoundsPass Value.isRepresentable := by decide
  have hfit : r.IntegersFit := Record.integersFit_of_mem (by decide)
  have hmember {field : FieldName} {values : List Value} (h : .member field values ∈ p.clauses) :
      field = .text "Status" ∧ values = [.text "Open", .text "Closed"] := by
    simpa [p, clauses, clausesOfParts] using h
  obtain ⟨e, b, he, hread, hevaluate, hholds⟩ := evaluate_toExpression_eq_holds (r := r) hplain hformat
    (fun field values h => by simp [(hmember h).2])
    (fun field values h => by simp [(hmember h).2])
    (fun field values h v hv => by
      rw [(hmember h).1] at hv
      cases hv
      exact .inr rfl) hfit
  have htrue : p.holds r = .ok true := rfl
  rw [htrue] at hholds
  cases hholds
  exact ⟨⟨hplain, hformat, hfit⟩, e, he, hread, hevaluate, htrue⟩

/-- A bound of 54 bits is another number to the map, which shows a feature next to it that the filter
does not hold of. Nor does it read a filter that names a value twice. -/
theorem expression_differs_rounded_repeated :
    (let p : Predicate := .within (.text "Sales") (.int 9007199254740993) .null []
      let r : Record := [("Sales", .int 9007199254740992)]
      p.IsPlain ∧ r.IntegersFit ∧ ∃ e, p.toExpression? = some e
        ∧ Expression.ofValue? e.toValue = some e ∧ e.evaluate r = .bool true ∧ p.holds r = .ok false)
      ∧ (let p : Predicate := .member (.text "Status") [.text "Open", .text "Open"]
        let r : Record := [("Status", .text "Open")]
        p.IsPlain ∧ r.IntegersFit ∧ ∃ e, p.toExpression? = some e
          ∧ Expression.ofValue? e.toValue = none ∧ p.holds r = .ok true) := by
  refine ⟨⟨by decide, Record.integersFit_of_mem (by decide), _, rfl, ?_, ?_, ?_⟩,
    by decide, Record.integersFit_of_mem (by decide), _, rfl, ?_, rfl⟩
  · exact Expression.ofValue?_toValue _ (by decide)
  · -- The number of the bound is rounded, and the one in the feature is what it is rounded to.
    decide +kernel
  · decide +kernel
  · exact Expression.ofValue?_oneOf (by decide) _

end Predicate

end MapFilter
