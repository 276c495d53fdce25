import MapFilter.Proofs.Predicate.Tree
import MapFilter.Proofs.Sql.Filter
import MapFilter.Proofs.Sql.Marks

/-!
# Names and values of a rendered filter

The fields and values of a filter come from outside, and a query is written for them all the same.
Of its fields, a filter only writes those that are columns, each between quotes. Its values stay out
of the text: they are the parameters, in the order of the clauses.

- `Columns.AreThose`: the columns are the names in a list, or it is not known which there are
- `Predicate.fields`, `Predicate.written`: the fields of a filter, and its values in a query
- `Predicate.blank`: a filter without its values
- `Predicate.rendering_isSafe`: the text of a filter has names of columns and question marks for its
  values, and is the text of the filter without them
-/

namespace MapFilter

open Sql (Columns Condition)

/-! ## §1 Columns -/

namespace Sql

/-- The columns are the names in a list, given as a list or as a set, or it is not known which
columns there are. -/
inductive Columns.AreThose : Columns → Option (List String) → Prop where
  | every : AreThose .every none
  | listed (names : List String) : AreThose (.listed (names.map .text)) (some names)
  | keyed (names : List String) : AreThose (.keyed (names.map .text)) (some names)

/-- Whether a name is among the columns, as far as it is known which there are. -/
def isGiven (known : Option (List String)) (name : String) : Bool :=
  known.all fun names => name ∈ names

variable {columns : Columns} {known : Option (List String)}

theorem Columns.AreThose.isColumn (h : columns.AreThose known) (name : String) :
    Predicate.isColumn columns (.text name) = .ok (isGiven known name) := by
  cases h with
  | every => rfl
  | listed names =>
    have hhas : Predicate.isColumn (.listed (names.map .text)) (.text name) =
        .ok ((Value.text name).isAmong (names.map .text)) := rfl
    rw [hhas, isAmong_map_text]
    rfl
  | keyed names => exact isColumn_text name

/-- A query is written for the set of the same columns. -/
theorem Columns.AreThose.exists_distinct (h : columns.AreThose known) :
    ∃ set, columns.distinct = .ok set ∧ set.AreThose known := by
  cases h with
  | every => exact ⟨.every, rfl, .every⟩
  | listed names => exact ⟨_, keySet_texts names, .keyed names⟩
  | keyed names => exact ⟨_, keySet_texts names, .keyed names⟩

end Sql

namespace Predicate

/-! ## §2 Fields and values -/

/-- The fields of a clause. -/
def clauseFields : Predicate → List FieldName
  | .equals field _ | .member field _ => [field]
  | .within field _ _ fallbacks => field :: fallbacks
  | .all _ | .unspecified => []

/-- The fields of a filter. -/
def fields (p : Predicate) : List FieldName :=
  p.clauses.flatMap clauseFields

/-- Every clause is specified, and its fields are texts. -/
def IsNamed (p : Predicate) : Prop :=
  ∀ clause ∈ p.clauses, clause ≠ .unspecified ∧ ∀ field ∈ clause.clauseFields, field.isText = true

/-- The values of a clause that are written for columns: a clause on a text that is no column is
never true and needs none, a quantity needs the bounds that are there. -/
def clauseWritten (known : Option (List String)) : Predicate → List Value
  | .equals (.text name) literal => if Sql.isGiven known name then [literal] else []
  | .member (.text name) values => if Sql.isGiven known name then values else []
  | .within _ minimum maximum _ => [minimum, maximum].filter (· ≠ .null)
  | _ => []

/-- The values of a filter that are written for columns, from left to right. -/
def written (known : Option (List String)) (p : Predicate) : List Value :=
  p.clauses.flatMap (clauseWritten known)

variable {columns : Columns} {known : Option (List String)} {p : Predicate} {c : Condition}

/-- The condition of a filter is about columns that are fields of the filter, and has the values of
the filter. -/
structure IsRendered (known : Option (List String)) (p : Predicate) (c : Condition) : Prop where
  names : ∀ name ∈ c.columnNames, .text name ∈ p.fields ∧ Sql.isGiven known name = true
  params : c.params = p.written known

theorem isRendered_cons {rest : List Predicate} {cs : List Condition} (h : IsRendered known p c)
    (hrest : IsRendered known (.all rest) (.every cs)) :
    IsRendered known (.all (p :: rest)) (.every (c :: cs)) := by
  -- Clauses, names and parameters of a conjunction are those of its parts, one after the other.
  have hclauses : (all (p :: rest)).clauses = p.clauses ++ (all rest).clauses := by
    rw [clauses, clausesOfParts, ← clauses]
  constructor
  · intro name hname
    rw [fields, hclauses, List.flatMap_append, List.mem_append]
    rw [Condition.columnNames, Condition.columnNames.namesOfParts, List.mem_append] at hname
    rcases hname with hname | hname
    · exact ⟨.inl (h.names name hname).1, (h.names name hname).2⟩
    · rw [← Condition.columnNames] at hname
      exact ⟨.inr (hrest.names name hname).1, (hrest.names name hname).2⟩
  · have hparams : (Condition.every (c :: cs)).params = c.params ++ (Condition.every cs).params := by
      rw [Condition.params, Condition.partParams, ← Condition.params]
    rw [hparams, h.params, hrest.params, written, written, written, hclauses, List.flatMap_append]

/-- A conjunction is written if its parts are. -/
theorem exists_rendered_all {parts : List Predicate}
    (h : ∀ p ∈ parts, ∃ c, p.toCondition columns = .ok c ∧ IsRendered known p c) :
    ∃ c, (all parts).toCondition columns = .ok c ∧ IsRendered known (.all parts) c := by
  have hparts : ∃ cs, toConditions columns parts = .ok cs
      ∧ IsRendered known (.all parts) (.every cs) := by
    induction parts with
    | nil =>
      refine ⟨[], rfl, ?_, ?_⟩
      · simp [Condition.columnNames, Condition.columnNames.namesOfParts]
      · simp [Condition.params, Condition.partParams, written, clauses, clausesOfParts]
    | cons p rest ih =>
      obtain ⟨c, hc, hrendered⟩ := h p List.mem_cons_self
      obtain ⟨cs, hcs, hrest⟩ := ih fun q hq => h q (List.mem_cons_of_mem _ hq)
      refine ⟨c :: cs, ?_, isRendered_cons hrendered hrest⟩
      rw [toConditions, hc, hcs]
      rfl
  obtain ⟨cs, hcs, hrendered⟩ := hparts
  refine ⟨.every cs, ?_, hrendered⟩
  rw [toCondition, hcs]
  rfl

/-- A quantity is written for the columns in its chain. -/
theorem exists_rendered_within (hcolumns : columns.AreThose known) {field : FieldName}
    {fallbacks : List FieldName} (hnames : ∀ name ∈ field :: fallbacks, name.isText = true)
    (minimum maximum : Value) :
    ∃ c, (within field minimum maximum fallbacks).toCondition columns = .ok c
      ∧ IsRendered known (.within field minimum maximum fallbacks) c := by
  obtain ⟨names, hchain⟩ := exists_chain_eq hnames
  -- Without bounds the condition is about no column at all, whatever the chain is.
  refine ⟨.within (names.filter (Sql.isGiven known)) minimum maximum, ?_, ?_, ?_⟩
  · rw [toCondition, hchain, Sql.columnChain_of_isColumn hcolumns.isColumn]
    rfl
  · intro name hname
    rw [Condition.columnNames] at hname
    split at hname
    · cases hname
    · obtain ⟨hname, hgiven⟩ := List.mem_filter.1 hname
      have hmem : Value.text name ∈ chain field fallbacks := hchain ▸ List.mem_map_of_mem hname
      exact ⟨by simpa [fields, clauses, clauseFields] using mem_of_mem_chain hmem, hgiven⟩
  · rw [Condition.params, Sql.comparisons]
    by_cases hmin : minimum = .null <;> by_cases hmax : maximum = .null <;>
      simp [written, clauses, clauseWritten, hmin, hmax]

/-- A clause on a column has the condition on that column, with the values of the clause. -/
theorem isRendered_of_given {name : String} (hclauses : p.clauses = [p])
    (hfields : p.clauseFields = [.text name]) (hgiven : Sql.isGiven known name = true)
    (hnames : c.columnNames = [name]) (hparams : c.params = p.clauseWritten known) :
    IsRendered known p c := by
  constructor
  · intro other hother
    obtain rfl : other = name := by simpa [hnames] using hother
    exact ⟨by simp [fields, hclauses, hfields], hgiven⟩
  · rw [hparams, written, hclauses, List.flatMap_singleton]

/-- A clause that is never true has no values to write. -/
theorem isRendered_never (hclauses : p.clauses = [p]) (hnone : p.clauseWritten known = []) :
    IsRendered known p .never := by
  refine ⟨by simp [Condition.columnNames], ?_⟩
  rw [Condition.params, written, hclauses, List.flatMap_singleton, hnone]

/-- A filter whose fields are texts is written for its columns and with its values. -/
theorem exists_rendered (hcolumns : columns.AreThose known) (h : p.IsNamed) :
    ∃ c, p.toCondition columns = .ok c ∧ IsRendered known p c := by
  induction p using inductionOn with
  | all parts ih =>
    refine exists_rendered_all fun q hq => ih q hq fun clause hclause => ?_
    exact h clause (mem_clauses_all.2 ⟨q, hq, hclause⟩)
  | equals field literal =>
    obtain ⟨name, rfl⟩ :=
      Value.exists_of_isText ((h _ List.mem_cons_self).2 field List.mem_cons_self)
    rw [toCondition, Sql.column?_of_isColumn hcolumns.isColumn]
    cases hgiven : Sql.isGiven known name with
    | true =>
      refine ⟨.textEquals name literal, rfl, isRendered_of_given rfl rfl hgiven rfl ?_⟩
      rw [clauseWritten, if_pos hgiven, Condition.params]
    | false =>
      refine ⟨.never, rfl, isRendered_never rfl ?_⟩
      rw [clauseWritten, hgiven, if_neg Bool.false_ne_true]
  | within field minimum maximum fallbacks =>
    exact exists_rendered_within hcolumns (h _ List.mem_cons_self).2 minimum maximum
  | member field values =>
    obtain ⟨name, rfl⟩ :=
      Value.exists_of_isText ((h _ List.mem_cons_self).2 field List.mem_cons_self)
    cases values with
    | nil =>
      -- No value is one of none, whether the field is a column or not.
      refine ⟨.never, rfl, isRendered_never rfl ?_⟩
      rw [clauseWritten, ite_self]
    | cons v rest =>
      rw [toCondition, if_neg (by simp), Sql.column?_of_isColumn hcolumns.isColumn]
      cases hgiven : Sql.isGiven known name with
      | true =>
        refine ⟨.textIn name (v :: rest), rfl, isRendered_of_given rfl rfl hgiven rfl ?_⟩
        rw [clauseWritten, if_pos hgiven, Condition.params]
      | false =>
        refine ⟨.never, rfl, isRendered_never rfl ?_⟩
        rw [clauseWritten, hgiven, if_neg Bool.false_ne_true]
  | unspecified => exact absurd rfl (h _ List.mem_cons_self).1

/-! ## §3 Filters without values -/

/-- A bound without its number. -/
def blankBound (bound : Value) : Value :=
  if bound = .null then .null else .int 0

mutual

/-- The filter with nothing in the place of its values: of a bound, it only has whether it is there,
and of a list of values, how many there are. -/
def blank : Predicate → Predicate
  | .all parts => .all (blankParts parts)
  | .equals field _ => .equals field .null
  | .within field minimum maximum fallbacks =>
    .within field (blankBound minimum) (blankBound maximum) fallbacks
  | .member field values => .member field (values.map fun _ => .null)
  | .unspecified => .unspecified

def blankParts : List Predicate → List Predicate
  | [] => []
  | p :: rest => p.blank :: blankParts rest

end

theorem text_within_blank (names : List String) (minimum maximum : Value) :
    (Condition.within names (blankBound minimum) (blankBound maximum)).text =
      (Condition.within names minimum maximum).text := by
  rw [Condition.text, Condition.text, Sql.comparisons, Sql.comparisons, blankBound, blankBound]
  by_cases hmin : minimum = .null <;> by_cases hmax : maximum = .null <;> simp [hmin, hmax]

/-- The texts of parts are those of the first part and the others, or there is an error. -/
theorem texts_toConditions_cons (columns : Columns) (p : Predicate) (rest : List Predicate) :
    (toConditions columns (p :: rest)).map Condition.partTexts =
      ((p.toCondition columns).map Condition.text).bind fun text =>
        ((toConditions columns rest).map Condition.partTexts).map (("(" ++ text ++ ")") :: ·) := by
  rw [toConditions]
  cases p.toCondition columns with
  | error e => rfl
  | ok c =>
    cases toConditions columns rest with
    | error e => rfl
    | ok cs => rfl

theorem texts_toConditions_blank {parts : List Predicate} (columns : Columns)
    (h : ∀ p ∈ parts, (p.blank.toCondition columns).map Condition.text =
      (p.toCondition columns).map Condition.text) :
    (toConditions columns (blankParts parts)).map Condition.partTexts =
      (toConditions columns parts).map Condition.partTexts := by
  induction parts with
  | nil => rfl
  | cons p rest ih =>
    rw [blankParts, texts_toConditions_cons, texts_toConditions_cons, h p List.mem_cons_self,
      ih fun q hq => h q (List.mem_cons_of_mem _ hq)]

theorem text_toCondition_all (columns : Columns) (parts : List Predicate) :
    ((all parts).toCondition columns).map Condition.text =
      ((toConditions columns parts).map Condition.partTexts).map Sql.conjunction := by
  rw [toCondition]
  cases toConditions columns parts with
  | error e => rfl
  | ok cs =>
    have htext : (Condition.every cs).text = Sql.conjunction (Condition.partTexts cs) := by
      rw [Condition.text]
    exact congrArg Except.ok htext

/-- The text of the condition of a filter does not depend on its values. -/
theorem text_toCondition_blank (columns : Columns) (p : Predicate) :
    (p.blank.toCondition columns).map Condition.text =
      (p.toCondition columns).map Condition.text := by
  induction p using inductionOn with
  | all parts ih =>
    rw [blank, text_toCondition_all, text_toCondition_all, texts_toConditions_blank columns ih]
  | equals field literal =>
    rw [blank, toCondition, toCondition]
    cases column? columns field with
    | error e => rfl
    | ok found => cases found <;> rfl
  | within field minimum maximum fallbacks =>
    rw [blank, toCondition, toCondition]
    cases columnChain columns (chain field fallbacks) with
    | error e => rfl
    | ok names => exact congrArg Except.ok (text_within_blank names minimum maximum)
  | member field values =>
    cases values with
    | nil => rfl
    | cons v rest =>
      rw [blank, toCondition, toCondition, if_neg (by simp), if_neg (by simp)]
      cases column? columns field with
      | error e => rfl
      | ok found =>
        cases found with
        | none => rfl
        | some name =>
          have htext : (Condition.textIn name ((v :: rest).map fun _ => .null)).text =
              (Condition.textIn name (v :: rest)).text := by
            rw [Condition.text, Condition.text, List.map_map]
            rfl
          exact congrArg Except.ok htext
  | unspecified => rfl

theorem text_toQuery_blank (columns : Columns) (parts : List Predicate) :
    (toQuery columns (blankParts parts)).map Condition.text =
      (toQuery columns parts).map Condition.text := by
  cases parts with
  | nil => rfl
  | cons p rest =>
    rw [toQuery, toQuery, if_neg (by simp [blankParts]), if_neg (by simp)]
    cases columns.distinct with
    | error e => rfl
    | ok set => exact text_toCondition_blank set (.all (p :: rest))

/-! ## §4 Safety -/

/-- The text of a condition of a filter is read with balanced parentheses, names of columns that are
fields of the filter, and one question mark for each parameter; the parameters are the values of the
filter. -/
structure IsSafe (known : Option (List String)) (p : Predicate) (c : Condition) : Prop where
  reads : ∃ marks, Sql.marks? c.text = some marks ∧ Sql.openBehind? 0 marks = some 0
    ∧ (∀ name, .name name ∈ marks → .text name ∈ p.fields ∧ Sql.isGiven known name = true)
    ∧ marks.count .question = c.params.length
  params : c.params = p.written known

theorem IsRendered.isSafe (h : IsRendered known p c) : IsSafe known p c := by
  obtain ⟨marks, hmarks, hbalanced, hnames, hcount⟩ := c.isTame_text
  refine ⟨⟨marks, hmarks.marks?_eq, hbalanced 0, fun name hname => ?_, hcount⟩, h.params⟩
  exact h.names name (hnames name hname)

/-- A query without parts has no names and no values. -/
theorem isSafe_everything : IsSafe known (.all []) .everything := by
  refine IsRendered.isSafe ⟨by simp [Condition.columnNames], ?_⟩
  simp [Condition.params, written, clauses, clausesOfParts]

/-- A filter whose fields are texts is written safely, on its own and as the whole of a query,
whatever its fields and values are made of; and filters that differ in their values only have the
same text. -/
theorem rendering_isSafe (hcolumns : columns.AreThose known) :
    (∀ p : Predicate, p.IsNamed →
      ∃ c, p.toCondition columns = .ok c ∧ IsSafe known p c)
    ∧ (∀ parts, (all parts).IsNamed →
      ∃ c, toQuery columns parts = .ok c ∧ IsSafe known (.all parts) c)
    ∧ (∀ p q : Predicate, p.blank = q.blank →
      (p.toCondition columns).map Condition.text = (q.toCondition columns).map Condition.text)
    ∧ ∀ parts others, (all parts).blank = (all others).blank →
      (toQuery columns parts).map Condition.text = (toQuery columns others).map Condition.text := by
  refine ⟨fun p hp => ?_, fun parts hparts => ?_, fun p q hblank => ?_, fun parts others hblank => ?_⟩
  · obtain ⟨c, hc, hrendered⟩ := exists_rendered hcolumns hp
    exact ⟨c, hc, hrendered.isSafe⟩
  · cases parts with
    | nil => exact ⟨.everything, rfl, isSafe_everything⟩
    | cons part rest =>
      -- A query is written for the set of the columns, which has the same names.
      obtain ⟨set, hset, hthose⟩ := hcolumns.exists_distinct
      obtain ⟨c, hc, hrendered⟩ := exists_rendered hthose hparts
      refine ⟨c, ?_, hrendered.isSafe⟩
      rw [toQuery, if_neg (by simp), hset]
      exact hc
  · rw [← text_toCondition_blank, hblank, text_toCondition_blank]
  · rw [blank, blank] at hblank
    rw [← text_toQuery_blank, all.inj hblank, text_toQuery_blank]

/-- A name that looks like the end of a name and the rest of a condition. -/
def deceptiveName : String := "a\" = ? OR (\"b"

/-- A filter on a deceptive name, and what is no column, is written safely. -/
theorem rendering_isSafe_deceptiveName :
    (Columns.listed [.text deceptiveName]).AreThose (some [deceptiveName])
      ∧ (all [.equals (.text deceptiveName) (.text "?"),
          .within (.text deceptiveName) (.int 1) .null [.text "gone"]]).IsNamed
      ∧ ∃ c, toQuery (.listed [.text deceptiveName]) [.equals (.text deceptiveName) (.text "?"),
          .within (.text deceptiveName) (.int 1) .null [.text "gone"]] = .ok c
        ∧ IsSafe (some [deceptiveName]) (.all [.equals (.text deceptiveName) (.text "?"),
          .within (.text deceptiveName) (.int 1) .null [.text "gone"]]) c := by
  have hnamed : (all [.equals (.text deceptiveName) (.text "?"),
      .within (.text deceptiveName) (.int 1) .null [.text "gone"]]).IsNamed := by
    simp [IsNamed, clauses, clausesOfParts, clauseFields, Value.isText]
  exact ⟨.listed [deceptiveName], hnamed,
    (rendering_isSafe (.listed [deceptiveName])).2.1 _ hnamed⟩

end Predicate

end MapFilter
