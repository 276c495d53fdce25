import MapFilter.Proofs.Predicate.Chain
import MapFilter.Proofs.Predicate.Holding
import MapFilter.Proofs.Sql.Casts
import MapFilter.Proofs.Sql.Meaning

/-!
# Filters in a query

A query keeps the rows that the filter holds of. A row has a cell for every column at hand, and a
missing cell is null there; the record of the row has no property in its place. A bound that is an
integer is cast to a binary64 number before it is compared with one, so it must be one already.

- `present`: the record of a row
- `IsRow`: a row over some columns
- `AgreesInQuery`: the condition of a filter has the answer of the filter
- `keeps_toQuery_eq_holds`: plain filters agree with their conditions, if their bounds are binary64
  numbers of at most 128 bits
- `query_differs_rounded_refused`: without that they need not
-/

namespace MapFilter.Sql

/-! ## §1 Rows -/

/-- The record of a row: its cells that are not missing. -/
def present (row : Record) : Record :=
  row.filter fun entry => entry.2 ≠ .null

/-- The row has one cell for each column, and no others. -/
structure IsRow (row : Record) (columns : List String) : Prop where
  nodup : row.names.Nodup
  has_iff : ∀ name, row.has name = true ↔ name ∈ columns

/-- A row with names of its own is one over these columns. -/
theorem isRow_names {row : Record} (h : row.names.Nodup) : IsRow row row.names := by
  refine ⟨h, fun name => ?_⟩
  rw [Record.has, Record.get?, List.lookup_isSome_iff, Record.names, List.mem_map]
  simp only [beq_iff_eq, @eq_comm _ name]

theorem get?_eq_none {r : Record} {name : String} (h : name ∉ r.names) : r.get? name = none := by
  rw [Record.get?, List.lookup_eq_none_iff]
  intro entry hentry
  have hne : name ≠ entry.1 := by
    rintro rfl
    exact h (List.mem_map_of_mem hentry)
  simpa using hne

/-- The properties of the record of a row are the cells that are not missing. -/
theorem get?_present {row : Record} (h : row.names.Nodup) (name : String) :
    (present row).get? name = (row.get? name).filter (· ≠ .null) := by
  induction row with
  | nil => rfl
  | cons entry rest ih =>
    obtain ⟨own, v⟩ := entry
    obtain ⟨hown, hrest⟩ := List.nodup_cons.1 h
    by_cases hname : name = own
    · subst hname
      have hfirst : Record.get? ((name, v) :: rest) name = some v := by
        simp [Record.get?]
      rw [hfirst]
      by_cases hv : v = .null
      · -- The missing cell is left out, and its name does not come again.
        subst hv
        have hskip : present ((name, .null) :: rest) = present rest := by
          simp [present]
        rw [hskip, ih hrest, get?_eq_none hown]
        rfl
      · simp [present, Record.get?, hv, Option.filter]
    · have hother : Record.get? ((own, v) :: rest) name = Record.get? rest name := by
        simp [Record.get?, List.lookup_cons, beq_eq_false_iff_ne.2 hname]
      rw [hother, ← ih hrest]
      by_cases hv : v = .null
      · simp [present, hv]
      · simp [present, Record.get?, hv, List.lookup_cons, beq_eq_false_iff_ne.2 hname]

variable {engine : Engine} {row : Record} {columns : List String}

theorem IsRow.exists_cell (h : IsRow row columns) {name : String} (hname : name ∈ columns) :
    ∃ v, row.get? name = some v :=
  Option.isSome_iff_exists.1 ((h.has_iff name).2 hname)

/-- What is no column has no cell, and no property either. -/
theorem IsRow.get?_present_of_notMem (h : IsRow row columns) {name : String}
    (hname : name ∉ columns) : (present row).get? name = none := by
  have hnone : row.get? name = none := by
    cases hcell : row.get? name with
    | none => rfl
    | some v => exact absurd ((h.has_iff name).1 (by simp [Record.has, hcell])) hname
  rw [get?_present h.nodup, hnone]
  rfl

/-! ## §2 Columns -/

theorem isAmong_map_text (name : String) (names : List String) :
    (Value.text name).isAmong (names.map .text) = decide (name ∈ names) := by
  rw [Value.isAmong, Bool.eq_iff_iff, List.any_eq_true, decide_eq_true_iff]
  constructor
  · rintro ⟨v, hv, hsame⟩
    obtain ⟨own, hown, rfl⟩ := List.mem_map.1 hv
    cases (Value.same_text_iff name _).1 hsame
    exact hown
  · intro hname
    exact ⟨.text name, List.mem_map_of_mem hname, (Value.same_text_iff name _).2 rfl⟩

/-- The columns as the set that a query is written for. -/
abbrev columnSet (columns : List String) : Columns :=
  .keyed (columns.map .text)

/-- Texts are keys, so there is a set of them. -/
theorem keySet_texts (columns : List String) :
    Columns.keySet (columns.map .text) = .ok (columnSet columns) := by
  have hkeys : (columns.map Value.text).find? (fun name => !name.isKey) = none := by
    rw [List.find?_eq_none]
    intro v hv
    obtain ⟨name, -, rfl⟩ := List.mem_map.1 hv
    simp [Value.isKey]
  simp only [Columns.keySet, hkeys]

/-- A query with a condition is written for the set of columns. -/
theorem toQuery_cons (part : Predicate) (rest : List Predicate) :
    Predicate.toQuery (.listed (columns.map .text)) (part :: rest) =
      (Predicate.all (part :: rest)).toCondition (columnSet columns) := by
  rw [Predicate.toQuery, if_neg (by simp), Columns.distinct, keySet_texts]
  rfl

theorem isColumn_text (name : String) :
    Predicate.isColumn (columnSet columns) (.text name) = .ok (decide (name ∈ columns)) := by
  rw [← isAmong_map_text]
  rfl

/-- The name of a column, whichever way the columns are given. -/
theorem column?_of_isColumn {given : Columns} {keep : String → Bool}
    (h : ∀ name, Predicate.isColumn given (.text name) = .ok (keep name)) (name : String) :
    Predicate.column? given (.text name) = .ok (if keep name then some name else none) := by
  rw [Predicate.column?, h]
  cases keep name <;> rfl

theorem column?_text (name : String) :
    Predicate.column? (columnSet columns) (.text name) =
      .ok (if name ∈ columns then some name else none) := by
  simpa using column?_of_isColumn isColumn_text name

/-- A filter whose test always has an answer. -/
theorem filterM_ok {α ε : Type} {test : α → Except ε Bool} {keep : α → Bool} {l : List α}
    (h : ∀ a ∈ l, test a = .ok (keep a)) : l.filterM test = .ok (l.filter keep) := by
  -- What was kept so far is there in reverse order.
  have hfilter (kept : List α) : l.filterAuxM test kept = .ok ((l.filter keep).reverse ++ kept) := by
    induction l generalizing kept with
    | nil => rfl
    | cons a rest ih =>
      have hrest := ih fun b hb => h b (List.mem_cons_of_mem _ hb)
      rw [List.filterAuxM, h a List.mem_cons_self]
      cases hkeep : keep a with
      | true => simp [hkeep, bind, Except.bind, hrest]
      | false => simp [hkeep, bind, Except.bind, hrest]
  rw [List.filterM, hfilter]
  simp [bind, Except.bind, pure, Except.pure]

/-- Whether a field is a text that is kept. -/
def keepsField (keep : String → Bool) : FieldName → Bool
  | .text name => keep name
  | _ => false

/-- The columns of a chain of texts, whichever way the columns are given. -/
theorem columnChain_of_isColumn {given : Columns} {keep : String → Bool}
    (h : ∀ name, Predicate.isColumn given (.text name) = .ok (keep name)) (names : List String) :
    Predicate.columnChain given (names.map .text) = .ok (names.filter keep) := by
  have hnames (chosen : List String) :
      (chosen.map Value.text).mapM Predicate.columnName = .ok chosen := by
    induction chosen with
    | nil => rfl
    | cons name rest ih =>
      rw [List.map_cons, List.mapM_cons, ih]
      rfl
  have htest : ∀ field ∈ names.map Value.text,
      Predicate.isColumn given field = .ok (keepsField keep field) := by
    intro field hfield
    obtain ⟨name, -, rfl⟩ := List.mem_map.1 hfield
    exact h name
  have hkept : (names.map Value.text).filter (keepsField keep) = (names.filter keep).map .text :=
    List.filter_map
  rw [Predicate.columnChain, filterM_ok htest, hkept]
  exact hnames _

theorem columnChain_texts (names : List String) :
    Predicate.columnChain (columnSet columns) (names.map .text) =
      .ok (names.filter (· ∈ columns)) :=
  columnChain_of_isColumn isColumn_text names

/-! ## §3 Quantities -/

/-- The number that a value reads as is the one in it, if that is finite. -/
theorem toNumber?_eq_reading? {v : Value}
    (h : ∀ i, v = .int i → (Number.ofInt i).isFinite = true) :
    v.toNumber? = .ok ((reading? v).bind Number.finite?) := by
  cases v with
  | null => rfl
  | bool b => cases b <;> rfl
  | int i =>
    have hfinite := h i rfl
    simp only [Value.toNumber?, reading?, Option.bind_some, Number.finite?, hfinite, if_true]
    split
    · rename_i hinfinite
      rw [hinfinite] at hfinite
      cases hfinite
    · rfl
  | float x => rfl
  | text s => rfl
  | list items => rfl
  | object entries => rfl

/-- The number of a property is that of the cell, a missing one having none. -/
theorem number?_present_eq (h : row.names.Nodup) {name : String} {v : Value} {x : Option Number}
    (hv : row.get? name = some v) (hx : v.toNumber? = .ok x) :
    (present row).number? (.text name) = .ok x := by
  have hproperty := get?_present h name
  rw [hv] at hproperty
  by_cases hnull : v = .null
  · subst hnull
    cases hx
    exact Record.number?_eq_none hproperty
  · rw [Option.filter_some, if_pos (by simpa using hnull)] at hproperty
    exact Record.number?_eq hproperty hx

/-- A column holds the finite number in its cell. -/
theorem number?_present (hrow : IsRow row columns) (hfit : row.IntegersFit) {name : String}
    {v : Value} (hv : row.get? name = some v) :
    (present row).number? (.text name) = .ok ((reading? v).bind Number.finite?) :=
  number?_present_eq hrow.nodup hv (toNumber?_eq_reading? fun i hi => hfit name i (hi ▸ hv))

/-- The finite number in a cell is the value of its term, or null. -/
theorem evaluate_finiteTerm (hengine : engine.Serves row) {name : String} {v : Value}
    (hv : row.get? name = some v) :
    (finiteTerm name).evaluate engine row =
      some (((reading? v).bind Number.finite?).elim .null .float) := by
  have hcast : (Term.castNumber (.column name)).evaluate engine row =
      some ((reading? v).elim .null .float) := by
    rw [Term.evaluate, Term.evaluate, hv, Option.map_some, hengine.castNumber_cell name v hv]
  rw [finiteTerm, Term.evaluate, hcast, Term.evaluate, hcast]
  -- An infinity and a value that is no number fail the test and leave null, like no number at all.
  cases reading? v with
  | none => rfl
  | some x =>
    cases hfinite : x.isFinite with
    | false => simp [finiteness?, truth?, Number.finite?, hfinite]
    | true => simp [finiteness?, truth?, Number.finite?, hfinite]

/-- A value is the quantity of a chain: a number, or the last resort. -/
def IsQuantity (v : Value) (x : Number) : Prop :=
  v = .float x ∨ v = .int 0 ∧ x = .finite 0

/-- The term of a chain of columns has the quantity of the chain for its value. -/
theorem evaluate_quantityTerm (hrow : IsRow row columns) (hfit : row.IntegersFit)
    (hengine : engine.Serves row) (names : List String)
    (hnames : ∀ name ∈ names, name ∈ columns) :
    ∃ x v, MapFilter.quantity (present row) (names.map .text) = .ok x
      ∧ (quantityTerm names).evaluate engine row = some v ∧ IsQuantity v x := by
  induction names with
  | nil => exact ⟨.finite 0, .int 0, rfl, rfl, .inr ⟨rfl, rfl⟩⟩
  | cons name rest ih =>
    obtain ⟨x, w, hquantity, hevaluate, hw⟩ := ih fun n hn => hnames n (List.mem_cons_of_mem _ hn)
    obtain ⟨v, hv⟩ := hrow.exists_cell (hnames name List.mem_cons_self)
    have hnumber := number?_present hrow hfit hv
    have hfirst := evaluate_finiteTerm hengine hv
    rw [List.map_cons, quantity_cons, hnumber, quantityTerm, Term.evaluate, hfirst]
    -- Both sides go on to the next column exactly if this one has no finite number.
    cases (reading? v).bind Number.finite? with
    | none => exact ⟨x, w, hquantity, hevaluate, hw⟩
    | some y => exact ⟨y, .float y, rfl, rfl, .inl rfl⟩

/-- Only columns count for the quantity of a row. -/
theorem quantity_filter_columns (hrow : IsRow row columns) (names : List String) :
    MapFilter.quantity (present row) ((names.filter (· ∈ columns)).map .text) =
      MapFilter.quantity (present row) (names.map .text) := by
  induction names with
  | nil => rfl
  | cons name rest ih =>
    rw [List.map_cons, quantity_cons, ← ih]
    by_cases h : name ∈ columns
    · rw [List.filter_cons_of_pos (by simpa using h), List.map_cons, quantity_cons]
    · rw [List.filter_cons_of_neg (by simpa using h),
        Record.number?_eq_none (hrow.get?_present_of_notMem h)]

/-- A bound of the format is compared with numbers as the number that it is. -/
theorem operand_of_isBound (hengine : engine.Serves row) {bound : Value} {y : Number}
    (hbound : bound.isBound = true) (hformat : bound.isRepresentable = true)
    (hstorable : isStorableNumber bound = true) (hy : bound.toExact? = some y) :
    engine.operand bound = some y := by
  cases bound with
  | int i =>
    rw [hengine.operand_int i hstorable, castDouble_eq_finite hstorable (of_decide_eq_true hformat)]
    exact hy
  | float x => rw [hengine.operand_float, ← hy, Value.toExact?]
  | null => cases hy
  | _ => simp [Value.isBound] at hbound

/-- A quantity is compared with a bound by their numbers. -/
theorem compare_quantity (hengine : engine.Serves row) {v bound : Value} {x y : Number}
    (hv : IsQuantity v x) (hbound : bound.isBound = true) (hformat : bound.isRepresentable = true)
    (hstorable : isStorableNumber bound = true) (hy : bound.toExact? = some y) (c : Comparison) :
    engine.compare c v bound = some (.bool (c.test x y)) := by
  have hoperand := operand_of_isBound hengine hbound hformat hstorable hy
  obtain rfl | ⟨rfl, rfl⟩ := hv
  · cases bound <;> simp_all [Engine.compare, Value.isBound, Value.toExact?, hengine.operand_float]
  · -- Without columns the quantity is an integer, and two integers are not cast.
    have hzero : engine.operand (.int 0) = some (.finite 0) := hengine.operand_int 0 rfl
    have hsmall : isStorable 0 = true := rfl
    cases bound <;> simp_all [Engine.compare, Value.isBound, Value.toExact?, isStorableNumber]

/-! ## §4 Clauses -/

/-- The condition of a filter can be written, and is true of a row if the filter holds of the record
of the row. -/
def AgreesInQuery (engine : Engine) (row : Record) (columns : List String) (p : Predicate) : Prop :=
  ∃ c q, p.toCondition (columnSet columns) = .ok c ∧ c.IsProper
    ∧ c.term.evaluate engine row = some (ofTruth q) ∧ p.holds (present row) = .ok (q == some true)

/-- A clause on the text of what is no column holds of no row. -/
theorem holds_of_notMem (hrow : IsRow row columns) {clause : Predicate} {name : String}
    (hfield : clause.textField? = some (.text name)) (hname : name ∉ columns) :
    clause.holds (present row) = .ok false := by
  have hproperty : (present row).lookFor (.text name) = .ok ((present row).get? name) := rfl
  rw [hrow.get?_present_of_notMem hname] at hproperty
  cases clause with
  | equals field literal =>
    cases hfield
    rw [Predicate.holds, Predicate.onProperty, hproperty]
    rfl
  | member field values =>
    cases hfield
    rw [Predicate.holds, Predicate.onProperty, hproperty]
    rfl
  | all parts => cases hfield
  | within field minimum maximum fallbacks => cases hfield
  | unspecified => cases hfield

/-- A clause on the text of what is no column is told alike: it is written as one that is never
true. -/
theorem agreesInQuery_of_notMem (hrow : IsRow row columns) {clause : Predicate} {name : String}
    (hfield : clause.textField? = some (.text name)) (hname : name ∉ columns) :
    AgreesInQuery engine row columns clause := by
  have hcondition : clause.toCondition (columnSet columns) = .ok .never := by
    -- Also a list without values keeps nothing, whatever its field is.
    cases clause with
    | equals field literal =>
      cases hfield
      rw [Predicate.toCondition, column?_text, if_neg hname]
      rfl
    | member field values =>
      cases hfield
      rw [Predicate.toCondition, column?_text, if_neg hname]
      split <;> rfl
    | all parts => cases hfield
    | within field minimum maximum fallbacks => cases hfield
    | unspecified => cases hfield
  exact ⟨.never, some false, hcondition, .never, rfl, holds_of_notMem hrow hfield hname⟩

theorem agreesInQuery_equals (hrow : IsRow row columns) (hengine : engine.Serves row)
    {name : String} (hcell : ∀ v, row.get? name = some v → v = .null ∨ v.isText = true)
    (s : String) : AgreesInQuery engine row columns (.equals (.text name) (.text s)) := by
  have hholds : (Predicate.equals (.text name) (.text s)).holds (present row) =
      .ok (Predicate.isText ((present row).get? name) (.text s)) := rfl
  by_cases hname : name ∈ columns
  · obtain ⟨v, hv⟩ := hrow.exists_cell hname
    have hproperty := get?_present hrow.nodup name
    rw [hv] at hproperty
    have hcondition : (Predicate.equals (.text name) (.text s)).toCondition (columnSet columns) =
        .ok (.textEquals name (.text s)) := by
      rw [Predicate.toCondition, column?_text, if_pos hname]
      rfl
    -- A missing cell leaves the comparison unknown, which is not true either.
    rcases hcell v hv with rfl | htext
    · refine ⟨_, none, hcondition, .textEquals _ _, ?_, ?_⟩
      · simp [Condition.term, Term.evaluate, hv, hengine.castText_null, Engine.compare, ofTruth]
      · rw [hholds, hproperty]
        rfl
    · obtain ⟨t, rfl⟩ := Value.exists_of_isText htext
      refine ⟨_, some (t == s), hcondition, .textEquals _ _, ?_, ?_⟩
      · simp [Condition.term, Term.evaluate, hv, hengine.castText_text, Engine.compare, ofTruth]
      · have hpresent : (present row).get? name = some (.text t) := hproperty
        rw [hholds, hpresent, Predicate.isText]
        by_cases hts : s = t
        · simp [hts]
        · have hne : Value.text s ≠ Value.text t := by simpa using hts
          rw [beq_eq_false_iff_ne.2 hne, beq_eq_false_iff_ne.2 (Ne.symm hts)]
          rfl
  · exact agreesInQuery_of_notMem hrow rfl hname

theorem agreesInQuery_member (hrow : IsRow row columns) (hengine : engine.Serves row)
    {name : String} (hcell : ∀ v, row.get? name = some v → v = .null ∨ v.isText = true)
    (texts : List String) :
    AgreesInQuery engine row columns (.member (.text name) (texts.map .text)) := by
  have hholds : (Predicate.member (.text name) (texts.map .text)).holds (present row) =
      .ok (Predicate.isMember ((present row).get? name) (texts.map .text)) := rfl
  cases texts with
  | nil =>
    -- Without texts there is no list to write, and the condition is never true.
    refine ⟨.never, some false, rfl, .never, rfl, ?_⟩
    rw [hholds]
    unfold Predicate.isMember
    split <;> rfl
  | cons first rest =>
    have hcondition (h : name ∈ columns) :
        (Predicate.member (.text name) ((first :: rest).map .text)).toCondition
          (columnSet columns) = .ok (.textIn name (.text first :: rest.map .text)) := by
      rw [Predicate.toCondition, column?_text, if_pos h]
      rfl
    by_cases hname : name ∈ columns
    · obtain ⟨v, hv⟩ := hrow.exists_cell hname
      have hproperty := get?_present hrow.nodup name
      rw [hv] at hproperty
      rcases hcell v hv with rfl | htext
      · have hcast : (Term.castText (.column name)).evaluate engine row = some .null := by
          simp [Term.evaluate, hv, hengine.castText_null]
        refine ⟨_, none, hcondition hname, .textIn _ _ _, ?_, ?_⟩
        · exact evaluate_oneOf_null hcast (.text first) (rest.map .text)
        · rw [hholds, hproperty]
          rfl
      · obtain ⟨t, rfl⟩ := Value.exists_of_isText htext
        have hcast : (Term.castText (.column name)).evaluate engine row = some (.text t) := by
          simp [Term.evaluate, hv, hengine.castText_text]
        have hpresent : (present row).get? name = some (.text t) := hproperty
        refine ⟨_, some (decide (t ∈ first :: rest)), hcondition hname, .textIn _ _ _, ?_, ?_⟩
        · exact evaluate_oneOf_text hcast first rest
        · have hmember : Predicate.isMember (some (.text t)) ((first :: rest).map .text) =
              ((first :: rest).map Value.text).contains (.text t) := rfl
          rw [hholds, hpresent, hmember, List.contains_eq_mem]
          simp
    · exact agreesInQuery_of_notMem hrow rfl hname

/-- The comparisons of a quantity with bounds are true if it lies between them. -/
theorem evaluate_comparisonTerms (hengine : engine.Serves row) {minimum maximum : Value}
    (hmin : minimum.isBound = true) (hmax : maximum.isBound = true)
    (hformat : minimum.isRepresentable = true ∧ maximum.isRepresentable = true)
    (hstorable : isStorableNumber minimum = true ∧ isStorableNumber maximum = true)
    {names : List String} {v : Value} {x : Number}
    (hv : (quantityTerm names).evaluate engine row = some v) (hx : IsQuantity v x) :
    ∃ q, (conjunctionTerm (comparisonTerms names minimum maximum)).evaluate engine row =
        some (ofTruth q) ∧ (q == some true) = Predicate.liesBetween minimum maximum x := by
  -- One comparison: its value is that of the test with the number of the bound.
  have hcompare {bound : Value} {c : Comparison} {b : Bool}
      (h : engine.compare c v bound = some (.bool b)) :
      (Term.compare c (quantityTerm names) (.value bound)).evaluate engine row =
        some (ofTruth (some b)) := by
    simp only [Term.evaluate, hv, Option.bind_some, h]
    rfl
  have hlow {y : Number} (hy : minimum.toExact? = some y) :=
    hcompare (compare_quantity hengine hx hmin hformat.1 hstorable.1 hy .atLeast)
  have hhigh {y : Number} (hy : maximum.toExact? = some y) :=
    hcompare (compare_quantity hengine hx hmax hformat.2 hstorable.2 hy .atMost)
  rw [comparisonTerms, Predicate.liesBetween]
  rcases Predicate.toExact?_of_isBound hmin with rfl | ⟨y, hy, -, hnull⟩
  · rcases Predicate.toExact?_of_isBound hmax with rfl | ⟨z, hz, -, hnull'⟩
    · exact ⟨some true, rfl, rfl⟩
    · rw [if_neg hnull', hz]
      exact ⟨some (x.le z), hhigh hz, by simp [Value.toExact?]⟩
  · rw [if_neg hnull, hy]
    rcases Predicate.toExact?_of_isBound hmax with rfl | ⟨z, hz, -, hnull'⟩
    · exact ⟨some (y.le x), hlow hy, by simp [Value.toExact?]⟩
    · rw [if_neg hnull', hz]
      refine ⟨_, evaluate_both (hlow hy) (hhigh hz), ?_⟩
      rw [bothTruths_eq_true]
      simp [Comparison.test]

theorem agreesInQuery_within (hrow : IsRow row columns) (hfit : row.IntegersFit)
    (hengine : engine.Serves row) {field minimum maximum : Value} {fallbacks : List FieldName}
    (hnames : ∀ name ∈ field :: fallbacks, name.isText = true)
    (hmin : minimum.isBound = true) (hmax : maximum.isBound = true)
    (hformat : minimum.isRepresentable = true ∧ maximum.isRepresentable = true)
    (hstorable : isStorableNumber minimum = true ∧ isStorableNumber maximum = true) :
    AgreesInQuery engine row columns (.within field minimum maximum fallbacks) := by
  obtain ⟨names, hchain⟩ := Predicate.exists_chain_eq hnames
  -- The condition is written for the columns of the chain, and only they count for the quantity.
  have hcondition : (Predicate.within field minimum maximum fallbacks).toCondition
      (columnSet columns) = .ok (.within (names.filter (· ∈ columns)) minimum maximum) := by
    rw [Predicate.toCondition, hchain, columnChain_texts]
    rfl
  obtain ⟨x, v, hquantity, hv, hx⟩ := evaluate_quantityTerm hrow hfit hengine
    (names.filter (· ∈ columns)) fun name hname => by simpa using (List.mem_filter.1 hname).2
  rw [quantity_filter_columns hrow, ← hchain] at hquantity
  obtain ⟨q, hq, hbetween⟩ := evaluate_comparisonTerms hengine hmin hmax hformat hstorable hv hx
  refine ⟨_, q, hcondition, .within _ _ _, hq, ?_⟩
  rw [Predicate.holds_within hquantity,
    Predicate.isWithin_of_isBound hmin hmax (quantity_isFinite hquantity), hbetween]

/-- Every clause of a plain filter is told alike by a query. -/
theorem agreesInQuery_clause {p : Predicate} (hrow : IsRow row columns) (hfit : row.IntegersFit)
    (hengine : engine.Serves row) (hplain : p.IsPlain)
    (hformat : p.BoundsPass Value.isRepresentable) (hstorable : p.BoundsPass isStorableNumber)
    (htexts : ∀ clause ∈ p.clauses, ∀ field, clause.textField? = some field →
      ∀ v, row.field? field = some v → v = .null ∨ v.isText = true) {clause : Predicate}
    (hclause : clause ∈ p.clauses) : AgreesInQuery engine row columns clause := by
  have hclausePlain := hplain clause hclause
  cases clause with
  | all parts => cases hclausePlain
  | equals field literal =>
    obtain ⟨name, rfl⟩ := Value.exists_of_isText hclausePlain.1
    obtain ⟨s, rfl⟩ := Value.exists_of_isText hclausePlain.2
    exact agreesInQuery_equals hrow hengine (htexts _ hclause _ rfl) s
  | within field minimum maximum fallbacks =>
    exact agreesInQuery_within hrow hfit hengine hclausePlain.1 hclausePlain.2.1 hclausePlain.2.2
      (hformat.within hclause) (hstorable.within hclause)
  | member field values =>
    obtain ⟨name, rfl⟩ := Value.exists_of_isText hclausePlain.1
    obtain ⟨texts, rfl⟩ := Value.exists_map_of_isText hclausePlain.2
    exact agreesInQuery_member hrow hengine (htexts _ hclause _ rfl) texts
  | unspecified => cases hclausePlain

/-! ## §5 Conjunctions -/

/-- A conjunction agrees with its condition if all its parts do. -/
theorem agreesInQuery_all {parts : List Predicate}
    (h : ∀ part ∈ parts, AgreesInQuery engine row columns part) :
    AgreesInQuery engine row columns (.all parts) := by
  have hparts : ∃ (cs : List Condition) (terms : List (Term × Option Bool)),
      Predicate.toConditions (columnSet columns) parts = .ok cs ∧ (∀ c ∈ cs, c.IsProper)
      ∧ Condition.partTerms cs = terms.map Prod.fst
      ∧ (∀ t ∈ terms, t.1.evaluate engine row = some (ofTruth t.2))
      ∧ Predicate.holdsAll (present row) parts = .ok (terms.all (·.2 == some true)) := by
    induction parts with
    | nil => exact ⟨[], [], rfl, by simp, rfl, by simp, rfl⟩
    | cons part rest ih =>
      obtain ⟨c, q, hc, hproper, hq, hholds⟩ := h part List.mem_cons_self
      obtain ⟨cs, terms, hcs, hpropers, hterms, hevaluate, hrest⟩ :=
        ih fun other hother => h other (List.mem_cons_of_mem _ hother)
      refine ⟨c :: cs, (c.term, q) :: terms, ?_, ?_, ?_, ?_, ?_⟩
      · rw [Predicate.toConditions, hc, hcs]
        rfl
      · intro d hd
        rcases List.mem_cons.1 hd with rfl | hd
        · exact hproper
        · exact hpropers d hd
      · rw [Condition.partTerms, hterms, List.map_cons]
      · intro t ht
        rcases List.mem_cons.1 ht with rfl | ht
        · exact hq
        · exact hevaluate t ht
      · -- The filter stops at the first part that fails; the conjunction has the same answer.
        rw [Predicate.holdsAll, hholds, List.all_cons]
        cases q == some true with
        | false => rfl
        | true => exact hrest
  obtain ⟨cs, terms, hcs, hpropers, hterms, hevaluate, hholds⟩ := hparts
  obtain ⟨q, hq, hall⟩ := evaluate_conjunctionTerm hevaluate
  refine ⟨.every cs, q, ?_, .every hpropers, ?_, ?_⟩
  · rw [Predicate.toCondition, hcs]
    rfl
  · rw [Condition.term, hterms, hq]
  · rw [Predicate.holds, hholds, hall]

/-- The answer of a query for a row of a table with some columns: the filter is written as a
condition, whose text is read with its parameters. -/
def asks? (engine : Engine) (row : Record) (columns : List String) (parts : List Predicate) :
    Option Bool :=
  match Predicate.toQuery (.listed (columns.map .text)) parts with
  | .ok c => keeps? engine row c.text c.params
  | .error _ => none

/-- The text of a proper condition is read back as its term. -/
theorem asks?_eq_evaluate {parts : List Predicate} {c : Condition}
    (hquery : Predicate.toQuery (.listed (columns.map .text)) parts = .ok c) (hproper : c.IsProper) :
    asks? engine row columns parts = (c.term.evaluate engine row).map (· == .bool true) := by
  simp only [asks?, hquery, keeps?, Condition.read?_text hproper, Option.bind_some]

/-- A query for parts that agree keeps the rows that they hold of. -/
theorem asks?_eq_holds (parts : List Predicate)
    (h : ∀ part ∈ parts, AgreesInQuery engine row columns part) :
    ∃ b, asks? engine row columns parts = some b
      ∧ (Predicate.all parts).holds (present row) = .ok b := by
  cases parts with
  | nil => exact ⟨true, asks?_eq_evaluate rfl .everything, rfl⟩
  | cons part rest =>
    obtain ⟨c, q, hc, hproper, hq, hholds⟩ := agreesInQuery_all h
    refine ⟨q == some true, ?_, hholds⟩
    rw [asks?_eq_evaluate ((toQuery_cons part rest).trans hc) hproper, hq]
    cases q with
    | none => rfl
    | some b => cases b <;> rfl

/-- The quantity of fields that are no columns is zero. -/
theorem holds_within_of_notMem (hrow : IsRow row columns) {field minimum maximum : Value}
    {fallbacks : List FieldName} (hnames : ∀ name ∈ field :: fallbacks, name.isText = true)
    (hmin : minimum.isBound = true) (hmax : maximum.isBound = true)
    (hcolumns : ∀ name, .text name ∈ field :: fallbacks → name ∉ columns) :
    (Predicate.within field minimum maximum fallbacks).holds (present row) =
      .ok (Predicate.liesBetween minimum maximum (.finite 0)) := by
  obtain ⟨names, hchain⟩ := Predicate.exists_chain_eq hnames
  -- No field of the chain is a column, so nothing is left of it.
  have hnone : names.filter (· ∈ columns) = [] := by
    rw [List.filter_eq_nil_iff]
    intro name hname
    have hmem : Value.text name ∈ Predicate.chain field fallbacks :=
      hchain ▸ List.mem_map_of_mem hname
    simpa using hcolumns name (Predicate.mem_of_mem_chain hmem)
  have hquantity : MapFilter.quantity (present row) (Predicate.chain field fallbacks) =
      .ok (.finite 0) := by
    rw [hchain, ← quantity_filter_columns hrow, hnone]
    rfl
  rw [Predicate.holds_within hquantity, Predicate.isWithin_of_isBound hmin hmax rfl]

/-- A query keeps the rows that a plain filter holds of: the filter is written as a condition, the
condition is read with its parameters, and it is true of a row if the filter holds of the record of
the row. A clause on a text that is no column keeps nothing, and quantities without columns are
zero. -/
theorem keeps_toQuery_eq_holds {parts : List Predicate} (hrow : IsRow row columns)
    (hfit : row.IntegersFit) (hengine : engine.Serves row)
    (hplain : (Predicate.all parts).IsPlain)
    (hformat : (Predicate.all parts).BoundsPass Value.isRepresentable)
    (hstorable : (Predicate.all parts).BoundsPass isStorableNumber)
    (htexts : ∀ clause ∈ (Predicate.all parts).clauses, ∀ field,
      clause.textField? = some field → ∀ v, row.field? field = some v → v = .null ∨ v.isText = true) :
    (∃ b, asks? engine row columns parts = some b
        ∧ (Predicate.all parts).holds (present row) = .ok b)
      ∧ (∀ clause ∈ (Predicate.all parts).clauses, ∀ name,
        clause.textField? = some (.text name) → name ∉ columns →
          asks? engine row columns [clause] = some false)
      ∧ ∀ field minimum maximum fallbacks,
        .within field minimum maximum fallbacks ∈ (Predicate.all parts).clauses →
          (∀ name, .text name ∈ field :: fallbacks → name ∉ columns) →
            asks? engine row columns [.within field minimum maximum fallbacks] =
              some (Predicate.liesBetween minimum maximum (.finite 0)) := by
  have hclause {clause : Predicate} (h : clause ∈ (Predicate.all parts).clauses) :
      AgreesInQuery engine row columns clause :=
    agreesInQuery_clause hrow hfit hengine hplain hformat hstorable htexts h
  -- A query for a single clause has the answer of that clause.
  have halone {clause : Predicate} (h : clause ∈ (Predicate.all parts).clauses) {b : Bool}
      (hholds : clause.holds (present row) = .ok b) :
      asks? engine row columns [clause] = some b := by
    obtain ⟨answer, hasks, hanswer⟩ := asks?_eq_holds [clause] fun part hpart => by
      rw [List.mem_singleton.1 hpart]
      exact hclause h
    rw [Predicate.holds_all_singleton, hholds] at hanswer
    cases hanswer
    exact hasks
  refine ⟨asks?_eq_holds parts fun part hpart => ?_, ?_, ?_⟩
  · refine Predicate.of_clauses (fun _ => agreesInQuery_all) fun clause h => ?_
    exact hclause (Predicate.mem_clauses_all.2 ⟨part, hpart, h⟩)
  · intro clause h name hfield hname
    exact halone h (holds_of_notMem hrow hfield hname)
  · intro field minimum maximum fallbacks h hcolumns
    obtain ⟨hnames, hmin, hmax⟩ := hplain _ h
    exact halone h (holds_within_of_notMem hrow hnames hmin hmax hcolumns)

/-- A name with a quote, a text with a question mark, an infinity before a number in a chain, a
missing cell, and a column that is not there. -/
theorem keeps_toQuery_eq_holds_quoted :
    let columns := ["Branch", "Net\"Sales", "Total", "Status"]
    let row : Record := [("Branch", .text "Why?"), ("Net\"Sales", .float (.infinite false)),
      ("Total", .int 12), ("Status", .null)]
    let parts : List Predicate := [.equals (.text "Branch") (.text "Why?"),
      .all [.within (.text "Net\"Sales") (.int 10) .null [.text "Other", .text "Total"], .all []],
      .within (.text "Other") .null (.float (.finite 3)) []]
    (IsRow row columns ∧ row.IntegersFit ∧ database.Serves row
        ∧ (Predicate.all parts).IsPlain ∧ (Predicate.all parts).BoundsPass Value.isRepresentable
        ∧ (Predicate.all parts).BoundsPass isStorableNumber)
      ∧ asks? database row columns parts = some true
      ∧ (Predicate.all parts).holds (present row) = .ok true := by
  intro columns row parts
  have hrow : IsRow row columns := isRow_names (by decide)
  have hcells {name : String} {v : Value} (h : row.get? name = some v) :
      v = .text "Why?" ∨ v = .float (.infinite false) ∨ v = .int 12 ∨ v = .null := by
    have hmem := Record.mem_of_get? h
    simp only [row, List.mem_cons, Prod.mk.injEq, List.not_mem_nil, or_false] at hmem
    rcases hmem with ⟨-, hv⟩ | ⟨-, hv⟩ | ⟨-, hv⟩ | ⟨-, hv⟩ <;> simp [hv]
  have hfit : row.IntegersFit := Record.integersFit_of_mem (by decide)
  have hengine : database.Serves row := by
    refine database_serves fun name v h => ?_
    rcases hcells h with rfl | rfl | rfl | rfl <;> trivial
  have hplain : (Predicate.all parts).IsPlain := by decide
  have hformat : (Predicate.all parts).BoundsPass Value.isRepresentable := by decide
  have hstorable : (Predicate.all parts).BoundsPass isStorableNumber := by decide
  obtain ⟨⟨b, hasks, hholds⟩, -, -⟩ := keeps_toQuery_eq_holds hrow hfit hengine hplain hformat
    hstorable (by
    intro clause h field hfield v hv
    simp only [parts, Predicate.clauses, Predicate.clausesOfParts, List.append_nil,
      List.cons_append, List.nil_append, List.mem_cons, List.not_mem_nil, or_false] at h
    rcases h with rfl | rfl | rfl
    · cases hfield
      cases hv
      exact .inr rfl
    · cases hfield
    · cases hfield)
  have htrue : (Predicate.all parts).holds (present row) = .ok true := rfl
  rw [htrue] at hholds
  cases hholds
  exact ⟨⟨hrow, hfit, hengine, hplain, hformat, hstorable⟩, hasks, htrue⟩

/-- A bound of 54 bits is cast to another number, and the query keeps a row next to it that the filter
does not hold of. With a bound of more than 128 bits the query fails. -/
theorem query_differs_rounded_refused :
    let columns := ["Sales"]
    let row : Record := [("Sales", .int 9007199254740992)]
    let rounded : List Predicate := [.within (.text "Sales") (.int 9007199254740993) .null []]
    let refused : List Predicate := [.within (.text "Sales") .null (.int (2 ^ 200)) []]
    (IsRow row columns ∧ row.IntegersFit ∧ database.Serves row)
      ∧ ((Predicate.all rounded).IsPlain ∧ asks? database row columns rounded = some true
        ∧ (Predicate.all rounded).holds (present row) = .ok false)
      ∧ (Predicate.all refused).IsPlain ∧ asks? database row columns refused = none
        ∧ (Predicate.all refused).holds (present row) = .ok true := by
  intro columns row rounded refused
  have hproper (minimum maximum : Value) :
      (Condition.every [.within ["Sales"] minimum maximum]).IsProper :=
    .every fun c hc => List.mem_singleton.1 hc ▸ .within _ _ _
  have hengine : database.Serves row := by
    refine database_serves fun name v h => ?_
    have hmem := Record.mem_of_get? h
    simp only [row, List.mem_singleton, Prod.mk.injEq] at hmem
    obtain ⟨-, rfl⟩ := hmem
    rfl
  refine ⟨⟨isRow_names (by decide), Record.integersFit_of_mem (by decide), hengine⟩,
    ⟨by decide, ?_, by decide +kernel⟩, by decide, ?_, by decide +kernel⟩
  · rw [asks?_eq_evaluate (c := .every [.within ["Sales"] (.int 9007199254740993) .null]) rfl
      (hproper _ _)]
    decide +kernel
  · rw [asks?_eq_evaluate (c := .every [.within ["Sales"] .null (.int (2 ^ 200))]) rfl (hproper _ _)]
    decide +kernel

end MapFilter.Sql
