import MapFilter.Proofs.Compilation.Widening
import MapFilter.Proofs.Sql.Rows

/-!
# What a query answers for a filter

The clauses of a compiled filter compare a property with a text, a date key with keys, or a date text
with days. A query answers for them alike: it is made without an error, and of a stored row its
condition is true if the clause holds of the record of the row. That takes a text for a text only if
the column does not have it as the text of anything else; the other clauses always agree.

- `Sql.Answers`: a condition that answers for a filter
- `Sql.Tells`: clauses that a query tells alike
- `Sql.exists_answers`: their conditions answer for them
- `Sql.exists_query`: and so does the condition of a whole query
- `Sql.Answers.keeps`: the rows that such a query keeps
-/

namespace MapFilter.Sql

/-- A query can be made with the condition, over columns of the table. Of the record that it sees of a
stored row, the condition is true if the filter holds of the record of the row. -/
structure Answers (t : Table) (p : Predicate) (c : Condition) : Prop where
  names : ∀ name ∈ c.columnNames, name ∈ t.columns
  params : tooLarge? c.params = none
  bounds : c.incomparable? = none
  agrees : ∀ row seen, IsStoredRow t row seen →
    ∃ q, (c.resolve t.columns).evaluate seen = .ok q ∧ p.holds (present row) = .ok (q == some true)

variable {t : Table} {row seen : Record} {name : String}

/-! ## §1 Texts -/

theorem castText_storedCell_iff {s : String} {cells : List Value} {v : Value} (hv : v ∈ cells)
    (h : IsToldApart s cells) : castText (storedCell cells v) = some s ↔ v = .text s := by
  cases htext : v.isText with
  | true =>
    obtain ⟨own, rfl⟩ := Value.exists_of_isText htext
    rw [castText_storedCell_text hv, Option.some.injEq, Value.text.injEq]
  | false =>
    refine iff_of_false (h v hv htext) ?_
    rintro rfl
    cases htext

/-- With text parameters, a cell is compared by its text. -/
theorem isAmong_texts {texts : List String} (hne : texts ≠ []) (v : Value) :
    isAmong v (texts.map .text) = .ok ((castText v).map texts.contains) := by
  have hpresent : (texts.map Value.text).filter (· ≠ .null) = texts.map .text := by
    rw [List.filter_eq_self]
    intro w hw
    obtain ⟨s, -, rfl⟩ := List.mem_map.1 hw
    rfl
  have hempty : (texts.map Value.text).isEmpty = false := by simpa using hne
  have htype : OperandType.ofValues (texts.map .text) = .text := by
    clear hpresent hempty hne
    unfold OperandType.ofValues
    induction texts with
    | nil => rfl
    | cons s rest ih => exact ih
  have hcast : (texts.map Value.text).mapM OperandType.text.cast = .ok (texts.map .text) := by
    clear hpresent hempty htype hne
    induction texts with
    | nil => rfl
    | cons s rest ih =>
      rw [List.map_cons, List.mapM_cons, ih]
      rfl
  unfold isAmong
  cases castText v with
  | none => rfl
  | some s =>
    have hoperand : OperandType.text.cast (.text s) = .ok (.text s) := rfl
    have hany : (texts.map Value.text).any (equalOperands (.text s)) = texts.contains s := by
      rw [List.any_map, List.contains_eq_any_beq]
      rfl
    simp only [hpresent, hempty, htype, hoperand, hcast, Option.map_some, ← hany]
    rfl

/-- The columns of a condition are those of the table that have their names. -/
theorem named_eq (h : t.IsSound) (hname : name ∈ t.columns) :
    Condition.resolve.named t.columns name = name := by
  rw [Condition.resolve.named, storedColumn?_of_mem h.names hname, Option.getD_some]

/-- A test of a property is one of the cell, unless that is missing. -/
theorem onProperty_present {v : Value} (hrow : IsStoredRow t row seen)
    (hv : row.get? name = some v) (test : Option Value → Bool) :
    Predicate.onProperty (present row) (.text name) test =
      .ok (test ((some v).filter (· ≠ .null))) := by
  rw [← hv, ← get?_present hrow.isRow.nodup]
  rfl

theorem isText_cell (v : Value) (s : String) :
    Predicate.isText ((some v).filter (· ≠ .null)) (.text s) = true ↔ v = .text s := by
  cases v with
  | text own =>
    have htest : Predicate.isText ((some (.text own)).filter (· ≠ .null)) (.text s) =
        (Value.text s == .text own) := rfl
    rw [htest, beq_iff_eq, @eq_comm _ (Value.text s)]
  | _ => exact iff_of_false Bool.false_ne_true Value.noConfusion

/-- Of all that columns may hold, only a text is written like a text with a slash. -/
theorem isMember_cell {v : Value} (hkey : v.isKey = true) {texts : List String}
    (hslash : ∀ s ∈ texts, '/' ∈ s.toList) :
    Predicate.isMember ((some v).filter (· ≠ .null)) (texts.map .text) = true ↔
      ∃ s ∈ texts, v = .text s := by
  have hshown : (texts.map Value.text).contains (.text v.display) = true ↔ v.display ∈ texts := by
    rw [List.contains_iff_mem, List.mem_map]
    simp only [Value.text.injEq, exists_eq_right]
  cases htext : v.isText with
  | true =>
    obtain ⟨own, rfl⟩ := Value.exists_of_isText htext
    have htest : Predicate.isMember ((some (.text own)).filter (· ≠ .null)) (texts.map .text) =
        (texts.map Value.text).contains (.text (Value.text own).display) := rfl
    rw [htest, hshown]
    simp only [Value.display, Value.text.injEq, exists_eq_right']
  | false =>
    have hnone : v.display ∉ texts := fun h => v.slash_notMem_display hkey htext (hslash _ h)
    refine iff_of_false ?_ ?_
    · cases v with
      | null => exact Bool.false_ne_true
      | _ => exact fun h => hnone (hshown.1 h)
    · rintro ⟨s, -, rfl⟩
      cases htext

/-- A query finds out of a cell whether it is one of some texts, if these are told apart. -/
theorem isAmong_cell {cells : List Value} {v : Value} {texts : List String} (hv : v ∈ cells)
    (hcell : cell seen name = storedCell cells v) (hne : texts ≠ [])
    (htold : ∀ s ∈ texts, IsToldApart s cells) :
    ∃ q, isAmong (cell seen name) (texts.map .text) = .ok q ∧
      (q = some true ↔ ∃ s ∈ texts, v = .text s) := by
  refine ⟨_, isAmong_texts hne _, ?_⟩
  rw [hcell, Option.map_eq_some_iff]
  constructor
  · rintro ⟨s, hcast, hmem⟩
    have hs : s ∈ texts := List.contains_iff_mem.1 hmem
    exact ⟨s, hs, (castText_storedCell_iff hv (htold s hs)).1 hcast⟩
  · rintro ⟨s, hs, rfl⟩
    exact ⟨s, castText_storedCell_text hv, List.contains_iff_mem.2 hs⟩

/-- What is never true answers for a clause on the text of what is no column. -/
theorem answers_never {p : Predicate} (hfield : p.textField? = some (.text name))
    (hname : name ∉ t.columns) : Answers t p .never where
  names _ h := nomatch h
  params := rfl
  bounds := rfl
  agrees _ _ hrow := ⟨some false, rfl, holds_of_notMem hrow.isRow hfield hname⟩

theorem answers_noTexts (t : Table) (name : String) :
    Answers t (.member (.text name) []) .never where
  names _ h := nomatch h
  params := rfl
  bounds := rfl
  agrees row _ _ := by
    refine ⟨some false, rfl, ?_⟩
    have hproperty : Predicate.holds (present row) (.member (.text name) []) =
        .ok (Predicate.isMember ((present row).get? name) []) := rfl
    rw [hproperty]
    cases (present row).get? name with
    | none => rfl
    | some v => cases v <;> rfl

theorem answers_equals (h : t.IsSound) (hname : name ∈ t.columns) {s : String}
    (htold : ∀ i, t.columns[i]? = some name → IsToldApart s (t.columnAt i)) :
    Answers t (.equals (.text name) (.text s)) (.textEquals name (.text s)) where
  names other hother := by
    rw [Condition.columnNames, List.mem_singleton] at hother
    exact hother ▸ hname
  params := rfl
  bounds := rfl
  agrees row seen hrow := by
    obtain ⟨i, v, hi, hv, hget, hcell⟩ := hrow.cell_eq name hname
    obtain ⟨q, hq, hiff⟩ := isAmong_cell hv hcell (List.cons_ne_nil s [])
      fun own hown => List.mem_singleton.1 hown ▸ htold i hi
    refine ⟨q, ?_, ?_⟩
    · rw [Condition.resolve, Condition.evaluate, named_eq h hname]
      exact hq
    · rw [Predicate.holds, onProperty_present hrow hget]
      simp only [List.mem_singleton, exists_eq_left] at hiff
      congr 1
      rw [Bool.eq_iff_iff, isText_cell, beq_iff_eq, hiff]

/-- Texts with a slash are compared alike in every column. -/
theorem answers_member (h : t.IsSound) (hname : name ∈ t.columns) {texts : List String}
    (hne : texts ≠ []) (hslash : ∀ s ∈ texts, '/' ∈ s.toList) :
    Answers t (.member (.text name) (texts.map .text)) (.textIn name (texts.map .text)) where
  names other hother := by
    rw [Condition.columnNames, List.mem_singleton] at hother
    exact hother ▸ hname
  params := by
    rw [tooLarge?, Condition.params, List.findSome?_eq_none_iff]
    intro v hv
    obtain ⟨s, -, rfl⟩ := List.mem_map.1 hv
    rfl
  bounds := rfl
  agrees row seen hrow := by
    obtain ⟨i, v, hi, hv, hget, hcell⟩ := hrow.cell_eq name hname
    obtain ⟨q, hq, hiff⟩ := isAmong_cell hv hcell hne
      fun s hs => isToldApart_of_slash (h.isKey i) (hslash s hs)
    refine ⟨q, ?_, ?_⟩
    · rw [Condition.resolve, Condition.evaluate, named_eq h hname]
      exact hq
    · rw [Predicate.holds, onProperty_present hrow hget]
      congr 1
      rw [Bool.eq_iff_iff, isMember_cell (h.isKey i v hv) hslash, beq_iff_eq, hiff]

/-! ## §2 Quantities -/

/-- The columns of the names were read as numbers, as far as there are any. -/
def AreNumeric (t : Table) (names : List String) : Prop :=
  ∀ name ∈ names, ∀ i, t.columns[i]? = some name → Column.IsNumeric (t.columnAt i)

/-- The quantity of a record is that of the stored row. -/
theorem quantity_present (hrow : IsStoredRow t row seen) {names : List String}
    (hnames : ∀ name ∈ names, name ∈ t.columns) (hnumeric : AreNumeric t names) :
    quantity (present row) (names.map .text) = .ok (rowQuantity seen names) := by
  induction names with
  | nil => rfl
  | cons name rest ih =>
    obtain ⟨i, v, hi, hv, hget, hcell⟩ := hrow.cell_eq name (hnames name List.mem_cons_self)
    have hcast := castFinite_storedCell (hnumeric name List.mem_cons_self i hi) hv
    have hnumber := number?_present_eq hrow.isRow.nodup hget (hcell ▸ hcast)
    have hrest := ih (fun n hn => hnames n (List.mem_cons_of_mem _ hn))
      fun n hn => hnumeric n (List.mem_cons_of_mem _ hn)
    rw [List.map_cons, quantity_cons, hnumber, hrest]
    -- Both go on to the next column exactly if this one has no finite number.
    unfold rowQuantity
    rw [List.findSome?_cons]
    cases castFinite (cell seen name) <;> rfl

/-- Names of no column do not count. -/
theorem quantity_columns (hrow : IsStoredRow t row seen) {names : List String}
    (hnumeric : AreNumeric t names) :
    quantity (present row) (names.map .text) =
      .ok (rowQuantity seen (names.filter (· ∈ t.columns))) := by
  rw [← quantity_filter_columns hrow.isRow]
  refine quantity_present hrow (fun name hname => ?_) fun name hname => ?_
  · simpa using (List.mem_filter.1 hname).2
  · exact hnumeric name (List.mem_filter.1 hname).1

/-- A key is small enough for a number of its own. -/
def IsSmall (key : Option Int) : Prop :=
  ∀ k, key = some k → k.natAbs ≤ 0x20000000000000

theorem isAtMost_eq {x y : Number} (hx : x.isFinite = true) (hy : y.isFinite = true) :
    isAtMost x y = x.le y := by
  cases y with
  | nan => cases hy
  | _ =>
    cases x with
    | nan => cases hx
    | _ => rfl

theorem respects_boundValue {compare : Number → Number → Bool} {columns : List String}
    {key : Option Int} (hkey : IsSmall key) (x : Number) :
    respects compare columns x (boundValue key) =
      .ok ((boundValue key).toExact?.all (compare x)) := by
  cases key with
  | none => rfl
  | some k =>
    have hsigned : Column.isSigned k = true := by
      have := hkey k rfl
      simp only [Column.isSigned, Bool.and_eq_true, decide_eq_true_eq]
      omega
    have hstored : storedNumber (.int k) = .float (.finite k) := by
      rw [storedNumber, castDouble, if_pos hsigned, Number.ofInt, if_pos (hkey k rfl)]
    have hbound : boundNumber columns (boundValue (some k)) = .ok (.finite k) := by
      simp only [boundValue, boundNumber, hstored]
    have hrespects : respects compare columns x (boundValue (some k)) =
        (boundNumber columns (boundValue (some k))).map (compare x) := rfl
    rw [hrespects, hbound]
    rfl

/-- A range of keys is evaluated to whether the quantity lies in it. -/
theorem evaluate_within {columns : List String} {start stop : Option Int} (hstart : IsSmall start)
    (hstop : IsSmall stop) (hfinite : (rowQuantity seen columns).isFinite = true) :
    (Condition.within columns (boundValue start) (boundValue stop)).evaluate seen =
      .ok (some (Predicate.liesBetween (boundValue start) (boundValue stop)
        (rowQuantity seen columns))) := by
  have hlow (key : Option Int) : (boundValue key).toExact?.all
      (fun b => isAtMost b (rowQuantity seen columns)) =
        (boundValue key).toExact?.all (·.le (rowQuantity seen columns)) := by
    cases key with
    | none => rfl
    | some k => exact isAtMost_eq rfl hfinite
  have hhigh (key : Option Int) : (boundValue key).toExact?.all
      (isAtMost (rowQuantity seen columns)) =
        (boundValue key).toExact?.all (rowQuantity seen columns).le := by
    cases key with
    | none => rfl
    | some k => exact isAtMost_eq hfinite rfl
  rw [Condition.evaluate, respects_boundValue hstart, respects_boundValue hstop, hlow, hhigh,
    Predicate.liesBetween]
  cases (boundValue start).toExact?.all (·.le (rowQuantity seen columns)) <;> rfl

/-- No bound of a range of keys is too large an integer. -/
theorem tooLarge_within {start stop : Option Int} (hstart : IsSmall start) (hstop : IsSmall stop)
    (columns : List String) :
    tooLarge? (Condition.within columns (boundValue start) (boundValue stop)).params = none := by
  have hsmall {key : Option Int} (hkey : IsSmall key) : tooLarge? [boundValue key] = none := by
    cases key with
    | none => rfl
    | some k =>
      have hstorable : isStorable k = true := by
        have := hkey k rfl
        simp only [isStorable, Bool.and_eq_true, decide_eq_true_eq]
        omega
      simp [tooLarge?, boundValue, hstorable]
  have hlow := hsmall hstart
  have hhigh := hsmall hstop
  unfold tooLarge? at hlow hhigh ⊢
  rw [Condition.params, comparisons, List.map_append, List.findSome?_append]
  cases start <;> cases stop <;> simp_all [boundValue]

theorem answers_within (h : t.IsSound) {field : FieldName} {fallbacks : List FieldName}
    {names : List String} {start stop : Option Int}
    (hchain : Predicate.chain field fallbacks = names.map .text) (hnumeric : AreNumeric t names)
    (hstart : IsSmall start) (hstop : IsSmall stop) :
    Answers t (.within field (boundValue start) (boundValue stop) fallbacks)
      (.within (names.filter (· ∈ t.columns)) (boundValue start) (boundValue stop)) where
  names other hother := by
    rw [Condition.columnNames] at hother
    split at hother
    · cases hother
    · simpa using (List.mem_filter.1 hother).2
  params := tooLarge_within hstart hstop _
  bounds := by
    cases start <;> cases stop <;> rfl
  agrees row seen hrow := by
    have hquantity := quantity_columns hrow hnumeric
    have hresolve : (names.filter (· ∈ t.columns)).map (Condition.resolve.named t.columns) =
        names.filter (· ∈ t.columns) :=
      map_eq_self fun name hname => named_eq h (by simpa using (List.mem_filter.1 hname).2)
    have hfinite := quantity_isFinite hquantity
    rw [Condition.resolve, hresolve, evaluate_within hstart hstop hfinite,
      Predicate.holds_within (hchain ▸ hquantity), Predicate.isWithin_of_isBound
        (isBound_boundValue start) (isBound_boundValue stop) hfinite]
    generalize Predicate.liesBetween _ _ _ = b
    exact ⟨some b, rfl, by cases b <;> rfl⟩

/-! ## §3 Conjunctions -/

theorem answers_everything (t : Table) : Answers t (.all []) .everything where
  names _ h := nomatch h
  params := rfl
  bounds := rfl
  agrees _ _ _ := ⟨some true, rfl, rfl⟩

theorem answers_nil (t : Table) : Answers t (.all []) (.every []) where
  names _ h := nomatch h
  params := rfl
  bounds := rfl
  agrees _ _ _ := ⟨some true, rfl, rfl⟩

/-- A conjunction goes on behind its first part if that is true, and so does the filter. -/
theorem Answers.cons {p : Predicate} {parts : List Predicate} {c : Condition} {cs : List Condition}
    (h : Answers t p c) (hrest : Answers t (.all parts) (.every cs)) :
    Answers t (.all (p :: parts)) (.every (c :: cs)) where
  names name hname := by
    obtain hname | hname := List.mem_append.1 hname
    · exact h.names name hname
    · exact hrest.names name hname
  params := by
    have hfirst := h.params
    have hlater := hrest.params
    unfold tooLarge? at hfirst hlater ⊢
    rw [Condition.params, Condition.partParams, List.findSome?_append, hfirst]
    exact hlater
  bounds := by
    rw [Condition.incomparable?, Condition.incomparable?.incomparableOfParts?, h.bounds]
    exact hrest.bounds
  agrees row seen hrow := by
    obtain ⟨q, hq, hholds⟩ := h.agrees row seen hrow
    obtain ⟨q', hq', hholds'⟩ := hrest.agrees row seen hrow
    rw [Condition.resolve, Condition.evaluate] at hq'
    rw [Predicate.holds] at hholds'
    rw [Condition.resolve, Condition.resolve.resolveParts, Condition.evaluate, Condition.evaluateAll,
      Predicate.holds, Predicate.holdsAll, hq, hholds]
    -- Anything but a first part that is true is already the answer of both.
    cases q with
    | none => exact ⟨none, rfl, rfl⟩
    | some b =>
      cases b with
      | false => exact ⟨some false, rfl, rfl⟩
      | true => exact ⟨q', hq', hholds'⟩

/-- Clauses that a query tells alike: a text that is told apart from the other cells of its column, a
range of keys in columns that were read as numbers, and some days. -/
inductive Tells (t : Table) : Predicate → Prop where
  | equals {name s : String} :
    (∀ i, t.columns[i]? = some name → IsToldApart s (t.columnAt i)) →
    Tells t (.equals (.text name) (.text s))
  | within {field : FieldName} {fallbacks : List FieldName} {names : List String}
    {start stop : Option Int} :
    Predicate.chain field fallbacks = names.map .text → AreNumeric t names → IsSmall start →
    IsSmall stop → Tells t (.within field (boundValue start) (boundValue stop) fallbacks)
  | member {name : String} {texts : List String} : (∀ s ∈ texts, '/' ∈ s.toList) →
    Tells t (.member (.text name) (texts.map .text))

/-- Such a clause has a condition that answers for it. -/
theorem exists_answers (h : t.IsSound) {p : Predicate} (hp : Tells t p) :
    ∃ c, p.toCondition (columnSet t.columns) = .ok c ∧ Answers t p c := by
  cases hp with
  | @equals name s htold =>
    by_cases hname : name ∈ t.columns
    · refine ⟨.textEquals name (.text s), ?_, answers_equals h hname htold⟩
      rw [Predicate.toCondition, column?_text, if_pos hname]
      rfl
    · refine ⟨.never, ?_, answers_never rfl hname⟩
      rw [Predicate.toCondition, column?_text, if_neg hname]
      rfl
  | within hchain hnumeric hstart hstop =>
    refine ⟨_, ?_, answers_within h hchain hnumeric hstart hstop⟩
    rw [Predicate.toCondition, hchain, columnChain_texts]
    rfl
  | @member name texts hslash =>
    by_cases hname : name ∈ t.columns
    · by_cases hne : texts = []
      · subst hne
        exact ⟨.never, rfl, answers_noTexts t name⟩
      · refine ⟨.textIn name (texts.map .text), ?_, answers_member h hname hne hslash⟩
        rw [Predicate.toCondition, if_neg (by simpa using hne), column?_text, if_pos hname]
        rfl
    · refine ⟨.never, ?_, answers_never rfl hname⟩
      rw [Predicate.toCondition, column?_text, if_neg hname]
      split <;> rfl

/-- The condition of a whole query answers for the conjunction of its parts. -/
theorem exists_query (h : t.IsSound) {parts : List Predicate} (hparts : ∀ p ∈ parts, Tells t p) :
    ∃ c, Predicate.toQuery (.listed (t.columns.map .text)) parts = .ok c ∧
      Answers t (.all parts) c := by
  have hall : ∃ cs, Predicate.toConditions (columnSet t.columns) parts = .ok cs ∧
      Answers t (.all parts) (.every cs) := by
    induction parts with
    | nil => exact ⟨[], rfl, answers_nil t⟩
    | cons p rest ih =>
      obtain ⟨c, hc, hfirst⟩ := exists_answers h (hparts p List.mem_cons_self)
      obtain ⟨cs, hcs, hrest⟩ := ih fun q hq => hparts q (List.mem_cons_of_mem _ hq)
      refine ⟨c :: cs, ?_, hfirst.cons hrest⟩
      rw [Predicate.toConditions, hc, hcs]
      rfl
  obtain ⟨cs, hcs, hanswers⟩ := hall
  cases parts with
  | nil => exact ⟨.everything, rfl, answers_everything t⟩
  | cons p rest =>
    refine ⟨.every cs, ?_, hanswers⟩
    rw [toQuery_cons, Predicate.toCondition, hcs]
    rfl

/-! ## §4 Rows -/

/-- Whether a query with the condition keeps a row of stored columns. -/
def Condition.keepsRow (c : Condition) (columns : List String) (row : List Value) : Bool :=
  ((c.resolve columns).keeps (Table.record columns row)).toOption.getD false

variable {p : Predicate} {c : Condition}

/-- The condition keeps the stored row if the filter holds of the row, and fails on none. -/
theorem Answers.keeps (hc : Answers t p c) (h : t.IsSound) {cells : List Value}
    (hcells : cells ∈ t.rows) :
    (c.resolve t.columns).keeps (Table.record t.columns (t.storedRow cells)) =
        .ok (c.keepsRow t.columns (t.storedRow cells)) ∧
      p.holds (Table.record t.columns cells) = .ok (c.keepsRow t.columns (t.storedRow cells)) := by
  obtain ⟨q, hq, hholds⟩ := hc.agrees _ _ (h.isStoredRow hcells)
  have hkeeps : (c.resolve t.columns).keeps (Table.record t.columns (t.storedRow cells)) =
      .ok (q == some true) := by
    rw [Condition.keeps, hq]
    rfl
  rw [Condition.keepsRow, hkeeps, record_eq_present, hholds]
  exact ⟨rfl, rfl⟩

/-- The query can be made, also about further columns. -/
theorem Answers.check (hc : Answers t p c) (h : t.IsSound) {names : List String}
    (hnames : ∀ name ∈ names, name ∈ t.columns) : c.check names = .ok () := by
  have hnamed : (c.columnNames ++ names).any String.isEmpty = false := by
    rw [List.any_eq_false]
    intro name hname hempty
    rw [String.isEmpty_iff] at hempty
    subst hempty
    obtain hname | hname := List.mem_append.1 hname
    · exact h.named (hc.names _ hname)
    · exact h.named (hnames _ hname)
  simp only [Condition.check, hnamed, hc.params, hc.bounds, Bool.false_eq_true, if_false]

end MapFilter.Sql
