import MapFilter.Proofs.Compilation.Dates

/-!
# No date selection is dropped silently

A range of dates may not make it into the filter: a bound may be no date, the range may be open or
too long to be written out, or one of its ends may be no day of the calendar. Whenever a bound is
left out, a diagnostic says so, and every diagnostic is logged.

- `DateBounds.ComparesKeys`, `DateBounds.ListsDays`: clauses that keep to every bound
- `keyClause_eq`, `textClause_cases`: all that the two ways to compile a range can come to
- `compile_accounts_for_dates`: without a diagnostic, the filter has such a clause
-/

namespace MapFilter

/-! ## §1 Clauses about dates -/

/-- Whether a bound is there and names no day. -/
def Value.isUnreadableBound (bound : Value) : Bool :=
  bound.isTruthy && (DateKey.encodeValue bound).isNone

/-- Whether a clause is about dates, and not about a branch or a group. -/
def Predicate.isAboutDates : Predicate → Bool
  | .within .. | .member .. => true
  | .all _ | .equals .. | .unspecified => false

namespace DateBounds

/-- The date key has to lie within every bound that is there, of two bounds above the lower one. -/
inductive ComparesKeys (bounds : DateBounds) (fields : FieldMapping) : Predicate → Prop where
  | both {a b : Int} {others : List FieldName} :
    DateKey.encodeValue bounds.start = some a → DateKey.encodeValue bounds.stop = some b →
    fields.dateKeyChain = fields.dateKey :: others →
    ComparesKeys bounds fields
      (.within fields.dateKey (.int (min a b)) (.int (max a b)) others)
  | start {a : Int} {others : List FieldName} :
    DateKey.encodeValue bounds.start = some a → bounds.stop.isTruthy = false →
    fields.dateKeyChain = fields.dateKey :: others →
    ComparesKeys bounds fields (.within fields.dateKey (.int a) .null others)
  | stop {b : Int} {others : List FieldName} :
    bounds.start.isTruthy = false → DateKey.encodeValue bounds.stop = some b →
    fields.dateKeyChain = fields.dateKey :: others →
    ComparesKeys bounds fields (.within fields.dateKey .null (.int b) others)

/-- The date text has to be that of one of the real days between two bounds. -/
inductive ListsDays (bounds : DateBounds) (fields : FieldMapping) : Predicate → Prop where
  | both {d e : DateParts} {days : List DateParts} :
    d.isReal = true → e.isReal = true →
    DateKey.encodeValue bounds.start = some d.key → DateKey.encodeValue bounds.stop = some e.key →
    (∀ x, x ∈ days ↔ x.isReal = true ∧ x.IsBetween d e) →
    ListsDays bounds fields (.member fields.dateText ((days.map DateParts.text).map .text))

theorem ComparesKeys.isAboutDates {bounds : DateBounds} {fields : FieldMapping} {p : Predicate}
    (h : bounds.ComparesKeys fields p) : p.isAboutDates = true := by
  cases h <;> rfl

theorem ListsDays.isAboutDates {bounds : DateBounds} {fields : FieldMapping} {p : Predicate}
    (h : bounds.ListsDays fields p) : p.isAboutDates = true := by
  cases h
  rfl

end DateBounds

/-! ## §2 Bounds -/

theorem encodeValue_of_not_isTruthy {v : Value} (h : v.isTruthy = false) :
    DateKey.encodeValue v = none := by
  cases hkey : DateKey.encodeValue v with
  | none => rfl
  | some key =>
    rw [isTruthy_of_encodeValue hkey] at h
    cases h

/-- A bound that does not go unread is absent or has a key. -/
theorem isTruthy_eq_false_or_encodeValue {v : Value} (h : v.isUnreadableBound = false) :
    v.isTruthy = false ∨ ∃ key, DateKey.encodeValue v = some key := by
  cases htruthy : v.isTruthy with
  | false => exact .inl rfl
  | true =>
    simp only [Value.isUnreadableBound, htruthy, Bool.true_and] at h
    exact .inr (Option.isSome_iff_exists.1 (Option.isNone_eq_false_iff.1 h))

theorem ordered_eq (a b : Int) : ordered (some a, some b) = (some (min a b), some (max a b)) := by
  have hcases : ordered (some a, some b) =
      if b < a then (some b, some a) else (some a, some b) := rfl
  rw [hcases]
  split
  · rw [Int.min_eq_right (by omega), Int.max_eq_left (by omega)]
  · rw [Int.min_eq_left (by omega), Int.max_eq_right (by omega)]

variable {bounds : DateBounds}

theorem unreadableBounds_eq (bounds : DateBounds) :
    unreadableBounds bounds =
      (if bounds.start.isUnreadableBound then [.unreadableStart bounds.start] else [])
        ++ (if bounds.stop.isUnreadableBound then [.unreadableStop bounds.stop] else []) := rfl

/-- The keys of bounds of which some are there and none goes unread, in order. -/
theorem ordered_keys_cases (hgiven : bounds.isEmpty = false)
    (hread : unreadableBounds bounds = []) :
    (∃ a b, DateKey.encodeValue bounds.start = some a ∧ DateKey.encodeValue bounds.stop = some b
        ∧ ordered bounds.keys = (some (min a b), some (max a b)))
      ∨ (∃ a, DateKey.encodeValue bounds.start = some a ∧ bounds.stop.isTruthy = false
        ∧ ordered bounds.keys = (some a, none))
      ∨ ∃ b, bounds.start.isTruthy = false ∧ DateKey.encodeValue bounds.stop = some b
        ∧ ordered bounds.keys = (none, some b) := by
  rw [unreadableBounds_eq, List.append_eq_nil_iff] at hread
  have hstart : bounds.start.isUnreadableBound = false := by simpa using hread.1
  have hstop : bounds.stop.isUnreadableBound = false := by simpa using hread.2
  rcases isTruthy_eq_false_or_encodeValue hstart with hstart | ⟨a, ha⟩
  · rcases isTruthy_eq_false_or_encodeValue hstop with hstop | ⟨b, hb⟩
    · simp [DateBounds.isEmpty, hstart, hstop] at hgiven
    · refine .inr (.inr ⟨b, hstart, hb, ?_⟩)
      simp [DateBounds.keys, encodeValue_of_not_isTruthy hstart, hb, ordered]
  · rcases isTruthy_eq_false_or_encodeValue hstop with hstop | ⟨b, hb⟩
    · refine .inr (.inl ⟨a, ha, hstop, ?_⟩)
      simp [DateBounds.keys, encodeValue_of_not_isTruthy hstop, ha, ordered]
    · refine .inl ⟨a, b, ha, hb, ?_⟩
      rw [DateBounds.keys, ha, hb, ordered_eq]

/-! ## §3 Comparing keys -/

/-- Leaving out repetitions keeps what is in front, and adds only names that are there. -/
theorem exists_firstOccurrences (names kept : List FieldName) : ∃ more, names.foldl
    (fun chain name => if name.isAmong chain then chain else chain ++ [name]) kept = kept ++ more ∧
      ∀ name ∈ more, name ∈ names := by
  induction names generalizing kept with
  | nil => exact ⟨[], by simp⟩
  | cons name rest ih =>
    rw [List.foldl_cons]
    split
    · obtain ⟨more, hmore, hmem⟩ := ih kept
      exact ⟨more, hmore, fun other hother => List.mem_cons_of_mem _ (hmem other hother)⟩
    · obtain ⟨more, hmore, hmem⟩ := ih (kept ++ [name])
      refine ⟨name :: more, by rw [hmore, List.append_assoc, List.singleton_append], ?_⟩
      intro other hother
      obtain rfl | hother := List.mem_cons.1 hother
      · exact List.mem_cons_self
      · exact List.mem_cons_of_mem _ (hmem other hother)

/-- The chain of the date key starts with its primary name. -/
theorem dateKeyChain_eq (fields : FieldMapping) :
    ∃ others, fields.dateKeyChain = fields.dateKey :: others := by
  obtain ⟨more, hmore, -⟩ := exists_firstOccurrences fields.alternates [fields.dateKey]
  exact ⟨more, hmore⟩

theorem mem_of_mem_dateKeyChain {fields : FieldMapping} {name : FieldName}
    (h : name ∈ fields.dateKeyChain) : name ∈ fields.dateKey :: fields.alternates := by
  obtain ⟨more, hmore, hmem⟩ :=
    exists_firstOccurrences (fields.dateKey :: fields.alternates) []
  rw [FieldMapping.dateKeyChain, firstOccurrences, hmore] at h
  exact hmem name h

theorem keyClause_eq {fields : FieldMapping} {others : List FieldName} {start stop : Option Int}
    (hchain : fields.dateKeyChain = fields.dateKey :: others)
    (h : start.isSome = true ∨ stop.isSome = true) :
    keyClause fields start stop =
      [.within fields.dateKey (boundValue start) (boundValue stop) others] := by
  cases start with
  | some a => simp [keyClause, hchain]
  | none =>
    cases stop with
    | some b => simp [keyClause, hchain]
    | none => simp at h

/-- Bounds that are there and readable are compared with. -/
theorem exists_comparesKeys (fields : FieldMapping) (hgiven : bounds.isEmpty = false)
    (hread : unreadableBounds bounds = []) :
    ∃ p, keyClause fields (ordered bounds.keys).1 (ordered bounds.keys).2 = [p]
      ∧ bounds.ComparesKeys fields p := by
  obtain ⟨others, hchain⟩ := dateKeyChain_eq fields
  rcases ordered_keys_cases hgiven hread with
    ⟨a, b, ha, hb, hkeys⟩ | ⟨a, ha, hstop, hkeys⟩ | ⟨b, hstart, hb, hkeys⟩
  · rw [hkeys, keyClause_eq hchain (.inl rfl)]
    exact ⟨_, rfl, .both ha hb hchain⟩
  · rw [hkeys, keyClause_eq hchain (.inl rfl)]
    exact ⟨_, rfl, .start ha hstop hchain⟩
  · rw [hkeys, keyClause_eq hchain (.inr rfl)]
    exact ⟨_, rfl, .stop hstart hb hchain⟩

/-! ## §4 Listing days -/

/-- All that a range can come to where dates are texts. The last case is the only one with a clause,
and no case has a warning of its own. -/
inductive TextOutcome (fields : FieldMapping) (limit : DayLimit) :
    Option Int → Option Int → List Predicate × List Diagnostic × List LogEntry → Prop where
  | undated : TextOutcome fields limit none none ([], [], [])
  | openStart (b : Int) : TextOutcome fields limit none (some b) ([], [.openEnded], [])
  | openStop (a : Int) : TextOutcome fields limit (some a) none ([], [.openEnded], [])
  | notCalendar {a b : Int} :
    DateRange.spanDays (.int a) (.int b) = none →
    TextOutcome fields limit (some a) (some b) ([], [.notCalendar a b], [])
  | tooLarge {a b : Int} {span : Nat} :
    DateRange.spanDays (.int a) (.int b) = some span → limit.isExceededBy span = true →
    TextOutcome fields limit (some a) (some b) ([], [.tooLarge span limit], [])
  | days {d e : DateParts} {days : List DateParts} :
    d.isReal = true → e.isReal = true → limit.isExceededBy (d.daysApart e) = false →
    (∀ x, x ∈ days ↔ x.isReal = true ∧ x.IsBetween d e) →
    TextOutcome fields limit (some d.key) (some e.key)
      ([.member fields.dateText ((days.map DateParts.text).map .text)], [], [])

theorem textClause_cases (fields : FieldMapping) (limit : DayLimit) (start stop : Option Int) :
    TextOutcome fields limit start stop (textClause fields limit start stop) := by
  cases start with
  | none =>
    cases stop with
    | none => exact .undated
    | some b => exact .openStart b
  | some a =>
    cases stop with
    | none => exact .openStop a
    | some b =>
      cases hspan : DateRange.spanDays (.int a) (.int b) with
      | none =>
        simp only [textClause, hspan]
        exact .notCalendar hspan
      | some span =>
        cases hlimit : limit.isExceededBy span with
        | true =>
          simp only [textClause, hspan, hlimit, if_true]
          exact .tooLarge hspan hlimit
        | false =>
          -- Both tests are passed, so the range between two real days is written out.
          obtain ⟨d, e, hd, he, rfl, rfl, rfl⟩ := DateRange.spanDays_eq_some hspan
          obtain ⟨days, hdays, hclause⟩ := textClause_days fields hd he hlimit
          rw [hclause]
          exact .days hd he hlimit hdays

theorem TextOutcome.logs_eq_nil {fields : FieldMapping} {limit : DayLimit} {start stop : Option Int}
    {outcome : List Predicate × List Diagnostic × List LogEntry}
    (h : TextOutcome fields limit start stop outcome) : outcome.2.2 = [] := by
  cases h <;> rfl

/-- What is left out for another reason than an unreadable bound has another code. -/
theorem TextOutcome.code_ne {fields : FieldMapping} {limit : DayLimit} {start stop : Option Int}
    {outcome : List Predicate × List Diagnostic × List LogEntry}
    (h : TextOutcome fields limit start stop outcome) :
    ∀ d ∈ outcome.2.1, d.code ≠ "date_bound_unparseable" := by
  cases h <;> simp [Diagnostic.code]

/-- Bounds that are there and readable, and not left out for another reason, are written out. -/
theorem exists_listsDays {fields : FieldMapping} {limit : DayLimit}
    (hgiven : bounds.isEmpty = false) (hread : unreadableBounds bounds = [])
    (hnone : (textClause fields limit (ordered bounds.keys).1 (ordered bounds.keys).2).2.1 = []) :
    ∃ p, (textClause fields limit (ordered bounds.keys).1 (ordered bounds.keys).2).1 = [p]
      ∧ bounds.ListsDays fields p := by
  have hcases := textClause_cases fields limit (ordered bounds.keys).1 (ordered bounds.keys).2
  generalize textClause fields limit _ _ = outcome at hcases hnone ⊢
  rcases ordered_keys_cases hgiven hread with
    ⟨a, b, ha, hb, hkeys⟩ | ⟨a, -, -, hkeys⟩ | ⟨b, -, -, hkeys⟩
  · rw [hkeys] at hcases
    generalize hlow : min a b = low at hcases
    generalize hhigh : max a b = high at hcases
    cases hcases with
    | notCalendar => simp at hnone
    | tooLarge => simp at hnone
    | @days d e days hd he _ hdays =>
      refine ⟨_, rfl, ?_⟩
      -- The lower key is that of either bound, and days between two others know no order.
      rcases Int.le_total a b with hle | hle
      · rw [Int.min_eq_left hle] at hlow
        rw [Int.max_eq_right hle] at hhigh
        subst hlow hhigh
        exact .both hd he ha hb hdays
      · rw [Int.min_eq_right hle] at hlow
        rw [Int.max_eq_left hle] at hhigh
        subst hlow hhigh
        exact .both he hd ha hb fun x => by rw [hdays, DateParts.isBetween_comm]
  · -- A range with one bound only leads to a diagnostic.
    rw [hkeys] at hcases
    cases hcases
    simp at hnone
  · rw [hkeys] at hcases
    cases hcases
    simp at hnone

/-! ## §5 The filter -/

/-- A clause that keeps to every bound of the date selection that is there, in the way that suits what
the features carry. -/
def DateBounds.EnforcedBy (bounds : DateBounds) (fields : FieldMapping) (hasDateKey : Bool)
    (p : Predicate) : Prop :=
  if hasDateKey then bounds.ComparesKeys fields p else bounds.ListsDays fields p

theorem DateBounds.EnforcedBy.isAboutDates {fields : FieldMapping} {hasDateKey : Bool}
    {p : Predicate} (h : bounds.EnforcedBy fields hasDateKey p) : p.isAboutDates = true := by
  cases hasDateKey with
  | true => exact DateBounds.ComparesKeys.isAboutDates h
  | false => exact DateBounds.ListsDays.isAboutDates h

/-- Without diagnostics, the date selection has a clause that keeps to all bounds. -/
theorem dateClause_enforces {fields : FieldMapping} {limit : DayLimit} {hasDateKey : Bool}
    (hgiven : bounds.isEmpty = false)
    (hnone : (dateClause fields limit hasDateKey (some bounds)).2.1 = []) :
    ∃ p, (dateClause fields limit hasDateKey (some bounds)).1 = [p]
      ∧ bounds.EnforcedBy fields hasDateKey p := by
  simp only [dateClause, hgiven, Bool.false_eq_true, if_false] at hnone ⊢
  cases hasDateKey with
  | true =>
    simp only [if_true] at hnone ⊢
    exact exists_comparesKeys fields hgiven hnone
  | false =>
    simp only [Bool.false_eq_true, if_false, List.append_eq_nil_iff] at hnone ⊢
    exact exists_listsDays hgiven hnone.1 hnone.2

/-- Unreadable bounds are reported first, each once, and other diagnostics have other codes. -/
theorem dateClause_diagnostics (fields : FieldMapping) (limit : DayLimit) (hasDateKey : Bool)
    (hgiven : bounds.isEmpty = false) :
    ∃ others, (dateClause fields limit hasDateKey (some bounds)).2 =
        (unreadableBounds bounds ++ others, [])
      ∧ ∀ d ∈ others, d.code ≠ "date_bound_unparseable" := by
  simp only [dateClause, hgiven, Bool.false_eq_true, if_false]
  cases hasDateKey with
  | true => exact ⟨[], by simp, by simp⟩
  | false =>
    have hcases := textClause_cases fields limit (ordered bounds.keys).1 (ordered bounds.keys).2
    exact ⟨_, Prod.ext rfl hcases.logs_eq_nil, hcases.code_ne⟩

theorem filter_code_eq {others : List Diagnostic}
    (h : ∀ d ∈ others, d.code ≠ "date_bound_unparseable") :
    (unreadableBounds bounds ++ others).filter (·.code == "date_bound_unparseable") =
      unreadableBounds bounds := by
  have hothers : others.filter (·.code == "date_bound_unparseable") = [] := by
    simpa [List.filter_eq_nil_iff] using h
  rw [List.filter_append, hothers, List.append_nil, List.filter_eq_self]
  intro d hd
  rw [unreadableBounds_eq] at hd
  simp only [List.mem_append, List.mem_ite_nil_right, List.mem_singleton] at hd
  rcases hd with ⟨-, rfl⟩ | ⟨-, rfl⟩ <;> rfl

theorem compile_eq (fields : FieldMapping) (limit : DayLimit) (state : FilterState)
    (capability : Capability) :
    compile fields limit state capability =
      { clauses := selectorClause fields.branch state.branch
          ++ selectorClause fields.group state.group
          ++ (dateClause fields limit capability.hasDateKey state.dates).1
        diagnostics := (dateClause fields limit capability.hasDateKey state.dates).2.1
        logs := (dateClause fields limit capability.hasDateKey state.dates).2.2
          ++ (dateClause fields limit capability.hasDateKey state.dates).2.1.map
            Diagnostic.logEntry } := rfl

/-- Where the setting of the limit is a number, selections with a bound of dates always compile. The
filter has a clause about dates or the diagnostics say why not, and without diagnostics the clause
keeps to every bound that is there. A bound that cannot be read is reported once, whatever the
features carry. There is one warning for each diagnostic and no other one, since a range that is
written out has passed the same tests before. -/
theorem compile_accounts_for_dates {state : FilterState} (hdates : state.dates = some bounds)
    (hgiven : bounds.isEmpty = false) (fields : FieldMapping) (limit : DayLimit)
    (capability : Capability) :
    let compiled := compile fields limit state capability
    compile? fields (some limit) state capability = some compiled
      ∧ ((∀ p ∈ compiled.clauses, p.isAboutDates = false) → compiled.diagnostics ≠ [])
      ∧ (compiled.diagnostics = [] → ∃ p, bounds.EnforcedBy fields capability.hasDateKey p
        ∧ compiled.clauses = selectorClause fields.branch state.branch
          ++ selectorClause fields.group state.group ++ [p])
      ∧ compiled.diagnostics.filter (·.code == "date_bound_unparseable") =
        (if bounds.start.isUnreadableBound then [.unreadableStart bounds.start] else [])
          ++ (if bounds.stop.isUnreadableBound then [.unreadableStop bounds.stop] else [])
      ∧ compiled.logs = compiled.diagnostics.map
        (fun d => .warning "wlheat.compiler" (d.code ++ ": " ++ d.message))
      ∧ ∀ a b span, ordered bounds.keys = (some a, some b) →
        DateRange.spanDays (.int a) (.int b) = some span → limit.isExceededBy span = false →
        ∃ first rest, DateRange.enumerate (.int a) (.int b) limit = .ok (first :: rest) := by
  intro compiled
  have hcompiled : compiled = compile fields limit state capability := rfl
  obtain ⟨others, hdiagnostics, hcodes⟩ :=
    dateClause_diagnostics fields limit capability.hasDateKey hgiven
  rw [compile_eq, hdates] at hcompiled
  have henforced : compiled.diagnostics = [] →
      ∃ p, bounds.EnforcedBy fields capability.hasDateKey p
        ∧ compiled.clauses = selectorClause fields.branch state.branch
          ++ selectorClause fields.group state.group ++ [p] := by
    intro hnone
    rw [hcompiled] at hnone
    obtain ⟨p, hclause, hp⟩ := dateClause_enforces hgiven hnone
    exact ⟨p, hp, by rw [hcompiled, hclause]⟩
  refine ⟨rfl, ?_, henforced, ?_, ?_, ?_⟩
  · -- The clause that is there without diagnostics is one about dates.
    intro hundated hnone
    obtain ⟨p, hp, hclauses⟩ := henforced hnone
    have hfalse := hundated p (by simp [hclauses])
    rw [hp.isAboutDates] at hfalse
    cases hfalse
  · rw [hcompiled, hdiagnostics, filter_code_eq hcodes, unreadableBounds_eq]
  · rw [hcompiled, hdiagnostics]
    rfl
  · intro a b span _ hspan hlimit
    exact DateRange.exists_enumerate_eq hspan hlimit

/-- A start in the order of another country and a stop that is left alone: both are reported, and
there is no clause about dates. -/
theorem compile_accounts_for_dates_day_first :
    let bounds : DateBounds := ⟨.text "31/12/2023", .text "3/1/2024"⟩
    let state : FilterState := { branch := .exact "Bryan", dates := some bounds }
    let compiled := compile {} (.days 370) state {}
    (state.dates = some bounds ∧ bounds.isEmpty = false)
      ∧ compiled.diagnostics = [.unreadableStart (.text "31/12/2023"), .openEnded]
      ∧ compiled.diagnostics.filter (·.code == "date_bound_unparseable") =
        [.unreadableStart (.text "31/12/2023")]
      ∧ compiled.logs.length = 2
      ∧ compiled.clauses = [.equals (.text "BranchName") (.text "Bryan")] := by
  intro bounds state compiled
  have hmain := compile_accounts_for_dates (rfl : state.dates = some bounds) (by decide) {}
    (.days 370) {}
  refine ⟨⟨rfl, by decide⟩, by decide, hmain.2.2.2.1.trans (by decide), ?_, by decide⟩
  rw [hmain.2.2.2.2.1, List.length_map]
  decide

end MapFilter
