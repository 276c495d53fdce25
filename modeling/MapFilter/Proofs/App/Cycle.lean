import MapFilter.App.Basic
import MapFilter.Proofs.Compilation.Diagnostics

/-!
# What a filter cycle comes to

A filter cycle finds out what the features carry, and its report depends on its state in no other
way. Writing the report to the layers adds nothing to it but how that went.

- `compile_isExpression`: compiled selections can always be written
- `FilterService.reportOf`: the report for what the features carry
- `App.preview_eq`, `App.apply_eq`: a cycle in terms of it
-/

namespace MapFilter

/-! ## §1 Compiled selections -/

theorem Predicate.isSome_toExpressions {parts : List Predicate}
    (h : ∀ p ∈ parts, p.toExpression?.isSome = true) : (toExpressions? parts).isSome = true := by
  induction parts with
  | nil => rfl
  | cons p rest ih =>
    obtain ⟨e, he⟩ := Option.isSome_iff_exists.1 (h p List.mem_cons_self)
    obtain ⟨es, hes⟩ := Option.isSome_iff_exists.1
      (ih fun q hq => h q (List.mem_cons_of_mem _ hq))
    simp [toExpressions?, he, hes]

theorem isSome_toExpression_of_isAboutDates {p : Predicate} (h : p.isAboutDates = true) :
    p.toExpression?.isSome = true := by
  cases p with
  | within => simp only [Predicate.toExpression?]; split <;> rfl
  | member => simp only [Predicate.toExpression?]; split <;> rfl
  | _ => cases h

/-- The clause of a date selection, where there is one, is about dates. -/
theorem isAboutDates_of_mem_dateClause {fields : FieldMapping} {limit : DayLimit}
    {hasDateKey : Bool} {dates : Option DateBounds} {p : Predicate}
    (h : p ∈ (dateClause fields limit hasDateKey dates).1) : p.isAboutDates = true := by
  unfold dateClause at h
  split at h
  · simp at h
  rename_i bounds
  split at h
  · simp at h
  cases hasDateKey with
  | true =>
    simp only [if_true, keyClause] at h
    split at h
    · simp at h
    · simp at h
    · rw [List.mem_singleton.1 h]
      rfl
  | false =>
    simp only [Bool.false_eq_true, if_false] at h
    have hcases := textClause_cases fields limit (ordered bounds.keys).1 (ordered bounds.keys).2
    generalize textClause fields limit _ _ = outcome at hcases h
    generalize (ordered bounds.keys).1 = low at hcases
    generalize (ordered bounds.keys).2 = high at hcases
    cases hcases with
    | days =>
      rw [List.mem_singleton.1 h]
      rfl
    | _ => simp at h

theorem isSome_toExpression_of_mem_selectorClause {field : FieldName} {s : Selector} {p : Predicate}
    (h : p ∈ selectorClause field s) : p.toExpression?.isSome = true := by
  cases s with
  | any => simp [selectorClause, Selector.text?] at h
  | exact text =>
    simp only [selectorClause, Selector.text?, List.mem_singleton] at h
    rw [h]
    rfl

/-- Compiled selections can always be written as an expression. -/
theorem compile_isExpression (fields : FieldMapping) (limit : DayLimit) (state : FilterState)
    (capability : Capability) :
    ∃ e, (compile fields limit state capability).predicate.toExpression? = some e := by
  rw [← Option.isSome_iff_exists, Compiled.predicate, Predicate.toExpression?, Option.isSome_map]
  refine Predicate.isSome_toExpressions fun p hp => ?_
  rw [compile_eq] at hp
  simp only [List.mem_append] at hp
  -- Its clauses are equalities and clauses about dates, never one without a written form.
  obtain (hbranch | hgroup) | hdates := hp
  · exact isSome_toExpression_of_mem_selectorClause hbranch
  · exact isSome_toExpression_of_mem_selectorClause hgroup
  · exact isSome_toExpression_of_isAboutDates (isAboutDates_of_mem_dateClause hdates)

/-- Without a limit, selections compile as for any limit, or not at all. -/
theorem exists_compile_of_compile? {fields : FieldMapping} {limit : Option DayLimit}
    {state : FilterState} {capability : Capability} {compiled : Compiled}
    (h : compile? fields limit state capability = some compiled) :
    ∃ limit, compiled = compile fields limit state capability := by
  unfold compile? at h
  split at h
  · exact ⟨_, (Option.some.inj h).symm⟩
  · split at h
    · cases h
    · exact ⟨_, (Option.some.inj h).symm⟩

/-! ## §2 Answers of the probe -/

namespace Probe

variable {σ : Type} {probe : Probe} {provider : SampleProvider σ} {source generation : ProbeKey}
  {refresh : Bool} {s : σ}

theorem exists_inspect (hfields : ∀ field ∈ probe.fields, field.isKey = true)
    (records : List Record) : ∃ c, probe.inspect records = .ok c := by
  unfold inspect
  split
  · exact ⟨_, rfl⟩
  · have hnone : (probe.fields.find? fun field => !field.isKey) = none := by
      simpa using hfields
    rw [hnone]
    exact ⟨_, rfl⟩

/-- A probe whose fields are keys answers about every source and generation that are keys. -/
theorem exists_get (hfields : ∀ field ∈ probe.fields, field.isKey = true)
    (hsource : source.isKey = true) (hgeneration : generation.isKey = true) :
    ∃ c, (probe.get provider source generation refresh s).capability = .ok c := by
  obtain ⟨remembered, hcached⟩ : ∃ remembered, probe.cached source generation = .ok remembered := by
    simp [cached, hsource, hgeneration]
  have hrenew : ∃ c, (probe.renew provider source generation s).capability = .ok c := by
    obtain ⟨c, hc⟩ : ∃ c, probe.inspectSample (provider source.value s).1 = .ok c := by
      cases (provider source.value s).1 with
      | records rs => exact exists_inspect hfields rs
      | failed message => exact ⟨_, rfl⟩
    simp only [renew, detect, hc, hcached]
    split <;> exact ⟨_, rfl⟩
  unfold get
  split
  · exact hrenew
  · cases remembered with
    | none => simpa only [hcached] using hrenew
    | some c => exact ⟨c, by rw [hcached]⟩

/-- Looking changes what is remembered, and not what is looked at. -/
theorem fields_get : (probe.get provider source generation refresh s).probe.fields = probe.fields := by
  have hrenew : (probe.renew provider source generation s).probe.fields = probe.fields := by
    unfold renew
    split
    · rfl
    · split
      · rfl
      · split <;> rfl
  unfold get
  split
  · exact hrenew
  · split
    · rfl
    · rfl
    · exact hrenew

end Probe

/-! ## §3 Reports -/

namespace FilterService

variable (service : FilterService)

/-- The report for what the features carry, or why there is none. -/
def reportOf (state : FilterState) : Except NoKey Capability → Except FilterError ApplyReport
  | .error e => .error (.probe e)
  | .ok capability =>
    match compile? service.fields service.limit state capability with
    | some compiled => .ok (service.report state capability compiled)
    | none => .error .noLimit

/-- What is reported on can be written, and its fields are those of the chosen metric. -/
theorem reportOf_isExpression {service : FilterService} {state : FilterState}
    {answer : Except NoKey Capability} {report : ApplyReport}
    (h : service.reportOf state answer = .ok report) :
    (∃ e, report.predicate.toExpression? = some e ∧ report.filter = e.toValue) ∧
      report.metricFields = service.metrics.fieldNames state.metric := by
  cases answer with
  | error e => cases h
  | ok capability =>
    simp only [reportOf] at h
    split at h
    · rename_i compiled hcompiled
      cases h
      obtain ⟨limit, rfl⟩ := exists_compile_of_compile? hcompiled
      obtain ⟨e, he⟩ := compile_isExpression service.fields limit state capability
      exact ⟨⟨e, he, by simp only [ApplyReport.filter, report, he]⟩, rfl⟩
    · cases h

/-- A report with how writing it to the layers of a style went. -/
def written (style : Style) (report : ApplyReport) : Except FilterError ApplyReport :=
  match (service.synchronize report.predicate report.metricFields style).1 with
  | .ok sync => .ok { report with sync := some sync }
  | .error e => .error (.sync e)

/-- The style with a report written to its layers, if there is one. -/
def writtenStyle (style : Style) : Except FilterError ApplyReport → Style
  | .error _ => style
  | .ok report => (service.synchronize report.predicate report.metricFields style).2.2

end FilterService

/-! ## §4 Cycles -/

namespace App

/-- Compiles selections and writes the result to every layer. -/
def apply (app : App) (state : FilterState) (s : ServiceState Store) :
    Except FilterError ApplyReport × ServiceState Store :=
  let (report, _, s) := app.service.apply app.provider ⟨generation s, 0⟩ state s
  (report, s)

variable (app : App) (state : FilterState) (s : ServiceState Store)

/-- A preview reports on what the probe answers. -/
theorem preview_eq :
    app.preview state s =
      (app.service.reportOf state (app.capability false s).1, (app.capability false s).2) := by
  unfold preview capability FilterService.preview FilterService.reportOf
  obtain ⟨answer, logs, s'⟩ := app.service.capability app.provider ⟨generation s, 0⟩ false s
  cases answer with
  | error e => rfl
  | ok capability =>
    dsimp only
    cases compile? app.service.fields app.service.limit state capability <;> rfl

/-- Applying reports the same as a preview, and writes it. -/
theorem apply_eq :
    app.apply state s =
      ((app.preview state s).1.bind (app.service.written (app.preview state s).2.style),
        { (app.preview state s).2 with
          style := app.service.writtenStyle (app.preview state s).2.style
            (app.preview state s).1 }) := by
  unfold apply preview FilterService.apply
  obtain ⟨report, logs, s'⟩ := app.service.preview app.provider ⟨generation s, 0⟩ state s
  cases report with
  | error e => rfl
  | ok report =>
    -- The style is that of the write even where the write comes to an error.
    unfold Except.bind FilterService.written FilterService.writtenStyle
    generalize app.service.synchronize report.predicate report.metricFields s'.style = outcome
    obtain ⟨sync, syncLogs, style⟩ := outcome
    cases sync <;> rfl

/-! ## §5 What a cycle leaves as it was -/

/-- From one state to another in which the layers show the same. -/
structure ShowsSame (s s' : ServiceState Store) : Prop where
  style_eq : s'.style = s.style
  fields_eq : s'.probe.fields = s.probe.fields

theorem showsSame_capability (refresh : Bool) : ShowsSame s (app.capability refresh s).2 :=
  ⟨rfl, Probe.fields_get⟩

theorem showsSame_preview : ShowsSame s (app.preview state s).2 := by
  rw [preview_eq]
  exact app.showsSame_capability s false

theorem showsSame_reload : ShowsSame s (app.reload s).2 := by
  unfold reload
  split
  · exact ⟨rfl, rfl⟩
  · exact ⟨rfl, Probe.fields_get⟩

end App

end MapFilter
