import MapFilter.Proofs.App.Cycle

/-!
# What a probe remembers

A probe is asked about sources, looks without being asked, and is told to forget, all in any order
and any number of times; at every call its provider may have records, have none or fail. What it
remembers can be told from outside, by the calls that its provider receives and by its answers.

- `SampleProvider.recorded`: a provider that writes down its calls
- `ProbeEvent`, `ProbeRun.run`: what happens to a probe, and marks of what was found and forgotten
- `lastFinding`: the last finding about a source that was not forgotten since
- `ProbeRun.Reflects`: what is remembered of a source is its last finding, and nothing else
-/

namespace MapFilter

variable {σ : Type}

/-! ## §1 Calls of the provider -/

/-- The calls of a provider: the source that it was asked for, and what it had. -/
abbrev SampleCalls := List (Value × Sample)

/-- The provider, writing down its calls. -/
def SampleProvider.recorded (provider : SampleProvider σ) : SampleProvider (σ × SampleCalls) :=
  fun source s =>
    let (sample, next) := provider source s.1
    (sample, next, s.2 ++ [(source, sample)])

/-- Whether there are records in a sample. -/
def Sample.isInformative : Sample → Bool
  | .records rs => !rs.isEmpty
  | .failed _ => false

/-- A key under which something can be remembered. -/
abbrev Generation := { key : ProbeKey // key.isKey = true }

/-- Sources are texts. -/
def sourceKey (source : String) : ProbeKey :=
  ⟨.text source, 0⟩

/-! ## §2 Events and marks -/

/-- What happens to a probe. -/
inductive ProbeEvent where
  | get (source : String) (generation : Generation) (refresh : Bool)
  | detect (source : String)
  | invalidate (source : Option String)

/-- What can be told of the past of a probe. -/
inductive ProbeMark where
  /-- The probe was asked, its provider had records, and this was the answer. -/
  | found (source : String) (generation : ProbeKey) (capability : Capability)
  /-- The probe was told to forget one source, or all of them. -/
  | cleared (source : Option String)

/-- The last finding about a source that was not cleared since; the newest mark comes first. -/
def lastFinding (source : String) : List ProbeMark → Option (ProbeKey × Capability)
  | [] => none
  | .found other generation capability :: earlier =>
    if other = source then some (generation, capability) else lastFinding source earlier
  | .cleared other :: earlier =>
    if other = none ∨ other = some source then none else lastFinding source earlier

/-- The mark that a question leaves: none unless the provider was called and had records. -/
def marksOfGet (source : String) (generation : ProbeKey) (calls : SampleCalls) :
    Except NoKey Capability → List ProbeMark
  | .ok capability =>
    if calls.any (·.2.isInformative) then [.found source generation capability] else []
  | .error _ => []

/-- A probe and its provider in the course of events, with the marks so far. -/
structure ProbeRun (σ : Type) where
  probe : Probe
  provider : σ
  marks : List ProbeMark := []

namespace ProbeRun

/-- The probe is asked, and the calls of its provider are written down. -/
def get (provider : SampleProvider σ) (r : ProbeRun σ) (source : String) (generation : Generation)
    (refresh : Bool) : Probe.Answer (σ × SampleCalls) :=
  r.probe.get provider.recorded (sourceKey source) generation refresh (r.provider, [])

def step (provider : SampleProvider σ) (r : ProbeRun σ) : ProbeEvent → ProbeRun σ
  | .get source generation refresh =>
    let answer := r.get provider source generation refresh
    { probe := answer.probe
      provider := answer.provider.1
      marks := marksOfGet source generation answer.provider.2 answer.capability ++ r.marks }
  | .detect source =>
    { r with provider := (r.probe.detect provider (.text source) r.provider).2.2 }
  | .invalidate source =>
    { r with
      probe := r.probe.invalidate (source.map .text)
      marks := .cleared source :: r.marks }

def run (provider : SampleProvider σ) (r : ProbeRun σ) (events : List ProbeEvent) : ProbeRun σ :=
  events.foldl (step provider) r

end ProbeRun

/-- Whether an event may change what is remembered of a source. A mere look changes nothing. -/
def ProbeEvent.Concerns (source : String) : ProbeEvent → Prop
  | .get other _ _ => other = source
  | .detect _ => False
  | .invalidate other => other = none ∨ other = some source

/-- What is remembered of a source, for whatever generation. -/
def Probe.entriesOf (probe : Probe) (source : String) : List ProbeEntry :=
  probe.cache.filter (·.source.value.same (.text source))

/-! ## §3 Entries of a source -/

theorem Value.same_text_right_iff {v : Value} {a : String} :
    v.same (.text a) = true ↔ v = .text a := by
  cases v <;> simp [Value.same, Value.toExact?]

theorem ProbeEntry.isFor_sourceKey (source : String) (generation : ProbeKey) (e : ProbeEntry) :
    e.isFor (sourceKey source) generation =
      (e.source.value.same (.text source) && e.generation.isSame generation) := by
  have hsource : e.source.isSame (sourceKey source) = e.source.value.same (.text source) := by
    -- Keys that were given together are equal in value, as long as the value is a text.
    rw [Bool.eq_iff_iff, ProbeKey.isSame, Bool.or_eq_true, decide_eq_true_iff]
    constructor
    · rintro (h | h)
      · exact h
      · exact Value.same_text_right_iff.2 (congrArg ProbeKey.value h)
    · exact Or.inl
  rw [ProbeEntry.isFor, hsource]

namespace Probe

variable {probe : Probe} {source other : String}

theorem find?_isFor (generation : ProbeKey) :
    probe.cache.find? (ProbeEntry.isFor (sourceKey source) generation) =
      (probe.entriesOf source).find? (·.generation.isSame generation) := by
  have hfor : ProbeEntry.isFor (sourceKey source) generation = fun e =>
      e.source.value.same (.text source) && e.generation.isSame generation :=
    funext (ProbeEntry.isFor_sourceKey source generation)
  rw [hfor, entriesOf, List.find?_filter]
  simp only [Bool.decide_and, Bool.decide_eq_true]

theorem cached_sourceKey (generation : Generation) :
    probe.cached (sourceKey source) generation =
      .ok (((probe.entriesOf source).find? (·.generation.isSame generation)).map
        ProbeEntry.capability) := by
  have hsource : (sourceKey source).isKey = true := rfl
  simp [cached, hsource, generation.2, find?_isFor]

theorem entriesOf_invalidate :
    (probe.invalidate (some (.text other))).entriesOf source =
      if other = source then [] else probe.entriesOf source := by
  simp only [entriesOf, invalidate, List.filter_filter]
  split
  · next h =>
    subst h
    simp
  · next h =>
    apply List.filter_congr
    intro e _
    -- An entry of one source is none of another.
    cases hsame : e.source.value.same (.text source) with
    | false => rfl
    | true =>
      have hvalue := Value.same_text_right_iff.1 hsame
      simp [hvalue, Value.same, Ne.symm h]

/-- Remembering evicts the entries of the source and adds one; nothing else is evicted. -/
theorem cache_remember (generation : ProbeKey) (capability : Capability) :
    (probe.remember (sourceKey source) generation capability).cache =
      (probe.invalidate (some (.text source))).cache ++
        [⟨sourceKey source, generation, capability⟩] := by
  simp only [remember, invalidate, sourceKey, List.filter_filter]
  congr 1
  apply List.filter_congr
  intro e _
  have hfor := ProbeEntry.isFor_sourceKey source generation e
  rw [sourceKey] at hfor
  cases hsame : e.source.value.same (.text source) <;> simp [hfor, hsame]

theorem entriesOf_remember (generation : ProbeKey) (capability : Capability) :
    (probe.remember (sourceKey other) generation capability).entriesOf source =
      if other = source then [⟨sourceKey other, generation, capability⟩]
      else probe.entriesOf source := by
  have hforgotten : (probe.invalidate (some (.text other))).entriesOf source =
      if other = source then [] else probe.entriesOf source := entriesOf_invalidate
  rw [entriesOf] at hforgotten ⊢
  rw [cache_remember, List.filter_append, hforgotten]
  have hnew : (sourceKey other).value.same (.text source) = decide (other = source) := by
    rw [Bool.eq_iff_iff, decide_eq_true_iff]
    exact Value.same_text_right_iff.trans (by rw [sourceKey, Value.text.injEq])
  simp only [List.filter_cons, List.filter_nil, hnew, decide_eq_true_eq]
  split
  · rfl
  · rw [List.append_nil]

end Probe

/-! ## §4 How a question goes -/

/-- How a question about a source goes, given what is remembered of the source and what the provider
would have. -/
inductive GetOutcome (probe : Probe) (source : String) (generation : ProbeKey) (refresh : Bool)
    (s next : σ) (sample : Sample) : Probe.Answer (σ × SampleCalls) → Prop where
  /-- The answer is remembered. -/
  | kept (e : ProbeEntry) (hrefresh : refresh = false)
    (hfind : (probe.entriesOf source).find? (·.generation.isSame generation) = some e) :
    GetOutcome probe source generation refresh s next sample
      ⟨.ok e.capability, [], probe, (s, [])⟩
  /-- The provider is called and has no records. -/
  | unseen (logs : List LogEntry)
    (hmiss : refresh = true ∨
      (probe.entriesOf source).find? (·.generation.isSame generation) = none)
    (hsample : sample.isInformative = false) :
    GetOutcome probe source generation refresh s next sample
      ⟨.ok .unknown, logs, probe, (next, [(.text source, sample)])⟩
  /-- The provider is called and has records. -/
  | seen (capability : Capability) (logs : List LogEntry)
    (hmiss : refresh = true ∨
      (probe.entriesOf source).find? (·.generation.isSame generation) = none)
    (hsample : sample.isInformative = true) (hsampled : capability.sampled = true) :
    GetOutcome probe source generation refresh s next sample
      ⟨.ok capability, logs, probe.remember (sourceKey source) generation capability,
        (next, [(.text source, sample)])⟩

namespace Probe

variable {probe : Probe}

/-- A look says something if the sample has records, and only then. -/
theorem inspectSample_cases (hfields : ∀ field ∈ probe.fields, field.isKey = true)
    (hsize : 0 < probe.sampleSize) (sample : Sample) :
    (sample.isInformative = false ∧ probe.inspectSample sample = .ok .unknown) ∨
      ∃ c, sample.isInformative = true ∧ c.sampled = true ∧
        probe.inspectSample sample = .ok c := by
  cases sample with
  | failed message => exact .inl ⟨rfl, rfl⟩
  | records rs =>
    cases rs with
    | nil => exact .inl ⟨rfl, by simp [inspectSample, inspect]⟩
    | cons r rest =>
      right
      have hnone : (probe.fields.find? fun field => !field.isKey) = none := by
        simpa using hfields
      obtain ⟨size, hsucc⟩ : ∃ size, probe.sampleSize = size + 1 :=
        ⟨_, (Nat.succ_pred_eq_of_pos hsize).symm⟩
      simp only [inspectSample, inspect, hsucc, List.take_succ_cons, hnone]
      exact ⟨_, rfl, rfl, rfl⟩

/-- A question that is not answered from memory. -/
theorem renew_cases (hfields : ∀ field ∈ probe.fields, field.isKey = true)
    (hsize : 0 < probe.sampleSize) (provider : SampleProvider σ) (source : String)
    (generation : Generation) {refresh : Bool} (s : σ)
    (hmiss : refresh = true ∨
      (probe.entriesOf source).find? (·.generation.isSame generation) = none) :
    GetOutcome probe source generation refresh s (provider (.text source) s).2
      (provider (.text source) s).1
      (probe.renew provider.recorded (sourceKey source) generation (s, [])) := by
  have hdetect : probe.detect provider.recorded (sourceKey source).value (s, []) =
      (probe.inspectSample (provider (.text source) s).1,
        sampleLogs (.text source) (provider (.text source) s).1,
        ((provider (.text source) s).2, [(.text source, (provider (.text source) s).1)])) := rfl
  rw [renew, hdetect]
  generalize (provider (.text source) s).1 = sample
  obtain ⟨hsample, hlook⟩ | ⟨c, hsample, hsampled, hlook⟩ :=
    inspectSample_cases hfields hsize sample
  · simp only [hlook]
    exact .unseen _ hmiss hsample
  · simp only [hlook, hsampled, Bool.not_true, Bool.false_eq_true, if_false, cached_sourceKey]
    exact .seen c _ hmiss hsample hsampled

theorem get_cases (hfields : ∀ field ∈ probe.fields, field.isKey = true)
    (hsize : 0 < probe.sampleSize) (provider : SampleProvider σ) (source : String)
    (generation : Generation) (refresh : Bool) (s : σ) :
    GetOutcome probe source generation refresh s (provider (.text source) s).2
      (provider (.text source) s).1
      (probe.get provider.recorded (sourceKey source) generation refresh (s, [])) := by
  rw [get]
  cases refresh with
  | true => exact renew_cases hfields hsize provider source generation s (.inl rfl)
  | false =>
    simp only [Bool.false_eq_true, if_false, cached_sourceKey]
    cases hfind : (probe.entriesOf source).find? (·.generation.isSame generation) with
    | none => exact renew_cases hfields hsize provider source generation s (.inr hfind)
    | some e => exact .kept e rfl hfind

/-- Writing down the calls of the provider changes nothing else. -/
theorem get_recorded (provider : SampleProvider σ) (source generation : ProbeKey) (refresh : Bool)
    (s : σ) (calls : SampleCalls) :
    let answer := probe.get provider source generation refresh s
    ∃ more, probe.get provider.recorded source generation refresh (s, calls) =
      ⟨answer.capability, answer.logs, answer.probe, (answer.provider, calls ++ more)⟩ := by
  have hrenew : ∃ more, probe.renew provider.recorded source generation (s, calls) =
      ⟨(probe.renew provider source generation s).capability,
        (probe.renew provider source generation s).logs,
        (probe.renew provider source generation s).probe,
        ((probe.renew provider source generation s).provider, calls ++ more)⟩ := by
    refine ⟨[(source.value, (provider source.value s).1)], ?_⟩
    simp only [renew, detect, SampleProvider.recorded]
    generalize provider source.value s = outcome
    cases probe.inspectSample outcome.1 with
    | error e => rfl
    | ok capability =>
      dsimp only
      cases capability.sampled with
      | false => rfl
      | true => cases probe.cached source generation <;> rfl
  simp only [get]
  split
  · exact hrenew
  · split
    · exact ⟨[], by simp⟩
    · exact ⟨[], by simp⟩
    · exact hrenew

end Probe

/-! ## §5 What is remembered -/

namespace ProbeRun

variable {r : ProbeRun σ} {provider : SampleProvider σ}

/-- What is remembered is, for each source, its last finding that was not forgotten since. -/
structure Reflects (r : ProbeRun σ) : Prop where
  fields : ∀ field ∈ r.probe.fields, field.isKey = true
  sampleSize : 0 < r.probe.sampleSize
  entries : ∀ source, r.probe.entriesOf source =
    ((lastFinding source r.marks).map fun finding =>
      ⟨sourceKey source, finding.1, finding.2⟩).toList
  informed : ∀ e ∈ r.probe.cache,
    e.capability.sampled = true ∧ ∃ source, e.source = sourceKey source

theorem Reflects.get_cases (h : r.Reflects) (provider : SampleProvider σ) (source : String)
    (generation : Generation) (refresh : Bool) :
    GetOutcome r.probe source generation refresh r.provider
      (provider (.text source) r.provider).2 (provider (.text source) r.provider).1
      (r.get provider source generation refresh) :=
  Probe.get_cases h.fields h.sampleSize provider source generation refresh r.provider

/-- An event that does not concern a source leaves what is remembered of it as it is. -/
theorem Reflects.entriesOf_step (h : r.Reflects) {e : ProbeEvent} {source : String}
    (he : ¬ e.Concerns source) :
    (step provider r e).probe.entriesOf source = r.probe.entriesOf source := by
  cases e with
  | get other generation refresh =>
    have hcases := h.get_cases provider other generation refresh
    simp only [step]
    generalize r.get provider other generation refresh = answer at hcases
    cases hcases with
    | kept => rfl
    | unseen => rfl
    | seen capability =>
      have hother : other ≠ source := he
      simp only [Probe.entriesOf_remember, hother, if_false]
  | detect other => rfl
  | invalidate other =>
    cases other with
    | none => exact absurd (.inl rfl) he
    | some other =>
      have hother : other ≠ source := fun heq => he (.inr (congrArg some heq))
      simp only [step, Option.map_some, Probe.entriesOf_invalidate, hother, if_false]

/-- One event keeps memory and marks in step. -/
theorem Reflects.step (h : r.Reflects) (e : ProbeEvent) : (step provider r e).Reflects := by
  cases e with
  | get other generation refresh =>
    have hcases := h.get_cases provider other generation refresh
    simp only [ProbeRun.step]
    generalize r.get provider other generation refresh = answer at hcases
    cases hcases with
    | kept => exact ⟨h.fields, h.sampleSize, h.entries, h.informed⟩
    | unseen logs _ hsample =>
      simp only [marksOfGet, List.any_cons, List.any_nil, hsample, Bool.or_false,
        Bool.false_eq_true, if_false, List.nil_append]
      exact ⟨h.fields, h.sampleSize, h.entries, h.informed⟩
    | seen capability logs _ hsample hsampled =>
      simp only [marksOfGet, List.any_cons, hsample, Bool.true_or, if_true, List.singleton_append]
      refine ⟨h.fields, h.sampleSize, fun source => ?_, fun e he => ?_⟩
      · rw [Probe.entriesOf_remember, lastFinding]
        split
        · next heq =>
          subst heq
          rfl
        · exact h.entries source
      · rw [Probe.cache_remember, List.mem_append, List.mem_singleton] at he
        obtain hold | rfl := he
        · exact h.informed e (List.mem_filter.1 hold).1
        · exact ⟨hsampled, other, rfl⟩
  | detect other => exact ⟨h.fields, h.sampleSize, h.entries, h.informed⟩
  | invalidate other =>
    cases other with
    | none => exact ⟨h.fields, h.sampleSize, fun source => rfl, fun e he => nomatch he⟩
    | some other =>
      refine ⟨h.fields, h.sampleSize, fun source => ?_, fun e he => ?_⟩
      · simp only [ProbeRun.step, Option.map_some, Probe.entriesOf_invalidate, lastFinding,
          reduceCtorEq, false_or, Option.some.injEq]
        split
        · rfl
        · exact h.entries source
      · exact h.informed e (List.mem_filter.1 he).1

theorem Reflects.run (h : r.Reflects) (events : List ProbeEvent) :
    (run provider r events).Reflects := by
  induction events generalizing r with
  | nil => exact h
  | cons e rest ih => exact ih (h.step e)

/-- A probe that was not asked yet. -/
theorem reflects_start {field : FieldName} {alternates : List FieldName}
    (hfields : ∀ name ∈ field :: alternates, name.isKey = true) (size : Int) (s : σ) :
    Reflects { probe := .make field alternates size, provider := s } := by
  have hsize : 0 < max size.toNat 1 := Nat.lt_of_lt_of_le Nat.one_pos (Nat.le_max_right _ _)
  refine ⟨fun name hname => hfields name ?_, hsize, fun source => rfl, fun e he => nomatch he⟩
  simp only [Probe.make, Probe.fieldChain, List.mem_cons] at hname
  obtain rfl | hname := hname
  · exact List.mem_cons_self
  · exact List.mem_cons_of_mem _ (List.mem_filter.1 hname).1

/-- Whatever happened to a probe: it remembers informed answers only, and for each source the last one
that was not forgotten since. It answers from memory if it has the answer for the generation, and calls
its provider otherwise. A question that finds no records changes nothing that is remembered, and no
event changes what is remembered of a source that it does not concern. -/
theorem remembers_lastFinding (provider : SampleProvider σ) {field : FieldName}
    {alternates : List FieldName} (hfields : ∀ name ∈ field :: alternates, name.isKey = true)
    (size : Int) (s : σ) (events : List ProbeEvent) :
    let r := run provider { probe := .make field alternates size, provider := s } events
    (∀ e ∈ r.probe.cache, e.capability.sampled = true ∧ ∃ source, e.source = sourceKey source) ∧
      (∀ source, r.probe.entriesOf source =
        ((lastFinding source r.marks).map fun finding =>
          ⟨sourceKey source, finding.1, finding.2⟩).toList) ∧
      (∀ source (generation : Generation) refresh,
        let answer := r.get provider source generation refresh
        (∃ capability, answer.capability = .ok capability) ∧
          (answer.provider.2 = [] ∨
            answer.provider.2 = [(.text source, (provider (.text source) r.provider).1)]) ∧
          ((∀ call ∈ answer.provider.2, call.2.isInformative = false) →
            answer.probe = r.probe)) ∧
      (∀ source (generation : Generation),
        let answer := r.get provider source generation false
        (answer.provider.2 = [] ↔
            ∃ e ∈ r.probe.entriesOf source, e.generation.isSame generation = true) ∧
          ∀ e ∈ r.probe.entriesOf source, e.generation.isSame generation = true →
            answer.capability = .ok e.capability) ∧
      ∀ (e : ProbeEvent) source, ¬ e.Concerns source →
        (step provider r e).probe.entriesOf source = r.probe.entriesOf source := by
  intro r
  have h : r.Reflects := (reflects_start hfields size s).run events
  refine ⟨h.informed, h.entries, ?_, ?_, fun e source he => h.entriesOf_step he⟩
  · intro source generation refresh answer
    have hcases : GetOutcome _ _ _ _ _ _ _ answer := h.get_cases provider source generation refresh
    generalize answer = answer at hcases
    cases hcases with
    | kept e => exact ⟨⟨_, rfl⟩, .inl rfl, fun _ => rfl⟩
    | unseen => exact ⟨⟨_, rfl⟩, .inr rfl, fun _ => rfl⟩
    | seen capability logs _ hsample =>
      refine ⟨⟨_, rfl⟩, .inr rfl, fun hnone => ?_⟩
      -- The provider had records, so its call was an informative one.
      have := hnone _ List.mem_cons_self
      rw [hsample] at this
      cases this
  · intro source generation answer
    have hcases : GetOutcome _ _ _ _ _ _ _ answer := h.get_cases provider source generation false
    generalize answer = answer at hcases
    -- There is one entry at most, so the one that is found is the one at the generation.
    have honly : ∀ e ∈ r.probe.entriesOf source, r.probe.entriesOf source = [e] := by
      intro e he
      rw [h.entries source] at he ⊢
      rw [Option.mem_toList] at he
      rw [he, Option.toList_some]
    cases hcases with
    | kept e _ hfind =>
      have he := List.mem_of_find?_eq_some hfind
      have hat : e.generation.isSame generation = true := by simpa using List.find?_some hfind
      refine ⟨⟨fun _ => ⟨e, he, hat⟩, fun _ => rfl⟩, fun other hother _ => ?_⟩
      rw [honly e he, List.mem_singleton] at hother
      rw [hother]
    | unseen _ hmiss | seen _ _ hmiss =>
      have hnone := List.find?_eq_none.1 (hmiss.resolve_left (by decide))
      refine ⟨⟨fun hcalls => ?_, ?_⟩, fun e he hsame => absurd hsame (hnone e he)⟩
      · cases hcalls
      · rintro ⟨e, he, hsame⟩
        exact absurd hsame (hnone e he)

/-- A provider that has one sample after the other, and fails when there are no more. -/
def scripted : SampleProvider (List Sample)
  | _, [] => (.failed "no more samples", [])
  | _, sample :: rest => (sample, rest)

/-- A source that is asked about with and without records, beside another that is forgotten. -/
def twoSources : List ProbeEvent :=
  [.get "sales" ⟨⟨.int 0, 0⟩, rfl⟩ false, .get "visits" ⟨⟨.int 0, 0⟩, rfl⟩ false,
    .get "sales" ⟨⟨.int 1, 0⟩, rfl⟩ false, .invalidate (some "visits"),
    .get "visits" ⟨⟨.int 0, 0⟩, rfl⟩ true]

/-- Records that come once, for either source, and then no more. -/
def twoSamples : List Sample :=
  [.records [[("Day", .int 20240105)]], .records [[("Day", .text "5/1/2024")]], .records []]

theorem remembers_lastFinding_twoSources :
    (∀ name ∈ [Value.text "Day"], name.isKey = true) ∧
      let r := run scripted { probe := .make (.text "Day") [] 25, provider := twoSamples } twoSources
      r.probe.entriesOf "sales" =
          [⟨sourceKey "sales", ⟨.int 0, 0⟩, ⟨true, [.text "Day"], true⟩⟩] ∧
        r.probe.entriesOf "visits" = [] := by
  have hfields : ∀ name ∈ [Value.text "Day"], name.isKey = true := by decide
  obtain ⟨-, hentries, -⟩ := remembers_lastFinding scripted hfields 25 twoSamples twoSources
  exact ⟨hfields, hentries "sales", hentries "visits"⟩

end ProbeRun

end MapFilter
