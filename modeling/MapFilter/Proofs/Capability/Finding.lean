import MapFilter.Capability
import MapFilter.Proofs.Compilation.Diagnostics

/-!
# What a probe finds out

A look at a source goes through some records and through the names that a date key may stand under. What
comes of it is said here by what the records hold, and not by the order in which they are gone through:
the names that are found are those under which a record holds a date key, in the order in which they are
configured. So the order of the records does not matter, and more records never take a name away.

- `Value.IsIntegral`, `Record.HoldsDateKey`: a number that is a date key under a name
- `Probe.Finds`: what is to be found out from records
- `within_of_mem_clauses`: the clauses of a filter that compare date keys
- `Probe.detect_finds`: what every look at a source finds out
-/

namespace MapFilter

/-! ## §1 Date keys in records -/

/-- The value is a number that equals an integer. A truth value is no number. -/
inductive Value.IsIntegral : Value → Int → Prop where
  | int (key : Int) : IsIntegral (.int key) key
  | float {x : Number} {key : Int} : x.same (.finite key) = true → IsIntegral (.float x) key

/-- The record holds a number under the name that is the key of some parts of the right size. -/
def Record.HoldsDateKey (r : Record) (name : FieldName) : Prop :=
  ∃ v key, r.field? name = some v ∧ v.IsIntegral key ∧ ∃ d : DateParts, d.isValid = true ∧ d.key = key

theorem Number.toInt?_eq_some_iff {x : Number} {key : Int} :
    x.toInt? = some key ↔ x.same (.finite key) = true := by
  cases x with
  | nan => simp [toInt?, same]
  | infinite negative => simp [toInt?, same]
  | negativeZero =>
    simp only [toInt?, same, toRat, Option.some.injEq, beq_iff_eq]
    exact ⟨fun h => by rw [← h]; rfl, fun h => by exact_mod_cast h⟩
  | finite q =>
    simp only [toInt?, same, toRat, Option.ite_none_right_eq_some, Option.some.injEq, beq_iff_eq]
    constructor
    · rintro ⟨hden, rfl⟩
      exact Rat.ext rfl hden
    · rintro rfl
      exact ⟨rfl, rfl⟩

theorem DateKey.isValid_iff_exists {key : Int} :
    isValid key = true ↔ ∃ d : DateParts, d.isValid = true ∧ d.key = key := by
  constructor
  · intro h
    have hparts : (parts key).isValid = true := by
      simp only [isValid, Bool.and_eq_true] at h
      exact h.2
    exact ⟨parts key, hparts, key_parts h⟩
  · rintro ⟨d, hd, rfl⟩
    exact isValid_key hd

theorem dateKeyOf?_eq_some_iff {v : Value} {key : Int} :
    dateKeyOf? v = some key ↔ v.IsIntegral key ∧ DateKey.isValid key = true := by
  constructor
  · intro h
    cases v with
    | int i =>
      simp only [dateKeyOf?, Option.ite_none_right_eq_some, Option.some.injEq] at h
      obtain ⟨hvalid, rfl⟩ := h
      exact ⟨.int i, hvalid⟩
    | float x =>
      obtain ⟨hint, hvalid⟩ := Option.filter_eq_some_iff.1 h
      exact ⟨.float (Number.toInt?_eq_some_iff.1 hint), hvalid⟩
    | _ => cases h
  · rintro ⟨hintegral, hvalid⟩
    cases hintegral with
    | int => simp only [dateKeyOf?, hvalid, if_true]
    | float hsame => exact Option.filter_eq_some_iff.2 ⟨Number.toInt?_eq_some_iff.2 hsame, hvalid⟩

theorem carriesDateKey_iff {name : FieldName} {r : Record} :
    carriesDateKey name r = true ↔ r.HoldsDateKey name := by
  rw [carriesDateKey, Record.HoldsDateKey]
  cases hfield : r.field? name with
  | none => simp
  | some v =>
    simp only [Option.isSome_iff_exists, dateKeyOf?_eq_some_iff, DateKey.isValid_iff_exists,
      Option.some.injEq]
    exact ⟨fun ⟨key, hkey⟩ => ⟨v, key, rfl, hkey⟩, fun ⟨w, key, hv, hkey⟩ => hv ▸ ⟨key, hkey⟩⟩

instance (r : Record) (name : FieldName) : Decidable (r.HoldsDateKey name) :=
  decidable_of_iff _ carriesDateKey_iff

/-- Only texts name properties. -/
theorem Record.HoldsDateKey.exists_text {r : Record} {name : FieldName} (h : r.HoldsDateKey name) :
    ∃ s, name = .text s := by
  obtain ⟨v, key, hv, -⟩ := h
  cases name with
  | text s => exact ⟨s, rfl⟩
  | _ => cases hv

/-! ## §2 Findings -/

namespace Probe

/-- What is to be found out from records that were seen: the names under which one of them holds a date
key, in configured order, and whether there are any. -/
structure Finds (names : List FieldName) (seen : List Record) (c : Capability) : Prop where
  sampled : c.sampled = true
  resolved : c.resolved = names.filter fun name => ∃ r ∈ seen, r.HoldsDateKey name
  hasDateKey : c.hasDateKey = true ↔ c.resolved ≠ []

variable {field : FieldName} {alternates : List FieldName} {names : List FieldName}
  {seen more : List Record} {c d : Capability}

theorem Finds.mem_resolved_iff (h : Finds names seen c) {name : FieldName} :
    name ∈ c.resolved ↔ name ∈ names ∧ ∃ r ∈ seen, r.HoldsDateKey name := by
  rw [h.resolved, List.mem_filter, decide_eq_true_iff]

/-- The order of the records does not matter. -/
theorem Finds.eq_of_perm (hc : Finds names seen c) (hd : Finds names more d)
    (h : seen.Perm more) : c = d := by
  have hsame (name : FieldName) :
      (∃ r ∈ seen, r.HoldsDateKey name) ↔ ∃ r ∈ more, r.HoldsDateKey name := by
    simp only [h.mem_iff]
  have hresolved : c.resolved = d.resolved := by
    rw [hc.resolved, hd.resolved]
    exact List.filter_congr fun name _ => decide_eq_decide.2 (hsame name)
  have hdateKey : c.hasDateKey = d.hasDateKey := by
    rw [Bool.eq_iff_iff, hc.hasDateKey, hd.hasDateKey, hresolved]
  obtain ⟨hasDateKey, resolved, sampled⟩ := c
  cases d
  simp only [Capability.mk.injEq]
  exact ⟨hdateKey, hresolved, hc.sampled.trans hd.sampled.symm⟩

/-- More records never take a name away. -/
theorem Finds.mem_resolved_of_subset (hc : Finds names seen c) (hd : Finds names more d)
    (h : seen ⊆ more) {name : FieldName} (hname : name ∈ c.resolved) : name ∈ d.resolved := by
  obtain ⟨hmem, r, hr, hholds⟩ := hc.mem_resolved_iff.1 hname
  exact hd.mem_resolved_iff.2 ⟨hmem, r, h hr, hholds⟩

/-- Only a name that repeats the first one is no field of the probe. -/
theorem filter_fieldChain (hdistinct : (field :: alternates).Nodup) (p : FieldName → Bool)
    (htext : ∀ name, p name = true → ∃ s, name = .text s) :
    (fieldChain field alternates).filter p = (field :: alternates).filter p := by
  rw [fieldChain, List.filter_cons, List.filter_cons, List.filter_filter]
  have hothers : alternates.filter (fun name => p name && !name.same field) = alternates.filter p := by
    refine List.filter_congr fun name hname => ?_
    cases hp : p name with
    | false => rfl
    | true =>
      -- Another text than the first name is not equal to it.
      obtain ⟨s, rfl⟩ := htext name hp
      have hne : Value.text s ≠ field := fun heq => (List.nodup_cons.1 hdistinct).1 (heq ▸ hname)
      cases hsame : (Value.text s).same field with
      | false => rfl
      | true => exact absurd ((Value.same_text_iff s field).1 hsame).symm hne
  rw [hothers]

/-- One record at least is looked at. -/
theorem take_size_eq_nil_iff {size : Int} {records : List Record} :
    records.take (max size 1).toNat = [] ↔ records = [] := by
  have hsize : (max size 1).toNat ≠ 0 := by omega
  rw [List.take_eq_nil_iff, or_iff_right hsize]

theorem sampleSize_make (field : FieldName) (alternates : List FieldName) (size : Int) :
    (make field alternates size).sampleSize = (max size 1).toNat := by
  simp only [make]
  omega

/-- A look at records finds out what is to be found out from the first of them. -/
theorem inspect_finds (hkeys : ∀ name ∈ field :: alternates, name.isKey = true)
    (hdistinct : (field :: alternates).Nodup) (size : Int) {records : List Record}
    (hrecords : records ≠ []) :
    ∃ c, (make field alternates size).inspect records = .ok c ∧
      Finds (field :: alternates) (records.take (max size 1).toNat) c := by
  have hnone : ((make field alternates size).fields.find? fun name => !name.isKey) = none := by
    refine List.find?_eq_none.2 fun name hname => ?_
    have hmem : name ∈ field :: alternates := by
      rcases List.mem_cons.1 hname with rfl | hname
      · exact List.mem_cons_self
      · exact List.mem_cons_of_mem _ (List.mem_filter.1 hname).1
    simp [hkeys name hmem]
  rw [inspect, sampleSize_make]
  split
  · rename_i htake
    exact absurd (take_size_eq_nil_iff.1 htake) hrecords
  · rw [hnone]
    refine ⟨_, rfl, rfl, ?_, ?_⟩
    · have hany (name : FieldName) :
          (records.take (max size 1).toNat).any (carriesDateKey name) =
            decide (∃ r ∈ records.take (max size 1).toNat, r.HoldsDateKey name) := by
        rw [Bool.eq_iff_iff, decide_eq_true_iff, List.any_eq_true]
        simp only [carriesDateKey_iff]
      simp only [hany]
      refine filter_fieldChain hdistinct _ fun name hname => ?_
      obtain ⟨r, -, hholds⟩ := of_decide_eq_true hname
      exact hholds.exists_text
    · simp

/-- Where a name was found there were records. -/
theorem exists_records_of_mem_resolved (hkeys : ∀ name ∈ field :: alternates, name.isKey = true)
    (hdistinct : (field :: alternates).Nodup) {size : Int} {sample : Sample}
    (hc : (make field alternates size).inspectSample sample = .ok c) {name : FieldName}
    (hname : name ∈ c.resolved) :
    ∃ records, sample = .records records ∧
      Finds (field :: alternates) (records.take (max size 1).toNat) c := by
  cases sample with
  | failed message =>
    cases hc
    cases hname
  | records records =>
    by_cases hrecords : records = []
    · rw [hrecords, inspectSample, inspect, List.take_nil] at hc
      cases hc
      cases hname
    · obtain ⟨c', hc', hfound⟩ := inspect_finds hkeys hdistinct size hrecords
      cases hc'.symm.trans hc
      exact ⟨records, rfl, hfound⟩

end Probe

/-! ## §3 Clauses that compare date keys -/

/-- Leaving out repetitions leaves every text. -/
theorem text_mem_firstOccurrences {s : String} {names : List FieldName} (h : .text s ∈ names) :
    .text s ∈ firstOccurrences names := by
  -- A text that was kept stays, and one that is still to come is kept or repeats one that was.
  have hkept (rest kept : List FieldName) (h : .text s ∈ kept ∨ .text s ∈ rest) :
      .text s ∈ rest.foldl
        (fun chain name => if name.isAmong chain then chain else chain ++ [name]) kept := by
    induction rest generalizing kept with
    | nil => exact h.resolve_right List.not_mem_nil
    | cons name rest ih =>
      rw [List.foldl_cons]
      apply ih
      rcases h with hkept | hcoming
      · left
        split
        · exact hkept
        · exact List.mem_append_left _ hkept
      · rcases List.mem_cons.1 hcoming with rfl | hrest
        · left
          split
          · rename_i hamong
            obtain ⟨other, hother, hsame⟩ := List.any_eq_true.1 hamong
            exact (Value.same_text_iff s other).1 hsame ▸ hother
          · exact List.mem_append_right _ (List.mem_singleton_self _)
        · exact .inr hrest
  exact hkept names [] (.inr h)

variable {fields : FieldMapping} {limit : DayLimit} {state : FilterState} {capability : Capability}
  {name : FieldName} {minimum maximum : Value} {fallbacks : List FieldName}

/-- The clauses that compare date keys look at the whole chain. -/
theorem within_of_mem_clauses
    (h : .within name minimum maximum fallbacks ∈ (compile fields limit state capability).clauses) :
    name :: fallbacks = fields.dateKeyChain := by
  have hselector {field : FieldName} {s : Selector} :
      .within name minimum maximum fallbacks ∉ selectorClause field s := by
    cases s <;> simp [selectorClause, Selector.text?]
  simp only [compile_eq, List.mem_append, hselector, false_or] at h
  cases hdates : state.dates with
  | none => simp [hdates, dateClause] at h
  | some bounds =>
    simp only [hdates, dateClause] at h
    split at h
    · cases h
    · split at h
      · -- Where keys are compared, the chain is taken apart and put together again.
        obtain ⟨others, hchain⟩ := dateKeyChain_eq fields
        by_cases hsome : (ordered bounds.keys).1.isSome = true ∨ (ordered bounds.keys).2.isSome = true
        · rw [keyClause_eq hchain hsome, List.mem_singleton] at h
          cases h
          exact hchain.symm
        · rw [not_or, Option.not_isSome_iff_eq_none, Option.not_isSome_iff_eq_none] at hsome
          simp [keyClause, hsome.1, hsome.2] at h
      · have hcases := textClause_cases fields limit (ordered bounds.keys).1 (ordered bounds.keys).2
        generalize textClause fields limit _ _ = outcome at hcases h
        generalize (ordered bounds.keys).1 = low at hcases
        generalize (ordered bounds.keys).2 = high at hcases
        cases hcases <;> simp at h

/-- A name under which a date key was found is one of those that a range is compared through. -/
theorem Record.HoldsDateKey.mem_chain {r : Record} {key : FieldName} (hholds : r.HoldsDateKey key)
    (hkey : key ∈ fields.dateKey :: fields.alternates)
    (h : .within name minimum maximum fallbacks ∈ (compile fields limit state capability).clauses) :
    key ∈ Predicate.chain name fallbacks := by
  obtain ⟨s, rfl⟩ := hholds.exists_text
  have hmem : Value.text s ∈ name :: fallbacks := by
    rw [within_of_mem_clauses h]
    exact text_mem_firstOccurrences hkey
  rcases List.mem_cons.1 hmem with rfl | hmem
  · exact List.mem_cons_self
  · -- A fallback is left out only if it repeats the first name.
    cases hsame : (Value.text s).same name with
    | true => exact (Value.same_text_iff s name).1 hsame ▸ List.mem_cons_self
    | false => exact List.mem_cons_of_mem _ (List.mem_filter.2 ⟨hmem, by rw [hsame]; rfl⟩)

/-! ## §4 Looks at a source -/

namespace Probe

/-- A look at a source without records, or at one that fails, tells nothing. Any other look finds out, of
the first records as many as the size says and one at least, under which of the configured names one of
them holds a date key. So the order of these records does not matter, more records take no name away, and
filters for the same names compare every range through each name that was found. -/
theorem detect_finds {σ : Type} (provider : SampleProvider σ) {field : FieldName}
    {alternates : List FieldName} (hkeys : ∀ name ∈ field :: alternates, name.isKey = true)
    (hdistinct : (field :: alternates).Nodup) (size : Int) :
    let names := field :: alternates
    let finding (source : Value) (s : σ) :=
      ((make field alternates size).detect provider source s).1
    let seen (records : List Record) := records.take (max size 1).toNat
    (∀ source s, (provider source s).1 = .records [] ∨
        (∃ message, (provider source s).1 = .failed message) →
      finding source s = .ok .unknown) ∧
    (∀ source s records, (provider source s).1 = .records records → records ≠ [] →
      ∃ c, finding source s = .ok c ∧ Finds names (seen records) c) ∧
    (∀ source s records source' s' others, (provider source s).1 = .records records →
      (provider source' s').1 = .records others → (seen records).Perm (seen others) →
        finding source s = finding source' s') ∧
    (∀ source s records source' s' others c c', (provider source s).1 = .records records →
      (provider source' s').1 = .records others → seen records ⊆ seen others →
        finding source s = .ok c → finding source' s' = .ok c' → c.resolved ⊆ c'.resolved) ∧
    ∀ source s c, finding source s = .ok c → ∀ name ∈ c.resolved,
      ∀ (fields : FieldMapping) (limit : DayLimit) (state : FilterState) (capability : Capability),
        fields.dateKey = field → fields.alternates = alternates →
          ∀ first minimum maximum fallbacks, .within first minimum maximum fallbacks ∈
              (compile fields limit state capability).clauses →
            name ∈ Predicate.chain first fallbacks := by
  intro names finding seen
  have hfinding (source : Value) (s : σ) : finding source s =
      (make field alternates size).inspectSample (provider source s).1 := rfl
  have hunknown (source : Value) (s : σ) (h : (provider source s).1 = .records [] ∨
      (∃ message, (provider source s).1 = .failed message)) : finding source s = .ok .unknown := by
    rw [hfinding]
    rcases h with h | ⟨message, h⟩
    · rw [h, inspectSample, inspect, List.take_nil]
    · rw [h, inspectSample]
  have hfinds (source : Value) (s : σ) (records : List Record)
      (h : (provider source s).1 = .records records) (hrecords : records ≠ []) :
      ∃ c, finding source s = .ok c ∧ Finds names (seen records) c := by
    rw [hfinding, h]
    exact inspect_finds hkeys hdistinct size hrecords
  refine ⟨hunknown, hfinds, ?_, ?_, ?_⟩
  · intro source s records source' s' others h h' hperm
    have hseen (rs : List Record) : seen rs = [] ↔ rs = [] := take_size_eq_nil_iff
    have hnil : records = [] ↔ others = [] := by
      rw [← hseen records, ← hseen others, ← List.length_eq_zero_iff, hperm.length_eq,
        List.length_eq_zero_iff]
    by_cases hrecords : records = []
    · rw [hunknown source s (.inl (hrecords ▸ h)),
        hunknown source' s' (.inl (hnil.1 hrecords ▸ h'))]
    · obtain ⟨c, hc, hfound⟩ := hfinds source s records h hrecords
      obtain ⟨c', hc', hfound'⟩ := hfinds source' s' others h' fun hnone => hrecords (hnil.2 hnone)
      rw [hc, hc', hfound.eq_of_perm hfound' hperm]
  · intro source s records source' s' others c c' h h' hsubset hc hc' name hname
    obtain ⟨records', hrecords, hfound⟩ :=
      exists_records_of_mem_resolved hkeys hdistinct hc hname
    cases h.symm.trans hrecords
    -- The record that holds the key is among the others.
    obtain ⟨-, r, hr, -⟩ := hfound.mem_resolved_iff.1 hname
    have hothers : others ≠ [] := List.ne_nil_of_mem (List.mem_of_mem_take (hsubset hr))
    obtain ⟨c'', hc'', hfound'⟩ := hfinds source' s' others h' hothers
    cases hc''.symm.trans hc'
    exact hfound.mem_resolved_of_subset hfound' hsubset hname
  · intro source s c hc name hname fields limit state capability hfield halternates first minimum
      maximum fallbacks hclause
    obtain ⟨records, -, hfound⟩ :=
      exists_records_of_mem_resolved hkeys hdistinct hc hname
    obtain ⟨hmem, r, -, hholds⟩ := hfound.mem_resolved_iff.1 hname
    exact hholds.mem_chain (by rwa [hfield, halternates]) hclause

/-- A source whose days stand under either of two names, with values that are no keys among them. -/
def twoNames : SampleProvider Unit :=
  fun _ s =>
    (.records
      [[("Day", .bool true), ("\ufeffDay", .float (.finite 20240229))],
        [("Day", .text "20240229")], [("Day", .int 20240231)]], s)

theorem detect_finds_twoNames :
    (∀ name ∈ [Value.text "Day", .text "\ufeffDay"], name.isKey = true) ∧
      [Value.text "Day", .text "\ufeffDay"].Nodup ∧
        ∃ c, ((make (.text "Day") [.text "\ufeffDay"] 3).detect twoNames (.text "sales") ()).1 = .ok c ∧
          c.resolved = [.text "Day", .text "\ufeffDay"] ∧ c.hasDateKey = true := by
  have hkeys : ∀ name ∈ [Value.text "Day", .text "\ufeffDay"], name.isKey = true := by decide
  have hdistinct : [Value.text "Day", .text "\ufeffDay"].Nodup := by decide
  obtain ⟨-, hfinds, -⟩ := detect_finds twoNames hkeys hdistinct 3
  obtain ⟨c, hc, hfound⟩ := hfinds (.text "sales") () _ rfl (by decide)
  have hresolved : c.resolved = [.text "Day", .text "\ufeffDay"] := by
    rw [hfound.resolved]
    decide
  exact ⟨hkeys, hdistinct, c, hc, hresolved, hfound.hasDateKey.2 (by simp [hresolved])⟩

end Probe

end MapFilter
