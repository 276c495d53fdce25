import MapFilter.Compilation
import MapFilter.Proofs.Number.Grid

/-!
# Chains of fields

A quantity is read through a chain of fields, and the first one that holds a number counts. A field
that repeats an earlier one is never the first, so chains may be freed of repetitions.

- `Record.number?`: the number that one field holds
- `Record.FirstNumber`: the first number of a chain
- `quantity_chain`, `quantity_firstOccurrences`: repetitions make no difference
- `quantity_isFinite`, `exists_quantity`: a record of fitting integers has a quantity, and it is
  finite
-/

namespace MapFilter

/-! ## §1 Fields of one name -/

namespace Value

theorem same_text_iff (s : String) (v : Value) : (Value.text s).same v = true ↔ v = .text s := by
  cases v with
  | text t => simp only [same, beq_iff_eq, text.injEq, @eq_comm _ s t]
  | _ => simp [same, toExact?]

theorem isKey_of_same {v w : Value} (h : v.same w = true) : v.isKey = w.isKey := by
  cases v <;> cases w <;> simp_all [same, toExact?, isKey]

end Value

namespace Record

theorem mem_of_get? {r : Record} {name : String} {v : Value} (h : r.get? name = some v) :
    (name, v) ∈ r := by
  obtain ⟨before, after, hr, -⟩ := List.lookup_eq_some_iff.1 h
  simp [hr]

theorem field?_of_same (r : Record) {field other : FieldName} (h : field.same other = true) :
    r.field? field = r.field? other := by
  cases field with
  | text s => rw [(Value.same_text_iff s other).1 h]
  | _ => cases other <;> simp_all [field?, Value.same, Value.toExact?]

/-! ## §2 The number of a field -/

/-- The number that the property named by a field reads as, if there is one. -/
def number? (r : Record) (field : FieldName) : Except QuantityError (Option Number) :=
  match r.lookFor field with
  | .error e => .error (.noName e.value)
  | .ok none => .ok none
  | .ok (some v) => v.toNumber?.mapError fun e => .integerTooLarge e.value

theorem number?_eq_none {r : Record} {name : String} (h : r.get? name = none) :
    r.number? (.text name) = .ok none := by
  have hproperty : r.lookFor (.text name) = .ok (r.get? name) := rfl
  simp only [number?, hproperty, h]

theorem number?_eq {r : Record} {name : String} {v : Value} {x : Option Number}
    (h : r.get? name = some v) (hv : v.toNumber? = .ok x) : r.number? (.text name) = .ok x := by
  have hproperty : r.lookFor (.text name) = .ok (r.get? name) := rfl
  simp only [number?, hproperty, h, hv]
  rfl

/-- A property whose value cannot be read leads to an error. -/
theorem number?_eq_error {r : Record} {name : String} {v : Value} {e : IntegerTooLarge}
    (h : r.get? name = some v) (hv : v.toNumber? = .error e) :
    r.number? (.text name) = .error (.integerTooLarge e.value) := by
  have hproperty : r.lookFor (.text name) = .ok (r.get? name) := rfl
  simp only [number?, hproperty, h, hv]
  rfl

/-- A chain holds a number, and all fields before the one that holds it hold none. -/
def FirstNumber (r : Record) (names : List FieldName) (x : Number) : Prop :=
  ∃ before name after, names = before ++ name :: after
    ∧ (∀ other ∈ before, r.number? other = .ok none) ∧ r.number? name = .ok (some x)

/-- Of two fields that are equal in value, both or none are passed over. -/
theorem number?_eq_none_iff_of_same (r : Record) {field other : FieldName}
    (h : field.same other = true) :
    r.number? field = .ok none ↔ r.number? other = .ok none := by
  unfold number? lookFor
  rw [Value.isKey_of_same h, field?_of_same r h]
  cases other.isKey <;> simp

end Record

/-! ## §3 The quantity of a chain -/

/-- The quantity of a chain is the number of its first field, or else that of the rest. -/
theorem quantity_cons (r : Record) (field : FieldName) (rest : List FieldName) :
    quantity r (field :: rest) =
      match r.number? field with
      | .ok none => quantity r rest
      | .ok (some x) => .ok x
      | .error e => .error e := by
  rw [quantity, Record.number?]
  cases r.lookFor field with
  | error e => rfl
  | ok property =>
    cases property with
    | none => rfl
    | some v =>
      dsimp only
      cases v.toNumber? with
      | error e => rfl
      | ok x => cases x <;> rfl

/-- The first number of a chain is its quantity. -/
theorem quantity_of_firstNumber {r : Record} {names : List FieldName} {x : Number}
    (h : r.FirstNumber names x) : quantity r names = .ok x := by
  obtain ⟨before, name, after, rfl, hbefore, hname⟩ := h
  induction before with
  | nil => rw [List.nil_append, quantity_cons, hname]
  | cons other before ih =>
    rw [List.cons_append, quantity_cons, hbefore other List.mem_cons_self]
    exact ih fun n hn => hbefore n (List.mem_cons_of_mem _ hn)

/-- A field without a number may be left out anywhere. -/
theorem quantity_append_cons {r : Record} {field : FieldName} (h : r.number? field = .ok none)
    (before after : List FieldName) :
    quantity r (before ++ field :: after) = quantity r (before ++ after) := by
  induction before with
  | nil => rw [List.nil_append, List.nil_append, quantity_cons, h]
  | cons other before ih => simp only [List.cons_append, quantity_cons, ih]

/-- A field without a number may be left out wherever it is repeated. -/
theorem quantity_filter {r : Record} {field : FieldName} (h : r.number? field = .ok none)
    (names : List FieldName) :
    quantity r (names.filter fun other => !other.same field) = quantity r names := by
  induction names with
  | nil => rfl
  | cons other rest ih =>
    cases hsame : other.same field with
    | false => simp only [List.filter_cons, hsame, Bool.not_false, if_true, quantity_cons, ih]
    | true =>
      -- The field that is left out would have been passed over.
      have hother := (r.number?_eq_none_iff_of_same hsame).2 h
      rw [quantity_cons, hother]
      simpa only [List.filter_cons, hsame, Bool.not_true, Bool.false_eq_true, if_false] using ih

/-- A field that repeats an earlier one is never the first with a number. -/
theorem quantity_append_of_isAmong (r : Record) {field : FieldName} {before : List FieldName}
    (h : field.isAmong before = true) (after : List FieldName) :
    quantity r (before ++ field :: after) = quantity r (before ++ after) := by
  induction before with
  | nil => simp [Value.isAmong] at h
  | cons other before ih =>
    simp only [List.cons_append, quantity_cons]
    -- Only if the earlier field holds no number does the rest count.
    cases hother : r.number? other with
    | error e => rfl
    | ok number =>
      cases number with
      | some x => rfl
      | none =>
        simp only [Value.isAmong, List.any_cons, Bool.or_eq_true] at h
        rcases h with hsame | hamong
        · exact quantity_append_cons ((r.number?_eq_none_iff_of_same hsame).2 hother) before after
        · exact ih hamong

/-- A chain has the quantity of the field and all its fallbacks. -/
theorem quantity_chain (r : Record) (field : FieldName) (fallbacks : List FieldName) :
    quantity r (Predicate.chain field fallbacks) = quantity r (field :: fallbacks) := by
  rw [Predicate.chain, quantity_cons, quantity_cons]
  cases h : r.number? field with
  | error e => rfl
  | ok number =>
    cases number with
    | some x => rfl
    | none => exact quantity_filter h fallbacks

/-- Leaving out later repetitions does not change the quantity. -/
theorem quantity_firstOccurrences (r : Record) (names : List FieldName) :
    quantity r (firstOccurrences names) = quantity r names := by
  -- What was kept so far stands before what is still to come.
  have hkept (kept : List FieldName) :
      quantity r (names.foldl
        (fun chain name => if name.isAmong chain then chain else chain ++ [name]) kept) =
      quantity r (kept ++ names) := by
    induction names generalizing kept with
    | nil => simp
    | cons name rest ih =>
      rw [List.foldl_cons]
      split
      · rename_i hamong
        rw [ih, quantity_append_of_isAmong r hamong]
      · rw [ih, List.append_assoc, List.singleton_append]
  exact hkept []

/-! ## §4 Finite quantities -/

theorem Value.isFinite_of_toNumber? {v : Value} {x : Number} (h : v.toNumber? = .ok (some x)) :
    x.isFinite = true := by
  have hfinite {y : Number} (hy : y.finite? = some x) : x.isFinite = true := by
    unfold Number.finite? at hy
    split at hy
    · rename_i hisFinite
      rwa [← Option.some.inj hy]
    · cases hy
  cases v with
  | null => cases h
  | bool b =>
    cases h
    rfl
  | int i =>
    -- An integer that was rounded to an infinity is an error, and none is rounded to no number.
    simp only [Value.toNumber?] at h
    split at h
    · cases h
    · rename_i hfits
      cases h
      cases hi : Number.ofInt i with
      | nan => exact absurd hi (Number.ofInt_ne_nan i)
      | infinite negative => exact absurd hi (hfits negative)
      | negativeZero => rfl
      | finite q => rfl
  | float y => exact hfinite (Except.ok.inj h)
  | text s =>
    obtain ⟨y, -, hy⟩ := Option.bind_eq_some_iff.1 (Except.ok.inj h)
    exact hfinite hy
  | list items => cases h
  | object entries => cases h

theorem quantity_isFinite {r : Record} {names : List FieldName} {x : Number}
    (h : quantity r names = .ok x) : x.isFinite = true := by
  induction names with
  | nil =>
    cases h
    rfl
  | cons field rest ih =>
    rw [quantity_cons] at h
    -- The quantity is that of the rest, or the number of the first field.
    split at h
    · exact ih h
    · rename_i y hnumber
      cases h
      unfold Record.number? at hnumber
      split at hnumber
      · cases hnumber
      · cases hnumber
      · rename_i v _
        cases hv : v.toNumber? with
        | error e =>
          rw [hv] at hnumber
          cases hnumber
        | ok y =>
          rw [hv] at hnumber
          cases hnumber
          exact Value.isFinite_of_toNumber? hv
    · cases h

/-- The integers of a record do not exceed the largest binary64 number. -/
def Record.IntegersFit (r : Record) : Prop :=
  ∀ name i, r.get? name = some (.int i) → (Number.ofInt i).isFinite = true

/-- Whether a value is no integer that exceeds the largest binary64 number. -/
def Value.fits : Value → Bool
  | .int i => (Number.ofInt i).isFinite
  | _ => true

theorem Record.integersFit_of_mem {r : Record} (h : ∀ entry ∈ r, entry.2.fits = true) :
    r.IntegersFit :=
  fun _ _ hi => h _ (mem_of_get? hi)

/-- Only an integer that is too large cannot be read. -/
theorem Value.exists_toNumber? {v : Value}
    (h : ∀ i, v = .int i → (Number.ofInt i).isFinite = true) : ∃ x, v.toNumber? = .ok x := by
  cases v with
  | int i =>
    simp only [Value.toNumber?]
    split
    · rename_i hinfinite
      have hfinite := h i rfl
      rw [hinfinite] at hfinite
      cases hfinite
    · exact ⟨_, rfl⟩
  | _ => exact ⟨_, rfl⟩

/-- A field that is a text can be read in a record of fitting integers. -/
theorem Record.IntegersFit.exists_number? {r : Record} (h : r.IntegersFit) (name : String) :
    ∃ x, r.number? (.text name) = .ok x := by
  cases hv : r.get? name with
  | none => exact ⟨none, number?_eq_none hv⟩
  | some v =>
    obtain ⟨x, hx⟩ := Value.exists_toNumber? fun i hi => h name i (hi ▸ hv)
    exact ⟨x, number?_eq hv hx⟩

/-- A chain of texts has a quantity in a record of fitting integers. -/
theorem Record.IntegersFit.exists_quantity {r : Record} (h : r.IntegersFit) {names : List FieldName}
    (hnames : ∀ name ∈ names, ∃ s, name = .text s) : ∃ x, quantity r names = .ok x := by
  induction names with
  | nil => exact ⟨_, rfl⟩
  | cons field rest ih =>
    obtain ⟨s, rfl⟩ := hnames field List.mem_cons_self
    obtain ⟨x, hx⟩ := h.exists_number? s
    rw [quantity_cons, hx]
    cases x with
    | none => exact ih fun name hname => hnames name (List.mem_cons_of_mem _ hname)
    | some x => exact ⟨x, rfl⟩

end MapFilter
