import Mathlib.Data.List.Induction
import MapFilter.Value.Keyed

/-!
# Entries that are put in

What stands under a name once entries were put into a record is the last one that was put in under it,
and the names stay in the order in which they came. So putting entries in again under the same names
leaves no trace of the first ones. Keys of tables behave like names as far as equality in value goes.

- `Record.get?_insert_self`, `Record.get?_insert_of_ne`: what is found after an entry was put in
- `Record.insertAll_insertAll`: the last entries under the same names count
- `Record.others`: the entries under all other names, in order
- `Value.same_congr`: keys that are equal in value are equal to the same values
- `Keyed.get?_insert`: what is found in a table after an entry was put in
-/

namespace MapFilter

/-! ## §1 Records -/

namespace Record

variable {r : Record} {entry : String × Value} {name other : String} {v w : Value}

/-- The record with another value wherever the name stands. -/
def replace (r : Record) (name : String) (v : Value) : Record :=
  r.map fun entry => if entry.1 = name then (name, v) else entry

theorem insert_cons_self (h : entry.1 = name) :
    insert (entry :: r) name v = (name, v) :: replace r name v := by
  simp [insert, replace, h]

theorem insert_cons_of_ne (h : entry.1 ≠ name) :
    insert (entry :: r) name v = entry :: insert r name v := by
  unfold insert
  simp only [List.any_cons, beq_eq_false_iff_ne.2 h, Bool.false_or, List.map_cons]
  split
  · rfl
  · rfl

theorem replace_cons_self (h : entry.1 = name) :
    replace (entry :: r) name v = (name, v) :: replace r name v := by
  simp [replace, h]

theorem replace_cons_of_ne (h : entry.1 ≠ name) :
    replace (entry :: r) name v = entry :: replace r name v := by
  simp [replace, h]

theorem get?_cons_self (h : entry.1 = name) : get? (entry :: r) name = some entry.2 := by
  obtain ⟨name', v⟩ := entry
  cases h
  simp [get?]

theorem get?_cons_of_ne (h : entry.1 ≠ name) : get? (entry :: r) name = get? r name := by
  obtain ⟨name', v⟩ := entry
  simp [get?, List.lookup_cons, beq_eq_false_iff_ne.2 h.symm]

theorem get?_replace_of_ne (h : other ≠ name) : (r.replace name v).get? other = r.get? other := by
  induction r with
  | nil => rfl
  | cons entry rest ih =>
    by_cases hname : entry.1 = name
    · rw [replace_cons_self hname, get?_cons_of_ne h.symm, ih,
        get?_cons_of_ne (hname ▸ h.symm)]
    · rw [replace_cons_of_ne hname]
      by_cases hother : entry.1 = other
      · rw [get?_cons_self hother, get?_cons_self hother]
      · rw [get?_cons_of_ne hother, get?_cons_of_ne hother, ih]

@[simp]
theorem get?_insert_self : (r.insert name v).get? name = some v := by
  induction r with
  | nil => exact get?_cons_self rfl
  | cons entry rest ih =>
    by_cases hname : entry.1 = name
    · rw [insert_cons_self hname, get?_cons_self rfl]
    · rw [insert_cons_of_ne hname, get?_cons_of_ne hname, ih]

theorem get?_insert_of_ne (h : other ≠ name) : (r.insert name v).get? other = r.get? other := by
  -- Up to the first entry of the name nothing changes, and from there on the name is only replaced.
  induction r with
  | nil => exact get?_cons_of_ne h.symm
  | cons entry rest ih =>
    by_cases hname : entry.1 = name
    · rw [insert_cons_self hname, get?_cons_of_ne h.symm, get?_replace_of_ne h,
        get?_cons_of_ne (hname ▸ h.symm)]
    · rw [insert_cons_of_ne hname]
      by_cases hother : entry.1 = other
      · rw [get?_cons_self hother, get?_cons_self hother]
      · rw [get?_cons_of_ne hother, get?_cons_of_ne hother, ih]

@[simp]
theorem has_insert_self : (r.insert name v).has name = true := by
  rw [has, get?_insert_self]
  rfl

theorem has_insert_of_has (h : r.has other = true) : (r.insert name v).has other = true := by
  by_cases hne : other = name
  · rw [hne, has_insert_self]
  · rwa [has, get?_insert_of_ne hne]

/-! ## §2 Putting in twice -/

theorem replace_replace_self : (r.replace name v).replace name w = r.replace name w := by
  induction r with
  | nil => rfl
  | cons entry rest ih =>
    by_cases hname : entry.1 = name
    · rw [replace_cons_self hname, replace_cons_self rfl, replace_cons_self hname, ih]
    · rw [replace_cons_of_ne hname, replace_cons_of_ne hname, replace_cons_of_ne hname, ih]

theorem insert_insert_self : (r.insert name v).insert name w = r.insert name w := by
  induction r with
  | nil => exact insert_cons_self rfl
  | cons entry rest ih =>
    by_cases hname : entry.1 = name
    · rw [insert_cons_self hname, insert_cons_self rfl, insert_cons_self hname,
        replace_replace_self]
    · rw [insert_cons_of_ne hname, insert_cons_of_ne hname, insert_cons_of_ne hname, ih]

theorem replace_replace_comm (hne : name ≠ other) :
    (r.replace other w).replace name v = (r.replace name v).replace other w := by
  simp only [replace, List.map_map]
  refine List.map_congr_left fun entry _ => ?_
  by_cases hname : entry.1 = name
  · simp [hname, hne]
  · by_cases hother : entry.1 = other
    · simp [hother, hne.symm]
    · simp [hname, hother]

theorem replace_insert_of_ne (hne : name ≠ other) :
    (r.insert other w).replace name v = (r.replace name v).insert other w := by
  induction r with
  | nil => exact replace_cons_of_ne hne.symm
  | cons entry rest ih =>
    by_cases hname : entry.1 = name
    · have hother : entry.1 ≠ other := hname ▸ hne
      rw [insert_cons_of_ne hother, replace_cons_self hname, replace_cons_self hname,
        insert_cons_of_ne hne, ih]
    · rw [replace_cons_of_ne hname]
      by_cases hother : entry.1 = other
      · rw [insert_cons_self hother, insert_cons_self hother, replace_cons_of_ne hne.symm,
          replace_replace_comm hne]
      · rw [insert_cons_of_ne hother, insert_cons_of_ne hother, replace_cons_of_ne hname, ih]

/-- The place of a name that is there does not depend on what else is put in. -/
theorem insert_comm_of_has (h : r.has name = true) (hne : name ≠ other) :
    (r.insert other w).insert name v = (r.insert name v).insert other w := by
  -- Until one of the two names comes, both entries go into the rest, where the name is still to come.
  induction r with
  | nil => cases h
  | cons entry rest ih =>
    by_cases hname : entry.1 = name
    · have hother : entry.1 ≠ other := hname ▸ hne
      rw [insert_cons_of_ne hother, insert_cons_self hname, insert_cons_self hname,
        insert_cons_of_ne hne, replace_insert_of_ne hne]
    · rw [insert_cons_of_ne hname]
      by_cases hother : entry.1 = other
      · rw [insert_cons_self hother, insert_cons_self hother, insert_cons_of_ne hne.symm,
          replace_insert_of_ne hne.symm]
      · rw [has, get?_cons_of_ne hname] at h
        rw [insert_cons_of_ne hother, insert_cons_of_ne hother, insert_cons_of_ne hname, ih h]

theorem insertAll_append (xs ys : Record) :
    r.insertAll (xs ++ ys) = (r.insertAll xs).insertAll ys :=
  List.foldl_append

theorem has_insertAll_of_has {xs : Record} (h : r.has name = true) :
    (r.insertAll xs).has name = true := by
  induction xs generalizing r with
  | nil => exact h
  | cons x xs ih => exact ih (has_insert_of_has h)

theorem has_insertAll_of_mem {xs : Record} (h : name ∈ xs.names) :
    (r.insertAll xs).has name = true := by
  induction xs generalizing r with
  | nil => cases h
  | cons x xs ih =>
    change (insertAll (r.insert x.1 x.2) xs).has name = true
    obtain rfl | hrest := List.mem_cons.1 h
    · exact has_insertAll_of_has has_insert_self
    · exact ih hrest

/-- What was put in before entries whose names are all there does not count once it is put in again
behind them. -/
theorem insert_insertAll_insert {xs : Record} (h : ∀ x ∈ xs, r.has x.1 = true) :
    ((r.insert name v).insertAll xs).insert name w = (r.insertAll xs).insert name w := by
  induction xs generalizing r with
  | nil => exact insert_insert_self
  | cons x xs ih =>
    have hrest : ∀ y ∈ xs, (r.insert x.1 x.2).has y.1 = true :=
      fun y hy => has_insert_of_has (h y (List.mem_cons_of_mem _ hy))
    change (insertAll ((r.insert name v).insert x.1 x.2) xs).insert name w =
      (insertAll (r.insert x.1 x.2) xs).insert name w
    -- The next entry takes the place of the first one, or lets it pass.
    by_cases hname : x.1 = name
    · rw [hname, insert_insert_self]
    · rw [insert_comm_of_has (h x List.mem_cons_self) hname, ih hrest]

/-- Entries that are put in under the same names as others before them leave nothing of those. -/
theorem insertAll_insertAll {xs ys : Record} (h : xs.names = ys.names) :
    (r.insertAll xs).insertAll ys = r.insertAll ys := by
  -- From the end: the entries before the last one have the same names too.
  induction xs using List.reverseRecOn generalizing ys with
  | nil =>
    rw [List.map_eq_nil_iff.1 h.symm]
    rfl
  | append_singleton xs x ih =>
    obtain ⟨front, rest, rfl, hfront, hrest⟩ := List.map_eq_append_iff.1 (h.symm.trans List.map_append)
    obtain ⟨y, rfl, hlast⟩ := List.map_eq_singleton_iff.1 hrest
    have hhas : ∀ z ∈ front, (r.insertAll xs).has z.1 = true := by
      intro z hz
      refine has_insertAll_of_mem ?_
      rw [names, ← hfront]
      exact List.mem_map_of_mem hz
    simp only [insertAll_append]
    change (insertAll ((r.insertAll xs).insert x.1 x.2) front).insert y.1 y.2 =
      (r.insertAll front).insert y.1 y.2
    rw [← hlast, insert_insertAll_insert hhas, ih hfront.symm]

/-! ## §3 What else stands in a record -/

/-- The entries under all other names, in order. -/
def others (names : List String) (r : Record) : Record :=
  r.filter fun entry => entry.1 ∉ names

variable {names : List String}

theorem others_cons : others names (entry :: r) =
    if entry.1 ∈ names then others names r else entry :: others names r := by
  by_cases h : entry.1 ∈ names <;> simp [others, h]

theorem others_replace (h : name ∈ names) : others names (r.replace name v) = others names r := by
  induction r with
  | nil => rfl
  | cons entry rest ih =>
    by_cases hname : entry.1 = name
    · rw [replace_cons_self hname, others_cons, others_cons, if_pos h, if_pos (hname ▸ h), ih]
    · rw [replace_cons_of_ne hname, others_cons, others_cons, ih]

theorem others_insert (h : name ∈ names) : others names (r.insert name v) = others names r := by
  induction r with
  | nil => exact others_cons.trans (if_pos h)
  | cons entry rest ih =>
    by_cases hname : entry.1 = name
    · rw [insert_cons_self hname, others_cons, others_cons, if_pos h, if_pos (hname ▸ h),
        others_replace h]
    · rw [insert_cons_of_ne hname, others_cons, others_cons, ih]

theorem others_insertAll {xs : Record} (h : ∀ x ∈ xs, x.1 ∈ names) :
    others names (r.insertAll xs) = others names r := by
  induction xs generalizing r with
  | nil => rfl
  | cons x xs ih =>
    change others names (insertAll (r.insert x.1 x.2) xs) = others names r
    rw [ih fun y hy => h y (List.mem_cons_of_mem _ hy), others_insert (h x List.mem_cons_self)]

end Record

/-! ## §4 Keys -/

theorem Number.same_comm (x y : Number) : x.same y = y.same x := by
  cases x <;> cases y <;> simp [same, eq_comm]

theorem Number.same_congr {x y : Number} (h : x.same y = true) (z : Number) :
    x.same z = y.same z := by
  cases x <;> cases y <;> cases z <;> simp_all [same]

namespace Value

/-- What counts in comparisons of a number is its value. -/
theorem same_eq_of_toExact? {a : Value} {x : Number} (h : a.toExact? = some x) (c : Value) :
    a.same c = (c.toExact?.map x.same).getD false := by
  cases a with
  | bool | int | float => cases h; cases c <;> rfl
  | _ => cases h

/-- Keys that are equal in value are the same data, or numbers of one value. -/
theorem eq_or_toExact?_of_same {a b : Value} (hkey : a.isKey = true) (h : a.same b = true) :
    a = b ∨ ∃ x y, a.toExact? = some x ∧ b.toExact? = some y ∧ x.same y = true := by
  cases ha : a.toExact? with
  | some x =>
    rw [same_eq_of_toExact? ha] at h
    cases hb : b.toExact? with
    | some y => exact .inr ⟨x, y, rfl, rfl, by simpa [hb] using h⟩
    | none => simp [hb] at h
  | none =>
    left
    cases a with
    | null | text => cases b <;> simp_all [same, toExact?]
    | bool | int | float => cases ha
    | list | object => cases hkey

/-- Keys that are equal in value are equal to the same values. -/
theorem same_congr {a b : Value} (hkey : a.isKey = true) (h : a.same b = true) (c : Value) :
    a.same c = b.same c := by
  obtain rfl | ⟨x, y, ha, hb, hxy⟩ := eq_or_toExact?_of_same hkey h
  · rfl
  · rw [same_eq_of_toExact? ha, same_eq_of_toExact? hb, funext (Number.same_congr hxy)]

theorem same_symm {a b : Value} (hkey : a.isKey = true) (h : a.same b = true) :
    b.same a = true := by
  obtain rfl | ⟨x, y, ha, hb, hxy⟩ := eq_or_toExact?_of_same hkey h
  · exact h
  · rw [same_eq_of_toExact? hb, ha]
    simpa [Number.same_comm y x] using hxy

/-- Two keys that are equal in value to a third one are equal to each other. -/
theorem same_of_same {a b c : Value} (ha : a.isKey = true) (hb : b.isKey = true)
    (hac : a.same c = true) (hbc : b.same c = true) : a.same b = true := by
  rw [same_congr ha hac]
  exact same_symm hb hbc

end Value

/-! ## §5 Tables -/

namespace Keyed

variable {α : Type} {entries : Keyed α} {entry : Value × α} {key other : Value} {a : α}

/-- All that the entries stand under are keys. -/
def HasKeys (entries : Keyed α) : Prop :=
  ∀ entry ∈ entries, entry.1.isKey = true

/-- The table with another entry wherever the key stands. -/
def replace (entries : Keyed α) (key : Value) (a : α) : Keyed α :=
  entries.map fun entry => if entry.1.same key then (entry.1, a) else entry

theorem insert_cons_of_same (h : entry.1.same key = true) :
    insert (entry :: entries) key a = (entry.1, a) :: replace entries key a := by
  simp [insert, replace, h]

theorem insert_cons_of_not_same (h : entry.1.same key = false) :
    insert (entry :: entries) key a = entry :: insert entries key a := by
  unfold insert
  simp only [List.any_cons, h, Bool.false_or, List.map_cons]
  split
  · rfl
  · rfl

theorem replace_cons : replace (entry :: entries) key a =
    (if entry.1.same key then (entry.1, a) else entry) :: replace entries key a := rfl

theorem get?_cons : get? (entry :: entries) other =
    if entry.1.same other then some entry.2 else get? entries other := by
  cases h : entry.1.same other <;> simp [get?, h]

/-- What stands in a table after an entry was put in: the old entries and the new one. -/
theorem mem_insert {new : Value × α} (h : new ∈ entries.insert key a) :
    new ∈ entries ∨ new = (key, a) ∨ ∃ old ∈ entries, old.1.same key = true ∧ new = (old.1, a) := by
  unfold insert at h
  split at h
  · obtain ⟨old, hold, rfl⟩ := List.mem_map.1 h
    split
    next hsame => exact .inr (.inr ⟨old, hold, hsame, rfl⟩)
    next => exact .inl hold
  · obtain hold | hnew := List.mem_append.1 h
    · exact .inl hold
    · exact .inr (.inl (List.mem_singleton.1 hnew))

/-- An entry that was there keeps its key. -/
theorem exists_mem_insert_of_mem {old : Value × α} (h : old ∈ entries) :
    ∃ new ∈ entries.insert key a, new.1 = old.1 := by
  unfold insert
  split
  · refine ⟨_, List.mem_map_of_mem h, ?_⟩
    split <;> rfl
  · exact ⟨old, List.mem_append_left _ h, rfl⟩

/-- An entry that was put in stands under its key or under an earlier one of the same value. -/
theorem exists_mem_insert_self :
    ∃ new ∈ entries.insert key a, new.1 = key ∨ new.1.same key = true := by
  unfold insert
  split
  next hany =>
    obtain ⟨old, hold, hsame⟩ := List.any_eq_true.1 hany
    refine ⟨_, List.mem_map_of_mem hold, .inr ?_⟩
    rw [if_pos hsame]
    exact hsame
  next => exact ⟨(key, a), List.mem_append_right _ (List.mem_singleton.2 rfl), .inl rfl⟩

theorem get?_replace_of_not_same (h : entries.HasKeys) (hne : key.same other = false) :
    (entries.replace key a).get? other = entries.get? other := by
  induction entries with
  | nil => rfl
  | cons entry rest ih =>
    have hrest := ih fun e he => h e (List.mem_cons_of_mem _ he)
    rw [replace_cons, get?_cons, get?_cons, hrest]
    cases hsame : entry.1.same key with
    | false => rfl
    | true =>
      have hother : entry.1.same other = false :=
        (Value.same_congr (h entry List.mem_cons_self) hsame other).trans hne
      simp [hother]

/-- The last entry that was put in under a key counts, whichever key equal in value is asked for. -/
theorem get?_insert (h : entries.HasKeys) (hkey : key.isKey = true) (other : Value) :
    (entries.insert key a).get? other =
      if key.same other then some a else entries.get? other := by
  induction entries with
  | nil => exact get?_cons
  | cons entry rest ih =>
    have hentry : entry.1.isKey = true := h entry List.mem_cons_self
    have hkeys : HasKeys rest := fun e he => h e (List.mem_cons_of_mem _ he)
    -- The first entry is found under the same keys as the new one, or not under any of those.
    cases hsame : entry.1.same key with
    | true =>
      rw [insert_cons_of_same hsame, get?_cons, get?_cons, Value.same_congr hentry hsame other]
      cases hother : key.same other with
      | true => rfl
      | false => exact get?_replace_of_not_same hkeys hother
    | false =>
      rw [insert_cons_of_not_same hsame, get?_cons, get?_cons, ih hkeys]
      cases hfound : entry.1.same other with
      | false => rfl
      | true =>
        have hother : key.same other = false := by
          rw [← Bool.not_eq_true]
          intro hother
          rw [Value.same_of_same hentry hkey hfound hother] at hsame
          cases hsame
        rw [hother]
        rfl

/-- Keys that differ in value stay apart. -/
theorem pairwise_insert (h : entries.Pairwise fun a b => a.1.same b.1 = false) :
    (entries.insert key a).Pairwise fun a b => a.1.same b.1 = false := by
  unfold insert
  split
  next =>
    rw [List.pairwise_map]
    refine h.imp fun hab => ?_
    split <;> split <;> exact hab
  next hnone =>
    rw [List.pairwise_append]
    refine ⟨h, List.pairwise_singleton _ _, fun old hold new hnew => ?_⟩
    cases List.mem_singleton.1 hnew
    simpa using fun hsame => hnone (List.any_eq_true.2 ⟨old, hold, hsame⟩)

end Keyed

end MapFilter
