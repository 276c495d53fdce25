/-!
# Histories of edits

What happens to a scheduler: edits are handed to it, it is told to cancel, and it applies edits. An
edit is known by its number, which is how many were handed over before it. In a sound history only
the edit that was handed over last is ever applied, and only if nothing happened since.

- `History.HasFate`: what became of an edit
- `History.Sound`: what is applied was the last thing to happen
- `History.Sound.applied_increasing`: numbers of applied edits increase
- `History.Sound.hasFate_iff`: each edit has one fate
-/

namespace MapFilter

/-! ## §1 Events -/

/-- What happens to a scheduler of edits. -/
inductive Event (α : Type) where
  /-- An edit is handed over, whether to wait or to be applied at once. -/
  | call (edit : α)
  | cancel
  /-- The edit with a number is applied. -/
  | apply (number : Nat) (edit : α)

/-- The events so far, the latest first. -/
abbrev History (α : Type) := List (Event α)

/-- What may become of an edit. -/
inductive Fate where
  | applied
  | superseded
  | dropped
  | pending
deriving DecidableEq

namespace History

variable {α : Type} {h : History α} {n : Nat}

/-- The number of edits that were handed over. -/
def calls : History α → Nat
  | [] => 0
  | .call _ :: before => calls before + 1
  | .cancel :: before | .apply _ _ :: before => calls before

/-- The numbers of the edits that were applied, the latest first. -/
def applied : History α → List Nat
  | [] => []
  | .apply n _ :: before => n :: applied before
  | .call _ :: before | .cancel :: before => applied before

/-- The edit was the last one to be handed over, with this number, and nothing was cancelled
since. -/
def IsFresh (before : History α) (n : Nat) (edit : α) : Prop :=
  ∃ since earlier, before = since ++ .call edit :: earlier ∧ calls earlier = n
    ∧ (∀ other, .call other ∉ since) ∧ .cancel ∉ since

/-- Nothing became of the edit with a number: only other edits were applied. -/
def IsQuiet (n : Nat) (since : History α) : Prop :=
  ∀ e ∈ since, ∃ m edit, e = .apply m edit ∧ m ≠ n

/-- What became of the edit with a number, where the scheduler has some pending edit. -/
def HasFate (h : History α) (pending : Option (Nat × α)) (n : Nat) : Fate → Prop
  | .applied => n ∈ h.applied
  | .superseded =>
    ∃ later other since edit before, h = later ++ .call other :: (since ++ .call edit :: before)
      ∧ calls before = n ∧ IsQuiet n since
  | .dropped =>
    ∃ later since edit before, h = later ++ .cancel :: (since ++ .call edit :: before)
      ∧ calls before = n ∧ IsQuiet n since
  | .pending => ∃ edit, pending = some (n, edit)

/-- The edit that waits to be applied, with its number: one that was just handed over. -/
def waiting : History α → Option (Nat × α)
  | .call edit :: before => some (calls before, edit)
  | _ => none

/-- Only an edit that waits is applied. -/
inductive Sound : History α → Prop where
  | nil : Sound []
  | call {before : History α} (edit : α) : Sound before → Sound (.call edit :: before)
  | cancel {before : History α} : Sound before → Sound (.cancel :: before)
  | apply {before : History α} {n : Nat} {edit : α} :
    Sound before → waiting before = some (n, edit) → Sound (.apply n edit :: before)

/-! ## §2 Numbers -/

theorem calls_append (later before : History α) :
    calls (later ++ before) = calls later + calls before := by
  induction later with
  | nil => exact (Nat.zero_add _).symm
  | cons e later ih =>
    cases e with
    | call edit =>
      simp only [List.cons_append, calls, ih]
      omega
    | cancel => exact ih
    | apply m edit => exact ih

theorem exists_call (hn : n < calls h) :
    ∃ since edit before, h = since ++ .call edit :: before ∧ calls before = n := by
  induction h with
  | nil => exact absurd hn (Nat.not_lt_zero n)
  | cons e rest ih =>
    -- Numbers count from the first event on, so only the latest call may have the last number.
    by_cases hrest : n < calls rest
    · obtain ⟨since, edit, before, rfl, hbefore⟩ := ih hrest
      exact ⟨e :: since, edit, before, rfl, hbefore⟩
    · cases e with
      | call edit =>
        have hlast : calls rest = n := by
          simp only [calls] at hn
          omega
        exact ⟨[], edit, rest, rfl, hlast⟩
      | cancel => exact absurd hn hrest
      | apply m edit => exact absurd hn hrest

/-- An edit that waits was just handed over. -/
theorem waiting_eq_some {edit : α} (hw : waiting h = some (n, edit)) :
    ∃ before, h = .call edit :: before ∧ calls before = n := by
  cases h with
  | nil => cases hw
  | cons e before =>
    cases e with
    | call other =>
      cases hw
      exact ⟨before, rfl, rfl⟩
    | cancel => cases hw
    | apply m other => cases hw

/-- The number of an edit that waits is how many were handed over before it. -/
theorem waiting_number (hw : (waiting h).map Prod.fst = some n) :
    ∃ edit before, h = .call edit :: before ∧ calls before = n := by
  obtain ⟨⟨m, edit⟩, hw, hm⟩ := Option.map_eq_some_iff.1 hw
  obtain ⟨before, hbefore, hcalls⟩ := waiting_eq_some hw
  exact ⟨edit, before, hbefore, hcalls.trans hm⟩

theorem exists_apply (hn : n ∈ applied h) :
    ∃ later edit before, h = later ++ .apply n edit :: before := by
  induction h with
  | nil => cases hn
  | cons e rest ih =>
    -- The edit may have been applied earlier than by the latest event.
    have hlater (hrest : n ∈ applied rest) :
        ∃ later edit before, e :: rest = later ++ .apply n edit :: before := by
      obtain ⟨later, edit, before, rfl⟩ := ih hrest
      exact ⟨e :: later, edit, before, rfl⟩
    cases e with
    | call edit => exact hlater hn
    | cancel => exact hlater hn
    | apply m edit =>
      rcases List.mem_cons.1 hn with rfl | hrest
      · exact ⟨[], edit, rest, rfl⟩
      · exact hlater hrest

theorem mem_applied_append (later before : History α) (edit : α) :
    n ∈ applied (later ++ .apply n edit :: before) := by
  induction later with
  | nil => exact List.mem_cons_self
  | cons e later ih =>
    cases e with
    | call other => exact ih
    | cancel => exact ih
    | apply m other => exact List.mem_cons_of_mem _ ih

/-! ## §3 Sound histories -/

theorem Sound.of_append {later before : History α} (hs : Sound (later ++ before)) :
    Sound before := by
  induction later with
  | nil => exact hs
  | cons e later ih =>
    cases hs with
    | call edit hs => exact ih hs
    | cancel hs => exact ih hs
    | apply hs _ => exact ih hs

/-- An edit is applied right after it was handed over. -/
theorem Sound.call_before_apply {later before : History α} {edit : α}
    (hs : Sound (later ++ .apply n edit :: before)) :
    ∃ earlier, before = .call edit :: earlier ∧ calls earlier = n := by
  cases hs.of_append with
  | apply _ hw => exact waiting_eq_some hw

theorem Sound.isFresh {later before : History α} {edit : α}
    (hs : Sound (later ++ .apply n edit :: before)) : IsFresh before n edit := by
  obtain ⟨earlier, rfl, hearlier⟩ := hs.call_before_apply
  exact ⟨[], earlier, rfl, hearlier, fun _ => List.not_mem_nil, List.not_mem_nil⟩

/-- Only edits that were handed over are applied. -/
theorem Sound.lt_calls (hs : Sound h) : ∀ m ∈ applied h, m < calls h := by
  intro m hm
  obtain ⟨later, edit, before, rfl⟩ := exists_apply hm
  obtain ⟨earlier, rfl, hearlier⟩ := hs.call_before_apply
  have hcalls : calls (later ++ .apply m edit :: .call edit :: earlier) =
      calls later + (calls earlier + 1) := calls_append _ _
  omega

/-- The numbers of applied edits increase. -/
theorem Sound.applied_increasing (hs : Sound h) : h.applied.reverse.Pairwise (· < ·) := by
  rw [List.pairwise_reverse]
  induction hs with
  | nil => exact .nil
  | call edit _ ih => exact ih
  | cancel _ ih => exact ih
  | @apply before m edit hbefore hw ih =>
    refine List.pairwise_cons.2 ⟨fun k hk => ?_, ih⟩
    -- The edits that were applied before have smaller numbers than the one that waited.
    obtain ⟨earlier, rfl, rfl⟩ := waiting_eq_some hw
    cases hbefore with
    | call _ hearlier => exact hearlier.lt_calls k hk

/-! ## §4 Fates -/

/-- The event right after an edit was handed over. -/
def next : History α → Nat → Option (Event α)
  | [], _ => none
  | e :: before, n => if (waiting before).map Prod.fst = some n then some e else next before n

/-- What becomes of an edit, by the event right after it was handed over. -/
def fate (h : History α) (n : Nat) : Fate :=
  match h.next n with
  | none => .pending
  | some (.call _) => .superseded
  | some .cancel => .dropped
  | some (.apply _ _) => .applied

theorem next_eq_none (hn : calls h ≤ n) : next h n = none := by
  induction h with
  | nil => rfl
  | cons e before ih =>
    have hbefore : calls before ≤ n := by
      have hcalls : calls (e :: before) = calls [e] + calls before := calls_append [e] before
      omega
    -- An edit that waits there has a smaller number.
    have hwaiting : (waiting before).map Prod.fst ≠ some n := by
      intro hw
      obtain ⟨edit, earlier, rfl, hearlier⟩ := waiting_number hw
      simp only [calls] at hbefore
      omega
    rw [next, if_neg hwaiting, ih hbefore]

/-- Nothing came after an edit that was handed over last. -/
theorem next_call {edit : α} (before : History α) :
    next (.call edit :: before) (calls before) = none := by
  have hwaiting : (waiting before).map Prod.fst ≠ some (calls before) := by
    intro hw
    obtain ⟨other, earlier, rfl, hearlier⟩ := waiting_number hw
    simp only [calls] at hearlier
    omega
  rw [next, if_neg hwaiting, next_eq_none (Nat.le_refl _)]

/-- The event right after an edit was handed over stays the same. -/
theorem next_append (later : History α) (e : Event α) (edit : α) (before : History α) :
    next (later ++ e :: .call edit :: before) (calls before) = some e := by
  induction later with
  | nil =>
    rw [List.nil_append, next, if_pos]
    rfl
  | cons f later ih =>
    have hwaiting : (waiting (later ++ e :: .call edit :: before)).map Prod.fst ≠
        some (calls before) := by
      intro hw
      obtain ⟨other, earlier, hearlier, hm⟩ := waiting_number hw
      -- That edit was handed over after the one in question, so its number is greater.
      have htail : ∃ between, earlier = between ++ .call edit :: before := by
        cases later with
        | nil => exact ⟨[], (List.cons.inj hearlier).2.symm⟩
        | cons g later => exact ⟨later ++ [e], by simp [← (List.cons.inj hearlier).2]⟩
      obtain ⟨between, rfl⟩ := htail
      rw [calls_append, calls] at hm
      omega
    rw [List.cons_append, next, if_neg hwaiting, ih]

/-- Nothing happens quietly after an edit was handed over. -/
theorem Sound.eq_nil_of_isQuiet {since before : History α} {edit : α}
    (hs : Sound (since ++ .call edit :: before)) (hquiet : IsQuiet (calls before) since) :
    since = [] := by
  rcases List.eq_nil_or_concat since with hnil | ⟨others, e, rfl⟩
  · exact hnil
  · -- The first event is an application, and can only be that of the edit itself.
    obtain ⟨m, other, rfl, hm⟩ := hquiet e (by simp)
    rw [List.concat_eq_append, List.append_assoc, List.singleton_append] at hs
    obtain ⟨earlier, hearlier, hcalls⟩ := hs.call_before_apply
    cases hearlier
    exact absurd hcalls.symm hm

/-- Each edit has the fate that the event right after it gives it, and no other. -/
theorem Sound.hasFate_iff (hs : Sound h) (hn : n < calls h) (f : Fate) :
    HasFate h (waiting h) n f ↔ f = fate h n := by
  constructor
  · -- Each fate shows the event right after the edit was handed over.
    intro hf
    cases f with
    | applied =>
      obtain ⟨later, edit, before, rfl⟩ := exists_apply hf
      obtain ⟨earlier, rfl, rfl⟩ := hs.call_before_apply
      rw [fate, next_append]
    | superseded =>
      obtain ⟨later, other, since, edit, before, rfl, rfl, hquiet⟩ := hf
      have hsince : since = [] := by
        cases hs.of_append with
        | call _ hs => exact hs.eq_nil_of_isQuiet hquiet
      subst hsince
      rw [List.nil_append, fate, next_append]
    | dropped =>
      obtain ⟨later, since, edit, before, rfl, rfl, hquiet⟩ := hf
      have hsince : since = [] := by
        cases hs.of_append with
        | cancel hs => exact hs.eq_nil_of_isQuiet hquiet
      subst hsince
      rw [List.nil_append, fate, next_append]
    | pending =>
      obtain ⟨edit, hw⟩ := hf
      obtain ⟨before, rfl, rfl⟩ := waiting_eq_some hw
      rw [fate, next_call]
  · -- And each event right after it, or the lack of one, makes a fate.
    rintro rfl
    obtain ⟨since, edit, before, rfl, rfl⟩ := exists_call hn
    rcases List.eq_nil_or_concat since with rfl | ⟨later, e, rfl⟩
    · rw [List.nil_append, fate, next_call]
      exact ⟨edit, rfl⟩
    · have hquiet : IsQuiet (calls before) ([] : History α) := fun e he => absurd he List.not_mem_nil
      rw [List.concat_eq_append, List.append_assoc, List.singleton_append] at hs ⊢
      rw [fate, next_append]
      cases e with
      | call other => exact ⟨later, other, [], edit, before, rfl, rfl, hquiet⟩
      | cancel => exact ⟨later, [], edit, before, rfl, rfl, hquiet⟩
      | apply m other =>
        obtain ⟨earlier, hearlier, rfl⟩ := hs.call_before_apply
        cases hearlier
        exact mem_applied_append later _ _

end History

end MapFilter
