import Mathlib.Data.List.DropRight
import MapFilter.Text.Basic

/-!
# Texts with blanks around them

Trimming takes away what may stand around a text and nothing else: what is left, with some blanks in
front and some behind, is the text as it was.

- `exists_around_stripChars`: a text is what trimming leaves, with blanks around it
- `stripChars_append`: what is free of blanks is what trimming leaves, whatever blanks are around it
- `stripChars_stripChars`, `trim_trim`: trimming twice is trimming once
- `head?_stripChars`, `getLast?_stripChars`: no blank is left at either end
- `isBlank_of_isDigit`: digits are not blank
-/

namespace MapFilter.Text

variable {p : Char → Bool}

/-- Only characters of the class are taken away, and only at the ends. -/
theorem exists_around_stripChars (p : Char → Bool) (cs : List Char) :
    ∃ before after, cs = before ++ (stripChars p cs ++ after) ∧ (∀ c ∈ before, p c = true) ∧
      ∀ c ∈ after, p c = true := by
  refine ⟨cs.takeWhile p, (cs.dropWhile p).rtakeWhile p, ?_, fun c hc => List.mem_takeWhile_imp hc,
    fun c hc => List.mem_rtakeWhile_imp hc⟩
  have hend : stripChars p cs ++ (cs.dropWhile p).rtakeWhile p = cs.dropWhile p :=
    List.rdropWhile_append_rtakeWhile
  rw [hend, List.takeWhile_append_dropWhile]

/-- Nothing is taken away in front of a character that is not of the class. -/
theorem dropWhile_append_append {before body : List Char} (after : List Char)
    (hbefore : ∀ c ∈ before, p c = true) (hbody : ∀ c ∈ body, p c = false) (hne : body ≠ []) :
    (before ++ (body ++ after)).dropWhile p = body ++ after := by
  rw [List.dropWhile_append_of_pos hbefore]
  cases body with
  | nil => exact absurd rfl hne
  | cons c body =>
    have hc := hbody c List.mem_cons_self
    rw [List.cons_append, List.dropWhile_cons_of_neg (by simp [hc])]

/-- What is between characters of the class and holds none is left. -/
theorem stripChars_append {before body after : List Char} (hbefore : ∀ c ∈ before, p c = true)
    (hbody : ∀ c ∈ body, p c = false) (hafter : ∀ c ∈ after, p c = true) (hne : body ≠ []) :
    stripChars p (before ++ (body ++ after)) = body := by
  -- The end of a row is the start of its reverse.
  have hend : (after.reverse ++ (body.reverse ++ [])).dropWhile p = body.reverse ++ [] :=
    dropWhile_append_append [] (fun c hc => hafter c (List.mem_reverse.1 hc))
      (fun c hc => hbody c (List.mem_reverse.1 hc)) (by simpa using hne)
  rw [List.append_nil] at hend
  rw [stripChars, dropWhile_append_append after hbefore hbody hne, dropEndWhile, List.reverse_append, hend,
    List.reverse_reverse]

/-- Nothing is around a row that holds none. -/
theorem stripChars_eq_self {cs : List Char} (h : ∀ c ∈ cs, p c = false) : stripChars p cs = cs := by
  cases cs with
  | nil => rfl
  | cons c cs =>
    have hstrip := stripChars_append (List.forall_mem_nil _) h (List.forall_mem_nil _)
      (List.cons_ne_nil c cs)
    rwa [List.append_nil, List.nil_append] at hstrip

/-- There is nothing left to take away in front. -/
theorem dropWhile_stripChars (p : Char → Bool) (cs : List Char) :
    (stripChars p cs).dropWhile p = stripChars p cs := by
  refine List.dropWhile_eq_self_iff.2 fun hpos => ?_
  -- What is left begins as it does before anything is taken away at the end.
  obtain ⟨rest, hrest⟩ : stripChars p cs <+: cs.dropWhile p := List.rdropWhile_prefix p _
  have hne : 0 < (cs.dropWhile p).length := by
    rw [← hrest, List.length_append]
    omega
  have hhead := List.dropWhile_get_zero_not p cs hne
  simpa [← hrest, List.getElem_append_left hpos] using hhead

/-- A text without blanks at its ends has none to take away. -/
theorem stripChars_stripChars (p : Char → Bool) (cs : List Char) :
    stripChars p (stripChars p cs) = stripChars p cs := by
  change dropEndWhile p ((stripChars p cs).dropWhile p) = _
  rw [dropWhile_stripChars]
  exact List.rdropWhile_idempotent p _

/-- What is left does not begin with a character of the class. -/
theorem head?_stripChars {cs : List Char} {c : Char} (h : (stripChars p cs).head? = some c) :
    p c = false := by
  have hhead := List.head?_dropWhile_not p (stripChars p cs)
  rw [dropWhile_stripChars, h] at hhead
  exact hhead

/-- What is left does not end with a character of the class. -/
theorem getLast?_stripChars {cs : List Char} {c : Char} (h : (stripChars p cs).getLast? = some c) :
    p c = false := by
  have hne : stripChars p cs ≠ [] := by
    intro hnil
    rw [hnil] at h
    cases h
  have hlast : ¬ p ((stripChars p cs).getLast hne) = true := List.rdropWhile_last_not p _ hne
  rw [List.getLast?_eq_some_getLast hne] at h
  cases h
  exact Bool.eq_false_iff.2 hlast

/-- Nothing is taken away behind what does not belong to the class. -/
theorem head?_dropEndWhile_cons {c : Char} (hc : p c = false) (cs : List Char) :
    (dropEndWhile p (c :: cs)).head? = some c := by
  obtain ⟨rest, hrest⟩ : dropEndWhile p (c :: cs) <+: c :: cs := List.rdropWhile_prefix p _
  cases hleft : dropEndWhile p (c :: cs) with
  | nil =>
    have hall := List.rdropWhile_eq_nil_iff.1 hleft c List.mem_cons_self
    rw [hc] at hall
    cases hall
  | cons first others =>
    rw [hleft, List.cons_append] at hrest
    cases hrest
    rfl

theorem trim_trim (s : String) : trim (trim s) = trim s := by
  rw [trim, trim, String.toList_ofList, stripChars_stripChars]

/-- A decimal digit of any script is not blank. -/
theorem isBlank_of_isDigit {c : Char} (h : isDigit c = true) : isBlank c = false := by
  have hrange : ∀ first ∈ digitZeros, ∀ k < 10, isBlank (Char.ofNat (first + k)) = false := by
    decide
  obtain ⟨digit, hdigit⟩ := Option.isSome_iff_exists.1 h
  obtain ⟨first, hfirst, -⟩ := Option.map_eq_some_iff.1 hdigit
  have hmem := List.mem_of_find?_eq_some hfirst
  have hbounds := List.find?_some hfirst
  simp only [Bool.and_eq_true, decide_eq_true_eq] at hbounds
  have hcode := hrange first hmem (c.toNat - first) (by omega)
  rwa [Nat.add_sub_cancel' hbounds.1, Char.ofNat_toNat] at hcode

end MapFilter.Text
