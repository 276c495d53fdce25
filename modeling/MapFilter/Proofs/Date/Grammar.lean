import MapFilter.Date.Basic
import MapFilter.Proofs.Text.Blank

/-!
# The written forms of a date

Which texts write down a date is said here without a reader: a form is three numerals with the same
separator between them, the year of four digits first or last, and blanks may stand around it. Reading
finds the parts of a text exactly where the text is in one of the forms, and no text has two readings.

- `IsNumeral`: rows of decimal digits of any script, with the number they stand for
- `DateParts.IsForm`, `DateParts.IsWrittenIn`: the two forms of a date, and texts that hold one
- `DateKey.readParts?_eq_some_iff`: reading against the forms
- `DateKey.encode_eq_some_iff`: the texts with a key
-/

namespace MapFilter

open Text

/-! ## §1 Numerals -/

/-- A row of decimal digits of any script, and the number it stands for. -/
inductive IsNumeral : List Char → Nat → Prop where
  | nil : IsNumeral [] 0
  | snoc {cs : List Char} {n : Nat} {c : Char} {digit : Nat} :
    IsNumeral cs n → digitValue? c = some digit → IsNumeral (cs ++ [c]) (n * 10 + digit)

/-- A row of digits is the numeral of its value. -/
theorem isNumeral_iff {cs : List Char} {n : Nat} :
    IsNumeral cs n ↔ (∀ c ∈ cs, isDigit c = true) ∧ digitsValue cs = n := by
  have hvalue (cs : List Char) (c : Char) :
      digitsValue (cs ++ [c]) = digitsValue cs * 10 + (digitValue? c).getD 0 := by
    simp [digitsValue]
  constructor
  · intro h
    induction h with
    | nil => exact ⟨fun c hc => absurd hc List.not_mem_nil, rfl⟩
    | @snoc cs n c digit _ hdigit ih =>
      refine ⟨fun x hx => ?_, by rw [hvalue, ih.2, hdigit, Option.getD_some]⟩
      rcases List.mem_append.1 hx with hx | hx
      · exact ih.1 x hx
      · rw [List.mem_singleton.1 hx, isDigit, hdigit]
        rfl
  · -- The last digit adds to ten times what stands in front of it.
    rintro ⟨hdigits, rfl⟩
    induction cs using List.reverseRecOn with
    | nil => exact .nil
    | append_singleton cs c ih =>
      obtain ⟨digit, hdigit⟩ := Option.isSome_iff_exists.1 (hdigits c (by simp))
      rw [hvalue, hdigit, Option.getD_some]
      exact (ih fun x hx => hdigits x (List.mem_append_left _ hx)).snoc hdigit

theorem IsNumeral.isDigit {cs : List Char} {n : Nat} (h : IsNumeral cs n) :
    ∀ c ∈ cs, isDigit c = true :=
  (isNumeral_iff.1 h).1

/-- A year is written with four digits. -/
def IsYearNumeral (cs : List Char) (year : Nat) : Prop :=
  IsNumeral cs year ∧ cs.length = 4

/-- A month or a day is written with one digit or two. -/
def IsShortNumeral (cs : List Char) (n : Nat) : Prop :=
  IsNumeral cs n ∧ (cs.length = 1 ∨ cs.length = 2)

/-! ## §2 The two forms -/

namespace DateParts

/-- The forms of a date: the year first, or the month first and the year last. -/
inductive IsForm (d : DateParts) : List Char → Prop where
  | yearFirst {year month day : List Char} :
    IsYearNumeral year d.year → IsShortNumeral month d.month → IsShortNumeral day d.day →
      d.IsForm (year ++ '-' :: (month ++ '-' :: day))
  | monthFirst {month day year : List Char} :
    IsShortNumeral month d.month → IsShortNumeral day d.day → IsYearNumeral year d.year →
      d.IsForm (month ++ '/' :: (day ++ '/' :: year))

/-- A text that holds one of the forms of a date and nothing else but blanks around it. -/
def IsWrittenIn (d : DateParts) (s : String) : Prop :=
  ∃ before form after, s.toList = before ++ (form ++ after) ∧ d.IsForm form ∧
    (∀ c ∈ before, isBlank c = true) ∧ ∀ c ∈ after, isBlank c = true

variable {d : DateParts} {cs : List Char}

/-- Digits and the separator make up a form, so it is free of blanks. -/
theorem IsForm.isBlank (h : d.IsForm cs) : ∀ c ∈ cs, isBlank c = false := by
  intro c hc
  cases h with
  | yearFirst hyear hmonth hday =>
    simp only [List.mem_append, List.mem_cons] at hc
    rcases hc with hc | rfl | hc | rfl | hc
    · exact isBlank_of_isDigit (hyear.1.isDigit c hc)
    · decide
    · exact isBlank_of_isDigit (hmonth.1.isDigit c hc)
    · decide
    · exact isBlank_of_isDigit (hday.1.isDigit c hc)
  | monthFirst hmonth hday hyear =>
    simp only [List.mem_append, List.mem_cons] at hc
    rcases hc with hc | rfl | hc | rfl | hc
    · exact isBlank_of_isDigit (hmonth.1.isDigit c hc)
    · decide
    · exact isBlank_of_isDigit (hday.1.isDigit c hc)
    · decide
    · exact isBlank_of_isDigit (hyear.1.isDigit c hc)

theorem IsForm.ne_nil (h : d.IsForm cs) : cs ≠ [] := by
  cases h <;> simp

/-- A text that is a form needs no blanks around it. -/
theorem IsForm.isWrittenIn {s : String} (h : d.IsForm s.toList) : d.IsWrittenIn s :=
  ⟨[], s.toList, [], by simp, h, fun c hc => absurd hc List.not_mem_nil,
    fun c hc => absurd hc List.not_mem_nil⟩

end DateParts

/-! ## §3 Reading a form -/

namespace DateKey

variable {separator : Char} {cs : List Char} {d : DateParts}

/-- A text is split at a separator that is no digit, in the one way there is. -/
theorem fields?_eq_some_iff (hseparator : isDigit separator = false) {a b c : List Char} :
    fields? separator cs = some (a, b, c) ↔
      cs = a ++ separator :: (b ++ separator :: c) ∧ (∀ x ∈ a, isDigit x = true) ∧
        (∀ x ∈ b, isDigit x = true) ∧ ∀ x ∈ c, isDigit x = true := by
  constructor
  · intro h
    unfold fields? at h
    split at h
    · cases h
    · rename_i s rest hfirst
      split at h
      · cases h
      · rename_i t last hsecond
        split at h
        · rename_i hlast
          cases h
          simp only [Bool.and_eq_true, beq_iff_eq, List.all_eq_true] at hlast
          obtain ⟨⟨rfl, rfl⟩, hdigits⟩ := hlast
          refine ⟨?_, fun x hx => List.mem_takeWhile_imp hx, fun x hx => List.mem_takeWhile_imp hx,
            hdigits⟩
          rw [← hsecond, List.takeWhile_append_dropWhile, ← hfirst,
            List.takeWhile_append_dropWhile]
        · cases h
  · rintro ⟨rfl, ha, hb, hc⟩
    have hstop : ¬ isDigit separator = true := by simp [hseparator]
    simp only [fields?, List.dropWhile_append_of_pos ha, List.dropWhile_cons_of_neg hstop,
      List.dropWhile_append_of_pos hb, List.takeWhile_append_of_pos ha,
      List.takeWhile_cons_of_neg hstop, List.takeWhile_append_of_pos hb, List.append_nil]
    rw [if_pos]
    simpa using hc

theorem isShort_iff : isShort cs = true ↔ cs.length = 1 ∨ cs.length = 2 := by
  simp [isShort]

/-- The form with the year first. -/
theorem readIso?_eq_some_iff :
    readIso? cs = some d ↔
      ∃ year month day, cs = year ++ '-' :: (month ++ '-' :: day) ∧ IsYearNumeral year d.year ∧
        IsShortNumeral month d.month ∧ IsShortNumeral day d.day := by
  obtain ⟨year, month, day⟩ := d
  simp only [readIso?, Option.bind_eq_some_iff, Prod.exists, Option.ite_none_right_eq_some,
    Option.some.injEq, DateParts.mk.injEq, Bool.and_eq_true, beq_iff_eq, isShort_iff,
    fields?_eq_some_iff (show isDigit '-' = false by decide), IsYearNumeral, IsShortNumeral,
    isNumeral_iff]
  -- Both sides say the same of each of the three fields.
  refine exists_congr fun _ => exists_congr fun _ => exists_congr fun _ => ?_
  tauto

/-- The form with the month first. -/
theorem readSlashed?_eq_some_iff :
    readSlashed? cs = some d ↔
      ∃ month day year, cs = month ++ '/' :: (day ++ '/' :: year) ∧ IsShortNumeral month d.month ∧
        IsShortNumeral day d.day ∧ IsYearNumeral year d.year := by
  obtain ⟨year, month, day⟩ := d
  simp only [readSlashed?, Option.bind_eq_some_iff, Prod.exists, Option.ite_none_right_eq_some,
    Option.some.injEq, DateParts.mk.injEq, Bool.and_eq_true, beq_iff_eq, isShort_iff,
    fields?_eq_some_iff (show isDigit '/' = false by decide), IsYearNumeral, IsShortNumeral,
    isNumeral_iff]
  refine exists_congr fun _ => exists_congr fun _ => exists_congr fun _ => ?_
  tauto

/-! ## §4 Reading a text -/

/-- A row of characters is read if it is one of the forms. -/
theorem readForm?_eq_some_iff : (readIso? cs).or (readSlashed? cs) = some d ↔ d.IsForm cs := by
  rw [Option.or_eq_some_iff, readIso?_eq_some_iff, readSlashed?_eq_some_iff]
  constructor
  · rintro (⟨year, month, day, rfl, hyear, hmonth, hday⟩ |
      ⟨-, month, day, year, rfl, hmonth, hday, hyear⟩)
    · exact .yearFirst hyear hmonth hday
    · exact .monthFirst hmonth hday hyear
  · intro h
    cases h with
    | @yearFirst year month day hyear hmonth hday =>
      exact .inl ⟨year, month, day, rfl, hyear, hmonth, hday⟩
    | @monthFirst month day year hmonth hday hyear =>
      refine .inr ⟨?_, month, day, year, rfl, hmonth, hday, hyear⟩
      -- The first character that is no digit tells the forms apart.
      rw [Option.eq_none_iff_forall_ne_some]
      intro e he
      obtain ⟨other, _, _, hforms, hother, -, -⟩ := readIso?_eq_some_iff.1 he
      have hrest := congrArg (List.dropWhile isDigit) hforms
      rw [List.dropWhile_append_of_pos hmonth.1.isDigit,
        List.dropWhile_append_of_pos hother.1.isDigit, List.dropWhile_cons_of_neg (by decide),
        List.dropWhile_cons_of_neg (by decide)] at hrest
      cases hrest

/-- A text is read if it holds one of the forms and nothing else but blanks around it. -/
theorem readParts?_eq_some_iff {s : String} : readParts? s = some d ↔ d.IsWrittenIn s := by
  unfold readParts?
  rw [readForm?_eq_some_iff]
  constructor
  · intro hform
    obtain ⟨before, after, hs, hbefore, hafter⟩ := exists_around_stripChars isBlank s.toList
    exact ⟨before, _, after, hs, hform, hbefore, hafter⟩
  · rintro ⟨before, form, after, hs, hform, hbefore, hafter⟩
    rwa [hs, stripChars_append hbefore hform.isBlank hafter hform.ne_nil]

/-- The texts with a key write down parts of the right size, whose key it is. -/
theorem encode_eq_some_iff {s : String} {key : Int} :
    encode s = some key ↔ ∃ d : DateParts, d.IsWrittenIn s ∧ d.isValid = true ∧ d.key = key := by
  simp only [encode, Option.bind_eq_some_iff, readParts?_eq_some_iff,
    Option.ite_none_right_eq_some, Option.some.injEq]

end DateKey

end MapFilter
