import MapFilter.Proofs.Date.Grammar
import MapFilter.Proofs.Date.Listing

/-!
# Dates written out and read back

A key is written out by its parts, and what is written out should be read as the same key. With zeros in
front every part has the digits that a form asks for, so the key always comes back. Without zeros a year
has only the digits it needs, and a form asks for four: the texts of days before the year 1000 are in
neither form.

- `isNumeral_toDigits`, `isNumeral_padded`: written numbers are numerals
- `DateKey.isValid_iff`: valid keys by their quotients
- `DateKey.encode_decode`: reading written dates, keys and dates with zeros in front
- `DateKey.encode_text`: reading dates without zeros in front
- `DateKey.text_comes_back_iff`: which of them are read back, for keys, real days and ranges of days
-/

namespace MapFilter

open Text

/-! ## §1 Written numbers -/

theorem digitValue?_digitChar {n : Nat} (h : n < 10) : digitValue? n.digitChar = some n := by
  decide +revert

/-- The digits of a number are its numeral. -/
theorem isNumeral_toDigits (n : Nat) : IsNumeral (Nat.toDigits 10 n) n := by
  induction n using Nat.strongRecOn with
  | ind n ih =>
    rw [Nat.toDigits_eq_if (by decide)]
    split
    · rename_i hsmall
      have hdigit := IsNumeral.nil.snoc (digitValue?_digitChar hsmall)
      rwa [Nat.zero_mul, Nat.zero_add] at hdigit
    · rename_i hlarge
      have hdigits := (ih (n / 10) (by omega)).snoc (digitValue?_digitChar (n := n % 10) (by omega))
      rwa [Nat.div_add_mod'] at hdigits

/-- A zero in front makes no difference. -/
theorem IsNumeral.zero_cons {cs : List Char} {n : Nat} (h : IsNumeral cs n) :
    IsNumeral ('0' :: cs) n := by
  induction h with
  | nil =>
    have hzero : digitValue? '0' = some 0 := rfl
    exact IsNumeral.nil.snoc hzero
  | snoc _ hdigit ih => exact ih.snoc hdigit

namespace DateParts

theorem isNumeral_padded (width n : Nat) : IsNumeral (padded width n).toList n := by
  simp only [padded, String.toList_ofList]
  induction width - (Nat.toDigits 10 n).length with
  | zero => exact isNumeral_toDigits n
  | succ zeros ih => exact ih.zero_cons

theorem length_padded {width n : Nat} (hwidth : 0 < width) (h : n < 10 ^ width) :
    (padded width n).toList.length = width := by
  have hlength := (Nat.length_toDigits_le_iff (b := 10) (by decide) hwidth).2 h
  simp only [padded, String.toList_ofList, List.length_append, List.length_replicate]
  omega

theorem isYearNumeral_padded {year : Nat} (h : year ≤ 9999) :
    IsYearNumeral (padded 4 year).toList year :=
  ⟨isNumeral_padded 4 year, length_padded (by decide) (by omega)⟩

theorem isShortNumeral_padded {n : Nat} (h : n < 100) : IsShortNumeral (padded 2 n).toList n :=
  ⟨isNumeral_padded 2 n, .inr (length_padded (by decide) h)⟩

theorem isShortNumeral_toDigits {n : Nat} (h : n < 100) : IsShortNumeral (Nat.toDigits 10 n) n := by
  have hpos := Nat.length_toDigits_pos (b := 10) (n := n)
  have hlength := (Nat.length_toDigits_le_iff (b := 10) (n := n) (k := 2) (by decide)
    (by decide)).2 h
  exact ⟨isNumeral_toDigits n, by omega⟩

/-- Without zeros in front only years from 1000 on have four digits. -/
theorem length_toDigits_year {year : Nat} (h : year ≤ 9999) :
    (Nat.toDigits 10 year).length = 4 ↔ 1000 ≤ year := by
  have hfour := (Nat.length_toDigits_le_iff (b := 10) (n := year) (k := 4) (by decide)
    (by decide)).2 (by omega)
  have hthree := Nat.length_toDigits_le_iff (b := 10) (n := year) (k := 3) (by decide) (by decide)
  omega

end DateParts

namespace DateKey

variable {key : Int} {d : DateParts}

/-! ## §2 Valid keys -/

/-- An integer of any sign is valid if its quotients are of the right size. -/
theorem isValid_iff :
    isValid key = true ↔
      (1 ≤ key / 10000 ∧ key / 10000 ≤ 9999) ∧
        (1 ≤ key % 10000 / 100 ∧ key % 10000 / 100 ≤ 12) ∧
          1 ≤ key % 10000 % 100 ∧ key % 10000 % 100 ≤ 31 := by
  simp only [isValid, parts, Bool.and_eq_true, decide_eq_true_eq, DateParts.isValid_iff]
  omega

/-! ## §3 With zeros in front -/

theorem toList_iso (d : DateParts) :
    d.iso.toList = (DateParts.padded 4 d.year).toList ++
      '-' :: ((DateParts.padded 2 d.month).toList ++ '-' :: (DateParts.padded 2 d.day).toList) := by
  have hdash : "-".toList = ['-'] := rfl
  simp [DateParts.iso, hdash]

/-- A date with zeros in front is read as its key. -/
theorem encode_iso (h : d.isValid = true) : encode d.iso = some d.key := by
  refine encode_eq_some_iff.2 ⟨d, DateParts.IsForm.isWrittenIn ?_, h, rfl⟩
  rw [DateParts.isValid_iff] at h
  rw [toList_iso]
  exact .yearFirst (DateParts.isYearNumeral_padded h.1.2)
    (DateParts.isShortNumeral_padded (by omega)) (DateParts.isShortNumeral_padded (by omega))

/-- A text has a key if and only if it holds a date in one of the two forms, with blanks around it at
most, and parts of the right size; the key is made of these parts, is valid, and leads back to them.
Other values have none. Keys are valid by their quotients, whatever their sign and size, and exactly
those lead to parts; and the parts of a valid key, written with zeros in front, are read as the key. -/
theorem encode_decode :
    (∀ (s : String) (key : Int), encodeValue (.text s) = some key ↔
        ∃ d : DateParts, d.IsWrittenIn s ∧
          ((1 ≤ d.year ∧ d.year ≤ 9999) ∧ (1 ≤ d.month ∧ d.month ≤ 12) ∧
            1 ≤ d.day ∧ d.day ≤ 31) ∧
          (d.year * 10000 + d.month * 100 + d.day : Int) = key ∧
          ofValue? (.int key) = some key ∧ decode? (.int key) = some d) ∧
      (∀ v : Value, (∀ s, v ≠ .text s) → encodeValue v = none) ∧
      (∀ (v : Value) (key : Int), ofValue? v = some key ↔ v = .int key ∧
        (1 ≤ key / 10000 ∧ key / 10000 ≤ 9999) ∧
          (1 ≤ key % 10000 / 100 ∧ key % 10000 / 100 ≤ 12) ∧
            1 ≤ key % 10000 % 100 ∧ key % 10000 % 100 ≤ 31) ∧
      (∀ v : Value, decode? v = none ↔ ofValue? v = none) ∧
      ∀ (key : Int) (d : DateParts), decode? (.int key) = some d → encode d.iso = some key := by
  refine ⟨fun s key => ?_, fun v hv => ?_, fun v key => ?_, fun v => ?_, fun key d hd => ?_⟩
  · rw [encodeValue, encode_eq_some_iff]
    constructor
    · rintro ⟨d, hd, hvalid, rfl⟩
      exact ⟨d, hd, d.isValid_iff.1 hvalid, rfl, ofValue?_eq_some_iff.2 ⟨rfl, isValid_key hvalid⟩,
        decode?_eq_some_iff.2 ⟨rfl, hvalid⟩⟩
    · rintro ⟨d, hd, hsize, hkey, -, -⟩
      exact ⟨d, hd, d.isValid_iff.2 hsize, hkey⟩
  · cases v with
    | text s => exact absurd rfl (hv s)
    | _ => rfl
  · rw [ofValue?_eq_some_iff, isValid_iff]
  · exact Option.map_eq_none_iff
  · obtain ⟨hkey, hvalid⟩ := decode?_eq_some_iff.1 hd
    cases hkey
    exact encode_iso hvalid

/-! ## §4 Without zeros in front -/

/-- A date without zeros in front is one of the forms if its year has four digits. -/
theorem isForm_text (h : d.isValid = true) (hyear : 1000 ≤ d.year) : d.IsForm d.text.toList := by
  rw [DateParts.isValid_iff] at h
  rw [DateParts.toList_text]
  exact .monthFirst (DateParts.isShortNumeral_toDigits (by omega))
    (DateParts.isShortNumeral_toDigits (by omega))
    ⟨isNumeral_toDigits d.year, (DateParts.length_toDigits_year h.1.2).2 hyear⟩

theorem mem_text {c : Char} (hc : c ∈ d.text.toList) : isDigit c = true ∨ c = '/' := by
  simp only [DateParts.toList_text, List.mem_append, List.mem_cons] at hc
  rcases hc with hc | hc | hc | hc | hc
  · exact .inl ((isNumeral_toDigits d.month).isDigit c hc)
  · exact .inr hc
  · exact .inl ((isNumeral_toDigits d.day).isDigit c hc)
  · exact .inr hc
  · exact .inl ((isNumeral_toDigits d.year).isDigit c hc)

theorem isBlank_of_mem_text {c : Char} (hc : c ∈ d.text.toList) : isBlank c = false := by
  rcases mem_text hc with hdigit | rfl
  · exact isBlank_of_isDigit hdigit
  · decide

/-- With a shorter year the text holds no date at all. -/
theorem not_isWrittenIn_text (hyear : d.year < 1000) (e : DateParts) : ¬ e.IsWrittenIn d.text := by
  rintro ⟨before, form, after, htext, hform, hbefore, hafter⟩
  -- There are no blanks in the text, so the form would be all of it.
  have hnone {blanks : List Char} (hsub : ∀ c ∈ blanks, c ∈ d.text.toList)
      (hblank : ∀ c ∈ blanks, isBlank c = true) : blanks = [] := by
    refine List.eq_nil_iff_forall_not_mem.2 fun c hc => ?_
    have hfalse := isBlank_of_mem_text (hsub c hc)
    rw [hblank c hc] at hfalse
    cases hfalse
  have hfront : before = [] := hnone (fun c hc => by simp [htext, hc]) hbefore
  have hend : after = [] := hnone (fun c hc => by simp [htext, hc]) hafter
  subst hfront hend
  rw [List.nil_append, List.append_nil] at htext
  cases hform with
  | yearFirst _ _ _ =>
    have hdash := mem_text (d := d) (c := '-') (by simp [htext])
    exact absurd hdash (by decide)
  | @monthFirst month day year hmonth hday hyears =>
    have hslash {cs : List Char} {n : Nat} (h : IsNumeral cs n) : '/' ∉ cs :=
      fun hmem => absurd (h.isDigit _ hmem) (by decide)
    -- Split at the slashes, the last field is the year, and it is too short.
    rw [DateParts.toList_text] at htext
    have ⟨_, hrest⟩ := separated_inj (slash_notMem_toDigits d.month) (hslash hmonth.1) htext
    have ⟨_, hlast⟩ := separated_inj (slash_notMem_toDigits d.day) (hslash hday.1) hrest
    have hfour : (Nat.toDigits 10 d.year).length = 4 := hlast ▸ hyears.2
    have hlong := (DateParts.length_toDigits_year (by omega)).1 hfour
    omega

/-- A date without zeros in front is read as its key from the year 1000 on, and not at all before. -/
theorem encode_text (h : d.isValid = true) :
    encode d.text = if 1000 ≤ d.year then some d.key else none := by
  split
  · rename_i hyear
    exact encode_eq_some_iff.2 ⟨d, (isForm_text h hyear).isWrittenIn, h, rfl⟩
  · rename_i hyear
    rw [Option.eq_none_iff_forall_ne_some]
    intro key hkey
    obtain ⟨e, he, -⟩ := encode_eq_some_iff.1 hkey
    exact not_isWrittenIn_text (by omega) e he

/-- Dates without zeros in front, as the records hold them, are read back as their keys if the year has
four digits, and have no key otherwise: those of valid keys, those of real days, and all texts of a range
that is written out. -/
theorem text_comes_back_iff (key : Int) (d : DateParts) (start stop : Value) (limit : DayLimit)
    (texts : List String) :
    (decode? (.int key) = some d →
        encode d.text = if 10000000 ≤ key then some key else none) ∧
      (d.isReal = true → encode d.text = if 1000 ≤ d.year then some d.key else none) ∧
      (DateRange.enumerate start stop limit = .ok texts →
        ∃ (first last : DateParts) (days : List DateParts), start = .int first.key ∧
          stop = .int last.key ∧ IsCalendar (min first.key last.key) (max first.key last.key) days ∧
          texts = days.map DateParts.text ∧
          texts.map encode = days.map fun x => if 1000 ≤ x.year then some x.key else none) := by
  refine ⟨fun hd => ?_, fun hd => encode_text (DateParts.isReal.isValid hd), fun htexts => ?_⟩
  · obtain ⟨hkey, hvalid⟩ := decode?_eq_some_iff.1 hd
    cases hkey
    rw [encode_text hvalid]
    -- The key has at least eight digits if the year has four.
    have hyear : 1000 ≤ d.year ↔ 10000000 ≤ d.key := by
      rw [DateParts.isValid_iff] at hvalid
      simp only [DateParts.key]
      omega
    simp only [hyear]
  · cases hdays : DateRange.enumerateDays start stop limit with
    | error refusal => simp [DateRange.enumerate, hdays, Except.map] at htexts
    | ok days =>
      obtain ⟨first, last, hstart, hstop, hcalendar⟩ := DateRange.isCalendar_of_enumerateDays hdays
      simp only [DateRange.enumerate, hdays, Except.map, Except.ok.injEq] at htexts
      subst htexts
      refine ⟨first, last, days, hstart, hstop, hcalendar, rfl, ?_⟩
      rw [List.map_map]
      refine List.map_congr_left fun x hx => ?_
      have hreal := ((hcalendar.mem_iff x).1 hx).1
      rw [Function.comp_apply, encode_text (DateParts.isReal.isValid hreal)]

/-- The first day of the year 999 has a key and a text, but the text has no key. -/
theorem text_without_key :
    decode? (.int 9990101) = some ⟨999, 1, 1⟩ ∧ (⟨999, 1, 1⟩ : DateParts).isReal = true ∧
      (⟨999, 1, 1⟩ : DateParts).text = "1/1/999" ∧ encode "1/1/999" = none := by
  decide

end DateKey

end MapFilter
