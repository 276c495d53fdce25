import MapFilter.Number.Written
import MapFilter.Proofs.Date.RoundTrip
import MapFilter.Proofs.Number.Digits

/-!
# Numbers written out and read back

A number is written with the shortest digits that name it, with a point among them or with an
exponent, and a whole number with a zero behind the point. Whatever the layout, the reader of plain
numbers finds the digits again, and they are rounded to the number they were written for. So every
number but the one that is none comes back as itself, the zero with its sign.

- `Number.Spells`: texts that are numerals of given digits
- `Number.IsNumberText`: texts of the characters that numbers are written with
- `Number.ofPlain?_toText`, `Number.plainInt?_toText`: the text of a number is that number, and is not an
  integer
- `Number.plainInt?_toString`: the text of an integer is that integer
-/

namespace MapFilter.Number

open Text

variable {q : ℚ} {m : Nat} {e : Int}

/-! ## §1 Layouts -/

theorem isAsciiDigit_of_mem {n : Nat} {c : Char} (h : c ∈ decimalDigits n) : isAsciiDigit c = true := by
  have hdigit := Nat.isDigit_of_mem_toDigits (by decide) (by decide) h
  simpa [isAsciiDigit, Char.isDigit, Char.le_def] using hdigit

theorem decimalDigits_ne_nil (n : Nat) : decimalDigits n ≠ [] :=
  List.length_pos_iff.1 Nat.length_toDigits_pos

theorem digitsValue_decimalDigits (n : Nat) : digitsValue (decimalDigits n) = n :=
  (isNumeral_iff.1 (isNumeral_toDigits n)).2

theorem digitsValue_zeros_append (zeros : Nat) (cs : List Char) :
    digitsValue (List.replicate zeros '0' ++ cs) = digitsValue cs := by
  induction zeros with
  | zero => rfl
  | succ zeros ih =>
    rw [← ih]
    rfl

theorem digitsValue_append_zeros (zeros : Nat) (cs : List Char) :
    digitsValue (cs ++ List.replicate zeros '0') = digitsValue cs * 10 ^ zeros := by
  induction zeros with
  | zero => simp
  | succ zeros ih =>
    have hzero : (digitValue? '0').getD 0 = 0 := rfl
    rw [List.replicate_succ', ← List.append_assoc, digitsValue, List.foldl_append, ← digitsValue, ih,
      List.foldl_cons, List.foldl_nil, hzero]
    ring

section

variable (whole fraction : List Char) {more : List Char}

/-- Digits around a point. -/
theorem numeral?_point (hne : whole ≠ []) (hwhole : ∀ c ∈ whole, isAsciiDigit c = true)
    (hfraction : ∀ c ∈ fraction, isAsciiDigit c = true) :
    numeral? isAsciiDigit (whole ++ '.' :: fraction) = some ⟨whole, fraction, 0⟩ := by
  have hpoint : isAsciiDigit '.' = false := rfl
  have htake := List.takeWhile_eq_self_iff.2 hfraction
  have hdrop := List.dropWhile_eq_nil_iff.2 hfraction
  simp [numeral?, List.takeWhile_append_of_pos hwhole, List.dropWhile_append_of_pos hwhole, hpoint,
    htake, hdrop, hne]

/-- Digits around a point, and an exponent. -/
theorem numeral?_point_exponent (hne : whole ≠ []) (hwhole : ∀ c ∈ whole, isAsciiDigit c = true)
    (hfraction : ∀ c ∈ fraction, isAsciiDigit c = true) :
    numeral? isAsciiDigit (whole ++ '.' :: (fraction ++ 'e' :: more)) =
      (exponent? isAsciiDigit more).map (⟨whole, fraction, ·⟩) := by
  have hpoint : isAsciiDigit '.' = false := rfl
  have hmark : isAsciiDigit 'e' = false := rfl
  simp [numeral?, List.takeWhile_append_of_pos hwhole, List.dropWhile_append_of_pos hwhole,
    List.takeWhile_append_of_pos hfraction, List.dropWhile_append_of_pos hfraction, hpoint, hmark, hne]

/-- Digits and an exponent. -/
theorem numeral?_exponent (hne : whole ≠ []) (hwhole : ∀ c ∈ whole, isAsciiDigit c = true) :
    numeral? isAsciiDigit (whole ++ 'e' :: more) =
      (exponent? isAsciiDigit more).map (⟨whole, [], ·⟩) := by
  have hmark : isAsciiDigit 'e' = false := rfl
  simp [numeral?, List.takeWhile_append_of_pos hwhole, List.dropWhile_append_of_pos hwhole, hmark, hne]

end

/-- The digits of an exponent, two at least. -/
def sizeDigits (n : Nat) : List Char :=
  if (decimalDigits n).length < 2 then '0' :: decimalDigits n else decimalDigits n

theorem isAsciiDigit_of_mem_sizeDigits {n : Nat} : ∀ c ∈ sizeDigits n, isAsciiDigit c = true := by
  unfold sizeDigits
  split
  · exact List.forall_mem_cons.2 ⟨rfl, fun c => isAsciiDigit_of_mem⟩
  · exact fun c => isAsciiDigit_of_mem

theorem digitsValue_sizeDigits (n : Nat) : digitsValue (sizeDigits n) = n := by
  unfold sizeDigits
  split
  · exact (digitsValue_zeros_append 1 _).trans (digitsValue_decimalDigits n)
  · exact digitsValue_decimalDigits n

theorem sizeDigits_ne_nil (n : Nat) : sizeDigits n ≠ [] := by
  unfold sizeDigits
  split
  · exact List.cons_ne_nil _ _
  · exact decimalDigits_ne_nil n

/-- An exponent is read as it was written. -/
theorem exponent?_scientific (power : Int) :
    exponent? isAsciiDigit ((if power < 0 then '-' else '+') :: sizeDigits power.natAbs) =
      some power := by
  have hempty : (sizeDigits power.natAbs).isEmpty = false :=
    List.isEmpty_eq_false_iff.2 (sizeDigits_ne_nil _)
  have hall : (sizeDigits power.natAbs).all isAsciiDigit = true :=
    List.all_eq_true.2 isAsciiDigit_of_mem_sizeDigits
  by_cases hnegative : power < 0
  · have hsign : splitSign ('-' :: sizeDigits power.natAbs) = (true, sizeDigits power.natAbs) := rfl
    rw [if_pos hnegative, exponent?, hsign]
    simp only [hempty, hall, Bool.not_true, Bool.or_false, Bool.false_eq_true, if_false, if_true,
      digitsValue_sizeDigits]
    exact congrArg some (by omega)
  · have hsign : splitSign ('+' :: sizeDigits power.natAbs) = (false, sizeDigits power.natAbs) := rfl
    rw [if_neg hnegative, exponent?, hsign]
    simp only [hempty, hall, Bool.not_true, Bool.or_false, Bool.false_eq_true, if_false,
      digitsValue_sizeDigits]
    exact congrArg some (by omega)

/-- The text is a numeral of a decimal with these digits, up to zeros at the end. -/
def Spells (cs : List Char) (n : Nat) (exponent : Int) : Prop :=
  ∃ numeral digits place, numeral? isAsciiDigit cs = some numeral ∧
    numeral.value = ofDecimal digits place ∧ (digits : ℚ) * 10 ^ place = n * 10 ^ exponent ∧
    min (-1) exponent ≤ place

theorem Spells.of_value {cs : List Char} {n : Nat} {exponent : Int} {numeral : Numeral}
    (h : numeral? isAsciiDigit cs = some numeral)
    (hdigits : digitsValue (numeral.whole ++ numeral.fraction) = n)
    (hexponent : numeral.exponent - numeral.fraction.length = exponent) : Spells cs n exponent :=
  ⟨numeral, n, exponent, h, by rw [Numeral.value, hdigits, hexponent], rfl, min_le_right _ _⟩

theorem spells_positional (n : Nat) (scale : Int) :
    Spells (positional (decimalDigits n) scale) n (scale - (decimalDigits n).length) := by
  have hdigits : ∀ c ∈ decimalDigits n, isAsciiDigit c = true := fun c => isAsciiDigit_of_mem
  have hzeros (k : Nat) : ∀ c ∈ List.replicate k '0', isAsciiDigit c = true := by
    intro c hc
    rw [List.eq_of_mem_replicate hc]
    rfl
  unfold positional
  split
  · -- All digits stand behind the point.
    refine .of_value (numeral?_point ['0'] _ (List.cons_ne_nil _ _) (by simp [isAsciiDigit])
      (List.forall_mem_append.2 ⟨hzeros _, hdigits⟩)) ?_ ?_
    · exact (digitsValue_zeros_append _ _).trans (digitsValue_decimalDigits n)
    · dsimp only
      rw [List.length_append, List.length_replicate]
      omega
  next hscale =>
  split
  · next hlength =>
    -- All digits stand in front of the point, and zeros behind them.
    obtain ⟨zeros, hzero⟩ : ∃ zeros, zeros = scale.toNat - (decimalDigits n).length := ⟨_, rfl⟩
    have hread := numeral?_point (decimalDigits n ++ List.replicate zeros '0') ['0'] (by simp [decimalDigits_ne_nil])
      (List.forall_mem_append.2 ⟨hdigits, hzeros _⟩) (by simp [isAsciiDigit])
    rw [← hzero]
    refine ⟨_, n * 10 ^ (zeros + 1), -1, hread, ?_, ?_, min_le_left _ _⟩
    · have hvalue : digitsValue (decimalDigits n ++ List.replicate zeros '0' ++ ['0']) =
          n * 10 ^ (zeros + 1) := by
        rw [List.append_assoc, ← List.replicate_succ', digitsValue_append_zeros,
          digitsValue_decimalDigits]
      rw [Numeral.value, hvalue]
      rfl
    · have hexponent : scale - (decimalDigits n).length = zeros := by omega
      rw [hexponent, zpow_natCast, zpow_neg, zpow_one]
      push_cast
      ring
  · next hlength =>
    -- The point stands among the digits.
    have htake : decimalDigits n = (decimalDigits n).take scale.toNat ++ (decimalDigits n).drop scale.toNat :=
      (List.take_append_drop _ _).symm
    have hne : (decimalDigits n).take scale.toNat ≠ [] := by
      have := List.length_pos_iff.2 (decimalDigits_ne_nil n)
      rw [← List.length_pos_iff, List.length_take]
      omega
    refine .of_value (numeral?_point _ _ hne (fun c hc => hdigits c (List.mem_of_mem_take hc))
      fun c hc => hdigits c (List.mem_of_mem_drop hc)) ?_ ?_
    · rw [← htake]
      exact digitsValue_decimalDigits n
    · dsimp only
      rw [List.length_drop]
      omega

theorem spells_scientific (n : Nat) (power : Int) :
    Spells (scientific (decimalDigits n) power) n (power + 1 - (decimalDigits n).length) := by
  have hdigits : ∀ c ∈ decimalDigits n, isAsciiDigit c = true := fun c => isAsciiDigit_of_mem
  have hvalue := digitsValue_decimalDigits n
  have hne := decimalDigits_ne_nil n
  have hpower := exponent?_scientific power
  unfold scientific
  dsimp only
  generalize decimalDigits n = digits at hdigits hvalue hne
  cases digits with
  | nil => exact absurd rfl hne
  | cons first rest =>
    obtain ⟨hfirst, hrest⟩ := List.forall_mem_cons.1 hdigits
    have hwhole : ∀ c ∈ [first], isAsciiDigit c = true := List.forall_mem_singleton.2 hfirst
    cases rest with
    | nil =>
      refine .of_value ((numeral?_exponent [first] (List.cons_ne_nil _ _) hwhole).trans
        (congrArg _ hpower)) hvalue ?_
      dsimp only [List.length_nil, List.length_singleton]
      omega
    | cons second rest =>
      refine .of_value ((numeral?_point_exponent [first] _ (List.cons_ne_nil _ _) hwhole hrest).trans
        (congrArg _ hpower)) hvalue ?_
      have hlength : (first :: second :: rest).length = (second :: rest).length + 1 := rfl
      dsimp only
      omega

theorem spells_magnitudeText (q : ℚ) :
    Spells (magnitudeText q) (shortest q).digits (shortest q).exponent := by
  unfold magnitudeText
  dsimp only
  split
  · have h := spells_positional (shortest q).digits
      ((shortest q).exponent + (decimalDigits (shortest q).digits).length)
    rwa [add_sub_cancel_right] at h
  · have h := spells_scientific (shortest q).digits
      ((shortest q).exponent + (decimalDigits (shortest q).digits).length - 1)
    rwa [sub_add_cancel, add_sub_cancel_right] at h

/-! ## §2 Number texts -/

/-- The characters that numbers are written with, those of the words among them. -/
def isNumberChar (c : Char) : Bool :=
  isAsciiDigit c || ['.', 'e', '+', '-', 'i', 'n', 'f', 'a'].contains c

theorem isNumberChar_of_isAsciiDigit {c : Char} (h : isAsciiDigit c = true) :
    isNumberChar c = true :=
  Bool.or_eq_true_iff.2 (.inl h)

/-- Each of them is a visible character of ASCII. -/
theorem toNat_of_isNumberChar {c : Char} (h : isNumberChar c = true) :
    33 ≤ c.toNat ∧ c.toNat ≤ 126 := by
  obtain hdigit | hmark := Bool.or_eq_true_iff.1 h
  · obtain ⟨hlow, hhigh⟩ := Bool.and_eq_true_iff.1 hdigit
    have hlow : 48 ≤ c.toNat := of_decide_eq_true hlow
    have hhigh : c.toNat ≤ 57 := of_decide_eq_true hhigh
    omega
  · have hcodes : ∀ c ∈ ['.', 'e', '+', '-', 'i', 'n', 'f', 'a'], 33 ≤ c.toNat ∧ c.toNat ≤ 126 := by
      simp
    exact hcodes c (List.contains_iff_mem.1 hmark)

theorem isBlank_of_isNumberChar {c : Char} (h : isNumberChar c = true) : isBlank c = false := by
  have hcode := toNat_of_isNumberChar h
  by_contra hblank
  simp only [isBlank, Bool.not_eq_false, Bool.or_eq_true, Bool.and_eq_true, decide_eq_true_eq,
    beq_iff_eq] at hblank
  omega

theorem isCellBlank_of_isNumberChar {c : Char} (h : isNumberChar c = true) :
    isCellBlank c = false := by
  have hcode := toNat_of_isNumberChar h
  by_contra hblank
  simp only [isCellBlank, Bool.not_eq_false, Bool.or_eq_true, Bool.and_eq_true, decide_eq_true_eq,
    beq_iff_eq] at hblank
  obtain rfl | hblank := hblank
  · cases h
  · omega

/-- The text is made of the characters of numbers. -/
def IsNumberText (s : String) : Prop :=
  ∀ c ∈ s.toList, isNumberChar c = true

namespace IsNumberText

variable {s : String}

theorem trim_eq (h : IsNumberText s) : trim s = s := by
  rw [trim, stripChars_eq_self fun c hc => isBlank_of_isNumberChar (h c hc), String.ofList_toList]

theorem strip_eq (h : IsNumberText s) : stripChars isCellBlank s.toList = s.toList :=
  stripChars_eq_self fun c hc => isCellBlank_of_isNumberChar (h c hc)

theorem slash_notMem (h : IsNumberText s) : '/' ∉ s.toList := by
  intro hmem
  cases h _ hmem

/-- The text does not end before its last character. -/
theorem takeWhile_eq (h : IsNumberText s) : s.toList.takeWhile (· != '\x00') = s.toList := by
  refine List.takeWhile_eq_self_iff.2 fun c hc => bne_iff_ne.2 ?_
  rintro rfl
  cases h _ hc

end IsNumberText

/-! ## §3 Written numbers -/

/-- The text begins with a digit, is not made of digits only, and holds nothing that is no part of a
number. -/
structure IsWritten (cs : List Char) : Prop where
  head : ∃ c rest, cs = c :: rest ∧ isAsciiDigit c = true
  mark : ∃ c ∈ cs, isAsciiDigit c = false
  chars : ∀ c ∈ cs, isNumberChar c = true

section

variable {first : Char} {digits : List Char}

theorem isWritten_positional (hdigits : ∀ c ∈ first :: digits, isAsciiDigit c = true) (scale : Int) :
    IsWritten (positional (first :: digits) scale) := by
  have hchars : ∀ c ∈ first :: digits, isNumberChar c = true := fun c hc =>
    isNumberChar_of_isAsciiDigit (hdigits c hc)
  have hfirst := hdigits first List.mem_cons_self
  unfold positional
  split
  · refine ⟨⟨'0', _, rfl, rfl⟩, ⟨'.', by simp, rfl⟩, ?_⟩
    simp only [List.forall_mem_cons, List.forall_mem_append]
    refine ⟨rfl, rfl, fun c hc => ?_, List.forall_mem_cons.1 hchars⟩
    rw [List.eq_of_mem_replicate hc]
    rfl
  next hscale =>
  split
  · refine ⟨⟨first, _, rfl, hfirst⟩, ⟨'.', by simp, rfl⟩, ?_⟩
    simp only [List.forall_mem_append]
    refine ⟨⟨hchars, fun c hc => ?_⟩, by simp [isNumberChar, isAsciiDigit]⟩
    rw [List.eq_of_mem_replicate hc]
    rfl
  · obtain ⟨k, hk⟩ : ∃ k, scale.toNat = k + 1 := ⟨scale.toNat - 1, by omega⟩
    rw [hk]
    refine ⟨⟨first, _, rfl, hfirst⟩, ⟨'.', by simp, rfl⟩, ?_⟩
    simp only [List.forall_mem_append, List.forall_mem_cons]
    exact ⟨fun c hc => hchars c (List.mem_of_mem_take hc), rfl,
      fun c hc => hchars c (List.mem_of_mem_drop hc)⟩

theorem isWritten_scientific (hdigits : ∀ c ∈ first :: digits, isAsciiDigit c = true) (power : Int) :
    IsWritten (scientific (first :: digits) power) := by
  have hchars : ∀ c ∈ first :: digits, isNumberChar c = true := fun c hc =>
    isNumberChar_of_isAsciiDigit (hdigits c hc)
  have hfirst := hdigits first List.mem_cons_self
  have hsign : isNumberChar (if power < 0 then '-' else '+') = true := by
    split <;> rfl
  have hsize : ∀ c ∈ sizeDigits power.natAbs, isNumberChar c = true := fun c hc =>
    isNumberChar_of_isAsciiDigit (isAsciiDigit_of_mem_sizeDigits c hc)
  unfold scientific
  dsimp only
  cases digits with
  | nil =>
    refine ⟨⟨first, _, rfl, hfirst⟩, ⟨'e', by simp, rfl⟩, ?_⟩
    simp only [List.forall_mem_append, List.forall_mem_cons]
    exact ⟨List.forall_mem_cons.1 hchars, rfl, hsign, hsize⟩
  | cons second rest =>
    refine ⟨⟨first, _, rfl, hfirst⟩, ⟨'e', by simp, rfl⟩, ?_⟩
    simp only [List.forall_mem_append, List.forall_mem_cons]
    obtain ⟨hone, hmore⟩ := List.forall_mem_cons.1 hchars
    exact ⟨⟨hone, rfl, List.forall_mem_cons.1 hmore⟩, rfl, hsign, hsize⟩

end

theorem isWritten_magnitudeText (q : ℚ) : IsWritten (magnitudeText q) := by
  unfold magnitudeText
  dsimp only
  have hdigits : ∀ c ∈ decimalDigits (shortest q).digits, isAsciiDigit c = true := fun c =>
    isAsciiDigit_of_mem
  obtain ⟨first, rest, hdecimal⟩ := List.exists_cons_of_ne_nil (decimalDigits_ne_nil (shortest q).digits)
  rw [hdecimal] at hdigits ⊢
  split
  · exact isWritten_positional hdigits _
  · exact isWritten_scientific hdigits _

/-- A row of characters with a sign in front of it if it is negative. -/
def signed (negative : Bool) (cs : List Char) : List Char :=
  if negative then '-' :: cs else cs

section

variable {cs : List Char}

theorem isNumberText_signed (h : ∀ c ∈ cs, isNumberChar c = true) (negative : Bool) :
    IsNumberText (String.ofList (signed negative cs)) := by
  intro c hc
  rw [String.toList_ofList] at hc
  cases negative with
  | true =>
    obtain rfl | hc := List.mem_cons.1 hc
    · rfl
    · exact h c hc
  | false => exact h c hc

theorem splitSign_signed (h : ∃ c rest, cs = c :: rest ∧ isAsciiDigit c = true) (negative : Bool) :
    splitSign (signed negative cs) = (negative, cs) := by
  obtain ⟨first, rest, rfl, hfirst⟩ := h
  cases negative with
  | true => rfl
  | false =>
    unfold splitSign signed
    split
    · next heq =>
      cases heq
      cases hfirst
    · next heq =>
      cases heq
      cases hfirst
    · rfl

end

namespace IsWritten

variable {cs : List Char}

/-- A written number is read by its numeral, with the sign in front of it. -/
theorem ofPlain?_eq (h : IsWritten cs) (negative : Bool) :
    ofPlain? (String.ofList (signed negative cs)) =
      (numeral? isAsciiDigit cs).map fun n => withSign negative n.value := by
  obtain ⟨first, rest, hcs, hfirst⟩ := h.head
  have hmem : first ∈ cs := hcs ▸ List.mem_cons_self
  have hstrip := (isNumberText_signed h.chars negative).strip_eq
  unfold ofPlain?
  rw [String.toList_ofList] at hstrip ⊢
  simp only [hstrip, splitSign_signed h.head,
    ne_word_of_digit hfirst hmem "inf" (by simp [isAsciiDigit]),
    ne_word_of_digit hfirst hmem "infinity" (by simp [isAsciiDigit]), Bool.or_false,
    Bool.false_eq_true, if_false]

/-- A written number is no integer. -/
theorem plainInt?_eq (h : IsWritten cs) (negative : Bool) :
    plainInt? (String.ofList (signed negative cs)) = none := by
  obtain ⟨c, hc, hmark⟩ := h.mark
  have hall : cs.all isAsciiDigit = false :=
    List.all_eq_false.2 ⟨c, hc, Bool.not_eq_true _ ▸ hmark⟩
  have hstrip := (isNumberText_signed h.chars negative).strip_eq
  unfold plainInt?
  rw [String.toList_ofList] at hstrip ⊢
  simp only [hstrip, splitSign_signed h.head, hall, Bool.not_false, Bool.or_true, if_true]

end IsWritten

/-- The text of a finite number is a sign and what is written of its magnitude. -/
theorem exists_isWritten {x : Number} (h : x.isFinite = true) :
    ∃ (negative : Bool) (cs : List Char), IsWritten cs ∧
      x.toText = String.ofList (signed negative cs) := by
  have hzero : IsWritten ['0', '.', '0'] :=
    ⟨⟨'0', _, rfl, rfl⟩, ⟨'.', by simp, rfl⟩, by simp [isNumberChar, isAsciiDigit]⟩
  cases x with
  | nan | infinite => cases h
  | negativeZero => exact ⟨true, _, hzero, rfl⟩
  | finite q =>
    simp only [toText]
    split
    · exact ⟨false, _, hzero, rfl⟩
    · split
      · exact ⟨true, _, isWritten_magnitudeText (-q), rfl⟩
      · exact ⟨false, _, isWritten_magnitudeText q, rfl⟩

theorem isNumberText_toText (x : Number) : IsNumberText x.toText := by
  cases hfinite : x.isFinite with
  | true =>
    obtain ⟨negative, cs, hcs, htext⟩ := exists_isWritten hfinite
    rw [htext]
    exact isNumberText_signed hcs.chars negative
  | false =>
    cases x with
    | nan => simp [IsNumberText, toText, isNumberChar]
    | infinite negative => cases negative <;> simp [IsNumberText, toText, isNumberChar]
    | _ => cases hfinite

/-- The text of a number that is not an integer is not that of an integer. -/
theorem plainInt?_toText (x : Number) : plainInt? x.toText = none := by
  cases hfinite : x.isFinite with
  | true =>
    obtain ⟨negative, cs, hcs, htext⟩ := exists_isWritten hfinite
    rw [htext]
    exact hcs.plainInt?_eq negative
  | false =>
    cases x with
    | nan => rfl
    | infinite negative => cases negative <;> rfl
    | _ => cases hfinite

/-! ## §4 Reading back -/

/-- The text of a grid point is read as that point. -/
theorem IsPoint.exists_numeral (h : IsPoint q m e) (hsmall : q < 2 ^ (1024 : Int)) :
    ∃ numeral, numeral? isAsciiDigit (magnitudeText q) = some numeral ∧ numeral.value = .finite q := by
  obtain ⟨hread, hexponent⟩ := readsAs_shortest h
  obtain ⟨numeral, digits, place, hnumeral, hvalue, hdecimal, hplace⟩ := spells_magnitudeText q
  refine ⟨numeral, hnumeral, hvalue.trans (h.ofDecimal_of_readsAs hsmall ?_ ?_)⟩
  · exact (le_min (by norm_num) hexponent).trans hplace
  · rwa [hdecimal, ← Decimal.toRat_eq]


theorem exists_numeral_of_isBinary64 (hq : 0 < q) (h : (Number.finite q).IsBinary64) :
    ∃ numeral, numeral? isAsciiDigit (magnitudeText q) = some numeral ∧
      numeral.value = .finite q := by
  obtain ⟨⟨m, e, hpoint⟩, hsmall⟩ := exists_isPoint_of_isBinary64 hq h
  exact hpoint.exists_numeral hsmall

/-- A number of the format comes back as itself when it is written out and read. -/
theorem ofPlain?_toText {x : Number} (hx : x.IsBinary64) (hnan : x ≠ .nan) :
    ofPlain? x.toText = some x := by
  cases x with
  | nan => exact absurd rfl hnan
  | infinite negative => cases negative <;> rfl
  | negativeZero => rfl
  | finite q =>
    obtain hneg | rfl | hpos := lt_trichotomy q 0
    · -- The opposite is read behind the sign, and the sign turns it around again.
      have hminus : (Number.finite q).neg = .finite (-q) := if_neg hneg.ne
      obtain ⟨numeral, hnumeral, hvalue⟩ := exists_numeral_of_isBinary64 (neg_pos.2 hneg)
        (hminus ▸ hx.neg)
      have htext : toText (.finite q) = String.ofList (signed true (magnitudeText (-q))) := by
        rw [toText, if_neg hneg.ne, if_pos hneg]
        rfl
      have hread := (isWritten_magnitudeText (-q)).ofPlain?_eq true
      rw [hnumeral, Option.map_some, hvalue, withSign, if_pos rfl, ← hminus, neg_twice] at hread
      rw [htext, hread]
    · rfl
    · obtain ⟨numeral, hnumeral, hvalue⟩ := exists_numeral_of_isBinary64 hpos hx
      have htext : toText (.finite q) = String.ofList (signed false (magnitudeText q)) := by
        rw [toText, if_neg hpos.ne', if_neg (not_lt.2 hpos.le)]
        rfl
      have hread := (isWritten_magnitudeText q).ofPlain?_eq false
      rw [hnumeral, Option.map_some, hvalue, withSign, if_neg Bool.false_ne_true] at hread
      rw [htext, hread]

/-! ## §5 Integers -/

theorem toString_eq (i : Int) :
    toString i = String.ofList (signed (i < 0) (decimalDigits i.natAbs)) := by
  have hnat (n : Nat) : toString n = String.ofList (decimalDigits n) := by
    rw [← String.toList_inj]
    simp [decimalDigits]
  cases i with
  | ofNat n => exact hnat n
  | negSucc n =>
    have htext : toString (Int.negSucc n) = "-" ++ toString (n + 1) := rfl
    rw [htext, hnat, ← String.toList_inj]
    simp [signed, Int.negSucc_lt_zero]

theorem exists_digit_decimalDigits (n : Nat) :
    ∃ c rest, decimalDigits n = c :: rest ∧ isAsciiDigit c = true := by
  obtain ⟨c, rest, heq⟩ := List.exists_cons_of_ne_nil (decimalDigits_ne_nil n)
  exact ⟨c, rest, heq, isAsciiDigit_of_mem (heq ▸ List.mem_cons_self)⟩

theorem isNumberText_toString (i : Int) : IsNumberText (toString i) := by
  rw [toString_eq]
  exact isNumberText_signed (fun c hc => isNumberChar_of_isAsciiDigit (isAsciiDigit_of_mem hc)) _

/-- An integer comes back as itself. -/
theorem plainInt?_toString (i : Int) : plainInt? (toString i) = some i := by
  have hstrip := (isNumberText_toString i).strip_eq
  have hall : (decimalDigits i.natAbs).all isAsciiDigit = true :=
    List.all_eq_true.2 fun c => isAsciiDigit_of_mem
  have hempty : (decimalDigits i.natAbs).isEmpty = false :=
    List.isEmpty_eq_false_iff.2 (decimalDigits_ne_nil _)
  unfold plainInt?
  rw [toString_eq, String.toList_ofList] at hstrip ⊢
  simp only [hstrip, splitSign_signed (exists_digit_decimalDigits _), hempty, hall, Bool.not_true,
    Bool.or_false, Bool.false_eq_true, if_false, digitsValue_decimalDigits, decide_eq_true_eq]
  split
  · exact congrArg some (by omega)
  · exact congrArg some (by omega)

end MapFilter.Number
