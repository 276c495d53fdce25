import MapFilter.Proofs.Number.RoundTrip
import MapFilter.Proofs.Table.Columnwise
import MapFilter.Proofs.Table.Reading

/-!
# Date texts that are numbers

The column of the date texts may be one that is read as numbers. Its cells are then written as texts,
trimmed and read again whenever the table is prepared. That changes nothing in a column that was read
from texts before: a number is written with digits that name it, an integer with all of its digits, and
whether the column holds the one or the other is not forgotten, since a number is never written as an
integer is.

- `Column.ComesBack`: cells that are the same after they were written and read
- `Column.comesBack_of_toNumbers`: what is read from trimmed texts consists of them
- `Column.toNumbers_again`: a column of them is read as it is
-/

namespace MapFilter

namespace Column

open Number Preparation

/-! ## §1 Cells -/

/-- The text of a number stands for the number. -/
theorem readText_toText {x : Number} (hx : x.IsBinary64) (hnan : x ≠ .nan) :
    readText x.toText = ⟨.float x, .float x⟩ := by
  unfold readText
  simp only [(isNumberText_toText x).takeWhile_eq, String.ofList_toList, ofPlain?_toText hx hnan,
    plainInt?_toText]

/-- The text of an integer that a column can hold has few digits. -/
theorem countP_toString_le {i : Int} (hi : isStorable i = true) :
    (toString i).toList.countP isAsciiDigit ≤ integerDigits := by
  have hsize : i.natAbs < 10 ^ 20 := (natAbs_lt_of_isStorable hi).trans (by norm_num)
  have hlength : (decimalDigits i.natAbs).length ≤ 20 :=
    (Nat.length_toDigits_le_iff (by norm_num) (by norm_num)).2 hsize
  refine List.countP_le_length.trans ?_
  rw [toString_eq, String.toList_ofList]
  unfold signed
  split
  · exact (Nat.succ_le_succ hlength).trans (by decide)
  · exact hlength.trans (by decide)

/-- The text of an integer stands for the integer if a column can hold it. -/
theorem exact_readText_toString {i : Int} (hi : isStorable i = true) :
    (readText (toString i)).exact = .int i := by
  have hint := plainInt?_toString i
  obtain ⟨negative, n, -, hplain⟩ := exists_digits_of_plainInt? hint
  have hdigits := Nat.not_lt.2 (countP_toString_le hi)
  unfold readText
  simp only [(isNumberText_toString i).takeWhile_eq, String.ofList_toList, hplain, hint, bne_self_eq_false,
    hdigits, hi, decide_false, Bool.or_false, Bool.false_eq_true, if_false, if_true]

/-- The number that a cell of the date texts stands for when it was trimmed. -/
def trimmedNumber (v : Value) : NumberCell :=
  match trimCell v with
  | .text s => readText s
  | _ => .missing

theorem readCell_trimCell (v : Value) : readCell (trimCell v) = .ok (trimmedNumber v) := by
  cases v <;> rfl

/-- A cell that is missing, a number of the format or an integer that some column can hold. It is the
same after it was written as a text and read again. -/
inductive ComesBack : Value → Prop where
  | missing : ComesBack .null
  | number {x : Number} : x.IsBinary64 → x ≠ .nan → ComesBack (.float x)
  | integer {i : Int} : isStorable i = true → ComesBack (.int i)

namespace ComesBack

variable {v : Value}

theorem exact_eq (h : ComesBack v) : (trimmedNumber v).exact = v := by
  cases h with
  | missing => rfl
  | @number x hx hnan =>
    have htrim : trimCell (.float x) = .text x.toText :=
      congrArg Value.text (isNumberText_toText x).trim_eq
    rw [trimmedNumber, htrim]
    exact congrArg NumberCell.exact (readText_toText hx hnan)
  | @integer i hi =>
    have htrim : trimCell (.int i) = .text (toString i) :=
      congrArg Value.text (isNumberText_toString i).trim_eq
    rw [trimmedNumber, htrim]
    exact exact_readText_toString hi

/-- A binary64 number is the same in a column of these. -/
theorem float_eq (h : ComesBack v) (hv : ColumnKind.numbers.holds v = true) :
    (trimmedNumber v).float = v := by
  cases h with
  | missing => rfl
  | @number x hx hnan =>
    have htrim : trimCell (.float x) = .text x.toText :=
      congrArg Value.text (isNumberText_toText x).trim_eq
    rw [trimmedNumber, htrim]
    exact congrArg NumberCell.float (readText_toText hx hnan)
  | integer => cases hv

theorem truthToInt_eq (h : ComesBack v) : truthToInt v = v := by
  cases h <;> rfl

end ComesBack

/-- What is read of a text comes back, in either kind of column. -/
theorem comesBack_readText (s : String) :
    ComesBack (readText s).exact ∧ ComesBack (readText s).float := by
  unfold readText
  dsimp only
  split
  · exact ⟨.missing, .missing⟩
  · next x hx _ =>
    obtain ⟨hbinary, hnan⟩ := isBinary64_ofPlain? hx
    exact ⟨.number hbinary hnan, .number hbinary hnan⟩
  · next x i hx _ =>
    obtain ⟨hbinary, hnan⟩ := isBinary64_ofPlain? hx
    split
    · exact ⟨.missing, .missing⟩
    · refine ⟨?_, .number hbinary hnan⟩
      cases hi : isStorable i with
      | true => exact .integer hi
      | false => exact .number hbinary hnan

theorem comesBack_trimmedNumber (v : Value) :
    ComesBack (trimmedNumber v).exact ∧ ComesBack (trimmedNumber v).float := by
  unfold trimmedNumber
  split
  · exact comesBack_readText _
  · exact ⟨.missing, .missing⟩

/-! ## §2 Columns -/

/-- Cells that are the same as binary64 numbers are kept as they were read. -/
theorem unify_of_float_eq {cells : List NumberCell} (h : ∀ c ∈ cells, c.float = c.exact)
    (htruth : ∀ c ∈ cells, truthToInt c.exact = c.exact) :
    unify true cells = cells.map NumberCell.exact := by
  have hfloats := List.map_congr_left h
  have htruths : (cells.map NumberCell.exact).map truthToInt = cells.map NumberCell.exact := by
    rw [List.map_map]
    exact List.map_congr_left htruth
  unfold unify
  dsimp only
  rw [hfloats, htruths, ite_self, ite_self]

/-- Trimmed cells are read one by one. -/
theorem toNumbers_trimmed (cells : List Value) :
    toNumbers true (cells.map trimCell) = .ok (unify true (cells.map trimmedNumber)) := by
  unfold toNumbers
  split
  · next hnumeric =>
    -- A column of numbers holds no texts, so all cells are missing.
    have hnull : ∀ v ∈ cells, v = .null := by
      intro v hv
      have htext := ne_text_of_ofCells hnumeric _ (List.mem_map_of_mem hv) (Text.trim v.display)
      cases v with
      | null => rfl
      | _ => exact absurd rfl htext
    have hmissing : ∀ c ∈ cells.map trimmedNumber, c = .missing := by
      intro c hc
      obtain ⟨v, hv, rfl⟩ := List.mem_map.1 hc
      rw [hnull v hv]
      rfl
    rw [unify_of_float_eq (fun c hc => hmissing c hc ▸ rfl) fun c hc => hmissing c hc ▸ rfl,
      List.map_map]
    refine congrArg Except.ok (List.map_congr_left fun v hv => ?_)
    rw [hnull v hv]
    rfl
  · have hinteger : asIntegers? (cells.map trimCell) = none := by
      cases cells with
      | nil => rfl
      | cons v rest => cases v <;> rfl
    have hread : (cells.map trimCell).mapM readCell = .ok (cells.map trimmedNumber) := by
      have hcells : readCell ∘ trimCell = fun v => pure (trimmedNumber v) := funext readCell_trimCell
      rw [List.mapM_map, hcells]
      exact List.mapM_pure
    rw [hinteger, hread]
    rfl

theorem comesBack_of_toNumbers {cells numbers : List Value}
    (h : toNumbers true (cells.map trimCell) = .ok numbers) : ∀ v ∈ numbers, ComesBack v := by
  rw [toNumbers_trimmed] at h
  cases h
  have hexact : ∀ v ∈ (cells.map trimmedNumber).map NumberCell.exact, ComesBack v := by
    intro v hv
    rw [List.map_map] at hv
    obtain ⟨w, -, rfl⟩ := List.mem_map.1 hv
    exact (comesBack_trimmedNumber w).1
  intro v hv
  unfold unify at hv
  dsimp only at hv
  split at hv
  · rw [List.map_map] at hv
    obtain ⟨w, -, rfl⟩ := List.mem_map.1 hv
    exact (comesBack_trimmedNumber w).2
  · split at hv
    · exact hexact v hv
    · obtain ⟨w, hw, rfl⟩ := List.mem_map.1 hv
      exact (hexact w hw).truthToInt_eq.symm ▸ hexact w hw

/-- A column of cells that come back is read as it is. -/
theorem toNumbers_again {cells : List Value} (hread : IsRead true cells)
    (hback : ∀ v ∈ cells, ComesBack v) : toNumbers true (cells.map trimCell) = .ok cells := by
  have hexact : (cells.map trimmedNumber).map NumberCell.exact = cells := by
    conv_rhs => rw [← List.map_id cells]
    rw [List.map_map]
    exact List.map_congr_left fun v hv => (hback v hv).exact_eq
  have hsparse {kind : ColumnKind} (hkind : kind = .integers ∨ kind = .naturals)
      (hholds : ∀ v ∈ cells, v = .null ∨ kind.holds v = true) :
      unify true (cells.map trimmedNumber) = cells := by
    rw [unify_sparse hkind, hexact]
    intro c hc
    obtain ⟨v, hv, rfl⟩ := List.mem_map.1 hc
    rw [(hback v hv).exact_eq]
    exact hholds v hv
  have hfloat (hholds : ∀ v ∈ cells, ColumnKind.numbers.holds v = true) :
      unify true (cells.map trimmedNumber) = cells := by
    rw [unify_of_float_eq, hexact]
    · intro c hc
      obtain ⟨v, hv, rfl⟩ := List.mem_map.1 hc
      rw [(hback v hv).exact_eq, (hback v hv).float_eq (hholds v hv)]
    · intro c hc
      obtain ⟨v, hv, rfl⟩ := List.mem_map.1 hc
      rw [(hback v hv).exact_eq, (hback v hv).truthToInt_eq]
  rw [toNumbers_trimmed]
  refine congrArg Except.ok ?_
  cases hread with
  | sparse kind _ hkind hholds => exact hsparse hkind hholds
  | uniform kind hnumeric hholds =>
    cases kind with
    | numbers => exact hfloat hholds
    | integers => exact hsparse (.inl rfl) fun v hv => .inr (hholds v hv)
    | naturals => exact hsparse (.inr rfl) fun v hv => .inr (hholds v hv)
    | truths =>
      -- No truth value comes back, so there are no cells.
      refine hfloat fun v hv => ?_
      have hholds := hholds v hv
      cases hback v hv with
      | missing => rfl
      | number => rfl
      | integer => cases hholds
    | texts | mixed => cases hnumeric

end Column

end MapFilter
