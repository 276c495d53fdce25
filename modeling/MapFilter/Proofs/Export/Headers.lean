import MapFilter.Export
import MapFilter.Proofs.Table.Prepared
import MapFilter.Proofs.Text.Blank

/-!
# Headers of exports

Headers are cleaned before anything else is done with a table: byte order marks are taken away in front,
and then blanks at both ends. That leaves a mark that stood behind a blank, and it can leave two headers
that were different as one. So a table gets its date keys if exactly one header means the date texts, and
all of its headers are tidy and different if they were so apart from such marks and coincidences.

- `IsTidy`, `HidesMark`: what a header should look like, and the headers that cannot be cleaned
- `Table.isTidy_cleanHeader_iff`: what cleaning leaves
- `Table.headers`: the headers of a table once they are clean
- `Table.KeysOutcome`, `Table.addDateKey_cases`: all that asking for date keys can come to
- `Table.addDateKey_tidy_iff`: which tables get date keys, and which of them have tidy headers
-/

namespace MapFilter

open Text

/-! ## §1 Clean headers -/

/-- A header that does not begin with a byte order mark and has no blanks around it. -/
structure IsTidy (name : String) : Prop where
  unmarked : name.toList.head? ≠ some '\ufeff'
  noBlankBefore : ∀ c, name.toList.head? = some c → isBlank c = false
  noBlankBehind : ∀ c, name.toList.getLast? = some c → isBlank c = false

/-- A header with a byte order mark behind the blanks in front, of which there are some. Further marks
may stand before the blanks. -/
def HidesMark (name : String) : Prop :=
  ∃ marks blanks rest, name.toList = marks ++ (blanks ++ '\ufeff' :: rest) ∧
    (∀ c ∈ marks, c = '\ufeff') ∧ blanks ≠ [] ∧ ∀ c ∈ blanks, isBlank c = true

theorem isBlank_mark : isBlank '\ufeff' = false := by
  decide

namespace Table

theorem toList_cleanHeader (name : String) :
    (cleanHeader name).toList = stripChars isBlank (name.toList.dropWhile (· == '\ufeff')) := by
  rw [cleanHeader, String.toList_ofList]

/-- What is left begins with a mark if the header hides one. -/
theorem head?_cleanHeader_of_hidesMark {name : String} (h : HidesMark name) :
    (cleanHeader name).toList.head? = some '\ufeff' := by
  obtain ⟨marks, blanks, rest, hname, hmarks, hblanks, hblank⟩ := h
  -- The marks end where the blanks begin.
  have hfront : name.toList.dropWhile (· == '\ufeff') = blanks ++ '\ufeff' :: rest := by
    rw [hname, List.dropWhile_append_of_pos fun c hc => beq_iff_eq.2 (hmarks c hc)]
    rcases List.exists_cons_of_ne_nil hblanks with ⟨first, others, rfl⟩
    have hfirst : first ≠ '\ufeff' := by
      rintro rfl
      have hsame := hblank _ List.mem_cons_self
      rw [isBlank_mark] at hsame
      cases hsame
    exact List.dropWhile_cons_of_neg (by simpa using hfirst)
  rw [toList_cleanHeader, hfront, stripChars, List.dropWhile_append_of_pos hblank,
    List.dropWhile_cons_of_neg (by simp [isBlank_mark])]
  exact head?_dropEndWhile_cons isBlank_mark rest

/-- Only a header that hides a mark is left with one in front. -/
theorem hidesMark_of_head? {name : String}
    (h : (cleanHeader name).toList.head? = some '\ufeff') : HidesMark name := by
  rw [toList_cleanHeader] at h
  obtain ⟨before, after, haround, hbefore, -⟩ :=
    exists_around_stripChars isBlank (name.toList.dropWhile (· == '\ufeff'))
  generalize stripChars isBlank _ = left at h haround
  cases left with
  | nil => cases h
  | cons first rest =>
    cases h
    refine ⟨name.toList.takeWhile (· == '\ufeff'), before, rest ++ after, ?_, ?_, ?_, hbefore⟩
    · calc
        name.toList = name.toList.takeWhile (· == '\ufeff') ++ name.toList.dropWhile (· == '\ufeff') :=
          List.takeWhile_append_dropWhile.symm
        _ = _ := by rw [haround, List.cons_append]
    · intro c hc
      have hmark : (c == '\ufeff') = true := List.mem_takeWhile_imp (p := (· == '\ufeff')) hc
      exact beq_iff_eq.1 hmark
    · -- Without blanks the mark would have been taken away with those in front.
      rintro rfl
      have hhead := List.head?_dropWhile_not (· == '\ufeff') name.toList
      rw [haround] at hhead
      cases hhead

/-- Cleaning makes a header tidy unless it hides a mark. -/
theorem isTidy_cleanHeader_iff (name : String) : IsTidy (cleanHeader name) ↔ ¬ HidesMark name := by
  constructor
  · intro htidy hhides
    exact htidy.unmarked (head?_cleanHeader_of_hidesMark hhides)
  · intro hhides
    refine ⟨fun hmark => hhides (hidesMark_of_head? hmark), fun c hc => ?_, fun c hc => ?_⟩
    · rw [toList_cleanHeader] at hc
      exact head?_stripChars hc
    · rw [toList_cleanHeader] at hc
      exact getLast?_stripChars hc

/-! ## §2 Columns of date keys -/

/-- The headers of a table once they are clean. -/
def headers (t : Table) : List String :=
  t.columns.map cleanHeader

/-- The table with clean headers. -/
def withHeaders (t : Table) : Table :=
  { t with columns := t.headers }

/-- The headers of a table together with one for the keys, if it is not there already. -/
def keyedHeaders (t : Table) (key : String) : List String :=
  if key ∈ t.headers then t.headers else t.headers ++ [key]

theorem mem_positionsOf {t : Table} {name : String} {i : Nat} :
    i ∈ t.positionsOf (.text name) ↔ t.columns[i]? = some name := by
  rw [positionsOf, List.mem_filter, List.mem_range, decide_eq_true_iff, Value.text.injEq]
  constructor
  · rintro ⟨hi, hname⟩
    rw [List.getD_eq_getElem?_getD, List.getElem?_eq_getElem hi, Option.getD_some] at hname
    rw [List.getElem?_eq_getElem hi, hname]
  · intro hname
    obtain ⟨hi, -⟩ := List.getElem?_eq_some_iff.1 hname
    rw [List.getD_eq_getElem?_getD, hname]
    exact ⟨hi, rfl⟩

theorem positionsOf_eq_nil_iff {t : Table} {name : String} :
    t.positionsOf (.text name) = [] ↔ name ∉ t.columns := by
  rw [List.eq_nil_iff_forall_not_mem, List.mem_iff_getElem?, not_exists]
  simp only [mem_positionsOf]

theorem columns_setColumnsAt (t : Table) (positions : List Nat) (cells : List Value) :
    (t.setColumnsAt positions cells).columns = t.columns := by
  induction positions generalizing t with
  | nil => rfl
  | cons i rest ih => exact ih (t.setColumnAt i cells)

theorem columns_fillColumnsAt (t : Table) (fills : List (Nat × Value)) :
    (t.fillColumnsAt fills).columns = t.columns := by
  induction fills generalizing t with
  | nil => rfl
  | cons fill rest ih => exact ih (t.setColumnAt fill.1 (t.rows.map fun _ => fill.2))

theorem columns_putColumn (t : Table) (name : String) (cells : List Value) :
    (t.putColumn (.text name) cells).columns =
      if name ∈ t.columns then t.columns else t.columns ++ [name] := by
  rw [putColumn]
  split
  · next hnone => rw [if_neg (positionsOf_eq_nil_iff.1 hnone)]; rfl
  · next positions hsome =>
    have hmem : name ∈ t.columns := by
      by_contra hnone
      exact hsome (positionsOf_eq_nil_iff.2 hnone)
    rw [if_pos hmem, columns_setColumnsAt]

/-- A name that is a text always gets its keys, and no other columns come with them. -/
theorem putDateKeys_text (t : Table) (key : String) (keys : List Value) :
    ∃ r, t.putDateKeys (.text key) keys = .ok r ∧
      r.columns = if key ∈ t.columns then t.columns else t.columns ++ [key] := by
  simp only [putDateKeys]
  split
  · next hseveral =>
    -- Several columns have the name, so it is there.
    refine ⟨_, rfl, ?_⟩
    have hmem : key ∈ t.columns := by
      by_contra hnone
      rw [positionsOf_eq_nil_iff.2 hnone] at hseveral
      cases hseveral
    rw [if_pos hmem, columns_fillColumnsAt]
  · exact ⟨_, rfl, columns_putColumn t key keys⟩

/-- All that asking for date keys can come to, if both names are texts. -/
inductive KeysOutcome (text key : String) (t : Table) : Except DateKeyError Table → Prop where
  | missing : text ∉ t.headers → KeysOutcome text key t (.error (.noDateTexts (.text text)))
  | several : 1 < t.headers.count text → KeysOutcome text key t (.error .severalDateTexts)
  /-- One header means the date texts. -/
  | keyed {i : Nat} {r : Table} : t.headers.count text = 1 → t.headers[i]? = some text →
    t.withHeaders.putDateKeys (.text key) ((t.columnAt i).map dateKeyCell) = .ok r →
    r.columns = t.keyedHeaders key → KeysOutcome text key t (.ok r)

theorem addDateKey_cases (t : Table) (text key : String) :
    KeysOutcome text key t (t.addDateKey (.text text) (.text key)) := by
  have hcells : column? { t with columns := t.columns.map cleanHeader } text =
      (t.headers.idxOf? text).map t.columnAt := rfl
  simp only [addDateKey, hcells]
  cases hplace : t.headers.idxOf? text with
  | none => exact .missing (List.idxOf?_eq_none_iff.1 hplace)
  | some i =>
    have hi := Preparation.getElem?_of_idxOf? hplace
    simp only [Option.map_some]
    split
    · next hseveral => exact .several hseveral
    · next hone =>
      obtain ⟨r, hr, hcolumns⟩ :=
        putDateKeys_text t.withHeaders key ((t.columnAt i).map dateKeyCell)
      have hpresent := List.count_pos_iff.2 (List.mem_of_getElem? hi)
      have hcount : t.headers.count text = 1 := by
        simp only [countColumn] at hone
        change ¬ 1 < t.headers.count text at hone
        omega
      have hput : t.withHeaders.putDateKeys (.text key) ((t.columnAt i).map dateKeyCell) = .ok r := hr
      change KeysOutcome text key t (t.withHeaders.putDateKeys (.text key) _)
      rw [hput]
      exact .keyed hcount hi hput hcolumns

/-! ## §3 Tidy tables -/

theorem mem_keyedHeaders {t : Table} {key name : String} :
    name ∈ t.keyedHeaders key ↔ name ∈ t.headers ∨ name = key := by
  rw [keyedHeaders]
  split
  · next hkey =>
    constructor
    · exact Or.inl
    · rintro (hname | rfl)
      · exact hname
      · exact hkey
  · rw [List.mem_append, List.mem_singleton]

/-- The header of the keys is a new one, or none is added. -/
theorem nodup_keyedHeaders_iff {t : Table} {key : String} :
    (t.keyedHeaders key).Nodup ↔ t.headers.Nodup := by
  rw [keyedHeaders]
  split
  · rfl
  · next hkey =>
    rw [List.nodup_append]
    constructor
    · exact fun h => h.1
    · intro hdistinct
      refine ⟨hdistinct, List.nodup_singleton key, fun name hname other hother => ?_⟩
      rintro rfl
      exact hkey (List.mem_singleton.1 hother ▸ hname)

theorem areTidy_keyedHeaders_iff {t : Table} {key : String} :
    (∀ name ∈ t.keyedHeaders key, IsTidy name) ↔
      (∀ name ∈ t.columns, ¬ HidesMark name) ∧ IsTidy key := by
  constructor
  · intro htidy
    refine ⟨fun name hname => ?_, htidy key (mem_keyedHeaders.2 (.inr rfl))⟩
    apply (isTidy_cleanHeader_iff name).1
    apply htidy
    exact mem_keyedHeaders.2 (.inl (List.mem_map_of_mem hname))
  · rintro ⟨hhides, hkey⟩ name hname
    rcases mem_keyedHeaders.1 hname with hheader | rfl
    · obtain ⟨header, hmem, rfl⟩ := List.mem_map.1 hheader
      exact (isTidy_cleanHeader_iff header).2 (hhides header hmem)
    · exact hkey

/-- Date keys are added if and only if exactly one header means the date texts once it is clean, and the
headers are then the clean ones with that of the keys. Cleaning makes a header tidy unless it hides a
mark. So a table with date texts comes to have date keys and tidy, different headers if and only if no
two of its headers become the same, none hides a mark, and the name for the keys is tidy. -/
theorem addDateKey_tidy_iff (t : Table) (text key : String) :
    ((∃ r, t.addDateKey (.text text) (.text key) = .ok r) ↔ t.headers.count text = 1) ∧
    (1 < t.headers.count text → t.addDateKey (.text text) (.text key) = .error .severalDateTexts) ∧
    (∀ r, t.addDateKey (.text text) (.text key) = .ok r → r.columns = t.keyedHeaders key) ∧
    (∀ name, IsTidy (cleanHeader name) ↔ ¬ HidesMark name) ∧
    (text ∈ t.headers →
      ((∃ r, t.addDateKey (.text text) (.text key) = .ok r ∧
          (∀ name ∈ r.columns, IsTidy name) ∧ r.columns.Nodup) ↔
        t.headers.Nodup ∧ (∀ name ∈ t.columns, ¬ HidesMark name) ∧ IsTidy key)) := by
  have hcases := addDateKey_cases t text key
  generalize t.addDateKey (.text text) (.text key) = outcome at hcases
  have hcount : text ∈ t.headers → t.headers.Nodup → t.headers.count text = 1 :=
    fun hmem hdistinct => List.count_eq_one_of_mem hdistinct hmem
  cases hcases with
  | missing hmissing =>
    have hzero := List.count_eq_zero.2 hmissing
    refine ⟨?_, ?_, ?_, isTidy_cleanHeader_iff, fun hmem => absurd hmem hmissing⟩
    · rw [hzero]
      constructor
      · exact fun ⟨_, hr⟩ => nomatch hr
      · exact fun hone => nomatch hone
    · intro hseveral
      omega
    · exact fun r hr => nomatch hr
  | several hseveral =>
    refine ⟨?_, fun _ => rfl, ?_, isTidy_cleanHeader_iff, fun hmem => ?_⟩
    · constructor
      · exact fun ⟨_, hr⟩ => nomatch hr
      · intro hone
        omega
    · exact fun r hr => nomatch hr
    · constructor
      · exact fun ⟨_, hr, _⟩ => nomatch hr
      · rintro ⟨hdistinct, -⟩
        -- Headers that are different do not mean the date texts twice.
        have hone := hcount hmem hdistinct
        omega
  | @keyed i r hone _ _ hcolumns =>
    refine ⟨⟨fun _ => hone, fun _ => ⟨r, rfl⟩⟩, ?_, ?_, isTidy_cleanHeader_iff, fun _ => ?_⟩
    · intro hseveral
      omega
    · rintro _ ⟨⟩
      exact hcolumns
    · have hnames : (t.keyedHeaders key).Nodup ↔ t.headers.Nodup := nodup_keyedHeaders_iff
      rw [← areTidy_keyedHeaders_iff, ← hnames, ← hcolumns]
      constructor
      · rintro ⟨_, ⟨⟩, htidy, hdistinct⟩
        exact ⟨hdistinct, htidy⟩
      · rintro ⟨hdistinct, htidy⟩
        exact ⟨r, rfl, htidy, hdistinct⟩

/-- An export whose date texts come a second time behind a byte order mark. -/
def markedTwice : Table :=
  { columns := ["SaleDate", "\ufeffSaleDate"], rows := [[.text "1/1/2026", .text "1/1/2026"]] }

/-- An export with a header that begins with a blank and a byte order mark. -/
def markedBehindBlank : Table :=
  { columns := ["SaleDate", " \ufeffBranch"], rows := [[.text "1/1/2026", .text "Bryan"]] }

/-- A second header for the date texts is not dropped, and there are no date keys because of it. A mark
behind a blank is still there when date keys have been added. -/
theorem addDateKey_keeps_marks :
    ("SaleDate" ∈ markedTwice.headers ∧
      markedTwice.addDateKey (.text "SaleDate") (.text "SaleDateKey") = .error .severalDateTexts) ∧
    "SaleDate" ∈ markedBehindBlank.headers ∧
      ∃ r, markedBehindBlank.addDateKey (.text "SaleDate") (.text "SaleDateKey") = .ok r ∧
        "\ufeffBranch" ∈ r.columns ∧ ¬ IsTidy "\ufeffBranch" := by
  refine ⟨⟨by decide, by decide⟩, by decide, _, rfl, by decide, fun htidy => ?_⟩
  exact htidy.unmarked (by decide)

end Table

end MapFilter
