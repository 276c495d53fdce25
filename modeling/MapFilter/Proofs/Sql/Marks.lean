import MapFilter.Sql.Evaluation

/-!
# Names, parentheses and question marks of a condition

Whoever wants to break out of a condition with a column name has to get past few rules: a double
quote begins a name, a double quote that is written twice stands for one inside it, and another one
ends it. Outside of names, parentheses have to balance, and each question mark takes a parameter.
Nothing else about the text is looked at here, so nothing is assumed of it either. The text of every
condition keeps to these rules, whatever its column names and values are made of.

- `marks?`: the names, parentheses and question marks of a text
- `openBehind?`: how many parentheses are open behind some marks
- `Shows`: a text that has some marks, whatever follows it
- `IsTame`: a text with balanced parentheses, some names at most and a number of question marks
- `Condition.isTame_text`: the text of a condition is tame
-/

namespace MapFilter.Sql

/-! ## §1 Marks -/

/-- What is seen of a text. -/
inductive Mark where
  /-- A name without its quotes. -/
  | name (column : String)
  | opening
  | closing
  | question
deriving DecidableEq

/-- The mark that a character outside of names is. -/
def Mark.ofChar? : Char → Option Mark
  | '(' => some .opening
  | ')' => some .closing
  | '?' => some .question
  | _ => none

mutual

/-- The marks of a text that begins outside of names; `none` if a name does not end. -/
def outside : List Char → Option (List Mark)
  | [] => some []
  | '"' :: cs => inside [] cs
  | c :: cs => (outside cs).map ((Mark.ofChar? c).toList ++ ·)

/-- The marks of a text that begins inside a name, of which a part was read. -/
def inside (read : List Char) : List Char → Option (List Mark)
  | [] => none
  | '"' :: '"' :: cs => inside (read ++ ['"']) cs
  | '"' :: cs => (outside cs).map (.name (String.ofList read) :: ·)
  | c :: cs => inside (read ++ [c]) cs

end

/-- The marks of a text. -/
def marks? (text : String) : Option (List Mark) :=
  outside text.toList

/-- The number of parentheses that are open behind the marks; `none` if one closes that is not
open. -/
def openBehind? (depth : Nat) : List Mark → Option Nat
  | [] => some depth
  | .opening :: ms => openBehind? (depth + 1) ms
  | .closing :: ms =>
    match depth with
    | 0 => none
    | depth + 1 => openBehind? depth ms
  | .name _ :: ms | .question :: ms => openBehind? depth ms

theorem openBehind?_append (ms ns : List Mark) (depth : Nat) :
    openBehind? depth (ms ++ ns) = (openBehind? depth ms).bind (openBehind? · ns) := by
  induction ms generalizing depth with
  | nil => rfl
  | cons m ms ih =>
    cases m with
    | opening => exact ih (depth + 1)
    | closing =>
      cases depth with
      | zero => rfl
      | succ depth => exact ih depth
    | name column => exact ih depth
    | question => exact ih depth

/-! ## §2 Texts and their marks -/

/-- The characters have the marks, whatever follows them. -/
def Shows (cs : List Char) (ms : List Mark) : Prop :=
  ∀ rest, outside (cs ++ rest) = (outside rest).map (ms ++ ·)

theorem Shows.append {cs ds : List Char} {ms ns : List Mark} (h : Shows cs ms) (h' : Shows ds ns) :
    Shows (cs ++ ds) (ms ++ ns) := by
  intro rest
  rw [List.append_assoc, h, h', Option.map_map]
  simp only [Function.comp_def, List.append_assoc]

theorem Shows.marks?_eq {text : String} {ms : List Mark} (h : Shows text.toList ms) :
    marks? text = some ms := by
  have hwhole := h []
  rw [List.append_nil] at hwhole
  rw [marks?, hwhole]
  simp [outside]

theorem outside_cons {c : Char} (hc : c ≠ '"') (rest : List Char) :
    outside (c :: rest) = (outside rest).map ((Mark.ofChar? c).toList ++ ·) := by
  rw [outside]
  exact hc

theorem inside_cons {c : Char} (hc : c ≠ '"') (read rest : List Char) :
    inside read (c :: rest) = inside (read ++ [c]) rest := by
  rw [inside]
  · exact fun cs hquotes => absurd hquotes hc
  · exact hc

theorem doubleQuotes_cons {c : Char} (hc : c ≠ '"') (rest : List Char) :
    doubleQuotes (c :: rest) = c :: doubleQuotes rest := by
  rw [doubleQuotes]
  exact hc

/-- The marks of a text without names. -/
def plainMarks (text : String) : List Mark :=
  text.toList.filterMap Mark.ofChar?

/-- A text without double quotes has the marks of its characters. -/
theorem shows_plain (text : String) (h : '"' ∉ text.toList) :
    Shows text.toList (plainMarks text) := by
  rw [plainMarks]
  generalize text.toList = cs at h
  -- No character begins a name, so the reader stays outside of names all the way.
  induction cs with
  | nil =>
    intro rest
    simp
  | cons c cs ih =>
    intro rest
    obtain ⟨hc, hcs⟩ := not_or.1 (mt List.mem_cons.2 h)
    have hmarks : (c :: cs).filterMap Mark.ofChar? =
        (Mark.ofChar? c).toList ++ cs.filterMap Mark.ofChar? := by
      cases hmark : Mark.ofChar? c <;> simp [hmark]
    rw [List.cons_append, outside_cons (Ne.symm hc), ih hcs, hmarks, Option.map_map]
    simp only [Function.comp_def, List.append_assoc]

/-- A name is read up to the quote behind it, whatever characters it has. -/
theorem inside_doubleQuotes (read name rest : List Char) {c : Char} (hc : c ≠ '"') :
    inside read (doubleQuotes name ++ '"' :: c :: rest) =
      (outside (c :: rest)).map (.name (String.ofList (read ++ name)) :: ·) := by
  induction name generalizing read with
  | nil =>
    rw [List.append_nil, doubleQuotes, List.nil_append, inside]
    intro cs hquote
    exact absurd (List.cons.inj hquote).1 hc
  | cons d name ih =>
    have hsplit : read ++ d :: name = read ++ [d] ++ name := by simp
    rw [hsplit, ← ih]
    by_cases hd : d = '"'
    · -- Written twice, the quote cannot be taken for the end of the name.
      subst hd
      rfl
    · rw [doubleQuotes_cons hd, List.cons_append, inside_cons hd]

/-- A name between its quotes is one mark, unless another quote follows. -/
theorem shows_around_identifier (before after column : String) (hbefore : '"' ∉ before.toList)
    (hafter : '"' ∉ after.toList) (hne : after ≠ "") :
    Shows (before ++ identifier column ++ after).toList
      (plainMarks before ++ .name column :: plainMarks after) := by
  have hname : Shows (identifier column ++ after).toList (.name column :: plainMarks after) := by
    intro rest
    have hrest := shows_plain after hafter rest
    rw [String.toList_append, identifier, String.toList_ofList]
    obtain ⟨c, cs, hcs⟩ : ∃ c cs, after.toList = c :: cs :=
      List.exists_cons_of_ne_nil (by simpa using hne)
    have hc : c ≠ '"' := by
      rintro rfl
      exact hafter (hcs ▸ List.mem_cons_self)
    rw [hcs, List.cons_append] at hrest
    have hquoted := inside_doubleQuotes [] column.toList (cs ++ rest) hc
    rw [hrest, Option.map_map, List.nil_append, String.ofList_toList] at hquoted
    simpa [outside, hcs, Function.comp_def] using hquoted
  rw [String.append_assoc, String.toList_append]
  exact (shows_plain before hbefore).append hname

/-! ## §3 Tame texts -/

/-- Parentheses balance in the text; it has no other names than these, and so many question marks
outside of names. -/
def IsTame (names : List String) (questions : Nat) (text : String) : Prop :=
  ∃ ms, Shows text.toList ms ∧ (∀ depth, openBehind? depth ms = some depth)
    ∧ (∀ column, .name column ∈ ms → column ∈ names) ∧ ms.count .question = questions

variable {names : List String} {n m : Nat} {s t : String}

theorem IsTame.mono {more : List String} (h : IsTame names n s) (hsub : names ⊆ more) :
    IsTame more n s := by
  obtain ⟨ms, hshows, hbalanced, hnames, hcount⟩ := h
  exact ⟨ms, hshows, hbalanced, fun column hcolumn => hsub (hnames column hcolumn), hcount⟩

theorem IsTame.append (h : IsTame names n s) (h' : IsTame names m t) :
    IsTame names (n + m) (s ++ t) := by
  obtain ⟨ms, hms, hbalanced, hnames, rfl⟩ := h
  obtain ⟨ns, hns, hbalanced', hnames', rfl⟩ := h'
  refine ⟨ms ++ ns, String.toList_append ▸ hms.append hns, fun depth => ?_, fun column hcolumn => ?_,
    List.count_append⟩
  · rw [openBehind?_append, hbalanced, Option.bind_some, hbalanced']
  · exact (List.mem_append.1 hcolumn).elim (hnames column) (hnames' column)

/-- A text without names is tame if its parentheses balance. -/
theorem isTame_plain (text : String) (hquote : '"' ∉ text.toList)
    (hbalanced : ∀ depth, openBehind? depth (plainMarks text) = some depth) :
    IsTame names ((plainMarks text).count .question) text := by
  refine ⟨plainMarks text, shows_plain text hquote, hbalanced, fun column hcolumn => ?_, rfl⟩
  obtain ⟨c, -, hc⟩ := List.mem_filterMap.1 hcolumn
  unfold Mark.ofChar? at hc
  split at hc <;> cases hc

theorem IsTame.parenthesised (h : IsTame names n s) : IsTame names n ("(" ++ s ++ ")") := by
  obtain ⟨ms, hms, hbalanced, hnames, rfl⟩ := h
  refine ⟨.opening :: (ms ++ [.closing]), ?_, fun depth => ?_, fun column hcolumn => ?_, ?_⟩
  · rw [String.toList_append, String.toList_append]
    exact ((shows_plain "(" (by decide)).append hms).append
      (shows_plain ")" (by decide))
  · rw [openBehind?, openBehind?_append, hbalanced]
    rfl
  · exact hnames column (by simpa using hcolumn)
  · simp

/-- Tame texts with a separator between them, each with a question mark for each of its
parameters. -/
theorem isTame_intercalate {separator : String} (hseparator : IsTame names 0 separator)
    {α : Type} {items : List α} {text : α → String} (params : α → List Value)
    (h : ∀ a ∈ items, IsTame names (params a).length (text a)) :
    IsTame names (items.flatMap params).length
      (String.intercalate separator (items.map text)) := by
  induction items with
  | nil => exact isTame_plain "" (by decide) fun depth => rfl
  | cons a rest ih =>
    have hfirst := h a List.mem_cons_self
    have hrest := ih fun b hb => h b (List.mem_cons_of_mem _ hb)
    cases rest with
    | nil => simpa using hfirst
    | cons b rest =>
      rw [List.map_cons, List.map_cons, String.intercalate_cons_cons, List.flatMap_cons,
        List.length_append]
      exact (hfirst.append hseparator).append hrest

/-- Tame parts that must all hold. -/
theorem isTame_conjunction {α : Type} {items : List α} {text : α → String}
    (params : α → List Value) (h : ∀ a ∈ items, IsTame names (params a).length (text a)) :
    IsTame names (items.flatMap params).length (conjunction (items.map text)) := by
  rw [conjunction]
  split
  · rename_i hempty
    obtain rfl : items = [] := by simpa using hempty
    exact isTame_plain "TRUE" (by decide) fun depth => rfl
  · exact isTame_intercalate (isTame_plain " AND " (by decide) fun depth => rfl) params h

/-! ## §4 Columns and bounds -/

theorem isTame_textOf {column : String} (hcolumn : column ∈ names) :
    IsTame names 0 (textOf column) := by
  have hshows := shows_around_identifier "CAST(" " AS VARCHAR)" column (by decide) (by decide)
    (by decide)
  refine ⟨_, hshows, fun depth => rfl, fun other hother => ?_, rfl⟩
  have hsame : other = column := by simpa [plainMarks, Mark.ofChar?] using hother
  exact hsame ▸ hcolumn

theorem isTame_finiteOf {column : String} (hcolumn : column ∈ names) :
    IsTame names 0 (finiteOf column) := by
  have hcast := shows_around_identifier "TRY_CAST(" " AS DOUBLE)" column (by decide) (by decide)
    (by decide)
  have hshows := ((((shows_plain "CASE WHEN isfinite(" (by decide)).append hcast).append
    (shows_plain ") THEN " (by decide))).append hcast).append (shows_plain " END" (by decide))
  simp only [← String.toList_append] at hshows
  refine ⟨_, hshows, fun depth => rfl, fun other hother => ?_, rfl⟩
  have hsame : other = column := by simpa [plainMarks, Mark.ofChar?] using hother
  exact hsame ▸ hcolumn

theorem isTame_quantityText {columns : List String} (h : ∀ column ∈ columns, column ∈ names) :
    IsTame names 0 (quantityText columns) := by
  cases columns with
  | nil => exact isTame_plain "0" (by decide) fun depth => rfl
  | cons column rest =>
    have hitems : IsTame names 0 (String.intercalate ", " ((column :: rest).map finiteOf)) := by
      have hall := isTame_intercalate (isTame_plain ", " (by decide) fun depth => rfl) (fun _ => [])
        fun other hother => isTame_finiteOf (h other hother)
      rwa [List.flatMap_eq_nil_iff.2 fun _ _ => rfl] at hall
    have hall := (isTame_plain "COALESCE" (by decide) fun depth => rfl).append
      (hitems.append (isTame_plain ", 0" (by decide) fun depth => rfl)).parenthesised
    -- The parentheses are written together with the words beside them.
    have htext : "COALESCE" ++ ("(" ++ (String.intercalate ", " ((column :: rest).map finiteOf)
        ++ ", 0") ++ ")") = quantityText (column :: rest) := by
      simp [quantityText, ← String.toList_inj]
    rwa [htext] at hall

/-- Question marks with commas between them. -/
theorem isTame_questions (values : List Value) :
    IsTame names values.length (String.intercalate ", " (values.map fun _ => "?")) := by
  have hall : IsTame names (values.flatMap fun v => [v]).length
      (String.intercalate ", " (values.map fun _ => "?")) :=
    isTame_intercalate (isTame_plain ", " (by decide) fun depth => rfl) (fun v => [v])
      fun v _ => isTame_plain "?" (by decide) fun depth => rfl
  rwa [List.flatMap_singleton'] at hall

theorem isTame_comparisons {columns : List String} (h : ∀ column ∈ columns, column ∈ names)
    (minimum maximum : Value) :
    ∀ comparison ∈ comparisons columns minimum maximum, IsTame names 1 comparison.1 := by
  have hquantity := isTame_quantityText h
  have hleast := hquantity.append (isTame_plain " >= ?" (by decide) fun depth => rfl)
  have hmost := hquantity.append (isTame_plain " <= ?" (by decide) fun depth => rfl)
  intro comparison hcomparison
  rw [comparisons, List.mem_append] at hcomparison
  rcases hcomparison with hmin | hmax
  · split at hmin
    · cases hmin
    · rw [List.mem_singleton.1 hmin]
      exact hleast
  · split at hmax
    · cases hmax
    · rw [List.mem_singleton.1 hmax]
      exact hmost

/-! ## §5 Conditions -/

namespace Condition

theorem isTame_within (columns : List String) (minimum maximum : Value) :
    IsTame (within columns minimum maximum).columnNames
      (within columns minimum maximum).params.length (within columns minimum maximum).text := by
  rw [text, params, columnNames]
  by_cases hbounds : minimum = .null ∧ maximum = .null
  · obtain ⟨rfl, rfl⟩ := hbounds
    exact isTame_plain "TRUE" (by decide) fun depth => rfl
  · rw [if_neg (by simpa using hbounds)]
    have hcolumns : ∀ column ∈ columns, column ∈ columns := fun column hcolumn => hcolumn
    have hall := isTame_conjunction (fun comparison => [comparison.2])
      (isTame_comparisons hcolumns minimum maximum)
    rwa [← List.map_eq_flatMap] at hall

/-- Induction on a condition: a conjunction may use what holds of all its parts. -/
theorem inductionOn {motive : Condition → Prop} (everything : motive .everything)
    (always : motive .always) (never : motive .never)
    (textEquals : ∀ column value, motive (.textEquals column value))
    (textIn : ∀ column values, motive (.textIn column values))
    (within : ∀ columns minimum maximum, motive (.within columns minimum maximum))
    (every : ∀ parts, (∀ c ∈ parts, motive c) → motive (.every parts)) (c : Condition) :
    motive c := by
  refine @Condition.rec motive (fun parts => ∀ c ∈ parts, motive c) everything always never
    textEquals textIn within every ?_ ?_ c
  · simp
  · intro head tail hhead htail d hd
    rcases List.mem_cons.1 hd with rfl | hd
    · exact hhead
    · exact htail d hd

theorem partTexts_eq (parts : List Condition) :
    partTexts parts = parts.map fun c => "(" ++ c.text ++ ")" := by
  induction parts with
  | nil => rw [partTexts, List.map_nil]
  | cons c rest ih => rw [partTexts, ih, List.map_cons]

theorem partParams_eq (parts : List Condition) : partParams parts = parts.flatMap params := by
  induction parts with
  | nil => rw [partParams, List.flatMap_nil]
  | cons c rest ih => rw [partParams, ih, List.flatMap_cons]

theorem namesOfParts_eq (parts : List Condition) :
    columnNames.namesOfParts parts = parts.flatMap columnNames := by
  induction parts with
  | nil => rw [columnNames.namesOfParts, List.flatMap_nil]
  | cons c rest ih => rw [columnNames.namesOfParts, ih, List.flatMap_cons]

/-- The text of a condition has the names of its columns only, balanced parentheses, and a question
mark for each parameter. -/
theorem isTame_text (c : Condition) : IsTame c.columnNames c.params.length c.text := by
  induction c using inductionOn with
  | everything => exact isTame_plain "1=1" (by decide) fun depth => rfl
  | always => exact isTame_plain "TRUE" (by decide) fun depth => rfl
  | never => exact isTame_plain "FALSE" (by decide) fun depth => rfl
  | textEquals column value =>
    have htext : IsTame [column] 0 (textOf column) := isTame_textOf List.mem_cons_self
    rw [columnNames, params, text]
    exact htext.append (isTame_plain " = ?" (by decide) fun depth => rfl)
  | textIn column values =>
    have htext : IsTame [column] 0 (textOf column) := isTame_textOf List.mem_cons_self
    have hin : IsTame [column] 0 " IN " := isTame_plain " IN " (by decide) fun depth => rfl
    have hall := (htext.append hin).append (isTame_questions values).parenthesised
    have hsplit : textOf column ++ " IN " ++ ("(" ++ String.intercalate ", "
        (values.map fun _ => "?") ++ ")") = (textIn column values).text := by
      simp [text, ← String.toList_inj]
    rw [hsplit] at hall
    rw [columnNames, params]
    simpa using hall
  | within columns minimum maximum => exact isTame_within columns minimum maximum
  | every parts ih =>
    rw [columnNames, namesOfParts_eq, params, partParams_eq, text, partTexts_eq]
    refine isTame_conjunction params fun c hc => (ih c hc).parenthesised.mono ?_
    exact fun name hname => List.mem_flatMap.2 ⟨c, hc, hname⟩

/-- Quotes, parentheses and question marks in a name are nothing but the name. -/
example : marks? (textEquals "a\" = ? OR (\"b" (.text "?")).text =
    some [.opening, .name "a\" = ? OR (\"b", .closing, .question] := by decide

end Condition

end MapFilter.Sql
