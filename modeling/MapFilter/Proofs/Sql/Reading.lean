import MapFilter.Proofs.Sql.Terms

/-!
# What the text of a condition stands for

The text of a condition, read with its parameters, is a term of the same shape. Column names are
read back as they were, since their quotes are doubled, and every parameter gets to its place.

- `Condition.term`: the term that a condition means
- `Condition.read?_text`: the term that its text is read as
-/

namespace MapFilter.Sql

/-! ## §1 The meaning of conditions -/

/-- The finite number in a column, null otherwise. -/
def finiteTerm (column : String) : Term :=
  .onlyIf (.isFinite (.castNumber (.column column))) (.castNumber (.column column))

/-- The first finite number of a chain of columns, zero if there is none. -/
def quantityTerm : List String → Term
  | [] => .value (.int 0)
  | column :: rest => .firstOf (finiteTerm column) (quantityTerm rest)

/-- All terms are true. -/
def conjunctionTerm : List Term → Term
  | [] => .value (.bool true)
  | [t] => t
  | t :: rest => .both t (conjunctionTerm rest)

/-- The comparisons of a quantity with the bounds that are there. -/
def comparisonTerms (columns : List String) (minimum maximum : Value) : List Term :=
  (if minimum = .null then [] else [.compare .atLeast (quantityTerm columns) (.value minimum)])
    ++ (if maximum = .null then [] else [.compare .atMost (quantityTerm columns) (.value maximum)])

/-- The text of a column is one of several values. -/
def textInTerm (column : String) : List Value → Term
  | [] => .value (.bool false)
  | v :: rest => (Term.castText (.column column)).oneOf (.value v) (rest.map .value)

namespace Condition

mutual

/-- The term that a condition means. -/
def term : Condition → Term
  | .everything => .compare .equal (.value (.int 1)) (.value (.int 1))
  | .always => .value (.bool true)
  | .never => .value (.bool false)
  | .textEquals column v => .compare .equal (.castText (.column column)) (.value v)
  | .textIn column values => textInTerm column values
  | .within columns minimum maximum => conjunctionTerm (comparisonTerms columns minimum maximum)
  | .every parts => conjunctionTerm (partTerms parts)

/-- The terms that parts mean. -/
def partTerms : List Condition → List Term
  | [] => []
  | c :: rest => c.term :: partTerms rest

end

/-- Every list of values in the condition has an item. -/
inductive IsProper : Condition → Prop where
  | everything : IsProper .everything
  | always : IsProper .always
  | never : IsProper .never
  | textEquals (column : String) (v : Value) : IsProper (.textEquals column v)
  | textIn (column : String) (v : Value) (rest : List Value) : IsProper (.textIn column (v :: rest))
  | within (columns : List String) (minimum maximum : Value) :
    IsProper (.within columns minimum maximum)
  | every {parts : List Condition} (h : ∀ c ∈ parts, IsProper c) : IsProper (.every parts)

end Condition

/-! ## §2 Texts and terms -/

/-- A text with its parameters is spelled with tokens of some kind, which are a term. -/
def Writes (kind : List Token → Term → Prop) (text : String) (params : List Value) (t : Term) :
    Prop :=
  ∃ ts, Spells text.toList params ts ∧ kind ts t

/-- A text with its parameters is spelled with tokens that are items. -/
def WritesItems (text : String) (params : List Value) (t : Term) (others : List Term) : Prop :=
  ∃ ts, Spells text.toList params ts ∧ AreItems ts t others

section Parts

variable {text other : String} {params others : List Value} {t u : Term} {terms : List Term}

theorem Writes.conjunction (h : Writes IsComparison text params t) :
    Writes IsConjunction text params t := by
  obtain ⟨ts, hspells, hts⟩ := h
  exact ⟨ts, hspells, hts.conjunction⟩

theorem Writes.comparison (h : Writes IsPrimary text params t) :
    Writes IsComparison text params t := by
  obtain ⟨ts, hspells, hts⟩ := h
  exact ⟨ts, hspells, hts.comparison⟩

theorem writes_mark (v : Value) : Writes IsPrimary "?" [v] (.value v) := by
  refine ⟨[.value v], Spells.of_run fun done rest => rfl, fun rest => ?_⟩
  rw [List.singleton_append, primary?]

theorem writes_zero : Writes IsPrimary "0" [] (.value (.int 0)) := by
  refine ⟨[.number 0], fun done rest => ⟨rfl, rfl⟩, fun rest => ?_⟩
  rw [List.singleton_append, primary?]
  rfl

theorem writes_truth (b : Bool) :
    Writes IsPrimary (if b then "TRUE" else "FALSE") [] (.value (.bool b)) := by
  refine ⟨[.truth b], fun done rest => ?_, fun rest => ?_⟩
  · cases b <;> exact ⟨rfl, rfl⟩
  · rw [List.singleton_append, primary?]

/-- A sign between a term and a parameter. -/
theorem Writes.compare (h : Writes IsPrimary text params t) (c : Comparison) (v : Value) :
    Writes IsComparison
      (text ++ match c with | .equal => " = ?" | .atLeast => " >= ?" | .atMost => " <= ?")
      (params ++ [v]) (.compare c t (.value v)) := by
  obtain ⟨ts, hspells, hts⟩ := h
  have hvalue : IsPrimary [.value v] (.value v) := fun rest => by
    rw [List.singleton_append, primary?]
  refine ⟨ts ++ .compares c :: [.value v], ?_, hts.compare hvalue c⟩
  rw [String.toList_append]
  cases c with
  | equal => exact hspells.append (d := ' ') (Spells.of_run fun done rest => rfl) rfl
  | atLeast => exact hspells.append (d := ' ') (Spells.of_run fun done rest => rfl) rfl
  | atMost => exact hspells.append (d := ' ') (Spells.of_run fun done rest => rfl) rfl

/-- A comparison before a conjunction. -/
theorem Writes.both (h : Writes IsComparison text params t)
    (h' : Writes IsConjunction other others u) :
    Writes IsConjunction (text ++ " AND " ++ other) (params ++ others) (.both t u) := by
  obtain ⟨ts, hspells, hts⟩ := h
  obtain ⟨us, hspells', hus⟩ := h'
  refine ⟨ts ++ .conjunct :: us, ?_, hts.both hus⟩
  rw [String.toList_append, String.toList_append, List.append_assoc]
  exact hspells.append (hspells'.after " AND ".toList [.conjunct]
    fun done rest => rfl) rfl

theorem Writes.parenthesised (h : Writes IsConjunction text params t) :
    Writes IsPrimary ("(" ++ text ++ ")") params t := by
  obtain ⟨ts, hspells, hts⟩ := h
  refine ⟨.opening :: ts ++ [.closing], ?_, hts.parenthesised⟩
  have hclosed : Spells (text.toList ++ [')']) (params ++ []) (ts ++ [.closing]) :=
    hspells.append (Spells.of_run fun done rest => rfl) rfl
  rw [List.append_nil] at hclosed
  rw [String.toList_append, String.toList_append, List.append_assoc]
  exact hclosed.after ['('] [.opening] fun done rest => rfl

theorem Writes.items (h : Writes IsConjunction text params t) :
    WritesItems (text ++ ")") params t [] := by
  obtain ⟨ts, hspells, hts⟩ := h
  refine ⟨ts ++ [.closing], ?_, hts.areItems⟩
  have hclosed : Spells (text.toList ++ [')']) (params ++ []) (ts ++ [.closing]) :=
    hspells.append (Spells.of_run fun done rest => rfl) rfl
  rw [List.append_nil] at hclosed
  rwa [String.toList_append]

theorem Writes.items_cons (h : Writes IsConjunction text params t)
    (h' : WritesItems other others u terms) :
    WritesItems (text ++ ", " ++ other) (params ++ others) t (u :: terms) := by
  obtain ⟨ts, hspells, hts⟩ := h
  obtain ⟨us, hspells', hus⟩ := h'
  refine ⟨ts ++ .comma :: us, ?_, hts.areItems_cons hus⟩
  rw [String.toList_append, String.toList_append, List.append_assoc]
  exact hspells.append (hspells'.after ", ".toList [.comma]
    fun done rest => rfl) rfl

end Parts

/-! ## §3 Terms of single columns -/

/-- A column between its quotes, behind an opening and before a closing text. -/
theorem run_around_identifier {before after : String} {ts us : List Token}
    (hbefore : ∀ done rest, Scanner.run ⟨done, .between, rest⟩ before.toList =
      ⟨ts.reverse ++ done, .between, rest⟩)
    (hafter : ∀ done rest, Scanner.run ⟨done, .between, rest⟩ after.toList =
      ⟨us.reverse ++ done, .between, rest⟩) {c : Char} {cs : List Char}
    (hhead : after.toList = c :: cs) (hc : c ≠ '"') (column : String) (done : List Token)
    (rest : List Value) :
    Scanner.run ⟨done, .between, rest⟩ (before ++ identifier column ++ after).toList =
      ⟨(ts ++ .name column :: us).reverse ++ done, .between, rest⟩ := by
  rw [String.append_assoc, String.toList_append, String.toList_append, Scanner.run_append, hbefore,
    hhead, Scanner.run_identifier_append _ _ _ hc, ← hhead, hafter]
  simp

theorem isPrimary_name (column : String) : IsPrimary [.name column] (.column column) := by
  intro rest
  rw [List.singleton_append, primary?]

theorem writes_textOf (column : String) :
    Writes IsPrimary (textOf column) [] (.castText (.column column)) := by
  have hbefore : ∀ done rest, Scanner.run ⟨done, .between, rest⟩ "CAST(".toList =
      ⟨[Token.cast, .opening].reverse ++ done, .between, rest⟩ := fun _ _ => rfl
  have hafter : ∀ done rest, Scanner.run ⟨done, .between, rest⟩ " AS VARCHAR)".toList =
      ⟨[Token.asType, .varchar, .closing].reverse ++ done, .between, rest⟩ := fun _ _ => rfl
  refine ⟨.cast :: .opening :: [.name column] ++ [.asType, .varchar, .closing],
    Spells.of_run fun done rest => ?_, (isPrimary_name column).conjunction.castText⟩
  exact run_around_identifier hbefore hafter rfl (by decide) column done rest

/-- The text of a cell as a number. -/
def castOf (column : String) : String :=
  "TRY_CAST(" ++ identifier column ++ " AS DOUBLE)"

/-- The tokens of a cell as a number. -/
def castTokens (column : String) : List Token :=
  .tryCast :: .opening :: [.name column] ++ [.asType, .double, .closing]

/-- The text of a cell as a number is read completely. -/
theorem run_castOf (column : String) (done : List Token) (rest : List Value) :
    Scanner.run ⟨done, .between, rest⟩ (castOf column).toList =
      ⟨(castTokens column).reverse ++ done, .between, rest⟩ := by
  have hbefore : ∀ done rest, Scanner.run ⟨done, .between, rest⟩ "TRY_CAST(".toList =
      ⟨[Token.tryCast, .opening].reverse ++ done, .between, rest⟩ := fun _ _ => rfl
  have hafter : ∀ done rest, Scanner.run ⟨done, .between, rest⟩ " AS DOUBLE)".toList =
      ⟨[Token.asType, .double, .closing].reverse ++ done, .between, rest⟩ := fun _ _ => rfl
  exact run_around_identifier hbefore hafter rfl (by decide) column done rest

theorem writes_finiteOf (column : String) :
    Writes IsConjunction (finiteOf column) [] (finiteTerm column) := by
  have hcast : IsPrimary (castTokens column) (.castNumber (.column column)) :=
    (isPrimary_name column).conjunction.castNumber
  -- The text in the order in which it is read, each piece beside its tokens.
  have htext : finiteOf column =
      "CASE WHEN isfinite(" ++ (castOf column ++ (") THEN " ++ (castOf column ++ " END"))) := by
    rw [← String.append_assoc, ← String.append_assoc, ← String.append_assoc]
    rfl
  have htokens : .caseOf :: .whenTrue :: (.isFinite :: .opening :: castTokens column ++ [.closing])
      ++ .thenValue :: castTokens column ++ [.endCase] =
      [.caseOf, .whenTrue, .isFinite, .opening] ++ (castTokens column
        ++ ([.closing, .thenValue] ++ (castTokens column ++ [.endCase]))) := by
    simp
  have hcase : ∀ done rest, Scanner.run ⟨done, .between, rest⟩ "CASE WHEN isfinite(".toList =
      ⟨[Token.caseOf, .whenTrue, .isFinite, .opening].reverse ++ done, .between, rest⟩ :=
    fun _ _ => rfl
  have hthen : ∀ done rest, Scanner.run ⟨done, .between, rest⟩ ") THEN ".toList =
      ⟨[Token.closing, .thenValue].reverse ++ done, .between, rest⟩ := fun _ _ => rfl
  have hend : Spells " END".toList [] [.endCase] := fun done rest => ⟨rfl, rfl⟩
  refine ⟨.caseOf :: .whenTrue :: (.isFinite :: .opening :: castTokens column ++ [.closing])
      ++ .thenValue :: castTokens column ++ [.endCase], ?_,
    (hcast.conjunction.isFinite.conjunction.onlyIf hcast.conjunction).conjunction⟩
  rw [htext, htokens, String.toList_append, String.toList_append, String.toList_append,
    String.toList_append]
  exact (((hend.after _ _ (run_castOf column)).after _ _ hthen).after _ _
    (run_castOf column)).after _ _ hcase

/-! ## §4 Conditions -/

/-- The finite numbers of a chain of columns and zero are items. -/
theorem writesItems_quantity (column : String) (rest : List String) :
    WritesItems (String.intercalate ", " ((column :: rest).map finiteOf) ++ ", 0)") []
      (finiteTerm column) (rest.map finiteTerm ++ [.value (.int 0)]) := by
  have hzero : WritesItems "0)" [] (.value (.int 0)) [] := writes_zero.comparison.conjunction.items
  induction rest generalizing column with
  | nil =>
    have h := (writes_finiteOf column).items_cons hzero
    rw [@String.append_assoc (finiteOf column)] at h
    rw [List.map_singleton, String.intercalate_singleton]
    exact h
  | cons next rest ih =>
    rw [List.map_cons, List.map_cons, String.intercalate_cons_cons,
      @String.append_assoc (finiteOf column ++ ", ")]
    exact (writes_finiteOf column).items_cons (ih next)

/-- Zero behind the items of a chain is the last resort. -/
theorem firstOfAll_eq_quantityTerm (column : String) (rest : List String) :
    (finiteTerm column).firstOfAll (rest.map finiteTerm ++ [.value (.int 0)]) =
      quantityTerm (column :: rest) := by
  induction rest generalizing column with
  | nil => rfl
  | cons next rest ih =>
    rw [quantityTerm, ← ih next]
    rfl

theorem writes_quantityText (columns : List String) :
    Writes IsPrimary (quantityText columns) [] (quantityTerm columns) := by
  cases columns with
  | nil => exact writes_zero
  | cons column rest =>
    obtain ⟨ts, hspells, hts⟩ := writesItems_quantity column rest
    rw [← firstOfAll_eq_quantityTerm]
    refine ⟨.coalesce :: .opening :: ts, ?_, hts.firstOfAll⟩
    have h := hspells.after "COALESCE(".toList [.coalesce, .opening]
      fun done rest => rfl
    rwa [← String.toList_append, ← String.append_assoc] at h

theorem writesItems_marks (v : Value) (rest : List Value) :
    WritesItems (String.intercalate ", " ((v :: rest).map fun _ => "?") ++ ")") (v :: rest)
      (.value v) (rest.map .value) := by
  induction rest generalizing v with
  | nil => exact (writes_mark v).comparison.conjunction.items
  | cons w rest ih =>
    have h := (writes_mark v).comparison.conjunction.items_cons (ih w)
    rw [List.map_cons, List.map_cons, String.intercalate_cons_cons,
      @String.append_assoc ("?" ++ ", ")]
    exact h

theorem writes_textIn (column : String) (v : Value) (rest : List Value) :
    Writes IsComparison (Condition.textIn column (v :: rest)).text (v :: rest)
      (textInTerm column (v :: rest)) := by
  obtain ⟨ts, hspells, hts⟩ := writes_textOf column
  obtain ⟨us, hspells', hus⟩ := writesItems_marks v rest
  refine ⟨ts ++ .among :: .opening :: us, ?_, hts.among hus⟩
  rw [Condition.text, String.append_assoc, String.append_assoc, String.toList_append,
    String.toList_append]
  exact hspells.append (hspells'.after " IN (".toList [.among, .opening]
    fun done rest => rfl) rfl

/-- A comparison with its text and parameters. -/
structure Part where
  text : String
  params : List Value
  term : Term
  writes : Writes IsComparison text params term

/-- Comparisons that must all hold. -/
theorem writes_conjunction (parts : List Part) :
    Writes IsConjunction (conjunction (parts.map Part.text)) (parts.flatMap Part.params)
      (conjunctionTerm (parts.map Part.term)) := by
  cases parts with
  | nil => exact (writes_truth true).comparison.conjunction
  | cons p rest =>
    -- The conjunction associates to the right, like the list of its parts.
    have hall (p : Part) (rest : List Part) :
        Writes IsConjunction (String.intercalate " AND " ((p :: rest).map Part.text))
          ((p :: rest).flatMap Part.params) (conjunctionTerm ((p :: rest).map Part.term)) := by
      induction rest generalizing p with
      | nil =>
        simp only [List.map_cons, List.map_nil, String.intercalate_singleton, List.flatMap_cons,
          List.flatMap_nil, List.append_nil, conjunctionTerm]
        exact p.writes.conjunction
      | cons q rest ih =>
        have h := p.writes.both (ih q)
        simp only [List.map_cons, String.intercalate_cons_cons, List.flatMap_cons,
          conjunctionTerm] at h ⊢
        exact h
    exact hall p rest

/-- The comparisons with bounds. -/
def boundParts (columns : List String) (minimum maximum : Value) : List Part :=
  (if minimum = .null then []
    else [⟨_, _, _, (writes_quantityText columns).compare .atLeast minimum⟩])
  ++ (if maximum = .null then []
    else [⟨_, _, _, (writes_quantityText columns).compare .atMost maximum⟩])

theorem writes_within (columns : List String) (minimum maximum : Value) :
    Writes IsConjunction (Condition.within columns minimum maximum).text
      (Condition.within columns minimum maximum).params
      (Condition.within columns minimum maximum).term := by
  have h := writes_conjunction (boundParts columns minimum maximum)
  -- Whichever bounds are there, the parts have the texts, parameters and terms of the condition.
  have htexts : (boundParts columns minimum maximum).map Part.text =
      (comparisons columns minimum maximum).map Prod.fst := by
    unfold boundParts comparisons
    split <;> split <;> rfl
  have hparams : (boundParts columns minimum maximum).flatMap Part.params =
      (comparisons columns minimum maximum).map Prod.snd := by
    unfold boundParts comparisons
    split <;> split <;> rfl
  have hterms : (boundParts columns minimum maximum).map Part.term =
      comparisonTerms columns minimum maximum := by
    unfold boundParts comparisonTerms
    split <;> split <;> rfl
  rwa [htexts, hparams, hterms] at h

namespace Condition

/-- The text and parameters of a condition are its term. -/
theorem writes_term {c : Condition} (h : c.IsProper) :
    Writes IsConjunction c.text c.params c.term := by
  induction h with
  | everything =>
    refine ⟨[.number 1] ++ .compares .equal :: [.number 1], fun done rest => ⟨rfl, rfl⟩, ?_⟩
    have hone : IsPrimary [.number 1] (.value (.int 1)) := fun rest => by
      rw [List.singleton_append, primary?]
      rfl
    exact (hone.compare hone .equal).conjunction
  | always => exact (writes_truth true).comparison.conjunction
  | never => exact (writes_truth false).comparison.conjunction
  | textEquals column v => exact ((writes_textOf column).compare .equal v).conjunction
  | textIn column v rest => exact (writes_textIn column v rest).conjunction
  | within columns minimum maximum => exact writes_within columns minimum maximum
  | @every parts hparts ih =>
    -- Each part stands between parentheses, where it is a comparison like any other.
    have hlist : ∃ written : List Part, written.map Part.text = partTexts parts
        ∧ written.flatMap Part.params = partParams parts
        ∧ written.map Part.term = partTerms parts := by
      clear hparts
      induction parts with
      | nil => exact ⟨[], rfl, rfl, rfl⟩
      | cons c rest ihrest =>
        obtain ⟨written, htexts, hparams, hterms⟩ :=
          ihrest fun d hd => ih d (List.mem_cons_of_mem _ hd)
        refine ⟨⟨_, _, _, (ih c List.mem_cons_self).parenthesised.comparison⟩ :: written, ?_, ?_, ?_⟩
        · rw [List.map_cons, htexts, partTexts]
        · rw [List.flatMap_cons, hparams, partParams]
        · rw [List.map_cons, hterms, partTerms]
    obtain ⟨written, htexts, hparams, hterms⟩ := hlist
    have h := writes_conjunction written
    rwa [htexts, hparams, hterms] at h

/-- The text of a condition, read with its parameters, is its term. -/
theorem read?_text {c : Condition} (h : c.IsProper) : read? c.text c.params = some c.term := by
  obtain ⟨ts, hspells, hts⟩ := writes_term h
  -- Nothing follows the whole text.
  have hwhole := hts [] rfl
  rw [List.append_nil] at hwhole
  rw [read?, hspells.tokens?_eq, Option.bind_some, hwhole]

end Condition

end MapFilter.Sql
