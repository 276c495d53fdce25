import MapFilter.Proofs.Sql.Tokens

/-!
# Terms of a condition

The tokens of a condition are a conjunction of comparisons. Comparisons bind more tightly than
conjunctions, and everything else is held together by parentheses or keywords.

- `read?`: the term that a text with its parameters stands for
- `IsPrimary`, `IsComparison`, `IsConjunction`: tokens that are read as a term, whatever follows
- `IsPrimary.compare`, `IsComparison.both`, and others: how such tokens are put together
-/

namespace MapFilter.Sql

/-! ## §1 Terms -/

/-- A term over the columns of a row. -/
inductive Term where
  | column (name : String)
  | value (v : Value)
  | castText (t : Term)
  /-- The number that a value is cast to, null if there is none. -/
  | castNumber (t : Term)
  | isFinite (t : Term)
  /-- A term if the condition is true, null otherwise. -/
  | onlyIf (condition t : Term)
  /-- The first of two terms that is not null. -/
  | firstOf (t u : Term)
  | compare (c : Comparison) (t u : Term)
  | both (t u : Term)
  | either (t u : Term)
deriving DecidableEq

/-- The first of several terms that is not null. -/
def Term.firstOfAll (t : Term) : List Term → Term
  | [] => t
  | u :: rest => .firstOf t (firstOfAll u rest)

/-- Whether a term equals one of several others. -/
def Term.oneOf (t u : Term) : List Term → Term
  | [] => .compare .equal t u
  | w :: rest => .either (.compare .equal t u) (oneOf t w rest)

/-! ## §2 Grammar -/

mutual

/-- The term that is not put together by signs, at the beginning of tokens, and what follows it. -/
def primary? (ts : List Token) : Option (Term × List Token) :=
  match ts with
  | .name column :: rest => some (.column column, rest)
  | .value v :: rest => some (.value v, rest)
  | .number n :: rest => some (.value (.int n), rest)
  | .truth b :: rest => some (.value (.bool b), rest)
  | .opening :: rest =>
    match conjunction? rest with
    | some (t, .closing :: rest) => some (t, rest)
    | _ => none
  | .cast :: .opening :: rest =>
    match conjunction? rest with
    | some (t, .asType :: .varchar :: .closing :: rest) => some (.castText t, rest)
    | _ => none
  | .tryCast :: .opening :: rest =>
    match conjunction? rest with
    | some (t, .asType :: .double :: .closing :: rest) => some (.castNumber t, rest)
    | _ => none
  | .isFinite :: .opening :: rest =>
    match conjunction? rest with
    | some (t, .closing :: rest) => some (.isFinite t, rest)
    | _ => none
  | .caseOf :: .whenTrue :: rest =>
    match conjunction? rest with
    | some (condition, .thenValue :: others) =>
      -- What is left is compared with what was there, so that reading is seen to end.
      if others.length < rest.length then
        match conjunction? others with
        | some (t, .endCase :: rest) => some (.onlyIf condition t, rest)
        | _ => none
      else none
    | _ => none
  | .coalesce :: .opening :: rest =>
    (items? rest).map fun (t, others, rest) => (t.firstOfAll others, rest)
  | _ => none
termination_by (ts.length, 0)

/-- The comparison at the beginning of tokens, and what follows it. -/
def comparison? (ts : List Token) : Option (Term × List Token) :=
  match primary? ts with
  | some (t, .compares c :: rest) =>
    if rest.length < ts.length then (primary? rest).map fun (u, rest) => (.compare c t u, rest)
    else none
  | some (t, .among :: .opening :: rest) =>
    if rest.length < ts.length then
      (items? rest).map fun (u, others, rest) => (t.oneOf u others, rest)
    else none
  | result => result
termination_by (ts.length, 1)

/-- The conjunction at the beginning of tokens, and what follows it. -/
def conjunction? (ts : List Token) : Option (Term × List Token) :=
  match comparison? ts with
  | some (t, .conjunct :: rest) =>
    if rest.length < ts.length then (conjunction? rest).map fun (u, rest) => (.both t u, rest)
    else none
  | result => result
termination_by (ts.length, 2)

/-- The terms between commas up to a closing parenthesis, and what follows it. -/
def items? (ts : List Token) : Option (Term × List Term × List Token) :=
  match conjunction? ts with
  | some (t, .comma :: rest) =>
    if rest.length < ts.length then
      (items? rest).map fun (u, others, rest) => (t, u :: others, rest)
    else none
  | some (t, .closing :: rest) => some (t, [], rest)
  | _ => none
termination_by (ts.length, 3)

end

/-- The term that a text with its parameters stands for. -/
def read? (text : String) (params : List Value) : Option Term :=
  match (tokens? text params).bind conjunction? with
  | some (t, []) => some t
  | _ => none

/-! ## §3 Reading tokens in parts -/

/-- Whether tokens make a term before them go on. -/
def Token.goOn : List Token → Bool
  | .compares _ :: _ | .among :: _ | .conjunct :: _ => true
  | _ => false

/-- Whether tokens make a comparison before them go on. -/
def Token.goOnComparing : List Token → Bool
  | .compares _ :: _ | .among :: _ => true
  | _ => false

/-- The tokens are a term that is not put together by signs. -/
def IsPrimary (ts : List Token) (t : Term) : Prop :=
  ∀ rest, primary? (ts ++ rest) = some (t, rest)

/-- The tokens are a comparison, unless they go on. -/
def IsComparison (ts : List Token) (t : Term) : Prop :=
  ∀ rest, Token.goOnComparing rest = false → comparison? (ts ++ rest) = some (t, rest)

/-- The tokens are a conjunction, unless they go on. -/
def IsConjunction (ts : List Token) (t : Term) : Prop :=
  ∀ rest, Token.goOn rest = false → conjunction? (ts ++ rest) = some (t, rest)

/-- The tokens are terms between commas and a closing parenthesis. -/
def AreItems (ts : List Token) (t : Term) (others : List Term) : Prop :=
  ∀ rest, items? (ts ++ rest) = some (t, others, rest)

theorem Token.goOnComparing_eq_false {rest : List Token} (h : Token.goOn rest = false) :
    Token.goOnComparing rest = false := by
  -- Of the tokens that make a term go on, only a conjunction does not concern comparisons.
  unfold goOn at h
  split at h
  · cases h
  · cases h
  · cases h
  · rename_i hcompares hamong _
    unfold goOnComparing
    split
    · exact absurd rfl (hcompares _ _)
    · exact absurd rfl (hamong _)
    · rfl

theorem IsPrimary.comparison {ts : List Token} {t : Term} (h : IsPrimary ts t) :
    IsComparison ts t := by
  intro rest hrest
  rw [comparison?, h rest]
  cases rest with
  | nil => rfl
  | cons token rest => cases token <;> first | rfl | cases hrest

/-- Two single terms around a sign are a comparison. -/
theorem IsPrimary.compare {ts us : List Token} {t u : Term} (ht : IsPrimary ts t)
    (hu : IsPrimary us u) (c : Comparison) :
    IsComparison (ts ++ .compares c :: us) (.compare c t u) := by
  intro rest _
  -- What is left behind the sign is shorter, so it is read.
  have hshort : (us ++ rest).length < (ts ++ .compares c :: us ++ rest).length := by
    simp only [List.length_append, List.length_cons]
    omega
  rw [comparison?, List.append_assoc, ht, List.cons_append]
  rw [List.append_assoc, List.cons_append] at hshort
  simp only [hshort, if_true, hu rest, Option.map_some]

/-- A single term before a list is a comparison with each item. -/
theorem IsPrimary.among {ts us : List Token} {t u : Term} {others : List Term}
    (ht : IsPrimary ts t) (hu : AreItems us u others) :
    IsComparison (ts ++ .among :: .opening :: us) (t.oneOf u others) := by
  intro rest _
  have hshort : (us ++ rest).length < (ts ++ .among :: .opening :: us ++ rest).length := by
    simp only [List.length_append, List.length_cons]
    omega
  rw [comparison?, List.append_assoc, ht, List.cons_append, List.cons_append]
  rw [List.append_assoc, List.cons_append, List.cons_append] at hshort
  simp only [hshort, if_true, hu rest, Option.map_some]

theorem IsComparison.conjunction {ts : List Token} {t : Term} (h : IsComparison ts t) :
    IsConjunction ts t := by
  intro rest hrest
  rw [conjunction?, h rest (Token.goOnComparing_eq_false hrest)]
  cases rest with
  | nil => rfl
  | cons token rest => cases token <;> first | rfl | cases hrest

theorem IsPrimary.conjunction {ts : List Token} {t : Term} (h : IsPrimary ts t) :
    IsConjunction ts t :=
  h.comparison.conjunction

/-- A comparison before a conjunction is a conjunction. -/
theorem IsComparison.both {ts us : List Token} {t u : Term} (ht : IsComparison ts t)
    (hu : IsConjunction us u) : IsConjunction (ts ++ .conjunct :: us) (.both t u) := by
  intro rest hrest
  have hshort : (us ++ rest).length < (ts ++ .conjunct :: us ++ rest).length := by
    simp only [List.length_append, List.length_cons]
    omega
  rw [conjunction?, List.append_assoc, List.cons_append, ht _ rfl]
  rw [List.append_assoc, List.cons_append] at hshort
  simp only [hshort, if_true, hu rest hrest, Option.map_some]

theorem IsConjunction.parenthesised {ts : List Token} {t : Term} (h : IsConjunction ts t) :
    IsPrimary (.opening :: ts ++ [.closing]) t := by
  intro rest
  have hts := h (.closing :: rest) rfl
  simp only [List.cons_append, List.append_assoc, List.nil_append, primary?, hts]

theorem IsConjunction.castText {ts : List Token} {t : Term} (h : IsConjunction ts t) :
    IsPrimary (.cast :: .opening :: ts ++ [.asType, .varchar, .closing]) (.castText t) := by
  intro rest
  have hts := h (.asType :: .varchar :: .closing :: rest) rfl
  simp only [List.cons_append, List.append_assoc, List.nil_append, primary?, hts]

theorem IsConjunction.castNumber {ts : List Token} {t : Term} (h : IsConjunction ts t) :
    IsPrimary (.tryCast :: .opening :: ts ++ [.asType, .double, .closing]) (.castNumber t) := by
  intro rest
  have hts := h (.asType :: .double :: .closing :: rest) rfl
  simp only [List.cons_append, List.append_assoc, List.nil_append, primary?, hts]

theorem IsConjunction.isFinite {ts : List Token} {t : Term} (h : IsConjunction ts t) :
    IsPrimary (.isFinite :: .opening :: ts ++ [.closing]) (.isFinite t) := by
  intro rest
  have hts := h (.closing :: rest) rfl
  simp only [List.cons_append, List.append_assoc, List.nil_append, primary?, hts]

/-- A choice between a term and null is a single term. -/
theorem IsConjunction.onlyIf {ts us : List Token} {t u : Term} (ht : IsConjunction ts t)
    (hu : IsConjunction us u) :
    IsPrimary (.caseOf :: .whenTrue :: ts ++ .thenValue :: us ++ [.endCase]) (.onlyIf t u) := by
  intro rest
  -- The condition ends where its keyword does not make it go on, and so does the term.
  have hts := ht (.thenValue :: (us ++ .endCase :: rest)) rfl
  have hus := hu (.endCase :: rest) rfl
  have hshort : (us ++ .endCase :: rest).length <
      (ts ++ .thenValue :: (us ++ .endCase :: rest)).length := by
    simp only [List.length_append, List.length_cons]
    omega
  simp only [List.cons_append, List.append_assoc, List.nil_append, primary?, hts, hus, hshort,
    if_true]

theorem AreItems.firstOfAll {ts : List Token} {t : Term} {others : List Term}
    (h : AreItems ts t others) :
    IsPrimary (.coalesce :: .opening :: ts) (t.firstOfAll others) := by
  intro rest
  simp only [List.cons_append, primary?, h rest, Option.map_some]

theorem IsConjunction.areItems {ts : List Token} {t : Term} (h : IsConjunction ts t) :
    AreItems (ts ++ [.closing]) t [] := by
  intro rest
  have hts := h (.closing :: rest) rfl
  rw [items?]
  simp only [List.append_assoc, List.cons_append, List.nil_append, hts]

/-- A conjunction before a comma is a first item. -/
theorem IsConjunction.areItems_cons {ts us : List Token} {t u : Term} {others : List Term}
    (ht : IsConjunction ts t) (hu : AreItems us u others) :
    AreItems (ts ++ .comma :: us) t (u :: others) := by
  intro rest
  have hshort : (us ++ rest).length < (ts ++ .comma :: (us ++ rest)).length := by
    simp only [List.length_append, List.length_cons]
    omega
  rw [items?, List.append_assoc, List.cons_append, ht _ rfl]
  simp only [hshort, if_true, hu rest, Option.map_some]

end MapFilter.Sql
