import MapFilter.Expression

/-!
# Reading expressions of a style document

The map is given an expression as a list whose first item names the operation. Reading such a list
gives back the expression that was written, as long as its literals are no lists or objects and its
labels are proper ones.

- `Expression.isWritten`: whether an expression stands in a document as it is
- `Expression.ofValue?_toValue`: what is written is read back
- `Expression.ofValue?_oneOf`: with improper labels nothing is
-/

namespace MapFilter

namespace Expression

mutual

/-- Whether an expression stands in a document as it is: its literals are no lists and no objects,
and the labels of a choice are proper ones. -/
def isWritten : Expression → Bool
  | .literal v => v.isKey
  | .property _ => true
  | .equal a b | .different a b | .atLeast a b | .atMost a b => a.isWritten && b.isWritten
  | .all parts => areWritten parts
  | .ifThenElse c a b => c.isWritten && a.isWritten && b.isWritten
  | .toNumber a b => a.isWritten && b.isWritten
  | .oneOf a labels => a.isWritten && areLabels labels
  | .toText a | .logarithm a | .linear a _ => a.isWritten
  | .sum a b | .larger a b => a.isWritten && b.isWritten

/-- Whether all parts stand in a document as they are. -/
def areWritten : List Expression → Bool
  | [] => true
  | e :: rest => e.isWritten && areWritten rest

end

theorem areWritten_iff {parts : List Expression} :
    areWritten parts = true ↔ ∀ e ∈ parts, e.isWritten = true := by
  induction parts with
  | nil => simp [areWritten]
  | cons e rest ih => simp [areWritten, ih]

theorem ofValue?_of_isKey {v : Value} (h : v.isKey = true) : ofValue? v = some (.literal v) := by
  cases v <;> simp_all [ofValue?, Value.isKey]

theorem stops?_flatMap (stops : List (Nat × Nat)) :
    stops? (stops.flatMap fun (x, y) => [.int x, .int y]) = some stops := by
  induction stops with
  | nil => rfl
  | cons stop rest ih => simp [stops?, ih]

mutual

/-- What is written is read back. -/
theorem ofValue?_toValue : (e : Expression) → e.isWritten = true → ofValue? e.toValue = some e
  | .literal v, h => by
    rw [toValue, ofValue?_of_isKey (by simpa [isWritten] using h)]
  | .property field, _ => by simp [toValue, ofValue?, ofItems?]
  | .equal a b, h => by
    simp only [isWritten, Bool.and_eq_true] at h
    simp [toValue, ofValue?, ofItems?, ofValue?_toValue a h.1, ofValue?_toValue b h.2]
  | .different a b, h => by
    simp only [isWritten, Bool.and_eq_true] at h
    simp [toValue, ofValue?, ofItems?, ofValue?_toValue a h.1, ofValue?_toValue b h.2]
  | .atLeast a b, h => by
    simp only [isWritten, Bool.and_eq_true] at h
    simp [toValue, ofValue?, ofItems?, ofValue?_toValue a h.1, ofValue?_toValue b h.2]
  | .atMost a b, h => by
    simp only [isWritten, Bool.and_eq_true] at h
    simp [toValue, ofValue?, ofItems?, ofValue?_toValue a h.1, ofValue?_toValue b h.2]
  | .all parts, h => by
    simp only [isWritten] at h
    simp [toValue, ofValue?, ofItems?, ofValues?_toValues parts h]
  | .ifThenElse c a b, h => by
    simp only [isWritten, Bool.and_eq_true] at h
    simp [toValue, ofValue?, ofItems?, ofValue?_toValue c h.1.1, ofValue?_toValue a h.1.2,
      ofValue?_toValue b h.2]
  | .toNumber a b, h => by
    simp only [isWritten, Bool.and_eq_true] at h
    simp [toValue, ofValue?, ofItems?, ofValue?_toValue a h.1, ofValue?_toValue b h.2]
  | .toText a, h => by
    simp [toValue, ofValue?, ofItems?, ofValue?_toValue a (by simpa [isWritten] using h)]
  | .oneOf a labels, h => by
    simp only [isWritten, Bool.and_eq_true] at h
    simp [toValue, ofValue?, ofItems?, ofValue?_toValue a h.1, h.2]
  | .logarithm a, h => by
    simp [toValue, ofValue?, ofItems?, ofValue?_toValue a (by simpa [isWritten] using h)]
  | .sum a b, h => by
    simp only [isWritten, Bool.and_eq_true] at h
    simp [toValue, ofValue?, ofItems?, ofValue?_toValue a h.1, ofValue?_toValue b h.2]
  | .larger a b, h => by
    simp only [isWritten, Bool.and_eq_true] at h
    simp [toValue, ofValue?, ofItems?, ofValue?_toValue a h.1, ofValue?_toValue b h.2]
  | .linear a stops, h => by
    simp [toValue, ofValue?, ofItems?, ofValue?_toValue a (by simpa [isWritten] using h),
      stops?_flatMap]

theorem ofValues?_toValues :
    (parts : List Expression) → areWritten parts = true → ofValues? (toValues parts) = some parts
  | [], _ => by simp [toValues, ofValues?]
  | e :: rest, h => by
    simp only [areWritten, Bool.and_eq_true] at h
    simp [toValues, ofValues?, ofValue?_toValue e h.1, ofValues?_toValues rest h.2]

end

/-- A choice between improper labels is not readable. -/
theorem ofValue?_oneOf {labels : List Value} (h : areLabels labels = false) (input : Expression) :
    ofValue? (oneOf input labels).toValue = none := by
  simp [toValue, ofValue?, ofItems?, h]

end Expression

end MapFilter
