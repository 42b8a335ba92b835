/-!
# Closed sets of names

`Names α` gives every value of `α` one name. The names are complete (`mem_all`) and distinct
(`name_injective`), so looking a name up inverts naming:

* `find?_name`: the name of a value finds that value;
* `find?_eq_some_iff`: a text finds a value iff it is exactly that value's name. Nothing is
  trimmed and case counts.

A type may carry two naming schemes, such as a long one for files and a short one for display.
-/

namespace Narrative

/-- A naming scheme for a type with finitely many values. -/
structure Names (α : Type) where
  /-- Every value, in the order messages list them. -/
  all : List α
  /-- The name of a value. -/
  name : α → String
  mem_all : ∀ a, a ∈ all
  name_injective : ∀ a b, name a = name b → a = b

namespace Names

variable {α : Type} (names : Names α)

/-- The value named `text`, if there is one. -/
def find? (text : String) : Option α :=
  names.all.find? fun a => names.name a == text

/-- All names, in order. -/
def texts : List String := names.all.map names.name

theorem find?_eq_some_iff {text : String} {a : α} :
    names.find? text = some a ↔ names.name a = text := by
  constructor
  · intro h
    simpa using List.find?_some h
  · rintro rfl
    unfold find?
    cases h : names.all.find? (fun b => names.name b == names.name a) with
    | none => simpa using List.find?_eq_none.mp h a (names.mem_all a)
    | some b =>
      have hb := List.find?_some h
      rw [names.name_injective b a (by simpa using hb)]

@[simp] theorem find?_name (a : α) : names.find? (names.name a) = some a :=
  names.find?_eq_some_iff.mpr rfl

theorem find?_eq_none_iff {text : String} :
    names.find? text = none ↔ ∀ a, names.name a ≠ text := by
  constructor
  · intro h a ha
    rw [names.find?_eq_some_iff.mpr ha] at h
    exact absurd h (by simp)
  · intro h
    cases e : names.find? text with
    | none => rfl
    | some a => exact absurd (names.find?_eq_some_iff.mp e) (h a)

end Names

end Narrative
