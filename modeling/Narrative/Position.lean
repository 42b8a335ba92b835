/-!
# Positions in a script

A position is a signed 64-bit index. It is never clamped: negative positions and positions past
the last step are legal and read as the end of the scene. Moving forward stops at the greatest
position instead of wrapping round.

* `Position.toInt_next`: in integers, `next` adds one and stops at `Int64.maxValue`.
* `Position.index?_eq_some_iff`: exactly the non-negative positions address an index.
-/

namespace Narrative

/-- An index into a script, possibly outside it. -/
abbrev Position := Int64

namespace Position

/-- The following position; the greatest position is its own successor. -/
def next (p : Position) : Position :=
  if p = Int64.maxValue then p else p + 1

/-- The list index a position addresses, if it is not negative. -/
def index? (p : Position) : Option Nat :=
  if p.toInt < 0 then none else some p.toInt.toNat

/-- The position of a list index. -/
def ofIndex (i : Nat) : Position := Int64.ofNat i

/-- The position with this value, if 64 signed bits hold it. -/
def ofInt? (n : Int) : Option Position :=
  if Int64.minValue.toInt ≤ n ∧ n ≤ Int64.maxValue.toInt then some (Int64.ofInt n) else none

/-- The text of a position in decimal. -/
def text (p : Position) : String := toString p.toInt

theorem toInt_next (p : Position) :
    (next p).toInt = min Int64.maxValue.toInt (p.toInt + 1) := by
  have lo := p.le_toInt
  have hi := p.toInt_lt
  rw [Int64.toInt_maxValue]
  unfold next
  split
  · next h =>
    rw [h, Int64.toInt_maxValue]
    omega
  · next h =>
    have : p.toInt ≠ Int64.maxValue.toInt := fun e => h (Int64.toInt_inj.mp e)
    rw [Int64.toInt_maxValue] at this
    rw [Int64.toInt_add, Int64.toInt_one, Int.bmod_eq_of_le (by omega) (by omega)]
    omega

theorem index?_eq_some_iff {p : Position} {i : Nat} : index? p = some i ↔ p.toInt = i := by
  unfold index?
  split
  · simp only [reduceCtorEq, false_iff]
    omega
  · rw [Option.some.injEq]
    omega

theorem index?_eq_none_iff {p : Position} : index? p = none ↔ p.toInt < 0 := by
  unfold index?
  split <;> simp_all

theorem toInt_ofIndex {i : Nat} (h : (i : Int) ≤ Int64.maxValue.toInt) :
    (ofIndex i).toInt = i := by
  rw [Int64.toInt_maxValue] at h
  exact Int64.toInt_ofNat_of_lt (by omega)

theorem ofInt?_eq_some_iff {n : Int} {p : Position} : ofInt? n = some p ↔ p.toInt = n := by
  unfold ofInt?
  split
  · next h =>
    rw [Int64.toInt_maxValue, Int64.toInt_minValue] at h
    rw [Option.some.injEq]
    constructor
    · rintro rfl
      exact Int64.toInt_ofInt_of_le h.1 (by omega)
    · rintro rfl
      exact Int64.ofInt_toInt p
  · next h =>
    constructor
    · intro e
      exact absurd e (by simp)
    · rintro rfl
      exact absurd ⟨p.minValue_le_toInt, p.toInt_le⟩ h

@[simp] theorem ofInt?_toInt (p : Position) : ofInt? p.toInt = some p :=
  ofInt?_eq_some_iff.mpr rfl

end Position

end Narrative
