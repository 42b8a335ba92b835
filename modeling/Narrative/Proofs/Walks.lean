import Mathlib.Data.Finset.Card
import Mathlib.Dynamics.PeriodicPts.Defs
import Narrative.State

/-!
# Walks through a script

Branches are resolved without the host, and the terminal player goes through markers without asking.
Both are walks: a step is taken again and again, as long as the state is at a step of the script of
a certain kind. No walk records anything, so along a walk the position determines the state, and a
walk that is longer than the script meets a state twice and never ends.

* `Walk.iterate_of_le`: a walk that has come to rest stays there;
* **`Walk.on_iterate_iff`**: as many steps as the script is long decide whether a walk ends.
-/

namespace Narrative.Script

/-- `step` is a walk through the states `On`: they lie in the script, nothing is recorded on the
way, and away from them there is no way to go. -/
structure Walk (script : Script) (step : State → State) (On : State → Prop) : Prop where
  inside : ∀ {state}, On state → script.contains state.position = true
  records : ∀ state, (step state).lastResult = state.lastResult
  rests : ∀ {state}, ¬ On state → step state = state

namespace Walk

variable {script : Script} {step : State → State} {On : State → Prop} {state : State}

theorem lastResult_iterate (walk : script.Walk step On) (state : State) (n : Nat) :
    (step^[n] state).lastResult = state.lastResult := by
  induction n with
  | zero => rfl
  | succ n ih => rw [Function.iterate_succ_apply', walk.records, ih]

theorem iterate_of_not (walk : script.Walk step On) (h : ¬ On state) (n : Nat) :
    step^[n] state = state :=
  Function.iterate_fixed (walk.rests h) n

/-- Once it has come to rest, a walk stays where it is. -/
theorem iterate_of_le (walk : script.Walk step On) {m n : Nat} (h : ¬ On (step^[m] state))
    (hmn : m ≤ n) : step^[n] state = step^[m] state := by
  obtain ⟨k, rfl⟩ := Nat.exists_eq_add_of_le hmn
  rw [Nat.add_comm, Function.iterate_add_apply]
  exact walk.iterate_of_not h k

/-- Two states of one walk are equal as soon as they lie at the same index. -/
theorem iterate_eq (walk : script.Walk step On) {i j : Nat} (hi : On (step^[i] state))
    (hj : On (step^[j] state))
    (h : (step^[i] state).position.toInt.toNat = (step^[j] state).position.toInt.toNat) :
    step^[i] state = step^[j] state := by
  have bi := contains_iff.mp (walk.inside hi)
  have bj := contains_iff.mp (walk.inside hj)
  have hposition : (step^[i] state).position = (step^[j] state).position :=
    Int64.toInt_inj.mp (by omega)
  have hresult : (step^[i] state).lastResult = (step^[j] state).lastResult := by
    rw [walk.lastResult_iterate, walk.lastResult_iterate]
  exact State.ext hposition hresult

/-- A walk that meets one state twice goes round for ever. -/
theorem forever_of_iterate_eq {i j : Nat} (hij : i < j) (heq : step^[i] state = step^[j] state)
    (h : ∀ k < j, On (step^[k] state)) (n : Nat) : On (step^[n] state) := by
  have hperiodic : Function.IsPeriodicPt step (j - i) (step^[i] state) := by
    unfold Function.IsPeriodicPt Function.IsFixedPt
    rw [← Function.iterate_add_apply, Nat.sub_add_cancel hij.le, heq]
  rcases Nat.lt_or_ge n j with hn | hn
  · exact h n hn
  · have hback : step^[n] state = step^[(n - i) % (j - i) + i] state := by
      rw [Function.iterate_add_apply, hperiodic.iterate_mod_apply, ← Function.iterate_add_apply,
        Nat.sub_add_cancel (by omega)]
    have hmod : (n - i) % (j - i) < j - i := Nat.mod_lt _ (by omega)
    rw [hback]
    exact h _ (by omega)

/-- **Longer than the script is for ever**: of `length + 1` states in a row two coincide. -/
theorem forever_of_length_lt (walk : script.Walk step On)
    (h : ∀ n ≤ script.length, On (step^[n] state)) (n : Nat) : On (step^[n] state) := by
  have hcard : (Finset.range script.length).card < (Finset.range (script.length + 1)).card := by
    rw [Finset.card_range, Finset.card_range]
    exact Nat.lt_succ_self _
  have hon : ∀ n ∈ Finset.range (script.length + 1), On (step^[n] state) := fun n hn =>
    h n (Nat.lt_succ_iff.mp (Finset.mem_range.mp hn))
  obtain ⟨i, hi, j, hj, hne, hindex⟩ := Finset.exists_ne_map_eq_of_card_lt_of_maps_to hcard
    (f := fun n => (step^[n] state).position.toInt.toNat) fun n hn => by
      have := contains_iff.mp (walk.inside (hon n hn))
      simp only [Finset.coe_range, Set.mem_Iio]
      omega
  have heq := walk.iterate_eq (hon i hi) (hon j hj) hindex
  have hi' := Finset.mem_range.mp hi
  have hj' := Finset.mem_range.mp hj
  rcases Nat.lt_or_gt_of_ne hne with hij | hji
  · exact forever_of_iterate_eq hij heq (fun k hk => h k (by omega)) n
  · exact forever_of_iterate_eq hji heq.symm (fun k hk => h k (by omega)) n

/-- **As many steps as the script is long decide whether a walk ends.** -/
theorem on_iterate_iff (walk : script.Walk step On) {n : Nat} (long : script.length ≤ n) :
    On (step^[n] state) ↔ ∀ m, On (step^[m] state) := by
  constructor
  · intro h
    apply walk.forever_of_length_lt
    intro m hm
    by_contra hrest
    rw [walk.iterate_of_le hrest (hm.trans long)] at h
    exact hrest h
  · intro h
    exact h n

end Walk

end Narrative.Script
