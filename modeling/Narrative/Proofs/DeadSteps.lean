import Narrative.Proofs.FlowLint
import Narrative.Proofs.Mirrors

/-!
# Unreachable steps are dead

The flow checks report the steps that their search does not see. Such a step could as well be any
other one: a session that starts the script only comes to found positions (`keeps_found`), where the
script with the step replaced is the same script (`mirrors_replace`).

* **`unreachable_steps_are_dead`**: no series of calls can tell what a reported step is.
-/

namespace Narrative

/-- The script with another step at an index. -/
def Script.replace (script : Script) (index : Nat) (step : Step) : Script :=
  ⟨script.steps.set index step⟩

namespace Lint.Flow

open Session

variable {script : Script} {i : Nat}

/-- At found positions a step that was not seen is not read. -/
theorem get_replace (hi : i < script.length) (unseen : i ∉ (explore script).seen) (step : Step)
    {position : Position} (hfound : Found script position) :
    (script.replace i step).get position = script.get position := by
  unfold Script.get
  cases hindex : position.index? with
  | none => rfl
  | some j =>
    have hne : i ≠ j := by
      rintro rfl
      have hinside : inside? script position = some i :=
        inside?_eq_some_iff.mpr ⟨Position.index?_eq_some_iff.mp hindex, hi⟩
      exact unseen ((found_of_inside? hinside).mp hfound)
    exact congrArg (Option.getD · Step.finish) (List.getElem?_set_ne hne)

/-- **Without a step that is not seen, a script is the same** at all found positions. -/
theorem mirrors_replace (hi : i < script.length) (unseen : i ∉ (explore script).seen)
    (step : Step) :
    script.Mirrors (script.replace i step) fun state => Found script state.position where
  length_eq := List.length_set
  resolve_eq state hfound := by
    unfold Script.resolve?
    rw [get_replace hi unseen step hfound]
  get_eq state hfound _ := get_replace hi unseen step hfound

/-- **Steps reported unreachable are dead.** For a script that positions can count, with a warning
of the flow checks about a step: whatever the step is replaced by, all series of calls made of a
session that starts the script get the same answers and leave the same states, and the director is
in the same states in the course of each call. -/
theorem unreachable_steps_are_dead (script : Script)
    (fits : (script.length : Int) ≤ Int64.maxValue.toInt) (config : FlowConfig) (i : Nat)
    (message : String) (reported : Issue.ofStep .warning category i message ∈ check config script)
    (step : Step) (calls : List Call) :
    (fresh (script.replace i step)).views calls = (fresh script).views calls ∧
    ∀ call, ((fresh (script.replace i step)).afterAll calls).passes call =
      ((fresh script).afterAll calls).passes call := by
  obtain ⟨hi, unseen⟩ := not_mem_seen_of_warning reported
  have nonempty : 0 < script.length := Nat.lt_of_le_of_lt (Nat.zero_le i) hi
  have keeps := keeps_found nonempty fits
  have mirrors := mirrors_replace hi unseen step
  have hfresh : Mirrored script (script.replace i step) (fun state => Found script state.position)
      (fresh script) (fresh (script.replace i step)) :=
    ⟨rfl, tended_fresh (found_start nonempty), rfl⟩
  exact ⟨views_of_mirrored keeps mirrors hfresh calls, fun call =>
    passes_of_mirrored keeps mirrors (hfresh.calls keeps mirrors calls) call⟩

/-- The cut line could as well be a branch that leads to itself. Another option's step could not. -/
theorem unreachable_steps_are_dead_onRepeat :
    (onRepeat.length : Int) ≤ Int64.maxValue.toInt ∧
    Issue.ofStep .warning category 2 "unreachable say step" ∈ check {} onRepeat ∧
    (∀ calls, (fresh (onRepeat.replace 2 (.branch .lastResult ⟨none, none, none, some 2⟩))).views
      calls = (fresh onRepeat).views calls) ∧
    (fresh (onRepeat.replace 3 .finish)).views [.ask .proceed, .ask (.choose 1)] ≠
      (fresh onRepeat).views [.ask .proceed, .ask (.choose 1)] := by
  have fits : (onRepeat.length : Int) ≤ Int64.maxValue.toInt := by decide
  have reported : Issue.ofStep .warning category 2 "unreachable say step" ∈ check {} onRepeat := by
    decide
  refine ⟨fits, reported, fun calls => ?_, by decide⟩
  exact (unreachable_steps_are_dead onRepeat fits {} 2 _ reported _ calls).1

end Lint.Flow

end Narrative
