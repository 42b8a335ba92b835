import Narrative.Director
import Narrative.Proofs.Walks

/-!
# Chains of branches

A branch is left by a jump that the script alone decides, so the branches met from a state on form
a chain. `Script.resolved` takes one link of it and leaves a state that is not on a branch alone.
A chain either comes to rest on another step or visits branches for ever (`Script.Endless`).

A chain is a walk (`Walks.lean`): recorded results are never touched along it, and a branch is always
at a position inside the script. A chain longer than the script is therefore endless: `length + 1`
resolutions decide the question.

Results:
* **`onBranch_settled_iff`**: after `length + 1` resolutions a branch is still current iff the chain
  is endless;
* `exists_first_rest`: otherwise the state reached is the first one of the chain off a branch.
-/

namespace Narrative

namespace Script

variable {script : Script} {state : State}

/-! ## One link -/

/-- The current step is a branch. -/
def OnBranch (script : Script) (state : State) : Prop := (script.get state.position).kind = .branch

instance (script : Script) : DecidablePred script.OnBranch :=
  fun state => inferInstanceAs (Decidable ((script.get state.position).kind = .branch))

/-- The state after its branch is resolved; off a branch, the same state. -/
def resolved (script : Script) (state : State) : State :=
  (script.resolve? state).elim state (·.apply state)

/-- Branches never stop leading to branches. -/
def Endless (script : Script) (state : State) : Prop :=
  ∀ n, script.OnBranch (script.resolved^[n] state)

/-- The state after as many resolutions as settling makes. -/
def settled (script : Script) (state : State) : State := script.resolved^[script.length + 1] state

/-- There is a jump to make exactly on a branch. -/
theorem resolve?_isSome_iff : (script.resolve? state).isSome ↔ script.OnBranch state := by
  unfold resolve? OnBranch
  cases script.get state.position <;> simp [Step.kind]

theorem resolve?_eq_none_iff : script.resolve? state = none ↔ ¬ script.OnBranch state := by
  rw [← resolve?_isSome_iff, Option.not_isSome_iff_eq_none]

theorem resolved_of_resolve? {action : Action} (h : script.resolve? state = some action) :
    script.resolved state = action.apply state := by
  unfold resolved
  rw [h]
  rfl

theorem resolved_of_not_onBranch (h : ¬ script.OnBranch state) : script.resolved state = state := by
  unfold resolved
  rw [resolve?_eq_none_iff.mpr h]
  rfl

/-- A resolution records nothing. -/
@[simp] theorem lastResult_resolved (script : Script) (state : State) :
    (script.resolved state).lastResult = state.lastResult := by
  unfold resolved resolve?
  cases script.get state.position <;> rfl

/-- A branch is a step of the script, not the synthetic end around it. -/
theorem OnBranch.contains (h : script.OnBranch state) : script.contains state.position = true := by
  by_contra hc
  have hget := get_of_not_contains (Bool.eq_false_iff.mpr hc)
  unfold OnBranch at h
  rw [hget] at h
  exact absurd h (by decide)

/-! ## The chain -/

/-- Resolving branches is a walk through them. -/
theorem walk_resolved (script : Script) : script.Walk script.resolved script.OnBranch where
  inside := OnBranch.contains
  records := lastResult_resolved script
  rests := resolved_of_not_onBranch

@[simp] theorem lastResult_settled (script : Script) (state : State) :
    (script.settled state).lastResult = state.lastResult :=
  script.walk_resolved.lastResult_iterate state _

/-- Off a branch the chain has come to rest. -/
theorem iterate_resolved_of_not_onBranch (h : ¬ script.OnBranch state) (n : Nat) :
    script.resolved^[n] state = state :=
  script.walk_resolved.iterate_of_not h n

theorem settled_of_not_onBranch (h : ¬ script.OnBranch state) : script.settled state = state :=
  iterate_resolved_of_not_onBranch h _

/-- Once off the branches, the chain stays where it is. -/
theorem iterate_resolved_of_le {m n : Nat} (h : ¬ script.OnBranch (script.resolved^[m] state))
    (hmn : m ≤ n) : script.resolved^[n] state = script.resolved^[m] state :=
  script.walk_resolved.iterate_of_le h hmn

/-- **`length + 1` resolutions decide whether a chain ends.** -/
theorem onBranch_settled_iff : script.OnBranch (script.settled state) ↔ script.Endless state :=
  script.walk_resolved.on_iterate_iff (Nat.le_succ _)

/-- A chain that ends comes to rest on the first step that is no branch. -/
theorem exists_first_rest (h : ¬ script.Endless state) :
    ∃ n, (∀ m < n, script.OnBranch (script.resolved^[m] state)) ∧
      ¬ script.OnBranch (script.resolved^[n] state) ∧
      script.settled state = script.resolved^[n] state := by
  have hrest : ∃ n, ¬ script.OnBranch (script.resolved^[n] state) := not_forall.mp h
  classical
  refine ⟨Nat.find hrest, fun m hm => ?_, Nat.find_spec hrest, ?_⟩
  · exact Decidable.not_not.mp (Nat.find_min hrest hm)
  · have hsettled : ¬ script.OnBranch (script.resolved^[script.length + 1] state) :=
      fun hc => h (onBranch_settled_iff.mp hc)
    exact iterate_resolved_of_le (Nat.find_spec hrest) (Nat.find_min' hrest hsettled)

/-! ## States along the chain -/

theorem endless_iterate_resolved (n : Nat) :
    script.Endless (script.resolved^[n] state) ↔ script.Endless state := by
  constructor
  · intro h
    by_contra hfinite
    obtain ⟨m, -, hm, -⟩ := exists_first_rest hfinite
    have hlate := iterate_resolved_of_le hm (Nat.le_add_right m n)
    have hon := h m
    rw [← Function.iterate_add_apply, hlate] at hon
    exact hm hon
  · intro h m
    rw [← Function.iterate_add_apply]
    exact h (m + n)

@[simp] theorem endless_settled : script.Endless (script.settled state) ↔ script.Endless state :=
  endless_iterate_resolved _

theorem not_endless_of_not_onBranch (h : ¬ script.OnBranch state) : ¬ script.Endless state :=
  fun hc => h (hc 0)

theorem not_onBranch_settled (h : ¬ script.Endless state) :
    ¬ script.OnBranch (script.settled state) :=
  fun hc => h (onBranch_settled_iff.mp hc)

end Script

/-! ## The director's side -/

namespace Director

/-- The director after its branch is resolved; off a branch, the same director. -/
def resolved (director : Director) : Director := director.resolveBranch?.elim director Logged.value

theorem resolved_eq (director : Director) :
    director.resolved = { director with state := director.script.resolved director.state } := by
  unfold resolved resolveBranch? Script.resolved
  cases director.script.resolve? director.state <;> rfl

/-- Resolving branches of a director follows the chain of its state. -/
theorem iterate_resolved (director : Director) (n : Nat) :
    resolved^[n] director =
      { director with state := director.script.resolved^[n] director.state } := by
  induction n with
  | zero => rfl
  | succ n ih => rw [Function.iterate_succ_apply', ih, resolved_eq, Function.iterate_succ_apply']

theorem kind_iterate_resolved (director : Director) (n : Nat) :
    (resolved^[n] director).current.kind = .branch ↔
      director.script.OnBranch (director.script.resolved^[n] director.state) := by
  rw [iterate_resolved]
  rfl

end Director

end Narrative
