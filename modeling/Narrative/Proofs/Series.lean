import Mathlib.Data.List.DropRight
import Narrative.Director

/-!
# Actions in series

What a series of actions comes to can be told without following it: the last jump, the advances
behind it and the result recorded last decide, and what stands before them leaves no trace.

An advance stops at the greatest position, so the advances behind a jump may be added up as integers
and cut off once. The induction is on the last action of a series; each quantity has one equation
for a series with one more action behind it (`lastTarget?_concat`, `lastResult?_concat`,
`afterJumps_concat`).

Results:
* `State.toInt_applyAll`, `State.lastResult_applyAll`: the position and the result of a series;
* **`State.last_actions_decide`**: both at once, for a director as well.
-/

namespace Narrative

/-! ## What counts in a series -/

namespace Action

/-- Where an action jumps to. -/
def target? : Action → Option Position
  | .goto next => some next
  | .advance | .setResult _ => none

/-- The result an action records. -/
def result? : Action → Option GameResult
  | .setResult result => some result
  | .advance | .goto _ => none

/-- The target of the last jump of a series. -/
def lastTarget? (actions : List Action) : Option Position :=
  (actions.filterMap target?).getLast?

/-- The result recorded last in a series. -/
def lastResult? (actions : List Action) : Option GameResult :=
  (actions.filterMap result?).getLast?

/-- The actions behind the last jump of a series; all of them if there is no jump. -/
def afterJumps (actions : List Action) : List Action :=
  actions.rtakeWhile fun action => action.target?.isNone

theorem getLast?_filterMap_concat {α β : Type} (f : α → Option β) (xs : List α) (x : α) :
    ((xs ++ [x]).filterMap f).getLast? = (f x).or (xs.filterMap f).getLast? := by
  rw [List.filterMap_append, List.getLast?_append]
  cases hx : f x with
  | none => simp [hx]
  | some y => simp [hx]

theorem lastTarget?_concat (actions : List Action) (action : Action) :
    lastTarget? (actions ++ [action]) = action.target?.or (lastTarget? actions) :=
  getLast?_filterMap_concat target? actions action

theorem lastResult?_concat (actions : List Action) (action : Action) :
    lastResult? (actions ++ [action]) = action.result?.or (lastResult? actions) :=
  getLast?_filterMap_concat result? actions action

theorem afterJumps_concat (actions : List Action) (action : Action) :
    afterJumps (actions ++ [action]) =
      if action.target?.isNone then afterJumps actions ++ [action] else [] :=
  List.rtakeWhile_concat _ actions action

end Action

/-! ## States -/

namespace State

/-- The state after a series of actions. -/
def applyAll (state : State) (actions : List Action) : State :=
  actions.foldl (fun state action => action.apply state) state

theorem applyAll_concat (state : State) (actions : List Action) (action : Action) :
    state.applyAll (actions ++ [action]) = action.apply (state.applyAll actions) := by
  unfold applyAll
  rw [List.foldl_append]
  rfl

/-- **Advances are added up behind the last jump** and cut off at the greatest position. -/
theorem toInt_applyAll (state : State) (actions : List Action) :
    (state.applyAll actions).position.toInt =
      min Int64.maxValue.toInt
        (((Action.lastTarget? actions).getD state.position).toInt +
          (Action.afterJumps actions).count .advance) := by
  induction actions using List.reverseRecOn with
  | nil =>
    have hle := state.position.toInt_le
    change state.position.toInt = min _ (state.position.toInt + (0 : Nat))
    omega
  | append_singleton actions action ih =>
    rw [applyAll_concat, Action.lastTarget?_concat, Action.afterJumps_concat]
    cases action with
    | advance =>
      have hcount : (Action.afterJumps actions ++ [Action.advance]).count .advance =
          (Action.afterJumps actions).count .advance + 1 := by
        rw [List.count_append, List.count_singleton_self]
      change ((state.applyAll actions).position.next).toInt = min _ (_ + _)
      rw [Position.toInt_next, ih]
      simp only [Action.target?, Option.isNone_none, if_true, Option.none_or, hcount]
      omega
    | goto next =>
      have hle := next.toInt_le
      change next.toInt = min _ (next.toInt + (0 : Nat))
      omega
    | setResult result =>
      have hcount : (Action.afterJumps actions ++ [Action.setResult result]).count .advance =
          (Action.afterJumps actions).count .advance := by
        rw [List.count_append]
        rfl
      change (state.applyAll actions).position.toInt = _
      simp only [ih, Action.target?, Option.isNone_none, if_true, Option.none_or, hcount]

theorem lastResult_applyAll (state : State) (actions : List Action) :
    (state.applyAll actions).lastResult = (Action.lastResult? actions).or state.lastResult := by
  induction actions using List.reverseRecOn with
  | nil => rfl
  | append_singleton actions action ih =>
    rw [applyAll_concat, Action.lastResult?_concat, Option.or_assoc, ← ih]
    cases action <;> rfl

end State

/-! ## Directors -/

namespace Director

/-- The director after a series of actions. -/
def dispatchAll (director : Director) (actions : List Action) : Director :=
  actions.foldl (fun director action => (director.dispatch action).value) director

/-- A director does to its state what the actions do, and nothing else changes. -/
theorem dispatchAll_eq (director : Director) (actions : List Action) :
    director.dispatchAll actions =
      { director with state := director.state.applyAll actions } := by
  induction actions generalizing director with
  | nil => rfl
  | cons action actions ih => exact ih (director.dispatch action).value

end Director

/-- **The last jump, the advances behind it and the last record decide.** Whatever actions are
applied to whatever state, the position is the target of the last jump (or the position before, if
there is none) plus the number of advances behind it, as integers and cut off at the greatest
position; so nothing ever wraps round. The result is the one recorded last, or the one before. A
director of any script that is given the same actions comes to the same state. -/
theorem State.last_actions_decide (state : State) (actions : List Action) :
    (state.applyAll actions).position.toInt =
        min Int64.maxValue.toInt
          (((Action.lastTarget? actions).getD state.position).toInt +
            (Action.afterJumps actions).count .advance) ∧
      (state.applyAll actions).lastResult = (Action.lastResult? actions).or state.lastResult ∧
      ∀ (script : Script) (filter : LogFilter),
        Director.dispatchAll ⟨script, state, filter⟩ actions =
          ⟨script, state.applyAll actions, filter⟩ :=
  ⟨state.toInt_applyAll actions, state.lastResult_applyAll actions,
    fun script filter => Director.dispatchAll_eq ⟨script, state, filter⟩ actions⟩

/-- Two advances from right before the greatest position; and one, with a jump to the least position
and one more behind it. -/
example :
    (State.startingAt 9223372036854775806).applyAll [.advance, .advance, .setResult .draw] =
        ⟨9223372036854775807, some .draw⟩ ∧
      (State.startingAt 9223372036854775806).applyAll
          [.advance, .setResult .win, .goto (-9223372036854775808), .advance] =
        ⟨-9223372036854775807, some .win⟩ := by
  decide

end Narrative
