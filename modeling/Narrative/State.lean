import Narrative.Log
import Narrative.Script

/-!
# State and actions

The whole state of a scene is a position and the last recorded result. Three actions change it:
advance by one, jump anywhere, record a result. `Script.resolve?` is the one place where the script
itself decides the next position: a branch step selects the arm of the recorded result, or falls
through to the next index when that result is missing or unmapped.
-/

namespace Narrative

/-- The state of a scene. The position is never clamped. -/
@[ext]
structure State where
  position : Position := 0
  lastResult : Option GameResult := none
  deriving DecidableEq, Inhabited

namespace State

/-- The state at a position with nothing recorded. -/
def startingAt (position : Position) : State := { position }

/-- The result recorded under a variable. -/
def recorded (state : State) : Variable → Option GameResult
  | .lastResult => state.lastResult

end State

/-- A request for a change of state. -/
inductive Action
  /-- move to the next index -/
  | advance
  /-- move to any position -/
  | goto (next : Position)
  /-- record a minigame's result -/
  | setResult (result : GameResult)
  deriving DecidableEq, Inhabited

/-- The name of a recorded value in log lines. -/
def recordedText : Option GameResult → String
  | none => "None"
  | some .win => "Some(Win)"
  | some .lose => "Some(Lose)"
  | some .draw => "Some(Draw)"
  | some .completed => "Some(Completed)"

namespace Action

/-- The state after an action. -/
def apply (action : Action) (state : State) : State :=
  match action with
  | .advance => { state with position := state.position.next }
  | .goto next => { state with position := next }
  | .setResult result => { state with lastResult := some result }

/-- What is noted of an action on a state. -/
def note (action : Action) (state : State) : Note :=
  match action with
  | .advance =>
    ⟨.engine, .trace, s!"[Advance] {state.position.text} -> {state.position.next.text}"⟩
  | .goto next => ⟨.engine, .debug, s!"[Goto] {state.position.text} -> {next.text}"⟩
  | .setResult result =>
    ⟨.results, .debug, "[SetResult] lastResult: " ++ recordedText state.lastResult ++ " -> " ++
      GameResult.names.name result ++ " at position " ++ state.position.text⟩

end Action

namespace Script

/-- The jump made by the branch at the state's position, if there is a branch. -/
def resolve? (script : Script) (state : State) : Option Action :=
  match script.get state.position with
  | .branch var arms =>
    some (.goto (((state.recorded var).bind arms.get).getD state.position.next))
  | _ => none

/-- What is noted when the branch at the state's position is resolved. -/
def resolveNote? (script : Script) (state : State) : Option Note :=
  match script.get state.position with
  | .branch var arms =>
    let recorded := state.recorded var
    let read := "[Branch] " ++ Variable.names.name var ++ "=" ++ recordedText recorded
    some <| match recorded.bind arms.get with
      | some target =>
        ⟨.flow, .debug, read ++ s!" selects {target.text} at position {state.position.text}"⟩
      | none =>
        ⟨.flow, .info,
          read ++ s!" has no mapping at position {state.position.text}, falling through"⟩
  | _ => none

end Script

end Narrative
