import Narrative.State
import Narrative.Wire.Script

/-!
# State, actions and log filters in JSON

The variables of a state are an object with at most one entry, `lastResult`. An action is tagged by
`type`. The categories of a filter are a list; it is written sorted and without repetition.
-/

namespace Narrative

open Json

/-! ## Writing -/

/-- The recorded results as a value. -/
def State.recordedValue (state : State) : Value :=
  .obj <| match state.lastResult with
    | some result => [(Variable.names.name .lastResult, GameResult.names.toValue result)]
    | none => []

/-- A state as a value. -/
def State.toValue (state : State) : Value :=
  .obj [("position", state.position.toValue), ("variables", state.recordedValue)]

/-- The kinds of actions. -/
inductive ActionKind
  | advance | goto | setResult
  deriving DecidableEq

/-- The tags of actions. -/
def ActionKind.names : Names ActionKind where
  all := [.advance, .goto, .setResult]
  name
    | .advance => "ADVANCE"
    | .goto => "GOTO"
    | .setResult => "SET_RESULT"
  mem_all a := by cases a <;> decide
  name_injective a b := by cases a <;> cases b <;> decide

/-- The kind of an action. -/
def Action.kind : Action → ActionKind
  | .advance => .advance
  | .goto _ => .goto
  | .setResult _ => .setResult

/-- The members of an action beside its tag. -/
def Action.members : Action → List (String × Value)
  | .advance => []
  | .goto next => [("next", next.toValue)]
  | .setResult result => [("result", GameResult.names.toValue result)]

/-- An action as a value. -/
def Action.toValue (action : Action) : Value :=
  .obj (("type", ActionKind.names.toValue action.kind) :: action.members)

/-- A log filter as a value. -/
def LogFilter.toValue (filter : LogFilter) : Value :=
  .obj [("enabled", .bool filter.enabled), ("level", LogLevel.names.toValue filter.level),
    ("categories", .list LogCategory.names.toValue filter.categories.toList)]

/-! ## Reading -/

namespace Decoder

open Json.Decoder

/-- Decode the recorded results: the last entry counts. -/
def recorded : Decoder (Option GameResult) :=
  (entries Variable.names (oneOf GameResult.names)).map fun read => read.getLast?.map Prod.snd

/-- Decode a state. -/
def state : Decoder State :=
  ofRecord <| .ofFields "struct State"
    (.field "position" none position <| .field "variables" none recorded .nil)
    fun (position, lastResult, ()) => ⟨position, lastResult⟩

/-- What an action of each kind holds beside its tag. -/
def actionBody : ActionKind → Record Action
  | .advance => .ofFields "unit variant Action::Advance" .nil fun () => .advance
  | .goto =>
    .ofFields "struct variant Action::Goto" (.field "next" none position .nil)
      fun (next, ()) => .goto next
  | .setResult =>
    .ofFields "struct variant Action::SetResult" (.field "result" none (oneOf GameResult.names) .nil)
      fun (result, ()) => .setResult result

/-- Actions, told apart by their type. -/
def actionVariants : Variants ActionKind Action where
  tag := "type"
  title := "internally tagged enum Action"
  names := ActionKind.names
  body := actionBody

/-- Decode an action. -/
def action : Decoder Action := actionVariants.decoder

/-- Decode a log filter. -/
def logFilter : Decoder LogFilter :=
  ofRecord <| .ofFields "struct DebugConfig"
    (.field "enabled" none bool <| .field "level" none (oneOf LogLevel.names) <|
      .field "categories" none (list (oneOf LogCategory.names)) .nil)
    fun (enabled, level, categories, ()) => ⟨enabled, level, .ofList categories⟩

end Decoder

end Narrative
