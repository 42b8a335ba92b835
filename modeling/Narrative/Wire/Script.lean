import Narrative.Json.Decoder
import Narrative.Script

/-!
# Scripts in JSON

A script is a list of steps. A step is an object whose member `kind` names its kind; the arms of a
branch are an object from results to positions, written in the order of their ranks.
-/

namespace Narrative

open Json

/-! ## Writing -/

/-- A position as a value. -/
def Position.toValue (p : Position) : Value := .ofInt p.toInt

/-- One of a closed set of names as a value. -/
def Names.toValue {α : Type} (names : Names α) (a : α) : Value := .str (names.name a)

/-- An option as a value. -/
def ChoiceOption.toValue (option : ChoiceOption) : Value :=
  .obj [("label", .str option.label), ("next", option.next.toValue)]

/-- The arms of a branch as a value. -/
def Arms.toValue (arms : Arms) : Value :=
  .obj (arms.toList.map fun (result, target) => (GameResult.names.name result, target.toValue))

/-- The members of a step beside its kind. -/
def Step.members : Step → List (String × Value)
  | .say speaker text => [("speaker", Speaker.names.toValue speaker), ("text", .str text)]
  | .choice prompt options =>
    [("prompt", .str prompt), ("options", .list ChoiceOption.toValue options)]
  | .startGame game => [("game", Game.names.toValue game)]
  | .awaitResult var => [("toVar", Variable.names.toValue var)]
  | .branch var arms => [("var", Variable.names.toValue var), ("nextByResult", arms.toValue)]
  | .goto next => [("next", next.toValue)]
  | .finish => []

/-- A step as a value. -/
def Step.toValue (step : Step) : Value :=
  .obj (("kind", StepKind.names.toValue step.kind) :: step.members)

/-- A script as a value. -/
def Script.toValue (script : Script) : Value := .list Step.toValue script.steps

/-! ## Reading -/

namespace Decoder

open Json.Decoder

/-- Decode an option. -/
def choiceOption : Decoder ChoiceOption :=
  ofRecord <| .ofFields "struct ChoiceOption"
    (.field "label" none text <| .field "next" none position .nil)
    fun (label, next, ()) => ⟨label, next⟩

/-- Decode the arms of a branch; of two for one result the last counts. -/
def arms : Decoder Arms := (entries GameResult.names position).map Arms.ofList

/-- What a step of each kind holds beside its kind. -/
def stepBody : StepKind → Record Step
  | .say =>
    .ofFields "struct variant Step::Say"
      (.field "speaker" none (oneOf Speaker.names) <| .field "text" none text .nil)
      fun (speaker, text, ()) => .say speaker text
  | .choice =>
    .ofFields "struct variant Step::Choice"
      (.field "prompt" none text <| .field "options" none (list choiceOption) .nil)
      fun (prompt, options, ()) => .choice prompt options
  | .startGame =>
    .ofFields "struct variant Step::StartGame" (.field "game" none (oneOf Game.names) .nil)
      fun (game, ()) => .startGame game
  | .awaitResult =>
    .ofFields "struct variant Step::AwaitGameResult"
      (.field "toVar" none (oneOf Variable.names) .nil) fun (var, ()) => .awaitResult var
  | .branch =>
    .ofFields "struct variant Step::BranchOnResult"
      (.field "var" none (oneOf Variable.names) <| .field "nextByResult" none arms .nil)
      fun (var, arms, ()) => .branch var arms
  | .goto =>
    .ofFields "struct variant Step::Goto" (.field "next" none position .nil)
      fun (next, ()) => .goto next
  | .finish => .ofFields "unit variant Step::End" .nil fun () => .finish

/-- Steps, told apart by their kind. -/
def stepVariants : Variants StepKind Step where
  tag := "kind"
  title := "internally tagged enum Step"
  names := StepKind.names
  body := stepBody

/-- Decode a step. -/
def step : Decoder Step := stepVariants.decoder

/-- Decode a script. -/
def script : Decoder Script := (list step).map Script.mk

end Decoder

end Narrative
