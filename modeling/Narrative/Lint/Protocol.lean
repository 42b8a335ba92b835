import Narrative.Lint.Config
import Narrative.Lint.Report
import Narrative.Script

/-!
# Protocol checks

A round of a minigame is written as three steps: start the game, await its result, then usually
branch on it. Nothing enforces that shape; these checks point out where it is broken.
-/

namespace Narrative.Lint.Protocol

/-- The category of these issues. -/
def category : String := "protocol"

/-- Whether a step waits for a result. -/
def awaits (step : Step) : Bool := decide (step.kind = .awaitResult)

/-- Whether a step starts a game. -/
def starts (step : Step) : Bool := decide (step.kind = .startGame)

/-- The step before the one at `index`. -/
def before? (script : Script) : Nat → Option Step
  | 0 => none
  | index + 1 => script.steps[index]?

/-- A warning for a game that nothing waits for, or for a wait without a game. -/
def roundIssue (script : Script) (step : Step) (index : Nat) : List Issue :=
  match step with
  | .startGame game =>
    if (script.steps[index + 1]?).any awaits then []
    else
      [.ofStep .warning category index
        (Game.names.name game ++ " is started but nothing waits for its result")]
  | .awaitResult _ =>
    if (before? script index).any starts then []
    else
      [.ofStep .warning category index
        "waits for a game result but no game is started right before it"]
  | _ => []

/-- The issues of all rounds. -/
def roundIssues (script : Script) : List Issue :=
  script.steps.zipIdx.flatMap fun (step, index) => roundIssue script step index

/-- Whether some step records a result under a variable. -/
def writes (script : Script) (var : Variable) : Bool :=
  script.steps.any fun step => decide (step = .awaitResult var)

/-- The issues of a branch: its variable is never written, or it maps nothing. -/
def branchIssue (config : ProtocolConfig) (script : Script) (step : Step) (index : Nat) :
    List Issue :=
  match step with
  | .branch var arms =>
    (if writes script var then []
      else
        [.ofStep .warning category index
          ("branches on " ++ Variable.names.name var ++ " but no step awaits a result into it")]) ++
    (if config.reportEmptyBranches && arms.isEmpty then
        [.ofStep .info category index "branch has no mapping and always falls through"]
      else [])
  | _ => []

/-- The issues of all branches. -/
def branchIssues (config : ProtocolConfig) (script : Script) : List Issue :=
  script.steps.zipIdx.flatMap fun (step, index) => branchIssue config script step index

/-- The issues of the group. -/
def check (config : ProtocolConfig) (script : Script) : List Issue :=
  if config.enabled then roundIssues script ++ branchIssues config script else []

end Narrative.Lint.Protocol
