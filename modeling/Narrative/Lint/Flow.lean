import Narrative.Lint.Config
import Narrative.Lint.Report
import Narrative.Script

/-!
# Flow checks

`explore` searches the positions a host can get to from the start. It follows the policy of a
session: continue past dialogue and game steps, follow jumps, pick any option, take any arm of a
branch or fall through. A step that is never found is reported, and so is a script of which no path
reaches an end.

The search visits each index at most once, so as many visits as there are steps are enough.
-/

namespace Narrative.Lint.Flow

/-- The category of these issues. -/
def category : String := "flow"

/-- Where the step at `index` can lead. -/
def successors (index : Nat) (step : Step) : List Position :=
  match step with
  | .say .. | .startGame .. | .awaitResult .. => [.ofIndex (index + 1)]
  | .choice .. | .goto .. => step.targets
  | .branch .. => step.targets ++ [.ofIndex (index + 1)]
  | .finish => []

/-- The index of the step at a position, if the position lies in the script. -/
def inside? (script : Script) (position : Position) : Option Nat :=
  position.index?.filter fun index => decide (index < script.length)

/-- A search under way. -/
structure Search where
  /-- found, but not yet visited -/
  queue : List Nat
  /-- found -/
  seen : List Nat
  /-- whether an end step or a position outside the script was found -/
  canFinish : Bool
  deriving DecidableEq

namespace Search

/-- Note a position that was found. -/
def discover (script : Script) (search : Search) (position : Position) : Search :=
  match inside? script position with
  | some index =>
    if index ∈ search.seen then search
    else { search with queue := search.queue ++ [index], seen := index :: search.seen }
  | none => { search with canFinish := true }

/-- Visit the step at an index. -/
def visit (script : Script) (search : Search) (index : Nat) : Search :=
  match script.steps[index]? with
  | some .finish => { search with canFinish := true }
  | some step => (successors index step).foldl (discover script) search
  | none => search

/-- Visit what is queued, at most `budget` indices. -/
def run (script : Script) : Nat → Search → Search
  | 0, search => search
  | budget + 1, search =>
    match search.queue with
    | [] => search
    | index :: queue => run script budget (visit script { search with queue } index)

end Search

/-- Search from the start of a script that has a first step. -/
def explore (script : Script) : Search := Search.run script script.length ⟨[0], [0], false⟩

/-- One warning for each step that was not found. End steps no path reaches are harmless. -/
def unreachableIssues (script : Script) (search : Search) : List Issue :=
  script.steps.zipIdx.flatMap fun (step, index) =>
    if index ∈ search.seen ∨ step = .finish then []
    else
      [.ofStep .warning category index ("unreachable " ++ StepKind.names.name step.kind ++ " step")]

/-- A note that the script cannot finish. -/
def endlessIssues (search : Search) : List Issue :=
  if search.canFinish then []
  else
    [.ofScript .info category "no path from the start reaches an end step or runs off the script"]

/-- The issues of the group. -/
def check (config : FlowConfig) (script : Script) : List Issue :=
  if config.enabled && !script.isEmpty then
    let search := explore script
    (if config.checkUnreachable then unreachableIssues script search else []) ++
      (if config.checkTermination then endlessIssues search else [])
  else []

end Narrative.Lint.Flow
