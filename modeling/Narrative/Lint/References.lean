import Narrative.Lint.Config
import Narrative.Lint.Report
import Narrative.Script

/-!
# Reference checks

A target outside the script reads as the end, which is probably a mistake; a choice without options
can never be left, which certainly is one.
-/

namespace Narrative.Lint.References

/-- The category of these issues. -/
def category : String := "references"

/-- The targets of a step that lie outside the script. -/
def outside (script : Script) (step : Step) : List Position :=
  step.targets.filter fun target => !script.contains target

/-- One warning for each target outside the script. -/
def targetIssues (script : Script) : List Issue :=
  script.steps.zipIdx.flatMap fun (step, index) =>
    (outside script step).map fun target =>
      .ofStep .warning category index
        (StepKind.names.name step.kind ++ " step targets " ++ target.text ++ " outside 0.." ++
          toString script.length ++ "; it will read as end")

/-- Whether a step is a choice that offers nothing. -/
def isDeadChoice : Step → Bool
  | .choice _ options => options.isEmpty
  | _ => false

/-- One error for each choice without options. -/
def choiceIssues (script : Script) : List Issue :=
  script.steps.zipIdx.flatMap fun (step, index) =>
    if isDeadChoice step then
      [.ofStep .error category index "choice has no options; the player can never leave it"]
    else []

/-- The issues of the group. -/
def check (config : ReferencesConfig) (script : Script) : List Issue :=
  if config.enabled then
    (if config.checkTargets then targetIssues script else []) ++ choiceIssues script
  else []

end Narrative.Lint.References
