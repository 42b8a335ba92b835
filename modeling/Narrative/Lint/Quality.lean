import Narrative.Lint.Config
import Narrative.Lint.Report
import Narrative.Script

/-!
# Quality checks

Texts should not be blank and not too long. Lengths count characters.
-/

namespace Narrative.Lint.Quality

/-- The category of these issues. -/
def category : String := "quality"

/-- The issues of a text: it is blank, or else longer than `limit` characters. -/
def textIssues (limit : Nat) (index : Nat) (what text : String) : List Issue :=
  if Text.allBlank text then [.ofStep .warning category index ("empty " ++ what)]
  else if text.length > limit then
    [.ofStep .warning category index
      (what ++ " is " ++ toString text.length ++ " characters long (threshold: " ++
        toString limit ++ ")")]
  else []

/-- The issue of an option: its label is blank. -/
def optionIssues (index : Nat) (option : ChoiceOption) : List Issue :=
  if Text.allBlank option.label then
    [.ofStep .warning category index
      ("option leading to " ++ option.next.text ++ " has an empty label")]
  else []

/-- The issues of a step's texts. -/
def stepIssues (limit : Nat) (step : Step) (index : Nat) : List Issue :=
  match step with
  | .say _ text => textIssues limit index "dialogue" text
  | .choice prompt options =>
    textIssues limit index "prompt" prompt ++ options.flatMap (optionIssues index)
  | _ => []

/-- The issues of the group. -/
def check (config : QualityConfig) (script : Script) : List Issue :=
  if config.enabled then
    script.steps.zipIdx.flatMap fun (step, index) => stepIssues config.maxTextLength step index
  else []

end Narrative.Lint.Quality
