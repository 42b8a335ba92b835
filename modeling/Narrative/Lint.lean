import Narrative.Lint.Flow
import Narrative.Lint.Protocol
import Narrative.Lint.Quality
import Narrative.Lint.References

/-!
# Lint

Every script can be played: targets outside it read as the end, and unmapped results fall through.
Lint reports the places where that is probably a mistake of the author. Four groups of checks run one
after another: references, protocol, flow and quality.
-/

namespace Narrative

namespace Lint

/-- All issues of a script, in the order of the groups. -/
def issues (config : Config) (script : Script) : List Issue :=
  References.check config.references script ++ Protocol.check config.protocol script ++
    Flow.check config.flow script ++ Quality.check config.quality script

end Lint

/-- The lint report of a script. -/
def Script.lint (script : Script) (config : Lint.Config := {}) : Lint.Report :=
  .ofIssues (Lint.issues config script)

end Narrative
