/-!
# Lint configuration

Four groups of checks, each of which can be switched off. Everything is on by default, and texts may
be 200 characters long.
-/

namespace Narrative.Lint

/-- Checks of jump targets and options. -/
structure ReferencesConfig where
  enabled : Bool := true
  /-- report targets outside the script -/
  checkTargets : Bool := true
  deriving DecidableEq, Repr

/-- Checks of the order of game steps. -/
structure ProtocolConfig where
  enabled : Bool := true
  /-- report branches that map nothing -/
  reportEmptyBranches : Bool := true
  deriving DecidableEq, Repr

/-- Checks of the flow of control. -/
structure FlowConfig where
  enabled : Bool := true
  /-- report steps that no path reaches -/
  checkUnreachable : Bool := true
  /-- report scripts that cannot finish -/
  checkTermination : Bool := true
  deriving DecidableEq, Repr

/-- Checks of texts. -/
structure QualityConfig where
  enabled : Bool := true
  /-- the greatest length in characters that is not reported -/
  maxTextLength : Nat := 200
  deriving DecidableEq, Repr

/-- The configuration of all checks. -/
structure Config where
  references : ReferencesConfig := {}
  protocol : ProtocolConfig := {}
  flow : FlowConfig := {}
  quality : QualityConfig := {}
  deriving DecidableEq, Repr

end Narrative.Lint
