import Narrative.State

/-!
# The director

A director binds one immutable script to one state. Every operation is total: reads outside the
script yield `finish`, jumps are not validated, and a branch without a matching result falls
through. It never moves on its own: a host reads the current step and answers with an action, and
calls `resolveBranch` after a change that may have landed on a branch.
-/

namespace Narrative

/-- A script, a state of it, and the filter its transitions are logged through. -/
structure Director where
  script : Script
  state : State := {}
  filter : LogFilter := .standard
  deriving DecidableEq

namespace Director

/-- The position of the state. -/
def position (director : Director) : Position := director.state.position

/-- The current step, `finish` outside the script. -/
def current (director : Director) : Step := director.script.get director.position

/-- Whether the current step reads as the end. -/
def isEnded (director : Director) : Bool := director.current = .finish

/-- Apply an action. -/
def dispatch (director : Director) (action : Action) : Logged Director where
  value := { director with state := action.apply director.state }
  log := director.filter.lines (action.note director.state)

/-- Move to the next index, whatever the current step is. -/
def advance (director : Director) : Logged Director := director.dispatch .advance

/-- Move to any position. -/
def goto (director : Director) (next : Position) : Logged Director := director.dispatch (.goto next)

/-- Record a result; the position stays. -/
def setResult (director : Director) (result : GameResult) : Logged Director :=
  director.dispatch (.setResult result)

/-- The lines logged while the current branch is looked up. -/
def resolveLog (director : Director) : List LogLine :=
  (director.script.resolveNote? director.state).elim [] director.filter.lines

/-- Take the jump of the current step if it is a branch; otherwise there is nothing to resolve. -/
def resolveBranch? (director : Director) : Option (Logged Director) :=
  (director.script.resolve? director.state).map fun action =>
    let moved := director.dispatch action
    ⟨moved.value, director.resolveLog ++ moved.log⟩

end Director

end Narrative
