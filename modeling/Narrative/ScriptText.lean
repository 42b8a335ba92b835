import Narrative.Log
import Narrative.Wire.Script

/-!
# Script texts

Scripts are kept as JSON texts. A blank text is refused before it is read; the text `[]` is a script
that is over at once. A script is written compactly where its identity matters (`canonical`) and
indented where a person reads it (`dump`).
-/

namespace Narrative

open Json

/-- Why a text is no script. -/
inductive ScriptError
  /-- the text is blank -/
  | empty
  /-- the text is not the JSON of a script -/
  | malformed (fault : Fault)
  deriving DecidableEq

namespace ScriptError

/-- The line a fault was noticed at, 0 without a place. -/
def line (fault : Fault) : Nat := (fault.place.map Place.line).getD 0

/-- The column a fault was noticed at, 0 without a place. -/
def column (fault : Fault) : Nat := (fault.place.map Place.column).getD 0

/-- The wording of an error. -/
def message : ScriptError → String
  | .empty => "script is empty"
  | .malformed fault =>
    s!"invalid script at line {line fault}, column {column fault}: {fault.message}"

end ScriptError

namespace Script

/-- Read a script. -/
def parse (text : String) : Except ScriptError Script :=
  if Text.allBlank text then .error .empty
  else
    match Decoder.script.decode text with
    | .ok script => .ok script
    | .error fault => .error (.malformed fault)

/-- The line logged when a script was read. -/
def parseLog (script : Script) : List LogLine :=
  [⟨.reader, .debug, s!"parsed script with {script.length} steps"⟩]

/-- The compact text of a script, which stands for its identity. -/
def canonical (script : Script) : String := script.toValue.compact

/-- The indented text of a script. -/
def dump (script : Script) : String := script.toValue.pretty

end Script

end Narrative
