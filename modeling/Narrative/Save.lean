import Narrative.Digest
import Narrative.ScriptText
import Narrative.Text.Utf8
import Narrative.Wire.State

/-!
# Saves

A save is an indented JSON text that holds a state and the digest of the script it belongs to, so
that it cannot be resumed against another script.
-/

namespace Narrative

open Json

/-- The digest of a script's canonical text. -/
def Script.digest (script : Script) : String :=
  Digest.md5 script.canonical.toByteArray.data.toList

/-- What a save holds. -/
structure SaveData where
  scriptDigest : String
  state : State
  deriving DecidableEq

/-- A save as a value. -/
def SaveData.toValue (data : SaveData) : Value :=
  .obj [("script_digest", .str data.scriptDigest), ("state", data.state.toValue)]

/-- Decode a save. -/
def Decoder.saveData : Decoder SaveData :=
  .ofRecord <| .ofFields "struct SaveData"
    (.field "script_digest" none .text <| .field "state" none Decoder.state .nil)
    fun (scriptDigest, state, ()) => ⟨scriptDigest, state⟩

/-- The save of a state of a script. -/
def Script.save (script : Script) (state : State) : String :=
  (SaveData.toValue ⟨script.digest, state⟩).pretty

/-- Why bytes are no save of a script. -/
inductive LoadError
  /-- the bytes are no text -/
  | notText (fault : Text.Utf8Fault)
  /-- the text is not the JSON of a save -/
  | malformed (fault : Fault)
  /-- the save belongs to another script -/
  | otherScript (found expected : String)
  deriving DecidableEq

/-- The wording of an error. -/
def LoadError.message : LoadError → String
  | .notText fault => fault.message
  | .malformed fault => fault.message
  | .otherScript found expected =>
    s!"save belongs to a different script (digest {found}, expected {expected})"

/-- The state in a save, if the save is one of this script. -/
def Script.load (script : Script) (bytes : ByteArray) : Except LoadError State := do
  let text ← (Text.ofBytes bytes).mapError .notText
  let data ← (Decoder.saveData.decode text).mapError .malformed
  if data.scriptDigest = script.digest then return data.state
  else throw (.otherScript data.scriptDigest script.digest)

end Narrative
