import Narrative.ScriptText
import Narrative.Text.Utf8

/-!
# Script files

A script file is looked up by path, must be text, and must hold a script. What goes wrong is told in
two parts: which file could not be read or parsed, and why.
-/

namespace Narrative

/-- The contents of files by path: bytes, or the reason why there are none. -/
def Files := String → Except String ByteArray

/-- Why a file yields no script. -/
inductive FileCause
  /-- it cannot be opened or read -/
  | unreadable (reason : String)
  /-- its bytes are no text -/
  | notText
  /-- its text is no script -/
  | noScript (error : ScriptError)
  deriving DecidableEq

/-- What is said of bytes that are no text. -/
def notTextMessage : String := "stream did not contain valid UTF-8"

/-- The wording of a cause. -/
def FileCause.message : FileCause → String
  | .unreadable reason => reason
  | .notText => notTextMessage
  | .noScript error => error.message

/-- A path whose file yields no script, and why. -/
structure FileError where
  path : String
  cause : FileCause
  deriving DecidableEq

namespace FileError

/-- Which file failed, and at what. -/
def context (error : FileError) : String :=
  match error.cause with
  | .noScript _ => s!"failed to parse script '{error.path}'"
  | _ => s!"failed to read script '{error.path}'"

/-- The whole wording. -/
def message (error : FileError) : String := error.context ++ ": " ++ error.cause.message

end FileError

/-- The script in a file. -/
def Files.script (files : Files) (path : String) : Except FileError Script := do
  let bytes ← (files path).mapError fun reason => ⟨path, .unreadable reason⟩
  let text ← (Text.ofBytes bytes).mapError fun _ => ⟨path, .notText⟩
  (Script.parse text).mapError fun error => ⟨path, .noScript error⟩

end Narrative
