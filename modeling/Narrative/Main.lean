import Narrative.CommandLine
import Narrative.FileTree

/-!
# The program

The command line at a terminal: files are read from the disk, lines from standard input. Everything
that is printed is decided by `Narrative.CommandLine`; log lines are not shown.
-/

namespace Narrative.Main

/-- Why a file cannot be read, in words. -/
def reason (error : IO.Error) : String :=
  match error with
  | .noFileOrDirectory .. => PathFault.notFound.message
  | .permissionDenied _ code details | .inappropriateType _ code details =>
    s!"{details} (os error {code})"
  | error => toString error

/-- The file at a path. -/
def readFile (path : String) : IO (Except String ByteArray) := do
  try
    return .ok (← IO.FS.readBinFile path)
  catch error =>
    return .error (reason error)

/-- The bytes up to and including the next line break. -/
partial def readBytes (input : IO.FS.Stream) (before : ByteArray) : IO ByteArray := do
  let next ← input.read 1
  match next.toList with
  | [b] => if b = 10 then return before.push b else readBytes input (before.push b)
  | _ => return before

/-- The next line of input. -/
def readLine (input : IO.FS.Stream) : IO Text.Line := do
  let bytes ← readBytes input .empty
  return if bytes.isEmpty then .closed else .ofBytes bytes.toList

/-- Print what a scene shows, and answer its questions until it is over. -/
partial def play (debug : Bool) (scene : Scene) : IO UInt32 := do
  let output ← IO.getStdout
  output.putStr (Display.texts scene.output)
  output.flush
  match scene.stage with
  | .finished _ error =>
    let (code, complaint) := CommandLine.verdict error
    (← IO.getStderr).putStr complaint
    return code
  | .asking session shown =>
    play debug (Scene.respond debug session shown (← readLine (← IO.getStdin)))

/-- The command line. -/
def run (arguments : List String) : IO UInt32 := do
  let contents ← match CommandLine.Invocation.ofArguments arguments with
    | .script _ path _ => readFile path
    | .help .. => pure (.error "")
  match CommandLine.start (fun _ => contents) arguments with
  | .done exit =>
    (← IO.getStderr).putStr exit.err
    (← IO.getStdout).putStr exit.out
    return exit.code
  | .playing debug scene =>
    (← IO.getStdout).putStr CommandLine.banner
    play debug scene

end Narrative.Main

/-- Run the command line. -/
def main (arguments : List String) : IO UInt32 := Narrative.Main.run arguments
