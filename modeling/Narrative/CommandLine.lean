import Narrative.Lint
import Narrative.Player
import Narrative.ScriptFile
import Narrative.Wire.Lint

/-!
# The command line

Three commands take the path of a script: `play` plays it in the terminal, `lint` reports mistakes
of its author, `dump` prints it indented. Without a command, or with one that is not known, the usage
is shown.

`CommandLine.start` decides what an invocation does without reading any input: it is over at once, or
it plays a scene. `CommandLine.run` is the whole program on a given input.
-/

namespace Narrative.CommandLine

/-- What a program leaves behind: its exit code and what it printed. -/
structure Exit where
  code : UInt32
  out : String
  err : String
  deriving DecidableEq

/-- How the program is used. -/
def usage : String := "\n".intercalate [
  "scene-director - Scene Script Director",
  "",
  "USAGE:",
  "    cargo run -- <command> <script.json> [--debug]",
  "",
  "COMMANDS:",
  "    play <file> [--debug]    Play a script in the terminal",
  "    lint <file>              Check a script for authoring mistakes",
  "    dump <file>              Print the parsed script as JSON",
  "    --help, -h               Show this help message",
  "",
  "OPTIONS:",
  "    --debug    Show debug information (position, vars) and trace logs",
  "",
  "EXAMPLES:",
  "    cargo run -- play scripts/blackjack_night.json",
  "    cargo run -- lint scripts/blackjack_night.json",
  ""]

/-- What is printed before a play. -/
def banner : String := "\n".intercalate [
  "=== scene-director player ===",
  "",
  "Controls:",
  "  Enter: next",
  "  1-9:   select choice",
  "  b:     back",
  "  q:     quit",
  "",
  ""]

/-- The commands that take a script. -/
inductive Command
  | play | lint | dump
  deriving DecidableEq

/-- The words for the commands. -/
def Command.names : Names Command where
  all := [.play, .lint, .dump]
  name
    | .play => "play"
    | .lint => "lint"
    | .dump => "dump"
  mem_all a := by cases a <;> decide
  name_injective a b := by cases a <;> cases b <;> decide

/-- What an invocation asks for. -/
inductive Invocation
  /-- the usage, with a complaint and an exit code -/
  | help (complaint : String) (code : UInt32)
  /-- a command on a script -/
  | script (command : Command) (path : String) (debug : Bool)
  deriving DecidableEq

/-- Read the arguments after the program's name. Debugging is switched on by any argument after the
path. -/
def Invocation.ofArguments : List String → Invocation
  | [] => .help "" 1
  | word :: rest =>
    match Command.names.find? word, rest with
    | some _, [] => .help "Error: Missing script file path\n\n" 1
    | some command, path :: options => .script command path (options.contains "--debug")
    | none, _ =>
      if word = "--help" ∨ word = "-h" then .help "" 0
      else .help s!"Error: Unknown command '{word}'\n\n" 1

/-- The report of a script's lint, and the exit code it gives. -/
def lint (script : Script) : Exit :=
  let report := script.lint
  let lines := report.issues.map fun issue => issue.line ++ "\n"
  let counts :=
    s!"{report.errors} error(s), {report.warnings} warning(s), {report.infos} info\n"
  ⟨if report.hasErrors then 1 else 0, String.join lines ++ counts, ""⟩

/-- The session that is played. Debugging logs everything. -/
def session (script : Script) (debug : Bool) : Session :=
  { director := { script, filter := if debug then .verbose else .standard } }

/-- What an invocation does before it reads any input. -/
inductive Start
  /-- it is over -/
  | done (exit : Exit)
  /-- it plays a scene -/
  | playing (debug : Bool) (scene : Scene)

/-- Start an invocation. -/
def start (files : Files) (arguments : List String) : Start :=
  match Invocation.ofArguments arguments with
  | .help complaint code => .done ⟨code, usage, complaint⟩
  | .script command path debug =>
    match files.script path with
    | .error error =>
      .done ⟨1, "", s!"Error: Failed to load script '{path}'\nReason: {error.message}\n"⟩
    | .ok script =>
      match command with
      | .play => .playing debug (Scene.start debug (session script debug))
      | .lint => .done (lint script)
      | .dump => .done ⟨0, script.dump ++ "\n", ""⟩

/-- What is reported when a play is over: the exit code and the complaint. -/
def verdict (error : Option PlayError) : UInt32 × String :=
  match error with
  | none => (0, "")
  | some error => (1, s!"Error: Player mode failed\nReason: {error.message}\n")

/-- The whole program on a given input. -/
def run (files : Files) (arguments : List String) (input : ByteArray) : Exit :=
  match start files arguments with
  | .done exit => exit
  | .playing debug scene =>
    let played := scene.finish debug (Text.lines input)
    let out := banner ++ Display.texts played.output
    match played.stage with
    | .finished _ error =>
      let (code, err) := verdict error
      ⟨code, out, err⟩
    | .asking .. => ⟨0, out, ""⟩

end Narrative.CommandLine
