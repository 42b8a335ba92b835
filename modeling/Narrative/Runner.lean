import Narrative.Duration
import Narrative.Session

/-!
# The scene runner

A run drives a session to its end against a host, which shows lines, picks options and plays
minigames. It keeps the protocol of minigames: a game is mounted at a start step, the script moves
onto its suspension point, and only the game's result moves it on. A game that takes longer than its
limit counts as ended with a configured result.

A host is a deterministic machine with a state of type `σ`: each request yields an answer and the
next state. A request may fail with a text, and a game takes time before it answers.

A run goes in rounds. Each round settles the session and looks at the current step; unless that is
the end it uses up one unit of the budget and handles the step. Without budget left the run gives
up, with the session settled and nothing handled.
-/

namespace Narrative

/-! ## Hosts and configurations -/

/-- How a minigame ended: a result, nothing if it was abandoned, or a failure of the host. -/
abbrev GameEnd := Except String (Option GameResult)

/-- How a minigame ended, and how long that took. -/
structure GameAnswer where
  delay : Duration
  outcome : GameEnd

/-- The presentation layer a runner talks to. -/
structure Host (σ : Type) where
  /-- show a line of dialogue until the player continues -/
  showLine : Speaker → String → σ → Except String Unit × σ
  /-- show a prompt and answer with the index of an option -/
  choose : String → List ChoiceOption → σ → Except String Nat × σ
  /-- mount and play a minigame -/
  playGame : Game → σ → GameAnswer × σ

/-- A request made of a host. -/
inductive HostCall
  | line (speaker : Speaker) (text : String)
  | choose (prompt : String) (options : List ChoiceOption)
  | game (game : Game)
  deriving DecidableEq

/-- How long a minigame may take, what counts as its result when it takes longer, and how many steps
a run may render. -/
structure RunConfig where
  gameTimeout : Option Duration := none
  timeoutResult : GameResult := .lose
  maxTransitions : Nat := 10000
  deriving DecidableEq

/-! ## How a run ends -/

/-- How a run came to rest. -/
inductive RunOutcome
  /-- the script reached its end -/
  | finished
  /-- a game ended without a result; the session is parked on its suspension point -/
  | abandoned (game : Game)
  deriving DecidableEq

/-- The outcome of a run, the number of steps it rendered and the state it left. -/
structure RunSummary where
  outcome : RunOutcome
  transitions : Nat
  finalState : State
  deriving DecidableEq

/-- Why a run broke off. -/
inductive RunError
  /-- the session refused -/
  | session (error : SessionError)
  /-- the host failed -/
  | host (message : String)
  /-- no suspension point follows a start step -/
  | missingSuspension (game : Game) (position : Position) (found : StepKind)
  /-- a suspension point was reached without a game -/
  | nothingMounted (position : Position)
  /-- the budget is used up -/
  | transitionLimit (limit : Nat)
  deriving DecidableEq

/-- The wording of an error. -/
def RunError.message : RunError → String
  | .session error => error.message
  | .host message => message
  | .missingSuspension game position found =>
    s!"minigame {Game.names.name game} was mounted at step {position.text} but " ++
      s!"the next step is {StepKind.names.name found}, not awaitGameResult"
  | .nothingMounted position =>
    s!"step {position.text} waits for a game result but no game was mounted"
  | .transitionLimit limit => s!"gave up after {limit} steps without reaching the end"

/-- How a run ended. -/
abbrev RunEnd := Except RunError RunSummary

/-! ## Runs under way -/

/-- Something that happens in a run: a turn of the session, with the reply to it, or a request made
of the host. -/
inductive RunEvent
  | presented (reply : Reply Presentation)
  | proceeded (reply : Reply Presentation)
  | chose (index : Nat) (reply : Reply Presentation)
  | reported (result : GameResult) (reply : Reply Presentation)
  | called (call : HostCall)

/-- The request made of the host, if it is one. -/
def RunEvent.call? : RunEvent → Option HostCall
  | .called call => some call
  | _ => none

/-- A run under way: the session, the host's state, the steps rendered so far, what has happened and
the lines logged. -/
structure Progress (σ : Type) where
  session : Session
  host : σ
  transitions : Nat
  events : Array RunEvent
  log : Array LogLine

/-- The requests made of the host, in order. -/
def Progress.calls {σ : Type} (progress : Progress σ) : Array HostCall :=
  progress.events.filterMap RunEvent.call?

/-- The summary of a run that comes to rest here. -/
def Progress.summary {σ : Type} (progress : Progress σ) (outcome : RunOutcome) : RunSummary :=
  ⟨outcome, progress.transitions, progress.session.state⟩

/-- What is logged when the end is reached. -/
def Progress.finishedText {σ : Type} (progress : Progress σ) : String :=
  s!"scene finished at step {progress.session.position.text} after " ++
    s!"{progress.transitions} transitions"

/-- Log a line of the runner's own. -/
def Progress.note {σ : Type} (progress : Progress σ) (level : LogLevel) (text : String) :
    Progress σ :=
  { progress with log := progress.log.push ⟨.runner, level, text⟩ }

/-- The progress with one step more. -/
def Progress.counted {σ : Type} (progress : Progress σ) : Progress σ :=
  { progress with transitions := progress.transitions + 1 }

/-- A part of a run: it goes on with a value, or ends the run. -/
def Run (σ α : Type) : Type := Progress σ → Except RunEnd α × Progress σ

namespace Run

variable {σ α β : Type}

/-- A part that changes nothing. -/
protected def pure (a : α) : Run σ α := fun progress => (.ok a, progress)

/-- One part after another, unless the first ends the run. -/
protected def bind (part : Run σ α) (next : α → Run σ β) : Run σ β := fun progress =>
  match part progress with
  | (.ok a, progress) => next a progress
  | (.error ended, progress) => (.error ended, progress)

instance : Monad (Run σ) where
  pure := Run.pure
  bind := Run.bind

/-- The session. -/
def session : Run σ Session := fun progress => (.ok progress.session, progress)

/-- Log a line. -/
def log (level : LogLevel) (text : String) : Run σ Unit := fun progress =>
  (.ok (), progress.note level text)

/-- Break off. -/
def fail (error : RunError) : Run σ α := fun progress => (.error (.error error), progress)

/-- Come to rest. -/
def rest (outcome : RunOutcome) : Run σ α := fun progress =>
  (.error (.ok (progress.summary outcome)), progress)

/-- Come to rest at the end. -/
def finish : Run σ Unit := fun progress =>
  (.error (.ok (progress.summary .finished)), progress.note .info progress.finishedText)

/-- Count a step that is rendered. -/
def count : Run σ Unit := fun progress => (.ok (), progress.counted)

/-- Take a turn of the session; a refusal breaks the run off. -/
def turn (event : Reply Presentation → RunEvent) (turn : Turn Presentation) :
    Run σ Presentation := fun progress =>
  let reply := turn progress.session
  let progress :=
    { progress with
      session := reply.session
      events := progress.events.push (event reply)
      log := progress.log ++ reply.log }
  match reply.outcome with
  | .ok a => (.ok a, progress)
  | .error error => (.error (.error (.session error)), progress)

/-- Make a request of the host. -/
def request (call : HostCall) (ask : σ → α × σ) : Run σ α := fun progress =>
  let (answer, host) := ask progress.host
  (.ok answer, { progress with host, events := progress.events.push (.called call) })

/-- The answer of a host, or the end of the run if it failed. -/
def answered (answer : Except String α) : Run σ α :=
  match answer with
  | .ok a => pure a
  | .error message => fail (.host message)

end Run

/-! ## Rounds -/

variable {σ : Type}

/-- Whether a game that took this long exceeded the limit. Taking exactly as long does not. -/
def RunConfig.expires (config : RunConfig) (delay : Duration) : Bool :=
  config.gameTimeout.any fun limit => decide (limit.total < delay.total)

/-- How a game ends under a configuration: past the limit, with the configured result. -/
def RunConfig.effective (config : RunConfig) (answer : GameAnswer) : GameEnd :=
  if config.expires answer.delay then .ok (some config.timeoutResult) else answer.outcome

/-- What is logged of a game that exceeded its limit. -/
def RunConfig.timeoutText (config : RunConfig) (game : Game) : String :=
  Game.names.name game ++ " exceeded " ++ (config.gameTimeout.elim "" Duration.text) ++
    ", recording " ++ GameResult.names.name config.timeoutResult

/-- Play a game within its limit. -/
def play (host : Host σ) (config : RunConfig) (game : Game) : Run σ (Option GameResult) := do
  let answer ← Run.request (.game game) (host.playGame game)
  if config.expires answer.delay then
    Run.log .warn (config.timeoutText game)
  Run.answered (config.effective answer)

/-- Play the game the session waits for, and report its result. Without one the run comes to rest. -/
def playAwaited (host : Host σ) (config : RunConfig) (game : Game) : Run σ Unit := do
  match ← play host config game with
  | some result => do
    Run.log .debug s!"{Game.names.name game} finished with {GameResult.names.name result}"
    let _ ← Run.turn (.reported result) (Session.report result)
  | none => do
    let parkedAt := (← Run.session).position
    Run.log .info s!"{Game.names.name game} abandoned, parked at step {parkedAt.text}"
    Run.rest (.abandoned game)

/-- Handle what the current step shows. -/
def handle (host : Host σ) (config : RunConfig) : Presentation → Run σ Unit
  | .ended => return ()
  | .dialogue speaker text => do
    Run.answered (← Run.request (.line speaker text) (host.showLine speaker text))
    let _ ← Run.turn .proceeded Session.proceed
  | .choice prompt options => do
    let index ← Run.answered (← Run.request (.choose prompt options) (host.choose prompt options))
    Run.log .debug s!"host picked option {index} of '{prompt}'"
    let _ ← Run.turn (.chose index) (Session.choose index)
  | .mountGame game => do
    let mountedAt := (← Run.session).position
    let _ ← Run.turn .proceeded Session.proceed
    let found := (← Run.session).director.current.kind
    if found = .awaitResult then
      playAwaited host config game
    else
      Run.fail (.missingSuspension game mountedAt found)
  | .awaitingResult _ => do
    Run.fail (.nothingMounted (← Run.session).position)
  | .jump _ => do
    let _ ← Run.turn .proceeded Session.proceed

/-- Present the current step. At the end the run is finished. -/
def openRound : Run σ Presentation := do
  let shown ← Run.turn .presented Session.present
  if shown = .ended then
    Run.finish
  return shown

/-- Present the current step and handle it. -/
def round (host : Host σ) (config : RunConfig) : Run σ Unit := do
  let shown ← openRound
  Run.count
  handle host config shown

/-- Carry on after a part, unless it ended the run. -/
def carryOn {α : Type} (next : α → Progress σ → RunEnd × Progress σ) :
    Except RunEnd α × Progress σ → RunEnd × Progress σ
  | (.error ended, progress) => (ended, progress)
  | (.ok a, progress) => next a progress

/-- Rounds until the run ends or the budget is used up. -/
def rounds (host : Host σ) (config : RunConfig) : Nat → Progress σ → RunEnd × Progress σ
  | 0, progress =>
    carryOn (fun _ progress => (.error (.transitionLimit config.maxTransitions), progress))
      (openRound progress)
  | budget + 1, progress =>
    carryOn (fun _ progress => rounds host config budget progress) (round host config progress)

/-- Run a session against a host until the script ends, a game is abandoned, or the run breaks
off. -/
def Session.run (session : Session) (host : Host σ) (start : σ) (config : RunConfig) :
    RunEnd × Progress σ :=
  rounds host config config.maxTransitions ⟨session, start, 0, #[], #[]⟩

end Narrative
