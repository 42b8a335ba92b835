import Narrative.Director
import Narrative.History

/-!
# Scene sessions

A session wraps a director with the discipline a host keeps: pending branches are resolved before
anything is shown, choices are answered by a jump, and a result is accepted only while the script
waits for one. Every accepted move first stores the state in a bounded undo history.

`settle` follows branches until the position rests on another step. A chain of branches that visits
no position twice has at most as many branches as the script has steps, so one resolution more than
that is a cycle.

Each operation is a `Turn`: it takes a session and gives a `Reply`, the outcome together with the
session left behind and the lines logged. A failed turn keeps what it had already changed.
-/

namespace Narrative

/-! ## What a host shows -/

/-- What the host has to render for the current step. -/
inductive Presentation
  /-- a line of dialogue, until the player continues -/
  | dialogue (speaker : Speaker) (text : String)
  /-- a prompt and its options -/
  | choice (prompt : String) (options : List ChoiceOption)
  /-- a minigame to mount -/
  | mountGame (game : Game)
  /-- the mounted minigame has yet to report -/
  | awaitingResult (var : Variable)
  /-- a jump, followed on continue -/
  | jump (next : Position)
  /-- the scene is over -/
  | ended
  deriving DecidableEq, Inhabited

/-- What a step shows. A branch shows nothing of its own: sessions never rest on one. -/
def Presentation.ofStep : Step → Presentation
  | .say speaker text => .dialogue speaker text
  | .choice prompt options => .choice prompt options
  | .startGame game => .mountGame game
  | .awaitResult var => .awaitingResult var
  | .goto next => .jump next
  | .branch .. | .finish => .ended

/-! ## Refusals -/

/-- Why a session refused an operation. -/
inductive SessionError
  /-- continuing at a choice -/
  | choiceRequired (position : Position)
  /-- continuing while a game result is awaited -/
  | resultRequired (position : Position)
  /-- choosing at a step of another kind -/
  | notAtChoice (position : Position) (kind : StepKind)
  /-- choosing an option that does not exist -/
  | choiceOutOfRange (position : Position) (index available : Nat)
  /-- reporting a result at a step of another kind -/
  | notAwaitingResult (position : Position) (kind : StepKind)
  /-- branches that lead to each other for ever, from this position on -/
  | branchCycle (position : Position)
  deriving DecidableEq

/-- The text of a refusal. -/
def SessionError.message : SessionError → String
  | .choiceRequired position =>
    s!"step {position.text} is a choice; pick an option instead of continuing"
  | .resultRequired position =>
    s!"step {position.text} waits for a game result; report one instead of continuing"
  | .notAtChoice position kind =>
    s!"step {position.text} is a {StepKind.names.name kind} step, not a choice"
  | .choiceOutOfRange position index available =>
    s!"choice {index} does not exist at step {position.text} ({available} options)"
  | .notAwaitingResult position kind =>
    s!"step {position.text} is a {StepKind.names.name kind} step, not waiting for a game result"
  | .branchCycle position =>
    s!"branch steps keep jumping to each other starting at step {position.text}"

/-! ## Sessions and turns -/

/-- A director with its undo history. -/
structure Session where
  director : Director
  history : History := .empty History.usualLimit
  deriving DecidableEq

/-- The outcome of a turn, the session it leaves and the lines it logged. -/
structure Reply (α : Type) where
  outcome : Except SessionError α
  session : Session
  log : List LogLine

/-- An operation on a session. -/
def Turn (α : Type) : Type := Session → Reply α

namespace Turn

/-- A turn that changes nothing. -/
protected def pure {α : Type} (a : α) : Turn α := fun session => ⟨.ok a, session, []⟩

/-- One turn after another; a failure ends it there. -/
protected def bind {α β : Type} (turn : Turn α) (next : α → Turn β) : Turn β := fun session =>
  match turn session with
  | ⟨.error error, left, log⟩ => ⟨.error error, left, log⟩
  | ⟨.ok a, left, log⟩ =>
    let reply := next a left
    { reply with log := log ++ reply.log }

instance : Monad Turn where
  pure := Turn.pure
  bind := Turn.bind

/-- Refuse. -/
def refuse {α : Type} (error : SessionError) : Turn α := fun session => ⟨.error error, session, []⟩

/-- The director of the session. -/
def director : Turn Director := fun session => ⟨.ok session.director, session, []⟩

/-- Move the director. -/
def move (step : Director → Logged Director) : Turn Unit := fun session =>
  let moved := step session.director
  ⟨.ok (), { session with director := moved.value }, moved.log⟩

/-- Log a note about the host's request. -/
def noteHost (text : String) : Turn Unit := fun session =>
  ⟨.ok (), session, session.director.filter.lines ⟨.host, .debug, text⟩⟩

/-- Store the state for undo. -/
def remember : Turn Unit := fun session =>
  ⟨.ok (), { session with history := session.history.push session.director.state }, []⟩

/-- Resolve the current step if it is a branch; says whether it was. -/
def resolveBranch : Turn Bool := fun session =>
  match session.director.resolveBranch? with
  | some moved => ⟨.ok true, { session with director := moved.value }, moved.log⟩
  | none => ⟨.ok false, session, []⟩

end Turn

namespace Session

/-- The state of the director. -/
def state (session : Session) : State := session.director.state

/-- The position of the director. -/
def position (session : Session) : Position := session.director.position

/-- Whether the current step reads as the end. -/
def isEnded (session : Session) : Bool := session.director.isEnded

/-- Whether there is something to undo. -/
def canUndo (session : Session) : Bool := session.history.canUndo

/-! ## Settling -/

/-- Resolve at most `budget` branches; a branch that is still current then is part of a cycle
entered at `start`. -/
def settleWithin (start : Position) : Nat → Turn Unit
  | 0 => do
    let director ← Turn.director
    if director.current.kind = .branch then Turn.refuse (.branchCycle start)
  | budget + 1 => do
    if ← Turn.resolveBranch then settleWithin start budget

/-- Follow branches until the position rests on another step. -/
def settle : Turn Unit := fun session =>
  settleWithin session.position (session.director.script.length + 1) session

/-! ## The operations -/

/-- Settle and describe the current step. -/
def present : Turn Presentation := do
  settle
  let director ← Turn.director
  return .ofStep director.current

/-- The player continues: dialogue and game markers advance by one, jumps are followed, and the
end stays put. Choices and suspension points refuse. -/
def proceed : Turn Presentation := do
  settle
  let director ← Turn.director
  match director.current with
  | .say .. | .startGame .. => do
    Turn.remember
    Turn.move Director.advance
  | .goto next => do
    Turn.remember
    Turn.move (·.goto next)
  | .finish | .branch .. => pure ()
  | .choice .. => Turn.refuse (.choiceRequired director.position)
  | .awaitResult .. => Turn.refuse (.resultRequired director.position)
  present

/-- The position option `index` of the current choice leads to. -/
def chosen (director : Director) (index : Nat) : Except SessionError Position :=
  match director.current with
  | .choice _ options =>
    match options[index]? with
    | some option => .ok option.next
    | none => .error (.choiceOutOfRange director.position index options.length)
  | other => .error (.notAtChoice director.position other.kind)

/-- Pick an option of the current choice, counted from 0. -/
def choose (index : Nat) : Turn Presentation := do
  settle
  let director ← Turn.director
  match chosen director index with
  | .error error => Turn.refuse error
  | .ok next => do
    Turn.noteHost s!"[Choose] option {index} at {director.position.text} -> {next.text}"
    Turn.remember
    Turn.move (·.goto next)
    present

/-- Report the result the script waits for: it is recorded and the suspension point is left. -/
def report (result : GameResult) : Turn Presentation := do
  settle
  let director ← Turn.director
  if director.current.kind = .awaitResult then
    Turn.noteHost s!"[Result] {GameResult.names.name result} reported at {director.position.text}"
    Turn.remember
    Turn.move (·.setResult result)
    Turn.move Director.advance
    present
  else
    Turn.refuse (.notAwaitingResult director.position director.current.kind)

/-- Go back to the newest snapshot, if there is one, and describe it. -/
def undo? (session : Session) : Option (Reply Presentation) :=
  session.history.pop?.map fun (previous, older) =>
    let restored : Session :=
      { director := { session.director with state := previous }, history := older }
    let log := session.director.filter.lines
      ⟨.host, .debug, s!"[Undo] {session.position.text} -> {previous.position.text}"⟩
    let reply := present restored
    { reply with log := log ++ reply.log }

end Session

end Narrative
