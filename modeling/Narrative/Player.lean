import Narrative.Session
import Narrative.Text.Typed
import Narrative.Wire.State

/-!
# The terminal player

The player shows a session in a terminal and turns typed lines into moves. Minigames are not played
here: the player is asked to type the result of the game.

Between two lines of input the player goes through markers on its own: it follows jumps and passes
the start of a game. A chain of markers that visits no step twice is no longer than the script, so
one marker more than that is a cycle, which ends the play with an error.

What is printed is a list of `Display`s; `Display.text` gives their wording. The player waits on the
presentation it showed last. When an answer is refused, the same presentation is shown again, wherever
the session was left.
-/

namespace Narrative

/-! ## What is printed -/

/-- One thing the player prints. -/
inductive Display
  /-- the state, for debugging -/
  | status (state : State)
  /-- a line of dialogue -/
  | dialogue (speaker : Speaker) (text : String)
  /-- a prompt with its options -/
  | choice (prompt : String) (options : List ChoiceOption)
  /-- a request for the result of a game -/
  | awaiting
  /-- the start of a game -/
  | minigame (game : Game)
  /-- the end of the scene -/
  | theEnd
  /-- a farewell -/
  | goodbye
  /-- a step back was taken -/
  | wentBack
  /-- there is nothing to go back to -/
  | cannotUndo
  /-- an answer that was not understood or was refused, and why -/
  | refusal (text : String)
  deriving DecidableEq

namespace Display

/-- The line of each option, numbered from `first`. -/
def optionLines (first : Nat) : List ChoiceOption → String
  | [] => ""
  | option :: rest => s!"{first}. {option.label}\n" ++ optionLines (first + 1) rest

/-- What is printed. -/
def text : Display → String
  | .status state =>
    s!"[debug]\nposition={state.position.text}\nvars={state.recordedValue.compact}\n\n"
  | .dialogue speaker text => s!"{Speaker.names.name speaker}:\n{text}\n\n"
  | .choice prompt options =>
    s!"--- {prompt} ---\n" ++ optionLines 1 options ++ "\nSelect (1-9): "
  | .awaiting => "Result (win/lose/draw/completed): "
  | .minigame game => s!"[Minigame: {Game.names.name game}]\n"
  | .theEnd => "\n== THE END ==\n"
  | .goodbye => "Goodbye!\n"
  | .wentBack => "(back)\n\n"
  | .cannotUndo => "[Cannot undo]\n"
  | .refusal text => text ++ "\n"

/-- The text of everything printed. -/
def texts (shown : List Display) : String := String.join (shown.map text)

end Display

/-! ## Typed answers -/

/-- What a typed line asks for. -/
inductive Answer
  | quit
  | back
  | text (words : String)
  deriving DecidableEq

/-- The meaning of a line: the white space around it does not matter. -/
def Answer.ofLine (line : String) : Answer :=
  match Text.trim line with
  | "q" => .quit
  | "b" => .back
  | words => .text words

/-- The move that typed words ask for at a presentation, or why they are not understood. -/
def Presentation.answer (shown : Presentation) (words : String) :
    Except String (Turn Presentation) :=
  match shown with
  | .dialogue .. =>
    if words.isEmpty then .ok Session.proceed
    else .error "Press Enter to continue, 'b' to go back, or 'q' to quit."
  | .choice .. =>
    match Text.natural? words with
    | some number =>
      if 1 ≤ number ∧ number ≤ 9 then .ok (Session.choose (number - 1))
      else .error "Invalid input. Enter a number, 'b', or 'q'."
    | none => .error "Invalid input. Enter a number, 'b', or 'q'."
  | .awaitingResult _ =>
    match GameResult.ofTyped? words with
    | some result => .ok (Session.report result)
    | none => .error (GameResult.refusal words)
  | shown => .ok (pure shown)

/-! ## Play -/

/-- Why a play broke off. -/
inductive PlayError
  /-- the session refused to go through a marker, or could not be shown -/
  | session (error : SessionError)
  /-- markers lead to each other for ever -/
  | endlessMarkers (position : Position)
  /-- a typed line is no text -/
  | unreadable
  deriving DecidableEq

/-- The wording of an error. -/
def PlayError.message : PlayError → String
  | .session error => error.message
  | .endlessMarkers position =>
    s!"goto steps keep jumping without reaching a line to show (step {position.text})"
  | .unreadable => "stream did not contain valid UTF-8"

/-- Where a play stands. -/
inductive Stage
  /-- a line of input is needed to answer what is shown -/
  | asking (session : Session) (shown : Presentation)
  /-- the play is over, with an error if it broke off -/
  | finished (session : Session) (error : Option PlayError)
  deriving DecidableEq

/-- What was printed on the way to a stage. -/
structure Scene where
  output : List Display
  stage : Stage

namespace Scene

/-- Print something before everything else. -/
def after (shown : List Display) (scene : Scene) : Scene :=
  { scene with output := shown ++ scene.output }

/-- A play that is over. -/
def finished (session : Session) (shown : List Display) (error : Option PlayError := none) : Scene :=
  ⟨shown, .finished session error⟩

/-- What is printed for a presentation that asks for an answer, or for a marker. -/
def display : Presentation → List Display
  | .dialogue speaker text => [.dialogue speaker text]
  | .choice prompt options => [.choice prompt options]
  | .awaitingResult _ => [.awaiting]
  | .mountGame game => [.minigame game]
  | .jump _ => []
  | .ended => [.theEnd]

/-- Whether a presentation is a marker, which the player goes through on its own. -/
def isMarker : Presentation → Bool
  | .jump _ | .mountGame _ => true
  | _ => false

/-- Show a presentation of a session and go through at most `budget` markers. -/
def follow (debug : Bool) (budget : Nat) (session : Session) (shown : Presentation) : Scene :=
  let status := if debug then [Display.status session.state] else []
  if isMarker shown then
    match budget with
    | 0 => finished session status (some (.endlessMarkers session.position))
    | budget + 1 =>
      let reply := Session.proceed session
      after (status ++ display shown) <|
        match reply.outcome with
        | .ok next => follow debug budget reply.session next
        | .error error => finished reply.session [] (some (.session error))
  else if shown = .ended then finished session (status ++ display shown)
  else ⟨status ++ display shown, .asking session shown⟩

/-- The number of markers that may be passed between two lines of input. -/
def markerLimit (session : Session) : Nat := session.director.script.length + 1

/-- Show a presentation of a session. -/
def view (debug : Bool) (session : Session) (shown : Presentation) : Scene :=
  follow debug (markerLimit session) session shown

/-- The first scene of a session. -/
def start (debug : Bool) (session : Session) : Scene :=
  let reply := Session.present session
  match reply.outcome with
  | .ok shown => view debug reply.session shown
  | .error error => finished reply.session [] (some (.session error))

/-- Show what a move led to; a refused move leaves what was shown before. -/
def moved (debug : Bool) (shown : Presentation) (reply : Reply Presentation) : Scene :=
  match reply.outcome with
  | .ok next => view debug reply.session next
  | .error error => after [.refusal error.message] (view debug reply.session shown)

/-- The scene after a line of input, when `shown` was shown of the session. -/
def respond (debug : Bool) (session : Session) (shown : Presentation) (line : Text.Line) : Scene :=
  match line with
  | .closed => finished session [.goodbye]
  | .unreadable => finished session [] (some .unreadable)
  | .text line =>
    match Answer.ofLine line with
    | .quit => finished session [.goodbye]
    | .back =>
      match session.undo? with
      | some reply => after [.wentBack] (moved debug shown reply)
      | none => after [.cannotUndo] (view debug session shown)
    | .text words =>
      match shown.answer words with
      | .ok move => moved debug shown (move session)
      | .error text => after [.refusal text] (view debug session shown)

/-- The whole play from a scene on, with the input closed after the given lines. -/
def finish (debug : Bool) (scene : Scene) : List Text.Line → Scene
  | [] =>
    match scene.stage with
    | .asking session shown => after scene.output (respond debug session shown .closed)
    | .finished .. => scene
  | line :: lines =>
    match scene.stage with
    | .asking session shown =>
      after scene.output (finish debug (respond debug session shown line) lines)
    | .finished .. => scene

end Scene

/-- Play a session with the given lines of input. -/
def Session.play (session : Session) (debug : Bool) (lines : List Text.Line) : Scene :=
  (Scene.start debug session).finish debug lines

end Narrative
