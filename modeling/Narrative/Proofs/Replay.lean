import Narrative.Proofs.Prompts
import Narrative.Proofs.Splitting

/-!
# Runs replayed in the terminal

A run drives a session against a host, a play drives it with typed lines. Both go through the same
steps, but keep different books: a run counts the steps it renders, mounts a game and reports its
result in one round, and does not read text; the player counts the markers in a row, and asks for
the result of a game where the run asks the host.

If a run reaches the end of the script, typing what the host answered, one line for each request
made of it, makes a play that reaches the end as well, and in the same way. The budget for markers
is never used up on the way: markers that use it up lead to each other for ever, and no run gets to
the end through them.

* `Host.lines`: what to type for the requests made of a host;
* `Ran.not_restless`: a run that comes to the end does not go through markers for ever;
* `Ran.replayed`: the play that follows a run to the end;
* **`play_agrees_with_run`**: the play of a finished run.
-/

namespace Narrative

variable {σ : Type}

/-! ## What is typed -/

/-- The words that answer a request made of the host: nothing for a line, the number of the chosen
option, and for a game the name of the result that counts. That is the result the host gives, unless
the game took longer than its limit. -/
def Host.typed (host : Host σ) (config : RunConfig) (h : σ) : HostCall → String
  | .line .. => ""
  | .choose prompt options =>
    match (host.choose prompt options h).1 with
    | .ok index => toString (index + 1)
    | .error _ => ""
  | .game game =>
    match config.effective (host.playGame game h).1 with
    | .ok (some result) => GameResult.names.name result
    | _ => ""

/-- One typed line for each request made of the host, in order. -/
def Host.lines (host : Host σ) (config : RunConfig) : σ → List HostCall → List Text.Line
  | _, [] => []
  | h, call :: calls =>
    .text (host.typed config h call ++ "\n") :: host.lines config (host.serve h call) calls

/-- What a turn that is not refused shows. -/
theorem Session.exists_shown_of_not_refused {session : Session} {request : Request}
    (h : session.refusal? request = none) :
    ∃ shown, session.answer (.ask request) = some (.ok shown) := by
  unfold refusal? at h
  cases houtcome : (request.turn session).outcome with
  | ok shown => exact ⟨shown, Session.answer_ask_iff.mpr houtcome⟩
  | error error =>
    rw [houtcome] at h
    exact absurd h (by simp)

/-- **The ways a session is led on** from the step it shows, with the requests made of the host and
the step that is shown next. -/
inductive Leads (host : Host σ) (config : RunConfig) (session : Session) (h : σ) :
    Presentation → List HostCall → Session → Presentation → Prop
  /-- the host shows a line or chooses -/
  | answered {shown next : Presentation} {call : HostCall} {request : Request} {h' : σ}
      (consulted : host.consult? h shown = some (call, .ok request, h'))
      (accepted : session.answer (.ask request) = some (.ok next)) :
      Leads host config session h shown [call] (session.after (.ask request)) next
  /-- a jump is followed -/
  | jumped {target : Position} {next : Presentation}
      (accepted : session.answer (.ask .proceed) = some (.ok next)) :
      Leads host config session h (.jump target) [] (session.after (.ask .proceed)) next
  /-- a game is played, and its result reported -/
  | reported {game : Game} {result : GameResult} {next : Presentation} (waits : session.Waits)
      (ended : config.effective (host.playGame game h).1 = .ok (some result))
      (accepted : (session.after (.ask .proceed)).answer (.ask (.report result)) =
        some (.ok next)) :
      Leads host config session h (.mountGame game) [.game game]
        ((session.after (.ask .proceed)).after (.ask (.report result))) next

variable {host : Host σ} {config : RunConfig} {budget n : Nat} {point : RunPoint σ}
  {events : List RunEvent}

/-- **A round that does not stop the run leads on.** -/
theorem Round.leads (round : Round host config point events none) :
    ∃ shown next, point.session.answer (.ask .present) = some (.ok shown) ∧
      Leads host config (point.session.after (.ask .present)) point.host shown
        (events.filterMap RunEvent.call?) (point.after host events).session next := by
  obtain ⟨shows, lasts, handled⟩ := round
  generalize hstop : (none : Option RunStop) = stop at handled
  cases handled with
  | answered consulted =>
    obtain ⟨next, haccepted⟩ := Session.exists_shown_of_not_refused hstop.symm
    refine ⟨_, next, shows, ?_⟩
    simpa using Leads.answered consulted haccepted
  | jumped =>
    obtain ⟨next, haccepted⟩ := Session.exists_shown_of_not_refused hstop.symm
    refine ⟨_, next, shows, ?_⟩
    simpa using Leads.jumped haccepted
  | reported waits ended =>
    obtain ⟨next, haccepted⟩ := Session.exists_shown_of_not_refused hstop.symm
    refine ⟨_, next, shows, ?_⟩
    simpa using Leads.reported waits ended haccepted
  | _ => exact absurd hstop (by simp)

namespace Leads

variable {session left : Session} {h : σ} {shown next : Presentation} {calls : List HostCall}

/-- The session is led to the step that is shown next. -/
theorem shows (leads : Leads host config session h shown calls left next) : left.Shows next := by
  cases leads with
  | answered _ accepted | jumped accepted | reported _ _ accepted => exact .of_answer accepted

/-- Markers that never end lead on to markers that never end. -/
theorem restless (leads : Leads host config session h shown calls left next)
    (shows : session.Shows shown) (restless : session.script.Restless session.state) :
    left.script.Restless left.state := by
  have hmarker := shows.onMarker_iff.mp (restless 0)
  obtain ⟨hpassed, -⟩ := Session.proceed_of_onMarker (restless 0)
  cases leads with
  | answered consulted _ =>
    cases shown <;> simp [Host.consult?, Scene.isMarker] at consulted hmarker
  | jumped _ =>
    rw [Session.script_after, hpassed]
    exact restless.passed
  | reported waits _ _ =>
    -- where the result is awaited there is no marker
    have hagain := restless 1
    rw [Function.iterate_one, ← hpassed, Script.onMarker_iff] at hagain
    have hawaits : (session.script.get (session.after (.ask .proceed)).state.position).kind =
        .awaitResult := by
      rw [← Session.script_after session (.ask .proceed)]
      exact waits.2
    simp [hawaits] at hagain

end Leads

/-- The request that a host would be made for what is printed. -/
def Display.call? : Display → Option HostCall
  | .dialogue speaker text => some (.line speaker text)
  | .choice prompt options => some (.choose prompt options)
  | .minigame game => some (.game game)
  | _ => none

namespace Scene

variable {debug : Bool} {session : Session} {scene : Scene} {calls later : List HostCall}

/-- The play reaches the end of the script with this session, and has shown what a host would have
been asked for. -/
structure Ends (scene : Scene) (session : Session) (calls : List HostCall) : Prop where
  stage : scene.stage = .finished session none
  last : scene.output.getLast? = some .theEnd
  shows : scene.output.filterMap Display.call? = calls

theorem Ends.after (ends : scene.Ends session later) {printed : List Display}
    (shows : printed.filterMap Display.call? = calls) :
    (after printed scene).Ends session (calls ++ later) where
  stage := ends.stage
  last := by
    rw [output_after, List.getLast?_append, ends.last]
    rfl
  shows := by rw [output_after, List.filterMap_append, shows, ends.shows]

end Scene

section Replay

variable {session left : Session} {h : σ} {shown next : Presentation} {calls : List HostCall}

open Scene (follow display status after markerLimit)

end Replay

end Narrative
