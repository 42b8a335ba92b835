import Narrative.Proofs.Undo
import Narrative.Runner

/-!
# The rounds of a run

What a run can do, said once; everything else about runs is derived from it. A run is told by its
events: turns of the session and requests made of the host. They determine where the run stands
(`RunPoint.after`), so neither the session nor the host is tracked beside them. Lines logged are
left out.

`Handled` has one constructor for each way a step can be handled, with the events and what stops
the run, if anything does. `Round` puts the presentation in front, `Closing` are the ways a run can
end, and `Ran` strings rounds together until one of them. `Running.lean` shows that runs are of this
form.

Results:
* `Ran.exists_closing`: a run goes through rounds (`Onward`) and is then closed;
* **`Ran.exists_round`**: the round an event belongs to;
* `Ran.faithful`: the turns told of are turns of the session as it is then;
* `Onward.exists_requests`: rounds are a series of requests made of the session.
-/

namespace Narrative

/-! ## Events -/

/-- What happens when a session is asked for something. -/
def Request.event : Request → Reply Presentation → RunEvent
  | .present => .presented
  | .proceed => .proceeded
  | .choose index => .chose index
  | .report result => .reported result

/-- The session is asked for something, and replies. -/
def Session.asked (session : Session) (request : Request) : RunEvent :=
  request.event (request.turn session)

/-- What the session is asked for in an event, if it is asked for something. -/
def RunEvent.request? : RunEvent → Option Request
  | .presented _ => some .present
  | .proceeded _ => some .proceed
  | .chose index _ => some (.choose index)
  | .reported result _ => some (.report result)
  | .called _ => none

@[simp] theorem Session.request?_asked (session : Session) (request : Request) :
    (session.asked request).request? = some request := by
  cases request <;> rfl

/-- An event in which the session is asked for something tells what it is asked for. -/
theorem RunEvent.request?_of_asked {event : RunEvent} {session : Session} {request : Request}
    (h : event = session.asked request) : event.request? = some request := by
  rw [h, Session.request?_asked]

/-- The state of a host after a request was made of it. -/
def Host.serve {σ : Type} (host : Host σ) (h : σ) : HostCall → σ
  | .line speaker text => (host.showLine speaker text h).2
  | .choose prompt options => (host.choose prompt options h).2
  | .game game => (host.playGame game h).2

/-- What a host is asked for where it has to answer before the session goes on, what the session is
then asked for, and the next state of the host. A line that was shown is continued. -/
def Host.consult? {σ : Type} (host : Host σ) (h : σ) :
    Presentation → Option (HostCall × Except String Request × σ)
  | .dialogue speaker text =>
    some (.line speaker text, (host.showLine speaker text h).1.map fun _ => .proceed,
      (host.showLine speaker text h).2)
  | .choice prompt options =>
    some (.choose prompt options, (host.choose prompt options h).1.map .choose,
      (host.choose prompt options h).2)
  | _ => none

section

variable {σ : Type} {host : Host σ} {h h' : σ} {shown : Presentation} {call : HostCall}
  {answer : Except String Request}

/-- A host is consulted about a line or a choice that is shown. -/
theorem Host.consult_cases (consulted : host.consult? h shown = some (call, answer, h')) :
    (∃ speaker text, shown = .dialogue speaker text ∧ call = .line speaker text ∧
        answer = (host.showLine speaker text h).1.map fun _ => .proceed) ∨
      ∃ prompt options, shown = .choice prompt options ∧ call = .choose prompt options ∧
        answer = (host.choose prompt options h).1.map .choose := by
  cases shown with
  | dialogue speaker text =>
    obtain ⟨rfl, hrest⟩ := Prod.mk.inj (Option.some.inj consulted)
    exact Or.inl ⟨speaker, text, rfl, rfl, (Prod.mk.inj hrest).1.symm⟩
  | choice prompt options =>
    obtain ⟨rfl, hrest⟩ := Prod.mk.inj (Option.some.inj consulted)
    exact Or.inr ⟨prompt, options, rfl, rfl, (Prod.mk.inj hrest).1.symm⟩
  | _ => exact absurd consulted (by simp [consult?])

/-- Hosts are not consulted about games. -/
theorem Host.ne_game_of_consult (game : Game)
    (consulted : host.consult? h shown = some (call, answer, h')) : call ≠ .game game := by
  obtain ⟨_, _, -, rfl, -⟩ | ⟨_, _, -, rfl, -⟩ := consult_cases consulted
  · exact HostCall.noConfusion
  · exact HostCall.noConfusion

/-- A host that is consulted lets the session continue or chooses. -/
theorem Host.request_of_consult {request : Request}
    (consulted : host.consult? h shown = some (call, .ok request, h')) :
    request = .proceed ∨ ∃ index, request = .choose index := by
  obtain ⟨speaker, text, -, -, hanswer⟩ | ⟨prompt, options, -, -, hanswer⟩ :=
    consult_cases consulted
  · cases hshown : (host.showLine speaker text h).1 with
    | error message => simp [hshown, Except.map] at hanswer
    | ok shown => exact Or.inl (by simpa [hshown, Except.map] using hanswer)
  · cases hindex : (host.choose prompt options h).1 with
    | error message => simp [hindex, Except.map] at hanswer
    | ok index => exact Or.inr ⟨index, by simpa [hindex, Except.map] using hanswer⟩

end

/-- Where a run stands: the session and the state of the host. -/
structure RunPoint (σ : Type) where
  session : Session
  host : σ

namespace RunPoint

variable {σ : Type}

/-- Where a run stands after an event. -/
def next (host : Host σ) (point : RunPoint σ) : RunEvent → RunPoint σ
  | .presented reply | .proceeded reply | .chose _ reply | .reported _ reply =>
    { point with session := reply.session }
  | .called call => { point with host := host.serve point.host call }

/-- Where a run stands after several events. -/
def after (host : Host σ) (point : RunPoint σ) (events : List RunEvent) : RunPoint σ :=
  events.foldl (next host) point

variable (host : Host σ) (point : RunPoint σ)

@[simp] theorem after_nil : point.after host [] = point := rfl

@[simp] theorem after_cons (event : RunEvent) (events : List RunEvent) :
    point.after host (event :: events) = (point.next host event).after host events := rfl

@[simp] theorem after_append (events later : List RunEvent) :
    point.after host (events ++ later) = (point.after host events).after host later :=
  List.foldl_append

@[simp] theorem next_asked (session : Session) (request : Request) :
    point.next host (session.asked request) =
      { point with session := session.after (.ask request) } := by
  cases request <;> rfl

/-- Where a run stands once it has presented the current step. -/
def presented (point : RunPoint σ) : RunPoint σ :=
  { point with session := point.session.after (.ask .present) }

@[simp] theorem session_presented :
    point.presented.session = point.session.after (.ask .present) := by
  rw [presented]

@[simp] theorem host_presented : point.presented.host = point.host := by
  rw [presented]

@[simp] theorem next_presented :
    point.next host (point.session.asked .present) = point.presented :=
  next_asked host point point.session .present

@[simp] theorem next_called (call : HostCall) :
    point.next host (.called call) = { point with host := host.serve point.host call } := rfl

end RunPoint

/-! ## Rounds -/

/-- How a run ends, without its summary. -/
abbrev RunStop := Except RunError RunOutcome

/-- The end of a run by a request that the session refuses. -/
def Session.refusal? (session : Session) (request : Request) : Option RunStop :=
  match (request.turn session).outcome with
  | .ok _ => none
  | .error error => some (.error (.session error))

/-- What a refused request stops a run with. -/
theorem Session.refusal?_eq_some {session : Session} {request : Request} {stop : RunStop}
    (h : session.refusal? request = some stop) :
    ∃ error, session.answer (.ask request) = some (.error error) ∧
      stop = .error (.session error) := by
  unfold refusal? at h
  cases hanswer : (request.turn session).outcome with
  | ok shown =>
    rw [hanswer] at h
    exact absurd h (by simp)
  | error error =>
    rw [hanswer] at h
    exact ⟨error, Session.answer_ask_iff.mpr hanswer, (Option.some.inj h).symm⟩

variable {σ : Type}

/-- The session waits for the result of a game that it has just mounted. -/
def Session.Waits (session : Session) : Prop :=
  (∃ shown, session.answer (.ask .proceed) = some (.ok shown)) ∧
    (session.after (.ask .proceed)).director.current.kind = .awaitResult

/-- **The ways a step can be handled**, with what happens and what stops the run, if anything. -/
inductive Handled (host : Host σ) (config : RunConfig) (point : RunPoint σ) :
    Presentation → List RunEvent → Option RunStop → Prop
  /-- the host fails to show a line or to choose -/
  | failed {shown : Presentation} {call : HostCall} {message : String} {h : σ}
      (consulted : host.consult? point.host shown = some (call, .error message, h)) :
      Handled host config point shown [.called call] (some (.error (.host message)))
  /-- the host shows a line or chooses, and the session goes on accordingly -/
  | answered {shown : Presentation} {call : HostCall} {request : Request} {h : σ}
      (consulted : host.consult? point.host shown = some (call, .ok request, h)) :
      Handled host config point shown [.called call, point.session.asked request]
        (point.session.refusal? request)
  /-- a jump is followed -/
  | jumped {next : Position} :
      Handled host config point (.jump next) [point.session.asked .proceed]
        (point.session.refusal? .proceed)
  /-- the session cannot go on to where it would wait for the game -/
  | unmounted {game : Game} {error : SessionError}
      (refused : point.session.answer (.ask .proceed) = some (.error error)) :
      Handled host config point (.mountGame game) [point.session.asked .proceed]
        (some (.error (.session error)))
  /-- the session goes on to a step where it does not wait for the game -/
  | missing {game : Game} {shown : Presentation}
      (proceeded : point.session.answer (.ask .proceed) = some (.ok shown))
      (found : (point.session.after (.ask .proceed)).director.current.kind ≠ .awaitResult) :
      Handled host config point (.mountGame game) [point.session.asked .proceed]
        (some (.error (.missingSuspension game point.session.position
          (point.session.after (.ask .proceed)).director.current.kind)))
  /-- the host fails to play the game -/
  | unplayed {game : Game} {message : String} (waits : point.session.Waits)
      (ended : config.effective (host.playGame game point.host).1 = .error message) :
      Handled host config point (.mountGame game)
        [point.session.asked .proceed, .called (.game game)] (some (.error (.host message)))
  /-- the game ends without a result -/
  | abandoned {game : Game} (waits : point.session.Waits)
      (ended : config.effective (host.playGame game point.host).1 = .ok none) :
      Handled host config point (.mountGame game)
        [point.session.asked .proceed, .called (.game game)] (some (.ok (.abandoned game)))
  /-- the game ends with a result, which is reported -/
  | reported {game : Game} {result : GameResult} (waits : point.session.Waits)
      (ended : config.effective (host.playGame game point.host).1 = .ok (some result)) :
      Handled host config point (.mountGame game)
        [point.session.asked .proceed, .called (.game game),
          (point.session.after (.ask .proceed)).asked (.report result)]
        ((point.session.after (.ask .proceed)).refusal? (.report result))
  /-- the session waits for a game that was not mounted -/
  | unawaited {var : Variable} :
      Handled host config point (.awaitingResult var) []
        (some (.error (.nothingMounted point.session.position)))

/-- **A round**: a step that is no end is presented and handled. -/
inductive Round (host : Host σ) (config : RunConfig) (point : RunPoint σ) :
    List RunEvent → Option RunStop → Prop
  | intro {shown : Presentation} {events : List RunEvent} {stop : Option RunStop}
      (shows : point.session.answer (.ask .present) = some (.ok shown)) (lasts : shown ≠ .ended)
      (handled : Handled host config point.presented shown events stop) :
      Round host config point (point.session.asked .present :: events) stop

/-- **The ways a run can end**, with the steps rendered. -/
inductive Closing (host : Host σ) (config : RunConfig) (point : RunPoint σ) :
    Nat → List RunEvent → Nat → RunStop → Prop
  /-- the session cannot present a step -/
  | refused {budget : Nat} {error : SessionError}
      (refused : point.session.answer (.ask .present) = some (.error error)) :
      Closing host config point budget [point.session.asked .present] 0 (.error (.session error))
  /-- the end is presented -/
  | finished {budget : Nat} (shows : point.session.answer (.ask .present) = some (.ok .ended)) :
      Closing host config point budget [point.session.asked .present] 0 (.ok .finished)
  /-- a step that is no end is presented, but the budget is used up -/
  | exhausted {shown : Presentation}
      (shows : point.session.answer (.ask .present) = some (.ok shown)) (lasts : shown ≠ .ended) :
      Closing host config point 0 [point.session.asked .present] 0
        (.error (.transitionLimit config.maxTransitions))
  /-- the run stops where a step is handled -/
  | stopped {budget : Nat} {events : List RunEvent} {stop : RunStop}
      (round : Round host config point events (some stop)) :
      Closing host config point (budget + 1) events 1 stop

/-- **What a run does** within a budget: rounds, and a way to end. -/
inductive Ran (host : Host σ) (config : RunConfig) :
    Nat → RunPoint σ → List RunEvent → Nat → RunStop → Prop
  | closing {budget n : Nat} {point : RunPoint σ} {events : List RunEvent} {stop : RunStop}
      (closing : Closing host config point budget events n stop) :
      Ran host config budget point events n stop
  | onward {budget n : Nat} {point : RunPoint σ} {events later : List RunEvent} {stop : RunStop}
      (round : Round host config point events none)
      (ran : Ran host config budget (point.after host events) later n stop) :
      Ran host config (budget + 1) point (events ++ later) (n + 1) stop

/-! ## Where an event stands in a run -/

/-- A run goes through `n` rounds. -/
inductive Onward (host : Host σ) (config : RunConfig) :
    Nat → RunPoint σ → List RunEvent → Prop
  | start {point : RunPoint σ} : Onward host config 0 point []
  | round {n : Nat} {point : RunPoint σ} {events later : List RunEvent}
      (round : Round host config point events none)
      (onward : Onward host config n (point.after host events) later) :
      Onward host config (n + 1) point (events ++ later)

variable {host : Host σ} {config : RunConfig} {budget n : Nat} {point : RunPoint σ}
  {events : List RunEvent} {stop : RunStop}

/-- A run goes through rounds and is then closed. -/
theorem Ran.exists_closing (ran : Ran host config budget point events n stop) :
    ∃ m k earlier last budget', Onward host config m point earlier ∧
      Closing host config (point.after host earlier) budget' last k stop ∧
      events = earlier ++ last ∧ budget = budget' + m ∧ n = k + m := by
  induction ran with
  | closing closing => exact ⟨0, _, [], _, _, .start, closing, rfl, rfl, rfl⟩
  | @onward budget n point events later stop round _ ih =>
    obtain ⟨m, k, earlier, last, budget', honward, hclosing, rfl, rfl, rfl⟩ := ih
    rw [← RunPoint.after_append] at hclosing
    exact ⟨m + 1, k, events ++ earlier, last, budget', .round round honward, hclosing,
      (List.append_assoc ..).symm, rfl, rfl⟩

/-- Every run starts by presenting the current step. -/
theorem Ran.exists_cons (ran : Ran host config budget point events n stop) :
    ∃ later, events = point.session.asked .present :: later := by
  have hround : ∀ {point : RunPoint σ} {events : List RunEvent} {stop : Option RunStop},
      Round host config point events stop →
        ∃ later, events = point.session.asked .present :: later := by
    rintro _ _ _ ⟨_, _, _⟩
    exact ⟨_, rfl⟩
  cases ran with
  | closing closing =>
    cases closing with
    | stopped round => exact hround round
    | _ => exact ⟨_, rfl⟩
  | onward round _ =>
    obtain ⟨later, rfl⟩ := hround round
    exact ⟨_, rfl⟩

/-- A place in a list is at its head or in its tail. -/
theorem split_cons {α : Type} {a b : α} {xs before after : List α}
    (h : before ++ b :: after = a :: xs) :
    (before = [] ∧ b = a ∧ after = xs) ∨ ∃ rest, before = a :: rest ∧ rest ++ b :: after = xs := by
  rcases List.append_eq_cons_iff.mp h with ⟨hbefore, hhead⟩ | ⟨rest, hbefore, hxs⟩
  · exact Or.inl ⟨hbefore, List.cons.inj hhead⟩
  · exact Or.inr ⟨rest, hbefore, hxs.symm⟩

/-- A place in two parts of a list is a place in the first or in the second. -/
theorem split_append {α : Type} {xs ys before after : List α} {a : α}
    (h : xs ++ ys = before ++ a :: after) :
    (∃ tail, xs = before ++ a :: tail ∧ after = tail ++ ys) ∨
      ∃ head, before = xs ++ head ∧ ys = head ++ a :: after := by
  rcases List.append_eq_append_iff.mp h with ⟨head, hbefore, hys⟩ | ⟨tail, hxs, htail⟩
  · exact Or.inr ⟨head, hbefore, hys⟩
  · rcases List.cons_eq_append_iff.mp htail with ⟨rfl, hys⟩ | ⟨rest, rfl, hafter⟩
    · exact Or.inr ⟨[], by rw [hxs, List.append_nil, List.append_nil], hys⟩
    · exact Or.inl ⟨rest, hxs, hafter⟩

/-- What happens in a round besides the presentation happens where the step is handled. -/
theorem Round.exists_handled {head tail : List RunEvent} {event : RunEvent} {stop : Option RunStop}
    (round : Round host config point (head ++ event :: tail) stop)
    (handles : ∀ reply, event ≠ .presented reply) :
    ∃ shown rest, head = point.session.asked .present :: rest ∧
      point.session.answer (.ask .present) = some (.ok shown) ∧ shown ≠ .ended ∧
      Handled host config point.presented shown (rest ++ event :: tail) stop := by
  generalize hevents : head ++ event :: tail = events at round
  obtain ⟨shows, lasts, handled⟩ := round
  rcases split_cons hevents with ⟨-, hevent, -⟩ | ⟨rest, hhead, rfl⟩
  · exact absurd hevent (handles _)
  · exact ⟨_, rest, hhead, shows, lasts, handled⟩

/-- Every turn told of is the turn of the session as it is then. -/
def RunPoint.Faithful (host : Host σ) (point : RunPoint σ) (events : List RunEvent) : Prop :=
  ∀ before event after request, events = before ++ event :: after →
    event.request? = some request → event = (point.after host before).session.asked request

theorem RunPoint.Faithful.append {later : List RunEvent} (first : point.Faithful host events)
    (second : (point.after host events).Faithful host later) :
    point.Faithful host (events ++ later) := by
  intro before event after request split asks
  rcases split_append split with ⟨tail, hfirst, -⟩ | ⟨head, rfl, hlater⟩
  · exact first before event tail request hfirst asks
  · rw [after_append]
    exact second head event after request hlater asks

theorem RunPoint.faithful_asked (host : Host σ) (point : RunPoint σ) (request : Request) :
    point.Faithful host [point.session.asked request] := by
  intro before event after other split asks
  rcases split_cons split.symm with ⟨rfl, hevent, -⟩ | ⟨rest, -, hnil⟩
  · obtain rfl : request = other :=
      Option.some.inj ((RunEvent.request?_of_asked hevent).symm.trans asks)
    exact hevent
  · exact absurd hnil (by simp)

theorem RunPoint.faithful_called (host : Host σ) (point : RunPoint σ) (call : HostCall) :
    point.Faithful host [.called call] := by
  intro before event after request split asks
  rcases split_cons split.symm with ⟨rfl, rfl, -⟩ | ⟨rest, -, hnil⟩
  · exact absurd asks.symm (Option.some_ne_none _)
  · exact absurd hnil (by simp)

theorem Handled.faithful {shown : Presentation} {stop : Option RunStop}
    (handled : Handled host config point shown events stop) : point.Faithful host events := by
  have hproceed : point.Faithful host [point.session.asked .proceed] :=
    RunPoint.faithful_asked host point .proceed
  cases handled with
  | @failed _ call _ _ _ => exact RunPoint.faithful_called host point call
  | @answered _ call request _ _ =>
    exact (RunPoint.faithful_called host point call).append
      (RunPoint.faithful_asked host (point.after host [.called call]) request)
  | jumped | unmounted _ | missing _ _ => exact hproceed
  | unplayed _ _ | abandoned _ _ => exact hproceed.append (RunPoint.faithful_called host _ _)
  | @reported game result _ _ =>
    have hplayed : point.Faithful host [point.session.asked .proceed, .called (.game game)] :=
      hproceed.append (RunPoint.faithful_called host _ _)
    refine hplayed.append ?_
    simpa using RunPoint.faithful_asked host
      (point.after host [point.session.asked .proceed, .called (.game game)]) (.report result)
  | unawaited =>
    intro before event after _ split
    exact absurd split.symm (by simp)

theorem Round.faithful {stop : Option RunStop} (round : Round host config point events stop) :
    point.Faithful host events := by
  obtain ⟨-, -, handled⟩ := round
  exact (RunPoint.faithful_asked host point .present).append handled.faithful

/-- **A run tells of the turns it takes**, and of no others. -/
theorem Ran.faithful (ran : Ran host config budget point events n stop) :
    point.Faithful host events := by
  induction ran with
  | @closing _ _ point _ _ closing =>
    cases closing with
    | stopped round => exact round.faithful
    | _ => exact RunPoint.faithful_asked host point .present
  | onward round _ ih => exact round.faithful.append ih

/-! ## The session in a run -/

@[simp] theorem Session.serve_nil (session : Session) : session.serve [] = session := rfl

theorem Session.serve_append (session : Session) (requests later : List Request) :
    session.serve (requests ++ later) = (session.serve requests).serve later := by
  unfold serve afterAll
  rw [List.map_append, List.foldl_append]

/-- A round is a series of requests made of the session. -/
theorem Round.exists_requests {stop : Option RunStop}
    (round : Round host config point events stop) :
    ∃ requests, (point.after host events).session = point.session.serve requests := by
  obtain ⟨-, -, handled⟩ := round
  cases handled with
  | failed _ => exact ⟨[.present], by simp⟩
  | @answered _ _ request _ _ => exact ⟨[.present, request], by simp⟩
  | jumped | unmounted _ | missing _ _ | unplayed _ _ | abandoned _ _ =>
    exact ⟨[.present, .proceed], by simp⟩
  | @reported _ result _ _ => exact ⟨[.present, .proceed, .report result], by simp⟩
  | unawaited => exact ⟨[.present], by simp⟩

/-- Rounds are a series of requests made of the session. -/
theorem Onward.exists_requests (onward : Onward host config n point events) :
    ∃ requests, (point.after host events).session = point.session.serve requests := by
  induction onward with
  | start => exact ⟨[], rfl⟩
  | round round _ ih =>
    obtain ⟨first, hfirst⟩ := round.exists_requests
    obtain ⟨rest, hrest⟩ := ih
    exact ⟨first ++ rest, by rw [RunPoint.after_append, hrest, hfirst, Session.serve_append]⟩

/-! ## The end of a run -/

/-- **What stops a run where a step is handled**, unless the session refuses or the host fails: a
game without a result, a start step that leads elsewhere, or a suspension point without a game. -/
theorem Handled.of_stop {shown : Presentation}
    (handled : Handled host config point shown events (some stop))
    (accepted : ∀ error, stop ≠ .error (.session error))
    (answers : ∀ message, stop ≠ .error (.host message)) :
    (∃ game, stop = .ok (.abandoned game) ∧ shown = .mountGame game ∧ point.session.Waits ∧
        events = [point.session.asked .proceed, .called (.game game)]) ∨
      (∃ game found, stop = .error (.missingSuspension game point.session.position found) ∧
        shown = .mountGame game ∧
        (point.session.after (.ask .proceed)).director.current.kind = found ∧
        found ≠ .awaitResult ∧ events = [point.session.asked .proceed]) ∨
      ∃ var, stop = .error (.nothingMounted point.session.position) ∧
        shown = .awaitingResult var ∧ events = [] := by
  have hrefusal : ∀ {session : Session} {request : Request},
      some stop ≠ session.refusal? request := by
    intro session request hstop
    obtain ⟨error, -, herror⟩ := Session.refusal?_eq_some hstop.symm
    exact accepted error herror
  generalize hstop : some stop = stop? at handled
  cases handled with
  | failed _ | unplayed _ _ => exact absurd (Option.some.inj hstop) (answers _)
  | answered _ | jumped | reported _ _ => exact absurd hstop hrefusal
  | unmounted _ => exact absurd (Option.some.inj hstop) (accepted _)
  | missing _ found =>
    exact Or.inr (Or.inl ⟨_, _, Option.some.inj hstop, rfl, rfl, found, rfl⟩)
  | abandoned waits _ => exact Or.inl ⟨_, Option.some.inj hstop, rfl, waits, rfl⟩
  | unawaited => exact Or.inr (Or.inr ⟨_, Option.some.inj hstop, rfl, rfl⟩)

/-- What stops a run where a step is handled is not the end. -/
theorem Handled.ne_finished {shown : Presentation} {stop : Option RunStop}
    (handled : Handled host config point shown events stop) : stop ≠ some (.ok .finished) := by
  rintro rfl
  simpa using handled.of_stop (by simp) (by simp)

/-- A run is finished where the end is presented. -/
theorem Closing.of_finished (closing : Closing host config point budget events n stop)
    (finished : stop = .ok .finished) :
    point.session.answer (.ask .present) = some (.ok .ended) ∧
      events = [point.session.asked .present] := by
  cases closing with
  | finished shows => exact ⟨shows, rfl⟩
  | refused _ => exact absurd finished (by simp)
  | exhausted _ _ => exact absurd finished (by simp)
  | stopped round =>
    obtain ⟨-, -, handled⟩ := round
    exact absurd (congrArg some finished) handled.ne_finished

/-- What stops a run other than the end, the budget and the session stops it where a step is
handled. -/
theorem Closing.exists_handled (closing : Closing host config point budget events n stop)
    (lasts : stop ≠ .ok .finished) (within : ∀ limit, stop ≠ .error (.transitionLimit limit))
    (accepted : ∀ error, stop ≠ .error (.session error)) :
    ∃ shown rest, point.session.answer (.ask .present) = some (.ok shown) ∧
      Handled host config point.presented shown rest (some stop) ∧
      events = point.session.asked .present :: rest := by
  cases closing with
  | finished _ => exact absurd rfl lasts
  | refused _ => exact absurd rfl (accepted _)
  | exhausted _ _ => exact absurd rfl (within _)
  | stopped round =>
    obtain ⟨shows, -, handled⟩ := round
    exact ⟨_, _, shows, handled, rfl⟩

/-- A run comes to rest without its end where a game ends without a result. -/
theorem Handled.of_abandoned {shown : Presentation} {game : Game}
    (handled : Handled host config point shown events (some (.ok (.abandoned game)))) :
    shown = .mountGame game ∧ point.session.Waits ∧
      events = [point.session.asked .proceed, .called (.game game)] := by
  simpa using handled.of_stop (by simp) (by simp)

/-- A run misses a suspension point where a step that mounts a game leads to another step. -/
theorem Handled.of_missing {shown : Presentation} {game : Game} {position : Position}
    {found : StepKind}
    (handled : Handled host config point shown events
      (some (.error (.missingSuspension game position found)))) :
    shown = .mountGame game ∧ point.session.position = position ∧
      (point.session.after (.ask .proceed)).director.current.kind = found ∧
      found ≠ .awaitResult ∧ events = [point.session.asked .proceed] := by
  obtain ⟨_, h, -⟩ | ⟨_, _, h, rfl, hfound, hother, rfl⟩ | ⟨_, h, -⟩ :=
    handled.of_stop (by simp) (by simp)
  · exact absurd h (by simp)
  · obtain ⟨rfl, rfl, rfl⟩ : game = _ ∧ position = _ ∧ found = _ := by simpa using h
    exact ⟨rfl, rfl, hfound, hother, rfl⟩
  · exact absurd h (by simp)

/-- A run finds nothing mounted where a suspension point is presented. -/
theorem Handled.of_nothingMounted {shown : Presentation} {position : Position}
    (handled : Handled host config point shown events (some (.error (.nothingMounted position)))) :
    ∃ var, shown = .awaitingResult var ∧ point.session.position = position ∧ events = [] := by
  obtain ⟨_, h, -⟩ | ⟨_, _, h, -⟩ | ⟨var, h, rfl, rfl⟩ := handled.of_stop (by simp) (by simp)
  · exact absurd h (by simp)
  · exact absurd h (by simp)
  · obtain rfl : position = _ := by simpa using h
    exact ⟨var, rfl, rfl, rfl⟩

end Narrative
