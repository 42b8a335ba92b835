import Narrative.Proofs.Running

/-!
# Logging changes nothing

A debug filter decides which notes become log lines. A session that logs through a filter does what
it does when everything is logged, and logs what the filter keeps of the lines.

This is one law for turns and for parts of a run (`Turn.Clear`, `Run.Clear`): setting the filter
first comes to the same as setting it afterwards and dropping lines. It holds of the primitive turns,
since each note is filtered alone (`LogFilter.lines_eq_filter`), and it passes through sequences.
Where what comes next depends on the director or on the session, it must not depend on the filter.

Results:
* `Request.clear`, `undo?_logging`: the law for requests and for undoing;
* `rounds_through`: the law for runs;
* **`logging_changes_nothing`**: series of operations of a director, and of calls and runs of a
  session, under any filter.
-/

namespace Narrative

/-! ## Directors -/

/-- The director with another filter. -/
def Director.logging (director : Director) (filter : LogFilter) : Director :=
  { director with filter }

/-- What a director does under another filter that it does with everything logged. -/
def Logged.through (filter : LogFilter) (moved : Logged Director) : Logged Director :=
  ⟨moved.value.logging filter, moved.log.filter filter.keeps⟩

/-- The verbose filter keeps all lines. -/
@[simp] theorem LogFilter.keeps_verbose (line : LogLine) : verbose.keeps line = true := by
  unfold keeps
  cases line.source <;> simp

namespace Director

variable (director : Director) (filter : LogFilter)

theorem dispatch_logging (action : Action) :
    (director.logging filter).dispatch action =
      ((director.logging .verbose).dispatch action).through filter := by
  unfold dispatch Logged.through
  exact congrArg (Logged.mk _) (filter.lines_eq_filter _)

theorem resolveLog_logging :
    (director.logging filter).resolveLog =
      (director.logging .verbose).resolveLog.filter filter.keeps := by
  change (director.script.resolveNote? director.state).elim [] filter.lines =
    ((director.script.resolveNote? director.state).elim [] LogFilter.verbose.lines).filter
      filter.keeps
  cases director.script.resolveNote? director.state with
  | none => rfl
  | some note => exact filter.lines_eq_filter note

theorem resolveBranch?_logging :
    (director.logging filter).resolveBranch? =
      ((director.logging .verbose).resolveBranch?).map (Logged.through filter) := by
  have hresolve : ∀ other, (director.logging other).resolveBranch? =
      (director.script.resolve? director.state).map fun action =>
        ⟨((director.logging other).dispatch action).value,
          (director.logging other).resolveLog ++ ((director.logging other).dispatch action).log⟩ :=
    fun _ => rfl
  rw [hresolve, hresolve]
  cases director.script.resolve? director.state with
  | none => rfl
  | some action =>
    simp only [Option.map_some, director.dispatch_logging filter action,
      director.resolveLog_logging filter, Logged.through, List.filter_append]

/-- An operation of a director. -/
inductive Operation
  /-- apply an action -/
  | act (action : Action)
  /-- resolve the current step if it is a branch -/
  | resolve
  deriving DecidableEq

/-- What a director does; nothing if there is no branch to resolve. -/
def perform (director : Director) : Operation → Option (Logged Director)
  | .act action => some (director.dispatch action)
  | .resolve => director.resolveBranch?

/-- What a director does in a series of operations. -/
def performAll (director : Director) : List Operation → List (Option (Logged Director))
  | [] => []
  | operation :: operations =>
    director.perform operation ::
      ((director.perform operation).elim director Logged.value).performAll operations

theorem perform_logging (operation : Operation) :
    (director.logging filter).perform operation =
      ((director.logging .verbose).perform operation).map (Logged.through filter) := by
  cases operation with
  | act action => exact congrArg some (director.dispatch_logging filter action)
  | resolve => exact director.resolveBranch?_logging filter

theorem performAll_logging (operations : List Operation) :
    (director.logging filter).performAll operations =
      ((director.logging .verbose).performAll operations).map
        (Option.map (Logged.through filter)) := by
  induction operations generalizing director with
  | nil => rfl
  | cons operation operations ih =>
    have hself := director.perform_logging .verbose operation
    unfold performAll
    rw [director.perform_logging filter operation, List.map_cons]
    cases hmoved : (director.logging .verbose).perform operation with
    | none => exact congrArg (none :: ·) (ih director)
    | some moved =>
      -- what the director has come to still logs everything
      rw [hmoved] at hself
      have hverbose : moved.value = moved.value.logging .verbose :=
        congrArg Logged.value (Option.some.inj hself)
      have hrest := ih moved.value
      rw [← hverbose] at hrest
      exact congrArg (some (moved.through filter) :: ·) hrest

end Director

/-! ## Turns -/

/-- The session with another filter. -/
def Session.logging (session : Session) (filter : LogFilter) : Session :=
  { session with director := session.director.logging filter }

/-- What is replied through another filter if this is replied with everything logged. -/
def Reply.through {α : Type} (filter : LogFilter) (reply : Reply α) : Reply α :=
  ⟨reply.outcome, reply.session.logging filter, reply.log.filter filter.keeps⟩

namespace Turn

variable {α β : Type}

/-- **The law of turns.** Through a filter a turn does what it does with everything logged. -/
def Clear (turn : Turn α) : Prop :=
  ∀ session filter, turn (Session.logging session filter) =
    (turn (session.logging .verbose)).through filter

theorem clear_pure (a : α) : Clear (pure a : Turn α) := fun _ _ => rfl

theorem clear_refuse (error : SessionError) : Clear (refuse error : Turn α) := fun _ _ => rfl

theorem clear_remember : Clear remember := fun _ _ => rfl

theorem clear_noteHost (text : String) : Clear (noteHost text) := by
  intro session filter
  exact congrArg (Reply.mk _ _) (filter.lines_eq_filter _)

theorem clear_move (action : Action) : Clear (move (·.dispatch action)) := by
  intro session filter
  exact congrArg (Reply.mk _ _) (filter.lines_eq_filter _)

theorem resolveBranch_of_none {session : Session} (h : session.director.resolveBranch? = none) :
    resolveBranch session = ⟨.ok false, session, []⟩ := by
  unfold resolveBranch
  rw [h]

theorem resolveBranch_of_some {session : Session} {moved : Logged Director}
    (h : session.director.resolveBranch? = some moved) :
    resolveBranch session = ⟨.ok true, { session with director := moved.value }, moved.log⟩ := by
  unfold resolveBranch
  rw [h]

theorem clear_resolveBranch : Clear resolveBranch := by
  intro session filter
  have hresolve : (session.logging filter).director.resolveBranch? =
      ((session.logging .verbose).director.resolveBranch?).map (Logged.through filter) :=
    session.director.resolveBranch?_logging filter
  cases hverbose : (session.logging .verbose).director.resolveBranch? with
  | none =>
    rw [hverbose] at hresolve
    rw [resolveBranch_of_none hresolve, resolveBranch_of_none hverbose]
    rfl
  | some moved =>
    rw [hverbose] at hresolve
    rw [resolveBranch_of_some hresolve, resolveBranch_of_some hverbose]
    rfl

/-- A clear turn leaves the filter alone. -/
theorem Clear.logging_session {turn : Turn α} (clear : Clear turn) (session : Session) :
    (turn (session.logging .verbose)).session.logging .verbose =
      (turn (session.logging .verbose)).session :=
  (congrArg Reply.session (clear session .verbose)).symm

/-- **The law passes through sequences.** -/
theorem clear_bind {turn : Turn α} {next : α → Turn β} (clear : Clear turn)
    (clearNext : ∀ a, Clear (next a)) : Clear (turn >>= next) := by
  intro session filter
  have hself := clear.logging_session session
  have hturn := clear session filter
  change Turn.bind turn next (session.logging filter) =
    (Turn.bind turn next (session.logging .verbose)).through filter
  unfold Turn.bind
  rw [hturn]
  cases hreply : turn (session.logging .verbose) with
  | mk outcome left log =>
    cases outcome with
    | error error => rfl
    | ok a =>
      rw [hreply] at hself
      have hnext := clearNext a left filter
      rw [show left.logging .verbose = left from hself] at hnext
      change Reply.mk _ _ (_ ++ _) = _
      rw [hnext]
      exact congrArg (Reply.mk _ _) (List.filter_append ..).symm

/-- What comes after a look at the director has to be the same under all filters. -/
theorem clear_director {next : Director → Turn β} (clearNext : ∀ director, Clear (next director))
    (blind : ∀ director filter, next (Director.logging director filter) = next director) :
    Clear (director >>= next) := by
  intro session filter
  have hlook : ∀ session, (director >>= next) session = next session.director session :=
    fun _ => rfl
  have hblind : ∀ other, next (session.logging other).director = next session.director :=
    blind session.director
  rw [hlook, hlook, hblind, hblind]
  exact clearNext session.director session filter

end Turn

/-! ## Operations of sessions -/

namespace Session

theorem clear_settleWithin (start : Position) (budget : Nat) :
    (settleWithin start budget).Clear := by
  induction budget with
  | zero =>
    refine Turn.clear_director (fun director => ?_) fun _ _ => rfl
    split
    · exact Turn.clear_refuse _
    · exact Turn.clear_pure ()
  | succ budget ih =>
    refine Turn.clear_bind Turn.clear_resolveBranch fun resolved => ?_
    cases resolved with
    | true => exact ih
    | false => exact Turn.clear_pure ()

theorem clear_settle : settle.Clear := fun session filter =>
  clear_settleWithin session.position (session.script.length + 1) session filter

theorem clear_present : present.Clear :=
  Turn.clear_bind clear_settle fun _ =>
    Turn.clear_director (fun _ => Turn.clear_pure _) fun _ _ => rfl

/-- Storing the state and then acting on it. -/
theorem clear_remember_move (action : Action) :
    Turn.Clear (do Turn.remember; Turn.move (·.dispatch action); present) :=
  Turn.clear_bind Turn.clear_remember fun _ =>
    Turn.clear_bind (Turn.clear_move action) fun _ => clear_present

theorem clear_proceed : proceed.Clear := by
  refine Turn.clear_bind clear_settle fun _ => ?_
  refine Turn.clear_director (fun director => ?_) fun _ _ => rfl
  cases director.current with
  | say _ _ | startGame _ => exact clear_remember_move .advance
  | goto next => exact clear_remember_move (.goto next)
  | finish | branch _ _ => exact clear_present
  | choice _ _ | awaitResult _ => exact Turn.clear_bind (Turn.clear_refuse _) fun _ => clear_present

theorem clear_choose (index : Nat) : (choose index).Clear := by
  refine Turn.clear_bind clear_settle fun _ => ?_
  refine Turn.clear_director (fun director => ?_) fun _ _ => rfl
  cases chosen director index with
  | error error => exact Turn.clear_refuse error
  | ok next =>
    exact Turn.clear_bind (Turn.clear_noteHost _) fun _ => clear_remember_move (.goto next)

theorem clear_report (result : GameResult) : (report result).Clear := by
  refine Turn.clear_bind clear_settle fun _ => ?_
  refine Turn.clear_director (fun director => ?_) fun _ _ => rfl
  split
  · refine Turn.clear_bind (Turn.clear_noteHost _) fun _ => ?_
    refine Turn.clear_bind Turn.clear_remember fun _ => ?_
    refine Turn.clear_bind (Turn.clear_move (.setResult result)) fun _ => ?_
    exact Turn.clear_bind (Turn.clear_move .advance) fun _ => clear_present
  · exact Turn.clear_refuse _

/-- What is noted when a session goes back to a snapshot. -/
def undoNote (session : Session) (snapshot : State) : Note :=
  ⟨.host, .debug, s!"[Undo] {session.position.text} -> {snapshot.position.text}"⟩

/-- Undoing logs its note, and then what is logged while the restored session is shown. -/
theorem undo?_of_pop {session : Session} {snapshot : State} {older : History}
    (h : session.history.pop? = some (snapshot, older)) :
    session.undo? = some { present (session.restored snapshot) with
      log := session.director.filter.lines (session.undoNote snapshot) ++
        (present (session.restored snapshot)).log } := by
  unfold undo? restored History.older
  rw [h]
  rfl

theorem undo?_logging (session : Session) (filter : LogFilter) :
    (session.logging filter).undo? =
      ((session.logging .verbose).undo?).map (Reply.through filter) := by
  cases hpop : session.history.pop? with
  | none =>
    have hnone : ∀ other, (session.logging other).undo? = none :=
      fun other => congrArg (Option.map _) hpop
    rw [hnone, hnone]
    rfl
  | some popped =>
    have hsome : ∀ other, (session.logging other).undo? =
        some { present ((session.restored popped.1).logging other) with
          log := other.lines (session.undoNote popped.1) ++
            (present ((session.restored popped.1).logging other)).log } :=
      fun other => @undo?_of_pop (session.logging other) popped.1 popped.2 hpop
    rw [hsome, hsome, clear_present (session.restored popped.1) filter, filter.lines_eq_filter]
    refine congrArg some (congrArg (Reply.mk _ _) ?_)
    exact (List.filter_append ..).symm

end Session

/-- **The law holds of every request.** -/
theorem Request.clear (request : Request) : request.turn.Clear := by
  cases request with
  | present => exact Session.clear_present
  | proceed => exact Session.clear_proceed
  | choose index => exact Session.clear_choose index
  | report result => exact Session.clear_report result

/-! ## Runs -/

/-- What happens through another filter if this happens with everything logged. -/
def RunEvent.through (filter : LogFilter) : RunEvent → RunEvent
  | .presented reply => .presented (reply.through filter)
  | .proceeded reply => .proceeded (reply.through filter)
  | .chose index reply => .chose index (reply.through filter)
  | .reported result reply => .reported result (reply.through filter)
  | .called call => .called call

@[simp] theorem RunEvent.call?_through (filter : LogFilter) (event : RunEvent) :
    (event.through filter).call? = event.call? := by
  cases event <;> rfl

variable {σ : Type}

/-- How far a run has come through another filter if it has come here with everything logged. -/
def Progress.through (filter : LogFilter) (progress : Progress σ) : Progress σ :=
  { progress with
    session := progress.session.logging filter
    events := progress.events.map (RunEvent.through filter)
    log := progress.log.filter filter.keeps }

/-- A run makes the same requests of the host through all filters. -/
theorem Progress.calls_through (filter : LogFilter) (progress : Progress σ) :
    (progress.through filter).calls = progress.calls := by
  unfold calls through
  rw [Array.filterMap_map]
  exact congrArg (Array.filterMap · _) (funext (RunEvent.call?_through filter))

/-- All that has happened in a run was logged. -/
def Progress.Verbose (progress : Progress σ) : Prop := progress.through .verbose = progress

theorem Progress.note_through (filter : LogFilter) (progress : Progress σ) (level : LogLevel)
    (text : String) :
    (progress.note level text).through filter = (progress.through filter).note level text := by
  have hkept : (progress.log.push ⟨.runner, level, text⟩).filter filter.keeps =
      (progress.log.filter filter.keeps).push ⟨.runner, level, text⟩ :=
    Array.filter_push_of_pos rfl (Array.size_push _)
  unfold note through
  rw [hkept]

namespace Run

variable {α β : Type}

/-- **The law of runs.** Through a filter a part of a run does what it does with everything
logged. -/
def Clear (part : Run σ α) : Prop :=
  ∀ progress, Progress.Verbose progress → ∀ filter,
    part (progress.through filter) = ((part progress).1, (part progress).2.through filter)

theorem clear_pure (a : α) : Clear (pure a : Run σ α) := fun _ _ _ => rfl

theorem clear_fail (error : RunError) : Clear (fail error : Run σ α) := fun _ _ _ => rfl

theorem clear_rest (outcome : RunOutcome) : Clear (rest outcome : Run σ α) := fun _ _ _ => rfl

theorem clear_count : Clear (count : Run σ Unit) := fun _ _ _ => rfl

/-- The runner's own lines pass every filter. -/
theorem clear_log (level : LogLevel) (text : String) : Clear (log level text : Run σ Unit) :=
  fun progress _ filter => congrArg (Prod.mk _) (progress.note_through filter level text).symm

theorem clear_finish : Clear (finish : Run σ Unit) := fun progress _ filter =>
  congrArg (Prod.mk _) (progress.note_through filter .info progress.finishedText).symm

theorem clear_request (call : HostCall) (ask : σ → α × σ) : Clear (request call ask) := by
  intro progress _ filter
  unfold request Progress.through
  simp [RunEvent.through]

theorem clear_answered (answer : Except String α) : Clear (answered answer : Run σ α) := by
  cases answer with
  | ok a => exact clear_pure a
  | error message => exact clear_fail (.host message)

theorem turn_eq (event : Reply Presentation → RunEvent) (turn : Turn Presentation)
    (progress : Progress σ) :
    Run.turn event turn progress =
      ((turn progress.session).outcome.mapError fun error => .error (.session error),
        { progress with
          session := (turn progress.session).session
          events := progress.events.push (event (turn progress.session))
          log := progress.log ++ (turn progress.session).log }) := by
  unfold Run.turn
  cases hreply : (turn progress.session).outcome <;> simp [hreply, Except.mapError]

/-- A turn is told of with its reply. -/
theorem clear_turn {event : Reply Presentation → RunEvent} {turn : Turn Presentation}
    (tells : ∀ filter reply, (event reply).through filter = event (reply.through filter))
    (clear : turn.Clear) : Clear (Run.turn event turn : Run σ Presentation) := by
  intro progress verbose filter
  have hturn := clear progress.session filter
  rw [show progress.session.logging .verbose = progress.session from
    congrArg Progress.session verbose] at hturn
  have hsession : (progress.through filter).session = progress.session.logging filter := rfl
  rw [turn_eq, turn_eq, hsession, hturn]
  generalize turn progress.session = reply
  refine Prod.ext rfl ?_
  have hevents : (progress.through filter).events.push (event (reply.through filter)) =
      (progress.events.push (event reply)).map (RunEvent.through filter) := by
    rw [Array.map_push, tells]
    rfl
  have hlog : (progress.through filter).log ++ (reply.through filter).log =
      (progress.log ++ reply.log).filter filter.keeps := by
    apply Array.toList_inj.mp
    simp [Progress.through, Reply.through]
  dsimp only
  rw [hevents, hlog]
  rfl

/-- A clear part that starts with everything logged ends with everything logged. -/
theorem Clear.verbose {part : Run σ α} (clear : Clear part) {progress : Progress σ}
    (verbose : progress.Verbose) : (part progress).2.Verbose := by
  have hself := clear progress verbose .verbose
  rw [verbose] at hself
  exact (congrArg Prod.snd hself).symm

/-- **The law passes through sequences.** -/
theorem clear_bind {part : Run σ α} {next : α → Run σ β} (clear : Clear part)
    (clearNext : ∀ a, Clear (next a)) : Clear (part >>= next) := by
  intro progress verbose filter
  have hpart := clear progress verbose filter
  have hafter := clear.verbose verbose
  cases hresult : part progress with
  | mk outcome after =>
    rw [hresult] at hpart hafter
    cases outcome with
    | error ended => rw [bind_of_error hpart, bind_of_error hresult]
    | ok a =>
      rw [bind_of_ok hpart, bind_of_ok hresult]
      exact clearNext a after hafter filter

/-- What comes after a look at the session has to be the same under all filters. -/
theorem clear_session {next : Session → Run σ β} (clearNext : ∀ session, Clear (next session))
    (blind : ∀ session filter, next (Session.logging session filter) = next session) :
    Clear (session >>= next) := by
  intro progress verbose filter
  have hlook : ∀ progress : Progress σ, (session >>= next) progress =
    next progress.session progress := fun _ => rfl
  have hblind : next (progress.through filter).session = next progress.session :=
    blind progress.session filter
  rw [hlook, hlook, hblind]
  exact clearNext progress.session progress verbose filter

end Run

/-! ## Rounds -/

variable (host : Host σ) (config : RunConfig)

theorem clear_play (game : Game) : (play host config game).Clear := by
  refine Run.clear_bind (Run.clear_request _ _) fun answer => ?_
  split
  · exact Run.clear_bind (Run.clear_log _ _) fun _ => Run.clear_answered _
  · exact Run.clear_answered _

theorem clear_playAwaited (game : Game) : (playAwaited host config game).Clear := by
  refine Run.clear_bind (clear_play host config game) fun result => ?_
  cases result with
  | some result =>
    refine Run.clear_bind (Run.clear_log _ _) fun _ => ?_
    refine Run.clear_bind ?_ fun _ => Run.clear_pure ()
    exact Run.clear_turn (fun _ _ => rfl) (Session.clear_report result)
  | none =>
    refine Run.clear_session (fun session => ?_) fun _ _ => rfl
    exact Run.clear_bind (Run.clear_log _ _) fun _ => Run.clear_rest _

theorem clear_handle (shown : Presentation) : (handle host config shown).Clear := by
  have hproceed : Run.Clear (Run.turn .proceeded Session.proceed : Run σ Presentation) :=
    Run.clear_turn (fun _ _ => rfl) Session.clear_proceed
  cases shown with
  | ended => exact Run.clear_pure ()
  | dialogue speaker text =>
    refine Run.clear_bind (Run.clear_request _ _) fun answer => ?_
    refine Run.clear_bind (Run.clear_answered answer) fun _ => ?_
    exact Run.clear_bind hproceed fun _ => Run.clear_pure ()
  | choice prompt options =>
    refine Run.clear_bind (Run.clear_request _ _) fun answer => ?_
    refine Run.clear_bind (Run.clear_answered answer) fun index => ?_
    refine Run.clear_bind (Run.clear_log _ _) fun _ => ?_
    refine Run.clear_bind ?_ fun _ => Run.clear_pure ()
    exact Run.clear_turn (fun _ _ => rfl) (Session.clear_choose index)
  | mountGame game =>
    refine Run.clear_session (fun session => ?_) fun _ _ => rfl
    refine Run.clear_bind hproceed fun _ => ?_
    refine Run.clear_session (fun session => ?_) fun _ _ => rfl
    dsimp only
    split
    · exact clear_playAwaited host config game
    · exact Run.clear_fail _
  | awaitingResult var =>
    exact Run.clear_session (fun session => Run.clear_fail _) fun _ _ => rfl
  | jump next => exact Run.clear_bind hproceed fun _ => Run.clear_pure ()

theorem clear_openRound : Run.Clear (openRound : Run σ Presentation) := by
  refine Run.clear_bind (Run.clear_turn (fun _ _ => rfl) Session.clear_present) fun shown => ?_
  split
  · exact Run.clear_bind Run.clear_finish fun _ => Run.clear_pure shown
  · exact Run.clear_pure shown

theorem clear_round : (round host config).Clear := by
  refine Run.clear_bind clear_openRound fun shown => ?_
  exact Run.clear_bind Run.clear_count fun _ => clear_handle host config shown

variable {host config}

/-- The law passes to the rounds that follow. -/
theorem carryOn_through {α : Type} {part : Run σ α} {next : α → Progress σ → RunEnd × Progress σ}
    {progress : Progress σ} (clear : part.Clear) (verbose : progress.Verbose) (filter : LogFilter)
    (hnext : ∀ a after, after.Verbose →
      next a (after.through filter) = ((next a after).1, (next a after).2.through filter)) :
    carryOn next (part (progress.through filter)) =
      ((carryOn next (part progress)).1, (carryOn next (part progress)).2.through filter) := by
  have hpart := clear progress verbose filter
  have hafter := clear.verbose verbose
  rw [hpart]
  cases hresult : part progress with
  | mk outcome after =>
    rw [hresult] at hafter
    cases outcome with
    | error ended => rfl
    | ok a => exact hnext a after hafter

/-- **The law holds of rounds**, however many there are. -/
theorem rounds_through (host : Host σ) (config : RunConfig) (budget : Nat) {progress : Progress σ}
    (verbose : progress.Verbose) (filter : LogFilter) :
    rounds host config budget (progress.through filter) =
      ((rounds host config budget progress).1,
        (rounds host config budget progress).2.through filter) := by
  induction budget generalizing progress with
  | zero => exact carryOn_through clear_openRound verbose filter fun _ _ _ => rfl
  | succ budget ih =>
    exact carryOn_through (clear_round host config) verbose filter fun _ _ hafter => ih hafter

theorem Session.run_logging (session : Session) (host : Host σ) (start : σ) (config : RunConfig)
    (filter : LogFilter) :
    (session.logging filter).run host start config =
      (((session.logging .verbose).run host start config).1,
        ((session.logging .verbose).run host start config).2.through filter) := by
  have hstart : ∀ other, Progress.through other ⟨session.logging .verbose, start, 0, #[], #[]⟩ =
      ⟨session.logging other, start, 0, #[], #[]⟩ := by
    intro other
    simp [Progress.through, logging, Director.logging]
  have hrounds := rounds_through host config config.maxTransitions (hstart .verbose) filter
  rw [hstart] at hrounds
  exact hrounds

/-! ## What can be observed of a session -/

/-- What can be done with a session. -/
inductive Deed : Type 1
  /-- call it -/
  | call (call : Call)
  /-- run it against a host -/
  | run {σ : Type} (host : Host σ) (start : σ) (config : RunConfig)

/-- What comes back. -/
inductive Response : Type 1
  /-- the answer to a call, if it has one -/
  | answered (answer : Option (Except SessionError Presentation))
  /-- how a run ended, the requests it made of the host, and the state it left the host in -/
  | ended {σ : Type} (ended : RunEnd) (calls : Array HostCall) (host : σ)

/-- What comes back, the session that is left with its state and its history, and the lines that
are logged. -/
structure Observation : Type 1 where
  response : Response
  session : Session
  log : List LogLine

namespace Observation

/-- What is observed of a run. -/
def ofRun (run : RunEnd × Progress σ) : Observation :=
  ⟨.ended run.1 run.2.calls run.2.host, run.2.session, run.2.log.toList⟩

/-- What is observed through another filter if this is observed with everything logged. -/
def through (filter : LogFilter) (observation : Observation) : Observation :=
  { observation with
    session := observation.session.logging filter
    log := observation.log.filter filter.keeps }

theorem ofRun_through (filter : LogFilter) (ended : RunEnd) (progress : Progress σ) :
    ofRun (ended, progress.through filter) = (ofRun (ended, progress)).through filter := by
  have hlog : (progress.through filter).log.toList =
      progress.log.toList.filter filter.keeps := Array.toList_filter ..
  unfold ofRun through
  rw [progress.calls_through, hlog]
  rfl

end Observation

namespace Session

/-- The reply to a call, if it has one. -/
def reply? (session : Session) : Call → Option (Reply Presentation)
  | .ask request => some (request.turn session)
  | .undo => session.undo?

/-- Do something with a session. -/
def observe (session : Session) : Deed → Observation
  | .call call =>
    ⟨.answered (session.answer call), session.after call, (session.reply? call).elim [] Reply.log⟩
  | .run host start config => .ofRun (session.run host start config)

/-- Do several things with a session, one after another. -/
def observeAll (session : Session) : List Deed → List Observation
  | [] => []
  | deed :: deeds => session.observe deed :: (session.observe deed).session.observeAll deeds

theorem reply?_logging (session : Session) (filter : LogFilter) (call : Call) :
    (session.logging filter).reply? call =
      ((session.logging .verbose).reply? call).map (Reply.through filter) := by
  cases call with
  | ask request => exact congrArg some (request.clear session filter)
  | undo => exact session.undo?_logging filter

/-- What is observed of a call is read off its reply. -/
theorem observe_call (session : Session) (call : Call) :
    session.observe (.call call) =
      { response := .answered ((session.reply? call).map Reply.outcome)
        session := (session.reply? call).elim session Reply.session
        log := (session.reply? call).elim [] Reply.log } := by
  cases call <;> rfl

/-- **One deed** is observed alike through all filters. -/
theorem observe_logging (session : Session) (filter : LogFilter) (deed : Deed) :
    (session.logging filter).observe deed =
      ((session.logging .verbose).observe deed).through filter := by
  cases deed with
  | call call =>
    rw [observe_call, observe_call, session.reply?_logging filter]
    cases (session.logging .verbose).reply? call <;> rfl
  | run host start config =>
    refine (congrArg Observation.ofRun (session.run_logging host start config filter)).trans ?_
    exact Observation.ofRun_through filter _ _

theorem observeAll_logging (session : Session) (filter : LogFilter) (deeds : List Deed) :
    (session.logging filter).observeAll deeds =
      ((session.logging .verbose).observeAll deeds).map (Observation.through filter) := by
  induction deeds generalizing session with
  | nil => rfl
  | cons deed deeds ih =>
    have hself : ((session.logging .verbose).observe deed).session.logging .verbose =
        ((session.logging .verbose).observe deed).session :=
      (congrArg Observation.session (session.observe_logging .verbose deed)).symm
    have hrest := ih ((session.logging .verbose).observe deed).session
    rw [hself] at hrest
    unfold observeAll
    rw [session.observe_logging filter deed]
    exact congrArg (_ :: ·) hrest

end Session

/-- **Logging changes nothing, and filters are exact.** Under any filter, a director and a session
do what they do when everything is logged: a series of operations, of calls and of runs brings back
the same, with the same requests of hosts, and leaves the same states and histories. Only the filter
of what is left is another one, and of the lines logged those are left out that the filter does not
keep. It keeps all but the notes whose category and level it does not allow. -/
theorem logging_changes_nothing (filter : LogFilter) :
    (∀ (director : Director) (operations : List Director.Operation),
      (director.logging filter).performAll operations =
        ((director.logging .verbose).performAll operations).map
          (Option.map (Logged.through filter))) ∧
    (∀ (session : Session) (deeds : List Deed),
      (session.logging filter).observeAll deeds =
        ((session.logging .verbose).observeAll deeds).map (Observation.through filter)) ∧
    ∀ line : LogLine, filter.keeps line = true ↔
      ∀ category, line.source = .note category → filter.allows category line.level = true := by
  refine ⟨fun director => director.performAll_logging filter,
    fun session => session.observeAll_logging filter, fun line => ?_⟩
  unfold LogFilter.keeps
  cases line.source <;> simp

/-- A branch is logged twice, when it is resolved and when its arm is entered. A filter can keep the
first of these lines only. -/
example :
    let session : Session := { director.script := ⟨[.branch .lastResult .empty, .finish]⟩ }
    let sources (filter : LogFilter) :=
      ((session.logging filter).observe (.call (.ask .present))).log.map LogLine.source
    sources .verbose = [.note .flow, .note .engine] ∧
      sources ⟨true, .info, .ofList [.flow]⟩ = [.note .flow] := by
  decide

end Narrative
