import Narrative.Proofs.Branches
import Narrative.Session

/-!
# Calls of a session

A host calls a session in two ways: it makes a `Request` (show, continue, choose, report), or it
undoes. This file takes the turns that serve requests apart, up to the decision in their middle.
Lines logged are left out (`Reply.result`): no outcome and no session depends on them.

Every turn settles, decides on the settled step (`Request.verdict`: refuse, stay, or go to another
state) and acts on the decision.

Results:
* **`result_settle_of_endless`**, **`result_settle_of_not_endless`**: settling is refused on endless
  chains of branches, and leads to the end of all others;
* **`result_request`**: a request does what is decided on the settled session;
* `Request.verdict_eq_go_iff`: the ways a request can go somewhere (`Director.Goes`).
-/

namespace Narrative

/-! ## Calls -/

/-- What a host can ask of a session. -/
inductive Request
  /-- show the current step -/
  | present
  /-- continue -/
  | proceed
  /-- pick an option -/
  | choose (index : Nat)
  /-- report a game's result -/
  | report (result : GameResult)
  deriving DecidableEq

/-- The turn that serves a request. -/
def Request.turn : Request → Turn Presentation
  | .present => Session.present
  | .proceed => Session.proceed
  | .choose index => Session.choose index
  | .report result => Session.report result

/-- A call of a session. -/
inductive Call
  /-- make a request -/
  | ask (request : Request)
  /-- go back to the newest snapshot -/
  | undo
  deriving DecidableEq

namespace Session

/-- What a call answers; nothing if there is nothing to undo. -/
def answer (session : Session) : Call → Option (Except SessionError Presentation)
  | .ask request => some (request.turn session).outcome
  | .undo => session.undo?.map Reply.outcome

/-- The session a call leaves. -/
def after (session : Session) : Call → Session
  | .ask request => (request.turn session).session
  | .undo => session.undo?.elim session Reply.session

/-- The session after several calls. -/
def afterAll (session : Session) (calls : List Call) : Session := calls.foldl after session

/-- What several calls answer. -/
def answers (session : Session) : List Call → List (Option (Except SessionError Presentation))
  | [] => []
  | call :: calls => session.answer call :: (session.after call).answers calls

/-- The script of the session. -/
def script (session : Session) : Script := session.director.script

/-- The session in another state. -/
def withState (session : Session) (state : State) : Session :=
  { session with director := { session.director with state } }

/-- The session with one more snapshot. -/
def remembering (session : Session) (snapshot : State) : Session :=
  { session with history := session.history.push snapshot }

/-- The session after settling. -/
def rested (session : Session) : Session :=
  session.withState (session.script.settled session.state)

/-- What the session shows of its current step. -/
def shown (session : Session) : Presentation := .ofStep session.director.current

variable (session : Session)

@[simp] theorem withState_self : session.withState session.state = session := rfl

@[simp] theorem state_rested :
    session.rested.state = session.script.settled session.state := rfl

@[simp] theorem script_rested : session.rested.script = session.script := rfl

@[simp] theorem history_rested : session.rested.history = session.history := rfl

@[simp] theorem afterAll_cons (call : Call) (calls : List Call) :
    session.afterAll (call :: calls) = (session.after call).afterAll calls := rfl

/-- What a request is answered is the outcome of its turn. -/
theorem answer_ask_iff {session : Session} {request : Request}
    {outcome : Except SessionError Presentation} :
    session.answer (.ask request) = some outcome ↔ (request.turn session).outcome = outcome :=
  ⟨Option.some.inj, congrArg some⟩

theorem session_turn (session : Session) (request : Request) :
    (request.turn session).session = session.after (.ask request) := rfl

theorem answers_append (calls later : List Call) :
    session.answers (calls ++ later) =
      session.answers calls ++ (session.afterAll calls).answers later := by
  induction calls generalizing session with
  | nil => rfl
  | cons call calls ih => exact congrArg (session.answer call :: ·) (ih (session.after call))

/-- What several calls answer is answered by one of them. -/
theorem exists_call_of_mem_answers {session : Session} {calls : List Call}
    {answer : Option (Except SessionError Presentation)} (h : answer ∈ session.answers calls) :
    ∃ earlier call, (session.afterAll earlier).answer call = answer := by
  induction calls generalizing session with
  | nil => exact absurd h List.not_mem_nil
  | cons call calls ih =>
    rcases List.mem_cons.mp h with rfl | h
    · exact ⟨[], call, rfl⟩
    · obtain ⟨earlier, later, hanswer⟩ := ih h
      exact ⟨call :: earlier, later, hanswer⟩

end Session

/-! ## Turns without their log -/

/-- The outcome of a turn and the session it leaves. -/
def Reply.result {α : Type} (reply : Reply α) : Except SessionError α × Session :=
  (reply.outcome, reply.session)

namespace Turn

variable {α β : Type}

/-- One turn after another: the second starts where the first ended, if that succeeded. -/
theorem result_bind (turn : Turn α) (next : α → Turn β) (session : Session) :
    ((turn >>= next) session).result =
      match (turn session).result with
      | (.ok a, left) => (next a left).result
      | (.error error, left) => (.error error, left) := by
  change (Turn.bind turn next session).result = _
  unfold Turn.bind Reply.result
  rcases turn session with ⟨_ | _, left, log⟩ <;> rfl

theorem result_bind_ok {turn : Turn α} {next : α → Turn β} {session left : Session} {a : α}
    (h : (turn session).result = (.ok a, left)) :
    ((turn >>= next) session).result = (next a left).result := by
  rw [result_bind, h]

theorem result_bind_error {turn : Turn α} {next : α → Turn β} {session left : Session}
    {error : SessionError} (h : (turn session).result = (.error error, left)) :
    ((turn >>= next) session).result = (.error error, left) := by
  rw [result_bind, h]

@[simp] theorem result_director (session : Session) :
    (director session).result = (.ok session.director, session) := rfl

@[simp] theorem result_noteHost (text : String) (session : Session) :
    (noteHost text session).result = (.ok (), session) := rfl

@[simp] theorem result_remember (session : Session) :
    (remember session).result = (.ok (), session.remembering session.state) := rfl

/-- Moving the director applies an action to the state. -/
@[simp] theorem result_move_dispatch (action : Action) (session : Session) :
    (move (·.dispatch action) session).result =
      (.ok (), session.withState (action.apply session.state)) := rfl

/-- Resolving a branch moves to the next state of its chain and says whether there was one. -/
theorem result_resolveBranch (session : Session) :
    (resolveBranch session).result =
      (.ok (decide (session.script.OnBranch session.state)),
        session.withState (session.script.resolved session.state)) := by
  unfold resolveBranch Director.resolveBranch?
  cases h : session.director.script.resolve? session.director.state with
  | none =>
    have hrest : ¬ session.script.OnBranch session.state := Script.resolve?_eq_none_iff.mp h
    rw [decide_eq_false hrest, Script.resolved_of_not_onBranch hrest]
    rfl
  | some action =>
    have hon : session.script.OnBranch session.state :=
      Script.resolve?_isSome_iff.mp (Option.isSome_iff_exists.mpr ⟨action, h⟩)
    have hnext : session.script.resolved session.state = action.apply session.state :=
      Script.resolved_of_resolve? h
    rw [decide_eq_true hon, hnext]
    rfl

end Turn

/-! ## Settling -/

namespace Session

variable {session : Session}

/-- Settling within a budget follows the chain that far. -/
theorem result_settleWithin (start : Position) (budget : Nat) (session : Session) :
    (settleWithin start budget session).result =
      (if session.script.OnBranch (session.script.resolved^[budget] session.state)
        then .error (.branchCycle start) else .ok (),
        session.withState (session.script.resolved^[budget] session.state)) := by
  induction budget generalizing session with
  | zero =>
    unfold settleWithin
    rw [Turn.result_bind_ok (Turn.result_director session), Function.iterate_zero_apply,
      withState_self]
    by_cases h : session.script.OnBranch session.state
    · rw [if_pos h, if_pos (show session.director.current.kind = .branch from h)]
      rfl
    · rw [if_neg h, if_neg (show ¬ session.director.current.kind = .branch from h)]
      rfl
  | succ budget ih =>
    unfold settleWithin
    rw [Turn.result_bind_ok (Turn.result_resolveBranch session), Function.iterate_succ_apply]
    by_cases h : session.script.OnBranch session.state
    · rw [if_pos (decide_eq_true h), ih]
      rfl
    · rw [if_neg (by simpa using h), Script.resolved_of_not_onBranch h,
        Script.iterate_resolved_of_not_onBranch h, if_neg h]
      rfl

/-- Settling an endless chain is refused, somewhere on it. -/
theorem result_settle_of_endless (h : session.script.Endless session.state) :
    (settle session).result = (.error (.branchCycle session.position), session.rested) := by
  unfold settle
  rw [result_settleWithin]
  exact congrArg (·, _) (if_pos (Script.onBranch_settled_iff.mpr h))

/-- Settling any other state leads to the end of its chain. -/
theorem result_settle_of_not_endless (h : ¬ session.script.Endless session.state) :
    (settle session).result = (.ok (), session.rested) := by
  unfold settle
  rw [result_settleWithin]
  exact congrArg (·, _) (if_neg (Script.not_onBranch_settled h))

theorem result_present_of_not_endless (h : ¬ session.script.Endless session.state) :
    (present session).result = (.ok session.rested.shown, session.rested) :=
  Turn.result_bind_ok (result_settle_of_not_endless h)

/-- A session that has settled rests. -/
theorem not_onBranch_rested (h : ¬ session.script.Endless session.state) :
    ¬ session.script.OnBranch session.rested.state :=
  Script.not_onBranch_settled h

theorem rested_of_not_onBranch (h : ¬ session.script.OnBranch session.state) :
    session.rested = session := by
  unfold rested
  rw [Script.settled_of_not_onBranch h, withState_self]

theorem rested_rested (h : ¬ session.script.Endless session.state) :
    session.rested.rested = session.rested :=
  rested_of_not_onBranch (not_onBranch_rested h)

end Session

/-! ## Decisions -/

/-- What is decided about a request on a settled state. -/
inductive Verdict
  | refuse (error : SessionError)
  | stay
  | go (next : State)

namespace Verdict

/-- Jump to the target of a picked option. -/
def ofChosen (state : State) : Except SessionError Position → Verdict
  | .error error => .refuse error
  | .ok next => .go ((Action.goto next).apply state)

/-- The decision taken as a turn, with the state stored before it is left. -/
def turn : Verdict → Turn Presentation
  | .refuse error => Turn.refuse error
  | .stay => Session.present
  | .go next => fun session => Session.present ((session.remembering session.state).withState next)

end Verdict

/-- The decision about a request on a settled state. -/
def Request.verdict (director : Director) : Request → Verdict
  | .present => .stay
  | .proceed =>
    match director.current with
    | .say .. | .startGame .. => .go (Action.advance.apply director.state)
    | .goto next => .go ((Action.goto next).apply director.state)
    | .finish | .branch .. => .stay
    | .choice .. => .refuse (.choiceRequired director.position)
    | .awaitResult .. => .refuse (.resultRequired director.position)
  | .choose index => .ofChosen director.state (Session.chosen director index)
  | .report result =>
    if director.current.kind = .awaitResult then
      .go (Action.advance.apply ((Action.setResult result).apply director.state))
    else .refuse (.notAwaitingResult director.position director.current.kind)

/-- **The ways a request can go somewhere.** -/
inductive Director.Goes (director : Director) : Request → State → Prop
  /-- dialogue and game markers are continued -/
  | advance (passes : director.current.kind = .say ∨ director.current.kind = .startGame) :
      director.Goes .proceed (Action.advance.apply director.state)
  /-- a jump is followed -/
  | jump {next : Position} (jumps : director.current = .goto next) :
      director.Goes .proceed ((Action.goto next).apply director.state)
  /-- an option is picked -/
  | pick {prompt : String} {options : List ChoiceOption} {index : Nat} {option : ChoiceOption}
      (offers : director.current = .choice prompt options)
      (offered : options[index]? = some option) :
      director.Goes (.choose index) ((Action.goto option.next).apply director.state)
  /-- a result is recorded, and the suspension point left -/
  | record {result : GameResult} (waits : director.current.kind = .awaitResult) :
      director.Goes (.report result)
        (Action.advance.apply ((Action.setResult result).apply director.state))

/-- A decision is to go where one of the ways leads. -/
theorem Request.verdict_eq_go_iff {director : Director} {request : Request} {next : State} :
    request.verdict director = .go next ↔ director.Goes request next := by
  constructor
  · intro h
    cases request with
    | present => exact absurd h (by simp [verdict])
    | proceed =>
      unfold verdict at h
      cases hstep : director.current with
      | say speaker text =>
        obtain rfl : Action.advance.apply director.state = next := by simpa [hstep] using h
        exact .advance (Or.inl (by rw [hstep]; rfl))
      | startGame game =>
        obtain rfl : Action.advance.apply director.state = next := by simpa [hstep] using h
        exact .advance (Or.inr (by rw [hstep]; rfl))
      | goto target =>
        obtain rfl : (Action.goto target).apply director.state = next := by simpa [hstep] using h
        exact .jump hstep
      | _ => simp [hstep] at h
    | choose index =>
      unfold verdict Session.chosen at h
      cases hstep : director.current with
      | choice prompt options =>
        cases hoption : options[index]? with
        | none => simp [hstep, hoption, Verdict.ofChosen] at h
        | some option =>
          obtain rfl : (Action.goto option.next).apply director.state = next := by
            simpa [hstep, hoption, Verdict.ofChosen] using h
          exact .pick hstep hoption
      | _ => simp [hstep, Verdict.ofChosen] at h
    | report result =>
      unfold verdict at h
      simp only at h
      split at h
      · rename_i hwaits
        obtain rfl : Action.advance.apply ((Action.setResult result).apply director.state) = next :=
          Verdict.go.inj h
        exact .record hwaits
      · exact absurd h (by simp)
  · intro h
    cases h with
    | advance passes =>
      unfold verdict
      cases hstep : director.current <;> simp [hstep, Step.kind] at passes <;> rfl
    | jump jumps => simp [verdict, jumps]
    | pick offers offered => simp [verdict, Session.chosen, offers, offered, Verdict.ofChosen]
    | record waits => exact if_pos waits

namespace Session

variable {session : Session}

/-- Storing the state and then acting on it is going where the action leads. -/
theorem result_remember_move (action : Action) (session : Session) :
    ((do Turn.remember; Turn.move (·.dispatch action); present) session).result =
      ((Verdict.go (action.apply session.state)).turn session).result := by
  refine (Turn.result_bind_ok (Turn.result_remember session)).trans ?_
  exact Turn.result_bind_ok (Turn.result_move_dispatch action _)

/-- No request is served on an endless chain. -/
theorem result_request_of_endless (request : Request) (h : session.script.Endless session.state) :
    (request.turn session).result = (.error (.branchCycle session.position), session.rested) := by
  have hsettle := result_settle_of_endless h
  cases request with
  | present => exact Turn.result_bind_error hsettle
  | proceed => exact Turn.result_bind_error hsettle
  | choose index => exact Turn.result_bind_error hsettle
  | report result => exact Turn.result_bind_error hsettle

/-- Elsewhere a request settles, decides and acts on the decision. -/
theorem result_request (request : Request) (h : ¬ session.script.Endless session.state) :
    (request.turn session).result =
      ((request.verdict session.rested.director).turn session.rested).result := by
  have hsettle := result_settle_of_not_endless h
  cases request with
  | present =>
    change (present session).result = (present session.rested).result
    have hrested : ¬ session.rested.script.Endless session.rested.state := by simpa using h
    rw [result_present_of_not_endless h, result_present_of_not_endless hrested, rested_rested h]
  | proceed =>
    unfold Request.turn proceed Request.verdict
    simp only
    rw [Turn.result_bind_ok hsettle, Turn.result_bind_ok (Turn.result_director session.rested)]
    cases session.rested.director.current with
    | say speaker text => exact result_remember_move .advance session.rested
    | startGame game => exact result_remember_move .advance session.rested
    | goto next => exact result_remember_move (.goto next) session.rested
    | finish => rfl
    | branch var arms => rfl
    | choice prompt options => rfl
    | awaitResult var => rfl
  | choose index =>
    unfold Request.turn choose Request.verdict
    simp only
    rw [Turn.result_bind_ok hsettle, Turn.result_bind_ok (Turn.result_director session.rested)]
    cases chosen session.rested.director index with
    | error error => rfl
    | ok next =>
      refine (Turn.result_bind_ok (Turn.result_noteHost _ session.rested)).trans ?_
      exact result_remember_move (.goto next) session.rested
  | report result =>
    unfold Request.turn report Request.verdict
    simp only
    rw [Turn.result_bind_ok hsettle, Turn.result_bind_ok (Turn.result_director session.rested)]
    split
    · refine (Turn.result_bind_ok (Turn.result_noteHost _ session.rested)).trans ?_
      refine (Turn.result_bind_ok (Turn.result_remember session.rested)).trans ?_
      refine (Turn.result_bind_ok (Turn.result_move_dispatch (.setResult result) _)).trans ?_
      exact Turn.result_bind_ok (Turn.result_move_dispatch .advance _)
    · rfl

end Session

end Narrative
