import Narrative.Proofs.Calls

/-!
# The course of a call

What a call can do, said once; everything else about sessions is derived from it. `Course` has one
constructor for each way a request can end. Before the decision the session settles, which may fail
in a cycle of branches; a session that goes somewhere stores a snapshot first and settles again
there, which may fail too. Undoing is showing a restored session.

Results:
* **`course`**: every request takes one of the courses;
* `undo_of_cons`: undoing takes the newest snapshot from the history and shows it;
* `setup_after`: no call changes the script, the log filter or the limit of the history;
* `history_after_ask`: accepted requests store the settled state, others leave the history alone;
* `ask_rested`: answers do not depend on pending branches.
-/

namespace Narrative

/-! ## Courses -/

namespace Session

/-- The session that leaves its settled state for another one. -/
def departed (session : Session) (next : State) : Session :=
  (session.rested.remembering session.rested.state).withState next

variable (session : Session) (next : State)

@[simp] theorem state_departed : (session.departed next).state = next := rfl

@[simp] theorem script_departed : (session.departed next).script = session.script := rfl

@[simp] theorem history_departed :
    (session.departed next).history = session.history.push session.rested.state := rfl

/-- A request settles and is decided by going to `next`. -/
def Departs (session : Session) (request : Request) (next : State) : Prop :=
  ¬ session.script.Endless session.state ∧ request.verdict session.rested.director = .go next

end Session

/-- **The ways a request can end.** -/
inductive Course (session : Session) (request : Request) : Prop
  /-- there is nothing to decide on: the branches go round -/
  | cycle (endless : session.script.Endless session.state)
      (answer : session.answer (.ask request) = some (.error (.branchCycle session.position)))
      (after : session.after (.ask request) = session.rested)
  /-- the request does not fit the current step -/
  | refused (rests : ¬ session.script.Endless session.state) (error : SessionError)
      (decided : request.verdict session.rested.director = .refuse error)
      (answer : session.answer (.ask request) = some (.error error))
      (after : session.after (.ask request) = session.rested)
  /-- the current step is shown -/
  | stayed (rests : ¬ session.script.Endless session.state)
      (decided : request.verdict session.rested.director = .stay)
      (answer : session.answer (.ask request) = some (.ok session.rested.shown))
      (after : session.after (.ask request) = session.rested)
  /-- another step is reached -/
  | moved (next : State) (departs : session.Departs request next)
      (onward : ¬ session.script.Endless next)
      (answer : session.answer (.ask request) = some (.ok (session.departed next).rested.shown))
      (after : session.after (.ask request) = (session.departed next).rested)
  /-- the session leaves its step and is caught in a cycle of branches -/
  | trapped (next : State) (departs : session.Departs request next)
      (endless : session.script.Endless next)
      (answer : session.answer (.ask request) = some (.error (.branchCycle next.position)))
      (after : session.after (.ask request) = (session.departed next).rested)

namespace Session

variable {session : Session}

theorem answer_of_result {request : Request} {outcome : Except SessionError Presentation}
    {left : Session} (h : (request.turn session).result = (outcome, left)) :
    session.answer (.ask request) = some outcome ∧ session.after (.ask request) = left :=
  ⟨congrArg some (congrArg Prod.fst h), congrArg Prod.snd h⟩

theorem ask_of_endless (request : Request) (h : session.script.Endless session.state) :
    session.answer (.ask request) = some (.error (.branchCycle session.position)) ∧
      session.after (.ask request) = session.rested :=
  answer_of_result (result_request_of_endless request h)

theorem ask_of_refuse {request : Request} {error : SessionError}
    (h : ¬ session.script.Endless session.state)
    (hdecided : request.verdict session.rested.director = .refuse error) :
    session.answer (.ask request) = some (.error error) ∧
      session.after (.ask request) = session.rested := by
  have hresult := result_request request h
  rw [hdecided] at hresult
  exact answer_of_result hresult

theorem ask_of_stay {request : Request} (h : ¬ session.script.Endless session.state)
    (hdecided : request.verdict session.rested.director = .stay) :
    session.answer (.ask request) = some (.ok session.rested.shown) ∧
      session.after (.ask request) = session.rested := by
  have hresult := result_request request h
  have hrested : ¬ session.rested.script.Endless session.rested.state := by simpa using h
  rw [hdecided, Verdict.turn, result_present_of_not_endless hrested, rested_rested h] at hresult
  exact answer_of_result hresult

/-- A request decided by going somewhere is as good as showing the session that went there. -/
theorem ask_of_departs {request : Request} {next : State} (h : session.Departs request next) :
    session.answer (.ask request) = (session.departed next).answer (.ask .present) ∧
      session.after (.ask request) = (session.departed next).after (.ask .present) := by
  have hresult := result_request request h.1
  rw [h.2] at hresult
  exact answer_of_result hresult

theorem present_of_not_endless (h : ¬ session.script.Endless session.state) :
    session.answer (.ask .present) = some (.ok session.rested.shown) ∧
      session.after (.ask .present) = session.rested :=
  ask_of_stay h rfl

/-- Off the branches, a session goes wherever its director does. -/
theorem departs_of_goes {request : Request} {next : State}
    (rests : ¬ session.script.OnBranch session.state) (h : session.director.Goes request next) :
    session.Departs request next := by
  refine ⟨Script.not_endless_of_not_onBranch rests, ?_⟩
  rw [rested_of_not_onBranch rests]
  exact Request.verdict_eq_go_iff.mpr h

/-- Going from one step that is no branch to another shows the step that is reached. -/
theorem ask_of_goes {request : Request} {next : State}
    (rests : ¬ session.script.OnBranch session.state) (h : session.director.Goes request next)
    (onward : ¬ session.script.OnBranch next) :
    session.answer (.ask request) = some (.ok (.ofStep (session.script.get next.position))) ∧
      session.after (.ask request) = session.departed next := by
  have hdeparted : (session.departed next).rested = session.departed next :=
    rested_of_not_onBranch onward
  obtain ⟨hanswer, hafter⟩ := ask_of_departs (departs_of_goes rests h)
  obtain ⟨hshown, hleft⟩ := @present_of_not_endless (session.departed next)
    (Script.not_endless_of_not_onBranch onward)
  rw [hanswer, hafter, hshown, hleft, hdeparted]
  exact ⟨rfl, rfl⟩

/-- **Every request takes one of the courses.** -/
theorem course (session : Session) (request : Request) : Course session request := by
  by_cases h : session.script.Endless session.state
  · obtain ⟨answer, after⟩ := ask_of_endless request h
    exact .cycle h answer after
  · cases hdecided : request.verdict session.rested.director with
    | refuse error =>
      obtain ⟨answer, after⟩ := ask_of_refuse h hdecided
      exact .refused h error hdecided answer after
    | stay =>
      obtain ⟨answer, after⟩ := ask_of_stay h hdecided
      exact .stayed h hdecided answer after
    | go next =>
      obtain ⟨answer, after⟩ := ask_of_departs ⟨h, hdecided⟩
      by_cases hnext : (session.departed next).script.Endless (session.departed next).state
      · obtain ⟨answer', after'⟩ := ask_of_endless .present hnext
        exact .trapped next ⟨h, hdecided⟩ hnext (answer.trans answer') (after.trans after')
      · obtain ⟨answer', after'⟩ := present_of_not_endless hnext
        exact .moved next ⟨h, hdecided⟩ hnext (answer.trans answer') (after.trans after')

/-! ## Undoing -/

end Session

/-- The history without its newest snapshot. -/
def History.older (history : History) : History := (history.pop?.map Prod.snd).getD history

@[simp] theorem History.snapshots_older (history : History) :
    history.older.snapshots = history.snapshots.tail := by
  unfold older
  cases h : history.pop? with
  | none =>
    have hnil := pop?_eq_none_iff.mp h
    rw [Option.map_none, Option.getD_none, hnil]
    rfl
  | some popped =>
    obtain ⟨hcons, -⟩ := pop?_eq_some_iff.mp (show history.pop? = some (popped.1, popped.2) from h)
    rw [hcons]
    rfl

@[simp] theorem History.limit_older (history : History) : history.older.limit = history.limit := by
  unfold older
  cases h : history.pop? with
  | none => rfl
  | some popped =>
    exact (pop?_eq_some_iff.mp (show history.pop? = some (popped.1, popped.2) from h)).2

/-- Storing the newest snapshot again gives the history back. -/
theorem History.push_older {history : History} {snapshot : State} {rest : List State}
    (h : history.snapshots = snapshot :: rest) : history.older.push snapshot = history := by
  have hroom := history.length_snapshots_le
  apply History.ext
  · rw [snapshots_push, snapshots_older, limit_older, h, List.tail_cons, ← h,
      List.take_of_length_le hroom]
  · rw [limit_push, limit_older]

namespace Session

variable {session : Session}

/-- The session with a snapshot restored that is taken from the history. -/
def restored (session : Session) (snapshot : State) : Session :=
  { session.withState snapshot with history := session.history.older }

@[simp] theorem state_restored (session : Session) (snapshot : State) :
    (session.restored snapshot).state = snapshot := rfl

@[simp] theorem script_restored (session : Session) (snapshot : State) :
    (session.restored snapshot).script = session.script := rfl

@[simp] theorem history_restored (session : Session) (snapshot : State) :
    (session.restored snapshot).history = session.history.older := rfl

/-- Without snapshots there is nothing to undo. -/
theorem undo_of_nil (h : session.history.snapshots = []) :
    session.answer .undo = none ∧ session.after .undo = session := by
  have hpop := History.pop?_eq_none_iff.mpr h
  unfold answer after undo?
  rw [hpop]
  exact ⟨rfl, rfl⟩

/-- An undo without an answer leaves the session as it was. -/
theorem after_undo_of_answer_eq_none (h : session.answer .undo = none) :
    session.after .undo = session := by
  have hundo : session.undo? = none := Option.map_eq_none_iff.mp h
  unfold after
  rw [hundo]
  rfl

/-- Undoing restores the newest snapshot and shows it. -/
theorem undo_of_cons {snapshot : State} {rest : List State}
    (h : session.history.snapshots = snapshot :: rest) :
    session.answer .undo = (session.restored snapshot).answer (.ask .present) ∧
      session.after .undo = (session.restored snapshot).after (.ask .present) := by
  cases hpop : session.history.pop? with
  | none =>
    rw [History.pop?_eq_none_iff.mp hpop] at h
    exact absurd h (by simp)
  | some popped =>
    obtain ⟨hcons, -⟩ :=
      History.pop?_eq_some_iff.mp (show session.history.pop? = some (popped.1, popped.2) from hpop)
    obtain rfl : popped.1 = snapshot := (List.cons.inj (hcons.symm.trans h)).1
    unfold answer after undo? restored History.older
    rw [hpop]
    exact ⟨rfl, rfl⟩

/-! ## What no call changes -/

/-- What is fixed when a session is made. -/
def setup (session : Session) : Script × LogFilter × Nat :=
  (session.script, session.director.filter, session.history.limit)

@[simp] theorem setup_rested (session : Session) : session.rested.setup = session.setup := rfl

@[simp] theorem setup_departed (session : Session) (next : State) :
    (session.departed next).setup = session.setup := by
  unfold setup
  rw [script_departed, history_departed, History.limit_push]
  rfl

@[simp] theorem setup_restored (session : Session) (snapshot : State) :
    (session.restored snapshot).setup = session.setup := by
  unfold setup
  rw [script_restored, history_restored, History.limit_older]
  rfl

/-- A request leaves the session settled, where it was or after going somewhere. -/
theorem after_ask (session : Session) (request : Request) :
    ((¬ ∃ next, session.Departs request next) ∧ session.after (.ask request) = session.rested) ∨
      ∃ next, session.Departs request next ∧
        session.after (.ask request) = (session.departed next).rested := by
  cases course session request with
  | cycle endless _ after =>
    refine Or.inl ⟨?_, after⟩
    rintro ⟨next, rests, -⟩
    exact rests endless
  | refused _ error decided _ after =>
    refine Or.inl ⟨?_, after⟩
    rintro ⟨next, -, hgo⟩
    exact absurd (decided.symm.trans hgo) (by simp)
  | stayed _ decided _ after =>
    refine Or.inl ⟨?_, after⟩
    rintro ⟨next, -, hgo⟩
    exact absurd (decided.symm.trans hgo) (by simp)
  | moved next departs _ _ after => exact Or.inr ⟨next, departs, after⟩
  | trapped next departs _ _ after => exact Or.inr ⟨next, departs, after⟩

/-- **No call changes the setup.** -/
@[simp] theorem setup_after (session : Session) (call : Call) :
    (session.after call).setup = session.setup := by
  have hask : ∀ (session : Session) (request : Request),
      (session.after (.ask request)).setup = session.setup := by
    intro session request
    rcases after_ask session request with ⟨-, h⟩ | ⟨next, -, h⟩
    · rw [h, setup_rested]
    · rw [h, setup_rested, setup_departed]
  cases call with
  | ask request => exact hask session request
  | undo =>
    cases h : session.history.snapshots with
    | nil => rw [(undo_of_nil h).2]
    | cons snapshot rest => rw [(undo_of_cons h).2, hask, setup_restored]

@[simp] theorem script_after (session : Session) (call : Call) :
    (session.after call).script = session.script :=
  congrArg Prod.fst (setup_after session call)

/-- Script, filter and state make the director. -/
theorem director_eq_of_setup {a b : Session} (hsetup : a.setup = b.setup)
    (hstate : a.state = b.state) : a.director = b.director := by
  obtain ⟨⟨script, state, filter⟩, history⟩ := a
  obtain ⟨⟨_, _, _⟩, other⟩ := b
  obtain ⟨hscript, hfilter⟩ := Prod.mk.inj hsetup
  cases hscript
  cases (Prod.mk.inj hfilter).1
  cases hstate
  rfl

@[simp] theorem limit_after (session : Session) (call : Call) :
    (session.after call).history.limit = session.history.limit :=
  congrArg (·.2.2) (setup_after session call)

@[simp] theorem setup_afterAll (session : Session) (calls : List Call) :
    (session.afterAll calls).setup = session.setup := by
  induction calls generalizing session with
  | nil => rfl
  | cons call calls ih => rw [afterAll_cons, ih, setup_after]

@[simp] theorem script_afterAll (session : Session) (calls : List Call) :
    (session.afterAll calls).script = session.script :=
  congrArg Prod.fst (setup_afterAll session calls)

@[simp] theorem limit_afterAll (session : Session) (calls : List Call) :
    (session.afterAll calls).history.limit = session.history.limit :=
  congrArg (·.2.2) (setup_afterAll session calls)

/-! ## Accepted requests -/

/-- The session with another history. -/
def withHistory (session : Session) (history : History) : Session := { session with history }

/-- A request is accepted if it stores a snapshot. A history that is empty and has room tells: it
does not stay empty. -/
def accepts (session : Session) (request : Request) : Bool :=
  ((session.withHistory (.empty 1)).after (.ask request)).canUndo

/-- Accepted is what is decided by going somewhere. -/
theorem accepts_iff {request : Request} :
    session.accepts request = true ↔ ∃ next, session.Departs request next := by
  unfold accepts canUndo
  rcases after_ask (session.withHistory (.empty 1)) request with ⟨hstays, h⟩ | ⟨next, departs, h⟩
  · rw [h]
    exact iff_of_false Bool.false_ne_true hstays
  · rw [h]
    exact iff_of_true rfl ⟨next, departs⟩

/-- **An accepted request stores the settled state, and no other request touches the history.** -/
theorem history_after_ask (session : Session) (request : Request) :
    (session.after (.ask request)).history =
      if session.accepts request then session.history.push session.rested.state
      else session.history := by
  rcases after_ask session request with ⟨hstays, h⟩ | ⟨next, departs, h⟩
  · rw [h, if_neg fun hc => hstays (accepts_iff.mp hc), history_rested]
  · rw [h, if_pos (accepts_iff.mpr ⟨next, departs⟩), history_rested, history_departed]

/-- Settling first makes no difference to a request. -/
theorem ask_rested (h : ¬ session.script.Endless session.state) (request : Request) :
    session.rested.answer (.ask request) = session.answer (.ask request) ∧
      session.rested.after (.ask request) = session.after (.ask request) := by
  have hrested : ¬ session.rested.script.Endless session.rested.state := by simpa using h
  have hresult := result_request request hrested
  rw [rested_rested h, ← result_request request h] at hresult
  exact answer_of_result hresult

end Session

end Narrative
