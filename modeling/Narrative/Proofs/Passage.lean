import Mathlib.Data.List.Chain
import Mathlib.Data.List.Iterate
import Narrative.Proofs.Snapshots

/-!
# The states a call passes

A call moves the director several times: settling resolves one branch after another, an accepted
request leaves the settled state, in two moves if a result is reported, and settles again. `passes`
lists the states the director is in, in order; at rest a state may be listed again.

* `passes_ends`: the list starts where the session is and ends where the call leaves it;
* `passed_route`: between two states that a request passes, the director resolves one branch or, off
  the branches, takes one action;
* `Keeps`: a property of states that no move breaks. `forall_passes` and `tended_after` are what
  follows for one call, **`tended_afterAll`** what follows for a run.
-/

namespace Narrative

/-! ## Chains as lists -/

namespace Script

variable {script : Script} {state : State}

/-- The states met on following branches as far as settling does. -/
def chain (script : Script) (state : State) : List State :=
  List.iterate script.resolved state (script.length + 2)

/-- One move of the director: it resolves a branch, or takes an action where there is none. -/
inductive Nudge (script : Script) : State → State → Prop
  | resolve (state : State) : Nudge script state (script.resolved state)
  | act {state : State} (rests : ¬ script.OnBranch state) (action : Action) :
      Nudge script state (action.apply state)

@[simp] theorem head?_chain : (script.chain state).head? = some state := rfl

/-- The chain ends in the settled state. -/
@[simp] theorem getLast?_chain : (script.chain state).getLast? = some (script.settled state) := by
  unfold chain
  rw [List.getLast?_eq_getElem?, List.length_iterate]
  exact List.getElem?_iterate script.resolved state _ _ (Nat.lt_succ_self _)

theorem isChain_iterate_resolved (n : Nat) (state : State) :
    (List.iterate script.resolved state n).IsChain script.Nudge := by
  induction n generalizing state with
  | zero => exact .nil
  | succ n ih =>
    refine (ih (script.resolved state)).cons ?_
    intro next hnext
    cases n with
    | zero => exact absurd hnext (by simp [List.iterate])
    | succ n =>
      obtain rfl : script.resolved state = next := by simpa [List.iterate] using hnext
      exact .resolve state

theorem isChain_chain : (script.chain state).IsChain script.Nudge :=
  isChain_iterate_resolved _ state

/-- What resolving keeps holds all along the chain. -/
theorem forall_mem_chain {P : State → Prop} (keeps : ∀ state, P state → P (script.resolved state))
    (h : P state) : ∀ passed ∈ script.chain state, P passed := by
  intro passed hmem
  obtain ⟨n, -, rfl⟩ := List.mem_iterate.mp hmem
  clear hmem
  induction n with
  | zero => exact h
  | succ n ih =>
    rw [Function.iterate_succ_apply']
    exact keeps _ ih

/-- A property of states that no move of a director on this script breaks. Results are recorded
where one is awaited, and nowhere else. -/
structure Keeps (script : Script) (P : State → Prop) : Prop where
  resolved : ∀ state, P state → P (script.resolved state)
  result : ∀ (director : Director) (result : GameResult), director.script = script →
    P director.state → director.current.kind = .awaitResult →
    P ((Action.setResult result).apply director.state)
  go : ∀ (director : Director) (request : Request) (next : State), director.script = script →
    P director.state → request.verdict director = .go next → P next

theorem Keeps.settled {P : State → Prop} (keeps : script.Keeps P) (h : P state) :
    P (script.settled state) :=
  forall_mem_chain keeps.resolved h _ (List.mem_of_getLast? getLast?_chain)

end Script

/-! ## Calls -/

/-- Where a request stops on its way from the settled state: a reported result is recorded before
the suspension point is left. -/
def Request.midway (state : State) : Request → List State
  | .report result => [(Action.setResult result).apply state]
  | _ => []

/-- Going somewhere takes one action, after a result was recorded if one is reported. -/
theorem Request.midway_go {request : Request} {director : Director} {next : State}
    (h : request.verdict director = .go next) :
    (∃ action : Action, request.midway director.state = [] ∧
        next = action.apply director.state) ∨
      ∃ result, request.midway director.state = [(Action.setResult result).apply director.state] ∧
        next = Action.advance.apply ((Action.setResult result).apply director.state) := by
  cases Request.verdict_eq_go_iff.mp h with
  | advance _ => exact Or.inl ⟨.advance, rfl, rfl⟩
  | jump _ => exact Or.inl ⟨.goto _, rfl, rfl⟩
  | pick _ _ => exact Or.inl ⟨.goto _, rfl, rfl⟩
  | record _ => exact Or.inr ⟨_, rfl, rfl⟩

namespace Session

variable {session : Session}

/-- The states the director is in while a request is served. -/
def passed (session : Session) (request : Request) : List State :=
  session.script.chain session.state ++
    if session.script.OnBranch session.rested.state then []
    else
      match request.verdict session.rested.director with
      | .go next => request.midway session.rested.state ++ session.script.chain next
      | .refuse _ | .stay => []

/-- The states the director is in in the course of a call. An undo restores a snapshot before it
shows it. -/
def passes (session : Session) : Call → List State
  | .ask request => session.passed request
  | .undo =>
    session.state ::
      match session.history.snapshots with
      | [] => []
      | snapshot :: _ => (session.restored snapshot).passed .present

theorem passed_of_departs {request : Request} {next : State} (h : session.Departs request next) :
    session.passed request = session.script.chain session.state ++
      (request.midway session.rested.state ++ session.script.chain next) := by
  unfold passed
  rw [if_neg (not_onBranch_rested h.1), h.2]

theorem passed_of_not_departs {request : Request} (h : ¬ ∃ next, session.Departs request next) :
    session.passed request = session.script.chain session.state := by
  unfold passed
  split
  · exact List.append_nil _
  · rename_i hrest
    have hends : ¬ session.script.Endless session.state := fun hendless =>
      hrest (Script.onBranch_settled_iff.mpr hendless)
    cases hdecided : request.verdict session.rested.director with
    | refuse error => exact List.append_nil _
    | stay => exact List.append_nil _
    | go next => exact absurd ⟨next, hends, hdecided⟩ h

/-- What a request does once it has settled is one move, or two. -/
theorem isChain_departure {request : Request} {next : State} (h : session.Departs request next) :
    List.IsChain session.script.Nudge
      (session.rested.state ::
        (request.midway session.rested.state ++ session.script.chain next)) := by
  have hrest : ¬ session.script.OnBranch session.rested.state := not_onBranch_rested h.1
  have hchain : (session.script.chain next).IsChain session.script.Nudge := Script.isChain_chain
  have hhead : ∀ {P : State → Prop}, P next → ∀ y ∈ (session.script.chain next).head?, P y := by
    intro P hP y hy
    obtain rfl : next = y := by simpa using hy
    exact hP
  rcases Request.midway_go h.2 with ⟨action, hmidway, rfl⟩ | ⟨result, hmidway, rfl⟩
  · have hmid : request.midway session.rested.state = [] := hmidway
    rw [hmid]
    exact hchain.cons (hhead (.act hrest action))
  · have hmid : request.midway session.rested.state =
        [(Action.setResult result).apply session.rested.state] := hmidway
    rw [hmid]
    -- recording a result stays at the suspension point
    have hstill : ¬ session.script.OnBranch
        ((Action.setResult result).apply session.rested.state) := hrest
    exact (hchain.cons (hhead (.act hstill .advance))).cons_cons (.act hrest (.setResult result))

/-- **The route of a request**: from where the session is, move by move, to where it is left. -/
theorem passed_route (session : Session) (request : Request) :
    (session.passed request).head? = some session.state ∧
      (session.passed request).IsChain session.script.Nudge ∧
      (session.passed request).getLast? = some (session.after (.ask request)).state := by
  rcases after_ask session request with ⟨hstays, hafter⟩ | ⟨next, departs, hafter⟩
  · rw [passed_of_not_departs hstays, hafter]
    exact ⟨rfl, Script.isChain_chain, Script.getLast?_chain⟩
  · rw [passed_of_departs departs, hafter]
    refine ⟨rfl, ?_, ?_⟩
    · obtain ⟨hhead, hdeparture⟩ := List.isChain_cons.mp (isChain_departure departs)
      refine Script.isChain_chain.append hdeparture ?_
      intro x hx y hy
      obtain rfl : session.rested.state = x := by simpa using hx
      exact hhead y hy
    · rw [List.getLast?_append, List.getLast?_append, Script.getLast?_chain]
      rfl

/-- **The route of a call** starts where the session is and ends where the call leaves it. -/
theorem passes_ends (session : Session) (call : Call) :
    (session.passes call).head? = some session.state ∧
      (session.passes call).getLast? = some (session.after call).state := by
  cases call with
  | ask request =>
    obtain ⟨hhead, -, hlast⟩ := passed_route session request
    exact ⟨hhead, hlast⟩
  | undo =>
    refine ⟨rfl, ?_⟩
    unfold passes
    cases hsnapshots : session.history.snapshots with
    | nil =>
      rw [(undo_of_nil hsnapshots).2]
      rfl
    | cons snapshot rest =>
      rw [(undo_of_cons hsnapshots).2]
      simp [List.getLast?_cons, (passed_route (session.restored snapshot) .present).2.2]

/-! ## What no call breaks -/

/-- A property holds of the state of a session and of all its snapshots. -/
structure Tended (P : State → Prop) (session : Session) : Prop where
  state : P session.state
  snapshots : ∀ snapshot ∈ session.history.snapshots, P snapshot

variable {P : State → Prop}

/-- What is kept holds of every state that a request passes. -/
theorem forall_passed (keeps : session.script.Keeps P) (h : P session.state) (request : Request) :
    ∀ state ∈ session.passed request, P state := by
  have hchain := Script.forall_mem_chain keeps.resolved h
  by_cases hdeparts : ∃ next, session.Departs request next
  · obtain ⟨next, departs⟩ := hdeparts
    have hrested : P session.rested.state := keeps.settled h
    have hnext : P next := keeps.go session.rested.director request next rfl hrested departs.2
    intro state hmem
    rw [passed_of_departs departs] at hmem
    rcases List.mem_append.mp hmem with hmem | hmem
    · exact hchain state hmem
    · rcases List.mem_append.mp hmem with hmidway | hmem
      · cases Request.verdict_eq_go_iff.mp departs.2 with
        | record waits =>
          rw [List.mem_singleton.mp hmidway]
          exact keeps.result session.rested.director _ rfl hrested waits
        | _ => exact absurd hmidway List.not_mem_nil
      · exact Script.forall_mem_chain keeps.resolved hnext state hmem
  · rw [passed_of_not_departs hdeparts]
    exact hchain

/-- **What is kept holds of every state that a call passes.** -/
theorem forall_passes (keeps : session.script.Keeps P) (h : Tended P session) (call : Call) :
    ∀ state ∈ session.passes call, P state := by
  cases call with
  | ask request => exact forall_passed keeps h.state request
  | undo =>
    intro state hmem
    rcases List.mem_cons.mp hmem with rfl | hmem
    · exact h.state
    · cases hsnapshots : session.history.snapshots with
      | nil =>
        rw [hsnapshots] at hmem
        exact absurd hmem List.not_mem_nil
      | cons snapshot rest =>
        rw [hsnapshots] at hmem
        have hsnapshot : P snapshot := h.snapshots snapshot (by rw [hsnapshots]; simp)
        have hrestored : P (session.restored snapshot).state := hsnapshot
        exact @forall_passed (session.restored snapshot) P keeps hrestored .present state hmem

/-- Settling breaks nothing that is kept. -/
theorem tended_rested (keeps : session.script.Keeps P) (h : Tended P session) :
    Tended P session.rested where
  state := keeps.settled h.state
  snapshots := h.snapshots

/-- Neither does leaving for another state. -/
theorem tended_departed (keeps : session.script.Keeps P) (h : Tended P session) {request : Request}
    {next : State} (departs : session.Departs request next) :
    Tended P (session.departed next) where
  state := keeps.go session.rested.director request next rfl (keeps.settled h.state) departs.2
  snapshots := by
    intro snapshot hmem
    rw [history_departed, History.snapshots_push] at hmem
    rcases List.mem_cons.mp (List.mem_of_mem_take hmem) with rfl | hmem
    · exact keeps.settled h.state
    · exact h.snapshots snapshot hmem

/-- Neither does going back to a snapshot. -/
theorem tended_restored (h : Tended P session) {snapshot : State} {rest : List State}
    (hsnapshots : session.history.snapshots = snapshot :: rest) :
    Tended P (session.restored snapshot) where
  state := h.snapshots snapshot (by rw [hsnapshots]; simp)
  snapshots := by
    intro older hmem
    rw [history_restored, History.snapshots_older] at hmem
    exact h.snapshots older (List.mem_of_mem_tail hmem)

theorem tended_ask (keeps : session.script.Keeps P) (h : Tended P session) (request : Request) :
    Tended P (session.after (.ask request)) := by
  rcases after_ask session request with ⟨-, hafter⟩ | ⟨next, departs, hafter⟩
  · rw [hafter]
    exact tended_rested keeps h
  · rw [hafter]
    exact tended_rested keeps (tended_departed keeps h departs)

/-- **A call breaks nothing that is kept.** -/
theorem tended_after (keeps : session.script.Keeps P) (h : Tended P session) (call : Call) :
    Tended P (session.after call) := by
  cases call with
  | ask request => exact tended_ask keeps h request
  | undo =>
    cases hsnapshots : session.history.snapshots with
    | nil =>
      rw [(undo_of_nil hsnapshots).2]
      exact h
    | cons snapshot rest =>
      rw [(undo_of_cons hsnapshots).2]
      have hkeeps : (session.restored snapshot).script.Keeps P := keeps
      exact tended_ask hkeeps (tended_restored h hsnapshots) .present

/-- **A run breaks nothing that is kept.** -/
theorem tended_afterAll (keeps : session.script.Keeps P) (h : Tended P session)
    (calls : List Call) : Tended P (session.afterAll calls) := by
  induction calls generalizing session with
  | nil => exact h
  | cons call calls ih =>
    exact ih (by rw [script_after]; exact keeps) (tended_after keeps h call)

/-! ## Fresh sessions -/

/-- The session that starts a script, with nothing recorded and nothing to undo. -/
def fresh (script : Script) : Session where
  director := { script }

theorem tended_fresh {script : Script} (h : P {}) : Tended P (fresh script) where
  state := h
  snapshots _ hmem := absurd hmem List.not_mem_nil

@[simp] theorem script_fresh (script : Script) : (fresh script).script = script := rfl

end Session

end Narrative
