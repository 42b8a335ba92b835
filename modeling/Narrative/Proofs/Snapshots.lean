import Narrative.Proofs.Settling
import Narrative.Proofs.Undo

/-!
# Snapshots of reachable sessions

A snapshot is taken only when a request is accepted, and a request is accepted only on a step that
waits for the host. So in every session that calls can lead to, the history holds states a session
can go back to without meeting a branch. That is why undoing never fails, even from inside a cycle
of branches, and why it is the only way out of one.

* `Active` states are those at a step of the script that waits for the host;
* `Sound` is the invariant: all snapshots are active. `sound_after` is its step and
  `sound_of_reachable` the run;
* **`reachable_recovers`**: the invariant, what undoing does, and what holds between running into a
  cycle and undoing.
-/

namespace Narrative

/-- A state at a step of the script that waits for the host: neither a branch nor an end. -/
def Script.Active (script : Script) (state : State) : Prop :=
  script.contains state.position = true ∧ (script.get state.position).kind ∈
    [StepKind.say, StepKind.choice, StepKind.startGame, StepKind.awaitResult, StepKind.goto]

theorem Script.Active.not_onBranch {script : Script} {state : State} (h : script.Active state) :
    ¬ script.OnBranch state := by
  intro hon
  have hkind := h.2
  unfold OnBranch at hon
  rw [hon] at hkind
  exact absurd hkind (by decide)

namespace Session

variable {session : Session}

/-! ## The invariant -/

/-- Sessions that a director and calls can lead to. -/
inductive Reachable : Session → Prop
  | fresh (director : Director) (limit : Nat) : Reachable ⟨director, .empty limit⟩
  | call {session : Session} (h : Reachable session) (call : Call) : Reachable (session.after call)

/-- All snapshots are active. -/
def Sound (session : Session) : Prop :=
  ∀ snapshot ∈ session.history.snapshots, session.script.Active snapshot

/-- A session leaves its step only where the step waits for the host. -/
theorem active_of_go {request : Request} {next : State}
    (h : request.verdict session.director = .go next) : session.script.Active session.state := by
  have hkind : session.director.current.kind ∈
      [StepKind.say, StepKind.choice, StepKind.startGame, StepKind.awaitResult, StepKind.goto] := by
    cases request with
    | present => exact absurd h (by simp [Request.verdict])
    | proceed =>
      unfold Request.verdict at h
      cases hstep : session.director.current <;> simp [hstep, Step.kind] at h ⊢
    | choose index =>
      unfold Request.verdict chosen at h
      cases hstep : session.director.current <;> simp [hstep, Step.kind, Verdict.ofChosen] at h ⊢
    | report result =>
      unfold Request.verdict at h
      simp only at h
      split at h
      · rename_i hawaits
        rw [hawaits]
        decide
      · exact absurd h (by simp)
  refine ⟨?_, hkind⟩
  by_contra hout
  have hend : session.director.current = .finish :=
    Script.get_of_not_contains (Bool.eq_false_iff.mpr hout)
  rw [hend] at hkind
  exact absurd hkind (by decide)

/-- What an accepted request stores is active. -/
theorem active_of_accepts {request : Request} (h : session.accepts request = true) :
    session.script.Active session.rested.state := by
  obtain ⟨next, -, hgo⟩ := accepts_iff.mp h
  exact @active_of_go session.rested request next hgo

/-- Undoing an active snapshot restores it. -/
theorem undo_of_active {snapshot : State} {rest : List State}
    (h : session.history.snapshots = snapshot :: rest)
    (hactive : session.script.Active snapshot) :
    session.answer .undo = some (.ok (session.restored snapshot).shown) ∧
      session.after .undo = session.restored snapshot :=
  undo_of_rests h hactive.not_onBranch

/-- **Every call keeps the invariant.** -/
theorem sound_after (hsound : session.Sound) (call : Call) : (session.after call).Sound := by
  intro older hmem
  rw [script_after]
  cases call with
  | ask request =>
    rw [history_after_ask] at hmem
    split at hmem
    · rename_i haccepts
      rw [History.snapshots_push] at hmem
      rcases List.mem_cons.mp (List.mem_of_mem_take hmem) with rfl | hmem
      · exact active_of_accepts haccepts
      · exact hsound older hmem
    · exact hsound older hmem
  | undo =>
    cases hsnapshots : session.history.snapshots with
    | nil =>
      rw [(undo_of_nil hsnapshots).2] at hmem
      exact hsound older hmem
    | cons snapshot rest =>
      have hactive := hsound snapshot (by rw [hsnapshots]; exact List.mem_cons_self)
      rw [(undo_of_active hsnapshots hactive).2, history_restored, History.snapshots_older] at hmem
      exact hsound older (List.mem_of_mem_tail hmem)

/-- **Reachable sessions have active snapshots only.** -/
theorem sound_of_reachable (h : session.Reachable) : session.Sound := by
  induction h with
  | fresh director limit => exact fun snapshot hmem => absurd hmem List.not_mem_nil
  | call _ call ih => exact sound_after ih call

/-! ## Undoing -/

/-- An active step does not show as the end. -/
theorem shown_ne_ended (h : session.script.Active session.state) : session.shown ≠ .ended := by
  have hkind : session.director.current.kind ∈
      [StepKind.say, StepKind.choice, StepKind.startGame, StepKind.awaitResult, StepKind.goto] := h.2
  unfold shown
  cases hstep : session.director.current <;> simp [hstep, Presentation.ofStep, Step.kind] at hkind ⊢

/-- Undoing never fails where all snapshots are active. -/
theorem undo_cases (hsound : session.Sound) :
    (session.history.snapshots = [] ∧ session.answer .undo = none ∧
        session.after .undo = session) ∨
      ∃ snapshot rest shown, session.history.snapshots = snapshot :: rest ∧
        session.answer .undo = some (.ok shown) ∧ shown ≠ .ended ∧
        (session.after .undo).state = snapshot ∧
        (session.after .undo).history.snapshots = rest ∧
        (session.after .undo).answer (.ask .present) = some (.ok shown) := by
  cases hsnapshots : session.history.snapshots with
  | nil => exact Or.inl ⟨rfl, undo_of_nil hsnapshots⟩
  | cons snapshot rest =>
    have hactive := hsound snapshot (by rw [hsnapshots]; exact List.mem_cons_self)
    obtain ⟨hanswer, hafter⟩ := undo_of_active hsnapshots hactive
    have hrestored : (session.restored snapshot).script.Active (session.restored snapshot).state :=
      hactive
    rw [hafter]
    refine Or.inr ⟨snapshot, rest, (session.restored snapshot).shown, rfl, hanswer,
      shown_ne_ended hrestored, rfl, ?_, (present_of_rests hrestored.not_onBranch).1⟩
    rw [history_restored, History.snapshots_older, hsnapshots, List.tail_cons]

/-! ## Between running into a cycle and undoing -/

/-- Calls with what they answer. -/
def transcript (session : Session) (calls : List Call) :
    List (Call × Option (Except SessionError Presentation)) :=
  calls.zip (session.answers calls)

@[simp] theorem transcript_nil (session : Session) : session.transcript [] = [] := rfl

@[simp] theorem transcript_cons (session : Session) (call : Call) (calls : List Call) :
    session.transcript (call :: calls) =
      (call, session.answer call) :: (session.after call).transcript calls := rfl

/-- A call that runs into a cycle of branches leaves the session in it. -/
theorem endless_after_cycle {call : Call} {position : Position}
    (h : session.answer call = some (.error (.branchCycle position))) :
    session.script.Endless (session.after call).state := by
  have hask : ∀ {session : Session} {request : Request},
      session.answer (.ask request) = some (.error (.branchCycle position)) →
        session.script.Endless (session.after (.ask request)).state := by
    intro session request h
    rcases refusal_cases h with ⟨-, hafter, hcycle⟩ | ⟨next, -, hnext, -, hafter⟩
    · rw [hafter, state_rested, Script.endless_settled]
      exact hcycle.mpr ⟨position, rfl⟩
    · rw [hafter, state_rested, script_departed, state_departed, Script.endless_settled]
      exact hnext
  cases call with
  | ask request => exact hask h
  | undo =>
    cases hsnapshots : session.history.snapshots with
    | nil => exact absurd (h.symm.trans (undo_of_nil hsnapshots).1) (by simp)
    | cons snapshot rest =>
      obtain ⟨hanswer, hafter⟩ := undo_of_cons hsnapshots
      have hcaught := hask (hanswer.symm.trans h)
      rw [script_restored] at hcaught
      rw [hafter]
      exact hcaught

/-- Undoing is refused for a cycle of branches only. -/
theorem exists_cycle_of_undo {error : SessionError}
    (refused : session.answer .undo = some (.error error)) :
    ∃ position, error = .branchCycle position := by
  cases hsnapshots : session.history.snapshots with
  | nil => exact absurd (refused.symm.trans (undo_of_nil hsnapshots).1) (by simp)
  | cons snapshot rest =>
    have hshown := (undo_of_cons hsnapshots).1
    by_cases hends : (session.restored snapshot).script.Endless (session.restored snapshot).state
    · rw [(ask_of_endless .present hends).1] at hshown
      exact ⟨_, by simpa using refused.symm.trans hshown⟩
    · rw [(present_of_not_endless hends).1] at hshown
      exact absurd (refused.symm.trans hshown) (by simp)

/-- Any other refusal leaves a session that is at no branch as it was. -/
theorem after_of_refused {call : Call} {error : SessionError}
    (rests : ¬ session.script.OnBranch session.state)
    (refused : session.answer call = some (.error error))
    (other : ¬ ∃ position, error = .branchCycle position) : session.after call = session := by
  cases call with
  | ask request =>
    rcases refusal_cases refused with ⟨-, hafter, -⟩ | ⟨_, -, -, herror, -⟩
    · rw [hafter, rested_of_not_onBranch rests]
    · exact absurd ⟨_, herror⟩ other
  | undo => exact absurd (exists_cycle_of_undo refused) other

/-- **Nothing but an undo leads out of a cycle.** -/
theorem endless_afterAll (hendless : session.script.Endless session.state) {later : List Call}
    (hlater : ∀ answer, (Call.undo, some answer) ∉ session.transcript later) :
    session.script.Endless (session.afterAll later).state := by
  induction later generalizing session with
  | nil => exact hendless
  | cons call later ih =>
    rw [transcript_cons] at hlater
    have hrest : ∀ answer, (Call.undo, some answer) ∉ (session.after call).transcript later :=
      fun answer hmem => hlater answer (List.mem_cons_of_mem _ hmem)
    have hstill : (session.after call).script.Endless (session.after call).state := by
      rw [script_after]
      cases call with
      | ask request =>
        rw [(ask_of_endless request hendless).2, state_rested, Script.endless_settled]
        exact hendless
      | undo =>
        cases hanswer : session.answer .undo with
        | some answer =>
          rw [hanswer] at hlater
          exact absurd List.mem_cons_self (hlater answer)
        | none =>
          rw [after_undo_of_answer_eq_none hanswer]
          exact hendless
    have hend := ih hstill hrest
    rwa [script_after] at hend

theorem reachable_afterAll (h : session.Reachable) (calls : List Call) :
    (session.afterAll calls).Reachable := by
  induction calls generalizing session with
  | nil => exact h
  | cons call calls ih => exact ih (h.call call)

/-- **Undoing always works, and is the way out of cycles.** In every reachable session all snapshots
are at steps of the script that wait for the host. An undo therefore finds nothing, or succeeds,
restores exactly the newest snapshot and does not show the end. After a call that ran into a cycle
of branches every request is refused for a cycle until an undo answers; that undo succeeds, and the
session it leaves can be shown again. -/
theorem reachable_recovers (h : session.Reachable) :
    (∀ snapshot ∈ session.history.snapshots, session.script.Active snapshot) ∧
    ((session.answer .undo = none ∧ session.after .undo = session) ∨
      ∃ snapshot rest shown, session.history.snapshots = snapshot :: rest ∧
        session.answer .undo = some (.ok shown) ∧ shown ≠ .ended ∧
        (session.after .undo).state = snapshot ∧
        (session.after .undo).history.snapshots = rest) ∧
    ∀ (call : Call) (position : Position),
      session.answer call = some (.error (.branchCycle position)) →
      ∀ later : List Call,
        (∀ answer, (Call.undo, some answer) ∉ (session.after call).transcript later) →
        (∀ request, ∃ position, ((session.after call).afterAll later).answer (.ask request) =
          some (.error (.branchCycle position))) ∧
        (∀ answer, ((session.after call).afterAll later).answer .undo = some answer →
          ∃ shown, answer = .ok shown ∧ shown ≠ .ended ∧
            (((session.after call).afterAll later).after .undo).answer (.ask .present) =
              some (.ok shown)) := by
  have hsound := sound_of_reachable h
  refine ⟨hsound, ?_, ?_⟩
  · rcases undo_cases hsound with ⟨-, hnone⟩ | ⟨snapshot, rest, shown, h₁, h₂, h₃, h₄, h₅, -⟩
    · exact Or.inl hnone
    · exact Or.inr ⟨snapshot, rest, shown, h₁, h₂, h₃, h₄, h₅⟩
  · intro call position hcycle later hlater
    have hendless : (session.after call).script.Endless (session.after call).state := by
      rw [script_after]
      exact endless_after_cycle hcycle
    have hstuck : ((session.after call).afterAll later).script.Endless
        ((session.after call).afterAll later).state := by
      rw [script_afterAll]
      exact endless_afterAll hendless hlater
    refine ⟨fun request => ⟨_, (ask_of_endless request hstuck).1⟩, fun answer hanswer => ?_⟩
    have hlate := sound_of_reachable (reachable_afterAll (h.call call) later)
    rcases undo_cases hlate with ⟨-, hnone, -⟩ | ⟨_, _, shown, -, hok, hne, -, -, hagain⟩
    · exact absurd (hanswer.symm.trans hnone) (by simp)
    · exact ⟨shown, Option.some.inj (hanswer.symm.trans hok), hne, hagain⟩

/-- A session that went on from a game into a branch to itself. -/
def lostInLoop : Session := gameBeforeLoop.serve [.proceed, .proceed]

/-- Reporting the win loses the session, asking again does not help, and undoing does. -/
theorem reachable_recovers_lostInLoop :
    lostInLoop.Reachable ∧
    lostInLoop.answer (.ask (.report .win)) = some (.error (.branchCycle 3)) ∧
    (∃ position, ((lostInLoop.after (.ask (.report .win))).afterAll
      [.ask .present, .ask (.choose 0)]).answer (.ask .proceed) =
        some (.error (.branchCycle position))) ∧
    ((lostInLoop.after (.ask (.report .win))).afterAll
      [.ask .present, .ask (.choose 0)]).answer .undo = some (.ok (.awaitingResult .lastResult)) := by
  have hreachable : lostInLoop.Reachable := reachable_afterAll (.fresh _ _) _
  have hcycle : lostInLoop.answer (.ask (.report .win)) = some (.error (.branchCycle 3)) := by
    decide
  obtain ⟨-, -, hrecovers⟩ := reachable_recovers hreachable
  obtain ⟨hstuck, -⟩ := hrecovers _ _ hcycle [.ask .present, .ask (.choose 0)] (by simp)
  exact ⟨hreachable, hcycle, hstuck .proceed, by decide⟩

end Session

end Narrative
