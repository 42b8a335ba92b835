import Narrative.Proofs.Course

/-!
# Settling

Before it does anything else a session follows the branches in front of it. This file says what that
comes to.

* **`settle_decides`**: settling is refused exactly where branches follow each other for ever, and
  otherwise ends on the first step that is no branch; whatever a call shows is the step the session
  then rests on.
* **`kept_by_refusal_iff`**: a refused request leaves the session as it was exactly if there were no
  branches to follow, before or after the decision, or if the cycle it ran into came round to where
  it started. Other refusals leave a mark: pending branches stay resolved, and a step that was left
  for a cycle stays left and is on record.
-/

namespace Narrative

namespace Session

variable {session : Session}

/-! ## What is shown -/

/-- Away from branches, only the end of the scene shows as the end. -/
theorem shown_eq_ended_iff (h : ¬ session.script.OnBranch session.state) :
    session.shown = .ended ↔ session.isEnded = true := by
  have hkind : session.director.current.kind ≠ .branch := h
  unfold shown isEnded Director.isEnded
  cases hstep : session.director.current with
  | branch var arms =>
    rw [hstep] at hkind
    exact absurd rfl hkind
  | _ => simp [Presentation.ofStep]

/-- What a request shows is the step on which it leaves the session, and that is no branch. -/
theorem ask_shows {request : Request} {shown : Presentation}
    (h : session.answer (.ask request) = some (.ok shown)) :
    ¬ session.script.OnBranch (session.after (.ask request)).state ∧
      shown = (session.after (.ask request)).shown := by
  cases course session request with
  | cycle _ answer _ => exact absurd (h.symm.trans answer) (by simp)
  | refused _ _ _ answer _ => exact absurd (h.symm.trans answer) (by simp)
  | trapped _ _ _ answer _ => exact absurd (h.symm.trans answer) (by simp)
  | stayed rests _ answer after =>
    rw [after]
    exact ⟨not_onBranch_rested rests, by simpa using h.symm.trans answer⟩
  | moved next _ onward answer after =>
    rw [after]
    refine ⟨?_, by simpa using h.symm.trans answer⟩
    have hdeparted : ¬ (session.departed next).script.Endless (session.departed next).state :=
      onward
    exact not_onBranch_rested hdeparted

/-- The same of every call. -/
theorem call_shows {call : Call} {shown : Presentation}
    (h : session.answer call = some (.ok shown)) :
    ¬ session.script.OnBranch (session.after call).state ∧ shown = (session.after call).shown := by
  cases call with
  | ask request => exact ask_shows h
  | undo =>
    cases hsnapshots : session.history.snapshots with
    | nil =>
      rw [(undo_of_nil hsnapshots).1] at h
      exact absurd h (by simp)
    | cons snapshot rest =>
      obtain ⟨hanswer, hafter⟩ := undo_of_cons hsnapshots
      rw [hafter]
      exact ask_shows (hanswer.symm.trans h)

/-- **Settling decides whether branches end, and ends where they do.** Settling is refused, with the
position it started from, iff resolving branches never leads off them. Otherwise it succeeds, and
the session rests where the chain first leaves the branches; nothing but the position changes. And
whatever a call shows is the current step of the session it leaves, never a branch; it shows the
end iff the session is at the end. -/
theorem settle_decides (session : Session) :
    ((settle session).outcome = .error (.branchCycle session.position) ↔
      ∀ n, (Director.resolved^[n] session.director).current.kind = .branch) ∧
    ((∃ n, (Director.resolved^[n] session.director).current.kind ≠ .branch) →
      (settle session).outcome = .ok () ∧
      ∃ n, (∀ m < n, (Director.resolved^[m] session.director).current.kind = .branch) ∧
        (Director.resolved^[n] session.director).current.kind ≠ .branch ∧
        (settle session).session =
          { session with director := Director.resolved^[n] session.director } ∧
        (settle session).session.state.lastResult = session.state.lastResult) ∧
    ∀ (call : Call) (shown : Presentation), session.answer call = some (.ok shown) →
      (session.after call).director.current.kind ≠ .branch ∧
      shown = .ofStep (session.after call).director.current ∧
      (shown = .ended ↔ (session.after call).isEnded = true) := by
  simp only [Director.kind_iterate_resolved, ne_eq]
  refine ⟨?_, ?_, ?_⟩
  · by_cases h : session.script.Endless session.state
    · have houtcome := congrArg Prod.fst (result_settle_of_endless h)
      exact iff_of_true houtcome h
    · have houtcome := congrArg Prod.fst (result_settle_of_not_endless h)
      refine iff_of_false ?_ h
      intro hc
      exact absurd (houtcome.symm.trans hc) (by simp)
  · intro hrest
    have h : ¬ session.script.Endless session.state := not_forall.mpr hrest
    have hresult := result_settle_of_not_endless h
    have hleft : (settle session).session = session.rested := congrArg Prod.snd hresult
    obtain ⟨n, hbefore, hat, hsettled⟩ := Script.exists_first_rest h
    refine ⟨congrArg Prod.fst hresult, n, hbefore, hat, ?_, ?_⟩
    · rw [hleft, Director.iterate_resolved]
      unfold rested
      rw [hsettled]
      rfl
    · rw [hleft, state_rested, Script.lastResult_settled]
  · intro call shown h
    obtain ⟨hrest, hshown⟩ := call_shows h
    have hleft : ¬ (session.after call).script.OnBranch (session.after call).state := by
      rw [script_after]
      exact hrest
    refine ⟨hleft, hshown, ?_⟩
    rw [hshown]
    exact shown_eq_ended_iff hleft

/-- Three branches in the order 0, 2, 1, and out of the script. -/
def zigzag : Session where
  director :=
    { script := ⟨[.branch .lastResult ⟨some 2, none, none, none⟩,
        .branch .lastResult ⟨some (-4), none, none, none⟩,
        .branch .lastResult ⟨some 1, none, none, none⟩]⟩
      state := ⟨0, some .win⟩ }

/-- A chain through every step of its script is followed to its end. -/
theorem settle_decides_zigzag :
    (∃ n, (Director.resolved^[n] zigzag.director).current.kind ≠ .branch) ∧
    (settle zigzag).outcome = .ok () ∧ (settle zigzag).session.position = -4 ∧
    zigzag.answer (.ask .present) = some (.ok .ended) ∧ (zigzag.after (.ask .present)).isEnded := by
  have hrest : ∃ n, (Director.resolved^[n] zigzag.director).current.kind ≠ .branch :=
    ⟨3, by decide⟩
  have hshown : zigzag.answer (.ask .present) = some (.ok .ended) := by decide
  obtain ⟨-, hsettle, hshows⟩ := settle_decides zigzag
  exact ⟨hrest, (hsettle hrest).1, by decide, hshown, (hshows _ _ hshown).2.2.mp rfl⟩

/-! ## What a refusal leaves -/

/-- A decision never refuses for a cycle of branches. -/
theorem ne_branchCycle_of_verdict {request : Request} {director : Director} {error : SessionError}
    (h : request.verdict director = .refuse error) (position : Position) :
    error ≠ .branchCycle position := by
  rintro rfl
  cases request with
  | present => exact absurd h (by simp [Request.verdict])
  | proceed =>
    unfold Request.verdict at h
    cases hstep : director.current <;> simp [hstep] at h
  | choose index =>
    unfold Request.verdict chosen at h
    cases hstep : director.current with
    | choice prompt options =>
      cases hoption : options[index]? <;> simp [hstep, hoption, Verdict.ofChosen] at h
    | _ => simp [hstep, Verdict.ofChosen] at h
  | report result =>
    unfold Request.verdict at h
    simp only at h
    split at h <;> simp at h

/-- Settling leaves the state alone iff there is no branch, or the cycle comes round to it. -/
theorem settled_eq_self_iff :
    session.rested.state = session.state ↔ ¬ session.script.OnBranch session.state ∨
      (session.script.OnBranch session.state ∧
        Director.resolved^[session.script.length + 1] session.director = session.director) := by
  have hround : Director.resolved^[session.script.length + 1] session.director = session.director ↔
      session.rested.state = session.state := by
    rw [Director.iterate_resolved]
    constructor
    · intro h
      exact congrArg Director.state h
    · intro h
      exact congrArg (fun state => { session.director with state }) h
  rw [hround]
  by_cases hon : session.script.OnBranch session.state
  · simp [hon]
  · exact iff_of_true (Script.settled_of_not_onBranch hon) (Or.inl hon)

/-- A refused request either went nowhere, or went into a cycle of branches. -/
theorem refusal_cases {request : Request} {error : SessionError}
    (h : session.answer (.ask request) = some (.error error)) :
    (session.accepts request = false ∧ session.after (.ask request) = session.rested ∧
        (session.script.Endless session.state ↔ ∃ position, error = .branchCycle position)) ∨
      ∃ next, session.Departs request next ∧ session.script.Endless next ∧
        error = .branchCycle next.position ∧
        session.after (.ask request) = (session.departed next).rested := by
  cases course session request with
  | cycle endless answer after =>
    have herror : error = .branchCycle session.position := by simpa using h.symm.trans answer
    refine Or.inl ⟨?_, after, iff_of_true endless ⟨_, herror⟩⟩
    rw [← Bool.not_eq_true, accepts_iff]
    rintro ⟨next, rests, -⟩
    exact rests endless
  | refused rests found decided answer after =>
    obtain rfl : error = found := by simpa using h.symm.trans answer
    refine Or.inl ⟨?_, after, iff_of_false rests ?_⟩
    · rw [← Bool.not_eq_true, accepts_iff]
      rintro ⟨next, -, hgo⟩
      exact absurd (decided.symm.trans hgo) (by simp)
    · rintro ⟨position, hcycle⟩
      exact ne_branchCycle_of_verdict decided position hcycle
  | stayed _ _ answer _ => exact absurd (h.symm.trans answer) (by simp)
  | moved _ _ _ answer _ => exact absurd (h.symm.trans answer) (by simp)
  | trapped next departs endless answer after =>
    exact Or.inr ⟨next, departs, endless, by simpa using h.symm.trans answer, after⟩

/-- A step that is left for a cycle stays left: it was not in the cycle. -/
theorem state_ne_of_trapped {request : Request} {next : State}
    (departs : session.Departs request next) (hnext : session.script.Endless next) :
    (session.departed next).rested.state ≠ session.state := by
  intro hstate
  have hends := departs.1
  rw [← hstate, state_rested, script_departed, state_departed, Script.endless_settled] at hends
  exact hends hnext

/-- A session that leaves its step is not going round. -/
theorem not_round_of_departs {request : Request} {next : State}
    (departs : session.Departs request next) :
    ¬ (session.director.current.kind = .branch ∧
      Director.resolved^[session.script.length + 1] session.director = session.director) := by
  rintro ⟨hon, hround⟩
  have hsame := settled_eq_self_iff.mpr (Or.inr ⟨hon, hround⟩)
  have hrest := not_onBranch_rested departs.1
  rw [hsame] at hrest
  exact hrest hon

/-- **What a refused request keeps.** Position, recorded result and history are as before iff either
the session was not on a branch and the refusal is none for a cycle, or the session was on a branch
of a cycle that `length + 1` resolutions lead round to the same place. In any case a request that
is not accepted does no more than to follow branches; an accepted one is refused only for the cycle
it leads into, with the settled state already on record. -/
theorem kept_by_refusal_iff {request : Request} {error : SessionError}
    (h : session.answer (.ask request) = some (.error error)) :
    ((session.after (.ask request)).position = session.position ∧
        (session.after (.ask request)).state.lastResult = session.state.lastResult ∧
        (session.after (.ask request)).history = session.history ↔
      (session.director.current.kind ≠ .branch ∧ ∀ position, error ≠ .branchCycle position) ∨
      (session.director.current.kind = .branch ∧
        Director.resolved^[session.script.length + 1] session.director = session.director)) ∧
    (session.accepts request = false →
      (session.after (.ask request)).director =
        Director.resolved^[session.script.length + 1] session.director ∧
      (session.after (.ask request)).state.lastResult = session.state.lastResult ∧
      (session.after (.ask request)).history = session.history) ∧
    (session.accepts request = true →
      (∃ position, error = .branchCycle position) ∧
      (session.after (.ask request)).history = session.history.push session.rested.state) := by
  have hhistory := history_after_ask session request
  rcases refusal_cases h with ⟨hnot, hafter, hcycle⟩ | ⟨next, departs, hnext, rfl, hafter⟩
  · rw [hnot, if_neg Bool.false_ne_true] at hhistory
    refine ⟨?_, fun _ => ⟨?_, ?_, hhistory⟩, fun hc => absurd (hnot.symm.trans hc) (by simp)⟩
    · have hstate : ((session.after (.ask request)).position = session.position ∧
          (session.after (.ask request)).state.lastResult = session.state.lastResult ∧
          (session.after (.ask request)).history = session.history) ↔
          session.rested.state = session.state := by
        rw [hhistory, eq_self, and_true, hafter]
        exact State.ext_iff.symm
      rw [hstate, settled_eq_self_iff]
      by_cases hon : session.script.OnBranch session.state
      · rw [or_iff_right (not_not_intro hon), or_iff_right fun hc => hc.1 hon]
        exact Iff.rfl
      · have hends := Script.not_endless_of_not_onBranch hon
        refine iff_of_true (Or.inl hon) (Or.inl ⟨hon, fun position he => ?_⟩)
        exact hends (hcycle.mpr ⟨position, he⟩)
    · rw [hafter, Director.iterate_resolved]
      rfl
    · rw [hafter, state_rested, Script.lastResult_settled]
  · have haccepts : session.accepts request = true := accepts_iff.mpr ⟨next, departs⟩
    rw [haccepts, if_pos rfl] at hhistory
    refine ⟨iff_of_false ?_ ?_, fun hc => absurd (haccepts.symm.trans hc) (by simp),
      fun _ => ⟨⟨_, rfl⟩, hhistory⟩⟩
    · rintro ⟨hposition, hresult, -⟩
      have hstate : (session.after (.ask request)).state = session.state :=
        State.ext hposition hresult
      rw [hafter] at hstate
      exact state_ne_of_trapped departs hnext hstate
    · rintro (⟨-, hne⟩ | hround)
      · exact hne _ rfl
      · exact not_round_of_departs departs hround

/-- A line of dialogue in front of a branch that leads to itself. -/
def dialogueBeforeLoop : Session where
  director :=
    { script := ⟨[.say .ivan "On we go.", .branch .lastResult ⟨some 1, none, none, none⟩]⟩
      state := ⟨0, some .win⟩ }

/-- A refused request can leave its step and store a snapshot. -/
theorem refusal_moves_dialogueBeforeLoop :
    dialogueBeforeLoop.answer (.ask .proceed) = some (.error (.branchCycle 1)) ∧
    (dialogueBeforeLoop.after (.ask .proceed)).position ≠ dialogueBeforeLoop.position ∧
    (dialogueBeforeLoop.after (.ask .proceed)).history ≠ dialogueBeforeLoop.history := by
  decide

/-- The session that went on into the loop. -/
def caughtInLoop : Session := dialogueBeforeLoop.after (.ask .proceed)

/-- The first refusal stores the dialogue; refused again, the request leaves the session alone. -/
theorem kept_by_refusal_caughtInLoop :
    caughtInLoop.history = dialogueBeforeLoop.history.push dialogueBeforeLoop.rested.state ∧
    caughtInLoop.answer (.ask .proceed) = some (.error (.branchCycle 1)) ∧
    (caughtInLoop.after (.ask .proceed)).position = caughtInLoop.position := by
  have hfirst : dialogueBeforeLoop.answer (.ask .proceed) = some (.error (.branchCycle 1)) := by
    decide
  have hsecond : caughtInLoop.answer (.ask .proceed) = some (.error (.branchCycle 1)) := by decide
  have hround : Director.resolved^[caughtInLoop.script.length + 1] caughtInLoop.director =
      caughtInLoop.director := by
    decide
  refine ⟨((kept_by_refusal_iff hfirst).2.2 (by decide)).2, hsecond, ?_⟩
  exact ((kept_by_refusal_iff hsecond).1.mpr (Or.inr ⟨by decide, hround⟩)).1

end Session

end Narrative
