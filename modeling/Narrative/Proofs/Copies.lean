import Narrative.Proofs.Settling

/-!
# Copies of a session

Showing a session, refusing a request and resolving branches ahead of time all move the position
along the branches in front of it. No later call can tell: every call settles first, and settling
forgets where on the chain of branches it started.

Two sessions are alike (`Alike`) if both settle, and into the same session. `ask_of_alike` and
`undo_of_alike` are the step of the argument: a call is answered alike, and unless it is an undo
that finds nothing, it leaves not just alike but equal sessions.

* `alike_of_idled`: a copy that has only been shown, refused or resolved is alike;
* **`idle_copies_answer_alike`**: all further calls are answered by both alike, and leave both
  equal after every call that has an answer.
-/

namespace Narrative

/-- Going ahead on a chain that ends does not change where it ends. -/
theorem Script.settled_iterate_resolved {script : Script} {state : State}
    (h : ¬ script.Endless state) (n : Nat) :
    script.settled (script.resolved^[n] state) = script.settled state := by
  have hrest : ¬ script.OnBranch (script.resolved^[script.length + 1] state) :=
    not_onBranch_settled h
  unfold settled
  rw [← Function.iterate_add_apply]
  exact iterate_resolved_of_le hrest (Nat.le_add_right _ n)

namespace Session

/-! ## Alike -/

/-- Two sessions that settle into the same session. -/
structure Alike (a b : Session) : Prop where
  settles : ¬ a.script.Endless a.state
  settles' : ¬ b.script.Endless b.state
  rested_eq : a.rested = b.rested

variable {a b : Session}

theorem Alike.refl (h : ¬ a.script.Endless a.state) : Alike a a := ⟨h, h, rfl⟩

/-- A session is like the one it settles into. -/
theorem Alike.rested (h : Alike a b) : Alike a b.rested where
  settles := h.settles
  settles' := by simpa using h.settles'
  rested_eq := h.rested_eq.trans (rested_rested h.settles').symm

/-- A session is like the one whose director has resolved branches before. -/
theorem Alike.resolved {director : Director} {history : History}
    (h : Alike a ⟨director, history⟩) (n : Nat) :
    Alike a ⟨Director.resolved^[n] director, history⟩ := by
  have hdirector := Director.iterate_resolved director n
  have hsettles : ¬ director.script.Endless director.state := h.settles'
  refine ⟨h.settles, ?_, ?_⟩
  · rw [hdirector]
    intro hendless
    exact hsettles ((Script.endless_iterate_resolved n).mp hendless)
  · have hsettled := Script.settled_iterate_resolved hsettles n
    rw [h.rested_eq, hdirector]
    unfold Session.rested
    exact congrArg (fun state => (⟨{ director with state }, history⟩ : Session)) hsettled.symm

/-- A request is answered alike and leaves equal sessions. -/
theorem ask_of_alike (h : Alike a b) (request : Request) :
    a.answer (.ask request) = b.answer (.ask request) ∧
      a.after (.ask request) = b.after (.ask request) := by
  obtain ⟨hanswer, hafter⟩ := ask_rested h.settles request
  obtain ⟨hanswer', hafter'⟩ := ask_rested h.settles' request
  rw [← hanswer, ← hafter, ← hanswer', ← hafter', h.rested_eq]
  exact ⟨rfl, rfl⟩

/-- Undoing finds nothing in both, or restores equal sessions. -/
theorem undo_of_alike (h : Alike a b) :
    a.answer .undo = b.answer .undo ∧
      ((a.answer .undo = none ∧ a.after .undo = a ∧ b.after .undo = b) ∨
        a.after .undo = b.after .undo) := by
  have hhistory : a.history = b.history := congrArg (·.history) h.rested_eq
  cases hsnapshots : a.history.snapshots with
  | nil =>
    obtain ⟨hanswer, hafter⟩ := undo_of_nil hsnapshots
    obtain ⟨hanswer', hafter'⟩ := undo_of_nil (hhistory ▸ hsnapshots)
    exact ⟨hanswer.trans hanswer'.symm, Or.inl ⟨hanswer, hafter, hafter'⟩⟩
  | cons snapshot rest =>
    obtain ⟨hanswer, hafter⟩ := undo_of_cons hsnapshots
    obtain ⟨hanswer', hafter'⟩ := undo_of_cons (hhistory ▸ hsnapshots)
    -- what is restored does not depend on where the session was
    have hrestored : a.restored snapshot = b.restored snapshot :=
      congrArg (·.restored snapshot) h.rested_eq
    rw [hanswer, hafter, hanswer', hafter', hrestored]
    exact ⟨rfl, Or.inr rfl⟩

/-- **A call is answered alike**, and leaves equal sessions if it has an answer at all. -/
theorem call_of_alike (h : Alike a b) (call : Call) :
    a.answer call = b.answer call ∧
      (a.answer call ≠ none → a.after call = b.after call) ∧
      (a.after call = b.after call ∨ Alike (a.after call) (b.after call)) := by
  cases call with
  | ask request =>
    obtain ⟨hanswer, hafter⟩ := ask_of_alike h request
    exact ⟨hanswer, fun _ => hafter, Or.inl hafter⟩
  | undo =>
    obtain ⟨hanswer, ⟨hnone, ha, hb⟩ | hafter⟩ := undo_of_alike h
    · refine ⟨hanswer, fun hsome => absurd hnone hsome, Or.inr ?_⟩
      rw [ha, hb]
      exact h
    · exact ⟨hanswer, fun _ => hafter, Or.inl hafter⟩

/-- **All calls are answered alike**: until one of them leaves equal sessions they stay alike. -/
theorem calls_of_alike (h : Alike a b) (calls : List Call) :
    a.answers calls = b.answers calls ∧
      (a.afterAll calls = b.afterAll calls ∨ Alike (a.afterAll calls) (b.afterAll calls)) := by
  induction calls generalizing a b with
  | nil => exact ⟨rfl, Or.inr h⟩
  | cons call calls ih =>
    obtain ⟨hanswer, -, hequal | halike⟩ := call_of_alike h call
    · rw [answers, answers, afterAll_cons, afterAll_cons, hanswer, hequal]
      exact ⟨rfl, Or.inl rfl⟩
    · obtain ⟨hanswers, hafter⟩ := ih halike
      rw [answers, answers, afterAll_cons, afterAll_cons, hanswer, hanswers]
      exact ⟨rfl, hafter⟩

/-! ## Idling -/

/-- What a session becomes while nothing is done to it: it is shown, a request is refused that does
not fit its step, or its director resolves branches. -/
inductive Idled (session : Session) : Session → Prop
  | same : Idled session session
  /-- the copy was shown -/
  | shown {copy : Session} (h : Idled session copy) : Idled session (copy.after (.ask .present))
  /-- the copy refused a request, and not for a cycle of branches -/
  | refused {copy : Session} (h : Idled session copy) {request : Request} {error : SessionError}
      (answer : copy.answer (.ask request) = some (.error error))
      (fits : ∀ position, error ≠ .branchCycle position) :
      Idled session (copy.after (.ask request))
  /-- branches were resolved by the director of the copy, maybe before the copy was made of it -/
  | resolved {director : Director} {history : History} (h : Idled session ⟨director, history⟩)
      (n : Nat) : Idled session ⟨Director.resolved^[n] director, history⟩

variable {session copy : Session}

/-- **Idling does not show.** -/
theorem alike_of_idled (h : ¬ session.script.Endless session.state) (idled : Idled session copy) :
    Alike session copy := by
  induction idled with
  | same => exact .refl h
  | shown _ ih =>
    rw [(present_of_not_endless ih.settles').2]
    exact ih.rested
  | refused _ answer fits ih =>
    rcases refusal_cases answer with ⟨-, hafter, -⟩ | ⟨next, -, -, hcycle, -⟩
    · rw [hafter]
      exact ih.rested
    · exact absurd hcycle (fits _)
  | resolved _ n ih => exact ih.resolved n

/-- Settling succeeds exactly where the branches end. -/
theorem settle_ok_iff :
    (settle session).outcome = .ok () ↔ ¬ session.script.Endless session.state := by
  by_cases h : session.script.Endless session.state
  · have houtcome := congrArg Prod.fst (result_settle_of_endless h)
    refine iff_of_false ?_ (not_not_intro h)
    intro hok
    exact absurd (hok.symm.trans houtcome) (by simp)
  · exact iff_of_true (congrArg Prod.fst (result_settle_of_not_endless h)) h

/-- **Looking and failing leave no trace.** If the branches in front of a session end, a copy of it
that was shown, refused requests or had branches resolved gives the same answers to all further
calls as the session itself. After every call that has an answer, which only an undo without
snapshots has not, the two are equal, histories included. -/
theorem idle_copies_answer_alike (settles : (settle session).outcome = .ok ())
    (idled : Idled session copy) (calls : List Call) :
    copy.answers calls = session.answers calls ∧
      ∀ call, (session.afterAll calls).answer call ≠ none →
        (copy.afterAll calls).after call = (session.afterAll calls).after call := by
  have halike := alike_of_idled (settle_ok_iff.mp settles) idled
  obtain ⟨hanswers, hequal | hstill⟩ := calls_of_alike halike calls
  · refine ⟨hanswers.symm, fun call _ => ?_⟩
    rw [hequal]
  · refine ⟨hanswers.symm, fun call hanswer => ?_⟩
    exact ((call_of_alike hstill call).2.1 hanswer).symm

/-- A won game: its branch leads to a choice that may lead back to the branch. -/
def wonBeforeChoice : Session where
  director :=
    { script := ⟨[.branch .lastResult ⟨some 2, none, none, none⟩, .say .ivan "A pity.",
        .choice "Again?" [⟨"Yes", 0⟩, ⟨"No", 3⟩]]⟩
      state := ⟨0, some .win⟩ }

/-- The same with the branch resolved, and continued in vain. -/
def triedToContinue : Session :=
  (⟨wonBeforeChoice.director.resolved, wonBeforeChoice.history⟩ : Session).after (.ask .proceed)

/-- The copy stands elsewhere, also after an undo that finds nothing, and yet answers the same. -/
theorem idle_copies_answer_alike_triedToContinue :
    (settle wonBeforeChoice).outcome = .ok () ∧ Idled wonBeforeChoice triedToContinue ∧
    (triedToContinue.after .undo).state ≠ (wonBeforeChoice.after .undo).state ∧
    triedToContinue.answers [.undo, .ask (.choose 0), .ask .proceed, .undo] =
      wonBeforeChoice.answers [.undo, .ask (.choose 0), .ask .proceed, .undo] ∧
    (triedToContinue.afterAll [.undo]).after (.ask (.choose 0)) =
      (wonBeforeChoice.afterAll [.undo]).after (.ask (.choose 0)) := by
  have hsettles : (settle wonBeforeChoice).outcome = .ok () := by decide
  have hrefused : Session.answer ⟨wonBeforeChoice.director.resolved, wonBeforeChoice.history⟩
      (.ask .proceed) = some (.error (.choiceRequired 2)) := by decide
  have hidled : Idled wonBeforeChoice triedToContinue :=
    .refused (.resolved .same 1) hrefused (by simp)
  refine ⟨hsettles, hidled, by decide, ?_, ?_⟩
  · exact (idle_copies_answer_alike hsettles hidled _).1
  · exact (idle_copies_answer_alike hsettles hidled [.undo]).2 _ (by decide)

end Session

end Narrative
