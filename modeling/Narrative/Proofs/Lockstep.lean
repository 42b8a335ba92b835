import Narrative.Proofs.Course

/-!
# Sessions in lockstep

A request depends on a session in three ways: on whether the branches in front of it ever end, on
the state where they do, and on the step there. Two sessions that agree in these, and agree again
wherever they go, cannot be told apart by requests.

`Lockstep` says of a relation between sessions that it is such an agreement, and **`Lockstep.ask`**
is what follows for one request. Undoing depends on the histories, which are left to the relation.

* `ask_congr`: sessions with one director answer alike, whatever their histories are.
-/

namespace Narrative

/-- Decisions depend on the state and on the current step. -/
theorem Request.verdict_congr {a b : Director} (request : Request) (state : a.state = b.state)
    (current : a.current = b.current) : request.verdict a = request.verdict b := by
  have hposition : a.position = b.position := congrArg State.position state
  cases request <;> simp only [verdict, Session.chosen, current, state, hposition]

namespace Session

/-- **Related sessions agree** on their state and their step, and go on to related sessions. -/
structure Lockstep (R : Session → Session → Prop) : Prop where
  /-- they are in one state -/
  state : ∀ {a b : Session}, R a b → a.state = b.state
  /-- the branches in front of them end in both or in neither -/
  endless : ∀ {a b : Session}, R a b → (a.script.Endless a.state ↔ b.script.Endless b.state)
  /-- off the branches they are at one step -/
  current : ∀ {a b : Session}, R a b → ¬ a.script.OnBranch a.state →
    a.director.current = b.director.current
  /-- settled they are still related -/
  rested : ∀ {a b : Session}, R a b → R a.rested b.rested
  /-- and so they are after they have left for another state -/
  departed : ∀ {a b : Session} {request : Request} {next : State}, R a b →
    a.Departs request next → R (a.departed next) (b.departed next)

namespace Lockstep

variable {R : Session → Session → Prop} {a b : Session}

/-- On a settled session related sessions decide alike. -/
theorem verdict (lockstep : Lockstep R) (h : R a b) (rests : ¬ a.script.Endless a.state)
    (request : Request) : request.verdict b.rested.director = request.verdict a.rested.director :=
  have hrested := lockstep.rested h
  (request.verdict_congr (lockstep.state hrested)
    (lockstep.current hrested (not_onBranch_rested rests))).symm

theorem departs_iff (lockstep : Lockstep R) (h : R a b) (request : Request) (next : State) :
    a.Departs request next ↔ b.Departs request next := by
  unfold Departs
  rw [← lockstep.endless h]
  refine and_congr_right fun rests => ?_
  rw [lockstep.verdict h rests]

/-- Related sessions accept the same requests. -/
theorem accepts (lockstep : Lockstep R) (h : R a b) (request : Request) :
    a.accepts request = b.accepts request := by
  rw [Bool.eq_iff_iff, accepts_iff, accepts_iff]
  exact exists_congr (lockstep.departs_iff h request)

theorem shown (lockstep : Lockstep R) (h : R a b) (rests : ¬ a.script.Endless a.state) :
    b.rested.shown = a.rested.shown :=
  congrArg Presentation.ofStep
    (lockstep.current (lockstep.rested h) (not_onBranch_rested rests)).symm

/-- Requests on endless chains of branches are refused alike. -/
theorem ask_of_endless (lockstep : Lockstep R) (h : R a b) (request : Request)
    (endless : a.script.Endless a.state) :
    a.answer (.ask request) = b.answer (.ask request) ∧
      R (a.after (.ask request)) (b.after (.ask request)) := by
  obtain ⟨hanswer, hafter⟩ := Session.ask_of_endless request endless
  obtain ⟨hanswer', hafter'⟩ := Session.ask_of_endless request ((lockstep.endless h).mp endless)
  have hposition : a.position = b.position := congrArg State.position (lockstep.state h)
  rw [hanswer, hanswer', hafter, hafter', hposition]
  exact ⟨rfl, lockstep.rested h⟩

/-- Related sessions show the same. -/
theorem present (lockstep : Lockstep R) (h : R a b) :
    a.answer (.ask .present) = b.answer (.ask .present) ∧
      R (a.after (.ask .present)) (b.after (.ask .present)) := by
  by_cases endless : a.script.Endless a.state
  · exact lockstep.ask_of_endless h .present endless
  · obtain ⟨hanswer, hafter⟩ := present_of_not_endless endless
    obtain ⟨hanswer', hafter'⟩ := present_of_not_endless (mt (lockstep.endless h).mpr endless)
    rw [hanswer, hanswer', hafter, hafter', lockstep.shown h endless]
    exact ⟨rfl, lockstep.rested h⟩

/-- **A request is answered alike, and leaves related sessions.** -/
theorem ask (lockstep : Lockstep R) (h : R a b) (request : Request) :
    a.answer (.ask request) = b.answer (.ask request) ∧
      R (a.after (.ask request)) (b.after (.ask request)) := by
  by_cases endless : a.script.Endless a.state
  · exact lockstep.ask_of_endless h request endless
  have rests : ¬ b.script.Endless b.state := mt (lockstep.endless h).mpr endless
  have hverdict := lockstep.verdict h endless request
  cases decided : request.verdict a.rested.director with
  | refuse error =>
    obtain ⟨hanswer, hafter⟩ := ask_of_refuse endless decided
    obtain ⟨hanswer', hafter'⟩ := ask_of_refuse rests (hverdict.trans decided)
    rw [hanswer, hanswer', hafter, hafter']
    exact ⟨rfl, lockstep.rested h⟩
  | stay =>
    obtain ⟨hanswer, hafter⟩ := ask_of_stay endless decided
    obtain ⟨hanswer', hafter'⟩ := ask_of_stay rests (hverdict.trans decided)
    rw [hanswer, hanswer', hafter, hafter', lockstep.shown h endless]
    exact ⟨rfl, lockstep.rested h⟩
  | go next =>
    have departs : a.Departs request next := ⟨endless, decided⟩
    obtain ⟨hanswer, hafter⟩ := ask_of_departs departs
    obtain ⟨hanswer', hafter'⟩ := ask_of_departs ⟨rests, hverdict.trans decided⟩
    rw [hanswer, hanswer', hafter, hafter']
    exact lockstep.present (lockstep.departed h departs)

end Lockstep

/-- **Requests never look at the history**: sessions with one director go on together. -/
theorem lockstep_director : Lockstep fun a b => a.director = b.director where
  state h := congrArg Director.state h
  endless h := by
    unfold script state
    rw [h]
  current h _ := congrArg Director.current h
  rested h := congrArg (fun director : Director =>
    { director with state := director.script.settled director.state }) h
  departed {_ _ _ next} h _ :=
    congrArg (fun director : Director => { director with state := next }) h

theorem ask_congr {a b : Session} (h : a.director = b.director) (request : Request) :
    a.answer (.ask request) = b.answer (.ask request) ∧
      (a.after (.ask request)).director = (b.after (.ask request)).director :=
  lockstep_director.ask h request

end Session

end Narrative
