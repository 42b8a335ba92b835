import Narrative.Proofs.Saves
import Narrative.Proofs.Undo

/-!
# Sessions that remember less

How far a session can be undone depends on how many snapshots it may keep and on where it started: a
session resumed from a save starts with none. Up to the undo that finds nothing left, none of this
shows.

`Outlasts` is the relation between two such sessions: they are at the same point of one script, and
the newest snapshots of the one are all the snapshots of the other. Every call that has an answer on
the one that remembers less keeps it (`call_of_outlasts`), though the two histories may drop
snapshots at different moments.

* `SamePoint.ask`: requests depend on the script and the state alone, not on history or log filter;
* **`memory_is_transparent`**: until the session that remembers less has nothing to undo, both give
  the same answers and are in the same states.
-/

namespace Narrative

namespace Session

/-! ## The same point of a script -/

/-- Two sessions of one script in the same state. -/
structure SamePoint (a b : Session) : Prop where
  script_eq : a.script = b.script
  state_eq : a.state = b.state

namespace SamePoint

variable {a b : Session}

theorem current_eq (h : SamePoint a b) : a.director.current = b.director.current := by
  change a.script.get a.state.position = b.script.get b.state.position
  rw [h.script_eq, h.state_eq]

/-- Sessions at the same point go on together. -/
theorem lockstep : Lockstep SamePoint where
  state h := h.state_eq
  endless h := by rw [h.script_eq, h.state_eq]
  current h _ := h.current_eq
  rested h := ⟨h.script_eq, by rw [state_rested, state_rested, h.script_eq, h.state_eq]⟩
  departed h _ := ⟨h.script_eq, rfl⟩

/-- **Requests look at nothing but the script and the state.** -/
theorem ask (h : SamePoint a b) (request : Request) :
    a.answer (.ask request) = b.answer (.ask request) ∧
      SamePoint (a.after (.ask request)) (b.after (.ask request)) :=
  lockstep.ask h request

end SamePoint

/-! ## Shorter memories -/

/-- The second session is at the same point as the first and remembers no more: it has the newest of
its snapshots and may keep no more of them. -/
structure Outlasts (a b : Session) : Prop extends SamePoint a b where
  limit_le : b.history.limit ≤ a.history.limit
  snapshots : b.history.snapshots <+: a.history.snapshots

variable {a b : Session}

/-- Storing a snapshot in both keeps the newest snapshots in both, whichever of them is full. -/
theorem prefix_push {longer shorter : History} (limit : shorter.limit ≤ longer.limit)
    (snapshots : shorter.snapshots <+: longer.snapshots) (state : State) :
    (shorter.push state).snapshots <+: (longer.push state).snapshots := by
  rw [History.snapshots_push, History.snapshots_push, List.prefix_take_iff]
  constructor
  · exact (List.take_prefix _ _).trans (List.cons_prefix_cons.mpr ⟨rfl, snapshots⟩)
  · exact Nat.le_trans (List.length_take_le _ _) limit

/-- Requests are answered alike and remembered alike. -/
theorem ask_of_outlasts (h : Outlasts a b) (request : Request) :
    a.answer (.ask request) = b.answer (.ask request) ∧
      Outlasts (a.after (.ask request)) (b.after (.ask request)) := by
  obtain ⟨hanswer, hpoint⟩ := h.toSamePoint.ask request
  refine ⟨hanswer, hpoint, ?_, ?_⟩
  · rw [limit_after, limit_after]
    exact h.limit_le
  · rw [history_after_ask, history_after_ask, SamePoint.lockstep.accepts h.toSamePoint,
      (SamePoint.lockstep.rested h.toSamePoint).state_eq]
    split
    · exact prefix_push h.limit_le h.snapshots b.rested.state
    · exact h.snapshots

/-- **A call that has an answer keeps the relation.** -/
theorem call_of_outlasts (h : Outlasts a b) {call : Call}
    (reaches : call = .undo → b.canUndo = true) :
    a.answer call = b.answer call ∧ Outlasts (a.after call) (b.after call) := by
  cases call with
  | ask request => exact ask_of_outlasts h request
  | undo =>
    have hnewest : ∃ snapshot rest, b.history.snapshots = snapshot :: rest := by
      have hundo := reaches rfl
      unfold canUndo History.canUndo at hundo
      cases hsnapshots : b.history.snapshots with
      | nil => simp [hsnapshots] at hundo
      | cons snapshot rest => exact ⟨snapshot, rest, rfl⟩
    obtain ⟨snapshot, rest, hshorter⟩ := hnewest
    have hprefix := h.snapshots
    rw [hshorter] at hprefix
    obtain ⟨older, hlonger⟩ := hprefix
    obtain ⟨hanswer, hafter⟩ := undo_of_cons hlonger.symm
    obtain ⟨hanswer', hafter'⟩ := undo_of_cons hshorter
    have hrestored : Outlasts (a.restored snapshot) (b.restored snapshot) := by
      refine ⟨⟨h.script_eq, rfl⟩, ?_, ?_⟩
      · rw [history_restored, history_restored, History.limit_older, History.limit_older]
        exact h.limit_le
      · rw [history_restored, history_restored, History.snapshots_older, History.snapshots_older,
          hshorter, ← hlonger, List.cons_append, List.tail_cons, List.tail_cons]
        exact List.prefix_append rest older
    rw [hanswer, hanswer', hafter, hafter']
    exact ask_of_outlasts hrestored .present

/-- What can be seen of calls: what each answers and the state it leaves. -/
def views (session : Session) :
    List Call → List (Option (Except SessionError Presentation) × State)
  | [] => []
  | call :: calls =>
    (session.answer call, (session.after call).state) :: (session.after call).views calls

/-- **A shorter memory does not show** before it is used up. -/
theorem views_of_outlasts (h : Outlasts a b) {calls : List Call}
    (reaches : ∀ earlier later, calls = earlier ++ .undo :: later →
      (b.afterAll earlier).canUndo = true) : b.views calls = a.views calls := by
  induction calls generalizing a b with
  | nil => rfl
  | cons call calls ih =>
    have hfirst : call = .undo → b.canUndo = true := by
      rintro rfl
      exact reaches [] calls rfl
    obtain ⟨hanswer, hafter⟩ := call_of_outlasts h hfirst
    rw [views, views, hanswer, hafter.state_eq, ih hafter]
    rintro earlier later rfl
    exact reaches (call :: earlier) later rfl

/-- A session without snapshots is outlasted by every session at the same point, as long as it may
not keep more. -/
theorem outlasts_of_empty (h : SamePoint a b) {limit : Nat} (hhistory : b.history = .empty limit)
    (hlimit : limit ≤ a.history.limit) : Outlasts a b where
  toSamePoint := h
  limit_le := by
    rw [hhistory]
    exact hlimit
  snapshots := by
    rw [hhistory]
    exact List.nil_prefix

/-- **Undo depth and resuming do not show until undoing runs out.** Of two sessions at the same
point, one of which has the newest snapshots of the other and may keep no more, each call is
answered alike and leaves the same state, as long as every undo finds a snapshot in the shorter
history. So it is with sessions that differ in the depth of their histories, and with a session that
is resumed from a save of the other one. -/
theorem memory_is_transparent (a : Session) :
    (∀ b : Session, Outlasts a b → ∀ calls : List Call,
      (∀ earlier later, calls = earlier ++ .undo :: later →
        (b.afterAll earlier).canUndo = true) →
      b.views calls = a.views calls) ∧
    (∀ (director : Director) (depth depth' : Nat), depth' ≤ depth →
      Outlasts ⟨director, .empty depth⟩ ⟨director, .empty depth'⟩) ∧
    ∀ (filter : LogFilter) (depth : Nat), depth ≤ a.history.limit →
      ∃ state, a.script.load (a.script.save a.state).toByteArray = .ok state ∧
        Outlasts a ⟨{ script := a.script, state, filter }, .empty depth⟩ := by
  refine ⟨fun b h calls reaches => views_of_outlasts h reaches, ?_, ?_⟩
  · exact fun director depth depth' h => outlasts_of_empty ⟨rfl, rfl⟩ rfl h
  · intro filter depth h
    have hload := Script.load_of_save a.script a.script a.state
    rw [if_pos rfl] at hload
    exact ⟨a.state, hload, outlasts_of_empty ⟨rfl, rfl⟩ rfl h⟩

/-- The game before its result is reported, resumed with room for one snapshot and none stored. -/
def gameResumed : Session where
  director := { script := gameBeforeLoop.script, state := ⟨2, none⟩ }
  history := .empty 1

/-- Reporting the win and taking it back looks the same; the undo after that does not. -/
theorem memory_is_transparent_gameResumed :
    Outlasts (gameBeforeLoop.serve [.proceed, .proceed]) gameResumed ∧
    gameResumed.views [.ask (.report .win), .undo] =
      (gameBeforeLoop.serve [.proceed, .proceed]).views [.ask (.report .win), .undo] ∧
    gameResumed.answers [.ask (.report .win), .undo, .undo] ≠
      (gameBeforeLoop.serve [.proceed, .proceed]).answers [.ask (.report .win), .undo, .undo] := by
  obtain ⟨hviews, -, hresumes⟩ := memory_is_transparent (gameBeforeLoop.serve [.proceed, .proceed])
  obtain ⟨state, -, houtlasts⟩ := hresumes .standard 1 (by decide)
  obtain rfl : state = ⟨2, none⟩ := houtlasts.state_eq.symm
  refine ⟨houtlasts, hviews gameResumed houtlasts _ ?_, by decide⟩
  intro earlier later h
  rcases earlier with _ | ⟨call, _ | ⟨call', earlier⟩⟩
  · simp at h
  · obtain rfl : Call.ask (.report .win) = call := by simpa using congrArg List.head? h
    decide
  · simp at h

end Session

end Narrative
