import Narrative.Proofs.Lockstep

/-!
# Undoing moves

The accepted requests of a run are its moves. Each stores the settled state it was made in, so the
newest snapshots are the states of the newest moves, as far back as the history reaches. An undo
steps back by one of them: a snapshot is settled already, so showing it leaves it as it is.

* `snapshots_serve`: after a run the snapshots are those of its moves, newest first, on top of
  the old ones, cut off at the limit;
* `undo_trail`: `k` undos drop `k` states from the trail of the current state and its snapshots;
* **`undo_inverts_moves`**: `k` undos lead back to where the `k`-th newest move was made, and the
  same move made there again has the same effect.
-/

namespace Narrative

namespace Session

variable {session : Session}

/-! ## Moves of a run -/

/-- An accepted request and the session it was made in. -/
structure Move where
  before : Session
  request : Request

/-- The session a move leaves. -/
def Move.after (move : Move) : Session := move.before.after (.ask move.request)

/-- The moves among requests made one after the other, in order. -/
def moves (session : Session) : List Request → List Move
  | [] => []
  | request :: requests =>
    let later := (session.after (.ask request)).moves requests
    if session.accepts request then ⟨session, request⟩ :: later else later

/-- The session after requests made one after the other. -/
def serve (session : Session) (requests : List Request) : Session :=
  session.afterAll (requests.map .ask)

@[simp] theorem serve_cons (session : Session) (request : Request) (requests : List Request) :
    session.serve (request :: requests) = (session.after (.ask request)).serve requests := rfl

@[simp] theorem script_serve (session : Session) (requests : List Request) :
    (session.serve requests).script = session.script :=
  script_afterAll session (requests.map .ask)

theorem moves_cons_of_accepts {request : Request} (h : session.accepts request = true)
    (requests : List Request) :
    session.moves (request :: requests) =
      ⟨session, request⟩ :: (session.after (.ask request)).moves requests := by
  rw [moves, if_pos h]

theorem moves_cons_of_not_accepts {request : Request} (h : ¬ session.accepts request = true)
    (requests : List Request) :
    session.moves (request :: requests) = (session.after (.ask request)).moves requests := by
  rw [moves, if_neg h]

/-- Cutting a tail first does not change what a cut keeps. -/
theorem take_append_take {α : Type} (n : Nat) (xs ys : List α) :
    (xs ++ ys.take n).take n = (xs ++ ys).take n := by
  rw [List.take_append, List.take_append, List.take_take, Nat.min_eq_left (Nat.sub_le _ _)]

/-- **The snapshots after a run**: those of its moves, newest first, on top of the old ones. -/
theorem snapshots_serve (session : Session) (requests : List Request) :
    (session.serve requests).history.snapshots =
      (((session.moves requests).map (·.before.rested.state)).reverse ++
        session.history.snapshots).take session.history.limit := by
  induction requests generalizing session with
  | nil =>
    exact (List.take_of_length_le session.history.length_snapshots_le).symm
  | cons request requests ih =>
    have hhistory := history_after_ask session request
    rw [serve_cons, ih, limit_after]
    by_cases h : session.accepts request = true
    · rw [if_pos h] at hhistory
      rw [hhistory, moves_cons_of_accepts h, History.snapshots_push, take_append_take,
        List.map_cons, List.reverse_cons, List.append_assoc, List.singleton_append]
    · rw [if_neg h] at hhistory
      rw [hhistory, moves_cons_of_not_accepts h]

/-- A move of a run splits it: the requests after the move make the moves after it. -/
theorem serve_after_move {requests : List Request} {i : Nat} {move : Move}
    (h : (session.moves requests)[i]? = some move) :
    move.before.accepts move.request = true ∧ move.before.setup = session.setup ∧
      ∃ later, session.serve requests = move.after.serve later ∧
        (session.moves requests).length = i + 1 + (move.after.moves later).length := by
  induction requests generalizing session i with
  | nil => exact absurd h (by simp [moves])
  | cons request requests ih =>
    by_cases haccepts : session.accepts request = true
    · rw [moves_cons_of_accepts haccepts] at h ⊢
      cases i with
      | zero =>
        obtain rfl : ⟨session, request⟩ = move := by simpa using h
        refine ⟨haccepts, rfl, requests, rfl, ?_⟩
        rw [List.length_cons, Nat.add_comm, Nat.zero_add]
        rfl
      | succ i =>
        obtain ⟨hmove, hsetup, later, hserve, hlength⟩ := ih (by simpa using h)
        refine ⟨hmove, by rw [hsetup, setup_after], later, hserve, ?_⟩
        rw [List.length_cons, hlength]
        omega
    · rw [moves_cons_of_not_accepts haccepts] at h ⊢
      obtain ⟨hmove, hsetup, later, hserve, hlength⟩ := ih h
      exact ⟨hmove, by rw [hsetup, setup_after], later, hserve, hlength⟩

/-! ## Undoing several times -/

/-- A session that rests shows its current step and stays as it is. -/
theorem present_of_rests (h : ¬ session.script.OnBranch session.state) :
    session.answer (.ask .present) = some (.ok session.shown) ∧
      session.after (.ask .present) = session := by
  have hpresent := present_of_not_endless (Script.not_endless_of_not_onBranch h)
  rw [rested_of_not_onBranch h] at hpresent
  exact hpresent

/-- Undoing a snapshot off the branches restores exactly that snapshot. -/
theorem undo_of_rests {snapshot : State} {rest : List State}
    (h : session.history.snapshots = snapshot :: rest)
    (hrest : ¬ session.script.OnBranch snapshot) :
    session.answer .undo = some (.ok (session.restored snapshot).shown) ∧
      session.after .undo = session.restored snapshot := by
  obtain ⟨hanswer, hafter⟩ := undo_of_cons h
  obtain ⟨hshown, hstays⟩ := @present_of_rests (session.restored snapshot) hrest
  exact ⟨hanswer.trans hshown, hafter.trans hstays⟩

/-- The current state on top of the snapshots. -/
def trail (session : Session) : List State := session.state :: session.history.snapshots

/-- The session after a number of undos. -/
def undone (session : Session) (k : Nat) : Session := session.afterAll (List.replicate k .undo)

theorem trail_restored (session : Session) (snapshot : State) :
    (session.restored snapshot).trail = snapshot :: session.history.snapshots.tail := by
  unfold trail
  rw [state_restored, history_restored, History.snapshots_older]

/-- **Undoing goes back along the trail**, as long as the snapshots are off the branches: `k` undos
drop `k` states, and each shows the state it comes to. -/
theorem undo_trail {k : Nat} (hk : k ≤ session.history.snapshots.length)
    (hrest : ∀ snapshot ∈ session.history.snapshots.take k, ¬ session.script.OnBranch snapshot) :
    (session.undone k).trail = session.trail.drop k ∧
      session.answers (List.replicate k .undo) =
        (session.history.snapshots.take k).map fun snapshot =>
          some (.ok (session.withState snapshot).shown) := by
  induction k generalizing session with
  | zero => exact ⟨rfl, rfl⟩
  | succ k ih =>
    cases hsnapshots : session.history.snapshots with
    | nil =>
      rw [hsnapshots] at hk
      exact absurd hk (by simp)
    | cons snapshot rest =>
      rw [hsnapshots] at hk hrest
      have hnewest := hrest snapshot (by simp)
      obtain ⟨hanswer, hafter⟩ := undo_of_rests hsnapshots hnewest
      have holder : (session.restored snapshot).history.snapshots = rest := by
        rw [history_restored, History.snapshots_older, hsnapshots, List.tail_cons]
      obtain ⟨htrail, hanswers⟩ := @ih (session.restored snapshot)
        (by rw [holder]; exact Nat.le_of_succ_le_succ hk)
        (by
          rw [holder]
          exact fun older hmem => hrest older (List.mem_cons_of_mem _ hmem))
      constructor
      · have hstep : session.undone (k + 1) = (session.restored snapshot).undone k := by
          unfold undone
          rw [List.replicate_succ, afterAll_cons, hafter]
        rw [hstep, htrail, trail_restored, hsnapshots, List.tail_cons]
        unfold trail
        rw [hsnapshots, List.drop_succ_cons]
      · rw [List.replicate_succ, answers, hanswer, hafter, hanswers, holder, List.take_succ_cons,
          List.map_cons]
        rfl

/-! ## Undoing the moves of a run -/

/-- The settled session in which a move was made rests. -/
theorem Move.rests {move : Move} (haccepts : move.before.accepts move.request = true) :
    ¬ move.before.script.OnBranch move.before.rested.state := by
  obtain ⟨next, rests, -⟩ := accepts_iff.mp haccepts
  exact not_onBranch_rested rests

/-- The moves of a run are made on steps that are no branches. -/
theorem Move.not_onBranch {requests : List Request} {move : Move}
    (h : move ∈ session.moves requests) :
    ¬ session.script.OnBranch move.before.rested.state := by
  obtain ⟨i, hi⟩ := List.mem_iff_getElem?.mp h
  obtain ⟨haccepts, hsetup, -⟩ := serve_after_move hi
  have hscript : move.before.script = session.script := congrArg Prod.fst hsetup
  rw [← hscript]
  exact move.rests haccepts

/-- A move is on record right after it is made. -/
theorem Move.history_after {move : Move} (haccepts : move.before.accepts move.request = true) :
    move.after.history = move.before.history.push move.before.rested.state := by
  unfold Move.after
  rw [history_after_ask, if_pos haccepts]

/-- **Where a move is on record**: below the snapshots of the `k - 1` moves since, if the history
reaches that far. -/
theorem snapshots_down_to_move {move : Move} (haccepts : move.before.accepts move.request = true)
    {later : List Request} {k : Nat} (hk : (move.after.moves later).length + 1 = k)
    (hlimit : k ≤ move.before.history.limit) :
    ∃ newer older : List State,
      (move.after.serve later).history.snapshots = newer ++ move.before.rested.state :: older ∧
      newer.length + 1 = k ∧
      ∀ snapshot ∈ newer ++ [move.before.rested.state], ¬ move.before.script.OnBranch snapshot := by
  obtain ⟨room, hroom⟩ := Nat.exists_eq_add_of_le hlimit
  refine ⟨((move.after.moves later).map (·.before.rested.state)).reverse,
    move.before.history.snapshots.take room, ?_, ?_, ?_⟩
  · have hshort : (move.after.moves later).length ≤ move.before.history.limit := by omega
    have hleft : move.before.history.limit - (move.after.moves later).length = room + 1 := by omega
    rw [snapshots_serve, move.history_after haccepts, History.snapshots_push, History.limit_push,
      take_append_take, List.take_append, List.length_reverse, List.length_map, hleft,
      List.take_succ_cons, List.take_of_length_le (by simpa using hshort)]
  · rw [List.length_reverse, List.length_map, hk]
  · intro snapshot hmem
    rcases List.mem_append.mp hmem with hmem | hmem
    · obtain ⟨newer, hmove, rfl⟩ := List.mem_map.mp (List.mem_reverse.mp hmem)
      have hrest := Move.not_onBranch hmove
      rwa [Move.after, script_after] at hrest
    · rw [List.mem_singleton.mp hmem]
      exact move.rests haccepts

/-- **Undoing back to a move.** As many undos as there were moves since, and one more, restore the
session that made the move, settled, as far as the history reaches. -/
theorem undo_to_move {move : Move} (haccepts : move.before.accepts move.request = true)
    {later : List Request} {k : Nat} (hk : (move.after.moves later).length + 1 = k)
    (hlimit : k ≤ move.before.history.limit) :
    ((move.after.serve later).undone k).director = move.before.rested.director ∧
      ((move.after.serve later).undone k).history.snapshots =
        (move.after.serve later).history.snapshots.drop k ∧
      (∀ answer ∈ (move.after.serve later).answers (List.replicate k .undo),
        ∃ shown, answer = some (.ok shown)) ∧
      ((move.after.serve later).answers (List.replicate k .undo)).getLast? =
        some (some (.ok move.before.rested.shown)) := by
  obtain ⟨newer, older, hsnapshots, hlength, hrest⟩ := snapshots_down_to_move haccepts hk hlimit
  have hsetup : (move.after.serve later).setup = move.before.rested.setup := by
    rw [serve, setup_afterAll, Move.after, setup_after, setup_rested]
  have hscript : (move.after.serve later).script = move.before.script := congrArg Prod.fst hsetup
  generalize move.after.serve later = left at hsnapshots hsetup hscript ⊢
  have hconcat : (newer ++ [move.before.rested.state]).length = k := by
    rw [List.length_append, List.length_singleton, hlength]
  have htake : left.history.snapshots.take k = newer ++ [move.before.rested.state] := by
    rw [hsnapshots, List.append_cons, List.take_left' hconcat]
  have hdrop : left.history.snapshots.drop k = older := by
    rw [hsnapshots, List.append_cons, List.drop_left' hconcat]
  have hreach : k ≤ left.history.snapshots.length := by
    rw [hsnapshots, List.length_append, List.length_cons]
    omega
  rw [← htake, ← hscript] at hrest
  obtain ⟨htrail, hanswers⟩ := undo_trail hreach hrest
  have hback : left.trail.drop k = move.before.rested.state :: older := by
    unfold trail
    rw [← hlength, List.drop_succ_cons, hsnapshots, List.drop_left]
  rw [hback] at htrail
  obtain ⟨hstate, hrecord⟩ := List.cons.inj htrail
  refine ⟨?_, hrecord.trans hdrop.symm, ?_, ?_⟩
  · refine director_eq_of_setup ?_ hstate
    rw [undone, setup_afterAll, hsetup]
  · rw [hanswers]
    intro answer hmem
    obtain ⟨snapshot, -, rfl⟩ := List.mem_map.mp hmem
    exact ⟨_, rfl⟩
  · have hdirector : (left.withState move.before.rested.state).director =
        move.before.rested.director := director_eq_of_setup hsetup rfl
    rw [hanswers, htake, List.map_append, List.map_singleton, List.getLast?_concat]
    unfold shown
    rw [hdirector]

/-- A move made again where it was made before has the same effect. -/
theorem redo_move {move : Move} {back : Session}
    (haccepts : move.before.accepts move.request = true)
    (hback : back.director = move.before.rested.director) :
    back.answer (.ask move.request) = move.before.answer (.ask move.request) ∧
      (back.after (.ask move.request)).director = move.after.director ∧
      (back.after (.ask move.request)).history =
        back.history.push move.before.rested.state := by
  obtain ⟨next, rests, hgo⟩ := accepts_iff.mp haccepts
  obtain ⟨hanswer, hafter⟩ := ask_congr hback move.request
  obtain ⟨hrested, hleft⟩ := ask_rested rests move.request
  have hrest : ¬ back.script.OnBranch back.state := by
    have hscript : back.script = move.before.rested.script := congrArg Director.script hback
    have hstate : back.state = move.before.rested.state := congrArg Director.state hback
    rw [hscript, hstate]
    exact move.rests haccepts
  have hself : back.rested = back := rested_of_not_onBranch hrest
  refine ⟨hanswer.trans hrested, hafter.trans (congrArg director hleft), ?_⟩
  have hdeparts : back.Departs move.request next := by
    refine ⟨Script.not_endless_of_not_onBranch hrest, ?_⟩
    rw [hself, hback]
    exact hgo
  rw [history_after_ask, if_pos (accepts_iff.mpr ⟨next, hdeparts⟩), hself]
  exact congrArg (back.history.push ·) (congrArg Director.state hback)

/-- Requests that are no moves leave the history alone. -/
theorem history_serve_of_moves_eq_nil {requests : List Request} (h : session.moves requests = []) :
    (session.serve requests).history = session.history := by
  apply History.ext
  · rw [snapshots_serve, h]
    exact List.take_of_length_le session.history.length_snapshots_le
  · exact limit_afterAll session (requests.map .ask)

/-- Taking back the last move and storing its state again gives its history. -/
theorem redo_history {move : Move} (haccepts : move.before.accepts move.request = true)
    {later : List Request} (hlater : move.after.moves later = [])
    (hlimit : 1 ≤ move.before.history.limit)
    (hundone : ((move.after.serve later).undone 1).history.snapshots =
      (move.after.serve later).history.snapshots.drop 1) :
    ((move.after.serve later).undone 1).history.push move.before.rested.state =
      move.after.history := by
  obtain ⟨room, hroom⟩ := Nat.exists_eq_add_of_le' hlimit
  have hnewest : move.after.history.snapshots =
      move.before.rested.state :: move.before.history.snapshots.take room := by
    rw [move.history_after haccepts, History.snapshots_push, hroom, List.take_succ_cons]
  have holder : ((move.after.serve later).undone 1).history = move.after.history.older := by
    apply History.ext
    · rw [hundone, history_serve_of_moves_eq_nil hlater, History.snapshots_older, List.drop_one]
    · rw [History.limit_older, ← history_serve_of_moves_eq_nil hlater]
      exact limit_afterAll _ (List.replicate 1 .undo)
  rw [holder]
  exact History.push_older hnewest

/-- **Undo is the inverse of moving, as far as the history reaches.** Of the `n` moves of a run, the
last `k` are taken back by `k` undos, if the history holds as many snapshots: all of them succeed,
and they lead to the settled state in which move `n - k + 1` was made and show what was shown there.
The same request made again has the same answer and leads to the same state; if it was the last
move, also to the same history. -/
theorem undo_inverts_moves (session : Session) (requests : List Request) {k : Nat} (hk : 1 ≤ k)
    (hmoves : k ≤ (session.moves requests).length) (hlimit : k ≤ session.history.limit) :
    ∃ (move : Move) (shown : Presentation),
      (session.moves requests)[(session.moves requests).length - k]? = some move ∧
      move.before.answer (.ask .present) = some (.ok shown) ∧
      (∀ answer ∈ (session.serve requests).answers (List.replicate k .undo),
        ∃ shown, answer = some (.ok shown)) ∧
      ((session.serve requests).answers (List.replicate k .undo)).getLast? =
        some (some (.ok shown)) ∧
      ((session.serve requests).undone k).state = (move.before.after (.ask .present)).state ∧
      ((session.serve requests).undone k).answer (.ask move.request) =
        move.before.answer (.ask move.request) ∧
      (((session.serve requests).undone k).after (.ask move.request)).state =
        move.after.state ∧
      (k = 1 → (((session.serve requests).undone k).after (.ask move.request)).history =
        move.after.history) := by
  obtain ⟨move, hmove⟩ : ∃ move,
      (session.moves requests)[(session.moves requests).length - k]? = some move :=
    ⟨_, List.getElem?_eq_getElem (by omega)⟩
  obtain ⟨haccepts, hsetup, later, hserve, hlength⟩ := serve_after_move hmove
  have hlimit' : k ≤ move.before.history.limit := by
    have hsame : move.before.history.limit = session.history.limit := congrArg (·.2.2) hsetup
    rw [hsame]
    exact hlimit
  have hlater : (move.after.moves later).length + 1 = k := by omega
  obtain ⟨hdirector, hsnapshots, hanswers, hlast⟩ :=
    undo_to_move haccepts hlater hlimit'
  obtain ⟨hanswer, hredone, hhistory⟩ := redo_move haccepts hdirector
  obtain ⟨next, rests, -⟩ := accepts_iff.mp haccepts
  obtain ⟨hshown, hpresented⟩ := present_of_not_endless rests
  rw [hserve]
  refine ⟨move, move.before.rested.shown, hmove, hshown, hanswers, hlast, ?_, hanswer,
    congrArg Director.state hredone, ?_⟩
  · rw [hpresented]
    exact congrArg Director.state hdirector
  · rintro rfl
    exact hhistory.trans (redo_history haccepts (by simpa using hlater) hlimit' hsnapshots)

/-- A game whose win leads into a branch to itself, with room for two snapshots. -/
def gameBeforeLoop : Session where
  director.script := ⟨[.say .narrator "Ready?", .startGame .dice, .awaitResult .lastResult,
    .branch .lastResult ⟨some 3, none, none, none⟩]⟩
  history := .empty 2

/-- Three moves, the last one into the loop, and two requests that are none. -/
def gameLost : List Request := [.present, .proceed, .choose 0, .proceed, .report .win]

/-- Two undos take the session out of the loop and back to the start of the game. -/
theorem undo_inverts_gameLost :
    2 ≤ (gameBeforeLoop.moves gameLost).length ∧ 2 ≤ gameBeforeLoop.history.limit ∧
    (gameBeforeLoop.moves gameLost).length = 3 ∧
    ((gameBeforeLoop.serve gameLost).undone 2).state = ⟨1, none⟩ ∧
    ∃ move shown, (gameBeforeLoop.moves gameLost)[1]? = some move ∧
      move.before.answer (.ask .present) = some (.ok shown) ∧
      ((gameBeforeLoop.serve gameLost).undone 2).answer (.ask move.request) =
        move.before.answer (.ask move.request) := by
  have hmoves : 2 ≤ (gameBeforeLoop.moves gameLost).length := by decide
  have hlimit : 2 ≤ gameBeforeLoop.history.limit := by decide
  obtain ⟨move, shown, hmove, hshown, -, -, -, hanswer, -⟩ :=
    undo_inverts_moves gameBeforeLoop gameLost (by decide) hmoves hlimit
  exact ⟨hmoves, hlimit, by decide, by decide, move, shown, hmove, hshown, hanswer⟩

end Session

end Narrative
