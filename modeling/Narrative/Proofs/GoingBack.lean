import Narrative.Proofs.Prompts

/-!
# Going back

Every accepted answer stores the state it was given in, and so does every marker that the player
goes through on its own. Going back takes the newest snapshot. If an answer led straight to the next
prompt, that is the state of the answer, and the prompt answered last is asked again. If there were
markers in between it is the state at the last of them; the player goes through that marker at once,
and arrives where it was.

* `Session.undo_of_push`: what undoing the newest snapshot restores;
* `Scene.returns_of_marker`: going through the last marker again leads back to the same session;
* **`Scene.back_after_answer`**: what going back after an accepted answer comes to.
-/

namespace Narrative

namespace Session

/-- Undoing restores the session that stored the newest snapshot. -/
theorem undo_of_push {session earlier : Session} (setup : session.setup = earlier.setup)
    (room : 0 < earlier.history.limit) (rests : ¬ earlier.script.OnBranch earlier.state)
    (pushed : session.history = earlier.history.push earlier.state) :
    session.answer .undo = some (.ok earlier.shown) ∧
      (session.after .undo).director = earlier.director ∧
      (session.after .undo).history = session.history.older ∧
      session.history.snapshots =
        earlier.state :: earlier.history.snapshots.take (earlier.history.limit - 1) := by
  have hsnapshots : session.history.snapshots =
      earlier.state :: earlier.history.snapshots.take (earlier.history.limit - 1) := by
    obtain ⟨limit, hlimit⟩ := Nat.exists_eq_succ_of_ne_zero room.ne'
    rw [pushed, History.snapshots_push, hlimit]
    rfl
  have hscript : session.script = earlier.script := congrArg Prod.fst setup
  have hdirector : (session.restored earlier.state).director = earlier.director :=
    director_eq_of_setup ((setup_restored ..).trans setup) rfl
  rw [← hscript] at rests
  obtain ⟨hanswer, hafter⟩ := undo_of_rests hsnapshots rests
  rw [hafter]
  refine ⟨hanswer.trans ?_, hdirector, rfl, hsnapshots⟩
  unfold shown
  rw [hdirector]

end Session

namespace Scene

variable {debug : Bool} {session asked : Session} {shown prompt : Presentation}
  {line back : Text.Line} {request : Request}

/-- An answer to the step that is shown is on record if the session accepts it. -/
theorem accepts_of_asks (shows : session.Shows shown) (asks : shown.Asks line request)
    {next : Presentation} (accepted : session.answer (.ask request) = some (.ok next)) :
    session.accepts request = true := by
  have hself := Session.rested_of_not_onBranch shows.rests
  cases Session.course session request with
  | cycle _ answer _ => exact absurd (accepted.symm.trans answer) (by simp)
  | refused _ _ _ answer _ => exact absurd (accepted.symm.trans answer) (by simp)
  | trapped _ _ _ answer _ => exact absurd (accepted.symm.trans answer) (by simp)
  | moved next departs _ _ _ => exact Session.accepts_iff.mpr ⟨next, departs⟩
  | stayed _ decided _ _ =>
    rw [hself] at decided
    rw [shows.shows] at asks
    exact absurd decided asks.answers.verdict_ne_stay

/-- **Without markers in between**, the prompt that was answered is asked again. -/
theorem respond_back_of_push (prompts : Prompts shown) (shows : session.Shows shown)
    (setup : asked.setup = session.setup) (room : 0 < session.history.limit)
    (pushed : asked.history = session.history.push session.state) (goesBack : back.GoesBack) :
    ∃ restored, respond debug asked prompt back =
        ⟨.wentBack :: (status debug restored ++ display shown), .asking restored shown⟩ ∧
      restored.director = session.director ∧
      restored.history.snapshots = session.history.snapshots.take (session.history.limit - 1) := by
  obtain ⟨hundone, hdirector, hhistory, hsnapshots⟩ :=
    Session.undo_of_push setup room shows.rests pushed
  rw [← shows.shows] at hundone
  refine ⟨asked.after .undo, ?_, hdirector, ?_⟩
  · rw [respond_of_undone goesBack hundone, view, follow_of_prompts prompts]
    rfl
  · rw [hhistory, History.snapshots_older, hsnapshots, List.tail_cons]

/-- **Behind a marker**, going back leads to the marker, and the marker leads to where the session
was: nothing has changed. -/
theorem returns_of_marker {marker : Session} (onMarker : marker.script.OnMarker marker.state)
    (room : 0 < marker.history.limit)
    (proceeds : marker.answer (.ask .proceed) = some (.ok prompt)) (prompts : Prompts prompt)
    (goesBack : back.GoesBack) :
    (respond debug (marker.after (.ask .proceed)) prompt back).stage =
      .asking (marker.after (.ask .proceed)) prompt := by
  obtain ⟨-, hpushed, -⟩ := Session.proceed_of_onMarker onMarker
  obtain ⟨hundone, hdirector, hhistory, hsnapshots⟩ :=
    Session.undo_of_push (Session.setup_after ..) room onMarker.not_onBranch hpushed
  generalize hundo : (marker.after (.ask .proceed)).after .undo = restored at hdirector hhistory
  obtain ⟨hanswer, hafter⟩ := Session.ask_congr hdirector .proceed
  have hagain : restored.script.OnMarker restored.state := by
    unfold Session.script Session.state
    rw [hdirector]
    exact onMarker
  -- the snapshot of the marker was taken from the history, and is stored there again
  have hrecorded : (restored.after (.ask .proceed)).history =
      (marker.after (.ask .proceed)).history := by
    obtain ⟨-, hrecorded, -⟩ := Session.proceed_of_onMarker hagain
    have hstate : restored.state = marker.state := congrArg Director.state hdirector
    rw [hrecorded, hhistory, hstate, History.push_older hsnapshots]
  have hreturns : restored.after (.ask .proceed) = marker.after (.ask .proceed) :=
    congrArg₂ Session.mk hafter hrecorded
  have hfollow : follow debug (markerLimit restored) restored marker.shown = _ :=
    follow_of_proceeds onMarker (hanswer.trans proceeds)
  rw [hreturns, follow_of_prompts prompts] at hfollow
  rw [respond_of_undone goesBack hundone, hundo, stage_after]
  exact congrArg stage hfollow

/-- **Going back after an answer.** An accepted answer that leads straight to the next prompt is
taken back: the prompt it answered is asked again, in the same state, with the history as it was but
for the snapshot that the answer pushed out. If the answer led to a marker, going back never leads
out of the prompt behind the markers, however often it is tried: each time the session returns to
it with the same state and history. -/
theorem back_after_answer (reachable : session.Reachable) (room : 0 < session.history.limit)
    {lines : List Text.Line} {answered : Session}
    (asks : (typedAll debug (start debug session) lines).stage = .asking answered shown)
    (answers : shown.Asks line request) {next : Presentation}
    (accepted : answered.answer (.ask request) = some (.ok next))
    (arrives : (respond debug answered shown line).stage = .asking asked prompt) :
    (isMarker next = false → ∀ back, back.GoesBack →
      ∃ restored, respond debug asked prompt back =
          ⟨.wentBack :: (status debug restored ++ display shown), .asking restored shown⟩ ∧
        restored.director = answered.director ∧
        restored.history.snapshots =
          answered.history.snapshots.take (answered.history.limit - 1)) ∧
    (isMarker next = true → ∀ backs : List Text.Line, (∀ back ∈ backs, back.GoesBack) →
      (typedAll debug (respond debug answered shown line) backs).stage = .asking asked prompt) := by
  have standing := standing_typedAll reachable room asks
  have shows := standing.shows (standing.not_lost_of_accepted accepted)
  have hself := Session.rested_of_not_onBranch shows.rests
  have hhistory := Session.history_after_ask answered request
  rw [if_pos (accepts_of_asks shows answers accepted), hself] at hhistory
  have hshows : (answered.after (.ask request)).Shows next := .of_answer accepted
  have arrives' := arrives
  rw [respond_of_accepted answers accepted] at arrives'
  obtain ⟨-, hprompts, -, hlast⟩ := asks_of_follow hshows arrives'
  constructor
  · intro hunmarked back hback
    obtain ⟨-, rfl, rfl⟩ := asks_of_unmarked hunmarked arrives'
    exact respond_back_of_push standing.prompts shows (Session.setup_after ..) standing.room
      hhistory hback
  · intro hmarked backs
    obtain ⟨marker, honMarker, hproceeds, rfl⟩ := hlast hmarked
    have hroom : 0 < marker.history.limit := by
      rw [← Session.limit_after marker (.ask .proceed)]
      exact (standing.typed arrives).room
    -- every time the play is where it was before
    induction backs using List.reverseRecOn with
    | nil => exact fun _ => arrives
    | append_singleton backs back ih =>
      intro hbacks
      have hstage := ih fun back hmem => hbacks back (List.mem_append_left _ hmem)
      rw [typedAll_concat, typed_of_asking hstage, stage_after]
      exact returns_of_marker honMarker hroom hproceeds hprompts (hbacks back (by simp))

/-- A line of dialogue, a game and another line. -/
def diceGame : Session := .fresh
  ⟨[.say .narrator "We play.", .startGame .dice, .awaitResult .lastResult, .say .narrator "Over."]⟩

/-- The session that waits for the result of the game. -/
def diceRolled : Session := diceGame.serve [.proceed, .proceed]

/-- Behind the start of the game, going back asks for the result again, not for the line before. -/
theorem back_stays_diceGame :
    (start false diceGame).stage = .asking diceGame (.dialogue .narrator "We play.") ∧
    (respond false diceGame (.dialogue .narrator "We play.") (.text "\n")).stage =
      .asking diceRolled (.awaitingResult .lastResult) ∧
    (respond false diceRolled (.awaitingResult .lastResult) (.text "b\n")).stage =
      .asking diceRolled (.awaitingResult .lastResult) ∧
    diceRolled.state ≠ diceGame.state := by
  decide +kernel

/-- The result can be taken back: it led straight to the next line. -/
theorem back_after_answer_diceRolled :
    diceGame.Reachable ∧ 0 < diceGame.history.limit ∧
    (typedAll false (start false diceGame) [.text "\n"]).stage =
      .asking diceRolled (.awaitingResult .lastResult) ∧
    diceRolled.answer (.ask (.report .win)) = some (.ok (.dialogue .narrator "Over.")) ∧
    ∃ restored, respond false (diceRolled.after (.ask (.report .win)))
        (.dialogue .narrator "Over.") (.text "b\n") =
          ⟨[.wentBack, .awaiting], .asking restored (.awaitingResult .lastResult)⟩ ∧
      restored.director = diceRolled.director := by
  have hreachable : diceGame.Reachable := .fresh _ _
  have hroom : 0 < diceGame.history.limit := by decide
  have hasks : (typedAll false (start false diceGame) [.text "\n"]).stage =
      .asking diceRolled (.awaitingResult .lastResult) := by decide +kernel
  have hanswers : (Presentation.awaitingResult .lastResult).Asks (.text "win\n") (.report .win) :=
    ⟨"win\n", "win", rfl, by decide +kernel, by decide +kernel⟩
  have haccepted : diceRolled.answer (.ask (.report .win)) =
      some (.ok (.dialogue .narrator "Over.")) := by decide +kernel
  have harrives : (respond false diceRolled (.awaitingResult .lastResult) (.text "win\n")).stage =
      .asking (diceRolled.after (.ask (.report .win))) (.dialogue .narrator "Over.") := by
    decide +kernel
  have hback : (Text.Line.text "b\n").GoesBack := ⟨"b\n", rfl, by decide +kernel⟩
  obtain ⟨htakenBack, -⟩ := back_after_answer hreachable hroom hasks hanswers haccepted harrives
  obtain ⟨restored, hrespond, hdirector, -⟩ := htakenBack rfl _ hback
  exact ⟨hreachable, hroom, hasks, haccepted, restored, hrespond, hdirector⟩

end Scene

end Narrative
