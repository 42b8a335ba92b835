import Narrative.Proofs.Rounds

/-!
# Runs are made of rounds

The parts a run is put together from, with what each adds to a run under way: `Went` says how far a
run has come, `Does` what a part comes to that may end the run. Both are about the session, the host
and the events; lines logged are left open.

Results:
* `handled`: every step that is no end is handled in one of the ways of `Handled`;
* **`run_ran`**: every run is made of rounds, and its result says how it was closed;
* `exists_requests_of_finished`: a finished run has presented the end.
-/

namespace Narrative

variable {σ : Type}

/-! ## The parts of a round -/

/-- Where a run under way stands. -/
def Progress.point (progress : Progress σ) : RunPoint σ := ⟨progress.session, progress.host⟩

/-- A run gets from one stage to another by rendering `n` steps, with these events. -/
structure Went (host : Host σ) (before after : Progress σ) (n : Nat) (events : List RunEvent) :
    Prop where
  point : after.point = before.point.after host events
  transitions : after.transitions = before.transitions + n
  events : after.events.toList = before.events.toList ++ events

namespace Went

variable {host : Host σ} {before after final : Progress σ} {m n : Nat}
  {events later : List RunEvent}

theorem refl (progress : Progress σ) : Went host progress progress 0 [] :=
  ⟨rfl, rfl, (List.append_nil _).symm⟩

theorem counted (progress : Progress σ) : Went host progress progress.counted 1 [] :=
  ⟨rfl, rfl, (List.append_nil _).symm⟩

theorem trans (first : Went host before after m events) (second : Went host after final n later) :
    Went host before final (m + n) (events ++ later) where
  point := by rw [second.point, first.point, RunPoint.after_append]
  transitions := by rw [second.transitions, first.transitions, Nat.add_assoc]
  events := by rw [second.events, first.events, List.append_assoc]

end Went

/-- What a part of a run comes to that makes these events and then stops the run, if anything stops
it. -/
structure Does (host : Host σ) (before : Progress σ) (events : List RunEvent)
    (stop : Option RunStop) (result : Except RunEnd Unit × Progress σ) : Prop where
  went : Went host before result.2 0 events
  ended : result.1 = stop.elim (.ok ()) fun stop => .error (stop.map result.2.summary)

namespace Run

variable {α β : Type} {host : Host σ} {progress after : Progress σ} {events later : List RunEvent}
  {stop : Option RunStop}

theorem bind_of_ok {part : Run σ α} {next : α → Run σ β} {a : α}
    (h : part progress = (.ok a, after)) : (part >>= next) progress = next a after := by
  change Run.bind part next progress = _
  unfold Run.bind
  rw [h]

theorem bind_of_error {part : Run σ α} {next : α → Run σ β} {ended : RunEnd}
    (h : part progress = (.error ended, after)) :
    (part >>= next) progress = (.error ended, after) := by
  change Run.bind part next progress = _
  unfold Run.bind
  rw [h]

/-- A part that goes on is followed by the next one. -/
theorem does_bind {part : Run σ α} {next : α → Run σ Unit} {a : α}
    (h : part progress = (.ok a, after)) (went : Went host progress after 0 events)
    (does : Does host after later stop (next a after)) :
    Does host progress (events ++ later) stop ((part >>= next) progress) := by
  rw [bind_of_ok h]
  exact ⟨went.trans does.went, does.ended⟩

/-- A part that ends the run is followed by nothing. -/
theorem does_bind_error {part : Run σ α} {next : α → Run σ Unit} {error : RunError}
    (h : part progress = (.error (.error error), after))
    (went : Went host progress after 0 events) :
    Does host progress events (some (.error error)) ((part >>= next) progress) := by
  rw [bind_of_error h]
  exact ⟨went, rfl⟩

/-- Logging makes no difference. -/
theorem does_log {level : LogLevel} {text : String} {next : Unit → Run σ Unit}
    (does : Does host (progress.note level text) events stop (next () (progress.note level text))) :
    Does host progress events stop ((log level text >>= next) progress) :=
  ⟨⟨does.went.point, does.went.transitions, does.went.events⟩, does.ended⟩

/-- A request made of the host is answered. -/
theorem request_went (host : Host σ) (progress : Progress σ) (call : HostCall) (ask : σ → α × σ)
    (h : (ask progress.host).2 = host.serve progress.host call) :
    ∃ after, request call ask progress = (.ok (ask progress.host).1, after) ∧
      after.session = progress.session ∧ Went host progress after 0 [.called call] :=
  ⟨_, rfl, rfl, by simp [Progress.point, h], rfl, Array.toList_push⟩

/-- A turn that succeeds gives its presentation. -/
theorem turn_of_ok (host : Host σ) (request : Request) {shown : Presentation}
    (h : progress.session.answer (.ask request) = some (.ok shown)) :
    ∃ after, turn request.event request.turn progress = (.ok shown, after) ∧
      Went host progress after 0 [progress.session.asked request] := by
  have houtcome : (request.turn progress.session).outcome = .ok shown :=
    Session.answer_ask_iff.mp h
  unfold turn
  simp only [houtcome]
  exact ⟨_, rfl, by simp [Progress.point, Session.after], rfl, Array.toList_push⟩

/-- A turn that is refused ends the run. -/
theorem turn_of_error (host : Host σ) (request : Request) {error : SessionError}
    (h : progress.session.answer (.ask request) = some (.error error)) :
    ∃ after, turn request.event request.turn progress = (.error (.error (.session error)), after) ∧
      Went host progress after 0 [progress.session.asked request] := by
  have houtcome : (request.turn progress.session).outcome = .error error :=
    Session.answer_ask_iff.mp h
  unfold turn
  simp only [houtcome]
  exact ⟨_, rfl, by simp [Progress.point, Session.after], rfl, Array.toList_push⟩

/-- A turn at the end of a part. -/
theorem turn_does (request : Request) {next : Presentation → Run σ Unit}
    (hnext : ∀ shown progress, next shown progress = (.ok (), progress)) :
    Does host progress [progress.session.asked request] (progress.session.refusal? request)
      ((turn request.event request.turn >>= next) progress) := by
  unfold Session.refusal?
  cases houtcome : (request.turn progress.session).outcome with
  | ok shown =>
    obtain ⟨after, hturn, hwent⟩ := turn_of_ok host request (Session.answer_ask_iff.mpr houtcome)
    refine does_bind hturn hwent ?_
    rw [hnext]
    exact ⟨.refl _, rfl⟩
  | error error =>
    obtain ⟨after, hturn, hwent⟩ := turn_of_error host request (Session.answer_ask_iff.mpr houtcome)
    exact does_bind_error hturn hwent

/-- A host that is consulted fails, or answers and lets the session go on. -/
theorem consulted (config : RunConfig) {shown : Presentation} {call : HostCall}
    {ask : σ → Except String α × σ} (request : α → Request) {next : α → Run σ Unit}
    (hconsult : host.consult? progress.host shown =
      some (call, (ask progress.host).1.map request, (ask progress.host).2))
    (hserve : (ask progress.host).2 = host.serve progress.host call)
    (hnext : ∀ a after, Does host after [after.session.asked (request a)]
      (after.session.refusal? (request a)) (next a after)) :
    ∃ events stop, Handled host config progress.point shown events stop ∧
      Does host progress events stop
        ((Run.request call ask >>= fun answer => answered answer >>= next) progress) := by
  obtain ⟨after, hrequest, hsession, hwent⟩ := request_went host progress call ask hserve
  cases hanswer : (ask progress.host).1 with
  | error message =>
    rw [hanswer] at hrequest hconsult
    refine ⟨_, _, .failed hconsult, ?_⟩
    exact does_bind hrequest hwent (does_bind_error rfl (.refl _))
  | ok a =>
    rw [hanswer] at hrequest hconsult
    refine ⟨_, _, .answered hconsult, ?_⟩
    have hturn := hnext a after
    rw [hsession] at hturn
    exact does_bind hrequest hwent (does_bind rfl (.refl _) hturn)

/-- Playing a game is one request of the host; what the game ends with goes on, and a failure breaks
the run off. -/
theorem play_went (host : Host σ) (config : RunConfig) (game : Game) (progress : Progress σ) :
    ∃ after, play host config game progress =
        ((config.effective (host.playGame game progress.host).1).mapError
          fun message => .error (.host message), after) ∧
      after.session = progress.session ∧ Went host progress after 0 [.called (.game game)] := by
  obtain ⟨after, hrequest, hsession, hwent⟩ :=
    request_went host progress (.game game) (host.playGame game) rfl
  have hanswered : ∀ (ended : GameEnd) (progress : Progress σ), answered ended progress =
      (ended.mapError fun message => .error (.host message), progress) := by
    intro ended progress
    cases ended <;> rfl
  unfold play
  rw [bind_of_ok hrequest]
  split
  · refine ⟨after.note .warn (config.timeoutText game), ?_, hsession, ?_⟩
    · exact (bind_of_ok rfl).trans (hanswered _ _)
    · exact ⟨hwent.point, hwent.transitions, hwent.events⟩
  · exact ⟨after, hanswered _ _, hsession, hwent⟩

/-- Playing the game that is waited for either reports its result or stops the run. -/
theorem playAwaited_does (host : Host σ) (config : RunConfig) (game : Game)
    (progress : Progress σ) :
    match config.effective (host.playGame game progress.host).1 with
    | .error message =>
      Does host progress [.called (.game game)] (some (.error (.host message)))
        (playAwaited host config game progress)
    | .ok none =>
      Does host progress [.called (.game game)] (some (.ok (.abandoned game)))
        (playAwaited host config game progress)
    | .ok (some result) =>
      Does host progress [.called (.game game), progress.session.asked (.report result)]
        (progress.session.refusal? (.report result)) (playAwaited host config game progress) := by
  obtain ⟨after, hplay, hsession, hwent⟩ := play_went host config game progress
  unfold playAwaited
  rcases hended : config.effective (host.playGame game progress.host).1 with message | _ | result
  · rw [hended] at hplay
    exact does_bind_error hplay hwent
  · rw [hended] at hplay
    refine does_bind hplay hwent ?_
    exact does_bind rfl (.refl _) (does_log ⟨.refl _, rfl⟩)
  · rw [hended] at hplay
    rw [← hsession]
    refine does_bind hplay hwent ?_
    exact does_log (turn_does (.report result) fun _ _ => rfl)

end Run

/-- A game step is handled in one of the ways. -/
theorem handled_mountGame (host : Host σ) (config : RunConfig) (game : Game)
    (progress : Progress σ) :
    ∃ events stop, Handled host config progress.point (.mountGame game) events stop ∧
      Does host progress events stop (handle host config (.mountGame game) progress) := by
  unfold handle
  cases houtcome : (Request.proceed.turn progress.session).outcome with
  | error error =>
    have hrefused := Session.answer_ask_iff.mpr houtcome
    obtain ⟨after, hturn, hwent⟩ := Run.turn_of_error host .proceed hrefused
    refine ⟨_, _, .unmounted hrefused, ?_⟩
    exact Run.does_bind rfl (.refl _) (Run.does_bind_error hturn hwent)
  | ok shown =>
    have hproceeded : progress.point.session.answer (.ask .proceed) = some (.ok shown) :=
      Session.answer_ask_iff.mpr houtcome
    obtain ⟨after, hturn, hwent⟩ := Run.turn_of_ok host .proceed hproceeded
    have hpoint : after.point = ⟨progress.session.after (.ask .proceed), progress.host⟩ := by
      rw [hwent.point, RunPoint.after_cons, RunPoint.next_asked, RunPoint.after_nil]
      rfl
    have hsession : after.session = progress.session.after (.ask .proceed) :=
      congrArg RunPoint.session hpoint
    have hhost : after.host = progress.host := congrArg RunPoint.host hpoint
    -- what is done after the session went on decides how the step is handled
    suffices h : ∃ events stop, Handled host config progress.point (.mountGame game)
        (progress.session.asked .proceed :: events) stop ∧
        Does host after events stop
          ((if after.session.director.current.kind = .awaitResult then
              playAwaited host config game
            else Run.fail (.missingSuspension game progress.session.position
              after.session.director.current.kind)) after) by
      obtain ⟨events, stop, hhandled, hdoes⟩ := h
      refine ⟨_, stop, hhandled, ?_⟩
      exact Run.does_bind rfl (.refl _)
        (Run.does_bind hturn hwent (Run.does_bind rfl (.refl _) hdoes))
    by_cases hkind : after.session.director.current.kind = .awaitResult
    · have hwaits : progress.point.session.Waits := ⟨⟨shown, hproceeded⟩, hsession ▸ hkind⟩
      have hplayed := Run.playAwaited_does host config game after
      rw [if_pos hkind]
      rw [hhost, hsession] at hplayed
      rcases hended : config.effective (host.playGame game progress.host).1 with
        message | _ | result
      · rw [hended] at hplayed
        exact ⟨_, _, .unplayed hwaits hended, hplayed⟩
      · rw [hended] at hplayed
        exact ⟨_, _, .abandoned hwaits hended, hplayed⟩
      · rw [hended] at hplayed
        exact ⟨_, _, .reported hwaits hended, hplayed⟩
    · rw [if_neg hkind, hsession]
      rw [hsession] at hkind
      exact ⟨_, _, .missing hproceeded hkind, .refl _, rfl⟩

/-- **Every step that is no end is handled in one of the ways.** -/
theorem handled (host : Host σ) (config : RunConfig) {shown : Presentation}
    (lasts : shown ≠ .ended) (progress : Progress σ) :
    ∃ events stop, Handled host config progress.point shown events stop ∧
      Does host progress events stop (handle host config shown progress) := by
  cases shown with
  | ended => exact absurd rfl lasts
  | dialogue speaker text =>
    exact Run.consulted config (fun _ => .proceed) rfl rfl fun _ _ =>
      Run.turn_does .proceed fun _ _ => rfl
  | choice prompt options =>
    exact Run.consulted config .choose rfl rfl fun index _ =>
      Run.does_log (Run.turn_does (.choose index) fun _ _ => rfl)
  | mountGame game => exact handled_mountGame host config game progress
  | awaitingResult var => exact ⟨_, _, .unawaited, .refl _, rfl⟩
  | jump next => exact ⟨_, _, .jumped, Run.turn_does .proceed fun _ _ => rfl⟩

/-! ## Runs -/

/-- Opening a round presents a step, which ends the run or is left to be handled. -/
theorem openRound_went (host : Host σ) (config : RunConfig) (progress : Progress σ) :
    ∃ after, Went host progress after 0 [progress.session.asked .present] ∧
      ((∃ stop, (∀ budget, Closing host config progress.point budget
            [progress.session.asked .present] 0 stop) ∧
          openRound progress = (.error (stop.map after.summary), after)) ∨
        ∃ shown, progress.session.answer (.ask .present) = some (.ok shown) ∧ shown ≠ .ended ∧
          openRound progress = (.ok shown, after)) := by
  unfold openRound
  cases houtcome : (Request.present.turn progress.session).outcome with
  | error error =>
    have hrefused := Session.answer_ask_iff.mpr houtcome
    obtain ⟨after, hturn, hwent⟩ := Run.turn_of_error host .present hrefused
    exact ⟨after, hwent, Or.inl ⟨_, fun _ => .refused hrefused, Run.bind_of_error hturn⟩⟩
  | ok shown =>
    have hshows := Session.answer_ask_iff.mpr houtcome
    obtain ⟨after, hturn, hwent⟩ := Run.turn_of_ok host .present hshows
    by_cases hended : shown = .ended
    · subst hended
      refine ⟨after.note .info after.finishedText,
        ⟨hwent.point, hwent.transitions, hwent.events⟩, Or.inl ⟨_, fun _ => .finished hshows, ?_⟩⟩
      exact (Run.bind_of_ok hturn).trans rfl
    · refine ⟨after, hwent, Or.inr ⟨shown, hshows, hended, (Run.bind_of_ok hturn).trans ?_⟩⟩
      rw [if_neg hended]
      rfl

/-- A round ends the run as soon as it is opened, or handles a step. -/
theorem round_went (host : Host σ) (config : RunConfig) (progress : Progress σ) :
    (∃ stop after, (∀ budget, Closing host config progress.point budget
          [progress.session.asked .present] 0 stop) ∧
        Went host progress after 0 [progress.session.asked .present] ∧
        round host config progress = (.error (stop.map after.summary), after)) ∨
      ∃ events stop after, Round host config progress.point events stop ∧
        Went host progress after 1 events ∧
        round host config progress =
          (stop.elim (.ok ()) fun stop => .error (stop.map after.summary), after) := by
  obtain ⟨after, hwent, ⟨stop, hclosing, hopens⟩ | ⟨shown, hshows, lasts, hopens⟩⟩ :=
    openRound_went host config progress
  · exact Or.inl ⟨stop, after, hclosing, hwent, Run.bind_of_error hopens⟩
  · obtain ⟨events, stop, hhandled, hdoes⟩ := handled host config lasts after.counted
    have hpoint : after.counted.point = progress.point.presented := by
      change after.point = _
      rw [hwent.point, RunPoint.after_cons, RunPoint.after_nil]
      exact RunPoint.next_presented host progress.point
    rw [hpoint] at hhandled
    refine Or.inr ⟨_, stop, (handle host config shown after.counted).2,
      .intro hshows lasts hhandled, (hwent.trans (.counted after)).trans hdoes.went, ?_⟩
    unfold round
    rw [Run.bind_of_ok hopens, Run.bind_of_ok (show Run.count after = (.ok (), _) from rfl)]
    exact Prod.ext hdoes.ended rfl

/-- Rounds within a budget are a run. -/
theorem rounds_ran (host : Host σ) (config : RunConfig) (budget : Nat) (progress : Progress σ) :
    ∃ events n stop after, Ran host config budget progress.point events n stop ∧
      Went host progress after n events ∧
      rounds host config budget progress = (stop.map after.summary, after) := by
  induction budget generalizing progress with
  | zero =>
    obtain ⟨after, hwent, ⟨stop, hclosing, hopens⟩ | ⟨shown, hshows, lasts, hopens⟩⟩ :=
      openRound_went host config progress
    · unfold rounds
      rw [hopens]
      exact ⟨_, _, stop, after, .closing (hclosing _), hwent, rfl⟩
    · unfold rounds
      rw [hopens]
      exact ⟨_, _, _, after, .closing (.exhausted hshows lasts), hwent, rfl⟩
  | succ budget ih =>
    unfold rounds
    rcases round_went host config progress with
      ⟨stop, after, hclosing, hwent, hround⟩ | ⟨events, stop, after, hround, hwent, heq⟩
    · rw [hround]
      exact ⟨_, _, stop, after, .closing (hclosing _), hwent, rfl⟩
    · rw [heq]
      cases stop with
      | some stop => exact ⟨events, _, stop, after, .closing (.stopped hround), hwent, rfl⟩
      | none =>
        obtain ⟨later, n, stop, final, hran, hlater, hrest⟩ := ih after
        rw [hwent.point] at hran
        have hwhole := hwent.trans hlater
        rw [Nat.add_comm] at hwhole
        exact ⟨_, _, stop, final, .onward hround hran, hwhole, hrest⟩

/-- **Every run is made of rounds**; its events say where it ends, its result how it is closed. -/
theorem run_ran (session : Session) (host : Host σ) (start : σ) (config : RunConfig) :
    ∃ stop, Ran host config config.maxTransitions ⟨session, start⟩
        (session.run host start config).2.events.toList
        (session.run host start config).2.transitions stop ∧
      (session.run host start config).2.point =
        RunPoint.after host ⟨session, start⟩ (session.run host start config).2.events.toList ∧
      (session.run host start config).1 = stop.map (session.run host start config).2.summary := by
  obtain ⟨events, n, stop, after, hran, hwent, hrounds⟩ :=
    rounds_ran host config config.maxTransitions ⟨session, start, 0, #[], #[]⟩
  have hrun : session.run host start config = (stop.map after.summary, after) := hrounds
  have hevents : after.events.toList = events := hwent.events
  have htransitions : after.transitions = n := hwent.transitions.trans (Nat.zero_add n)
  rw [hrun]
  subst hevents htransitions
  exact ⟨stop, hran, hwent.point, rfl⟩

/-- What comes to rest has a summary of where it did. -/
theorem stop_of_ok {progress : Progress σ} {stop : RunStop} {summary : RunSummary}
    (h : stop.map progress.summary = .ok summary) :
    stop = .ok summary.outcome ∧ summary.finalState = progress.session.state := by
  cases stop with
  | error error => exact absurd h (by simp [Except.map])
  | ok outcome =>
    obtain rfl : progress.summary outcome = summary := Except.ok.inj h
    exact ⟨rfl, rfl⟩

/-- What breaks off has the error it broke off with. -/
theorem stop_of_error {progress : Progress σ} {stop : RunStop} {error : RunError}
    (h : stop.map progress.summary = .error error) : stop = .error error := by
  cases stop with
  | error found => exact congrArg Except.error (Except.error.inj h)
  | ok outcome => exact absurd h (by simp [Except.map])

/-- **A finished run has presented the end** after a series of requests. -/
theorem exists_requests_of_finished (session : Session) (host : Host σ) (start : σ)
    (config : RunConfig) {summary : RunSummary}
    (h : (session.run host start config).1 = .ok summary) (finished : summary.outcome = .finished) :
    ∃ requests, (session.serve requests).answer (.ask .present) = some (.ok .ended) := by
  obtain ⟨stop, hran, -, hstop⟩ := run_ran session host start config
  obtain ⟨m, k, earlier, last, budget, honward, hclosing, -, -, -⟩ := hran.exists_closing
  obtain ⟨requests, hsession⟩ := honward.exists_requests
  obtain ⟨rfl, -⟩ := stop_of_ok (hstop.symm.trans h)
  obtain ⟨hended, -⟩ := hclosing.of_finished (congrArg Except.ok finished)
  exact ⟨requests, hsession ▸ hended⟩

end Narrative
