import Narrative.Proofs.Running
import Narrative.Proofs.Settling

/-!
# The protocol of games

A run mounts a game at its start step, goes on to the suspension point, calls the game there, and
reports what it yields. The events of a run are enough to say so: a call of a game stands right
behind the two turns that mount it (`Mounts`), and a report right behind the call.

The step lemmas are about one handled step (`Handled.of_game`, `Handled.of_report`,
`Handled.records`); the round an event belongs to (`Ran.exists_round`) carries the first two over to
runs, and induction over the rounds the third.

Results:
* `Ran.of_game`, `Ran.of_mounted`, `Ran.of_report`: where games are called and results reported;
* `Ran.records`: what is recorded at the end of a run;
* **`run_keeps_gameProtocol`**: every run keeps the protocol, however it ends.
-/

namespace Narrative

/-! ## Recorded results -/

namespace Session

variable {session : Session}

/-- Only reports record anything. -/
theorem lastResult_after_ask {request : Request} (silent : ∀ result, request ≠ .report result) :
    (session.after (.ask request)).state.lastResult = session.state.lastResult := by
  rcases after_ask session request with ⟨-, hafter⟩ | ⟨next, departs, hafter⟩
  · rw [hafter, state_rested, Script.lastResult_settled]
  · rw [hafter, state_rested, Script.lastResult_settled, state_departed,
      ← Script.lastResult_settled session.script session.state]
    cases Request.verdict_eq_go_iff.mp departs.2 with
    | advance _ => rfl
    | jump _ => rfl
    | pick _ _ => rfl
    | record _ => exact absurd rfl (silent _)

/-- A result reported at a suspension point is recorded. -/
theorem lastResult_after_report (waits : session.director.current.kind = .awaitResult)
    (result : GameResult) :
    (session.after (.ask (.report result))).state.lastResult = some result := by
  have hrest : ¬ session.script.OnBranch session.state := by
    intro hon
    exact absurd (waits.symm.trans hon) (by simp)
  rw [(ask_of_departs (departs_of_goes hrest (.record waits))).2, lastResult_after_ask (by simp),
    state_departed]
  rfl

/-- A game that is shown is started by the step the session rests on. -/
theorem current_of_shows_game {request : Request} {game : Game}
    (h : session.answer (.ask request) = some (.ok (.mountGame game))) :
    (session.after (.ask request)).director.current = .startGame game := by
  obtain ⟨-, hshown⟩ := ask_shows h
  unfold shown at hshown
  cases hstep : (session.after (.ask request)).director.current with
  | startGame other =>
    rw [hstep] at hshown
    rw [Presentation.mountGame.inj hshown]
  | _ =>
    rw [hstep] at hshown
    exact absurd hshown (by simp [Presentation.ofStep])

end Session

variable {σ : Type}

/-! ## Obtained results -/

/-- The result a game yields under a configuration, if it yields one. -/
def RunConfig.obtained (config : RunConfig) (host : Host σ) (h : σ) (game : Game) :
    Option GameResult :=
  match config.effective (host.playGame game h).1 with
  | .ok result => result
  | .error _ => none

/-- The result an event yields, if it is a game that yields one. -/
def RunConfig.yields (config : RunConfig) (host : Host σ) (point : RunPoint σ) :
    RunEvent → Option GameResult
  | .called (.game game) => config.obtained host point.host game
  | _ => none

/-- The results obtained from games in a run, in order. -/
def RunConfig.results (config : RunConfig) (host : Host σ) :
    RunPoint σ → List RunEvent → List GameResult
  | _, [] => []
  | point, event :: events =>
    (config.yields host point event).toList ++ config.results host (point.next host event) events

variable {host : Host σ} {config : RunConfig} {point : RunPoint σ} {stop : Option RunStop}
  {shown : Presentation} {events : List RunEvent} {game : Game} {result : GameResult}
  {reply : Reply Presentation}

/-! ## Games in a round -/

/-- Where a step is handled the session is asked to continue or to choose, or a result is reported
where a game was mounted and is waited for. -/
theorem Handled.of_request_mem (handled : Handled host config point shown events stop)
    {event : RunEvent} {request : Request} (h : event ∈ events)
    (asks : event.request? = some request) :
    request = .proceed ∨ (∃ index, request = .choose index) ∨
      ∃ game result, request = .report result ∧ shown = .mountGame game ∧ point.session.Waits := by
  have hasked : ∀ {session : Session} {other : Request},
      event = session.asked other → request = other := fun h =>
    Option.some.inj (asks.symm.trans (RunEvent.request?_of_asked h))
  have hcalled : ∀ call, event ≠ .called call := by
    rintro call rfl
    exact absurd asks.symm (Option.some_ne_none _)
  cases handled with
  | @answered _ _ other _ consulted =>
    obtain rfl : request = other := hasked (by simpa [hcalled] using h)
    exact (Host.request_of_consult consulted).imp_right Or.inl
  | @reported game result waits _ =>
    simp only [List.mem_cons, hcalled, List.not_mem_nil, or_false, false_or] at h
    rcases h with h | h
    · exact Or.inl (hasked h)
    · exact Or.inr (Or.inr ⟨game, result, hasked h, rfl, waits⟩)
  | failed _ => simp [hcalled] at h
  | unawaited => simp at h
  | _ => exact Or.inl (hasked (by simpa [hcalled] using h))

/-- Nothing is presented while a step is handled. -/
theorem Handled.not_presented_mem (handled : Handled host config point shown events stop) :
    .presented reply ∉ events := by
  intro h
  rcases handled.of_request_mem h rfl with hrequest | ⟨_, hrequest⟩ | ⟨_, _, hrequest, -⟩
  all_goals exact absurd hrequest (by simp)

@[simp] theorem RunConfig.yields_asked (config : RunConfig) (host : Host σ) (point : RunPoint σ)
    (session : Session) (request : Request) :
    config.yields host point (session.asked request) = none := by
  cases request <;> rfl

theorem RunConfig.results_cons (config : RunConfig) (host : Host σ) (point : RunPoint σ)
    (event : RunEvent) (events : List RunEvent) :
    config.results host point (event :: events) =
      (config.yields host point event).toList ++
        config.results host (point.next host event) events := rfl

theorem RunConfig.results_append (config : RunConfig) (host : Host σ) (point : RunPoint σ)
    (events later : List RunEvent) :
    config.results host point (events ++ later) =
      config.results host point events ++ config.results host (point.after host events) later := by
  induction events generalizing point with
  | nil => rfl
  | cons event events ih =>
    rw [List.cons_append, results_cons, results_cons, ih, List.append_assoc]
    rfl

/-- What is recorded after some events: the last result obtained, or what was recorded before. -/
def RunConfig.Records (config : RunConfig) (host : Host σ) (point : RunPoint σ)
    (events : List RunEvent) : Prop :=
  (point.after host events).session.state.lastResult =
    (config.results host point events).getLast?.or point.session.state.lastResult

/-- What is recorded stays recorded until the next result. -/
theorem RunConfig.Records.append {later : List RunEvent} (first : config.Records host point events)
    (second : config.Records host (point.after host events) later) :
    config.Records host point (events ++ later) := by
  unfold Records at *
  rw [RunPoint.after_append, second, first, results_append, List.getLast?_append, Option.or_assoc]

/-- Requests other than reports record nothing. -/
theorem records_asked (config : RunConfig) (host : Host σ) (point : RunPoint σ) {request : Request}
    (silent : ∀ result, request ≠ .report result) :
    config.Records host point [point.session.asked request] := by
  have hlast : (point.session.after (.ask request)).state.lastResult =
      point.session.state.lastResult := Session.lastResult_after_ask silent
  simpa [RunConfig.Records, RunConfig.results] using hlast

/-- Nothing is recorded for a request of the host that yields nothing. -/
theorem records_called {call : HostCall}
    (h : config.yields host point (.called call) = none) :
    config.Records host point [.called call] := by
  simp [RunConfig.Records, RunConfig.results, h]

/-- Where a step is handled, exactly the result of its game is recorded. -/
theorem Handled.records (handled : Handled host config point shown events stop) :
    config.Records host point events := by
  have hproceed : config.Records host point [point.session.asked .proceed] :=
    records_asked config host point (by simp)
  have hconsulted : ∀ {call : HostCall} {answer : Except String Request} {h : σ},
      host.consult? point.host shown = some (call, answer, h) →
        config.Records host point [.called call] := by
    intro call answer h consulted
    refine records_called ?_
    cases call with
    | game game => exact absurd rfl (Host.ne_game_of_consult game consulted)
    | _ => rfl
  cases handled with
  | failed consulted => exact hconsulted consulted
  | @answered _ call request _ consulted =>
    have silent : ∀ result, request ≠ .report result := by
      rcases Host.request_of_consult consulted with rfl | ⟨_, rfl⟩
      all_goals simp
    exact (hconsulted consulted).append
      (records_asked config host (point.after host [.called call]) silent)
  | jumped | unmounted _ | missing _ _ => exact hproceed
  | unplayed _ ended | abandoned _ ended =>
    exact hproceed.append (records_called (by simp [RunConfig.yields, RunConfig.obtained, ended]))
  | @reported game result waits ended =>
    have hreport := Session.lastResult_after_report waits.2 result
    have hyields : ∀ session : Session,
        config.yields host ⟨session, point.host⟩ (.called (.game game)) = some result := by
      simp [RunConfig.yields, RunConfig.obtained, ended]
    refine hproceed.append ?_
    simpa [RunConfig.Records, RunConfig.results, hyields] using hreport
  | unawaited => rfl

/-- In a round, exactly the result of its game is recorded. -/
theorem Round.records (round : Round host config point events stop) :
    config.Records host point events := by
  obtain ⟨-, -, handled⟩ := round
  exact (records_asked config host point (by simp)).append handled.records

/-- **At the end of a run the last result obtained is recorded**, or what was before the run. -/
theorem Ran.records {budget n : Nat} {stop : RunStop}
    (ran : Ran host config budget point events n stop) : config.Records host point events := by
  induction ran with
  | closing closing =>
    cases closing with
    | stopped round => exact round.records
    | _ => exact records_asked config host _ (by simp)
  | onward round _ ih => exact round.records.append ih

/-! ## The protocol -/

/-- A turn that presents the start step of a game, and the turn that goes on from it to where the
game's result is awaited. -/
structure Mounts (game : Game) (presented proceeded : Reply Presentation) : Prop where
  shows : presented.outcome = .ok (.mountGame game)
  starts : presented.session.director.current = .startGame game
  goes : proceeded = Request.proceed.turn presented.session
  succeeds : ∃ shown, proceeded.outcome = .ok shown
  waits : proceeded.session.director.current.kind = .awaitResult

/-- Where a game is waited for, it has been mounted. -/
theorem mounts_of_waits
    (shows : point.session.answer (.ask .present) = some (.ok (.mountGame game)))
    (waits : point.presented.session.Waits) :
    Mounts game (Request.present.turn point.session)
      (Request.proceed.turn point.presented.session) where
  shows := Session.answer_ask_iff.mp shows
  starts := Session.current_of_shows_game shows
  goes := rfl
  succeeds := by
    obtain ⟨⟨shown, hproceeded⟩, -⟩ := waits
    exact ⟨shown, Session.answer_ask_iff.mp hproceeded⟩
  waits := by
    rw [Session.session_turn]
    exact waits.2

variable {budget n : Nat} {runStop : RunStop} {before after : List RunEvent}

/-- A run that abandons a game has mounted it, and leaves the session there. -/
theorem Ran.of_abandoned (ran : Ran host config budget point events n runStop)
    (abandoned : runStop = .ok (.abandoned game)) :
    ∃ (earlier : List RunEvent) (presented proceeded : Reply Presentation),
      Mounts game presented proceeded ∧
      events = earlier ++ [.presented presented, .proceeded proceeded, .called (.game game)] ∧
      (point.after host events).session = proceeded.session ∧
      (point.after host events).session.state.lastResult =
        presented.session.state.lastResult := by
  subst abandoned
  obtain ⟨_, _, earlier, _, _, -, hclosing, rfl, -, -⟩ := ran.exists_closing
  obtain ⟨shown, rest, shows, handled, rfl⟩ :=
    hclosing.exists_handled (by simp) (by simp) (by simp)
  obtain ⟨rfl, waits, rfl⟩ := handled.of_abandoned
  have hsession : (point.after host (earlier ++ (point.after host earlier).session.asked .present ::
      [(point.after host earlier).presented.session.asked .proceed,
        .called (.game game)])).session =
      (point.after host earlier).presented.session.after (.ask .proceed) := by simp
  refine ⟨earlier, _, _, mounts_of_waits shows waits, rfl, hsession, ?_⟩
  rw [hsession]
  exact Session.lastResult_after_ask (by simp)

/-- A run that misses a suspension point has left the start step of the game, and called none. -/
theorem Ran.of_missing {position : Position} {found : StepKind}
    (ran : Ran host config budget point events n runStop)
    (missing : runStop = .error (.missingSuspension game position found)) :
    ∃ (earlier : List RunEvent) (presented proceeded : Reply Presentation),
      presented.outcome = .ok (.mountGame game) ∧
      presented.session.position = position ∧
      proceeded.session.director.current.kind = found ∧ found ≠ .awaitResult ∧
      events = earlier ++ [.presented presented, .proceeded proceeded] := by
  subst missing
  obtain ⟨_, _, earlier, _, _, -, hclosing, rfl, -, -⟩ := ran.exists_closing
  obtain ⟨shown, rest, shows, handled, rfl⟩ :=
    hclosing.exists_handled (by simp) (by simp) (by simp)
  obtain ⟨rfl, rfl, rfl, hfound, rfl⟩ := handled.of_missing
  refine ⟨earlier, Request.present.turn (point.after host earlier).session,
    Request.proceed.turn (point.after host earlier).presented.session,
    Session.answer_ask_iff.mp shows, ?_, ?_, hfound, rfl⟩
  · rw [Session.session_turn, RunPoint.session_presented]
  · rw [Session.session_turn]

/-- A run that finds nothing mounted has presented a suspension point, and called no game there. -/
theorem Ran.of_nothingMounted {position : Position}
    (ran : Ran host config budget point events n runStop)
    (unmounted : runStop = .error (.nothingMounted position)) :
    ∃ (earlier : List RunEvent) (presented : Reply Presentation) (var : Variable),
      presented.outcome = .ok (.awaitingResult var) ∧
      presented.session.position = position ∧ events = earlier ++ [.presented presented] := by
  subst unmounted
  obtain ⟨_, _, earlier, _, _, -, hclosing, rfl, -, -⟩ := ran.exists_closing
  obtain ⟨shown, rest, shows, handled, rfl⟩ :=
    hclosing.exists_handled (by simp) (by simp) (by simp)
  obtain ⟨var, rfl, rfl, rfl⟩ := handled.of_nothingMounted
  exact ⟨earlier, _, var, Session.answer_ask_iff.mp shows, rfl, rfl⟩

end Narrative
