import Narrative.Proofs.Splitting

/-!
# Taking up stopped runs

A run that the host stops can be taken up again. Where, depends on what stopped it. The session
moves only once the host has answered, so a line that was not shown or a choice that was not made is
still the current step. A game is mounted after the session has moved onto its suspension point, so
a game that was not finished leaves the session behind its start step, and one undo leads back.

Results:
* `Ran.exists_handled`: a run with budget starts by handling the step it presents;
* `Unanswered`, `Parked`: the two places a stopped run is left at;
* **`stopped_runs_resume`**: a run that the host stops is left at one of them.
-/

namespace Narrative

variable {σ : Type} {host : Host σ} {config : RunConfig} {point : RunPoint σ} {budget n : Nat}
  {events : List RunEvent} {shown : Presentation} {session : Session}

/-! ## Requests of the host -/

/-- The step that a request of the host is about. -/
def HostCall.step : HostCall → Step
  | .line speaker text => .say speaker text
  | .choose prompt options => .choice prompt options
  | .game played => .startGame played

/-- The host fails with a message when this request is made of it. -/
def Host.Fails (host : Host σ) (config : RunConfig) (h : σ) (message : String) : HostCall → Prop
  | .line speaker text => (host.showLine speaker text h).1 = .error message
  | .choose prompt options => (host.choose prompt options h).1 = .error message
  | .game game => config.effective (host.playGame game h).1 = .error message

/-- A host is consulted about lines and choices. -/
theorem Host.consult_step (host : Host σ) (h : σ) {call : HostCall}
    (noGame : ∀ game, call ≠ .game game) :
    ∃ answer h', host.consult? h (.ofStep call.step) = some (call, answer, h') := by
  cases call with
  | line speaker text => exact ⟨_, _, rfl⟩
  | choose prompt options => exact ⟨_, _, rfl⟩
  | game game => exact absurd rfl (noGame game)

/-- What a host is consulted about is shown. -/
theorem Host.shown_of_consult {h h' : σ} {call : HostCall} {answer : Except String Request}
    (consulted : host.consult? h shown = some (call, answer, h')) : shown = .ofStep call.step := by
  obtain ⟨_, _, rfl, rfl, -⟩ | ⟨_, _, rfl, rfl, -⟩ := Host.consult_cases consulted
  · rfl
  · rfl

/-- A host that is consulted and fails has failed at the request made of it. -/
theorem Host.fails_of_consult {h h' : σ} {call : HostCall} {message : String}
    (consulted : host.consult? h shown = some (call, .error message, h')) :
    host.Fails config h message call := by
  have herror : ∀ {α : Type} {f : α → Request} {answer : Except String α},
      .error message = answer.map f → answer = .error message := by
    intro α f answer h
    cases answer with
    | error found => exact congrArg Except.error (Except.error.inj h).symm
    | ok a => exact absurd h (by simp [Except.map])
  obtain ⟨_, _, rfl, rfl, hanswer⟩ | ⟨_, _, rfl, rfl, hanswer⟩ := Host.consult_cases consulted
  · exact herror hanswer
  · exact herror hanswer

/-- A host that chooses was consulted about a choice. -/
theorem Host.choice_of_consult {h h' : σ} {call : HostCall} {index : Nat}
    (consulted : host.consult? h shown = some (call, .ok (.choose index), h')) :
    ∃ prompt options, call = .choose prompt options := by
  obtain ⟨speaker, text, -, -, hanswer⟩ | ⟨prompt, options, -, hcall, -⟩ := Host.consult_cases consulted
  · cases hshown : (host.showLine speaker text h).1 <;> simp [hshown, Except.map] at hanswer
  · exact ⟨prompt, options, hcall⟩

/-- Different steps show differently, unless they show the end. -/
theorem Presentation.ofStep_inj {step other : Step} (h : ofStep step = ofStep other)
    (lasts : ofStep step ≠ .ended) : step = other := by
  cases step <;> cases other <;> simp_all [ofStep]

theorem HostCall.shown_ne_ended (call : HostCall) : Presentation.ofStep call.step ≠ .ended := by
  cases call <;> simp [step, Presentation.ofStep]

/-! ## The first round of a run -/

/-- A round handles the step that the session shows. -/
theorem Round.handled_of_shows {stop : Option RunStop}
    (round : Round host config point events stop)
    (shows : point.session.answer (.ask .present) = some (.ok shown)) :
    ∃ rest, Handled host config point.presented shown rest stop ∧
      events = point.session.asked .present :: rest := by
  obtain ⟨shows', -, handled⟩ := round
  obtain rfl := Except.ok.inj (Option.some.inj (shows.symm.trans shows'))
  exact ⟨_, handled, rfl⟩

/-- A run with budget starts by handling the step it presents, and goes on unless it stops there. -/
theorem Ran.exists_handled {stop : RunStop} (ran : Ran host config (budget + 1) point events n stop)
    (shows : point.session.answer (.ask .present) = some (.ok shown)) (lasts : shown ≠ .ended) :
    ∃ first later stop', Handled host config point.presented shown first stop' ∧
      events = point.session.asked .present :: (first ++ later) ∧
      ∀ found, stop' = some found → later = [] ∧ stop = found := by
  cases ran with
  | closing closing =>
    cases closing with
    | refused refused => exact absurd (shows.symm.trans refused) (by simp)
    | finished ended =>
      exact absurd (Except.ok.inj (Option.some.inj (shows.symm.trans ended))) lasts
    | stopped round =>
      obtain ⟨first, handled, rfl⟩ := round.handled_of_shows shows
      refine ⟨first, [], _, handled, by rw [List.append_nil], fun found h => ⟨rfl, ?_⟩⟩
      exact Option.some.inj h
  | onward round _ =>
    obtain ⟨first, handled, rfl⟩ := round.handled_of_shows shows
    exact ⟨first, _, none, handled, rfl, fun found h => absurd h (by simp)⟩

/-- The same of the run of a session. -/
theorem Session.run_exists_handled (host : Host σ) (start : σ)
    (positive : 0 < config.maxTransitions)
    (shows : session.answer (.ask .present) = some (.ok shown)) (lasts : shown ≠ .ended) :
    ∃ first later stop',
      Handled host config ⟨session.after (.ask .present), start⟩ shown first stop' ∧
      (session.run host start config).2.events.toList =
        session.asked .present :: (first ++ later) ∧
      ∀ found, stop' = some found → later = [] ∧
        (session.run host start config).1 =
          found.map (session.run host start config).2.summary := by
  obtain ⟨stop, ran, -, hstop⟩ := run_ran session host start config
  obtain ⟨budget, hbudget⟩ := Nat.exists_eq_add_of_le' positive
  rw [hbudget] at ran
  obtain ⟨first, later, stop', handled, hevents, hends⟩ := ran.exists_handled shows lasts
  refine ⟨first, later, stop', handled, hevents, fun found hfound => ?_⟩
  obtain ⟨hlater, rfl⟩ := hends found hfound
  exact ⟨hlater, hstop⟩

/-- A request of the host is the first one if only the session was asked for something before. -/
theorem Progress.first_call {progress : Progress σ} {before later : List RunEvent}
    {call : HostCall} (h : progress.events.toList = before ++ .called call :: later)
    (quiet : ∀ event ∈ before, event.call? = none) : progress.calls[0]? = some call := by
  rw [← Array.getElem?_toList, Progress.toList_calls, h, List.filterMap_append,
    List.filterMap_eq_nil_iff.mpr quiet]
  rfl

/-- A step the host is consulted about is handled by asking it. -/
theorem Handled.exists_called {stop : Option RunStop} {call : HostCall}
    {answer : Except String Request} {h : σ}
    (handled : Handled host config point shown events stop)
    (consulted : host.consult? point.host shown = some (call, answer, h)) :
    ∃ rest, events = .called call :: rest := by
  cases handled with
  | failed consulted' =>
    obtain ⟨rfl, -⟩ := Prod.mk.inj (Option.some.inj (consulted.symm.trans consulted'))
    exact ⟨_, rfl⟩
  | answered consulted' =>
    obtain ⟨rfl, -⟩ := Prod.mk.inj (Option.some.inj (consulted.symm.trans consulted'))
    exact ⟨_, rfl⟩
  | _ => exact absurd consulted (by simp [Host.consult?])

/-- A game the session waits for is mounted. -/
theorem Handled.exists_game {stop : Option RunStop} {game : Game}
    (handled : Handled host config point (.mountGame game) events stop)
    (waits : point.session.Waits) :
    ∃ rest, events = point.session.asked .proceed :: .called (.game game) :: rest := by
  obtain ⟨⟨shown, proceeds⟩, hkind⟩ := waits
  cases handled with
  | unmounted refused => exact absurd (proceeds.symm.trans refused) (by simp)
  | missing _ found => exact absurd hkind found
  | failed consulted | answered consulted => exact absurd consulted (by simp [Host.consult?])
  | unplayed _ _ | abandoned _ _ | reported _ _ => exact ⟨_, rfl⟩

/-! ## Lines and choices -/

/-- A run was stopped at a line or a choice. -/
structure Unanswered (final : Progress σ) (call : HostCall) : Prop where
  /-- the last request was made for a step that the session had presented, and the session is as the
  presentation left it, with its state and its history -/
  asked : ∃ earlier later reply,
    final.events.toList = earlier ++ .presented reply :: .called call :: later ∧
      (∀ event ∈ later, event.call? = none) ∧
      reply.outcome = .ok (.ofStep call.step) ∧ final.session = reply.session
  /-- it is on the step the request was about -/
  current : final.session.director.current = call.step
  /-- taken up again, a run makes the same request first -/
  again : ∀ {τ : Type} (host : Host τ) (start : τ) (config : RunConfig),
    0 < config.maxTransitions → (final.session.run host start config).2.calls[0]? = some call

/-- What was presented and then asked about, with nothing changed since, is unanswered. -/
theorem unanswered_of_shows {final : Progress σ} {call : HostCall} {earlier later : List RunEvent}
    (noGame : ∀ game, call ≠ .game game)
    (shows : session.answer (.ask .present) = some (.ok (.ofStep call.step)))
    (happened : final.events.toList =
      earlier ++ session.asked .present :: .called call :: later)
    (quiet : ∀ event ∈ later, event.call? = none)
    (stays : final.session = session.after (.ask .present)) : Unanswered final call where
  asked := ⟨earlier, later, _, happened, quiet, Session.answer_ask_iff.mp shows, stays⟩
  current := by
    rw [stays]
    exact (Presentation.ofStep_inj (Session.ask_shows shows).2 call.shown_ne_ended).symm
  again {τ} host start config positive := by
    have hagain := (Session.present_again shows).1
    obtain ⟨first, later, stop', handled, hevents, -⟩ :=
      Session.run_exists_handled host start positive hagain call.shown_ne_ended
    obtain ⟨answer, h, hconsult⟩ := host.consult_step start noGame
    obtain ⟨rest, rfl⟩ := handled.exists_called hconsult
    rw [stays]
    have hasked : _ = [(session.after (.ask .present)).asked .present] ++
        .called call :: (rest ++ later) := hevents
    exact Progress.first_call hasked (by simp)

/-! ## Games -/

/-- A run was stopped while a game was played. -/
structure Parked (final : Progress σ) (game : Game) : Prop where
  /-- the last request was made for the game -/
  asked : ∃ earlier, final.events.toList = earlier ++ [.called (.game game)]
  /-- the session is on a suspension point -/
  current : final.session.director.current.kind = .awaitResult
  /-- taken up there, a run finds nothing mounted and asks for nothing -/
  stuck : ∀ {τ : Type} (host : Host τ) (start : τ) (config : RunConfig),
    0 < config.maxTransitions →
      (final.session.run host start config).1 =
          .error (.nothingMounted final.session.position) ∧
        (final.session.run host start config).2.calls = #[]
  /-- one undo presents the game -/
  undone : final.session.answer .undo = some (.ok (.mountGame game))
  /-- taken up after that, a run asks for the game first -/
  again : ∀ {τ : Type} (host : Host τ) (start : τ) (config : RunConfig),
    0 < config.maxTransitions →
      ((final.session.after .undo).run host start config).2.calls[0]? = some (.game game)

namespace Session

/-- A move that is on record is taken back by one undo. -/
theorem undo_of_accepts {request : Request} (haccepts : session.accepts request = true)
    (hlimit : 1 ≤ session.history.limit) :
    (session.after (.ask request)).answer .undo = some (.ok session.rested.shown) ∧
      ((session.after (.ask request)).after .undo).director = session.rested.director := by
  obtain ⟨hdirector, -, -, hlast⟩ := @undo_to_move ⟨session, request⟩ haccepts [] 1 rfl hlimit
  exact ⟨Option.some.inj hlast, hdirector⟩

/-- A session that rests on a game goes on from it, and one undo presents the game again. -/
theorem undo_of_mountGame {game : Game} (rests : ¬ session.script.OnBranch session.state)
    (hshown : session.shown = .mountGame game) (hlimit : 1 ≤ session.history.limit) :
    (session.after (.ask .proceed)).answer .undo = some (.ok (.mountGame game)) ∧
      ((session.after (.ask .proceed)).after .undo).director = session.director := by
  have hrested := rested_of_not_onBranch rests
  have hcurrent : Step.startGame game = session.director.current :=
    Presentation.ofStep_inj hshown.symm (HostCall.game game).shown_ne_ended
  have hpasses : session.director.current.kind = .startGame := by
    rw [← hcurrent]
    rfl
  have haccepts : session.accepts .proceed = true :=
    accepts_iff.mpr ⟨_, departs_of_goes rests (.advance (Or.inr hpasses))⟩
  have hundo := undo_of_accepts haccepts hlimit
  rwa [hrested, hshown] at hundo

/-- Whether a session waits for a game depends on its director only. -/
theorem Waits.congr {other : Session} (waits : session.Waits)
    (h : other.director = session.director) : other.Waits := by
  obtain ⟨⟨shown, proceeds⟩, hkind⟩ := waits
  obtain ⟨hanswer, hafter⟩ := ask_congr h .proceed
  exact ⟨⟨shown, hanswer.trans proceeds⟩, by rw [hafter]; exact hkind⟩

/-- Where a result is awaited, a run asks for nothing. -/
theorem run_of_awaiting {var : Variable} (host : Host σ) (start : σ)
    (positive : 0 < config.maxTransitions)
    (shows : session.answer (.ask .present) = some (.ok (.awaitingResult var))) :
    (session.run host start config).1 =
        .error (.nothingMounted (session.after (.ask .present)).position) ∧
      (session.run host start config).2.calls = #[] := by
  obtain ⟨first, later, stop, handled, hevents, hends⟩ :=
    run_exists_handled host start positive shows (by simp)
  cases handled with
  | failed consulted | answered consulted => exact absurd consulted (by simp [Host.consult?])
  | unawaited =>
    obtain ⟨rfl, hended⟩ := hends _ rfl
    refine ⟨hended, ?_⟩
    rw [← Array.toList_inj, Progress.toList_calls, hevents]
    simp

/-- Where a game is presented that the session can wait for, a run asks for it first. -/
theorem run_of_mountGame {game : Game} (host : Host σ) (start : σ)
    (positive : 0 < config.maxTransitions)
    (shows : session.answer (.ask .present) = some (.ok (.mountGame game)))
    (waits : (session.after (.ask .present)).Waits) :
    (session.run host start config).2.calls[0]? = some (.game game) := by
  obtain ⟨first, later, stop, handled, hevents, -⟩ :=
    run_exists_handled host start positive shows (by simp)
  obtain ⟨rest, rfl⟩ := handled.exists_game waits
  have hasked : (session.run host start config).2.events.toList =
      [session.asked .present, (session.after (.ask .present)).asked .proceed] ++
        .called (.game game) :: (rest ++ later) := hevents
  exact Progress.first_call hasked (by simp)

end Session

/-- What presented a game and then left it for its suspension point is parked there. -/
theorem parked_of_shows {final : Progress σ} {game : Game} {earlier : List RunEvent}
    (hlimit : 1 ≤ session.history.limit)
    (shows : session.answer (.ask .present) = some (.ok (.mountGame game)))
    (waits : (session.after (.ask .present)).Waits)
    (happened : final.events.toList = earlier ++ [session.asked .present,
      (session.after (.ask .present)).asked .proceed, .called (.game game)])
    (left : final.session = (session.after (.ask .present)).after (.ask .proceed)) :
    Parked final game := by
  obtain ⟨hagain, hsame⟩ := Session.present_again shows
  obtain ⟨hrest, hshown⟩ := Session.ask_shows shows
  rw [← Session.script_after session (.ask .present)] at hrest
  rw [← Session.limit_after session (.ask .present)] at hlimit
  generalize hmounted : session.after (.ask .present) = mounted at *
  obtain ⟨hundone, hback⟩ := Session.undo_of_mountGame hrest hshown.symm hlimit
  obtain ⟨reached, proceeds⟩ := waits.1
  obtain ⟨hstands, -⟩ := Session.ask_shows proceeds
  rw [← Session.script_after mounted (.ask .proceed)] at hstands
  obtain ⟨hwaiting, hstays⟩ := Session.present_of_rests hstands
  obtain ⟨var, hvar⟩ : ∃ var, (mounted.after (.ask .proceed)).shown = .awaitingResult var := by
    have hkind := waits.2
    unfold Session.shown
    cases hstep : (mounted.after (.ask .proceed)).director.current with
    | awaitResult var => exact ⟨var, rfl⟩
    | _ => simp [hstep, Step.kind] at hkind
  rw [hvar] at hwaiting
  obtain ⟨hpresents, hleft⟩ := Session.ask_congr hback .present
  rw [hsame] at hleft
  rw [← left] at hundone hback hwaiting hstays hpresents hleft
  refine ⟨⟨earlier ++ [_, _], happened.trans (List.append_assoc earlier [_, _] [_]).symm⟩,
    left ▸ waits.2, fun host start config positive => ?_, hundone,
    fun host start config positive => ?_⟩
  · have hrun := Session.run_of_awaiting host start positive hwaiting
    rwa [hstays] at hrun
  · exact Session.run_of_mountGame host start positive (hpresents.trans hagain) (waits.congr hleft)

/-! ## What stops a run -/

/-- **What the host stops a run with**: it failed at the line or the choice that was presented, or
at the game that the session has gone on to wait for. -/
theorem Closing.of_host {message : String}
    (closing : Closing host config point budget events n (.error (.host message))) :
    (∃ call : HostCall, (∀ game, call ≠ .game game) ∧ host.Fails config point.host message call ∧
        point.session.answer (.ask .present) = some (.ok (.ofStep call.step)) ∧
        events = [point.session.asked .present, .called call]) ∨
      ∃ game, host.Fails config point.host message (.game game) ∧
        point.session.answer (.ask .present) = some (.ok (.mountGame game)) ∧
        point.presented.session.Waits ∧
        events = [point.session.asked .present, point.presented.session.asked .proceed,
          .called (.game game)] := by
  obtain ⟨shown, rest, shows, handled, rfl⟩ :=
    closing.exists_handled (by simp) (by simp) (by simp)
  have hrefusal : ∀ {session : Session} {request : Request},
      some (.error (.host message)) ≠ session.refusal? request := by
    intro session request hstop
    obtain ⟨error, -, herror⟩ := Session.refusal?_eq_some hstop.symm
    exact absurd herror (by simp)
  generalize hstop : some (.error (.host message) : RunStop) = stop? at handled
  cases handled with
  | failed consulted =>
    obtain rfl : message = _ := by simpa using hstop
    refine Or.inl ⟨_, fun game => Host.ne_game_of_consult game consulted,
      Host.fails_of_consult consulted, ?_, rfl⟩
    rw [← Host.shown_of_consult consulted]
    exact shows
  | unplayed waits ended =>
    obtain rfl : message = _ := by simpa using hstop
    exact Or.inr ⟨_, ended, shows, waits, rfl⟩
  | answered _ | jumped | reported _ _ => exact absurd hstop hrefusal
  | unmounted _ | missing _ _ | abandoned _ _ | unawaited => exact absurd hstop (by simp)

/-- Only a choice is refused for an option that does not exist. -/
theorem Request.eq_choose_of_verdict {request : Request} {director : Director}
    {position : Position} {index available : Nat}
    (h : request.verdict director = .refuse (.choiceOutOfRange position index available)) :
    request = .choose index := by
  unfold verdict at h
  cases request with
  | present => exact absurd h (by simp)
  | proceed => cases hstep : director.current <;> simp [hstep] at h
  | choose picked =>
    unfold Session.chosen at h
    cases hstep : director.current with
    | choice prompt options =>
      cases hoption : options[picked]? with
      | some option => simp [hstep, hoption, Verdict.ofChosen] at h
      | none =>
        obtain ⟨-, rfl, -⟩ : _ ∧ picked = index ∧ _ := by
          simpa [hstep, hoption, Verdict.ofChosen] using h
        rfl
    | _ => simp [hstep, Verdict.ofChosen] at h
  | report result =>
    simp only at h
    split at h <;> simp at h

/-- Such a refusal changes nothing but that the session is settled. -/
theorem Session.of_choiceOutOfRange {request : Request} {position : Position}
    {index available : Nat}
    (h : session.answer (.ask request) =
      some (.error (.choiceOutOfRange position index available))) :
    request = .choose index ∧ session.after (.ask request) = session.rested := by
  cases course session request with
  | cycle _ answer _ | stayed _ _ answer _ | moved _ _ _ answer _ | trapped _ _ _ answer _ =>
    exact absurd (h.symm.trans answer) (by simp)
  | refused rests error decided answer after =>
    obtain rfl : SessionError.choiceOutOfRange position index available = error := by
      simpa using h.symm.trans answer
    exact ⟨Request.eq_choose_of_verdict decided, after⟩

/-- **Where a run stops for an option that does not exist**: at the choice that was presented. -/
theorem Closing.of_choiceOutOfRange {position : Position} {index available : Nat}
    (closing : Closing host config point budget events n
      (.error (.session (.choiceOutOfRange position index available)))) :
    ∃ prompt options,
      point.session.answer (.ask .present) = some (.ok (.choice prompt options)) ∧
        point.presented.session.after (.ask (.choose index)) = point.presented.session.rested ∧
        events = [point.session.asked .present, .called (.choose prompt options),
          point.presented.session.asked (.choose index)] := by
  -- a step is handled by choosing if its handling is refused for want of an option
  have hrefusal : ∀ {session : Session} {request : Request},
      some (.error (.session (.choiceOutOfRange position index available))) =
          session.refusal? request →
        request = .choose index ∧ session.after (.ask request) = session.rested := by
    intro session request hstop
    obtain ⟨error, hanswer, herror⟩ := Session.refusal?_eq_some hstop.symm
    obtain rfl : SessionError.choiceOutOfRange position index available = error := by
      simpa using herror
    exact Session.of_choiceOutOfRange hanswer
  cases closing with
  | refused refused => exact absurd (Session.of_choiceOutOfRange refused).1 (by simp)
  | stopped round =>
    obtain ⟨shows, -, handled⟩ := round
    generalize hstop :
      some (.error (.session (.choiceOutOfRange position index available)) : RunStop) = stop?
      at handled
    cases handled with
    | answered consulted =>
      obtain ⟨rfl, hleft⟩ := hrefusal hstop
      obtain ⟨prompt, options, rfl⟩ := Host.choice_of_consult consulted
      rw [Host.shown_of_consult consulted] at shows
      exact ⟨prompt, options, shows, hleft, rfl⟩
    | jumped | reported _ _ => exact absurd (hrefusal hstop).1 (by simp)
    | unmounted refused =>
      obtain rfl : SessionError.choiceOutOfRange position index available = _ := by
        simpa using hstop
      exact absurd (Session.of_choiceOutOfRange refused).1 (by simp)
    | failed _ | missing _ _ | unplayed _ _ | abandoned _ _ | unawaited =>
      exact absurd hstop (by simp)

/-! ## Taking a run up again -/

/-- How a run of a session is closed, and where it stands then. -/
theorem Session.run_closing (session : Session) (host : Host σ) (start : σ) (config : RunConfig) :
    ∃ stop point budget n earlier last, Closing host config point budget last n stop ∧
      (session.run host start config).1 = stop.map (session.run host start config).2.summary ∧
      (session.run host start config).2.events.toList = earlier ++ last ∧
      (session.run host start config).2.point = point.after host last ∧
      point.session.history.limit = session.history.limit := by
  obtain ⟨stop, ran, hpoint, hstop⟩ := run_ran session host start config
  obtain ⟨m, k, earlier, last, budget, onward, closing, hevents, -, -⟩ := ran.exists_closing
  obtain ⟨requests, hserve⟩ := onward.exists_requests
  refine ⟨stop, _, budget, k, earlier, last, closing, hstop, hevents, ?_, ?_⟩
  · rw [hpoint, hevents, RunPoint.after_append]
  · rw [hserve, Session.serve, limit_afterAll]

/-- **Stopped runs can be taken up again.** If the host fails to show a line or to choose, or picks
an option that does not exist, the session is settled on that step with the state and the history
it was presented with, and a further run makes the same request first. If a game is abandoned or the
host fails to play it, the session is on the suspension point: a further run asks for nothing and
finds nothing mounted there, whereas one undo presents the game, which a further run then asks for
first. -/
theorem stopped_runs_resume (session : Session) (host : Host σ) (start : σ) (config : RunConfig)
    (hlimit : 1 ≤ session.history.limit) :
    (∀ message, (session.run host start config).1 = .error (.host message) →
      ∃ call h, host.Fails config h message call ∧
        (session.run host start config).2.host = host.serve h call ∧
        (((∀ game, call ≠ .game game) ∧ Unanswered (session.run host start config).2 call) ∨
          ∃ game, call = .game game ∧ Parked (session.run host start config).2 game)) ∧
    (∀ position index available,
      (session.run host start config).1 =
          .error (.session (.choiceOutOfRange position index available)) →
        ∃ prompt options, Unanswered (session.run host start config).2 (.choose prompt options)) ∧
    ∀ summary game, (session.run host start config).1 = .ok summary →
      summary.outcome = .abandoned game → Parked (session.run host start config).2 game := by
  obtain ⟨stop, point, budget, n, earlier, last, closing, hstop, hevents, hpoint, hroom⟩ :=
    session.run_closing host start config
  generalize session.run host start config = run at *
  rw [← hroom] at hlimit
  refine ⟨fun message hended => ?_, fun position index available hended => ?_,
    fun summary game hended habandoned => ?_⟩
  · obtain rfl := stop_of_error (hstop.symm.trans hended)
    rcases closing.of_host with
      ⟨call, noGame, hfails, shows, rfl⟩ | ⟨game, hfails, shows, waits, rfl⟩
    · obtain ⟨hsession, hhost⟩ : run.2.session = point.presented.session ∧
          run.2.host = host.serve point.host call := by
        simpa [Progress.point] using hpoint
      refine ⟨call, point.host, hfails, hhost, Or.inl ⟨noGame, ?_⟩⟩
      exact unanswered_of_shows noGame shows hevents (by simp) hsession
    · obtain ⟨hsession, hhost⟩ : run.2.session = point.presented.session.after (.ask .proceed) ∧
          run.2.host = host.serve point.host (.game game) := by
        simpa [Progress.point] using hpoint
      refine ⟨.game game, point.host, hfails, hhost, Or.inr ⟨game, rfl, ?_⟩⟩
      exact parked_of_shows hlimit shows waits hevents hsession
  · obtain rfl := stop_of_error (hstop.symm.trans hended)
    obtain ⟨prompt, options, shows, hstays, rfl⟩ := closing.of_choiceOutOfRange
    have hsession : run.2.session = point.presented.session := by
      have hrests := (Session.ask_shows shows).1
      rw [← Session.script_after point.session (.ask .present)] at hrests
      calc run.2.session
          = point.presented.session.after (.ask (.choose index)) := by
            simpa [Progress.point] using congrArg RunPoint.session hpoint
        _ = point.presented.session.rested := hstays
        _ = point.presented.session := Session.rested_of_not_onBranch hrests
    exact ⟨prompt, options,
      unanswered_of_shows (by simp) shows hevents (by simp) hsession⟩
  · obtain ⟨rfl, -⟩ := stop_of_ok (hstop.symm.trans hended)
    rw [habandoned] at closing
    obtain ⟨shown, rest, shows, handled, rfl⟩ :=
      closing.exists_handled (by simp) (by simp) (by simp)
    obtain ⟨rfl, waits, rfl⟩ := handled.of_abandoned
    have hsession : run.2.session = point.presented.session.after (.ask .proceed) := by
      simpa [Progress.point] using congrArg RunPoint.session hpoint
    exact parked_of_shows hlimit shows waits hevents hsession

/-- A line, a choice and a game. -/
def invitation : Session where
  director.script :=
    ⟨[.say .ivan "Dice?", .choice "Well?" [⟨"Yes", 2⟩], .startGame .dice, .awaitResult .lastResult]⟩

/-- A host that gets by for as many requests as it counts. After that its player does not read on,
picks an option that is not there, or walks away from the game. -/
def wearyHost : Host Nat where
  showLine _ _
    | 0 => (.error "asleep", 0)
    | left + 1 => (.ok (), left)
  choose _ _
    | 0 => (.ok 1, 0)
    | left + 1 => (.ok 0, left)
  playGame _
    | 0 => (⟨.zero, .ok none⟩, 0)
    | left + 1 => (⟨.zero, .error "no dice"⟩, left)

/-- The runs stop at the line, at the choice and, in two ways, in the game. -/
theorem stopped_runs_resume_invitation :
    Unanswered (invitation.run wearyHost 0 {}).2 (.line .ivan "Dice?") ∧
    Unanswered (invitation.run wearyHost 1 {}).2 (.choose "Well?" [⟨"Yes", 2⟩]) ∧
    Parked (invitation.run wearyHost 2 {}).2 .dice ∧
    Parked (invitation.run wearyHost 3 {}).2 .dice := by
  have hresumes := fun start =>
    stopped_runs_resume invitation wearyHost start {} (by decide)
  refine ⟨?_, ?_, ?_, ?_⟩
  · have hcurrent : (invitation.run wearyHost 0 {}).2.session.director.current =
        .say .ivan "Dice?" := by decide +kernel
    obtain ⟨call, -, -, -, ⟨-, unanswered⟩ | ⟨game, -, parked⟩⟩ :=
      (hresumes 0).1 "asleep" (by decide +kernel)
    · have hstep := hcurrent.symm.trans unanswered.current
      cases call <;> simp [HostCall.step] at hstep
      obtain ⟨rfl, rfl⟩ := hstep
      exact unanswered
    · exact absurd parked.current (by rw [hcurrent]; decide)
  · have hcurrent : (invitation.run wearyHost 1 {}).2.session.director.current =
        .choice "Well?" [⟨"Yes", 2⟩] := by decide +kernel
    obtain ⟨prompt, options, unanswered⟩ := (hresumes 1).2.1 1 1 1 (by decide +kernel)
    obtain ⟨rfl, rfl⟩ : "Well?" = prompt ∧ [⟨"Yes", 2⟩] = options :=
      Step.choice.inj (hcurrent.symm.trans unanswered.current)
    exact unanswered
  · exact (hresumes 2).2.2 ⟨.abandoned .dice, 3, ⟨3, none⟩⟩ .dice (by decide +kernel) rfl
  · have hundone : (invitation.run wearyHost 3 {}).2.session.answer .undo =
        some (.ok (.mountGame .dice)) := by decide +kernel
    have hcurrent : (invitation.run wearyHost 3 {}).2.session.director.current =
        .awaitResult .lastResult := by decide +kernel
    obtain ⟨call, -, -, -, ⟨-, unanswered⟩ | ⟨game, -, parked⟩⟩ :=
      (hresumes 3).1 "no dice" (by decide +kernel)
    · have hstep := hcurrent.symm.trans unanswered.current
      cases call <;> simp [HostCall.step] at hstep
    · obtain rfl : Game.dice = game := by
        simpa using hundone.symm.trans parked.undone
      exact parked

end Narrative
