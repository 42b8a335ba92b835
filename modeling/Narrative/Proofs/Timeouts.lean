import Narrative.Proofs.Splitting

/-!
# Time limits of games

A game that takes longer than its limit counts as ended with the configured result, whatever it
would have ended with: another result, none, or a failure of the host. So a limit can be taken out
of the configuration and put into the host: a host that is punctual (`Host.punctual`) answers at
once, and with the configured result where the other host would have been late.

Such a host and its configuration without a limit cannot be told from the other host under the limit
(`Host.Alike`), and runs against hosts that cannot be told apart are the same.

Results:
* `Session.run_of_alike`: runs against hosts that answer alike are the same;
* **`timeouts_are_results`**: a run with a time limit is a run without one against a punctual host.
-/

namespace Narrative

variable {σ : Type} {host host' : Host σ} {config config' : RunConfig}

/-- A run that gives up reports the limit of its configuration. -/
theorem Ran.relimited {budget n : Nat} {point : RunPoint σ} {events : List RunEvent}
    {stop : RunStop} (ran : Ran host config budget point events n stop) :
    stop.mapError (RunError.relimited config.maxTransitions) = stop := by
  rcases stop with error | outcome
  · cases error with
    | transitionLimit limit =>
      obtain ⟨_, _, -, -, -, -, -, hlimit⟩ := ran.of_transitionLimit
      rw [hlimit]
      rfl
    | _ => rfl
  · rfl

/-- **Hosts that answer alike make the same runs**, within one budget. -/
theorem Session.run_of_alike (alike : host.Alike config host' config')
    (budget : config'.maxTransitions = config.maxTransitions) (session : Session) (start : σ) :
    let run := session.run host start config
    let run' := session.run host' start config'
    run'.1 = run.1 ∧ run'.2.events = run.2.events ∧ run'.2.session = run.2.session ∧
      run'.2.host = run.2.host := by
  intro run run'
  obtain ⟨stop, ran, hpoint, hstop⟩ := run_ran session host start config
  obtain ⟨stop', ran', hpoint', hstop'⟩ := run_ran session host' start config'
  have hsame := ran.of_alike alike
  rw [budget, ran.relimited] at hsame
  rw [budget] at ran'
  obtain ⟨hevents, hcount, rfl⟩ := ran'.unique hsame
  have hleft : run'.2.point = run.2.point := by
    rw [hpoint', hpoint, alike.after, hevents]
  have hsession : run'.2.session = run.2.session := congrArg RunPoint.session hleft
  have hsummary : run'.2.summary = run.2.summary := by
    funext outcome
    unfold Progress.summary
    rw [hcount, hsession]
  refine ⟨?_, Array.toList_inj.mp hevents, hsession, congrArg RunPoint.host hleft⟩
  rw [hstop', hstop, hsummary]

/-! ## Punctual hosts -/

/-- Without a limit a game ends as the host says. -/
theorem RunConfig.effective_of_untimed (h : config.gameTimeout = none) (answer : GameAnswer) :
    config.effective answer = answer.outcome := by
  unfold effective expires
  rw [h]
  rfl

/-- A game within its limit ends as the host says. -/
theorem RunConfig.effective_of_timely {limit : Duration} (h : config.gameTimeout = some limit)
    {answer : GameAnswer} (timely : ¬ limit.total < answer.delay.total) :
    config.effective answer = answer.outcome := by
  have hexpires : config.expires answer.delay = false := by
    unfold expires
    rw [h, Option.any_some]
    exact decide_eq_false timely
  unfold effective
  rw [hexpires]
  rfl

/-- A game past its limit ends with the configured result. -/
theorem RunConfig.effective_of_late {limit : Duration} (h : config.gameTimeout = some limit)
    {answer : GameAnswer} (late : limit.total < answer.delay.total) :
    config.effective answer = .ok (some config.timeoutResult) := by
  have hexpires : config.expires answer.delay = true := by
    unfold expires
    rw [h, Option.any_some]
    exact decide_eq_true late
  unfold effective
  rw [hexpires]
  rfl

/-- A host whose games answer at once. One that takes the other host longer than the limit answers
with the given result, whatever it would have ended with. -/
def Host.punctual (host : Host σ) (limit : Duration) (result : GameResult) : Host σ where
  showLine := host.showLine
  choose := host.choose
  playGame game h :=
    let answer := (host.playGame game h).1
    (⟨.zero, if limit.total < answer.delay.total then .ok (some result) else answer.outcome⟩,
      (host.playGame game h).2)

/-- A host under a time limit is like the punctual host without one. -/
theorem Host.alike_punctual (host : Host σ) (config : RunConfig) (limit : Duration) :
    host.Alike { config with gameTimeout := some limit }
      (host.punctual limit config.timeoutResult) { config with gameTimeout := none } where
  showLine := rfl
  choose := rfl
  ends game h := by
    rw [RunConfig.effective_of_untimed rfl]
    by_cases late : limit.total < (host.playGame game h).1.delay.total
    · rw [RunConfig.effective_of_late rfl late]
      exact if_pos late
    · rw [RunConfig.effective_of_timely rfl late]
      exact if_neg late
  next _ _ := rfl

/-- **A game that takes too long is a game with the configured result.** A run whose games have a
time limit and the run without a limit against the punctual host are the same: they end alike, the
same happens in them, with the same requests of the host, and they leave the same session and the
same state of the host. -/
theorem timeouts_are_results (session : Session) (host : Host σ) (start : σ) (config : RunConfig)
    (limit : Duration) :
    let timed := session.run host start { config with gameTimeout := some limit }
    let punctual := session.run (host.punctual limit config.timeoutResult) start
      { config with gameTimeout := none }
    punctual.1 = timed.1 ∧ punctual.2.calls = timed.2.calls ∧
      punctual.2.events = timed.2.events ∧ punctual.2.session = timed.2.session ∧
      punctual.2.host = timed.2.host := by
  intro timed punctual
  obtain ⟨hended, hevents, hsession, hhost⟩ :=
    session.run_of_alike (host.alike_punctual config limit) rfl start
  refine ⟨hended, ?_, hevents, hsession, hhost⟩
  unfold Progress.calls
  rw [hevents]

/-- A game with a line behind it, for those who lose. -/
def lostDice : Session where
  director.script :=
    ⟨[.startGame .dice, .awaitResult .lastResult, .branch .lastResult { Arms.empty with lose := some 4 },
      .goto 0, .say .ivan "Too slow."]⟩

/-- A host that hangs for a minute and a second when it plays a game, and then fails. -/
def hangingHost : Host Nat where
  showLine _ _ lines := (.ok (), lines + 1)
  choose _ _ lines := (.ok 0, lines)
  playGame _ lines := (⟨.ofParts 61 0, .error "connection lost"⟩, lines)

/-- Without a limit the failure breaks the run off. Within a minute the game is lost before it can
fail, the branch is taken and the line is shown, as against a host that loses at once. -/
theorem timeouts_are_results_lostDice :
    (lostDice.run hangingHost 0 {}).1 = .error (.host "connection lost") ∧
    (lostDice.run (hangingHost.punctual (.ofParts 60 0) .lose) 0 {}).1 =
      .ok ⟨.finished, 2, ⟨5, some .lose⟩⟩ ∧
    (lostDice.run hangingHost 0 { gameTimeout := some (.ofParts 60 0) }).1 =
      .ok ⟨.finished, 2, ⟨5, some .lose⟩⟩ ∧
    (lostDice.run hangingHost 0 { gameTimeout := some (.ofParts 60 0) }).2.host = 1 := by
  obtain ⟨hended, -, -, -, hhost⟩ :=
    timeouts_are_results lostDice hangingHost 0 {} (.ofParts 60 0)
  refine ⟨by decide +kernel, by decide +kernel, ?_, ?_⟩
  · rw [← hended]
    decide +kernel
  · rw [← hhost]
    decide +kernel

end Narrative
