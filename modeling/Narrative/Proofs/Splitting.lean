import Narrative.Proofs.Running
import Narrative.Proofs.Settling

/-!
# Runs in parts

A run that gives up for its budget can be taken up where it stopped. It gives up with the session
presented and nothing handled, so the second part presents the same step again and goes on as the
first part would have with a larger budget.

What a run does is determined by where it starts, its host, its configuration and its budget
(`Ran.unique`). Of the host only its answers matter, and of the configuration only what games end
with (`Host.Alike`); the limit shows in nothing but the error that reports it (`Ran.within`).
Presenting a step twice is as good as presenting it once (`Ran.of_presented`). So the rounds of the
first part, followed by the second part, are the run of both budgets.

Results:
* `Ran.of_alike`: runs against hosts that answer alike;
* `Ran.unique`: a run does one thing only;
* `Ran.of_transitionLimit`: what a run has done that gives up;
* **`run_splits`**: two runs in a row are one run with the sum of their budgets.
-/

namespace Narrative

/-! ## Configurations and their limit -/

/-- The same configuration with another budget. -/
def RunConfig.within (config : RunConfig) (budget : Nat) : RunConfig :=
  { config with maxTransitions := budget }

/-- The error a run with another limit breaks off with. -/
def RunError.relimited (limit : Nat) : RunError → RunError
  | .transitionLimit _ => .transitionLimit limit
  | error => error

/-- How a run ends that has rendered some steps before the part that ends like this, within a limit
of its own. -/
def RunEnd.continued (earlier limit : Nat) : RunEnd → RunEnd
  | .ok summary => .ok { summary with transitions := earlier + summary.transitions }
  | .error error => .error (error.relimited limit)

variable {σ : Type} {host : Host σ} {config : RunConfig} {point : RunPoint σ} {budget n : Nat}
  {events later : List RunEvent} {shown : Presentation}

theorem Handled.ne_transitionLimit {stop : Option RunStop}
    (handled : Handled host config point shown events stop) (limit : Nat) :
    stop ≠ some (.error (.transitionLimit limit)) := by
  rintro rfl
  simpa using handled.of_stop (by simp) (by simp)

/-! ## Hosts that make no difference -/

/-- **Two hosts under their configurations that runs cannot tell apart.** They show lines and choose
alike, and their games come to the same end. How long a game takes, what its limit is and how large
the budget is may differ. -/
structure Host.Alike (host : Host σ) (config : RunConfig) (host' : Host σ) (config' : RunConfig) :
    Prop where
  showLine : host'.showLine = host.showLine
  choose : host'.choose = host.choose
  ends : ∀ game h,
    config'.effective (host'.playGame game h).1 = config.effective (host.playGame game h).1
  next : ∀ game h, (host'.playGame game h).2 = (host.playGame game h).2

section

variable {host' : Host σ} {config' : RunConfig}

theorem Host.Alike.after (alike : host.Alike config host' config') (point : RunPoint σ)
    (events : List RunEvent) : point.after host' events = point.after host events := by
  have hserve : host'.serve = host.serve := by
    funext h call
    cases call with
    | line speaker text => simp only [serve, alike.showLine]
    | choose prompt options => simp only [serve, alike.choose]
    | game game => exact alike.next game h
  have hnext : RunPoint.next host' = RunPoint.next host := by
    funext point event
    cases event <;> simp only [RunPoint.next, hserve]
  rw [RunPoint.after, hnext]
  rfl

theorem Host.Alike.consult (alike : host.Alike config host' config') (h : σ)
    (shown : Presentation) : host'.consult? h shown = host.consult? h shown := by
  cases shown <;> simp only [consult?, alike.showLine, alike.choose]

/-- Steps are handled alike. -/
theorem Handled.of_alike (alike : host.Alike config host' config') {stop : Option RunStop}
    (handled : Handled host config point shown events stop) :
    Handled host' config' point shown events stop := by
  cases handled with
  | failed consulted => exact .failed ((alike.consult _ _).trans consulted)
  | answered consulted => exact .answered ((alike.consult _ _).trans consulted)
  | jumped => exact .jumped
  | unmounted refused => exact .unmounted refused
  | missing proceeded found => exact .missing proceeded found
  | unplayed waits ended => exact .unplayed waits ((alike.ends _ _).trans ended)
  | abandoned waits ended => exact .abandoned waits ((alike.ends _ _).trans ended)
  | reported waits ended => exact .reported waits ((alike.ends _ _).trans ended)
  | unawaited => exact .unawaited

theorem Round.of_alike (alike : host.Alike config host' config') {stop : Option RunStop}
    (round : Round host config point events stop) : Round host' config' point events stop := by
  obtain ⟨shows, lasts, handled⟩ := round
  exact ⟨shows, lasts, handled.of_alike alike⟩

theorem Onward.of_alike (alike : host.Alike config host' config')
    (onward : Onward host config n point events) : Onward host' config' n point events := by
  induction onward with
  | start => exact .start
  | round round _ ih =>
    rw [← alike.after] at ih
    exact .round (round.of_alike alike) ih

/-- A limit is only reported. -/
theorem Closing.of_alike (alike : host.Alike config host' config') {stop : RunStop}
    (closing : Closing host config point budget events n stop) :
    Closing host' config' point budget events n
      (stop.mapError (RunError.relimited config'.maxTransitions)) := by
  cases closing with
  | refused refused => exact .refused refused
  | finished shows => exact .finished shows
  | exhausted shows lasts => exact .exhausted shows lasts
  | stopped round =>
    have hstop : stop.mapError (RunError.relimited config'.maxTransitions) = stop := by
      obtain ⟨-, -, handled⟩ := round
      rcases stop with error | outcome
      · cases error with
        | transitionLimit other => exact absurd rfl (handled.ne_transitionLimit other)
        | _ => rfl
      · rfl
    rw [hstop]
    exact .stopped (round.of_alike alike)

/-- **What is done against one host is done against the other.** -/
theorem Ran.of_alike (alike : host.Alike config host' config') {stop : RunStop}
    (ran : Ran host config budget point events n stop) :
    Ran host' config' budget point events n
      (stop.mapError (RunError.relimited config'.maxTransitions)) := by
  induction ran with
  | closing closing => exact .closing (closing.of_alike alike)
  | onward round _ ih =>
    rw [← alike.after] at ih
    exact .onward (round.of_alike alike) ih

end

/-- A budget makes no difference to what a host does. -/
theorem Host.alike_within (host : Host σ) (config : RunConfig) (limit : Nat) :
    host.Alike config host (config.within limit) where
  showLine := rfl
  choose := rfl
  ends _ _ := rfl
  next _ _ := rfl

theorem Onward.within (onward : Onward host config n point events) (limit : Nat) :
    Onward host (config.within limit) n point events :=
  onward.of_alike (host.alike_within config limit)

theorem Ran.within {stop : RunStop} (ran : Ran host config budget point events n stop)
    (limit : Nat) :
    Ran host (config.within limit) budget point events n
      (stop.mapError (RunError.relimited limit)) :=
  ran.of_alike (host.alike_within config limit)

/-! ## A run does one thing only -/

/-- **A step is handled in one way only.** -/
theorem Handled.unique {events' : List RunEvent} {stop stop' : Option RunStop}
    (handled : Handled host config point shown events stop)
    (handled' : Handled host config point shown events' stop') :
    events = events' ∧ stop = stop' := by
  -- two ways differ in what is shown, in the answer of the session or in that of the host
  cases handled <;> cases handled' <;> simp_all [Host.consult?, Session.Waits]

theorem Round.unique {events' : List RunEvent} {stop stop' : Option RunStop}
    (round : Round host config point events stop)
    (round' : Round host config point events' stop') : events = events' ∧ stop = stop' := by
  obtain ⟨shows, -, handled⟩ := round
  obtain ⟨shows', -, handled'⟩ := round'
  obtain rfl : _ = _ := Except.ok.inj (Option.some.inj (shows.symm.trans shows'))
  obtain ⟨rfl, rfl⟩ := handled.unique handled'
  exact ⟨rfl, rfl⟩

/-- In a round a step is presented that is no end. -/
theorem Round.exists_shows {stop : Option RunStop} (round : Round host config point events stop) :
    ∃ shown, point.session.answer (.ask .present) = some (.ok shown) ∧ shown ≠ .ended := by
  obtain ⟨shows, lasts, -⟩ := round
  exact ⟨_, shows, lasts⟩

/-- A run is closed in one way only. -/
theorem Closing.unique {n' : Nat} {events' : List RunEvent} {stop stop' : RunStop}
    (closing : Closing host config point budget events n stop)
    (closing' : Closing host config point budget events' n' stop') :
    events = events' ∧ n = n' ∧ stop = stop' := by
  cases closing with
  | stopped round =>
    obtain ⟨shown, shows, lasts⟩ := round.exists_shows
    cases closing' with
    | stopped round' =>
      obtain ⟨rfl, hstop⟩ := round.unique round'
      exact ⟨rfl, rfl, Option.some.inj hstop⟩
    | _ => simp_all
  | exhausted _ _ => cases closing' <;> simp_all
  | refused _ | finished _ =>
    cases closing' with
    | stopped round =>
      obtain ⟨shown, shows, lasts⟩ := round.exists_shows
      simp_all
    | _ => simp_all

/-- A run that goes on with a round is not closed there. -/
theorem Closing.not_round (closing : Closing host config point (budget + 1) events n stop)
    {later : List RunEvent} (round : Round host config point later none) : False := by
  obtain ⟨shown, shows, lasts⟩ := round.exists_shows
  cases closing with
  | stopped round' => exact absurd (round.unique round').2 (by simp)
  | _ => simp_all

/-- **A run does one thing only.** -/
theorem Ran.unique {n' : Nat} {events' : List RunEvent} {stop stop' : RunStop}
    (ran : Ran host config budget point events n stop)
    (ran' : Ran host config budget point events' n' stop') :
    events = events' ∧ n = n' ∧ stop = stop' := by
  induction ran generalizing events' n' with
  | closing closing =>
    cases ran' with
    | closing closing' => exact closing.unique closing'
    | onward round _ => exact (closing.not_round round).elim
  | onward round _ ih =>
    cases ran' with
    | closing closing => exact (closing.not_round round).elim
    | onward round' ran' =>
      obtain ⟨rfl, -⟩ := round.unique round'
      obtain ⟨rfl, rfl, hstop⟩ := ih ran'
      exact ⟨rfl, rfl, hstop⟩

/-! ## Taking a run up again -/

/-- A session that has presented a step presents it again, and stays as it is. -/
theorem Session.present_again {session : Session}
    (shows : session.answer (.ask .present) = some (.ok shown)) :
    (session.after (.ask .present)).answer (.ask .present) = some (.ok shown) ∧
      (session.after (.ask .present)).after (.ask .present) = session.after (.ask .present) := by
  obtain ⟨hrest, rfl⟩ := ask_shows shows
  refine present_of_rests ?_
  rw [script_after]
  exact hrest

/-- Presenting a point twice is as good as once. -/
theorem RunPoint.presented_presented
    (shows : point.session.answer (.ask .present) = some (.ok shown)) :
    point.presented.presented = point.presented := by
  unfold presented
  exact congrArg (RunPoint.mk · point.host) (Session.present_again shows).2

/-- What is done after a presentation can be done without it. -/
theorem Ran.of_presented {stop : RunStop}
    (ran : Ran host config budget point.presented events n stop)
    (shows : point.session.answer (.ask .present) = some (.ok shown)) :
    ∃ later, events = point.presented.session.asked .present :: later ∧
      Ran host config budget point (point.session.asked .present :: later) n stop := by
  have hagain : point.presented.session.answer (.ask .present) = some (.ok shown) :=
    (Session.present_again shows).1
  have hpoint := RunPoint.presented_presented shows
  have hround : ∀ {events : List RunEvent} {stop : Option RunStop},
      Round host config point.presented events stop →
        ∃ later, events = point.presented.session.asked .present :: later ∧
          Round host config point (point.session.asked .present :: later) stop := by
    rintro _ _ ⟨shows', lasts, handled⟩
    rw [hpoint] at handled
    rw [hagain] at shows'
    exact ⟨_, rfl, .intro (shows.trans shows') lasts handled⟩
  cases ran with
  | closing closing =>
    cases closing with
    | refused refused => exact absurd (hagain.symm.trans refused) (by simp)
    | finished shows' =>
      rw [hagain] at shows'
      exact ⟨[], rfl, .closing (.finished (shows.trans shows'))⟩
    | exhausted shows' lasts =>
      rw [hagain] at shows'
      exact ⟨[], rfl, .closing (.exhausted (shows.trans shows') lasts)⟩
    | stopped round =>
      obtain ⟨later, rfl, hround⟩ := hround round
      exact ⟨later, rfl, .closing (.stopped hround)⟩
  | onward round ran =>
    obtain ⟨later, rfl, hround⟩ := hround round
    refine ⟨_, rfl, .onward hround ?_⟩
    rw [RunPoint.after_cons, RunPoint.next_presented] at ran ⊢
    rw [hpoint] at ran
    exact ran

/-- Rounds before a run make a longer run. -/
theorem Onward.ran {m : Nat} {stop : RunStop} (onward : Onward host config m point events)
    (ran : Ran host config budget (point.after host events) later n stop) :
    Ran host config (budget + m) point (events ++ later) (n + m) stop := by
  induction onward with
  | start => exact ran
  | round round _ ih =>
    rw [List.append_assoc]
    rw [RunPoint.after_append] at ran
    exact .onward round (ih ran)

/-- **A run that gives up** has used its budget up for rounds, and has presented one step more. -/
theorem Ran.of_transitionLimit {limit : Nat}
    (ran : Ran host config budget point events n (.error (.transitionLimit limit))) :
    ∃ earlier shown, Onward host config budget point earlier ∧
      (point.after host earlier).session.answer (.ask .present) = some (.ok shown) ∧
      shown ≠ .ended ∧
      events = earlier ++ [(point.after host earlier).session.asked .present] ∧
      n = budget ∧ limit = config.maxTransitions := by
  obtain ⟨m, k, earlier, last, budget', honward, hclosing, rfl, rfl, rfl⟩ := ran.exists_closing
  generalize hstop : Except.error (RunError.transitionLimit limit) = stop at hclosing
  cases hclosing with
  | refused _ | finished _ => exact absurd hstop (by simp)
  | exhausted shows lasts =>
    obtain rfl : limit = config.maxTransitions := by simpa using hstop
    refine ⟨earlier, _, ?_, shows, lasts, rfl, rfl, rfl⟩
    rw [Nat.zero_add]
    exact honward
  | stopped round =>
    obtain ⟨-, -, handled⟩ := round
    exact absurd (congrArg some hstop.symm) (handled.ne_transitionLimit limit)

/-- Asking the session for something is no request of the host. -/
@[simp] theorem Session.call?_asked (session : Session) (request : Request) :
    (session.asked request).call? = none := by
  cases request <;> rfl

@[simp] theorem RunEvent.call?_called (call : HostCall) : (called call).call? = some call := rfl

/-- **A run that gives up and the run that takes it up** make one run. -/
theorem Ran.append {m k limit : Nat} {stop : RunStop}
    (first : Ran host (config.within m) m point events k (.error (.transitionLimit limit)))
    (second : Ran host (config.within budget) budget (point.after host events) later n stop) :
    ∃ whole, Ran host (config.within (m + budget)) (m + budget) point whole (m + n)
        (stop.mapError (RunError.relimited (m + budget))) ∧
      whole.filterMap RunEvent.call? =
        events.filterMap RunEvent.call? ++ later.filterMap RunEvent.call? ∧
      point.after host whole = (point.after host events).after host later ∧ k = m ∧ limit = m := by
  obtain ⟨earlier, shown, onward, shows, -, rfl, hcount, hlimit⟩ := first.of_transitionLimit
  rw [RunPoint.after_append, RunPoint.after_cons, RunPoint.next_presented,
    RunPoint.after_nil] at second ⊢
  obtain ⟨rest, rfl, ran⟩ := second.of_presented shows
  have hwhole := (onward.within (m + budget)).ran (ran.within (m + budget))
  rw [Nat.add_comm budget, Nat.add_comm n] at hwhole
  refine ⟨_, hwhole, ?_, ?_, hcount, hlimit⟩
  · simp
  · rw [RunPoint.after_append, RunPoint.after_cons, RunPoint.after_cons, RunPoint.next_presented,
      RunPoint.next_presented, RunPoint.presented_presented shows]

/-- The requests made of the host in a run, in order. -/
theorem Progress.toList_calls (progress : Progress σ) :
    progress.calls.toList = progress.events.toList.filterMap RunEvent.call? := by
  unfold calls
  rw [Array.toList_filterMap]

/-- **Two runs in a row are one.** If a run gives up for its budget `m`, then running the session it
leaves against the same host with budget `n` makes, together, the run with budget `m + n`: the same
requests of the host in the same order, the same host state, the same session with its history, and
the same end. The steps of the parts add up, `m` of them in the first part; where the second part
gives up as well, only the limit it reports is another. -/
theorem run_splits (session : Session) (host : Host σ) (start : σ) (config : RunConfig)
    {m limit : Nat} (n : Nat)
    (stops : (session.run host start (config.within m)).1 = .error (.transitionLimit limit)) :
    let first := (session.run host start (config.within m)).2
    let second := first.session.run host first.host (config.within n)
    let whole := session.run host start (config.within (m + n))
    whole.1 = RunEnd.continued m (m + n) second.1 ∧
      whole.2.calls = first.calls ++ second.2.calls ∧
      whole.2.host = second.2.host ∧ whole.2.session = second.2.session ∧
      whole.2.transitions = first.transitions + second.2.transitions ∧
      first.transitions = m ∧ limit = m := by
  intro first second whole
  obtain ⟨stop₁, ran₁, hpoint₁, hstop₁⟩ := run_ran session host start (config.within m)
  obtain ⟨stop₂, ran₂, hpoint₂, hstop₂⟩ := run_ran first.session host first.host (config.within n)
  obtain ⟨stop₃, ran₃, hpoint₃, hstop₃⟩ := run_ran session host start (config.within (m + n))
  obtain rfl := stop_of_error (hstop₁.symm.trans stops)
  have hmiddle : (⟨first.session, first.host⟩ : RunPoint σ) =
      RunPoint.after host ⟨session, start⟩ first.events.toList := hpoint₁
  rw [hmiddle] at ran₂ hpoint₂
  obtain ⟨events, hran, hcalls, hpoint, htransitions, hlimit⟩ := ran₁.append ran₂
  obtain ⟨hevents, hcount, rfl⟩ := ran₃.unique hran
  have hleft : whole.2.point = second.2.point := by
    rw [hpoint₃, hevents, hpoint, hpoint₂]
  have hsession : whole.2.session = second.2.session := congrArg RunPoint.session hleft
  refine ⟨?_, ?_, congrArg RunPoint.host hleft, hsession, ?_, htransitions, hlimit⟩
  · rw [hstop₃, hstop₂]
    cases stop₂ with
    | error error => rfl
    | ok outcome =>
      refine congrArg Except.ok ?_
      unfold Progress.summary
      rw [hcount]
      exact congrArg (RunSummary.mk outcome (m + _)) (congrArg Session.state hsession)
  · apply Array.toList_inj.mp
    rw [Array.toList_append, Progress.toList_calls, Progress.toList_calls, Progress.toList_calls,
      hevents, hcalls]
  · rw [hcount, htransitions]

/-- A game that is played again and again. -/
def tirelessDice : Session where
  director.script := ⟨[.say .ivan "Again!", .startGame .dice, .awaitResult .lastResult, .goto 0]⟩

/-- A host that counts its lines and games. Every game is won. -/
def tallyHost : Host (Nat × Nat) where
  showLine _ _ tally := (.ok (), (tally.1 + 1, tally.2))
  choose _ _ tally := (.ok 0, tally)
  playGame _ tally := (⟨.zero, .ok (some .win)⟩, (tally.1, tally.2 + 1))

/-- A budget of two is used up by a line and a game. Three steps more follow the jump and play
another round. -/
theorem run_splits_tirelessDice :
    (tirelessDice.run tallyHost (0, 0) (RunConfig.within {} 2)).1 = .error (.transitionLimit 2) ∧
    (tirelessDice.run tallyHost (0, 0) (RunConfig.within {} 2)).2.host = (1, 1) ∧
    (tirelessDice.run tallyHost (0, 0) (RunConfig.within {} (2 + 3))).1 =
      .error (.transitionLimit 5) ∧
    (tirelessDice.run tallyHost (0, 0) (RunConfig.within {} (2 + 3))).2.host = (2, 2) := by
  have hstops : (tirelessDice.run tallyHost (0, 0) (RunConfig.within {} 2)).1 =
      .error (.transitionLimit 2) := by decide +kernel
  obtain ⟨hended, -, hhost, -⟩ := run_splits tirelessDice tallyHost (0, 0) {} 3 hstops
  refine ⟨hstops, by decide +kernel, ?_, ?_⟩
  · rw [hended]
    decide +kernel
  · rw [hhost]
    decide +kernel

end Narrative
