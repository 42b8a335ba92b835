import Narrative.Proofs.Games
import Narrative.Proofs.Splitting

/-!
# Budgets of runs

The rounds of a run depend on its budget only in that they stop when it is used up: a budget that
is enough is as good as any larger one, and a run that gives up is the beginning of every run with a
larger budget.

A run is counted in two ways. `transitions` counts the steps that are handled, `openings` how often
the run goes round. It goes round once more for a step that is presented and not handled: the end,
or the step at which it gives up.

Results:
* **`rounds_eq_of_le`**: rounds that end within a budget end the same way within a larger one;
* `Ran.of_needed`: a run needs no more budget than it has counted transitions;
* `Onward.exists_append`: a run with budget enough starts with the rounds of a shorter one;
* **`runs_grow_with_budget`**: runs of one session with different budgets.
-/

namespace Narrative

variable {σ : Type} {host : Host σ} {config : RunConfig} {budget m n : Nat} {point : RunPoint σ}
  {events earlier : List RunEvent} {stop : RunStop}

/-! ## Enough budget -/

/-- A round does not look at the budget. -/
theorem round_within (host : Host σ) (config : RunConfig) (limit : Nat) :
    round host (config.within limit) = round host config := rfl

/-- **A budget that is enough is as good as a larger one.** -/
theorem rounds_eq_of_le {limit limit' budget' : Nat} {progress : Progress σ}
    (hle : budget ≤ budget')
    (enough : ∀ given, (rounds host (config.within limit) budget progress).1 ≠
      .error (.transitionLimit given)) :
    rounds host (config.within limit') budget' progress =
      rounds host (config.within limit) budget progress := by
  induction budget generalizing budget' progress with
  | zero =>
    cases hopen : openRound progress with
    | mk outcome after =>
      cases outcome with
      | ok shown =>
        unfold rounds at enough
        rw [hopen] at enough
        exact absurd rfl (enough limit)
      | error ended =>
        have hround : round host (config.within limit') progress = (.error ended, after) :=
          Run.bind_of_error hopen
        cases budget' with
        | zero => simp only [rounds, hopen, carryOn]
        | succ budget' => simp only [rounds, hopen, hround, carryOn]
  | succ budget ih =>
    obtain ⟨budget', rfl⟩ := Nat.exists_eq_add_of_le' (Nat.le_trans (Nat.le_add_left 1 budget) hle)
    unfold rounds at enough ⊢
    rw [round_within] at enough ⊢
    rw [round_within]
    cases hround : round host config progress with
    | mk outcome after =>
      rw [hround] at enough
      cases outcome with
      | error ended => rfl
      | ok _ => exact ih (Nat.le_of_succ_le_succ hle) enough

/-! ## Counting rounds -/

/-- Whether an event opens a round. -/
def RunEvent.opens : RunEvent → Bool
  | .presented _ => true
  | _ => false

/-- How often a run has gone round. -/
def Progress.openings (progress : Progress σ) : Nat := progress.events.countP RunEvent.opens

/-- A round is opened once. -/
theorem Round.countP_opens {stop : Option RunStop} (round : Round host config point events stop) :
    events.countP RunEvent.opens = 1 := by
  obtain ⟨-, -, handled⟩ := round
  rw [List.countP_cons_of_pos rfl, Nat.add_eq_right, List.countP_eq_zero]
  intro event hmem hopens
  cases event with
  | presented reply => exact handled.not_presented_mem hmem
  | _ => exact absurd hopens (by simp [RunEvent.opens])

theorem Onward.countP_opens (onward : Onward host config n point events) :
    events.countP RunEvent.opens = n := by
  induction onward with
  | start => rfl
  | round round _ ih => rw [List.countP_append, round.countP_opens, ih, Nat.add_comm]

/-- **A run goes round once more than its budget admits**, at most. -/
theorem Ran.countP_opens_le (ran : Ran host config budget point events n stop) :
    events.countP RunEvent.opens ≤ budget + 1 := by
  induction ran with
  | @closing budget _ point _ _ closing =>
    cases closing with
    | stopped round =>
      rw [round.countP_opens]
      exact Nat.le_add_left _ _
    | _ => exact Nat.le_add_left _ _
  | onward round _ ih =>
    rw [List.countP_append, round.countP_opens, Nat.add_comm]
    exact Nat.succ_le_succ ih

/-- Every step that is handled takes its share of the budget. -/
theorem Ran.transitions_le (ran : Ran host config budget point events n stop) : n ≤ budget := by
  induction ran with
  | closing closing =>
    cases closing with
    | stopped _ => exact Nat.le_add_left _ _
    | _ => exact Nat.zero_le _
  | onward _ _ ih => exact Nat.succ_le_succ ih

/-- A run that does not give up needs no more budget than it has counted transitions. -/
theorem Ran.of_needed (ran : Ran host config budget point events n stop)
    (enough : ∀ limit, stop ≠ .error (.transitionLimit limit)) :
    Ran host config n point events n stop := by
  induction ran with
  | closing closing =>
    refine .closing ?_
    cases closing with
    | refused refused => exact .refused refused
    | finished shows => exact .finished shows
    | exhausted _ _ => exact absurd rfl (enough _)
    | stopped round => exact .stopped round
  | onward round _ ih => exact .onward round (ih enough)

/-- A run with budget enough starts with the rounds that another run goes through. -/
theorem Onward.exists_append (onward : Onward host config m point earlier)
    (ran : Ran host config budget point events n stop) (hle : m ≤ budget) :
    ∃ later, events = earlier ++ later := by
  induction onward generalizing budget events n with
  | start => exact ⟨events, rfl⟩
  | round round _ ih =>
    cases ran with
    | closing closing =>
      obtain ⟨budget, rfl⟩ := Nat.exists_eq_add_of_le' (Nat.le_trans (Nat.le_add_left 1 _) hle)
      exact (closing.not_round round).elim
    | onward round' ran =>
      obtain ⟨rfl, -⟩ := round.unique round'
      obtain ⟨later, rfl⟩ := ih ran (Nat.le_of_succ_le_succ hle)
      exact ⟨later, (List.append_assoc ..).symm⟩

/-! ## Runs with different budgets -/

/-- The run has used its budget up. -/
def RunEnd.GivesUp (ended : RunEnd) : Prop := ∃ limit, ended = .error (.transitionLimit limit)

/-- **Where a run stands that has given up** with a budget of `m`. -/
structure OutOfBudget (host : Host σ) (config : RunConfig) (start : RunPoint σ) (m : Nat)
    (progress : Progress σ) : Prop where
  /-- as many steps are handled as the budget admits -/
  transitions : progress.transitions = m
  /-- they are handled in rounds that do not stop the run; after them a step is presented that is no
  end, and nothing else happens -/
  rounds : ∃ earlier reply shown, Onward host config m start earlier ∧
    progress.events.toList = earlier ++ [.presented reply] ∧
    reply.outcome = .ok shown ∧ shown ≠ .ended
  /-- the run has gone round once more than it has handled steps -/
  openings : progress.openings = m + 1
  /-- the session is settled -/
  settled : progress.session.director.current.kind ≠ .branch
  /-- the session is not at the end -/
  lasts : progress.session.isEnded = false

/-- A run that gives up has used up its own budget, and all of it. -/
theorem Session.run_gives_up (session : Session) (host : Host σ) (start : σ) (config : RunConfig)
    {limit : Nat} (h : (session.run host start config).1 = .error (.transitionLimit limit)) :
    limit = config.maxTransitions ∧
      OutOfBudget host config ⟨session, start⟩ config.maxTransitions
        (session.run host start config).2 := by
  obtain ⟨stop, ran, hpoint, hstop⟩ := run_ran session host start config
  obtain rfl := stop_of_error (hstop.symm.trans h)
  obtain ⟨earlier, shown, onward, shows, lasts, hevents, hcount, hlimit⟩ := ran.of_transitionLimit
  have hsession : (session.run host start config).2.session =
      (RunPoint.after host ⟨session, start⟩ earlier).session.after (.ask .present) := by
    rw [hevents, RunPoint.after_append, RunPoint.after_cons, RunPoint.next_presented,
      RunPoint.after_nil] at hpoint
    exact congrArg RunPoint.session hpoint
  obtain ⟨hrests, hshown⟩ := Session.ask_shows shows
  rw [← script_after _ (.ask .present), ← hsession] at hrests
  rw [← hsession] at hshown
  refine ⟨hlimit, hcount, ⟨earlier, _, shown, onward, hevents, answer_ask_iff.mp shows, lasts⟩, ?_,
    hrests, ?_⟩
  · unfold Progress.openings
    rw [← Array.countP_toList, hevents, List.countP_append, onward.countP_opens]
    rfl
  · rw [hshown] at lasts
    exact Bool.eq_false_iff.mpr (mt (shown_eq_ended_iff hrests).mpr lasts)

/-- With another limit, a run gives up only if it did before. -/
theorem RunStop.of_relimited {limit given : Nat}
    (h : stop.mapError (RunError.relimited limit) = .error (.transitionLimit given)) :
    ∃ earlier, stop = .error (.transitionLimit earlier) := by
  rcases stop with error | outcome
  · cases error with
    | transitionLimit earlier => exact ⟨earlier, rfl⟩
    | _ => exact absurd h (by simp [Except.mapError, RunError.relimited])
  · exact absurd h (by simp [Except.mapError])

/-- A run that does not give up is the run with any larger budget. -/
theorem Session.run_within_of_le (session : Session) (host : Host σ) (start : σ)
    (config : RunConfig) {m m' : Nat} (hle : m ≤ m')
    (enough : ¬ (session.run host start (config.within m)).1.GivesUp) :
    session.run host start (config.within m') = session.run host start (config.within m) :=
  rounds_eq_of_le hle fun limit h => enough ⟨limit, h⟩

/-- **A run that does not give up needs the transitions it has counted**: with that budget it is the
same run, and with any smaller one it gives up. -/
theorem Session.run_of_needed (session : Session) (host : Host σ) (start : σ) (config : RunConfig)
    (enough : ¬ (session.run host start config).1.GivesUp) :
    let needed := (session.run host start config).2.transitions
    needed ≤ config.maxTransitions ∧
      session.run host start (config.within needed) = session.run host start config ∧
      ∀ m < needed,
        (session.run host start (config.within m)).1 = .error (.transitionLimit m) := by
  intro needed
  obtain ⟨stop, ran, -, hstop⟩ := run_ran session host start config
  have hle : needed ≤ config.maxTransitions := ran.transitions_le
  have hends : ∀ limit, stop ≠ .error (.transitionLimit limit) := by
    rintro limit rfl
    exact enough ⟨limit, hstop⟩
  -- with the needed budget the same is done, so the run does not give up either
  have hneeded : ¬ (session.run host start (config.within needed)).1.GivesUp := by
    rintro ⟨limit, hlimit⟩
    obtain ⟨stop', ran', -, hstop'⟩ := run_ran session host start (config.within needed)
    obtain rfl := stop_of_error (hstop'.symm.trans hlimit)
    obtain ⟨-, -, hsame⟩ := ran'.unique ((ran.of_needed hends).within needed)
    obtain ⟨given, hgiven⟩ := RunStop.of_relimited hsame.symm
    exact hends given hgiven
  have hrun : session.run host start config = session.run host start (config.within needed) :=
    session.run_within_of_le host start config hle hneeded
  refine ⟨hle, hrun.symm, fun m hm => ?_⟩
  -- a run that ends within less would be this run, and count as many transitions
  by_cases hgives : (session.run host start (config.within m)).1.GivesUp
  · obtain ⟨limit, hlimit⟩ := hgives
    obtain ⟨rfl, -⟩ := session.run_gives_up host start (config.within m) hlimit
    exact hlimit
  · have hsame : session.run host start config = session.run host start (config.within m) :=
      session.run_within_of_le host start config (Nat.le_trans hm.le hle) hgives
    obtain ⟨_, ran', -⟩ := run_ran session host start (config.within m)
    rw [← hsame] at ran'
    exact absurd ran'.transitions_le (Nat.not_le_of_lt hm)

/-- The requests of a run that gives up are the first requests of a run with a larger budget. -/
theorem Session.calls_prefix (session : Session) (host : Host σ) (start : σ) (config : RunConfig)
    {m m' : Nat} (hle : m ≤ m')
    (gives : (session.run host start (config.within m)).1.GivesUp) :
    (session.run host start (config.within m)).2.calls.toList <+:
      (session.run host start (config.within m')).2.calls.toList := by
  obtain ⟨limit, hlimit⟩ := gives
  obtain ⟨-, houtside⟩ := session.run_gives_up host start (config.within m) hlimit
  obtain ⟨earlier, reply, shown, onward, hevents, -, -⟩ := houtside.rounds
  obtain ⟨stop, ran, -, -⟩ := run_ran session host start (config.within m')
  obtain ⟨later, hlater⟩ := (onward.within m').exists_append ran hle
  rw [Progress.toList_calls, Progress.toList_calls, hevents, hlater, List.filterMap_append,
    List.filterMap_append]
  exact (List.prefix_append_right_inj _).mpr List.nil_prefix

/-- **A budget decides how far a run gets, and nothing else.** Consider the runs of a session
against a host, with one configuration and all budgets.

A run goes round at most once more than its budget. If it does not give up, all runs with larger
budgets are the same run. If it gives up, it has used up its budget and is settled on a step that is
no end (`OutOfBudget`), and its requests of the host are the first ones of every run with a larger
budget. A run that does not give up needs exactly the transitions it has counted: it is the run with
that budget, and every smaller one is used up. -/
theorem runs_grow_with_budget (session : Session) (host : Host σ) (start : σ)
    (config : RunConfig) :
    let run (budget : Nat) := session.run host start (config.within budget)
    (∀ m, (run m).2.openings ≤ m + 1) ∧
    (∀ m m', m ≤ m' → ¬ (run m).1.GivesUp → run m' = run m) ∧
    (∀ m limit, (run m).1 = .error (.transitionLimit limit) →
      limit = m ∧ OutOfBudget host (config.within m) ⟨session, start⟩ m (run m).2 ∧
        ∀ m', m ≤ m' → (run m).2.calls.toList <+: (run m').2.calls.toList) ∧
    ∀ m, ¬ (run m).1.GivesUp →
      (run m).2.transitions ≤ m ∧ run (run m).2.transitions = run m ∧
        ∀ m' < (run m).2.transitions, (run m').1 = .error (.transitionLimit m') := by
  intro run
  refine ⟨fun m => ?_, fun m m' hle enough => ?_, fun m limit hlimit => ?_, fun m enough => ?_⟩
  · obtain ⟨stop, ran, -, -⟩ := run_ran session host start (config.within m)
    unfold Progress.openings
    rw [← Array.countP_toList]
    exact ran.countP_opens_le
  · exact session.run_within_of_le host start config hle enough
  · obtain ⟨rfl, hgiven⟩ := session.run_gives_up host start (config.within m) hlimit
    exact ⟨rfl, hgiven, fun m' hle => session.calls_prefix host start config hle ⟨_, hlimit⟩⟩
  · exact session.run_of_needed host start (config.within m) enough

/-- One game with a line before and a line behind it. -/
def singleGame : Session where
  director.script :=
    ⟨[.say .ivan "Ready?", .startGame .dice, .awaitResult .lastResult, .say .ivan "Well rolled."]⟩

/-- The two lines and the game need a budget of three. More makes no difference; with less the last
line is not shown. -/
theorem runs_grow_with_budget_singleGame :
    (singleGame.run tallyHost (0, 0) (RunConfig.within {} 3)).1 =
      .ok ⟨.finished, 3, ⟨4, some .win⟩⟩ ∧
    (∀ m, 3 ≤ m → singleGame.run tallyHost (0, 0) (RunConfig.within {} m) =
      singleGame.run tallyHost (0, 0) (RunConfig.within {} 3)) ∧
    (singleGame.run tallyHost (0, 0) (RunConfig.within {} 2)).1 = .error (.transitionLimit 2) ∧
    (singleGame.run tallyHost (0, 0) (RunConfig.within {} 2)).2.calls.toList <+:
      (singleGame.run tallyHost (0, 0) (RunConfig.within {} 3)).2.calls.toList := by
  have hended : (singleGame.run tallyHost (0, 0) (RunConfig.within {} 3)).1 =
      .ok ⟨.finished, 3, ⟨4, some .win⟩⟩ := by
    decide +kernel
  have hneeded : (singleGame.run tallyHost (0, 0) (RunConfig.within {} 3)).2.transitions = 3 := by
    decide +kernel
  have henough : ¬ (singleGame.run tallyHost (0, 0) (RunConfig.within {} 3)).1.GivesUp := by
    rintro ⟨limit, hlimit⟩
    exact absurd (hended.symm.trans hlimit) (by simp)
  obtain ⟨-, hmore, hgives, hneeds⟩ := runs_grow_with_budget singleGame tallyHost (0, 0) {}
  obtain ⟨-, -, hless⟩ := hneeds 3 henough
  have htwo := hless 2 (by rw [hneeded]; decide)
  obtain ⟨-, -, hcalls⟩ := hgives 2 2 htwo
  exact ⟨hended, fun m hm => hmore 3 m hm henough, htwo, hcalls 3 (by decide)⟩

end Narrative
