import Narrative.Lint.Protocol
import Narrative.Proofs.Findings
import Narrative.Proofs.FlowLint
import Narrative.Proofs.Games

/-!
# The protocol checks and runs

The protocol checks look at steps and their neighbours: behind a game stands what waits for it, and
before a wait stands the game it waits for (`InRounds`). A runner wants the same of the steps it
takes, one after another.

A start step is left for the step behind it, so the game is awaited. A wait, however, can also be
the target of a jump. If it is not, it only comes after a start step in the flow (`Guarded`). The
runner takes a start step and the wait behind it in one round, so between rounds a session is at no
wait, unless it was before the run.

Results:
* `inRounds_of_quiet`: a script of which the checks report no warning is written in rounds;
* `not_onAwait_of_round`: a round of a run that starts at no wait ends at none;
* **`quiet_scripts_keep_protocol`**: the errors of runs that the checks exclude.
-/

namespace Narrative.Lint.Protocol

open Session

variable {script : Script}

/-! ## Steps in rounds -/

/-- **Games are written in rounds.** -/
structure InRounds (script : Script) : Prop where
  /-- behind a game stands what waits for it -/
  awaited : ∀ (i : Nat) (game : Game), script.steps[i]? = some (.startGame game) →
    ∃ var, script.steps[i + 1]? = some (.awaitResult var)
  /-- before a wait stands the game it waits for -/
  mounted : ∀ (i : Nat) (var : Variable), script.steps[i]? = some (.awaitResult var) →
    ∃ j game, i = j + 1 ∧ script.steps[j]? = some (.startGame game)

theorem awaits_iff {step : Step} : awaits step = true ↔ ∃ var, step = .awaitResult var := by
  cases step <;> simp [awaits, Step.kind]

theorem starts_iff {step : Step} : starts step = true ↔ ∃ game, step = .startGame game := by
  cases step <;> simp [starts, Step.kind]

/-- Without a step that awaits a result no variable is written. -/
theorem writes_eq_false (unawaited : ∀ step ∈ script.steps, step.kind ≠ .awaitResult)
    (var : Variable) : writes script var = false := by
  unfold writes
  rw [List.any_eq_false]
  intro step hstep hwrites
  rw [of_decide_eq_true hwrites] at hstep
  exact unawaited _ hstep rfl

/-- A branch on a variable that is never written is reported. -/
theorem mem_check_of_not_writes {config : ProtocolConfig} (enabled : config.enabled = true) {i : Nat}
    {var : Variable} {arms : Arms} (hstep : script.steps[i]? = some (.branch var arms))
    (unwritten : writes script var = false) :
    .ofStep .warning category i
      ("branches on " ++ Variable.names.name var ++ " but no step awaits a result into it") ∈
        check config script := by
  have hissue : .ofStep .warning category i
      ("branches on " ++ Variable.names.name var ++ " but no step awaits a result into it") ∈
        branchIssue config script (.branch var arms) i := by
    simp [branchIssue, unwritten]
  unfold check
  rw [if_pos enabled]
  exact List.mem_append_right _
    (List.mem_flatMap.mpr ⟨(_, i), List.mem_zipIdx_iff_getElem?.mpr hstep, hissue⟩)

/-- A step that is not reported satisfies what it would be reported for. -/
theorem of_quiet {quiet : Prop} [Decidable quiet] {issue : Issue}
    (h : (if quiet then [] else [issue]) = []) : quiet := by
  by_contra hquiet
  rw [if_neg hquiet] at h
  exact absurd h (List.cons_ne_nil _ _)

/-- A script without issues of rounds is written in rounds. -/
theorem inRounds_of_roundIssues (h : roundIssues script = []) : InRounds script := by
  have hquiet : ∀ {i : Nat} {step : Step}, script.steps[i]? = some step →
      roundIssue script step i = [] := fun {i step} hstep =>
    List.flatMap_eq_nil_iff.mp h (step, i) (List.mem_zipIdx_iff_getElem?.mpr hstep)
  constructor
  · intro i game hstep
    obtain ⟨next, hnext, hawaits⟩ := (Option.any_eq_true _ _).mp (of_quiet (hquiet hstep))
    obtain ⟨var, rfl⟩ := awaits_iff.mp hawaits
    exact ⟨var, hnext⟩
  · intro i var hstep
    obtain ⟨step, hbefore, hstarts⟩ := (Option.any_eq_true _ _).mp (of_quiet (hquiet hstep))
    obtain ⟨game, rfl⟩ := starts_iff.mp hstarts
    cases i with
    | zero => exact absurd hbefore (by simp [before?])
    | succ j => exact ⟨j, game, rfl, hbefore⟩

/-- A script of which the checks report no warning is written in rounds. -/
theorem inRounds_of_quiet {config : ProtocolConfig} (enabled : config.enabled = true)
    (quiet : ∀ issue ∈ check config script, issue.level ≠ .warning) : InRounds script := by
  apply inRounds_of_roundIssues
  rw [List.eq_nil_iff_forall_not_mem]
  intro issue hissue
  refine quiet issue ?_ (of_mem_roundIssues hissue).level
  unfold check
  rw [if_pos enabled]
  exact List.mem_append_left _ hissue

/-! ## Entering suspension points -/

/-- The current step waits for a game. -/
def OnAwait (script : Script) (state : State) : Prop :=
  (script.get state.position).kind = .awaitResult

/-- A wait stands in the script. -/
theorem exists_await {position : Position} (h : (script.get position).kind = .awaitResult) :
    ∃ i var, Flow.inside? script position = some i ∧
      script.steps[i]? = some (.awaitResult var) := by
  cases hget : script.get position with
  | awaitResult var =>
    obtain ⟨i, hinside⟩ := Flow.exists_inside? (by rw [hget]; exact Step.noConfusion)
    exact ⟨i, var, hinside, hget ▸ Flow.step_of_inside? hinside⟩
  | _ => simp [hget, Step.kind] at h

/-- The position behind a game waits for it. -/
theorem awaits_next (fits : (script.length : Int) ≤ Int64.maxValue.toInt)
    (inRounds : InRounds script) {position : Position} {game : Game}
    (h : script.get position = .startGame game) :
    (script.get position.next).kind = .awaitResult := by
  obtain ⟨i, hinside⟩ := Flow.exists_inside? (by rw [h]; exact Step.noConfusion)
  obtain ⟨var, hnext⟩ := inRounds.awaited i game (h ▸ Flow.step_of_inside? hinside)
  obtain ⟨hi, hget⟩ := List.getElem?_eq_some_iff.mp hnext
  have hposition : position.next.toInt = (i + 1 : Nat) := by
    rw [Flow.next_eq_ofIndex fits hinside, Position.toInt_ofIndex]
    exact le_trans (Int.ofNat_le.mpr hi.le) fits
  rw [Script.get_of_index hposition hi, hget]
  rfl

/-- Waits are entered from start steps only. -/
def Guarded (script : Script) : Prop :=
  ∀ position target, Flow.Follows script position target →
    (script.get target).kind = .awaitResult → (script.get position).kind = .startGame

/-- **In the flow, a wait comes after a start step**, if none is the target of a jump. -/
theorem guarded_of_inRounds (fits : (script.length : Int) ≤ Int64.maxValue.toInt)
    (inRounds : InRounds script)
    (untargeted : ∀ step ∈ script.steps, ∀ target ∈ step.targets,
      (script.get target).kind ≠ .awaitResult) : Guarded script := by
  rintro position target ⟨i, hinside, htarget⟩ waits
  have hstep := Flow.step_of_inside? hinside
  have hnamed : target ∉ (script.get position).targets := fun hmem =>
    untargeted _ (List.mem_of_getElem? hstep) target hmem waits
  -- without a jump, a wait is entered from the step before it
  have hnext : target = .ofIndex (i + 1) → (script.get position).kind = .startGame := by
    rintro rfl
    obtain ⟨k, var, hthere, hwait⟩ := exists_await waits
    obtain ⟨hposition, -⟩ := Flow.inside?_eq_some_iff.mp hthere
    obtain ⟨-, hlt⟩ := Flow.inside?_eq_some_iff.mp hinside
    rw [Position.toInt_ofIndex (by omega)] at hposition
    obtain ⟨j, game, hj, hgame⟩ := inRounds.mounted k var hwait
    obtain rfl : j = i := by omega
    rw [Option.some.inj (hstep.symm.trans hgame)]
    rfl
  cases hget : script.get position with
  | say _ _ | startGame _ | awaitResult _ =>
    rw [hget] at htarget hnext
    exact hnext (List.mem_singleton.mp htarget)
  | choice _ _ | goto _ =>
    rw [hget] at htarget hnamed
    exact absurd htarget hnamed
  | branch _ _ =>
    rw [hget] at htarget hnext hnamed
    rcases List.mem_append.mp htarget with hmem | hmem
    · exact absurd hmem hnamed
    · exact hnext (List.mem_singleton.mp hmem)
  | finish =>
    rw [hget] at htarget
    exact absurd htarget List.not_mem_nil

/-! ## Sessions -/

/-- Branches do not lead to waits. -/
theorem not_onAwait_settled (fits : (script.length : Int) ≤ Int64.maxValue.toInt)
    (guarded : Guarded script) {state : State} (h : ¬ OnAwait script state) :
    ¬ OnAwait script (script.settled state) := by
  have hresolved : ∀ state, ¬ OnAwait script state → ¬ OnAwait script (script.resolved state) := by
    intro state hoff hwaits
    by_cases hon : script.OnBranch state
    · have hstarts := guarded _ _ (Flow.follows_resolved fits hon) hwaits
      exact absurd (hstarts.symm.trans hon) (by simp)
    · rw [Script.resolved_of_not_onBranch hon] at hwaits
      exact hoff hwaits
  exact Script.forall_mem_chain hresolved h _ (List.mem_of_getLast? Script.getLast?_chain)

variable {session : Session}

/-- A game that is continued waits for its result. -/
theorem onAwait_of_proceed (fits : (script.length : Int) ≤ Int64.maxValue.toInt)
    (inRounds : InRounds script) (hscript : session.script = script) {game : Game}
    (starts : session.director.current = .startGame game) :
    (session.after (.ask .proceed)).director.current.kind = .awaitResult := by
  subst hscript
  have hgo : session.director.Goes .proceed (Action.advance.apply session.state) :=
    .advance (Or.inr (congrArg Step.kind starts))
  have hwaits : OnAwait session.script (Action.advance.apply session.state) :=
    awaits_next fits inRounds starts
  have hrest : ¬ session.script.OnBranch session.state := by
    intro hon
    exact absurd ((congrArg Step.kind starts).symm.trans hon) (by simp [Step.kind])
  obtain ⟨-, hafter⟩ := ask_of_goes hrest hgo fun hon => absurd (hwaits.symm.trans hon) (by simp)
  rw [hafter]
  exact hwaits

/-- A session that is not at a start step is not led to a wait by a request. If it is at a wait
itself, the request has to lead away from it. -/
theorem not_onAwait_after (fits : (script.length : Int) ≤ Int64.maxValue.toInt)
    (guarded : Guarded script) (hscript : session.script = script) {request : Request}
    (calm : session.rested.director.current.kind ≠ .startGame)
    (h : ¬ OnAwait script session.rested.state ∨ ∃ next, session.Departs request next) :
    ¬ OnAwait script (session.after (.ask request)).state := by
  subst hscript
  rcases after_ask session request with ⟨hstays, hafter⟩ | ⟨next, departs, hafter⟩
  · rw [hafter]
    exact h.resolve_right hstays
  · rw [hafter]
    refine not_onAwait_settled fits guarded fun hwaits => calm ?_
    have hgo := Request.verdict_eq_go_iff.mp departs.2
    have hscript : session.rested.director.script = session.script := rfl
    exact guarded _ _ (Flow.follows_go fits hscript hgo) hwaits

/-- What is shown of a session that is at no wait is at no wait either. -/
theorem not_onAwait_of_present (fits : (script.length : Int) ≤ Int64.maxValue.toInt)
    (guarded : Guarded script) (hscript : session.script = script)
    (off : ¬ OnAwait script session.state) :
    ¬ OnAwait script (session.after (.ask .present)).state := by
  subst hscript
  rcases after_ask session .present with ⟨-, hafter⟩ | ⟨next, departs, -⟩
  · rw [hafter]
    exact not_onAwait_settled fits guarded off
  · exact absurd departs.2 (by simp [Request.verdict])

/-- A game is shown at start steps only. -/
theorem kind_ne_startGame (h : ∀ game, session.shown ≠ .mountGame game) :
    session.director.current.kind ≠ .startGame := by
  unfold shown at h
  cases hstep : session.director.current with
  | startGame game =>
    rw [hstep] at h
    exact absurd rfl (h game)
  | _ => exact StepKind.noConfusion

/-- A wait is shown at waits only. -/
theorem onAwait_of_shown {var : Variable} (h : session.shown = .awaitingResult var) :
    OnAwait session.script session.state := by
  unfold shown at h
  unfold OnAwait
  change session.director.current.kind = .awaitResult
  cases hstep : session.director.current with
  | awaitResult other => rfl
  | _ =>
    rw [hstep] at h
    exact Presentation.noConfusion h

/-! ## Runs -/

variable {σ : Type} {host : Host σ} {config : RunConfig} {point : RunPoint σ}
  {events : List RunEvent} {stop : Option RunStop}

/-- A step is handled without coming to a wait, or the run stops there. -/
theorem not_onAwait_of_handled (fits : (script.length : Int) ≤ Int64.maxValue.toInt)
    (guarded : Guarded script) (hscript : point.session.script = script)
    (rests : ¬ script.OnBranch point.session.state) (off : ¬ OnAwait script point.session.state)
    (handled : Handled host config point point.session.shown events stop) (goesOn : stop = none) :
    ¬ OnAwait script (point.after host events).session.state := by
  subst hscript
  have hself := rested_of_not_onBranch rests
  -- a request that is not made at a start step does not lead to a wait
  have hcalm : ∀ {request : Request}, (∀ game, point.session.shown ≠ .mountGame game) →
      ¬ OnAwait point.session.script (point.session.after (.ask request)).state := by
    intro request hshown
    rw [← hself] at off hshown
    exact not_onAwait_after fits guarded rfl (kind_ne_startGame hshown) (Or.inl off)
  generalize hshown : point.session.shown = shown at handled hcalm
  cases handled with
  | failed _ | unmounted _ | missing _ _ | unplayed _ _ | abandoned _ _ | unawaited =>
    exact absurd goesOn (by simp)
  | answered consulted =>
    simp only [RunPoint.after_cons, RunPoint.after_nil, RunPoint.next_called, RunPoint.next_asked]
    refine hcalm ?_
    rintro game rfl
    exact absurd consulted (by simp [Host.consult?])
  | jumped =>
    simp only [RunPoint.after_cons, RunPoint.after_nil, RunPoint.next_asked]
    exact hcalm (by simp)
  | @reported _ result waits _ =>
    simp only [RunPoint.after_cons, RunPoint.after_nil, RunPoint.next_called, RunPoint.next_asked]
    have hscript := script_after point.session (.ask .proceed)
    obtain ⟨-, hwait⟩ := waits
    generalize point.session.after (.ask .proceed) = waiting at hscript hwait
    have hthere : ¬ waiting.script.OnBranch waiting.state := fun hon =>
      absurd (hwait.symm.trans hon) (by simp)
    refine not_onAwait_after fits guarded hscript ?_
      (Or.inr ⟨_, departs_of_goes hthere (.record hwait)⟩)
    rw [rested_of_not_onBranch hthere, hwait]
    exact StepKind.noConfusion

/-- **Between its rounds a run is at no wait.** -/
theorem not_onAwait_of_round (fits : (script.length : Int) ≤ Int64.maxValue.toInt)
    (guarded : Guarded script) (hscript : point.session.script = script)
    (off : ¬ OnAwait script point.session.state) (round : Round host config point events stop)
    (goesOn : stop = none) : ¬ OnAwait script (point.after host events).session.state := by
  obtain ⟨shows, -, handled⟩ := round
  obtain ⟨rests, rfl⟩ := ask_shows shows
  rw [RunPoint.after_cons, RunPoint.next_presented]
  have hpresented : point.presented.session.script = script := (script_after _ _).trans hscript
  refine not_onAwait_of_handled fits guarded hpresented (hscript ▸ rests) ?_ handled goesOn
  exact not_onAwait_of_present fits guarded hscript off

/-- Rounds do not change the script. -/
theorem script_after_onward {n : Nat} (onward : Onward host config n point events) :
    (point.after host events).session.script = point.session.script := by
  obtain ⟨requests, hserve⟩ := onward.exists_requests
  rw [hserve, script_serve]

theorem not_onAwait_of_onward {n : Nat} (fits : (script.length : Int) ≤ Int64.maxValue.toInt)
    (guarded : Guarded script) (hscript : point.session.script = script)
    (off : ¬ OnAwait script point.session.state) (onward : Onward host config n point events) :
    ¬ OnAwait script (point.after host events).session.state := by
  induction onward with
  | start => exact off
  | round round _ ih =>
    rw [RunPoint.after_append]
    refine ih ?_ (not_onAwait_of_round fits guarded hscript off round rfl)
    obtain ⟨requests, hserve⟩ := round.exists_requests
    rw [hserve, script_serve, hscript]

/-- A run that the session does not refuse breaks off within its budget where a step is handled. -/
theorem exists_handled_of_error {start : σ} {error : RunError}
    (h : (session.run host start config).1 = .error error)
    (accepted : ∀ refusal, error ≠ .session refusal)
    (within : ∀ limit, error ≠ .transitionLimit limit) :
    ∃ n earlier shown rest, Onward host config n ⟨session, start⟩ earlier ∧
      (RunPoint.after host ⟨session, start⟩ earlier).session.answer (.ask .present) =
        some (.ok shown) ∧
      Handled host config (RunPoint.after host ⟨session, start⟩ earlier).presented shown rest
        (some (.error error)) := by
  obtain ⟨stop, ran, -, hstop⟩ := run_ran session host start config
  obtain rfl := stop_of_error (hstop.symm.trans h)
  obtain ⟨n, _, earlier, _, _, onward, closing, -, -, -⟩ := ran.exists_closing
  obtain ⟨shown, rest, shows, handled, -⟩ := closing.exists_handled (by simp)
    (fun limit hlimit => within limit (Except.error.inj hlimit))
    (fun refusal hrefusal => accepted refusal (Except.error.inj hrefusal))
  exact ⟨n, earlier, shown, rest, onward, shows, handled⟩

/-! ## Soundness -/

/-- **Scripts without warnings keep the protocol.** For a script that positions can count, and of
which the protocol checks report no warning: no run of any session over it misses the suspension
point of a game. If moreover no option, jump or arm leads to a step that waits, then no run of a
session that starts the script finds nothing mounted there. -/
theorem quiet_scripts_keep_protocol (script : Script)
    (fits : (script.length : Int) ≤ Int64.maxValue.toInt) (config : ProtocolConfig)
    (enabled : config.enabled = true)
    (quiet : ∀ issue ∈ check config script, issue.level ≠ .warning) :
    (∀ session : Session, session.script = script →
      ∀ (σ : Type) (host : Host σ) (start : σ) (limits : RunConfig) game position found,
        (session.run host start limits).1 ≠ .error (.missingSuspension game position found)) ∧
    ((∀ step ∈ script.steps, ∀ target ∈ step.targets, (script.get target).kind ≠ .awaitResult) →
      ∀ session : Session, session.script = script → session.position = 0 →
        ∀ (σ : Type) (host : Host σ) (start : σ) (limits : RunConfig) position,
          (session.run host start limits).1 ≠ .error (.nothingMounted position)) := by
  have inRounds := inRounds_of_quiet enabled quiet
  constructor
  · intro session hscript σ host start limits game position found hended
    subst hscript
    obtain ⟨n, earlier, shown, rest, onward, shows, handled⟩ :=
      exists_handled_of_error hended (by simp) (by simp)
    obtain ⟨rfl, -, hfound, hother, -⟩ := handled.of_missing
    have hscript : (RunPoint.after host ⟨session, start⟩ earlier).presented.session.script =
        session.script := (script_after _ _).trans (script_after_onward onward)
    exact hother (hfound.symm.trans
      (onAwait_of_proceed fits inRounds hscript (current_of_shows_game shows)))
  · intro untargeted session hscript hstart σ host start limits position hended
    subst hscript
    obtain ⟨n, earlier, shown, rest, onward, shows, handled⟩ :=
      exists_handled_of_error hended (by simp) (by simp)
    obtain ⟨var, rfl, -, -⟩ := handled.of_nothingMounted
    have guarded := guarded_of_inRounds fits inRounds untargeted
    -- a script in rounds does not start with a wait
    have hfirst : ¬ OnAwait session.script session.state := by
      intro hwaits
      obtain ⟨i, var, hinside, hwait⟩ := exists_await hwaits
      obtain ⟨j, _, rfl, -⟩ := inRounds.mounted i var hwait
      obtain ⟨hposition, -⟩ := Flow.inside?_eq_some_iff.mp hinside
      rw [show session.state.position = 0 from hstart, Int64.toInt_zero] at hposition
      omega
    have hscript := script_after_onward onward
    have hstarts : (RunPoint.mk session start).session.script = session.script := rfl
    have hoff := not_onAwait_of_onward fits guarded hstarts hfirst onward
    refine not_onAwait_of_present fits guarded hscript hoff ?_
    obtain ⟨-, hshown⟩ := ask_shows shows
    have hwaits := onAwait_of_shown hshown.symm
    rwa [script_after, hscript] at hwaits

/-- A game that is played until it is won. -/
def rematch : Script :=
  ⟨[.startGame .dice, .awaitResult .lastResult, .branch .lastResult ⟨some 4, none, none, none⟩,
    .goto 0, .say .narrator "At last."]⟩

/-- Wherever a host takes the rematch up, its game is awaited; from the start it is always mounted
first. -/
theorem quiet_scripts_keep_protocol_rematch :
    (rematch.length : Int) ≤ Int64.maxValue.toInt ∧ check {} rematch = [] ∧
    (∀ step ∈ rematch.steps, ∀ target ∈ step.targets, (rematch.get target).kind ≠ .awaitResult) ∧
    (∀ (state : State) (host : Host Nat) (limits : RunConfig) game position found,
      (({ director := { script := rematch, state } } : Session).run host 0 limits).1 ≠
        .error (.missingSuspension game position found)) ∧
    ∀ (host : Host Nat) (limits : RunConfig) position,
      ((fresh rematch).run host 0 limits).1 ≠ .error (.nothingMounted position) := by
  have fits : (rematch.length : Int) ≤ Int64.maxValue.toInt := by decide
  have clean : check {} rematch = [] := by decide
  -- deciding the statement itself would go through all positions there are
  have targets : (rematch.steps.flatMap Step.targets).all
      (fun target => (rematch.get target).kind ≠ .awaitResult) = true := by decide
  have untargeted : ∀ step ∈ rematch.steps, ∀ target ∈ step.targets,
      (rematch.get target).kind ≠ .awaitResult := fun step hstep target htarget =>
    of_decide_eq_true
      (List.all_eq_true.mp targets target (List.mem_flatMap.mpr ⟨step, hstep, htarget⟩))
  have quiet : ∀ issue ∈ check {} rematch, issue.level ≠ .warning := by
    rw [clean]
    exact fun _ hmem => absurd hmem List.not_mem_nil
  obtain ⟨hawaited, hmounted⟩ := quiet_scripts_keep_protocol rematch fits {} rfl quiet
  refine ⟨fits, clean, untargeted, fun state host => ?_, fun host => ?_⟩
  · exact hawaited { director := { script := rematch, state } } rfl Nat host 0
  · exact hmounted untargeted (fresh rematch) rfl rfl Nat host 0

/-- A script that jumps onto a wait. -/
def shortcut : Script := ⟨[.goto 2, .startGame .dice, .awaitResult .lastResult]⟩

/-- The checks do not look at jumps, but a jump can mount no game. -/
example : check {} shortcut = [] ∧
    (fresh shortcut).answers [.ask .present, .ask .proceed] =
      [some (.ok (.jump 2)), some (.ok (.awaitingResult .lastResult))] := by
  decide

end Narrative.Lint.Protocol
