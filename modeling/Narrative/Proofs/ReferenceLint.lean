import Narrative.Lint.References
import Narrative.Proofs.FlowLint

/-!
# The reference checks and sessions

The reference checks look at the positions that steps name. If none of them lies outside the script
(`Targeted`), then a jump or the arm of a branch leads into the script. Moving forward does so too,
except from the last step: there it leads to the position right behind it, which reads as the end and
is never left. So a position is bounded as soon as it comes after another one in the flow
(`bounded_of_follows`), and the start is bounded as well.

Results:
* `quiet_iff`: the checks report no warning iff all targets lie in the script;
* **`quiet_scripts_bound_positions`**: on such a script no session goes further than one position
  behind the last step, and it only remembers positions in the script.
-/

namespace Narrative.Lint.References

open Session

variable {script : Script}

/-! ## What the checks report -/

/-- Every position that a step names lies in the script. -/
def Targeted (script : Script) : Prop :=
  ∀ step ∈ script.steps, ∀ target ∈ step.targets, script.contains target = true

theorem mem_targetIssues {issue : Issue} :
    issue ∈ targetIssues script ↔
      ∃ i step target, script.steps[i]? = some step ∧ target ∈ step.targets ∧
        script.contains target = false ∧
        issue = .ofStep .warning category i
          (StepKind.names.name step.kind ++ " step targets " ++ target.text ++ " outside 0.." ++
            toString script.length ++ "; it will read as end") := by
  unfold targetIssues outside
  simp only [List.mem_flatMap, Prod.exists, List.mem_zipIdx_iff_getElem?, List.mem_map,
    List.mem_filter, Bool.not_eq_true']
  constructor
  · rintro ⟨step, i, hstep, target, ⟨htarget, hout⟩, rfl⟩
    exact ⟨i, step, target, hstep, htarget, hout, rfl⟩
  · rintro ⟨i, step, target, hstep, htarget, hout, rfl⟩
    exact ⟨step, i, hstep, target, ⟨htarget, hout⟩, rfl⟩

theorem isDeadChoice_iff {step : Step} :
    isDeadChoice step = true ↔ ∃ prompt, step = .choice prompt [] := by
  cases step <;> simp [isDeadChoice]

theorem mem_choiceIssues {issue : Issue} :
    issue ∈ choiceIssues script ↔
      ∃ i prompt, script.steps[i]? = some (.choice prompt []) ∧
        issue = .ofStep .error category i
          "choice has no options; the player can never leave it" := by
  unfold choiceIssues
  simp only [List.mem_flatMap, Prod.exists, List.mem_zipIdx_iff_getElem?,
    List.mem_ite_nil_right, List.mem_singleton]
  constructor
  · rintro ⟨step, i, hstep, hdead, rfl⟩
    obtain ⟨prompt, rfl⟩ := isDeadChoice_iff.mp hdead
    exact ⟨i, prompt, hstep, rfl⟩
  · rintro ⟨i, prompt, hstep, rfl⟩
    exact ⟨_, i, hstep, isDeadChoice_iff.mpr ⟨prompt, rfl⟩, rfl⟩

/-- **The warnings of the reference checks** are about targets outside the script. -/
theorem quiet_iff {config : ReferencesConfig} (enabled : config.enabled = true)
    (checked : config.checkTargets = true) :
    (∀ issue ∈ check config script, issue.level ≠ .warning) ↔ Targeted script := by
  unfold check
  rw [if_pos enabled, if_pos checked]
  constructor
  · intro quiet step hstep target htarget
    by_contra hout
    obtain ⟨i, hi⟩ := List.mem_iff_getElem?.mp hstep
    have hissue := mem_targetIssues.mpr
      ⟨i, step, target, hi, htarget, Bool.eq_false_iff.mpr hout, rfl⟩
    exact quiet _ (List.mem_append_left _ hissue) rfl
  · intro targeted issue hissue
    rcases List.mem_append.mp hissue with hissue | hissue
    · obtain ⟨i, step, target, hi, htarget, hout, -⟩ := mem_targetIssues.mp hissue
      rw [targeted step (List.mem_of_getElem? hi) target htarget] at hout
      exact absurd hout (by simp)
    · obtain ⟨i, prompt, -, rfl⟩ := mem_choiceIssues.mp hissue
      simp [Issue.ofStep]

/-! ## Bounded positions -/

/-- A position in the script, or the one right behind its last step. -/
def Bounded (script : Script) (position : Position) : Prop :=
  0 ≤ position.toInt ∧ position.toInt ≤ script.length

theorem bounded_of_contains {position : Position} (h : script.contains position = true) :
    Bounded script position :=
  have hcontains := Script.contains_iff.mp h
  ⟨hcontains.1, hcontains.2.le⟩

/-- **What comes next in the flow is bounded**, if all targets lie in the script. -/
theorem bounded_of_follows (fits : (script.length : Int) ≤ Int64.maxValue.toInt)
    (targeted : Targeted script) {position target : Position}
    (h : Flow.Follows script position target) : Bounded script target := by
  obtain ⟨i, hinside, htarget⟩ := h
  obtain ⟨-, hlt⟩ := Flow.inside?_eq_some_iff.mp hinside
  have hstep := List.mem_of_getElem? (Flow.step_of_inside? hinside)
  have hjump : target ∈ (script.get position).targets → Bounded script target := fun hmem =>
    bounded_of_contains (targeted _ hstep target hmem)
  have hnext : target = .ofIndex (i + 1) → Bounded script target := by
    rintro rfl
    unfold Bounded
    rw [Position.toInt_ofIndex (by omega)]
    omega
  cases hget : script.get position with
  | say _ _ | startGame _ | awaitResult _ =>
    rw [hget] at htarget
    exact hnext (List.mem_singleton.mp htarget)
  | choice _ _ | goto _ =>
    rw [hget] at htarget hjump
    exact hjump htarget
  | branch _ _ =>
    rw [hget] at htarget hjump
    rcases List.mem_append.mp htarget with hmem | hmem
    · exact hjump hmem
    · exact hnext (List.mem_singleton.mp hmem)
  | finish =>
    rw [hget] at htarget
    exact absurd htarget List.not_mem_nil

/-- No move of a director leaves the bounds. -/
theorem keeps_bounded (fits : (script.length : Int) ≤ Int64.maxValue.toInt)
    (targeted : Targeted script) : script.Keeps fun state => Bounded script state.position :=
  Flow.keeps_of_follows fits fun hfollows _ => bounded_of_follows fits targeted hfollows

/-- **The reference checks bound all positions.** On a script that positions can count, of which the
checks report no target outside, every position that the director holds in the course of any series
of calls on a session that starts it lies in the script or right behind its last step, and so does
the position that the calls leave, whether they were refused or not. The undo history holds positions
in the script only. -/
theorem quiet_scripts_bound_positions (script : Script)
    (fits : (script.length : Int) ≤ Int64.maxValue.toInt) (config : ReferencesConfig)
    (enabled : config.enabled = true) (checked : config.checkTargets = true)
    (quiet : ∀ issue ∈ check config script, issue.level ≠ .warning) (calls : List Call) :
    (∀ call, ∀ state ∈ ((fresh script).afterAll calls).passes call,
      0 ≤ state.position.toInt ∧ state.position.toInt ≤ script.length) ∧
    (0 ≤ ((fresh script).afterAll calls).position.toInt ∧
      ((fresh script).afterAll calls).position.toInt ≤ script.length) ∧
    ∀ snapshot ∈ ((fresh script).afterAll calls).history.snapshots,
      0 ≤ snapshot.position.toInt ∧ snapshot.position.toInt < script.length := by
  have keeps : (fresh script).script.Keeps fun state => Bounded script state.position :=
    keeps_bounded fits ((quiet_iff enabled checked).mp quiet)
  have hstart : Bounded script 0 := ⟨le_rfl, Int.natCast_nonneg _⟩
  have htended := tended_afterAll keeps (tended_fresh hstart) calls
  refine ⟨fun call => ?_, htended.state, fun snapshot hmem => ?_⟩
  · refine forall_passes ?_ htended call
    rw [script_afterAll]
    exact keeps
  · have hreachable : ((fresh script).afterAll calls).Reachable :=
      reachable_afterAll (.fresh _ _) calls
    have hactive := sound_of_reachable hreachable snapshot hmem
    rw [script_afterAll, script_fresh] at hactive
    exact Script.contains_iff.mp hactive.1

/-- A bet that is offered again when it was won. The last line leads out of the script. -/
def wager : Script :=
  ⟨[.choice "Bet?" [⟨"Yes", 1⟩, ⟨"No", 4⟩], .startGame .dice, .awaitResult .lastResult,
    .branch .lastResult ⟨some 0, none, none, none⟩, .say .narrator "Good night."]⟩

/-- Nothing is reported of the wager, so it stays within its bounds, and it comes up to them. -/
theorem quiet_scripts_bound_positions_wager :
    (wager.length : Int) ≤ Int64.maxValue.toInt ∧
    (∀ issue ∈ check {} wager, issue.level ≠ .warning) ∧
    (∀ calls, ((fresh wager).afterAll calls).position.toInt ≤ 5) ∧
    ((fresh wager).afterAll [.ask (.choose 1), .ask .proceed]).position = 5 := by
  have fits : (wager.length : Int) ≤ Int64.maxValue.toInt := by decide
  have quiet : ∀ issue ∈ check {} wager, issue.level ≠ .warning := by
    rw [show check {} wager = [] by decide]
    exact fun _ hmem => absurd hmem List.not_mem_nil
  refine ⟨fits, quiet, fun calls => ?_, by decide⟩
  exact (quiet_scripts_bound_positions wager fits {} rfl rfl quiet calls).2.1.2

end Narrative.Lint.References
