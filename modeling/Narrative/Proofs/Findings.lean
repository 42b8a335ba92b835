import Narrative.Lint

/-!
# What lint reports

The issues of a group of checks all have its category, and each check has its level: those of the
references are warnings and errors, those of the protocol and of the flow warnings and notes, those
of the quality warnings. An issue that is about a step has its index from the list of steps
(`Issue.Of`).

So category and level tell which check an issue is from, as far as a configuration can tell checks
apart: it has a switch for each group, and one for each check that can be left out of its group
(`Config.switches`).

Results:
* `References.of_mem_check` and its like: the issues of each group;
* **`switches_filter_issues`**: the issues under a configuration are those under the full one
  without the ones that a switch leaves out.
-/

namespace Narrative.Lint

variable {script : Script} {issue : Issue} {i : Nat} {step : Step}

/-! ## The issues of the groups -/

/-- An issue has this category and level, and is about no step outside the script. -/
structure Issue.Of (script : Script) (category : String) (level : Level) (issue : Issue) :
    Prop where
  category : issue.category = category
  level : issue.level = level
  inside : ∀ i, issue.index = some i → i < script.length

/-- An issue about a step of the script. -/
theorem Issue.Of.ofStep (hstep : script.steps[i]? = some step) (level : Level)
    (category message : String) :
    (Issue.ofStep level category i message).Of script category level where
  category := rfl
  level := rfl
  inside j hj := by
    obtain rfl : i = j := Option.some.inj hj
    exact (List.getElem?_eq_some_iff.mp hstep).1

/-- An issue about the whole script. -/
theorem Issue.Of.ofScript (script : Script) (level : Level) (category message : String) :
    (Issue.ofScript level category message).Of script category level where
  category := rfl
  level := rfl
  inside j hj := absurd hj (by simp [Issue.ofScript])

/-- Issues that are found step by step are found at a step of the script. -/
theorem exists_step_of_mem {find : Step × Nat → List Issue}
    (h : issue ∈ script.steps.zipIdx.flatMap find) :
    ∃ i step, script.steps[i]? = some step ∧ issue ∈ find (step, i) := by
  obtain ⟨⟨step, i⟩, hmem, hissue⟩ := List.mem_flatMap.mp h
  exact ⟨i, step, List.mem_zipIdx_iff_getElem?.mp hmem, hissue⟩

theorem References.of_mem_targetIssues (h : issue ∈ targetIssues script) :
    issue.Of script category .warning := by
  obtain ⟨i, step, hstep, hissue⟩ := exists_step_of_mem h
  obtain ⟨target, -, rfl⟩ := List.mem_map.mp hissue
  exact .ofStep hstep _ _ _

theorem References.of_mem_choiceIssues (h : issue ∈ choiceIssues script) :
    issue.Of script category .error := by
  obtain ⟨i, step, hstep, hissue⟩ := exists_step_of_mem h
  rw [List.mem_ite_nil_right, List.mem_singleton] at hissue
  obtain ⟨-, rfl⟩ := hissue
  exact .ofStep hstep _ _ _

theorem Protocol.of_mem_roundIssues (h : issue ∈ roundIssues script) :
    issue.Of script category .warning := by
  obtain ⟨i, step, hstep, hissue⟩ := exists_step_of_mem h
  cases step with
  | startGame _ | awaitResult _ =>
    simp only [roundIssue, List.mem_ite_nil_left, List.mem_singleton] at hissue
    obtain ⟨-, rfl⟩ := hissue
    exact .ofStep hstep _ _ _
  | _ => exact absurd hissue List.not_mem_nil

theorem Protocol.of_mem_branchIssues {config : ProtocolConfig}
    (h : issue ∈ branchIssues config script) :
    issue.Of script category .warning ∨ issue.Of script category .info := by
  obtain ⟨i, step, hstep, hissue⟩ := exists_step_of_mem h
  cases step with
  | branch var arms =>
    simp only [branchIssue, List.mem_append, List.mem_ite_nil_left, List.mem_ite_nil_right,
      List.mem_singleton] at hissue
    rcases hissue with ⟨-, rfl⟩ | ⟨-, rfl⟩
    · exact Or.inl (.ofStep hstep _ _ _)
    · exact Or.inr (.ofStep hstep _ _ _)
  | _ => exact absurd hissue List.not_mem_nil

theorem Flow.of_mem_unreachableIssues {search : Search}
    (h : issue ∈ unreachableIssues script search) : issue.Of script category .warning := by
  obtain ⟨i, step, hstep, hissue⟩ := exists_step_of_mem h
  rw [List.mem_ite_nil_left, List.mem_singleton] at hissue
  obtain ⟨-, rfl⟩ := hissue
  exact .ofStep hstep _ _ _

theorem Flow.of_mem_endlessIssues {search : Search} (h : issue ∈ endlessIssues search)
    (script : Script) : issue.Of script category .info := by
  unfold endlessIssues at h
  rw [List.mem_ite_nil_left, List.mem_singleton] at h
  obtain ⟨-, rfl⟩ := h
  exact .ofScript script _ _ _

theorem Quality.of_mem_textIssues {limit : Nat} {what text : String}
    (hstep : script.steps[i]? = some step) (h : issue ∈ textIssues limit i what text) :
    issue.Of script category .warning := by
  unfold textIssues at h
  split at h
  · rw [List.mem_singleton.mp h]
    exact .ofStep hstep _ _ _
  · rw [List.mem_ite_nil_right, List.mem_singleton] at h
    rw [h.2]
    exact .ofStep hstep _ _ _

theorem Quality.of_mem_check {config : QualityConfig} (h : issue ∈ check config script) :
    issue.Of script category .warning := by
  unfold check at h
  rw [List.mem_ite_nil_right] at h
  obtain ⟨i, step, hstep, hissue⟩ := exists_step_of_mem h.2
  cases step with
  | say speaker text => exact of_mem_textIssues hstep hissue
  | choice prompt options =>
    rcases List.mem_append.mp hissue with hissue | hissue
    · exact of_mem_textIssues hstep hissue
    · obtain ⟨option, -, hoption⟩ := List.mem_flatMap.mp hissue
      unfold optionIssues at hoption
      rw [List.mem_ite_nil_right, List.mem_singleton] at hoption
      rw [hoption.2]
      exact .ofStep hstep _ _ _
  | _ => exact absurd hissue List.not_mem_nil

theorem References.of_mem_check {config : ReferencesConfig} (h : issue ∈ check config script) :
    ∃ level, issue.Of script category level := by
  unfold check at h
  simp only [List.mem_append, List.mem_ite_nil_right] at h
  rcases h with ⟨-, ⟨-, h⟩ | h⟩
  · exact ⟨_, of_mem_targetIssues h⟩
  · exact ⟨_, of_mem_choiceIssues h⟩

theorem Protocol.of_mem_check {config : ProtocolConfig} (h : issue ∈ check config script) :
    issue.Of script category .warning ∨ issue.Of script category .info := by
  unfold check at h
  rw [List.mem_ite_nil_right, List.mem_append] at h
  rcases h with ⟨-, h | h⟩
  · exact Or.inl (of_mem_roundIssues h)
  · exact of_mem_branchIssues h

theorem Flow.of_mem_check {config : FlowConfig} (h : issue ∈ check config script) :
    issue.Of script category .warning ∨ issue.Of script category .info := by
  unfold check at h
  simp only [List.mem_append, List.mem_ite_nil_right] at h
  rcases h with ⟨-, ⟨-, h⟩ | ⟨-, h⟩⟩
  · exact Or.inl (of_mem_unreachableIssues h)
  · exact Or.inr (of_mem_endlessIssues h script)

/-- No issue is about a step outside the script. -/
theorem inside_of_mem_issues {config : Config} (h : issue ∈ issues config script)
    (about : issue.index = some i) : i < script.length := by
  unfold issues at h
  simp only [List.mem_append] at h
  rcases h with ((h | h) | h) | h
  · obtain ⟨level, hof⟩ := References.of_mem_check h
    exact hof.inside i about
  · rcases Protocol.of_mem_check h with hof | hof <;> exact hof.inside i about
  · rcases Flow.of_mem_check h with hof | hof <;> exact hof.inside i about
  · exact (Quality.of_mem_check h).inside i about

/-! ## Switches -/

/-- A switch of a configuration, and the issues it is there for: those of a category, or only those
of one level in it. -/
structure Switch where
  on : Bool
  category : String
  level : Option Level

/-- Whether a switch is there for issues of a category and level. -/
def Switch.covers (switch : Switch) (category : String) (level : Level) : Bool :=
  decide (category = switch.category) && switch.level.all fun only => decide (level = only)

namespace Config

/-- The switches of a configuration: one for each group, and one for each check that can be left out
of its group. -/
def switches (config : Config) : List Switch :=
  [⟨config.references.enabled, References.category, none⟩,
    ⟨config.references.checkTargets, References.category, some .warning⟩,
    ⟨config.protocol.enabled, Protocol.category, none⟩,
    ⟨config.protocol.reportEmptyBranches, Protocol.category, some .info⟩,
    ⟨config.flow.enabled, Flow.category, none⟩,
    ⟨config.flow.checkUnreachable, Flow.category, some .warning⟩,
    ⟨config.flow.checkTermination, Flow.category, some .info⟩,
    ⟨config.quality.enabled, Quality.category, none⟩]

/-- The configuration with every switch on and the same limit for texts. -/
def full (config : Config) : Config where
  references := { enabled := true, checkTargets := true }
  protocol := { enabled := true, reportEmptyBranches := true }
  flow := { enabled := true, checkUnreachable := true, checkTermination := true }
  quality := { config.quality with enabled := true }

/-- Whether every switch is on that is there for issues of a category and level. -/
def allows (config : Config) (category : String) (level : Level) : Bool :=
  config.switches.all fun switch => !switch.covers category level || switch.on

/-- Whether every switch is on that is there for an issue. -/
def admits (config : Config) (issue : Issue) : Bool := config.allows issue.category issue.level

variable (config : Config)

theorem allows_references (level : Level) :
    config.allows References.category level =
      (config.references.enabled && (decide (level ≠ .warning) || config.references.checkTargets)) := by
  cases level <;>
    simp [allows, switches, Switch.covers, References.category, Protocol.category, Flow.category,
      Quality.category]

theorem allows_protocol (level : Level) :
    config.allows Protocol.category level =
      (config.protocol.enabled && (decide (level ≠ .info) || config.protocol.reportEmptyBranches)) := by
  cases level <;>
    simp [allows, switches, Switch.covers, References.category, Protocol.category, Flow.category,
      Quality.category]

theorem allows_flow (level : Level) :
    config.allows Flow.category level =
      (config.flow.enabled && (decide (level ≠ .warning) || config.flow.checkUnreachable) &&
        (decide (level ≠ .info) || config.flow.checkTermination)) := by
  cases level <;>
    simp [allows, switches, Switch.covers, References.category, Protocol.category, Flow.category,
      Quality.category]

theorem allows_quality (level : Level) :
    config.allows Quality.category level = config.quality.enabled := by
  cases level <;>
    simp [allows, switches, Switch.covers, References.category, Protocol.category, Flow.category,
      Quality.category]

variable {config}

@[simp] theorem admits_ofStep (level : Level) (category message : String) (i : Nat) :
    config.admits (.ofStep level category i message) = config.allows category level := rfl

/-- Issues of one category and level are admitted or left out together. -/
theorem filter_admits {category : String} {level : Level} {found : List Issue}
    (h : ∀ issue ∈ found, issue.Of script category level) :
    found.filter config.admits = if config.allows category level then found else [] := by
  have hadmits : ∀ issue ∈ found, config.admits issue = config.allows category level := by
    intro issue hissue
    unfold admits
    rw [(h issue hissue).category, (h issue hissue).level]
  rw [List.filter_congr hadmits]
  cases config.allows category level <;> simp

end Config

theorem References.filter_check (config : Config) (script : Script) :
    (check config.full.references script).filter config.admits =
      check config.references script := by
  have hfull : check config.full.references script = targetIssues script ++ choiceIssues script :=
    rfl
  rw [hfull, List.filter_append, Config.filter_admits fun _ => of_mem_targetIssues,
    Config.filter_admits fun _ => of_mem_choiceIssues, config.allows_references,
    config.allows_references]
  unfold check
  cases config.references.enabled <;> cases config.references.checkTargets <;> rfl

theorem Protocol.filter_branchIssues (config : Config) (script : Script) :
    (branchIssues config.full.protocol script).filter config.admits =
      if config.protocol.enabled then branchIssues config.protocol script else [] := by
  -- a branch can have a warning and a note, which are admitted or left out one by one
  have hbranch : ∀ step i, (branchIssue config.full.protocol script step i).filter config.admits =
      if config.protocol.enabled then branchIssue config.protocol script step i else [] := by
    intro step i
    cases step with
    | branch var arms =>
      have hreport : config.full.protocol.reportEmptyBranches = true := rfl
      simp only [branchIssue, hreport, List.filter_append]
      cases writes script var <;> cases arms.isEmpty <;> cases henabled : config.protocol.enabled <;>
        cases hnotes : config.protocol.reportEmptyBranches <;>
        simp [Config.allows_protocol, henabled, hnotes]
    | _ => cases config.protocol.enabled <;> rfl
  unfold branchIssues
  simp only [List.filter_flatMap, hbranch]
  cases config.protocol.enabled
  · exact List.flatMap_eq_nil_iff.mpr fun _ _ => rfl
  · rfl

theorem Protocol.filter_check (config : Config) (script : Script) :
    (check config.full.protocol script).filter config.admits = check config.protocol script := by
  have hfull : check config.full.protocol script =
      roundIssues script ++ branchIssues config.full.protocol script := rfl
  rw [hfull, List.filter_append, Config.filter_admits fun _ => of_mem_roundIssues,
    filter_branchIssues, config.allows_protocol]
  unfold check
  cases config.protocol.enabled <;> rfl

theorem Flow.filter_check (config : Config) (script : Script) :
    (check config.full.flow script).filter config.admits = check config.flow script := by
  have hfull : check config.full.flow script =
      if script.isEmpty then []
      else unreachableIssues script (explore script) ++ endlessIssues (explore script) := by
    unfold check
    cases script.isEmpty <;> rfl
  rw [hfull]
  unfold check
  cases script.isEmpty with
  | true => rw [Bool.not_true, Bool.and_false]; rfl
  | false =>
    have hunreachable : ∀ issue ∈ unreachableIssues script (explore script),
        issue.Of script category .warning := fun _ => of_mem_unreachableIssues
    have hendless : ∀ issue ∈ endlessIssues (explore script), issue.Of script category .info :=
      fun _ hissue => of_mem_endlessIssues hissue script
    rw [if_neg Bool.false_ne_true, List.filter_append, Config.filter_admits hunreachable,
      Config.filter_admits hendless, config.allows_flow, config.allows_flow]
    cases config.flow.enabled <;> cases config.flow.checkUnreachable <;>
      cases config.flow.checkTermination <;> simp

theorem Quality.filter_check (config : Config) (script : Script) :
    (check config.full.quality script).filter config.admits = check config.quality script := by
  rw [Config.filter_admits fun _ => of_mem_check, config.allows_quality]
  rfl

/-! ## Lint under a configuration -/

/-- **A configuration only filters.** The issues under a configuration are those under the full one,
in the same order, without the ones that a switch leaves out. Whatever the configuration, as many
issues of each level are counted as there are, and no issue is about a step outside the script. -/
theorem switches_filter_issues (script : Script) (config : Config) :
    (script.lint config).issues = (script.lint config.full).issues.filter config.admits ∧
    (∀ level, (script.lint config).count level =
      (script.lint config).issues.countP fun issue => issue.level = level) ∧
    ∀ issue ∈ (script.lint config).issues, ∀ i, issue.index = some i → i < script.length := by
  unfold Script.lint
  rw [Report.issues_ofIssues, Report.issues_ofIssues]
  refine ⟨?_, Report.count_ofIssues _, fun issue hissue i => inside_of_mem_issues hissue⟩
  unfold issues
  rw [List.filter_append, List.filter_append, List.filter_append, References.filter_check,
    Protocol.filter_check, Flow.filter_check, Quality.filter_check]

/-- A tour with something to report in every group. -/
def unfinishedTour : Script :=
  ⟨[.say .ivan "", .goto 7, .branch .lastResult Arms.empty, .choice "And now?" []]⟩

/-- Without the flow checks, and without targets and empty branches, three issues are left of
seven: the choice without options, the branch and the line without text. -/
theorem switches_filter_issues_unfinishedTour :
    let config : Config :=
      { references := { checkTargets := false }, protocol := { reportEmptyBranches := false },
        flow := { enabled := false } }
    (unfinishedTour.lint config.full).issues.length = 7 ∧
    (unfinishedTour.lint config).issues.map Issue.index = [some 3, some 2, some 0] ∧
    (unfinishedTour.lint config).count .warning = 2 ∧
    ∃ issue ∈ (unfinishedTour.lint config).issues, issue.index = some 3 ∧
      3 < unfinishedTour.length := by
  intro config
  obtain ⟨hfilter, hcount, hinside⟩ := switches_filter_issues unfinishedTour config
  have hmem : Issue.ofStep .error References.category 3
      "choice has no options; the player can never leave it" ∈
        (unfinishedTour.lint config).issues := by
    decide +kernel
  refine ⟨by decide +kernel, ?_, ?_, _, hmem, rfl, hinside _ hmem 3 rfl⟩
  · rw [hfilter]
    decide +kernel
  · rw [hcount]
    decide +kernel

end Narrative.Lint
