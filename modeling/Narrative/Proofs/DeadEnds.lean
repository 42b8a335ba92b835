import Narrative.CommandLine
import Narrative.Proofs.Copies
import Narrative.Proofs.ProtocolLint
import Narrative.Proofs.ReferenceLint
import Narrative.Proofs.Saves

/-!
# Dead ends

A session is stuck (`Session.Stuck`) if it rests on a step that is no end and refuses every request
that could lead away from it. Dialogue, games and jumps can be continued, waits accept any result,
and a choice accepts its first option; so only a choice without options is left.

The same choices are what lint reports as errors. No other check has errors to report: what it finds
is questionable, but can be played.

Results:
* `Session.stuck_iff`: a settled session is stuck iff its step is a choice without options;
* `Lint.mem_errors_iff`: the errors among all issues are those of the choices without options;
* **`Session.stuck_iff_error_reported`**: sessions get stuck exactly where the default lint reports
  an error, and the lint command fails exactly on scripts that have such a place.
-/

namespace Narrative

/-! ## Stuck sessions -/

/-- Whether a refusal finds fault with the request, and not with the branches of the script. -/
def SessionError.blamesRequest : SessionError → Bool
  | .choiceRequired _ | .resultRequired _ | .notAtChoice .. | .choiceOutOfRange ..
  | .notAwaitingResult .. => true
  | .branchCycle _ => false

theorem SessionError.blamesRequest_iff {error : SessionError} :
    error.blamesRequest = true ↔ ∀ position, error ≠ .branchCycle position := by
  cases error <;> simp [blamesRequest]

namespace Session

variable {session : Session}

/-- A request is refused because it does not fit the current step. -/
def Refuses (session : Session) (request : Request) : Prop :=
  ∃ error, session.answer (.ask request) = some (.error error) ∧ error.blamesRequest = true

/-- **A session that cannot be led anywhere.** -/
structure Stuck (session : Session) : Prop where
  /-- the step it settles on is no end -/
  unfinished : (settle session).session.isEnded = false
  /-- whatever could lead away from that step is refused -/
  refuses : ∀ request, request ≠ .present → session.Refuses request

/-- Requests are refused by the decision about them. -/
theorem refuses_iff (rests : ¬ session.script.Endless session.state) {request : Request} :
    session.Refuses request ↔ ∃ error, request.verdict session.rested.director = .refuse error := by
  constructor
  · rintro ⟨error, hanswer, hblames⟩
    have hfits := SessionError.blamesRequest_iff.mp hblames
    cases course session request with
    | cycle endless _ _ => exact absurd endless rests
    | refused _ error decided _ _ => exact ⟨error, decided⟩
    | stayed _ _ answer _ => exact absurd (hanswer.symm.trans answer) (by simp)
    | moved _ _ _ answer _ => exact absurd (hanswer.symm.trans answer) (by simp)
    | trapped next _ _ answer _ =>
      exact absurd (by simpa using hanswer.symm.trans answer) (hfits next.position)
  · rintro ⟨error, hdecided⟩
    exact ⟨error, (ask_of_refuse rests hdecided).1,
      SessionError.blamesRequest_iff.mpr (ne_branchCycle_of_verdict hdecided)⟩

end Session

/-- **What refuses everything** is a choice without options. Of the others, branches are never
decided on, and the end needs no way out. -/
theorem Director.refuses_all_iff {director : Director} (rests : director.current.kind ≠ .branch) :
    (director.isEnded = false ∧
        ∀ request, request ≠ .present → ∃ error, Request.verdict director request = .refuse error) ↔
      Lint.References.isDeadChoice director.current = true := by
  unfold Director.isEnded
  constructor
  · rintro ⟨hgoesOn, hrefused⟩
    obtain ⟨_, hproceed⟩ := hrefused .proceed (by simp)
    obtain ⟨_, hchoose⟩ := hrefused (.choose 0) (by simp)
    obtain ⟨_, hreport⟩ := hrefused (.report .win) (by simp)
    cases hstep : director.current with
    | say _ _ | startGame _ | goto _ => simp [Request.verdict, hstep] at hproceed
    | awaitResult _ => simp [Request.verdict, hstep, Step.kind] at hreport
    | branch _ _ => exact absurd (congrArg Step.kind hstep) rests
    | finish => simp [hstep] at hgoesOn
    | choice prompt options =>
      cases options with
      | nil => rfl
      | cons option rest =>
        simp [Request.verdict, Session.chosen, hstep, Verdict.ofChosen] at hchoose
  · intro hdead
    obtain ⟨prompt, hstep⟩ := Lint.References.isDeadChoice_iff.mp hdead
    rw [hstep]
    refine ⟨by simp, fun request hrequest => ?_⟩
    cases request with
    | present => exact absurd rfl hrequest
    | proceed => exact ⟨.choiceRequired director.position, by simp [Request.verdict, hstep]⟩
    | choose index =>
      exact ⟨.choiceOutOfRange director.position index 0,
        by simp [Request.verdict, Session.chosen, hstep, Verdict.ofChosen]⟩
    | report result =>
      exact ⟨.notAwaitingResult director.position .choice,
        by simp [Request.verdict, hstep, Step.kind]⟩

namespace Session

variable {session : Session}

/-- A session that settles is stuck iff it settles on a choice without options. -/
theorem stuck_iff (rests : ¬ session.script.Endless session.state) :
    session.Stuck ↔ Lint.References.isDeadChoice session.rested.director.current = true := by
  have hleft : (settle session).session = session.rested :=
    congrArg Prod.snd (result_settle_of_not_endless rests)
  have hrest : session.rested.director.current.kind ≠ .branch := not_onBranch_rested rests
  rw [← Director.refuses_all_iff hrest]
  constructor
  · rintro ⟨hunfinished, hrefuses⟩
    rw [hleft] at hunfinished
    exact ⟨hunfinished, fun request hrequest => (refuses_iff rests).mp (hrefuses request hrequest)⟩
  · rintro ⟨hunfinished, hrefused⟩
    refine ⟨?_, fun request hrequest => (refuses_iff rests).mpr (hrefused request hrequest)⟩
    rw [hleft]
    exact hunfinished

end Session

/-! ## Errors of lint -/

namespace Lint

variable {script : Script} {issue : Issue}

/-- Warnings and notes are no errors. -/
theorem Issue.level_ne_error {category : String}
    (h : issue.Of script category .warning ∨ issue.Of script category .info) :
    issue.level ≠ .error := by
  rcases h with h | h
  all_goals
    rw [h.level]
    exact Level.noConfusion

/-- **The errors of lint** are those of the choices without options. -/
theorem mem_errors_iff {config : Config} :
    issue ∈ issues config script ∧ issue.level = .error ↔
      config.references.enabled = true ∧ issue ∈ References.choiceIssues script := by
  unfold issues References.check
  simp only [List.mem_append, List.mem_ite_nil_right]
  constructor
  · rintro ⟨((⟨enabled, ⟨-, h⟩ | h⟩ | h) | h) | h, herror⟩
    · exact absurd herror (Issue.level_ne_error (Or.inl (References.of_mem_targetIssues h)))
    · exact ⟨enabled, h⟩
    · exact absurd herror (Issue.level_ne_error (Protocol.of_mem_check h))
    · exact absurd herror (Issue.level_ne_error (Flow.of_mem_check h))
    · exact absurd herror (Issue.level_ne_error (Or.inl (Quality.of_mem_check h)))
  · rintro ⟨enabled, h⟩
    obtain ⟨_, _, -, rfl⟩ := References.mem_choiceIssues.mp h
    exact ⟨Or.inl (Or.inl (Or.inl ⟨enabled, Or.inr h⟩)), rfl⟩

/-- The default lint reports an error of a step iff it is a choice without options. -/
theorem error_at_iff {position : Position} :
    (∃ issue ∈ script.lint.issues, issue.level = .error ∧
        ∃ i, issue.index = some i ∧ position.toInt = i) ↔
      References.isDeadChoice (script.get position) = true := by
  unfold Script.lint
  rw [Report.issues_ofIssues]
  constructor
  · rintro ⟨issue, hissue, herror, i, hindex, hposition⟩
    obtain ⟨-, hchoice⟩ := mem_errors_iff.mp ⟨hissue, herror⟩
    obtain ⟨j, prompt, hstep, rfl⟩ := References.mem_choiceIssues.mp hchoice
    obtain rfl : j = i := Option.some.inj hindex
    obtain ⟨hinside, hget⟩ := List.getElem?_eq_some_iff.mp hstep
    rw [Script.get_of_index hposition hinside, hget]
    rfl
  · intro hdead
    obtain ⟨prompt, hget⟩ := References.isDeadChoice_iff.mp hdead
    obtain ⟨i, hinside⟩ := Flow.exists_inside? (show script.get position ≠ .finish by simp [hget])
    have hstep := Flow.step_of_inside? hinside
    rw [hget] at hstep
    have hchoice := References.mem_choiceIssues.mpr ⟨i, prompt, hstep, rfl⟩
    obtain ⟨hissue, herror⟩ := (@mem_errors_iff script _ {}).mpr ⟨rfl, hchoice⟩
    exact ⟨_, hissue, herror, i, rfl, (Flow.inside?_eq_some_iff.mp hinside).1⟩

/-- The default lint has errors iff some choice has no options. -/
theorem hasErrors_iff :
    script.lint.hasErrors = true ↔ ∃ prompt, .choice prompt [] ∈ script.steps := by
  unfold Script.lint
  rw [Report.hasErrors_ofIssues_iff]
  constructor
  · rintro ⟨issue, hmem⟩
    obtain ⟨-, hchoice⟩ := mem_errors_iff.mp hmem
    obtain ⟨i, prompt, hstep, -⟩ := References.mem_choiceIssues.mp hchoice
    exact ⟨prompt, List.mem_of_getElem? hstep⟩
  · rintro ⟨prompt, hmem⟩
    obtain ⟨i, hstep⟩ := List.mem_iff_getElem?.mp hmem
    have hchoice := References.mem_choiceIssues.mpr ⟨i, prompt, hstep, rfl⟩
    exact ⟨_, mem_errors_iff.mpr ⟨rfl, hchoice⟩⟩

end Lint

/-! ## Dead ends -/

/-- A file with the text of a script holds that script. -/
theorem Files.script_of_text {files : Files} {path text : String} {script : Script}
    (holds : files path = .ok text.toByteArray) (parses : Script.parse text = .ok script) :
    files.script path = .ok script := by
  unfold Files.script
  simp only [holds, Text.ofBytes_toByteArray, parses, Except.mapError, bind, Except.bind]

/-- The lint command fails on scripts with errors, whatever it is given besides. -/
theorem CommandLine.code_lint {files : Files} {path : String} {script : Script}
    (loads : files.script path = .ok script) (options : List String) (input : ByteArray) :
    (run files ("lint" :: path :: options) input).code =
      if script.lint.hasErrors then 1 else 0 := by
  have hstart : start files ("lint" :: path :: options) = .done (lint script) := by
    unfold start
    rw [show Invocation.ofArguments ("lint" :: path :: options) =
      .script .lint path (options.contains "--debug") from rfl]
    simp only [loads]
  unfold run
  rw [hstart]
  rfl

namespace Session

/-- **Sessions get stuck where lint reports errors.** A session whose pending branches settle is
stuck exactly if it settles on the step of an error of the default lint. The default lint has
errors, and with them the lint command exits with code 1 instead of 0, exactly if the script
contains a choice without options. -/
theorem stuck_iff_error_reported (script : Script) :
    (∀ session : Session, session.script = script → (settle session).outcome = .ok () →
      (session.Stuck ↔ ∃ issue ∈ script.lint.issues, issue.level = .error ∧
        ∃ i, issue.index = some i ∧ (settle session).session.position.toInt = i)) ∧
    (script.lint.hasErrors = true ↔ ∃ prompt, .choice prompt [] ∈ script.steps) ∧
    ∀ (files : Files) (path : String), files.script path = .ok script →
      ∀ (options : List String) (input : ByteArray),
        (CommandLine.run files ("lint" :: path :: options) input).code =
          if script.lint.hasErrors then 1 else 0 := by
  refine ⟨?_, Lint.hasErrors_iff, fun files path loads => CommandLine.code_lint loads⟩
  rintro session rfl hsettles
  have rests := settle_ok_iff.mp hsettles
  have hleft : (settle session).session = session.rested :=
    congrArg Prod.snd (result_settle_of_not_endless rests)
  rw [hleft, Lint.error_at_iff]
  exact stuck_iff rests

/-- A fork with one way that was never written. -/
def unwrittenFork : Script :=
  ⟨[.choice "Left or right?" [⟨"Left", 1⟩, ⟨"Right", 3⟩],
    .branch .lastResult Arms.empty, .choice "And now?" [], .finish]⟩

/-- The left way, through a branch, is a dead end; the fork itself is none. The lint command finds
the dead end in a file. -/
theorem stuck_iff_error_reported_unwrittenFork :
    (settle (fresh unwrittenFork)).outcome = .ok () ∧ ¬ (fresh unwrittenFork).Stuck ∧
    (settle ((fresh unwrittenFork).after (.ask (.choose 0)))).outcome = .ok () ∧
    ((fresh unwrittenFork).after (.ask (.choose 0))).Stuck ∧
    unwrittenFork.lint.hasErrors = true ∧
    Files.script (fun _ => .ok unwrittenFork.canonical.toByteArray) "fork" = .ok unwrittenFork ∧
    (CommandLine.run (fun _ => .ok unwrittenFork.canonical.toByteArray) ["lint", "fork"]
      .empty).code = 1 := by
  obtain ⟨hstuck, herrors, hcode⟩ := stuck_iff_error_reported unwrittenFork
  have hsettles : (settle (fresh unwrittenFork)).outcome = .ok () := by decide
  have hleft : (settle ((fresh unwrittenFork).after (.ask (.choose 0)))).outcome = .ok () := by
    decide
  have herror : unwrittenFork.lint.hasErrors = true :=
    herrors.mpr ⟨"And now?", by decide⟩
  have hloads : Files.script (fun _ => .ok unwrittenFork.canonical.toByteArray) "fork" =
      .ok unwrittenFork :=
    Files.script_of_text rfl (Script.parse_of_canonical unwrittenFork)
  refine ⟨hsettles, ?_, hleft, ?_, herror, hloads, ?_⟩
  · rw [hstuck _ rfl hsettles, Lint.error_at_iff]
    decide
  · rw [hstuck _ rfl hleft, Lint.error_at_iff]
    decide
  · rw [hcode _ _ hloads, herror]
    rfl

end Session

end Narrative
