import Narrative.Proofs.Saves
import Narrative.Wire.Lint
import Narrative.Wire.Runner

/-!
# Written values read back

Beside scripts, the library writes actions, states, saves, lint reports and the configurations of
lint and of the runner. Each of them is taken by its decoder for what it was written from, compact
or indented.

Counts are natural numbers here, but their decoders accept 64 bits only. `InRange` says of a report
or a configuration that 64 bits hold its numbers, and that is all that is asked of it: the counters
of a report need not agree with its issues. A span of time is written with less than a second of
nanoseconds, so nothing is carried when it is made again.

* `Decoder.takes_action`, `takes_report`, `takes_lintConfig`, `takes_runConfig`: the decoders, one
  law for each record from the laws of its fields;
* **`wire_values_are_read_back`**: all six types, from both texts.
-/

namespace Narrative

open Json

/-! ## Numbers that 64 bits hold -/

/-- 64 bits hold the index of the step an issue is about. -/
def Lint.Issue.InRange (issue : Lint.Issue) : Prop :=
  ∀ index ∈ issue.index, index < UInt64.size

/-- 64 bits hold the counters of a report and the indices in its issues. -/
structure Lint.Report.InRange (report : Lint.Report) : Prop where
  issues : ∀ issue ∈ report.issues, issue.InRange
  errors : report.errors < UInt64.size
  warnings : report.warnings < UInt64.size
  infos : report.infos < UInt64.size

/-- 64 bits hold the greatest length that is not reported. -/
def Lint.Config.InRange (config : Lint.Config) : Prop :=
  config.quality.maxTextLength < UInt64.size

/-- 64 bits hold the seconds of the time limit and the number of steps. -/
structure RunConfig.InRange (config : RunConfig) : Prop where
  gameTimeout : ∀ span ∈ config.gameTimeout, span.secs < UInt64.size
  maxTransitions : config.maxTransitions < UInt64.size

/-- A span is made again from its parts. -/
theorem Duration.ofParts_parts (span : Duration) : ofParts span.secs span.nanos = span :=
  total_inj.mp (total_ofParts span.secs span.nanos)

namespace Decoder

open Json.Decoder

/-! ## Actions -/

/-- The members of an action beside its tag. -/
theorem takes_actionBody (levels : Nat) (action : Action) :
    (ofRecord (actionBody action.kind)).Takes (levels + 1) (.obj action.members) action := by
  cases action with
  | advance => exact takes_ofRecord Fields.given_nil rfl
  | goto next =>
    exact takes_ofRecord (.front (by decide) (takes_position _ _) Fields.given_nil) rfl
  | setResult result =>
    exact takes_ofRecord (.front (by decide) (takes_oneOf _ _ _) Fields.given_nil) rfl

theorem key_ne_type (action : Action) : ∀ m ∈ action.members, m.1 ≠ "type" := by
  cases action <;> simp [Action.members]

/-- Actions are taken for what they were written from. -/
theorem takes_action (levels : Nat) (action : Action) :
    Decoder.action.Takes (levels + 1) action.toValue action :=
  Variants.takes_decoder [] action.members (key_ne_type action) (takes_actionBody levels action)

/-! ## Lint -/

theorem takes_issue (levels : Nat) {issue : Lint.Issue} (inRange : issue.InRange) :
    Decoder.issue.Takes (levels + 1) issue.toValue issue := by
  have hindex : (optional count).Takes levels (.optional Value.ofNat issue.index) issue.index :=
    takes_optional fun index hindex => ⟨Value.noConfusion, takes_count _ (inRange index hindex)⟩
  exact takes_ofRecord
    (.front (by decide) (takes_oneOf _ _ _) <| .front (by decide) (takes_text _ _) <|
      .front (by decide) hindex <| .front (by decide) (takes_text _ _) Fields.given_nil) rfl

/-- Reports are taken, whatever their counters say. -/
theorem takes_report (levels : Nat) {report : Lint.Report} (inRange : report.InRange) :
    Decoder.report.Takes (levels + 3) report.toValue report := by
  have hissues : (list issue).Takes (levels + 2) (.list Lint.Issue.toValue report.issues)
      report.issues := by
    refine takes_list ?_
    rw [List.forall₂_map_left_iff, List.forall₂_same]
    exact fun issue hissue => takes_issue levels (inRange.issues issue hissue)
  exact takes_ofRecord
    (.front (by decide) hissues <| .front (by decide) (takes_count _ inRange.errors) <|
      .front (by decide) (takes_count _ inRange.warnings) <|
      .front (by decide) (takes_count _ inRange.infos) Fields.given_nil) rfl

/-- Configurations of lint are taken, each group of checks by its own decoder. -/
theorem takes_lintConfig (levels : Nat) {config : Lint.Config} (inRange : config.InRange) :
    Decoder.lintConfig.Takes (levels + 2) config.toValue config := by
  obtain ⟨references, protocol, flow, quality⟩ := config
  have hreferences : referencesConfig.Takes (levels + 1)
      (.obj [("enabled", .bool references.enabled),
        ("check_targets", .bool references.checkTargets)]) references :=
    takes_ofRecord
      (.front (by decide) (takes_bool _ _) <| .front (by decide) (takes_bool _ _)
        Fields.given_nil) rfl
  have hprotocol : protocolConfig.Takes (levels + 1)
      (.obj [("enabled", .bool protocol.enabled),
        ("report_empty_branches", .bool protocol.reportEmptyBranches)]) protocol :=
    takes_ofRecord
      (.front (by decide) (takes_bool _ _) <| .front (by decide) (takes_bool _ _)
        Fields.given_nil) rfl
  have hflow : flowConfig.Takes (levels + 1)
      (.obj [("enabled", .bool flow.enabled), ("check_unreachable", .bool flow.checkUnreachable),
        ("check_termination", .bool flow.checkTermination)]) flow :=
    takes_ofRecord
      (.front (by decide) (takes_bool _ _) <| .front (by decide) (takes_bool _ _) <|
        .front (by decide) (takes_bool _ _) Fields.given_nil) rfl
  have hquality : qualityConfig.Takes (levels + 1)
      (.obj [("enabled", .bool quality.enabled),
        ("max_text_length", .ofNat quality.maxTextLength)]) quality :=
    takes_ofRecord
      (.front (by decide) (takes_bool _ _) <| .front (by decide) (takes_count _ inRange)
        Fields.given_nil) rfl
  exact takes_ofRecord
    (.front (by decide) hreferences <| .front (by decide) hprotocol <|
      .front (by decide) hflow <| .front (by decide) hquality Fields.given_nil) rfl

/-! ## The runner -/

/-- Spans of time are taken; nothing is carried. -/
theorem takes_duration (levels : Nat) {span : Duration} (holds : span.secs < UInt64.size) :
    Decoder.duration.Takes (levels + 1) span.toValue span := by
  have hnanos : span.nanos < UInt32.size := Nat.lt_trans span.nanos_lt (by decide)
  have hmade : carried span.secs span.nanos = .ok span := by
    unfold carried
    rw [Duration.ofParts_parts]
    exact if_pos holds
  exact takes_ofRecord
    (.front (by decide) (takes_natural _ "u64" (Nat.le_refl _) holds) <|
      .front (by decide) (takes_natural _ "u32" (by decide) hnanos) Fields.given_nil) hmade

/-- Configurations of the runner are taken, with a time limit or without. -/
theorem takes_runConfig (levels : Nat) {config : RunConfig} (inRange : config.InRange) :
    Decoder.runConfig.Takes (levels + 2) config.toValue config := by
  have htimeout : (optional duration).Takes (levels + 1)
      (.optional Duration.toValue config.gameTimeout) config.gameTimeout :=
    takes_optional fun span hspan =>
      ⟨Value.noConfusion, takes_duration levels (inRange.gameTimeout span hspan)⟩
  exact takes_ofRecord
    (.front (by decide) htimeout <| .front (by decide) (takes_oneOf _ _ _) <|
      .front (by decide) (takes_count _ inRange.maxTransitions) Fields.given_nil) rfl

end Decoder

/-! ## All of them -/

/-- **Written values are read back.** Actions, states and saves are decoded from their compact and
from their indented text, and so are reports and configurations whose numbers 64 bits hold. -/
theorem wire_values_are_read_back :
    (∀ action : Action, Decoder.action.ReadsBack action.toValue action) ∧
      (∀ state : State, Decoder.state.ReadsBack state.toValue state) ∧
      (∀ data : SaveData, Decoder.saveData.ReadsBack data.toValue data) ∧
      (∀ report : Lint.Report, report.InRange →
        Decoder.report.ReadsBack report.toValue report) ∧
      (∀ config : Lint.Config, config.InRange →
        Decoder.lintConfig.ReadsBack config.toValue config) ∧
      (∀ config : RunConfig, config.InRange →
        Decoder.runConfig.ReadsBack config.toValue config) := by
  refine ⟨fun action => ?_, fun state => ?_, fun data => ?_, fun report inRange => ?_,
    fun config inRange => ?_, fun config inRange => ?_⟩
  · exact (Decoder.takes_action 126 action).readsBack
  · exact (Decoder.takes_state 125 state).readsBack
  · exact (Decoder.takes_saveData 124 data).readsBack
  · exact (Decoder.takes_report 124 inRange).readsBack
  · exact (Decoder.takes_lintConfig 125 inRange).readsBack
  · exact (Decoder.takes_runConfig 125 inRange).readsBack

/-- A report with the greatest numbers, which do not agree with its issues, and with characters that
are escaped. -/
def vastReport : Lint.Report where
  issues := [⟨.info, "\"quoted\"\n\x01 \\", some 18446744073709551615, "flow"⟩,
    ⟨.error, "", none, "übersehen"⟩]
  errors := 18446744073709551615
  warnings := 0
  infos := 18446744073709551615

/-- A configuration of lint that reports no text as too long, and no unreachable step. -/
def lenientLint : Lint.Config where
  flow := { checkUnreachable := false }
  quality := { maxTextLength := 18446744073709551615 }

/-- A configuration of the runner with the greatest time limit and the greatest number of steps. -/
def patientRunner : RunConfig where
  gameTimeout := some { secs := 18446744073709551615, nanos := 999999999 }
  timeoutResult := .draw
  maxTransitions := 18446744073709551615

/-- The greatest numbers are read back. -/
theorem wire_values_are_read_back_vast :
    vastReport.InRange ∧ lenientLint.InRange ∧ patientRunner.InRange ∧
      Decoder.report.ReadsBack vastReport.toValue vastReport ∧
      Decoder.lintConfig.ReadsBack lenientLint.toValue lenientLint ∧
      Decoder.runConfig.ReadsBack patientRunner.toValue patientRunner := by
  have hreport : vastReport.InRange := by
    refine ⟨?_, by decide, by decide, by decide⟩
    intro issue hissue
    simp only [vastReport, List.mem_cons, List.not_mem_nil, or_false] at hissue
    rcases hissue with rfl | rfl
    · rintro index ⟨⟩
      decide
    · rintro index ⟨⟩
  have hlint : lenientLint.InRange := by
    unfold Lint.Config.InRange
    decide
  have hrunner : patientRunner.InRange := by
    refine ⟨?_, by decide⟩
    rintro span ⟨⟩
    decide
  obtain ⟨-, -, -, reports, lints, runners⟩ := wire_values_are_read_back
  exact ⟨hreport, hlint, hrunner, reports vastReport hreport, lints lenientLint hlint,
    runners patientRunner hrunner⟩

end Narrative
