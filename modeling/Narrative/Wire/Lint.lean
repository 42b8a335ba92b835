import Narrative.Lint.Config
import Narrative.Lint.Report
import Narrative.Wire.Script

/-!
# Lint reports and configurations in JSON

All of them are records. The index of an issue may be missing, which means the same as `null`.
-/

namespace Narrative

open Json

/-! ## Writing -/

/-- An issue as a value. -/
def Lint.Issue.toValue (issue : Lint.Issue) : Value :=
  .obj [("level", Lint.Level.names.toValue issue.level), ("message", .str issue.message),
    ("index", .optional Value.ofNat issue.index), ("category", .str issue.category)]

/-- A report as a value. -/
def Lint.Report.toValue (report : Lint.Report) : Value :=
  .obj [("issues", .list Lint.Issue.toValue report.issues),
    ("error_count", .ofNat report.errors), ("warning_count", .ofNat report.warnings),
    ("info_count", .ofNat report.infos)]

/-- A configuration as a value. -/
def Lint.Config.toValue (config : Lint.Config) : Value :=
  .obj [
    ("references", .obj [("enabled", .bool config.references.enabled),
      ("check_targets", .bool config.references.checkTargets)]),
    ("protocol", .obj [("enabled", .bool config.protocol.enabled),
      ("report_empty_branches", .bool config.protocol.reportEmptyBranches)]),
    ("flow", .obj [("enabled", .bool config.flow.enabled),
      ("check_unreachable", .bool config.flow.checkUnreachable),
      ("check_termination", .bool config.flow.checkTermination)]),
    ("quality", .obj [("enabled", .bool config.quality.enabled),
      ("max_text_length", .ofNat config.quality.maxTextLength)])]

/-! ## Reading -/

namespace Decoder

open Json.Decoder

/-- Decode an issue. -/
def issue : Decoder Lint.Issue :=
  ofRecord <| .ofFields "struct LintIssue"
    (.field "level" none (oneOf Lint.Level.names) <| .field "message" none text <|
      .field "index" (some none) (optional count) <| .field "category" none text .nil)
    fun (level, message, index, category, ()) => ⟨level, message, index, category⟩

/-- Decode a report. The counters are taken as they stand. -/
def report : Decoder Lint.Report :=
  ofRecord <| .ofFields "struct LintResult"
    (.field "issues" none (list issue) <| .field "error_count" none count <|
      .field "warning_count" none count <| .field "info_count" none count .nil)
    fun (issues, errors, warnings, infos, ()) => ⟨issues, errors, warnings, infos⟩

/-- Decode the configuration of the reference checks. -/
def referencesConfig : Decoder Lint.ReferencesConfig :=
  ofRecord <| .ofFields "struct ReferencesConfig"
    (.field "enabled" none bool <| .field "check_targets" none bool .nil)
    fun (enabled, checkTargets, ()) => ⟨enabled, checkTargets⟩

/-- Decode the configuration of the protocol checks. -/
def protocolConfig : Decoder Lint.ProtocolConfig :=
  ofRecord <| .ofFields "struct ProtocolConfig"
    (.field "enabled" none bool <| .field "report_empty_branches" none bool .nil)
    fun (enabled, reportEmptyBranches, ()) => ⟨enabled, reportEmptyBranches⟩

/-- Decode the configuration of the flow checks. -/
def flowConfig : Decoder Lint.FlowConfig :=
  ofRecord <| .ofFields "struct FlowConfig"
    (.field "enabled" none bool <| .field "check_unreachable" none bool <|
      .field "check_termination" none bool .nil)
    fun (enabled, checkUnreachable, checkTermination, ()) =>
      ⟨enabled, checkUnreachable, checkTermination⟩

/-- Decode the configuration of the text checks. -/
def qualityConfig : Decoder Lint.QualityConfig :=
  ofRecord <| .ofFields "struct QualityConfig"
    (.field "enabled" none bool <| .field "max_text_length" none count .nil)
    fun (enabled, maxTextLength, ()) => ⟨enabled, maxTextLength⟩

/-- Decode a configuration. -/
def lintConfig : Decoder Lint.Config :=
  ofRecord <| .ofFields "struct LintConfig"
    (.field "references" none referencesConfig <| .field "protocol" none protocolConfig <|
      .field "flow" none flowConfig <| .field "quality" none qualityConfig .nil)
    fun (references, protocol, flow, quality, ()) => ⟨references, protocol, flow, quality⟩

end Decoder

end Narrative
