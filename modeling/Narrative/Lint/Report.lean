import Narrative.Names

/-!
# Lint reports

An issue has a level, a category, a message and, unless it concerns the whole script, the index of a
step. A report lists issues in the order they were added and counts them by level.

* `Report.issues_ofIssues`, `Report.count_ofIssues`: the report of a list of issues lists just these,
  and counts how many there are of each level.
-/

namespace Narrative.Lint

/-- How much an issue matters. -/
inductive Level
  /-- must be fixed -/
  | error
  /-- should be reviewed -/
  | warning
  /-- worth knowing -/
  | info
  deriving DecidableEq, Repr, Inhabited

namespace Level

/-- Levels as files write them. -/
def names : Names Level where
  all := [.error, .warning, .info]
  name
    | .error => "Error"
    | .warning => "Warning"
    | .info => "Info"
  mem_all a := by cases a <;> decide
  name_injective a b := by cases a <;> cases b <;> decide

/-- Levels as reports show them. -/
def label : Level → String
  | .error => "error"
  | .warning => "warning"
  | .info => "info"

end Level

/-- A finding. -/
structure Issue where
  level : Level
  message : String
  /-- the step it is about, if it is about one -/
  index : Option Nat
  category : String
  deriving DecidableEq

namespace Issue

/-- An issue of one step. -/
def ofStep (level : Level) (category : String) (index : Nat) (message : String) : Issue :=
  ⟨level, message, some index, category⟩

/-- An issue of the whole script. -/
def ofScript (level : Level) (category : String) (message : String) : Issue :=
  ⟨level, message, none, category⟩

/-- The line shown for an issue. -/
def line (issue : Issue) : String :=
  let head := issue.level.label ++ " [" ++ issue.category ++ "] "
  match issue.index with
  | some index => head ++ "step " ++ toString index ++ ": " ++ issue.message
  | none => head ++ issue.message

end Issue

/-- Issues and how many there are of each level. -/
structure Report where
  issues : List Issue := []
  errors : Nat := 0
  warnings : Nat := 0
  infos : Nat := 0
  deriving DecidableEq

namespace Report

/-- Add an issue at the end and count it. -/
def add (report : Report) (issue : Issue) : Report :=
  let report := { report with issues := report.issues ++ [issue] }
  match issue.level with
  | .error => { report with errors := report.errors + 1 }
  | .warning => { report with warnings := report.warnings + 1 }
  | .info => { report with infos := report.infos + 1 }

/-- The report of a list of issues. -/
def ofIssues (issues : List Issue) : Report := issues.foldl add {}

/-- How many issues of a level were counted. -/
def count (report : Report) : Level → Nat
  | .error => report.errors
  | .warning => report.warnings
  | .info => report.infos

/-- Whether an error was counted. -/
def hasErrors (report : Report) : Bool := decide (report.errors > 0)

/-- Whether there is no issue at all. -/
def isClean (report : Report) : Bool := report.issues.isEmpty

@[simp] theorem issues_add (report : Report) (issue : Issue) :
    (report.add issue).issues = report.issues ++ [issue] := by
  unfold add
  cases issue.level <;> rfl

@[simp] theorem count_add (report : Report) (issue : Issue) (level : Level) :
    (report.add issue).count level = report.count level + if issue.level = level then 1 else 0 := by
  unfold add
  cases issue.level <;> cases level <;> rfl

theorem issues_foldl_add (report : Report) (issues : List Issue) :
    (issues.foldl add report).issues = report.issues ++ issues := by
  induction issues generalizing report with
  | nil => exact (List.append_nil _).symm
  | cons issue issues ih => simp [ih]

theorem count_foldl_add (report : Report) (issues : List Issue) (level : Level) :
    (issues.foldl add report).count level =
      report.count level + issues.countP fun issue => issue.level = level := by
  induction issues generalizing report with
  | nil => rfl
  | cons issue issues ih =>
    rw [List.foldl_cons, ih, count_add, List.countP_cons]
    simp only [decide_eq_true_eq]
    omega

/-- A report lists the issues it was made of. -/
@[simp] theorem issues_ofIssues (issues : List Issue) : (ofIssues issues).issues = issues :=
  issues_foldl_add {} issues

/-- **A report counts right.** -/
theorem count_ofIssues (issues : List Issue) (level : Level) :
    (ofIssues issues).count level = issues.countP fun issue => issue.level = level := by
  refine (count_foldl_add {} issues level).trans ?_
  cases level <;> exact Nat.zero_add _

/-- A report has errors iff an error is listed. -/
theorem hasErrors_ofIssues_iff {issues : List Issue} :
    (ofIssues issues).hasErrors = true ↔ ∃ issue ∈ issues, issue.level = .error := by
  have hcount := count_ofIssues issues .error
  change (ofIssues issues).errors = _ at hcount
  unfold hasErrors
  rw [hcount, decide_eq_true_iff, gt_iff_lt, List.countP_pos_iff]
  simp only [decide_eq_true_eq]

end Report

end Narrative.Lint
