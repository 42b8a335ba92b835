import Narrative.Names

/-!
# Log lines and the debug filter

Transitions produce notes: a category, a level and a text. A `LogFilter` decides which notes are
emitted (`allows`) and turns them into log lines. The runner and the script reader also log
directly; their lines pass no filter.

* `LogFilter.lines_eq_filter`: what a filter emits is what the verbose filter emits, less the lines
  whose category and level it refuses.
-/

namespace Narrative

/-! ## Levels and categories -/

/-- Severity, from the most verbose to the gravest. -/
inductive LogLevel
  | trace | debug | info | warn | error
  deriving DecidableEq, Repr, Inhabited

namespace LogLevel

/-- Levels as configurations write them. -/
def names : Names LogLevel where
  all := [.trace, .debug, .info, .warn, .error]
  name
    | .trace => "Trace"
    | .debug => "Debug"
    | .info => "Info"
    | .warn => "Warn"
    | .error => "Error"
  mem_all a := by cases a <;> decide
  name_injective a b := by cases a <;> cases b <;> decide

/-- Levels as log lines show them. -/
def label : LogLevel → String
  | .trace => "TRACE"
  | .debug => "DEBUG"
  | .info => "INFO"
  | .warn => "WARN"
  | .error => "ERROR"

/-- The place in the order of severity, from 0. -/
def severity : LogLevel → Nat
  | .trace => 0
  | .debug => 1
  | .info => 2
  | .warn => 3
  | .error => 4

end LogLevel

/-- What a note is about. -/
inductive LogCategory
  /-- position changes -/
  | engine
  /-- branch resolution -/
  | flow
  /-- recorded results -/
  | results
  /-- requests of the host -/
  | host
  deriving DecidableEq, Repr, Inhabited

namespace LogCategory

/-- Categories as configurations write them. -/
def names : Names LogCategory where
  all := [.engine, .flow, .results, .host]
  name
    | .engine => "Engine"
    | .flow => "Flow"
    | .results => "Variables"
    | .host => "Host"
  mem_all a := by cases a <;> decide
  name_injective a b := by cases a <;> cases b <;> decide

/-- The target that lines of a category are logged under. -/
def target : LogCategory → String
  | .engine => "scene_director::engine"
  | .flow => "scene_director::flow"
  | .results => "scene_director::variables"
  | .host => "scene_director::host"

end LogCategory

/-- A set of categories. -/
structure LogCategories where
  engine : Bool
  flow : Bool
  results : Bool
  host : Bool
  deriving DecidableEq, Repr, Inhabited

namespace LogCategories

/-- No category. -/
def empty : LogCategories := ⟨false, false, false, false⟩

/-- Every category. -/
def full : LogCategories := ⟨true, true, true, true⟩

/-- Membership. -/
def contains (set : LogCategories) : LogCategory → Bool
  | .engine => set.engine
  | .flow => set.flow
  | .results => set.results
  | .host => set.host

/-- Add a category. -/
def insert (set : LogCategories) : LogCategory → LogCategories
  | .engine => { set with engine := true }
  | .flow => { set with flow := true }
  | .results => { set with results := true }
  | .host => { set with host := true }

/-- The set of the members of a list. -/
def ofList (members : List LogCategory) : LogCategories := members.foldl insert empty

/-- The members, sorted by name. -/
def toList (set : LogCategories) : List LogCategory :=
  [.engine, .flow, .host, .results].filter set.contains

theorem contains_insert (set : LogCategories) (added category : LogCategory) :
    (set.insert added).contains category = (decide (category = added) || set.contains category) := by
  cases added <;> cases category <;> rfl

@[simp] theorem contains_full (category : LogCategory) : full.contains category = true := by
  cases category <;> rfl

end LogCategories

/-! ## Notes and lines -/

/-- A message about a transition, before it is filtered. -/
structure Note where
  category : LogCategory
  level : LogLevel
  text : String
  deriving DecidableEq, Repr

/-- Where a log line comes from. -/
inductive LogSource
  /-- a note that passed the debug filter -/
  | note (category : LogCategory)
  /-- the scene runner -/
  | runner
  /-- the script reader -/
  | reader
  deriving DecidableEq, Repr

/-- The target shown with a line. -/
def LogSource.target : LogSource → String
  | .note category => category.target
  | .runner => "scene_director::runner"
  | .reader => "scene_director::parser"

/-- An emitted line. -/
structure LogLine where
  source : LogSource
  level : LogLevel
  text : String
  deriving DecidableEq, Repr

/-- Which notes are emitted: none unless enabled, else those at least as grave as `level` and of
a listed category. -/
structure LogFilter where
  enabled : Bool
  level : LogLevel
  categories : LogCategories
  deriving DecidableEq, Repr

namespace LogFilter

/-- The filter in force when nothing is configured: off, and prepared for position changes and
branches at debug level. -/
def standard : LogFilter where
  enabled := false
  level := .debug
  categories := .ofList [.engine, .flow]

/-- Everything is emitted. -/
def verbose : LogFilter := ⟨true, .trace, .full⟩

/-- Nothing is emitted. -/
def disabled : LogFilter := { standard with enabled := false }

/-- Whether a note of this category and level is emitted. -/
def allows (filter : LogFilter) (category : LogCategory) (level : LogLevel) : Bool :=
  filter.enabled && decide (filter.level.severity ≤ level.severity) &&
    filter.categories.contains category

/-- The lines emitted for a note: one or none. -/
def lines (filter : LogFilter) (note : Note) : List LogLine :=
  if filter.allows note.category note.level then [⟨.note note.category, note.level, note.text⟩]
  else []

/-- Whether a line that the verbose filter emits is kept: a note must be allowed, a direct line
always stays. -/
def keeps (filter : LogFilter) (line : LogLine) : Bool :=
  match line.source with
  | .note category => filter.allows category line.level
  | _ => true

@[simp] theorem allows_verbose (category : LogCategory) (level : LogLevel) :
    verbose.allows category level = true := by
  simp [allows, verbose, LogLevel.severity]

theorem lines_eq_filter (filter : LogFilter) (note : Note) :
    filter.lines note = (verbose.lines note).filter filter.keeps := by
  unfold lines
  rw [allows_verbose]
  cases h : filter.allows note.category note.level <;> simp [keeps, h]

end LogFilter

/-- A value together with the lines logged on the way to it. -/
structure Logged (α : Type) where
  value : α
  log : List LogLine

end Narrative
