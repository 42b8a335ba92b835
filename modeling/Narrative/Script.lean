import Narrative.Names
import Narrative.Position
import Narrative.Text.Blank

/-!
# Scene scripts

A script is an ordered list of steps. It carries no logic of its own: it is read by position, and
every position outside it reads as the synthetic final step `finish`.

The names of speakers, games, results, variables and step kinds are closed sets (`Names`).
-/

namespace Narrative

/-! ## Closed sets -/

/-- Who speaks a line of dialogue. -/
inductive Speaker
  | ivan | player | narrator
  deriving DecidableEq, Repr, Inhabited

/-- Speakers are written by name. -/
def Speaker.names : Names Speaker where
  all := [.ivan, .player, .narrator]
  name
    | .ivan => "Ivan"
    | .player => "Player"
    | .narrator => "Narrator"
  mem_all a := by cases a <;> decide
  name_injective a b := by cases a <;> cases b <;> decide

/-- The minigames a host knows how to mount. -/
inductive Game
  | dice | minesweeper | keypad | snake | blackjack | codeCracker | lightsOut | snowfall
  | highCardDraw | shots
  deriving DecidableEq, Repr, Inhabited

/-- Games are written by name. -/
def Game.names : Names Game where
  all := [.dice, .minesweeper, .keypad, .snake, .blackjack, .codeCracker, .lightsOut, .snowfall,
    .highCardDraw, .shots]
  name
    | .dice => "Dice"
    | .minesweeper => "Minesweeper"
    | .keypad => "Keypad"
    | .snake => "Snake"
    | .blackjack => "Blackjack"
    | .codeCracker => "CodeCracker"
    | .lightsOut => "LightsOut"
    | .snowfall => "Snowfall"
    | .highCardDraw => "HighCardDraw"
    | .shots => "Shots"
  mem_all a := by cases a <;> decide
  name_injective a b := by cases a <;> cases b <;> decide

/-- How a minigame concluded. Results are only keys for branches; they are ranked in this order. -/
inductive GameResult
  | win | lose | draw | completed
  deriving DecidableEq, Repr, Inhabited

/-- Results are written in lower case. -/
def GameResult.names : Names GameResult where
  all := [.win, .lose, .draw, .completed]
  name
    | .win => "win"
    | .lose => "lose"
    | .draw => "draw"
    | .completed => "completed"
  mem_all a := by cases a <;> decide
  name_injective a b := by cases a <;> cases b <;> decide

/-- The place of a result in the fixed order, from 0. -/
def GameResult.rank : GameResult → Nat
  | .win => 0
  | .lose => 1
  | .draw => 2
  | .completed => 3

/-- Reads a typed result: surrounding white space and the case of ASCII letters do not matter. -/
def GameResult.ofTyped? (text : String) : Option GameResult :=
  GameResult.names.find? ((Text.trim text).map Char.toLower)

/-- What is said of a typed text that names no result. -/
def GameResult.refusal (text : String) : String :=
  s!"unknown result category '{text}' (expected win, lose, draw or completed)"

/-- The variables results are recorded under. -/
inductive Variable
  | lastResult
  deriving DecidableEq, Repr, Inhabited

/-- The one variable is `lastResult`. -/
def Variable.names : Names Variable where
  all := [.lastResult]
  name _ := "lastResult"
  mem_all a := by cases a; decide
  name_injective a b := by cases a; cases b; decide

/-! ## Steps -/

/-- A selectable option of a choice, with the position it leads to. -/
structure ChoiceOption where
  label : String
  next : Position
  deriving DecidableEq, Inhabited

/-- A partial map from results to positions: the arms of a branch. -/
structure Arms where
  win : Option Position
  lose : Option Position
  draw : Option Position
  completed : Option Position
  deriving DecidableEq, Inhabited

namespace Arms

/-- The map without an entry. -/
def empty : Arms := ⟨none, none, none, none⟩

/-- The target mapped to a result. -/
def get (arms : Arms) : GameResult → Option Position
  | .win => arms.win
  | .lose => arms.lose
  | .draw => arms.draw
  | .completed => arms.completed

/-- Map a result to a target, replacing any former one. -/
def set (arms : Arms) (result : GameResult) (target : Position) : Arms :=
  match result with
  | .win => { arms with win := some target }
  | .lose => { arms with lose := some target }
  | .draw => { arms with draw := some target }
  | .completed => { arms with completed := some target }

/-- The map with the given entries; of two entries for one result the last wins. -/
def ofList (entries : List (GameResult × Position)) : Arms :=
  entries.foldl (fun arms entry => arms.set entry.1 entry.2) empty

/-- The entries, by rank of the result. -/
def toList (arms : Arms) : List (GameResult × Position) :=
  GameResult.names.all.filterMap fun result => (arms.get result).map fun target => (result, target)

/-- Whether nothing is mapped. -/
def isEmpty (arms : Arms) : Bool := arms.toList.isEmpty

@[simp] theorem get_empty (result : GameResult) : empty.get result = none := by
  cases result <;> rfl

theorem get_set (arms : Arms) (result other : GameResult) (target : Position) :
    (arms.set result target).get other = if other = result then some target else arms.get other := by
  cases result <;> cases other <;> rfl

theorem mem_toList {arms : Arms} {result : GameResult} {target : Position} :
    (result, target) ∈ arms.toList ↔ arms.get result = some target := by
  simp [toList, GameResult.names.mem_all]

end Arms

/-- One instruction of a scene. -/
inductive Step
  /-- A line of dialogue, shown until the host continues. -/
  | say (speaker : Speaker) (text : String)
  /-- A prompt with options; the host jumps to the target of the picked one. -/
  | choice (prompt : String) (options : List ChoiceOption)
  /-- A marker telling the host to mount a minigame. -/
  | startGame (game : Game)
  /-- The suspension point until the mounted minigame reports a result. -/
  | awaitResult (var : Variable)
  /-- A jump selected by the recorded result; unmapped results fall through. -/
  | branch (var : Variable) (arms : Arms)
  /-- A jump, followed when the host continues. -/
  | goto (next : Position)
  /-- The end of the scene. -/
  | finish
  deriving DecidableEq, Inhabited

/-- The kind of a step. -/
inductive StepKind
  | say | choice | startGame | awaitResult | branch | goto | finish
  deriving DecidableEq, Repr, Inhabited

/-- The names of kinds, as scripts and messages write them. -/
def StepKind.names : Names StepKind where
  all := [.say, .choice, .startGame, .awaitResult, .branch, .goto, .finish]
  name
    | .say => "say"
    | .choice => "choice"
    | .startGame => "startGame"
    | .awaitResult => "awaitGameResult"
    | .branch => "branchOnResult"
    | .goto => "goto"
    | .finish => "end"
  mem_all a := by cases a <;> decide
  name_injective a b := by cases a <;> cases b <;> decide

namespace Step

/-- The kind of a step. -/
def kind : Step → StepKind
  | .say .. => .say
  | .choice .. => .choice
  | .startGame .. => .startGame
  | .awaitResult .. => .awaitResult
  | .branch .. => .branch
  | .goto .. => .goto
  | .finish => .finish

/-- The positions a step names: option targets, arms by rank, or the target of a jump. -/
def targets : Step → List Position
  | .choice _ options => options.map ChoiceOption.next
  | .branch _ arms => arms.toList.map Prod.snd
  | .goto next => [next]
  | _ => []

end Step

/-! ## Scripts -/

/-- An ordered list of steps. -/
structure Script where
  steps : List Step
  deriving DecidableEq, Inhabited

namespace Script

/-- The number of steps. -/
def length (script : Script) : Nat := script.steps.length

/-- Whether there is no step at all. -/
def isEmpty (script : Script) : Bool := script.steps.isEmpty

/-- The step at a position; outside the script, `finish`. -/
def get (script : Script) (position : Position) : Step :=
  (position.index?.bind (script.steps[·]?)).getD .finish

/-- Whether a position addresses a step of the script. -/
def contains (script : Script) (position : Position) : Bool :=
  position.index?.any fun i => decide (i < script.length)

theorem get_of_index {script : Script} {position : Position} {i : Nat} (h : position.toInt = i)
    (hi : i < script.steps.length) : script.get position = script.steps[i] := by
  simp [get, Position.index?_eq_some_iff.mpr h, hi]

theorem contains_iff {script : Script} {position : Position} :
    script.contains position = true ↔ 0 ≤ position.toInt ∧ position.toInt < script.length := by
  unfold contains
  cases h : position.index? with
  | none =>
    have := Position.index?_eq_none_iff.mp h
    simp only [Option.any_none, Bool.false_eq_true, false_iff]
    omega
  | some i =>
    have := Position.index?_eq_some_iff.mp h
    simp only [Option.any_some, decide_eq_true_eq]
    omega

theorem get_of_not_contains {script : Script} {position : Position}
    (h : script.contains position = false) : script.get position = .finish := by
  unfold contains at h
  unfold get
  cases e : position.index? with
  | none => rfl
  | some i =>
    rw [e, Option.any_some] at h
    simp [List.getElem?_eq_none (Nat.le_of_not_lt (of_decide_eq_false h))]

end Script

end Narrative
