import Narrative.History

/-!
# A history forgets its oldest snapshots only

A history is compared with a stack that keeps everything. `Tops` says that it holds the newest
states of the stack, so and so many of them. Each change keeps that relation and tells the new
number from the old one and the limit (`Tops.change`), so the relation holds after every series of
changes. The number has to be carried along: once something was dropped and then undone, the lengths
of the two no longer determine each other.

Results:
* `Tops.changeAll`: the relation after a series of changes;
* **`newest_are_kept`**: what a history holds and what it answers, in terms of the stack.
-/

namespace Narrative.History

/-! ## Changes -/

/-- A change of a history. -/
inductive Change
  /-- add a snapshot -/
  | push (state : State)
  /-- take the newest snapshot away -/
  | pop
  /-- forget every snapshot -/
  | clear
  deriving DecidableEq

/-- The history after a change. Where there is no snapshot, none is taken away. -/
def change (history : History) : Change → History
  | .push state => history.push state
  | .pop => history.pop?.elim history Prod.snd
  | .clear => history.clear

/-- The history after a series of changes. -/
def changeAll (history : History) (changes : List Change) : History :=
  changes.foldl change history

namespace Change

/-- The same change of a stack without a limit. Its newest state is in front. -/
def stack (states : List State) : Change → List State
  | .push state => state :: states
  | .pop => states.tail
  | .clear => []

/-- How many snapshots are kept after a change if `kept` were before. -/
def keep (limit kept : Nat) : Change → Nat
  | .push _ => min (kept + 1) limit
  | .pop => kept - 1
  | .clear => 0

/-- The stack without a limit after a series of changes. -/
def stackAll (changes : List Change) : List State := changes.foldl stack []

/-- How many snapshots are kept after a series of changes. -/
def keepAll (limit : Nat) (changes : List Change) : Nat := changes.foldl (keep limit) 0

end Change

/-! ## Looking at the newest snapshot -/

variable {history : History}

theorem fst_pop? (history : History) : history.pop?.map Prod.fst = history.snapshots.head? := by
  cases hpop : history.pop? with
  | none =>
    rw [pop?_eq_none_iff.mp hpop]
    rfl
  | some popped =>
    obtain ⟨state, older⟩ := popped
    rw [(pop?_eq_some_iff.mp hpop).1]
    rfl

theorem snapshots_change_pop (history : History) :
    (history.change .pop).snapshots = history.snapshots.tail := by
  unfold change
  cases hpop : history.pop? with
  | none =>
    have hempty := pop?_eq_none_iff.mp hpop
    rw [Option.elim_none, hempty, List.tail_nil]
  | some popped =>
    obtain ⟨state, older⟩ := popped
    rw [Option.elim_some, (pop?_eq_some_iff.mp hpop).1, List.tail_cons]

theorem limit_change_pop (history : History) : (history.change .pop).limit = history.limit := by
  unfold change
  cases hpop : history.pop? with
  | none => rfl
  | some popped => exact (pop?_eq_some_iff.mp hpop).2

theorem canUndo_iff : history.canUndo = true ↔ 0 < history.depth := by
  rw [history.depth_eq, List.length_pos_iff]
  unfold canUndo
  cases history.snapshots <;> simp

/-! ## The newest states of a stack -/

/-- The history has this limit and holds the newest `kept` states of a stack. -/
structure Tops (history : History) (limit : Nat) (stack : List State) (kept : Nat) : Prop where
  limit_eq : history.limit = limit
  snapshots : history.snapshots = stack.take kept
  le_length : kept ≤ stack.length

variable {limit kept : Nat} {stack : List State}

theorem tops_empty (limit : Nat) : (empty limit).Tops limit [] 0 := ⟨rfl, rfl, Nat.le_refl 0⟩

theorem Tops.depth_eq (tops : history.Tops limit stack kept) : history.depth = kept := by
  rw [history.depth_eq, tops.snapshots, List.length_take]
  exact Nat.min_eq_left tops.le_length

theorem Tops.le_limit (tops : history.Tops limit stack kept) : kept ≤ limit := by
  rw [← tops.depth_eq, ← tops.limit_eq]
  exact history.depth_le

/-- A push drops at the bottom what the limit does not admit. -/
theorem Tops.push (tops : history.Tops limit stack kept) (state : State) :
    (history.push state).Tops limit (state :: stack) (min (kept + 1) limit) where
  limit_eq := (history.limit_push state).trans tops.limit_eq
  snapshots := by
    have hcons : state :: stack.take kept = (state :: stack).take (kept + 1) := rfl
    rw [snapshots_push, tops.snapshots, tops.limit_eq, hcons, List.take_take, Nat.min_comm]
  le_length := by
    have hle := tops.le_length
    rw [List.length_cons]
    omega

/-- A pop takes the newest state from both. -/
theorem Tops.pop (tops : history.Tops limit stack kept) :
    (history.change .pop).Tops limit stack.tail (kept - 1) where
  limit_eq := (limit_change_pop history).trans tops.limit_eq
  snapshots := by
    rw [snapshots_change_pop, tops.snapshots, ← List.drop_one, ← List.drop_one, List.drop_take]
  le_length := by
    have hle := tops.le_length
    rw [List.length_tail]
    omega

/-- **A change keeps the newest states**, and the number of them follows from the old number. -/
theorem Tops.change (tops : history.Tops limit stack kept) (change : Change) :
    (history.change change).Tops limit (change.stack stack) (change.keep limit kept) := by
  cases change with
  | push state => exact tops.push state
  | pop => exact tops.pop
  | clear => exact tops.limit_eq ▸ tops_empty history.limit

/-- So does a series of changes. -/
theorem Tops.changeAll (tops : history.Tops limit stack kept) (changes : List Change) :
    (history.changeAll changes).Tops limit (changes.foldl Change.stack stack)
      (changes.foldl (Change.keep limit) kept) := by
  induction changes generalizing history stack kept with
  | nil => exact tops
  | cons change changes ih => exact ih (tops.change change)

/-- **A history holds the newest states of the stack** that the same changes make without a limit,
in their order. Their number starts at 0; a push adds one up to the limit, a pop takes one away if
there is one, and clearing leaves none. It is the depth and never exceeds the limit. There is
something to undo exactly if the number is not 0; then a pop answers with the newest state of the
stack, and otherwise with nothing. -/
theorem newest_are_kept (limit : Nat) (changes : List Change) :
    ((empty limit).changeAll changes).snapshots =
        (Change.stackAll changes).take (Change.keepAll limit changes) ∧
      Change.keepAll limit changes ≤ (Change.stackAll changes).length ∧
      ((empty limit).changeAll changes).depth = Change.keepAll limit changes ∧
      Change.keepAll limit changes ≤ limit ∧
      (((empty limit).changeAll changes).canUndo = true ↔ 0 < Change.keepAll limit changes) ∧
      ((empty limit).changeAll changes).pop?.map Prod.fst =
        if 0 < Change.keepAll limit changes then (Change.stackAll changes).head? else none := by
  have tops : ((empty limit).changeAll changes).Tops limit (Change.stackAll changes)
      (Change.keepAll limit changes) := (tops_empty limit).changeAll changes
  refine ⟨tops.snapshots, tops.le_length, tops.depth_eq, tops.le_limit, ?_, ?_⟩
  · rw [canUndo_iff, tops.depth_eq]
  · rw [fst_pop?, tops.snapshots, List.head?_take]
    by_cases hkept : Change.keepAll limit changes = 0
    · rw [if_pos hkept, if_neg (by omega)]
    · rw [if_neg hkept, if_pos (by omega)]

end Narrative.History
