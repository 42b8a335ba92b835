import Narrative.State

/-!
# Undo history

A bounded stack of states. Pushing past the limit drops the oldest snapshot; with limit 0 nothing is
ever kept. The number of snapshots is stored, so a push onto a stack with room takes one step.

Headlines: `snapshots_push` (a push keeps the newest `limit` of the snapshots), `pop?_eq_none_iff`,
`pop?_eq_some_iff`, and `History.ext` (the snapshots and the limit determine a history).
-/

namespace Narrative

/-- Snapshots for undo, newest first, and how many are kept. -/
structure History where
  snapshots : List State
  limit : Nat
  /-- the number of snapshots -/
  depth : Nat
  depth_eq : depth = snapshots.length
  depth_le : depth ≤ limit
  deriving DecidableEq

namespace History

/-- How many snapshots are kept where no limit is given. -/
def usualLimit : Nat := 100

/-- The history without snapshots, for a limit. -/
def empty (limit : Nat) : History := ⟨[], limit, 0, rfl, Nat.zero_le limit⟩

/-- The snapshots and the limit determine a history. -/
theorem ext {a b : History} (snapshots : a.snapshots = b.snapshots) (limit : a.limit = b.limit) :
    a = b := by
  obtain ⟨xs, n, d, hd, _⟩ := a
  obtain ⟨ys, m, e, he, _⟩ := b
  cases snapshots
  cases limit
  cases hd
  cases he
  rfl

/-- A history holds no more snapshots than its limit. -/
theorem length_snapshots_le (history : History) : history.snapshots.length ≤ history.limit :=
  history.depth_eq ▸ history.depth_le

/-- Whether there is a snapshot to go back to. -/
def canUndo (history : History) : Bool := !history.snapshots.isEmpty

/-- Add a snapshot, dropping the oldest one if the history is full. -/
def push (history : History) (state : State) : History :=
  if room : history.depth < history.limit then
    { history with
      snapshots := state :: history.snapshots
      depth := history.depth + 1
      depth_eq := congrArg (· + 1) history.depth_eq
      depth_le := room }
  else
    { history with
      snapshots := (state :: history.snapshots).take history.limit
      depth := history.limit
      depth_eq := by have := history.depth_eq; simp [List.length_take]; omega
      depth_le := Nat.le_refl _ }

/-- A push keeps the newest snapshots, as many as the limit admits. -/
@[simp] theorem snapshots_push (history : History) (state : State) :
    (history.push state).snapshots = (state :: history.snapshots).take history.limit := by
  have := history.depth_eq
  unfold push
  split
  · exact (List.take_of_length_le (by simp; omega)).symm
  · rfl

@[simp] theorem limit_push (history : History) (state : State) :
    (history.push state).limit = history.limit := by
  unfold push; split <;> rfl

/-- The newest snapshot and the history without it. -/
def pop? (history : History) : Option (State × History) :=
  match kept : history.snapshots with
  | [] => none
  | state :: older => some (state,
      { history with
        snapshots := older
        depth := history.depth - 1
        depth_eq := by have := history.depth_eq; simp [kept] at this; omega
        depth_le := Nat.le_trans (Nat.sub_le _ _) history.depth_le })

/-- Only an empty history gives nothing back. -/
theorem pop?_eq_none_iff {history : History} : history.pop? = none ↔ history.snapshots = [] := by
  unfold pop?
  split <;> simp_all

/-- What comes back is the newest snapshot, and the rest stays. -/
theorem pop?_eq_some_iff {history older : History} {state : State} :
    history.pop? = some (state, older) ↔
      history.snapshots = state :: older.snapshots ∧ older.limit = history.limit := by
  unfold pop?
  split
  · simp_all
  · rename_i s rest kept
    simp only [Option.some.injEq, Prod.mk.injEq, kept, List.cons.injEq]
    constructor
    · rintro ⟨rfl, rfl⟩; exact ⟨⟨rfl, rfl⟩, rfl⟩
    · rintro ⟨⟨rfl, hrest⟩, hlimit⟩; exact ⟨rfl, ext hrest hlimit.symm⟩

/-- Forget every snapshot. -/
def clear (history : History) : History := empty history.limit

end History

end Narrative
