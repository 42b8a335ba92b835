import Mathlib.Logic.Relation
import Mathlib.Data.List.Perm.Subperm
import Narrative.Lint.Flow

/-!
# What the flow search finds

The search of `Lint/Flow.lean` walks the graph whose nodes are the indices of a script: `Leads` is
its edges, `Exits` its ways out. One equation for each field says what a visit does to a search
(`mem_seen_visit`, `mem_queue_visit`, `canFinish_visit`); nothing else about visits is used.

Each index enters the queue when it is first seen, so `seen.length + budget` and
`length + queue.length` stay equal (`Inv.count`), and no more indices are seen than there are. That
is why the budget of one visit for each step leaves an empty queue.

Results:
* **`mem_seen_explore_iff`**: an index is seen iff a path of the graph leads to it from 0;
* **`canFinish_explore_iff`**: the flag is set iff such a path leads to a way out;
* `found_successor`: all that a seen step leads to is found.
-/

namespace Narrative.Lint.Flow

variable {script : Script}

/-! ## The graph -/

theorem inside?_eq_some_iff {position : Position} {i : Nat} :
    inside? script position = some i ↔ position.toInt = i ∧ i < script.length := by
  unfold inside?
  rw [Option.filter_eq_some_iff, Position.index?_eq_some_iff, decide_eq_true_eq]

theorem inside?_eq_none_iff {position : Position} :
    inside? script position = none ↔ script.contains position = false := by
  unfold inside? Script.contains
  cases position.index? with
  | none => simp
  | some i => simp [Option.filter_some]

/-- A position inside a script holds the step of its index. -/
theorem step_of_inside? {position : Position} {i : Nat} (h : inside? script position = some i) :
    script.steps[i]? = some (script.get position) := by
  obtain ⟨hposition, hlt⟩ := inside?_eq_some_iff.mp h
  rw [Script.get_of_index hposition hlt]
  exact List.getElem?_eq_getElem hlt

/-- The step at `i` can lead to the step at `j`. -/
def Leads (script : Script) (i j : Nat) : Prop :=
  ∃ step, script.steps[i]? = some step ∧
    ∃ target ∈ successors i step, inside? script target = some j

/-- The step at `i` is an end, or can lead out of the script. -/
def Exits (script : Script) (i : Nat) : Prop :=
  ∃ step, script.steps[i]? = some step ∧
    (step = .finish ∨ ∃ target ∈ successors i step, inside? script target = none)

/-- A path leads from the start to `i`. -/
def Reach (script : Script) (i : Nat) : Prop := Relation.ReflTransGen (Leads script) 0 i

theorem reach_lt (nonempty : 0 < script.length) {i : Nat} (h : Reach script i) :
    i < script.length := by
  cases h with
  | refl => exact nonempty
  | tail _ hleads =>
    obtain ⟨_, _, _, _, hinside⟩ := hleads
    exact (inside?_eq_some_iff.mp hinside).2

/-! ## Discovering positions -/

namespace Search

variable {search : Search}

theorem mem_seen_discover {position : Position} {j : Nat} :
    j ∈ (discover script search position).seen ↔
      j ∈ search.seen ∨ inside? script position = some j := by
  unfold discover
  cases inside? script position with
  | none => simp
  | some i =>
    by_cases h : i ∈ search.seen
    · simp only [if_pos h, Option.some.injEq]
      constructor
      · exact Or.inl
      · rintro (hj | rfl)
        · exact hj
        · exact h
    · simp only [if_neg h, List.mem_cons, Option.some.injEq]
      rw [or_comm, eq_comm]

theorem mem_queue_discover {position : Position} {j : Nat} :
    j ∈ (discover script search position).queue ↔
      j ∈ search.queue ∨ (j ∉ search.seen ∧ inside? script position = some j) := by
  unfold discover
  cases inside? script position with
  | none => simp
  | some i =>
    by_cases h : i ∈ search.seen
    · simp only [if_pos h, Option.some.injEq]
      constructor
      · exact Or.inl
      · rintro (hj | ⟨hj, rfl⟩)
        · exact hj
        · exact absurd h hj
    · simp only [if_neg h, List.mem_append, List.mem_singleton, Option.some.injEq]
      constructor
      · rintro (hj | rfl)
        · exact Or.inl hj
        · exact Or.inr ⟨h, rfl⟩
      · rintro (hj | ⟨-, rfl⟩)
        · exact Or.inl hj
        · exact Or.inr rfl

theorem canFinish_discover {position : Position} :
    (discover script search position).canFinish = true ↔
      search.canFinish = true ∨ inside? script position = none := by
  unfold discover
  cases inside? script position with
  | none => simp
  | some i =>
    by_cases h : i ∈ search.seen
    · simp [h]
    · simp [h]

theorem nodup_discover (h : search.seen.Nodup) (position : Position) :
    (discover script search position).seen.Nodup := by
  unfold discover
  cases inside? script position with
  | none => exact h
  | some i =>
    by_cases hi : i ∈ search.seen
    · simpa [hi] using h
    · simpa [hi] using h

/-- What is discovered enters the queue when it is seen. -/
theorem length_discover (script : Script) (search : Search) (position : Position) :
    (discover script search position).seen.length + search.queue.length =
      search.seen.length + (discover script search position).queue.length := by
  unfold discover
  cases inside? script position with
  | none => rfl
  | some i =>
    by_cases h : i ∈ search.seen
    · simp [h]
    · simp only [if_neg h, List.length_cons, List.length_append, List.length_nil]
      omega

/-- Discover several positions. -/
def discoverAll (script : Script) (search : Search) (targets : List Position) : Search :=
  targets.foldl (discover script) search

@[simp] theorem discoverAll_cons (target : Position) (targets : List Position) :
    discoverAll script search (target :: targets) =
      discoverAll script (discover script search target) targets := rfl

theorem mem_seen_discoverAll {targets : List Position} {j : Nat} :
    j ∈ (discoverAll script search targets).seen ↔
      j ∈ search.seen ∨ ∃ target ∈ targets, inside? script target = some j := by
  induction targets generalizing search with
  | nil => simp [discoverAll]
  | cons target targets ih =>
    rw [discoverAll_cons, ih, mem_seen_discover, or_assoc]
    simp

theorem mem_queue_discoverAll {targets : List Position} {j : Nat} :
    j ∈ (discoverAll script search targets).queue ↔
      j ∈ search.queue ∨
        (j ∉ search.seen ∧ ∃ target ∈ targets, inside? script target = some j) := by
  induction targets generalizing search with
  | nil => simp [discoverAll]
  | cons target targets ih =>
    rw [discoverAll_cons, ih, mem_queue_discover, mem_seen_discover]
    by_cases hj : j ∈ search.seen
    · simp [hj]
    · by_cases htarget : inside? script target = some j
      · simp [hj, htarget]
      · simp [hj, htarget]

theorem canFinish_discoverAll {targets : List Position} :
    (discoverAll script search targets).canFinish = true ↔
      search.canFinish = true ∨ ∃ target ∈ targets, inside? script target = none := by
  induction targets generalizing search with
  | nil => simp [discoverAll]
  | cons target targets ih =>
    rw [discoverAll_cons, ih, canFinish_discover, or_assoc]
    simp

theorem nodup_discoverAll (h : search.seen.Nodup) (targets : List Position) :
    (discoverAll script search targets).seen.Nodup := by
  induction targets generalizing search with
  | nil => exact h
  | cons target targets ih => exact ih (nodup_discover h target)

theorem length_discoverAll (script : Script) (search : Search) (targets : List Position) :
    (discoverAll script search targets).seen.length + search.queue.length =
      search.seen.length + (discoverAll script search targets).queue.length := by
  induction targets generalizing search with
  | nil => rfl
  | cons target targets ih =>
    have hfirst := length_discover script search target
    have hrest := ih (discover script search target)
    rw [discoverAll_cons]
    omega

/-! ## Visiting an index -/

/-- A visit discovers the successors of a step; only an end is a way out by itself. -/
theorem visit_eq (search : Search) (i : Nat) :
    visit script search i =
      match script.steps[i]? with
      | some step =>
        { discoverAll script search (successors i step) with
          canFinish := (discoverAll script search (successors i step)).canFinish ||
            decide (step = .finish) }
      | none => search := by
  unfold visit discoverAll
  cases script.steps[i]? with
  | none => rfl
  | some step => cases step <;> simp [successors]

theorem mem_seen_visit {i j : Nat} :
    j ∈ (visit script search i).seen ↔ j ∈ search.seen ∨ Leads script i j := by
  rw [visit_eq]
  unfold Leads
  cases script.steps[i]? with
  | none => simp
  | some step => simp [mem_seen_discoverAll]

theorem mem_queue_visit {i j : Nat} :
    j ∈ (visit script search i).queue ↔
      j ∈ search.queue ∨ (j ∉ search.seen ∧ Leads script i j) := by
  rw [visit_eq]
  unfold Leads
  cases script.steps[i]? with
  | none => simp
  | some step => simp [mem_queue_discoverAll]

theorem canFinish_visit {i : Nat} :
    (visit script search i).canFinish = true ↔ search.canFinish = true ∨ Exits script i := by
  rw [visit_eq]
  unfold Exits
  cases script.steps[i]? with
  | none => simp
  | some step =>
    simp only [Bool.or_eq_true, canFinish_discoverAll, decide_eq_true_eq, Option.some.injEq,
      exists_eq_left']
    rw [or_assoc, or_comm (a := step = .finish)]

theorem nodup_visit (h : search.seen.Nodup) (i : Nat) : (visit script search i).seen.Nodup := by
  rw [visit_eq]
  cases script.steps[i]? with
  | none => exact h
  | some step => exact nodup_discoverAll h _

theorem length_visit (script : Script) (search : Search) (i : Nat) :
    (visit script search i).seen.length + search.queue.length =
      search.seen.length + (visit script search i).queue.length := by
  rw [visit_eq]
  cases script.steps[i]? with
  | none => rfl
  | some step => exact length_discoverAll script search _

/-! ## The invariant -/

/-- What holds of a search under way that may visit `budget` more indices: it has seen indices that
paths lead to, and of those that no longer wait in the queue it knows all that they lead to. -/
structure Inv (script : Script) (budget : Nat) (search : Search) : Prop where
  root : 0 ∈ search.seen
  reach : ∀ i ∈ search.seen, Reach script i
  nodup : search.seen.Nodup
  queued : ∀ i ∈ search.queue, i ∈ search.seen
  closed : ∀ i ∈ search.seen, i ∉ search.queue → ∀ j, Leads script i j → j ∈ search.seen
  exits : ∀ i ∈ search.seen, i ∉ search.queue → Exits script i → search.canFinish = true
  finish : search.canFinish = true → ∃ i, Reach script i ∧ Exits script i
  count : search.seen.length + budget = script.length + search.queue.length

theorem inv_start (script : Script) : Inv script script.length ⟨[0], [0], false⟩ where
  root := List.mem_singleton.mpr rfl
  reach i hi := List.mem_singleton.mp hi ▸ Relation.ReflTransGen.refl
  nodup := by simp
  queued _ hi := hi
  closed _ hi hnot := absurd hi hnot
  exits _ hi hnot := absurd hi hnot
  finish h := absurd h Bool.false_ne_true
  count := by simp [Nat.add_comm]

/-- **A visit keeps the invariant** and uses up one unit of the budget. -/
theorem inv_visit {budget i : Nat} {queue : List Nat}
    (inv : Inv script (budget + 1) { search with queue := i :: queue }) :
    Inv script budget (visit script { search with queue } i) := by
  have hi : i ∈ search.seen := inv.queued i List.mem_cons_self
  -- what waits after the visit waited before it, or was not seen before it
  have hold : ∀ j, j ∉ (visit script { search with queue } i).queue → j ≠ i → j ∉ i :: queue := by
    intro j hnot hne hmem
    rcases List.mem_cons.mp hmem with rfl | hmem
    · exact hne rfl
    · exact hnot (mem_queue_visit.mpr (Or.inl hmem))
  have hnodup : ({ search with queue } : Search).seen.Nodup := inv.nodup
  have hnew : ∀ j ∈ (visit script { search with queue } i).seen,
      j ∉ (visit script { search with queue } i).queue → j ∈ search.seen := by
    intro j hj hnot
    rcases mem_seen_visit.mp hj with hj | hleads
    · exact hj
    · by_contra hunseen
      exact hnot (mem_queue_visit.mpr (Or.inr ⟨hunseen, hleads⟩))
  refine ⟨mem_seen_visit.mpr (Or.inl inv.root), ?_, nodup_visit hnodup i, ?_, ?_, ?_, ?_, ?_⟩
  · intro j hj
    rcases mem_seen_visit.mp hj with hj | hleads
    · exact inv.reach j hj
    · exact (inv.reach i hi).tail hleads
  · intro j hj
    rcases mem_queue_visit.mp hj with hj | ⟨-, hleads⟩
    · exact mem_seen_visit.mpr (Or.inl (inv.queued j (List.mem_cons_of_mem i hj)))
    · exact mem_seen_visit.mpr (Or.inr hleads)
  · intro j hj hnot k hleads
    rcases eq_or_ne j i with rfl | hne
    · exact mem_seen_visit.mpr (Or.inr hleads)
    · have hseen := hnew j hj hnot
      exact mem_seen_visit.mpr (Or.inl (inv.closed j hseen (hold j hnot hne) k hleads))
  · intro j hj hnot hexits
    rcases eq_or_ne j i with rfl | hne
    · exact canFinish_visit.mpr (Or.inr hexits)
    · have hseen := hnew j hj hnot
      exact canFinish_visit.mpr (Or.inl (inv.exits j hseen (hold j hnot hne) hexits))
  · intro h
    rcases canFinish_visit.mp h with h | hexits
    · exact inv.finish h
    · exact ⟨i, inv.reach i hi, hexits⟩
  · have hcount := inv.count
    have hlength := length_visit script { search with queue } i
    simp only [List.length_cons] at hcount hlength
    omega

/-- No more indices are seen than there are steps. -/
theorem Inv.length_seen_le {budget : Nat} (nonempty : 0 < script.length)
    (inv : Inv script budget search) : search.seen.length ≤ script.length := by
  have hsubset : search.seen ⊆ List.range script.length := fun i hi =>
    List.mem_range.mpr (reach_lt nonempty (inv.reach i hi))
  calc search.seen.length ≤ (List.range script.length).length :=
        (inv.nodup.subperm hsubset).length_le
    _ = script.length := List.length_range

/-- Nothing waits once the budget is used up. -/
theorem Inv.queue_eq_nil (nonempty : 0 < script.length) (inv : Inv script 0 search) :
    search.queue = [] := by
  have hcount := inv.count
  have hseen := inv.length_seen_le nonempty
  exact List.length_eq_zero_iff.mp (by omega)

/-- **The budget suffices**: the search runs until nothing waits, and keeps the invariant. -/
theorem inv_run (nonempty : 0 < script.length) {budget : Nat} (inv : Inv script budget search) :
    ∃ left, Inv script left (run script budget search) ∧ (run script budget search).queue = [] := by
  induction budget generalizing search with
  | zero => exact ⟨0, inv, inv.queue_eq_nil nonempty⟩
  | succ budget ih =>
    unfold run
    cases hqueue : search.queue with
    | nil => exact ⟨budget + 1, inv, hqueue⟩
    | cons i queue =>
      have hsearch : { search with queue := i :: queue } = search := by rw [← hqueue]
      exact ih (inv_visit (hsearch ▸ inv))

end Search

/-! ## What the search finds -/

/-- The search ends with nothing waiting. -/
theorem inv_explore (nonempty : 0 < script.length) :
    ∃ left, (explore script).Inv script left ∧ (explore script).queue = [] :=
  Search.inv_run nonempty (Search.inv_start script)

/-- What a seen index leads to is seen. -/
theorem mem_seen_of_leads (nonempty : 0 < script.length) {i j : Nat}
    (hi : i ∈ (explore script).seen) (hleads : Leads script i j) : j ∈ (explore script).seen := by
  obtain ⟨_, inv, hqueue⟩ := inv_explore nonempty
  exact inv.closed i hi (by rw [hqueue]; exact List.not_mem_nil) j hleads

/-- A way out of a seen index is noticed. -/
theorem canFinish_of_exits (nonempty : 0 < script.length) {i : Nat}
    (hi : i ∈ (explore script).seen) (hexits : Exits script i) :
    (explore script).canFinish = true := by
  obtain ⟨_, inv, hqueue⟩ := inv_explore nonempty
  exact inv.exits i hi (by rw [hqueue]; exact List.not_mem_nil) hexits

/-- **The search sees exactly the indices that paths lead to.** -/
theorem mem_seen_explore_iff (nonempty : 0 < script.length) {i : Nat} :
    i ∈ (explore script).seen ↔ Reach script i := by
  obtain ⟨_, inv, -⟩ := inv_explore nonempty
  constructor
  · exact inv.reach i
  · intro h
    induction h with
    | refl => exact inv.root
    | tail _ hleads ih => exact mem_seen_of_leads nonempty ih hleads

/-- **The search notices exactly the ways out that paths lead to.** -/
theorem canFinish_explore_iff (nonempty : 0 < script.length) :
    (explore script).canFinish = true ↔ ∃ i, Reach script i ∧ Exits script i := by
  obtain ⟨_, inv, -⟩ := inv_explore nonempty
  constructor
  · exact inv.finish
  · rintro ⟨i, hreach, hexits⟩
    exact canFinish_of_exits nonempty ((mem_seen_explore_iff nonempty).mpr hreach) hexits

/-! ## Found positions -/

/-- What the search would note of a position is noted. -/
def Found (script : Script) (position : Position) : Prop :=
  match inside? script position with
  | some i => i ∈ (explore script).seen
  | none => (explore script).canFinish = true

theorem found_of_inside? {position : Position} {i : Nat} (h : inside? script position = some i) :
    Found script position ↔ i ∈ (explore script).seen := by
  unfold Found
  rw [h]

theorem found_of_outside {position : Position} (h : inside? script position = none) :
    Found script position ↔ (explore script).canFinish = true := by
  unfold Found
  rw [h]

/-- **All successors of a seen step are found.** -/
theorem found_successor (nonempty : 0 < script.length) {i : Nat} {step : Step} {target : Position}
    (hi : i ∈ (explore script).seen) (hstep : script.steps[i]? = some step)
    (htarget : target ∈ successors i step) : Found script target := by
  cases hinside : inside? script target with
  | some j =>
    have hleads : Leads script i j := ⟨step, hstep, target, htarget, hinside⟩
    exact (found_of_inside? hinside).mpr (mem_seen_of_leads nonempty hi hleads)
  | none =>
    have hexits : Exits script i := ⟨step, hstep, Or.inr ⟨target, htarget, hinside⟩⟩
    exact (found_of_outside hinside).mpr (canFinish_of_exits nonempty hi hexits)

/-- A found position that reads as the end is a way out. -/
theorem canFinish_of_found_end (nonempty : 0 < script.length) {position : Position}
    (hfound : Found script position) (hend : script.get position = .finish) :
    (explore script).canFinish = true := by
  cases hinside : inside? script position with
  | some i =>
    have hstep := step_of_inside? hinside
    rw [hend] at hstep
    exact canFinish_of_exits nonempty ((found_of_inside? hinside).mp hfound)
      ⟨.finish, hstep, Or.inl rfl⟩
  | none => exact (found_of_outside hinside).mp hfound

/-- The start of a script with steps is found. -/
theorem found_start (nonempty : 0 < script.length) : Found script 0 := by
  have hinside : inside? script 0 = some 0 := inside?_eq_some_iff.mpr ⟨rfl, nonempty⟩
  exact (found_of_inside? hinside).mpr
    ((mem_seen_explore_iff nonempty).mpr Relation.ReflTransGen.refl)

end Narrative.Lint.Flow
