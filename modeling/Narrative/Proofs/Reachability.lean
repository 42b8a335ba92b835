import Mathlib.Data.List.Chain
import Narrative.Proofs.Exploration

/-!
# Reachability

The search runs on a budget, and `Exploration.lean` says what it finds by a relation between
indices. Here both are compared with what they stand for: the loop that goes on until nothing is
queued (`Search.Visits`), and lists of indices of which each names the next one as a position to go
on to (`IsPath`).

Each unit of the budget is one turn of the loop, and the invariant of the search keeps the indices
it visits in the script and empties the queue before the budget is used up (`exists_visits`).

Result:
* **`explore_is_reachability`**: the loop ends and only looks up steps of the script, an index is
  found iff a path ends at it, and the flag is set iff a found index is an end or a way out.
-/

namespace Narrative.Lint.Flow

variable {script : Script}

/-! ## The loop -/

namespace Search

variable {search : Search}

/-- The turns of a search that goes on until nothing is queued: the indices it visits, and the
search it ends with. -/
inductive Visits (script : Script) : Search → List Nat → Search → Prop
  | done {search : Search} (empty : search.queue = []) : Visits script search [] search
  | turn {search final : Search} {i : Nat} {queue visited : List Nat}
      (first : search.queue = i :: queue)
      (rest : Visits script (visit script { search with queue } i) visited final) :
      Visits script search (i :: visited) final

/-- **The search within its budget is the loop**, which visits indices of the script. -/
theorem exists_visits (nonempty : 0 < script.length) {budget : Nat}
    (inv : Inv script budget search) :
    ∃ visited, Visits script search visited (run script budget search) ∧
      visited.length ≤ budget ∧ ∀ i ∈ visited, i < script.length := by
  induction budget generalizing search with
  | zero =>
    have hempty := inv.queue_eq_nil nonempty
    exact ⟨[], .done hempty, Nat.le_refl 0, fun _ hi => absurd hi List.not_mem_nil⟩
  | succ budget ih =>
    unfold run
    cases hqueue : search.queue with
    | nil =>
      exact ⟨[], .done hqueue, Nat.zero_le _, fun _ hi => absurd hi List.not_mem_nil⟩
    | cons i queue =>
      have hsearch : { search with queue := i :: queue } = search := by rw [← hqueue]
      obtain ⟨visited, hvisits, hlength, hinside⟩ := ih (inv_visit (hsearch ▸ inv))
      refine ⟨i :: visited, .turn hqueue hvisits, Nat.succ_le_succ hlength, ?_⟩
      intro j hj
      rcases List.mem_cons.mp hj with rfl | hj
      · have hseen : j ∈ search.seen := inv.queued j (hqueue ▸ List.mem_cons_self)
        exact reach_lt nonempty (inv.reach j hseen)
      · exact hinside j hj

end Search

/-! ## Paths -/

/-- The step at `i` has a position as a successor, inside the script or not. -/
def GoesTo (script : Script) (i : Nat) (target : Position) : Prop :=
  ∃ step, script.steps[i]? = some step ∧ target ∈ successors i step

/-- A list of indices is a path from the start of a script to `last`. -/
structure IsPath (script : Script) (path : List Nat) (last : Nat) : Prop where
  starts : path.head? = some 0
  ends : path.getLast? = some last
  inside : ∀ i ∈ path, i < script.length
  along : path.IsChain fun i j => ∃ target, GoesTo script i target ∧ target.toInt = j

theorem leads_iff {i j : Nat} :
    Leads script i j ↔
      (∃ target, GoesTo script i target ∧ target.toInt = j) ∧ j < script.length := by
  unfold Leads GoesTo
  simp only [inside?_eq_some_iff]
  constructor
  · rintro ⟨step, hstep, target, htarget, hposition, hlt⟩
    exact ⟨⟨target, ⟨step, hstep, htarget⟩, hposition⟩, hlt⟩
  · rintro ⟨⟨target, ⟨step, hstep, htarget⟩, hposition⟩, hlt⟩
    exact ⟨step, hstep, target, htarget, hposition, hlt⟩

theorem inside?_eq_none_iff_not {position : Position} :
    inside? script position = none ↔
      ¬ (0 ≤ position.toInt ∧ position.toInt < script.length) := by
  rw [inside?_eq_none_iff, ← Script.contains_iff, Bool.not_eq_true]

theorem exits_iff {i : Nat} :
    Exits script i ↔ script.steps[i]? = some .finish ∨
      ∃ target, GoesTo script i target ∧
        ¬ (0 ≤ target.toInt ∧ target.toInt < script.length) := by
  unfold Exits GoesTo
  simp only [inside?_eq_none_iff_not]
  constructor
  · rintro ⟨step, hstep, rfl | ⟨target, htarget, houtside⟩⟩
    · exact Or.inl hstep
    · exact Or.inr ⟨target, ⟨step, hstep, htarget⟩, houtside⟩
  · rintro (hstep | ⟨target, ⟨step, hstep, htarget⟩, houtside⟩)
    · exact ⟨.finish, hstep, Or.inl rfl⟩
    · exact ⟨step, hstep, Or.inr ⟨target, htarget, houtside⟩⟩

/-- **The relation of the search is that there is a path.** -/
theorem reach_iff_exists_path (nonempty : 0 < script.length) {i : Nat} :
    Reach script i ↔ ∃ path, IsPath script path i := by
  constructor
  · intro h
    obtain ⟨path, hne, hchain, hhead, hlast⟩ :=
      List.exists_isChain_ne_nil_of_relationReflTransGen h
    refine ⟨path, ?_, ?_, ?_, ?_⟩
    · rw [List.head?_eq_some_head hne, hhead]
    · rw [List.getLast?_eq_some_getLast hne, hlast]
    · refine hchain.induction (· < script.length) path ?_ ?_
      · intro j k hleads _
        exact (leads_iff.mp hleads).2
      · intro _
        exact hhead ▸ nonempty
    · exact hchain.imp fun j k hleads => (leads_iff.mp hleads).1
  · rintro ⟨path, hpath⟩
    have hne : path ≠ [] := List.ne_nil_of_mem (List.mem_of_getLast? hpath.ends)
    have hchain : path.IsChain (Leads script) := by
      refine hpath.along.imp_of_mem_imp fun j k _ hk hgoes => ?_
      exact leads_iff.mpr ⟨hgoes, hpath.inside k hk⟩
    have hreach := List.relationReflTransGen_of_exists_isChain path hchain hne
    rwa [List.head_of_head?_eq_some hpath.starts, List.getLast_of_getLast?_eq_some hpath.ends]
      at hreach

/-! ## The search -/

/-- **The search computes reachability.** For a script with steps, the loop from its start goes on
until nothing is queued, after no more turns than there are steps, and each index it visits is one
of the script. It ends with the search that has found exactly the indices at the ends of paths, and
has set the flag iff some found index is an end or has a successor outside the script. -/
theorem explore_is_reachability (script : Script) (nonempty : 0 < script.length) :
    (∃ visited, Search.Visits script ⟨[0], [0], false⟩ visited (explore script) ∧
      visited.length ≤ script.length ∧ ∀ i ∈ visited, i < script.length) ∧
    (∀ i, i ∈ (explore script).seen ↔ ∃ path, IsPath script path i) ∧
    ((explore script).canFinish = true ↔
      ∃ i ∈ (explore script).seen, script.steps[i]? = some .finish ∨
        ∃ target, GoesTo script i target ∧
          ¬ (0 ≤ target.toInt ∧ target.toInt < script.length)) := by
  refine ⟨Search.exists_visits nonempty (Search.inv_start script), ?_, ?_⟩
  · intro i
    rw [mem_seen_explore_iff nonempty, reach_iff_exists_path nonempty]
  · rw [canFinish_explore_iff nonempty]
    simp only [mem_seen_explore_iff nonempty, exits_iff]

/-- Options that lead back, twice, out of the script and to a branch that leads on or back; a line
that nothing leads to; and a jump back to the branch. -/
def roundabout : Script :=
  ⟨[.choice "Which way?" [⟨"Round", 0⟩, ⟨"Round again", 0⟩, ⟨"Away", -1⟩, ⟨"On", 2⟩],
    .say .narrator "Never heard.", .branch .lastResult (.ofList [(.win, 0)]), .goto 2]⟩

/-- A path leads past the branch to the jump, none to the line, and the option away is noticed. -/
theorem explore_is_reachability_roundabout :
    0 < roundabout.length ∧
    (∃ visited, Search.Visits roundabout ⟨[0], [0], false⟩ visited (explore roundabout) ∧
      visited.length ≤ roundabout.length) ∧
    (∃ path, IsPath roundabout path 3) ∧ (¬ ∃ path, IsPath roundabout path 1) ∧
    ∃ i ∈ (explore roundabout).seen, roundabout.steps[i]? = some .finish ∨
      ∃ target, GoesTo roundabout i target ∧
        ¬ (0 ≤ target.toInt ∧ target.toInt < roundabout.length) := by
  have nonempty : 0 < roundabout.length := by decide
  obtain ⟨⟨visited, hvisits, hlength, -⟩, hseen, hfinish⟩ :=
    explore_is_reachability roundabout nonempty
  refine ⟨nonempty, ⟨visited, hvisits, hlength⟩, (hseen 3).mp (by decide), ?_,
    hfinish.mp (by decide)⟩
  intro hpath
  exact absurd ((hseen 1).mpr hpath) (by decide)

end Narrative.Lint.Flow
