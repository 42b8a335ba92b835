import Narrative.Proofs.Mirrors
import Narrative.Proofs.ProtocolLint

/-!
# Scripts that await no result

A result is recorded where it is awaited. If no step of a script awaits one, then a session that
starts the script never holds a result, and neither do its snapshots. Every branch then falls through
to the next index, whatever it maps: the script is as good as the one that maps nothing
(`Script.unmapped`), and all scripts that agree with it up to their arms look the same.

Falling through moves forward, so chains of branches end at the last step at the latest.

Results:
* `keeps_unrecorded`: no move of a director records a result;
* `mirrors_unmapped`: where nothing is recorded, the arms of a script are not read;
* `not_endless_of_unrecorded`: where nothing is recorded, branches do not go round;
* **`unawaited_arms_are_unread`**: no series of calls can tell what the branches map.
-/

namespace Narrative

/-! ## Scripts without their arms -/

/-- The step without what it maps, if it is a branch. -/
def Step.unmapped : Step → Step
  | .branch var _ => .branch var .empty
  | step => step

@[simp] theorem Step.kind_unmapped (step : Step) : step.unmapped.kind = step.kind := by
  cases step <;> rfl

theorem Step.unmapped_of_kind_ne {step : Step} (h : step.kind ≠ .branch) : step.unmapped = step := by
  cases step with
  | branch var arms => exact absurd rfl h
  | _ => rfl

namespace Script

variable {script : Script} {state : State}

/-- The script in which no branch maps anything. -/
def unmapped (script : Script) : Script := ⟨script.steps.map Step.unmapped⟩

@[simp] theorem get_unmapped (script : Script) (position : Position) :
    script.unmapped.get position = (script.get position).unmapped := by
  unfold get unmapped
  cases position.index? with
  | none => rfl
  | some i =>
    rw [Option.bind_some, Option.bind_some, List.getElem?_map]
    cases script.steps[i]? <;> rfl

/-- No step of the script waits for a result. -/
def Unawaited (script : Script) : Prop := ∀ step ∈ script.steps, step.kind ≠ .awaitResult

theorem unawaited_unmapped_iff : script.unmapped.Unawaited ↔ script.Unawaited := by
  simp [Unawaited, unmapped]

/-- Neither does any position. -/
theorem Unawaited.kind_get (unawaited : script.Unawaited) (position : Position) :
    (script.get position).kind ≠ .awaitResult := by
  intro hwaits
  obtain ⟨i, var, -, hstep⟩ := Lint.Protocol.exists_await hwaits
  exact unawaited _ (List.mem_of_getElem? hstep) rfl

/-! ## Where nothing is recorded -/

/-- A branch falls through. -/
theorem resolve?_of_unrecorded (unrecorded : state.lastResult = none) (h : script.OnBranch state) :
    script.resolve? state = some (.goto state.position.next) := by
  have hrecorded : ∀ var, state.recorded var = none := by
    rintro ⟨⟩
    exact unrecorded
  unfold OnBranch at h
  unfold resolve?
  cases hstep : script.get state.position with
  | branch var arms => simp only [hrecorded, Option.bind_none, Option.getD_none]
  | _ => simp [hstep, Step.kind] at h

/-- **The arms of a script are not read.** -/
theorem mirrors_unmapped (script : Script) :
    script.Mirrors script.unmapped fun state => state.lastResult = none where
  length_eq := List.length_map _
  resolve_eq state unrecorded := by
    have hbranch : script.unmapped.OnBranch state ↔ script.OnBranch state := by
      unfold OnBranch
      rw [get_unmapped, Step.kind_unmapped]
    by_cases h : script.OnBranch state
    · rw [resolve?_of_unrecorded unrecorded h, resolve?_of_unrecorded unrecorded (hbranch.mpr h)]
    · rw [resolve?_eq_none_iff.mpr h, resolve?_eq_none_iff.mpr (mt hbranch.mp h)]
  get_eq state _ h := by
    rw [get_unmapped]
    exact Step.unmapped_of_kind_ne h

/-- **Nothing is ever recorded** where no result is awaited. -/
theorem keeps_unrecorded (unawaited : script.Unawaited) :
    script.Keeps fun state => state.lastResult = none where
  resolved state unrecorded := by
    rw [lastResult_resolved]
    exact unrecorded
  result director _ hscript _ waits := by
    subst hscript
    exact absurd waits (unawaited.kind_get director.position)
  go director request next hscript unrecorded hgo := by
    subst hscript
    cases Request.verdict_eq_go_iff.mp hgo with
    | advance _ => exact unrecorded
    | jump _ => exact unrecorded
    | pick _ _ => exact unrecorded
    | record waits => exact absurd waits (unawaited.kind_get director.position)

/-- Falling through moves one position forward. -/
theorem toInt_resolved_of_unrecorded (fits : (script.length : Int) ≤ Int64.maxValue.toInt)
    (unrecorded : state.lastResult = none) (h : script.OnBranch state) :
    (script.resolved state).position.toInt = state.position.toInt + 1 := by
  have hposition : (script.resolved state).position = state.position.next := by
    rw [resolved_of_resolve? (resolve?_of_unrecorded unrecorded h)]
    rfl
  have hinside := contains_iff.mp h.contains
  rw [hposition, Position.toInt_next]
  omega

/-- **Branches do not go round**: each leads further, and the last one out of the script. -/
theorem not_endless_of_unrecorded (fits : (script.length : Int) ≤ Int64.maxValue.toInt)
    (unrecorded : state.lastResult = none) : ¬ script.Endless state := by
  intro endless
  have hfurther : ∀ n : Nat,
      (script.resolved^[n] state).position.toInt = state.position.toInt + n := by
    intro n
    induction n with
    | zero => simp
    | succ n ih =>
      have hnone : (script.resolved^[n] state).lastResult = none := by
        rw [script.walk_resolved.lastResult_iterate, unrecorded]
      rw [Function.iterate_succ_apply', toInt_resolved_of_unrecorded fits hnone (endless n), ih]
      push_cast
      omega
  have hfirst := contains_iff.mp (endless 0).contains
  have hlast := contains_iff.mp (endless script.length).contains
  rw [Function.iterate_zero_apply] at hfirst
  rw [hfurther script.length] at hlast
  omega

end Script

/-! ## Sessions -/

namespace Session

variable {script : Script}

theorem tended_unrecorded (unawaited : script.Unawaited) (calls : List Call) :
    Tended (fun state => state.lastResult = none) ((fresh script).afterAll calls) := by
  have keeps : (fresh script).script.Keeps fun state => state.lastResult = none :=
    Script.keeps_unrecorded unawaited
  exact tended_afterAll keeps (tended_fresh rfl) calls

/-- **Calls look the same without the arms.** -/
theorem fresh_unmapped (unawaited : script.Unawaited) (calls : List Call) :
    (fresh script.unmapped).views calls = (fresh script).views calls ∧
      ∀ call, ((fresh script.unmapped).afterAll calls).passes call =
        ((fresh script).afterAll calls).passes call := by
  have keeps := Script.keeps_unrecorded unawaited
  have mirrors := script.mirrors_unmapped
  have hfresh : Mirrored script script.unmapped (fun state => state.lastResult = none)
      (fresh script) (fresh script.unmapped) := ⟨rfl, tended_fresh rfl, rfl⟩
  exact ⟨views_of_mirrored keeps mirrors hfresh calls, fun call =>
    passes_of_mirrored keeps mirrors (hfresh.calls keeps mirrors calls) call⟩

/-- No call runs into a cycle of branches. -/
theorem answer_ne_branchCycle (fits : (script.length : Int) ≤ Int64.maxValue.toInt)
    (unawaited : script.Unawaited) (calls : List Call) (call : Call) (position : Position) :
    ((fresh script).afterAll calls).answer call ≠ some (.error (.branchCycle position)) := by
  intro hcycle
  have hendless := endless_after_cycle hcycle
  have hafter : (((fresh script).afterAll calls).after call).state.lastResult = none := by
    have keeps := Script.keeps_unrecorded unawaited
    refine (tended_after ?_ (tended_unrecorded unawaited calls) call).state
    rw [script_afterAll]
    exact keeps
  rw [script_afterAll, script_fresh] at hendless
  exact Script.not_endless_of_unrecorded fits hafter hendless

/-- **A script that awaits no result does not read its arms.** For a script that positions can count
and of which no step awaits a result, and for any script that differs from it in the arms of its
branches only: all series of calls made of sessions that start the two scripts get the same answers
and leave the same states, and the directors are in the same states in the course of each call. No
result is ever recorded, no call is refused for a cycle of branches, and each branch has the warning
of the protocol checks that says so. -/
theorem unawaited_arms_are_unread (script other : Script)
    (fits : (script.length : Int) ≤ Int64.maxValue.toInt)
    (unawaited : ∀ step ∈ script.steps, step.kind ≠ .awaitResult)
    (alike : other.unmapped = script.unmapped) (calls : List Call) :
    (fresh other).views calls = (fresh script).views calls ∧
    (∀ call, ((fresh other).afterAll calls).passes call =
      ((fresh script).afterAll calls).passes call) ∧
    (∀ call, ∀ state ∈ ((fresh script).afterAll calls).passes call, state.lastResult = none) ∧
    (∀ call position,
      ((fresh script).afterAll calls).answer call ≠ some (.error (.branchCycle position))) ∧
    ∀ (config : Lint.ProtocolConfig) (i : Nat) (var : Variable) (arms : Arms),
      config.enabled = true → script.steps[i]? = some (.branch var arms) →
      Lint.Issue.ofStep .warning Lint.Protocol.category i
        ("branches on " ++ Variable.names.name var ++ " but no step awaits a result into it") ∈
          Lint.Protocol.check config script := by
  have hother : other.Unawaited := by
    rw [← Script.unawaited_unmapped_iff, alike, Script.unawaited_unmapped_iff]
    exact unawaited
  obtain ⟨hviews, hpasses⟩ := fresh_unmapped unawaited calls
  obtain ⟨hviews', hpasses'⟩ := fresh_unmapped hother calls
  rw [alike] at hviews' hpasses'
  refine ⟨hviews'.symm.trans hviews, fun call => (hpasses' call).symm.trans (hpasses call), ?_,
    answer_ne_branchCycle fits unawaited calls, ?_⟩
  · intro call
    refine forall_passes ?_ (tended_unrecorded unawaited calls) call
    rw [script_afterAll]
    exact Script.keeps_unrecorded unawaited
  · intro config i var arms enabled hstep
    exact Lint.Protocol.mem_check_of_not_writes enabled hstep
      (Lint.Protocol.writes_eq_false unawaited var)

/-- Talk about a game that nobody plays. -/
def tableTalk : Script :=
  ⟨[.say .ivan "Suppose you had won.", .branch .lastResult ⟨some 0, some 2, none, none⟩,
    .say .narrator "Nobody plays."]⟩

/-- The same talk with a branch that leads to itself and out of the script. -/
def otherTalk : Script :=
  ⟨[.say .ivan "Suppose you had won.", .branch .lastResult ⟨some 1, none, some (-7), none⟩,
    .say .narrator "Nobody plays."]⟩

/-- Both talks go on with the last line. Only a result that was recorded elsewhere tells them
apart. -/
theorem unawaited_arms_are_unread_tableTalk :
    (tableTalk.length : Int) ≤ Int64.maxValue.toInt ∧
    (∀ step ∈ tableTalk.steps, step.kind ≠ .awaitResult) ∧
    otherTalk.unmapped = tableTalk.unmapped ∧
    (∀ calls, (fresh otherTalk).views calls = (fresh tableTalk).views calls) ∧
    (fresh tableTalk).answer (.ask .proceed) =
      some (.ok (.dialogue .narrator "Nobody plays.")) ∧
    (⟨⟨otherTalk, ⟨1, some .win⟩, .standard⟩, .empty 1⟩ : Session).answer (.ask .present) ≠
      (⟨⟨tableTalk, ⟨1, some .win⟩, .standard⟩, .empty 1⟩ : Session).answer (.ask .present) := by
  have fits : (tableTalk.length : Int) ≤ Int64.maxValue.toInt := by decide
  have unawaited : ∀ step ∈ tableTalk.steps, step.kind ≠ .awaitResult := by decide
  have alike : otherTalk.unmapped = tableTalk.unmapped := by decide
  refine ⟨fits, unawaited, alike, fun calls => ?_, by decide, by decide⟩
  exact (unawaited_arms_are_unread tableTalk otherTalk fits unawaited alike calls).1

end Session

end Narrative
