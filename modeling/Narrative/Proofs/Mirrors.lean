import Narrative.Proofs.Memory
import Narrative.Proofs.Passage

/-!
# Scripts that mirror each other

A session reads its script at the states it comes to, and nowhere else. If two scripts are alike at
all states of a kind (`Script.Mirrors`), and no move of a director on the first script leads out of
that kind (`Script.Keeps`), then a session that starts there cannot tell them apart. Of the second
script nothing else is asked.

* `lockstep_mirrored`: sessions on the two scripts go on together;
* **`views_of_mirrored`**, **`passes_of_mirrored`**: calls are answered alike, leave the same states
  and pass the same states.
-/

namespace Narrative

namespace Script

variable {script script' : Script} {P : State → Prop} {state : State}

/-- **Two scripts are alike at all states of a kind.** -/
structure Mirrors (script script' : Script) (P : State → Prop) : Prop where
  /-- they have equally many steps, so branches are followed equally far -/
  length_eq : script'.length = script.length
  /-- they resolve branches alike -/
  resolve_eq : ∀ state, P state → script'.resolve? state = script.resolve? state
  /-- off the branches they have the same steps -/
  get_eq : ∀ state, P state → ¬ script.OnBranch state →
    script'.get state.position = script.get state.position

namespace Mirrors

theorem onBranch_iff (mirrors : script.Mirrors script' P) (h : P state) :
    script'.OnBranch state ↔ script.OnBranch state := by
  rw [← resolve?_isSome_iff, mirrors.resolve_eq state h, resolve?_isSome_iff]

theorem resolved_eq (mirrors : script.Mirrors script' P) (h : P state) :
    script'.resolved state = script.resolved state := by
  unfold resolved
  rw [mirrors.resolve_eq state h]

/-- Chains of branches are the same on both scripts. -/
theorem iterate_eq (mirrors : script.Mirrors script' P) (keeps : script.Keeps P) (h : P state)
    (n : Nat) : List.iterate script'.resolved state n = List.iterate script.resolved state n := by
  induction n generalizing state with
  | zero => rfl
  | succ n ih =>
    rw [List.iterate, List.iterate, mirrors.resolved_eq h, ih (keeps.resolved state h)]

theorem chain_eq (mirrors : script.Mirrors script' P) (keeps : script.Keeps P) (h : P state) :
    script'.chain state = script.chain state := by
  unfold chain
  rw [mirrors.length_eq, mirrors.iterate_eq keeps h]

theorem settled_eq (mirrors : script.Mirrors script' P) (keeps : script.Keeps P) (h : P state) :
    script'.settled state = script.settled state := by
  have hlast := congrArg List.getLast? (mirrors.chain_eq keeps h)
  rw [getLast?_chain, getLast?_chain] at hlast
  exact Option.some.inj hlast

theorem endless_iff (mirrors : script.Mirrors script' P) (keeps : script.Keeps P) (h : P state) :
    script'.Endless state ↔ script.Endless state := by
  rw [← onBranch_settled_iff, ← onBranch_settled_iff, mirrors.settled_eq keeps h,
    mirrors.onBranch_iff (keeps.settled h)]

end Mirrors

end Script

namespace Session

variable {script script' : Script} {P : State → Prop} {a b : Session}

/-- The session on another script. -/
def restaged (session : Session) (script : Script) : Session :=
  { session with director := { session.director with script } }

/-- The second session is the first one on the other script, and the first has been in no states but
those of a kind. -/
structure Mirrored (script script' : Script) (P : State → Prop) (a b : Session) : Prop where
  script_eq : a.script = script
  tended : Tended P a
  restaged_eq : b = a.restaged script'

/-- A session settles alike on mirrored scripts. -/
theorem rested_restaged (keeps : a.script.Keeps P) (mirrors : a.script.Mirrors script' P)
    (h : P a.state) : (a.restaged script').rested = a.rested.restaged script' :=
  congrArg (a.restaged script').withState (mirrors.settled_eq keeps h)

/-- **Sessions on mirrored scripts go on together.** -/
theorem lockstep_mirrored (keeps : script.Keeps P) (mirrors : script.Mirrors script' P) :
    Lockstep (Mirrored script script' P) where
  state := by
    rintro a _ ⟨-, -, rfl⟩
    rfl
  endless := by
    rintro a _ ⟨rfl, htended, rfl⟩
    exact (mirrors.endless_iff keeps htended.state).symm
  current := by
    rintro a _ ⟨rfl, htended, rfl⟩ rests
    exact (mirrors.get_eq a.state htended.state rests).symm
  rested := by
    rintro a _ ⟨rfl, htended, rfl⟩
    exact ⟨rfl, tended_rested keeps htended, rested_restaged keeps mirrors htended.state⟩
  departed := by
    rintro a _ request next ⟨rfl, htended, rfl⟩ departs
    refine ⟨rfl, tended_departed keeps htended departs, ?_⟩
    unfold departed
    rw [rested_restaged keeps mirrors htended.state]
    rfl

namespace Mirrored

/-- Both sessions go back to the same snapshot. -/
theorem restored (h : Mirrored script script' P a b) {snapshot : State} {rest : List State}
    (hsnapshots : a.history.snapshots = snapshot :: rest) :
    Mirrored script script' P (a.restored snapshot) (b.restored snapshot) where
  script_eq := h.script_eq
  tended := tended_restored h.tended hsnapshots
  restaged_eq := congrArg (·.restored snapshot) h.restaged_eq

/-- A call is answered alike, and leaves one session on both scripts. -/
theorem call (keeps : script.Keeps P) (mirrors : script.Mirrors script' P)
    (h : Mirrored script script' P a b) (call : Call) :
    a.answer call = b.answer call ∧ Mirrored script script' P (a.after call) (b.after call) := by
  cases call with
  | ask request => exact (lockstep_mirrored keeps mirrors).ask h request
  | undo =>
    have hhistory : b.history = a.history := by
      rw [h.restaged_eq]
      rfl
    cases hsnapshots : a.history.snapshots with
    | nil =>
      obtain ⟨hanswer, hafter⟩ := undo_of_nil hsnapshots
      obtain ⟨hanswer', hafter'⟩ := undo_of_nil (hhistory ▸ hsnapshots)
      rw [hanswer, hafter, hanswer', hafter']
      exact ⟨rfl, h⟩
    | cons snapshot rest =>
      obtain ⟨hanswer, hafter⟩ := undo_of_cons hsnapshots
      obtain ⟨hanswer', hafter'⟩ := undo_of_cons (hhistory ▸ hsnapshots)
      rw [hanswer, hafter, hanswer', hafter']
      exact (lockstep_mirrored keeps mirrors).present (h.restored hsnapshots)

theorem calls (keeps : script.Keeps P) (mirrors : script.Mirrors script' P)
    (h : Mirrored script script' P a b) (calls : List Call) :
    Mirrored script script' P (a.afterAll calls) (b.afterAll calls) := by
  induction calls generalizing a b with
  | nil => exact h
  | cons call calls ih => exact ih (h.call keeps mirrors call).2

end Mirrored

/-- **Calls look the same on mirrored scripts.** -/
theorem views_of_mirrored (keeps : script.Keeps P) (mirrors : script.Mirrors script' P)
    (h : Mirrored script script' P a b) (calls : List Call) : b.views calls = a.views calls := by
  induction calls generalizing a b with
  | nil => rfl
  | cons call calls ih =>
    obtain ⟨hanswer, hafter⟩ := h.call keeps mirrors call
    rw [views, views, hanswer, ih hafter, (lockstep_mirrored keeps mirrors).state hafter]

theorem passed_of_mirrored (keeps : script.Keeps P) (mirrors : script.Mirrors script' P)
    (h : Mirrored script script' P a b) (request : Request) :
    b.passed request = a.passed request := by
  have hdeparts := (lockstep_mirrored keeps mirrors).departs_iff h request
  obtain ⟨rfl, htended, rfl⟩ := h
  have hchain : (a.restaged script').script.chain (a.restaged script').state =
      a.script.chain a.state := mirrors.chain_eq keeps htended.state
  have hsettled : (a.restaged script').rested.state = a.rested.state :=
    mirrors.settled_eq keeps htended.state
  by_cases hgoes : ∃ next, a.Departs request next
  · obtain ⟨next, departs⟩ := hgoes
    have hnext : (a.restaged script').script.chain next = a.script.chain next :=
      mirrors.chain_eq keeps (tended_departed keeps htended departs).state
    rw [passed_of_departs departs, passed_of_departs ((hdeparts next).mp departs), hchain, hsettled,
      hnext]
  · rw [passed_of_not_departs hgoes, passed_of_not_departs (mt (exists_congr hdeparts).mpr hgoes),
      hchain]

/-- **Calls pass the same states on mirrored scripts.** -/
theorem passes_of_mirrored (keeps : script.Keeps P) (mirrors : script.Mirrors script' P)
    (h : Mirrored script script' P a b) (call : Call) : b.passes call = a.passes call := by
  cases call with
  | ask request => exact passed_of_mirrored keeps mirrors h request
  | undo =>
    have hhistory : b.history = a.history := by
      rw [h.restaged_eq]
      rfl
    unfold passes
    dsimp only
    rw [hhistory, (lockstep_mirrored keeps mirrors).state h]
    cases hsnapshots : a.history.snapshots with
    | nil => rfl
    | cons snapshot rest =>
      exact congrArg (b.state :: ·)
        (passed_of_mirrored keeps mirrors (h.restored hsnapshots) .present)

end Session

end Narrative
