import Narrative.Proofs.Exploration
import Narrative.Proofs.Passage
import Narrative.Proofs.Running

/-!
# The flow checks and sessions

The search of the flow checks and the session tell twice where a step can lead: once as a table of
successors, once as decisions about requests and branches. Branches and requests only lead where the
table says (`follows_resolved`, `follows_go`), and off the branches some request leads wherever it
says (`exists_go_of_follows`). Found positions (`Found`) are therefore kept by every move of a
director, so a session only ever holds found positions; and where there are no branches, every step
of a path of the search is taken by some request.

A position outside the script reads as the end, which nothing leaves. It is found iff the search
notices a way out.

Results:
* **`sound_for_sessions`**: what the flow checks report is true of all sessions and all runs;
* **`exact_without_branches`**: on scripts without branches the search finds no more than requests
  can reach.
-/

namespace Narrative.Lint.Flow

open Session

variable {script : Script}

/-! ## Following the flow -/

/-- A position can come after another one in the flow. -/
def Follows (script : Script) (position target : Position) : Prop :=
  ∃ i, inside? script position = some i ∧ target ∈ successors i (script.get position)

/-- What comes after a found position is found. -/
theorem found_of_follows (nonempty : 0 < script.length) {position target : Position}
    (hfound : Found script position) (hfollows : Follows script position target) :
    Found script target := by
  obtain ⟨i, hinside, htarget⟩ := hfollows
  exact found_successor nonempty ((found_of_inside? hinside).mp hfound) (step_of_inside? hinside)
    htarget

/-- A step other than the end stands in the script. -/
theorem exists_inside? {position : Position} (h : script.get position ≠ .finish) :
    ∃ i, inside? script position = some i := by
  cases hinside : inside? script position with
  | some i => exact ⟨i, rfl⟩
  | none => exact absurd (Script.get_of_not_contains (inside?_eq_none_iff.mp hinside)) h

/-- Moving forward in the script leads to the next index. -/
theorem next_eq_ofIndex (fits : (script.length : Int) ≤ Int64.maxValue.toInt) {position : Position}
    {i : Nat} (h : inside? script position = some i) : position.next = .ofIndex (i + 1) := by
  obtain ⟨hposition, hlt⟩ := inside?_eq_some_iff.mp h
  apply Int64.toInt_inj.mp
  rw [Position.toInt_next, hposition, Position.toInt_ofIndex (by push_cast; omega)]
  push_cast
  omega

/-- A branch is resolved to a position that follows it. -/
theorem follows_resolved (fits : (script.length : Int) ≤ Int64.maxValue.toInt) {state : State}
    (h : script.OnBranch state) :
    Follows script state.position (script.resolved state).position := by
  have hbranch : ∃ var arms, script.get state.position = .branch var arms := by
    unfold Script.OnBranch at h
    cases hstep : script.get state.position with
    | branch var arms => exact ⟨var, arms, rfl⟩
    | _ => simp [hstep, Step.kind] at h
  obtain ⟨var, arms, hstep⟩ := hbranch
  have hstands : script.get state.position ≠ .finish := by
    rw [hstep]
    exact Step.noConfusion
  obtain ⟨i, hinside⟩ := exists_inside? hstands
  refine ⟨i, hinside, ?_⟩
  have hposition : (script.resolved state).position =
      ((state.recorded var).bind arms.get).getD state.position.next := by
    unfold Script.resolved Script.resolve?
    rw [hstep]
    rfl
  rw [hposition, hstep]
  unfold successors
  cases hselected : (state.recorded var).bind arms.get with
  | some target =>
    obtain ⟨result, -, hget⟩ := Option.bind_eq_some_iff.mp hselected
    have harm : target ∈ arms.toList.map Prod.snd :=
      List.mem_map.mpr ⟨(result, target), Arms.mem_toList.mpr hget, rfl⟩
    exact List.mem_append_left _ harm
  | none =>
    refine List.mem_append_right _ (List.mem_singleton.mpr ?_)
    exact next_eq_ofIndex fits hinside

/-- A request that goes somewhere goes where the flow does. -/
theorem follows_go (fits : (script.length : Int) ≤ Int64.maxValue.toInt) {director : Director}
    (hscript : director.script = script) {request : Request} {next : State}
    (h : director.Goes request next) : Follows script director.position next.position := by
  subst hscript
  have hget : director.script.get director.position = director.current := rfl
  -- whatever is left by a request stands in the script
  have hstands : director.current ≠ .finish := by
    intro hend
    cases h <;> simp_all [Step.kind]
  obtain ⟨i, hinside⟩ := exists_inside? (hget ▸ hstands)
  refine ⟨i, hinside, ?_⟩
  rw [hget]
  have hnext : director.position.next = .ofIndex (i + 1) := next_eq_ofIndex fits hinside
  cases h with
  | advance passes =>
    cases hstep : director.current <;> simp [hstep, Step.kind] at passes
    all_goals exact List.mem_singleton.mpr hnext
  | jump jumps =>
    rw [jumps]
    exact List.mem_singleton.mpr rfl
  | pick offers offered =>
    rw [offers]
    exact List.mem_map_of_mem (List.mem_of_getElem? offered)
  | record waits =>
    cases hstep : director.current <;> simp [hstep, Step.kind] at waits
    exact List.mem_singleton.mpr hnext

/-- Off the branches, some request goes to whatever position the flow goes to. -/
theorem exists_go_of_follows (fits : (script.length : Int) ≤ Int64.maxValue.toInt)
    {director : Director} (hscript : director.script = script)
    (rests : director.current.kind ≠ .branch) {target : Position}
    (h : Follows script director.position target) :
    ∃ (request : Request) (next : State), director.Goes request next ∧ next.position = target := by
  subst hscript
  obtain ⟨i, hinside, htarget⟩ := h
  have hget : director.script.get director.position = director.current := rfl
  rw [hget] at htarget
  have hnext : director.position.next = .ofIndex (i + 1) := next_eq_ofIndex fits hinside
  cases hstep : director.current with
  | say speaker text =>
    rw [hstep] at htarget
    have hadvance := Director.Goes.advance (Or.inl (congrArg Step.kind hstep))
    exact ⟨_, _, hadvance, hnext.trans (List.mem_singleton.mp htarget).symm⟩
  | startGame game =>
    rw [hstep] at htarget
    have hadvance := Director.Goes.advance (Or.inr (congrArg Step.kind hstep))
    exact ⟨_, _, hadvance, hnext.trans (List.mem_singleton.mp htarget).symm⟩
  | awaitResult var =>
    rw [hstep] at htarget
    have hrecord : director.Goes (.report .win) _ := .record (congrArg Step.kind hstep)
    exact ⟨_, _, hrecord, hnext.trans (List.mem_singleton.mp htarget).symm⟩
  | goto next =>
    rw [hstep] at htarget
    exact ⟨_, _, .jump hstep, (List.mem_singleton.mp htarget).symm⟩
  | choice prompt options =>
    rw [hstep] at htarget
    obtain ⟨option, hmem, rfl⟩ := List.mem_map.mp htarget
    obtain ⟨index, hoption⟩ := List.mem_iff_getElem?.mp hmem
    exact ⟨.choose index, _, .pick hstep hoption, rfl⟩
  | branch var arms =>
    rw [hstep] at rests
    exact absurd rfl rests
  | finish =>
    rw [hstep] at htarget
    exact absurd htarget List.not_mem_nil

/-! ## Found positions -/

/-- **No move of a director breaks what the flow keeps** of positions. -/
theorem keeps_of_follows (fits : (script.length : Int) ≤ Int64.maxValue.toInt)
    {P : Position → Prop}
    (kept : ∀ {position target}, Follows script position target → P position → P target) :
    script.Keeps fun state => P state.position where
  resolved state h := by
    by_cases hon : script.OnBranch state
    · exact kept (follows_resolved fits hon) h
    · rw [Script.resolved_of_not_onBranch hon]
      exact h
  result _ _ _ h _ := h
  go director request next hscript h hgo :=
    kept (follows_go fits hscript (Request.verdict_eq_go_iff.mp hgo)) h

/-- **No move of a director leaves what the search finds.** -/
theorem keeps_found (nonempty : 0 < script.length)
    (fits : (script.length : Int) ≤ Int64.maxValue.toInt) :
    script.Keeps fun state => Found script state.position :=
  keeps_of_follows fits fun hfollows hfound => found_of_follows nonempty hfound hfollows

/-- **A session that starts a script passes found positions only.** -/
theorem found_of_passes (nonempty : 0 < script.length)
    (fits : (script.length : Int) ≤ Int64.maxValue.toInt) (calls : List Call) (call : Call) :
    ∀ state ∈ ((fresh script).afterAll calls).passes call, Found script state.position := by
  have hfresh : (fresh script).script.Keeps fun state => Found script state.position :=
    keeps_found nonempty fits
  have hlater : ((fresh script).afterAll calls).script.Keeps
      fun state => Found script state.position := by
    rw [script_afterAll]
    exact hfresh
  have htended := tended_afterAll hfresh (tended_fresh (found_start nonempty)) calls
  exact forall_passes hlater htended call

/-- Where a call shows the end, the search has noticed a way out. -/
theorem canFinish_of_ended (nonempty : 0 < script.length)
    (fits : (script.length : Int) ≤ Int64.maxValue.toInt) {calls : List Call} {call : Call}
    (h : ((fresh script).afterAll calls).answer call = some (.ok .ended)) :
    (explore script).canFinish = true := by
  have hfound := found_of_passes nonempty fits calls call _
    (List.mem_of_getLast? (passes_ends _ call).2)
  obtain ⟨hrest, hshown⟩ := call_shows h
  have hended : (((fresh script).afterAll calls).after call).isEnded = true := by
    refine (shown_eq_ended_iff ?_).mp hshown.symm
    rw [script_after]
    exact hrest
  have hend : (((fresh script).afterAll calls).after call).script.get
      (((fresh script).afterAll calls).after call).state.position = .finish :=
    of_decide_eq_true hended
  rw [script_after, script_afterAll, script_fresh] at hend
  exact canFinish_of_found_end nonempty hfound hend

/-! ## Issues -/

theorem mem_unreachableIssues {search : Search} {issue : Issue} :
    issue ∈ unreachableIssues script search ↔
      ∃ i step, script.steps[i]? = some step ∧ i ∉ search.seen ∧ step ≠ .finish ∧
        issue = .ofStep .warning category i
          ("unreachable " ++ StepKind.names.name step.kind ++ " step") := by
  unfold unreachableIssues
  simp only [List.mem_flatMap, Prod.exists, List.mem_zipIdx_iff_getElem?]
  constructor
  · rintro ⟨step, i, hstep, hissue⟩
    split at hissue
    · exact absurd hissue List.not_mem_nil
    · rename_i hreported
      obtain ⟨hseen, hne⟩ := not_or.mp hreported
      exact ⟨i, step, hstep, hseen, hne, List.mem_singleton.mp hissue⟩
  · rintro ⟨i, step, hstep, hseen, hne, rfl⟩
    refine ⟨step, i, hstep, ?_⟩
    rw [if_neg (not_or.mpr ⟨hseen, hne⟩)]
    exact List.mem_singleton.mpr rfl

/-- **The issues of the flow checks** are about steps the search does not see, or say that it
noticed no way out. -/
theorem mem_check {config : FlowConfig} {issue : Issue} (h : issue ∈ check config script) :
    (∃ i message, issue = .ofStep .warning category i message ∧ i < script.length ∧
        i ∉ (explore script).seen) ∨
      (∃ message, issue = .ofScript .info category message) ∧
        (explore script).canFinish = false := by
  unfold check at h
  split at h
  · rcases List.mem_append.mp h with h | h
    · split at h
      · obtain ⟨i, step, hstep, hseen, -, hissue⟩ := mem_unreachableIssues.mp h
        obtain ⟨hi, -⟩ := List.getElem?_eq_some_iff.mp hstep
        exact Or.inl ⟨i, _, hissue, hi, hseen⟩
      · exact absurd h List.not_mem_nil
    · split at h
      · unfold endlessIssues at h
        split at h
        · exact absurd h List.not_mem_nil
        · rename_i hfinish
          exact Or.inr ⟨⟨_, List.mem_singleton.mp h⟩, Bool.eq_false_iff.mpr hfinish⟩
      · exact absurd h List.not_mem_nil
  · exact absurd h List.not_mem_nil

/-- A warning of the flow checks is about a step that the search does not see. -/
theorem not_mem_seen_of_warning {config : FlowConfig} {i : Nat} {message : String}
    (h : Issue.ofStep .warning category i message ∈ check config script) :
    i < script.length ∧ i ∉ (explore script).seen := by
  rcases mem_check h with ⟨j, _, hissue, hseen⟩ | ⟨⟨_, hissue⟩, -⟩
  · obtain rfl : i = j := Option.some.inj (congrArg Issue.index hissue)
    exact hseen
  · exact absurd (congrArg Issue.index hissue) (by simp [Issue.ofStep, Issue.ofScript])

/-- The note of the flow checks says that the search noticed no way out. -/
theorem canFinish_of_note {config : FlowConfig} {message : String}
    (h : Issue.ofScript .info category message ∈ check config script) :
    (explore script).canFinish = false := by
  rcases mem_check h with ⟨_, _, hissue, -⟩ | ⟨-, hfinish⟩
  · exact absurd (congrArg Issue.index hissue) (by simp [Issue.ofStep, Issue.ofScript])
  · exact hfinish

/-! ## Soundness -/

/-- **The flow checks are sound.** For a script with steps, as long as positions can count them, and
for all calls made of a session that starts it: every position in the script that the director holds
in the course of a call is seen by the search, so a step with a warning is never current. If the
checks note that no path reaches an end, no call ever shows the end, and no run ever finishes. -/
theorem sound_for_sessions (script : Script) (nonempty : 0 < script.length)
    (fits : (script.length : Int) ≤ Int64.maxValue.toInt) :
    (∀ calls call, ∀ state ∈ ((fresh script).afterAll calls).passes call, ∀ i < script.length,
      state.position.toInt = i → i ∈ (explore script).seen) ∧
    (∀ (config : FlowConfig) (i : Nat) (message : String),
      Issue.ofStep .warning category i message ∈ check config script →
      ∀ calls call, ∀ state ∈ ((fresh script).afterAll calls).passes call,
        state.position.toInt ≠ i) ∧
    ∀ config : FlowConfig,
      Issue.ofScript .info category
        "no path from the start reaches an end step or runs off the script" ∈ check config script →
      (∀ calls call, ((fresh script).afterAll calls).answer call ≠ some (.ok .ended)) ∧
      ∀ (σ : Type) (host : Host σ) (start : σ) (config : RunConfig) (summary : RunSummary),
        ((fresh script).run host start config).1 = .ok summary → summary.outcome ≠ .finished := by
  have hseen : ∀ calls call, ∀ state ∈ ((fresh script).afterAll calls).passes call,
      ∀ i < script.length, state.position.toInt = i → i ∈ (explore script).seen := by
    intro calls call state hmem i hi hposition
    have hfound := found_of_passes nonempty fits calls call state hmem
    exact (found_of_inside? (inside?_eq_some_iff.mpr ⟨hposition, hi⟩)).mp hfound
  refine ⟨hseen, ?_, ?_⟩
  · intro config i message hissue calls call state hmem hposition
    obtain ⟨hi, hunseen⟩ := not_mem_seen_of_warning hissue
    exact hunseen (hseen calls call state hmem i hi hposition)
  · intro config hissue
    have hfinish := canFinish_of_note hissue
    have hcalls : ∀ calls call,
        ((fresh script).afterAll calls).answer call ≠ some (.ok .ended) := by
      intro calls call hended
      rw [canFinish_of_ended nonempty fits hended] at hfinish
      exact absurd hfinish (by simp)
    refine ⟨hcalls, ?_⟩
    intro σ host start config summary hrun hfinished
    obtain ⟨requests, hended⟩ := exists_requests_of_finished _ host start config hrun hfinished
    exact hcalls _ _ hended

/-- A line that can be heard for ever, and one that is cut. -/
def onRepeat : Script :=
  ⟨[.say .ivan "Again?", .choice "Again?" [⟨"Yes", 0⟩, ⟨"Of course", 3⟩], .say .narrator "The end.",
    .goto 0]⟩

/-- The cut line is never reached, and the scene never ends. -/
theorem sound_for_sessions_onRepeat :
    0 < onRepeat.length ∧ (onRepeat.length : Int) ≤ Int64.maxValue.toInt ∧
    (∀ calls call, ∀ state ∈ ((fresh onRepeat).afterAll calls).passes call,
      state.position.toInt ≠ 2) ∧
    ∀ calls call, ((fresh onRepeat).afterAll calls).answer call ≠ some (.ok .ended) := by
  have nonempty : 0 < onRepeat.length := by decide
  have fits : (onRepeat.length : Int) ≤ Int64.maxValue.toInt := by decide
  obtain ⟨-, hwarned, hnoted⟩ := sound_for_sessions onRepeat nonempty fits
  exact ⟨nonempty, fits, hwarned {} 2 "unreachable say step" (by decide),
    (hnoted {} (by decide)).1⟩

/-! ## Exactness -/

theorem not_onBranch_of_plain (plain : ∀ step ∈ script.steps, step.kind ≠ .branch) (state : State) :
    ¬ script.OnBranch state := by
  intro hon
  have hstands : script.get state.position ≠ .finish := by
    intro hend
    unfold Script.OnBranch at hon
    rw [hend] at hon
    exact absurd hon (by simp [Step.kind])
  obtain ⟨i, hinside⟩ := exists_inside? hstands
  exact plain _ (List.mem_of_getElem? (step_of_inside? hinside)) hon

/-- Without branches, some request leads wherever the flow goes. -/
theorem exists_ask_of_follows (fits : (script.length : Int) ≤ Int64.maxValue.toInt)
    (plain : ∀ step ∈ script.steps, step.kind ≠ .branch) {session : Session}
    (hscript : session.script = script) {target : Position}
    (h : Follows script session.position target) :
    ∃ request, request ≠ .present ∧
      session.answer (.ask request) = some (.ok (.ofStep (script.get target))) ∧
      (session.after (.ask request)).position = target := by
  subst hscript
  have hplain : ∀ state, ¬ session.script.OnBranch state := not_onBranch_of_plain plain
  obtain ⟨request, next, hgo, rfl⟩ := exists_go_of_follows fits rfl (hplain session.state) h
  obtain ⟨hanswer, hafter⟩ := ask_of_goes (hplain session.state) hgo (hplain next)
  refine ⟨request, ?_, hanswer, congrArg Session.position hafter⟩
  rintro rfl
  cases hgo

/-- Without branches, requests take every path of the search. -/
theorem exists_requests_of_reach (nonempty : 0 < script.length)
    (fits : (script.length : Int) ≤ Int64.maxValue.toInt)
    (plain : ∀ step ∈ script.steps, step.kind ≠ .branch) {i : Nat} (h : Reach script i) :
    ∃ requests : List Request, .present ∉ requests ∧
      inside? script ((fresh script).serve requests).position = some i := by
  induction h with
  | refl => exact ⟨[], List.not_mem_nil, inside?_eq_some_iff.mpr ⟨rfl, nonempty⟩⟩
  | tail _ hleads ih =>
    obtain ⟨requests, hpresent, hinside⟩ := ih
    obtain ⟨step, hstep, target, htarget, hthere⟩ := hleads
    have hget : step = script.get ((fresh script).serve requests).position :=
      Option.some.inj (hstep.symm.trans (step_of_inside? hinside))
    obtain ⟨request, hne, -, hposition⟩ := exists_ask_of_follows fits plain
      (script_serve (fresh script) requests) ⟨_, hinside, hget ▸ htarget⟩
    refine ⟨requests ++ [request], ?_, ?_⟩
    · simp only [List.mem_append, List.mem_singleton, not_or]
      exact ⟨hpresent, hne.symm⟩
    · rw [serve_append, serve_cons, serve_nil, hposition]
      exact hthere

/-- Continuing at the end shows the end. -/
theorem proceed_of_finish {session : Session} (h : session.director.current = .finish) :
    session.answer (.ask .proceed) = some (.ok .ended) := by
  have hrest : ¬ session.script.OnBranch session.state := by
    intro hon
    have hkind : session.director.current.kind = .branch := hon
    rw [h] at hkind
    exact absurd hkind (by simp [Step.kind])
  have hrested : session.rested = session := rested_of_not_onBranch hrest
  have hends := Script.not_endless_of_not_onBranch hrest
  have hstay : Request.proceed.verdict session.rested.director = .stay := by
    rw [hrested]
    simp only [Request.verdict, h]
  obtain ⟨hanswer, -⟩ := ask_of_stay hends hstay
  rw [hanswer, hrested, shown, h]
  rfl

/-- Without branches, a request shows the end after a path of the search that leads to a way out. -/
theorem exists_ended_of_exits (fits : (script.length : Int) ≤ Int64.maxValue.toInt)
    (plain : ∀ step ∈ script.steps, step.kind ≠ .branch) {session : Session}
    (hscript : session.script = script) {i : Nat}
    (hinside : inside? script session.position = some i) (hexits : Exits script i) :
    ∃ request, request ≠ .present ∧ session.answer (.ask request) = some (.ok .ended) := by
  obtain ⟨step, hstep, hend | ⟨target, htarget, houtside⟩⟩ := hexits
  all_goals
    have hget : step = script.get session.position :=
      Option.some.inj (hstep.symm.trans (step_of_inside? hinside))
  · refine ⟨.proceed, by simp, proceed_of_finish ?_⟩
    subst hscript
    exact hget.symm.trans hend
  · obtain ⟨request, hne, hanswer, -⟩ :=
      exists_ask_of_follows fits plain hscript ⟨i, hinside, hget ▸ htarget⟩
    rw [Script.get_of_not_contains (inside?_eq_none_iff.mp houtside)] at hanswer
    exact ⟨request, hne, hanswer⟩

/-- **Without branches the search is exact.** For a script with steps and no branch among them, as
long as positions can count them: a step is seen iff continuing, choosing and reporting can make it
the current one, and the flag is set iff they can show the end, or the script starts at it. -/
theorem exact_without_branches (script : Script) (nonempty : 0 < script.length)
    (fits : (script.length : Int) ≤ Int64.maxValue.toInt)
    (plain : ∀ step ∈ script.steps, step.kind ≠ .branch) :
    (∀ i < script.length, i ∈ (explore script).seen ↔
      ∃ requests : List Request, .present ∉ requests ∧
        ((fresh script).serve requests).position.toInt = i) ∧
    ((explore script).canFinish = true ↔
      (∃ requests : List Request, .present ∉ requests ∧
        some (.ok .ended) ∈ (fresh script).answers (requests.map .ask)) ∨
      (fresh script).answer (.ask .present) = some (.ok .ended)) := by
  refine ⟨fun i hi => ⟨?_, ?_⟩, ?_, ?_⟩
  · intro hseen
    obtain ⟨requests, hpresent, hinside⟩ :=
      exists_requests_of_reach nonempty fits plain ((mem_seen_explore_iff nonempty).mp hseen)
    exact ⟨requests, hpresent, (inside?_eq_some_iff.mp hinside).1⟩
  · rintro ⟨requests, -, hposition⟩
    have hfound := found_of_passes nonempty fits (requests.map .ask) .undo _
      (List.mem_of_head? (passes_ends _ _).1)
    exact (found_of_inside? (inside?_eq_some_iff.mpr ⟨hposition, hi⟩)).mp hfound
  · intro hfinish
    obtain ⟨i, hreach, hexits⟩ := (canFinish_explore_iff nonempty).mp hfinish
    obtain ⟨requests, hpresent, hinside⟩ := exists_requests_of_reach nonempty fits plain hreach
    obtain ⟨request, hne, hanswer⟩ := exists_ended_of_exits fits plain
      (script_serve (fresh script) requests) hinside hexits
    refine Or.inl ⟨requests ++ [request], ?_, ?_⟩
    · simp only [List.mem_append, List.mem_singleton, not_or]
      exact ⟨hpresent, hne.symm⟩
    · rw [List.map_append, answers_append]
      exact List.mem_append_right _ (hanswer ▸ List.mem_cons_self)
  · rintro (⟨requests, -, hmem⟩ | hended)
    · obtain ⟨calls, call, hended⟩ := exists_call_of_mem_answers hmem
      exact canFinish_of_ended nonempty fits hended
    · exact @canFinish_of_ended script nonempty fits [] _ hended

/-- A choice with options that lead back, out of the script and twice to one step. -/
def crossroads : Script :=
  ⟨[.choice "Where to?" [⟨"Round", 0⟩, ⟨"Away", -5⟩, ⟨"Home", 3⟩, ⟨"Home again", 3⟩],
    .say .narrator "Never heard.", .finish, .startGame .dice, .awaitResult .lastResult, .goto 9]⟩

/-- The step behind the game can be reached, the line cannot, and the end can be shown. -/
theorem exact_without_branches_crossroads :
    0 < crossroads.length ∧ (crossroads.length : Int) ≤ Int64.maxValue.toInt ∧
    (∀ step ∈ crossroads.steps, step.kind ≠ .branch) ∧
    (∃ requests : List Request, .present ∉ requests ∧
      ((fresh crossroads).serve requests).position.toInt = 5) ∧
    (¬ ∃ requests : List Request, .present ∉ requests ∧
      ((fresh crossroads).serve requests).position.toInt = 1) ∧
    ∃ requests : List Request, .present ∉ requests ∧
      some (.ok .ended) ∈ (fresh crossroads).answers (requests.map .ask) := by
  have nonempty : 0 < crossroads.length := by decide
  have fits : (crossroads.length : Int) ≤ Int64.maxValue.toInt := by decide
  have plain : ∀ step ∈ crossroads.steps, step.kind ≠ .branch := by decide
  obtain ⟨hseen, hfinish⟩ := exact_without_branches crossroads nonempty fits plain
  refine ⟨nonempty, fits, plain, (hseen 5 (by decide)).mp (by decide), ?_, ?_⟩
  · intro hreached
    exact absurd ((hseen 1 (by decide)).mpr hreached) (by decide)
  · exact (hfinish.mp (by decide)).resolve_right (by decide)

end Narrative.Lint.Flow
