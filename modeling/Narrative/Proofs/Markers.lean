import Narrative.Player
import Narrative.Proofs.Settling
import Narrative.Proofs.Undo
import Narrative.Proofs.Walks

/-!
# Markers on the way of a play

The player goes through jumps and the starts of games without asking. From a state at a marker the
script alone decides where that leads: on from the marker, and along the branches behind it
(`Script.passed`). So going through markers is a walk, and a chain of markers that is longer than
the script never ends (`Script.Restless`).

`Scene.follow` takes the walk on a session and prints what it comes by. It ends at a prompt, at the
end of the scene, or with an error.

* `restless_iff`: as many markers as the script is long decide whether a chain of them ends;
* `proceed_of_onMarker`: what going through a marker does to the session;
* **`asks_of_follow`**: where the player asks after it has gone through markers, the session rests
  on the step that is shown, and it was the last marker that led there.
-/

namespace Narrative

/-! ## The walk through markers -/

namespace Script

variable {script : Script} {state : State}

/-- The current step is a marker. -/
def OnMarker (script : Script) (state : State) : Prop :=
  Scene.isMarker (.ofStep (script.get state.position)) = true

/-- The state after going through the marker and the branches behind it; off the markers, the same
state. -/
def passed (script : Script) (state : State) : State :=
  match script.get state.position with
  | .startGame _ => script.settled (Action.advance.apply state)
  | .goto next => script.settled ((Action.goto next).apply state)
  | _ => state

/-- Markers never stop leading to markers. -/
def Restless (script : Script) (state : State) : Prop :=
  ∀ n, script.OnMarker (script.passed^[n] state)

/-- Markers are jumps and the starts of games. -/
theorem onMarker_iff :
    script.OnMarker state ↔ (script.get state.position).kind = .startGame ∨
      (script.get state.position).kind = .goto := by
  unfold OnMarker
  cases script.get state.position <;> simp [Presentation.ofStep, Scene.isMarker, Step.kind]

theorem OnMarker.not_onBranch (h : script.OnMarker state) : ¬ script.OnBranch state := by
  intro hon
  unfold OnBranch at hon
  simpa [hon] using onMarker_iff.mp h

theorem OnMarker.contains (h : script.OnMarker state) : script.contains state.position = true := by
  by_contra hc
  have hget := get_of_not_contains (Bool.eq_false_iff.mpr hc)
  simpa [hget, Step.kind] using onMarker_iff.mp h

/-- Going through markers is a walk. -/
theorem walk_passed (script : Script) : script.Walk script.passed script.OnMarker where
  inside := OnMarker.contains
  records state := by
    unfold passed
    cases script.get state.position <;> simp [Action.apply]
  rests {state} h := by
    unfold passed
    rw [onMarker_iff] at h
    cases hstep : script.get state.position <;> simp [hstep, Step.kind] at h ⊢

/-- **As many markers as the script is long decide whether a chain of them ends.** -/
theorem restless_iff {n : Nat} (long : script.length ≤ n) :
    script.OnMarker (script.passed^[n] state) ↔ script.Restless state :=
  script.walk_passed.on_iterate_iff long

theorem Restless.passed (h : script.Restless state) : script.Restless (script.passed state) := by
  intro n
  rw [← Function.iterate_succ_apply]
  exact h (n + 1)

end Script

/-! ## Going through a marker -/

namespace Session

variable {session : Session}

/-- A session at a marker continues on from it. -/
theorem departs_of_onMarker (h : session.script.OnMarker session.state) :
    ∃ next, session.Departs .proceed next ∧
      session.script.settled next = session.script.passed session.state := by
  have hkind := Script.onMarker_iff.mp h
  unfold Script.passed
  cases hstep : session.script.get session.state.position with
  | startGame game =>
    exact ⟨_, departs_of_goes h.not_onBranch (.advance (Or.inr (congrArg Step.kind hstep))), rfl⟩
  | goto next => exact ⟨_, departs_of_goes h.not_onBranch (.jump hstep), rfl⟩
  | _ => simp [hstep, Step.kind] at hkind

/-- **Going through a marker** leads to the next state of the walk, with a snapshot of the marker.
Unless that state is in a cycle of branches, the step there is shown. -/
theorem proceed_of_onMarker (h : session.script.OnMarker session.state) :
    (session.after (.ask .proceed)).state = session.script.passed session.state ∧
      (session.after (.ask .proceed)).history = session.history.push session.state ∧
      ((session.script.OnBranch (session.script.passed session.state) ∧
          ∃ error, session.answer (.ask .proceed) = some (.error error)) ∨
        session.answer (.ask .proceed) =
          some (.ok (session.after (.ask .proceed)).shown)) := by
  obtain ⟨next, departs, hpassed⟩ := departs_of_onMarker h
  have haccepts : session.accepts .proceed = true := accepts_iff.mpr ⟨next, departs⟩
  have hself := rested_of_not_onBranch h.not_onBranch
  have hstate : (session.departed next).rested.state = session.script.passed session.state :=
    hpassed
  have hhistory := history_after_ask session .proceed
  rw [if_pos haccepts, hself] at hhistory
  obtain ⟨hanswer, hafter⟩ := ask_of_departs departs
  by_cases hends : (session.departed next).script.Endless (session.departed next).state
  · obtain ⟨hshown, hleft⟩ := ask_of_endless .present hends
    rw [hleft] at hafter
    refine ⟨by rw [hafter, hstate], hhistory, Or.inl ⟨?_, _, hanswer.trans hshown⟩⟩
    rw [← hpassed]
    exact Script.onBranch_settled_iff.mpr hends
  · obtain ⟨hshown, hleft⟩ := present_of_not_endless hends
    rw [hleft] at hafter
    refine ⟨by rw [hafter, hstate], hhistory, Or.inr ?_⟩
    rw [hafter]
    exact hanswer.trans hshown

end Session

/-! ## What is shown on the way -/

/-- The session rests on the step that is shown. -/
structure Session.Shows (session : Session) (shown : Presentation) : Prop where
  rests : ¬ session.script.OnBranch session.state
  shows : shown = session.shown

namespace Session

variable {session : Session} {shown : Presentation}

/-- What a call shows is where it leaves the session. -/
theorem Shows.of_answer {call : Call} (h : session.answer call = some (.ok shown)) :
    (session.after call).Shows shown := by
  obtain ⟨hrest, hshown⟩ := call_shows h
  refine ⟨?_, hshown⟩
  rw [script_after]
  exact hrest

/-- Showing it again changes nothing. -/
theorem Shows.present (h : session.Shows shown) :
    session.answer (.ask .present) = some (.ok shown) ∧
      session.after (.ask .present) = session := by
  rw [h.shows]
  exact present_of_rests h.rests

theorem Shows.onMarker_iff (h : session.Shows shown) :
    session.script.OnMarker session.state ↔ Scene.isMarker shown = true := by
  rw [h.shows]
  rfl

end Session

namespace Scene

variable {debug : Bool} {budget : Nat} {session : Session} {shown : Presentation}

/-- What is printed of the state for debugging. -/
def status (debug : Bool) (session : Session) : List Display :=
  if debug then [.status session.state] else []

/-- A presentation that waits for the player: no marker, and not the end. -/
structure Prompts (shown : Presentation) : Prop where
  waits : isMarker shown = false
  lasts : shown ≠ .ended

@[simp] theorem stage_after (printed : List Display) (scene : Scene) :
    (after printed scene).stage = scene.stage := rfl

@[simp] theorem output_after (printed : List Display) (scene : Scene) :
    (after printed scene).output = printed ++ scene.output := rfl

@[simp] theorem after_after (printed later : List Display) (scene : Scene) :
    after printed (after later scene) = after (printed ++ later) scene := by
  unfold after
  rw [List.append_assoc]

/-- A prompt is shown and waits. -/
theorem follow_of_prompts (h : Prompts shown) :
    follow debug budget session shown =
      ⟨status debug session ++ display shown, .asking session shown⟩ := by
  unfold follow
  rw [if_neg (by simp [h.waits]), if_neg h.lasts]
  rfl

/-- The end is shown, and the play is over. -/
theorem follow_ended :
    follow debug budget session .ended =
      finished session (status debug session ++ [.theEnd]) := by
  unfold follow
  rfl

/-- Without budget a marker is not gone through. -/
theorem follow_zero (h : isMarker shown = true) :
    follow debug 0 session shown =
      finished session (status debug session) (some (.endlessMarkers session.position)) := by
  unfold follow
  rw [if_pos h]
  rfl

/-- A marker is shown and gone through. -/
theorem follow_of_proceeds {next : Presentation} (h : isMarker shown = true)
    (proceeds : session.answer (.ask .proceed) = some (.ok next)) :
    follow debug (budget + 1) session shown =
      after (status debug session ++ display shown)
        (follow debug budget (session.after (.ask .proceed)) next) := by
  have houtcome : (Session.proceed session).outcome = .ok next :=
    Session.answer_ask_iff.mp proceeds
  rw [follow.eq_def, if_pos h]
  simp only [houtcome]
  rfl

/-- A marker that leads into a cycle of branches ends the play. -/
theorem follow_of_refused {error : SessionError} (h : isMarker shown = true)
    (refused : session.answer (.ask .proceed) = some (.error error)) :
    follow debug (budget + 1) session shown =
      after (status debug session ++ display shown)
        (finished (session.after (.ask .proceed)) [] (some (.session error))) := by
  have houtcome : (Session.proceed session).outcome = .error error :=
    Session.answer_ask_iff.mp refused
  rw [follow.eq_def, if_pos h]
  simp only [houtcome]
  rfl

/-- Where there is nothing to go through, the player asks about what is shown. -/
theorem asks_of_unmarked {asked : Session} {prompt : Presentation}
    (hmarker : isMarker shown = false)
    (h : (follow debug budget session shown).stage = .asking asked prompt) :
    Prompts shown ∧ asked = session ∧ prompt = shown := by
  by_cases hended : shown = .ended
  · rw [hended, follow_ended] at h
    exact Stage.noConfusion h
  · have hprompts : Prompts shown := ⟨hmarker, hended⟩
    rw [follow_of_prompts hprompts] at h
    obtain ⟨rfl, rfl⟩ := Stage.asking.inj h
    exact ⟨hprompts, rfl, rfl⟩

/-- **Where the player asks**, the session rests on the step that is shown. If there was anything to
go through, the last marker led there. -/
theorem asks_of_follow {asked : Session} {prompt : Presentation} (hshows : session.Shows shown)
    (h : (follow debug budget session shown).stage = .asking asked prompt) :
    asked.Shows prompt ∧ Prompts prompt ∧ (∃ requests, asked = session.serve requests) ∧
      (isMarker shown = true → ∃ marker : Session, marker.script.OnMarker marker.state ∧
        marker.answer (.ask .proceed) = some (.ok prompt) ∧
        marker.after (.ask .proceed) = asked) := by
  cases hmarker : isMarker shown with
  | false =>
    obtain ⟨hprompts, rfl, rfl⟩ := asks_of_unmarked hmarker h
    exact ⟨hshows, hprompts, ⟨[], rfl⟩, by simp⟩
  | true =>
    induction budget generalizing session shown with
    | zero =>
      rw [follow_zero hmarker] at h
      exact Stage.noConfusion h
    | succ budget ih =>
      have hon := hshows.onMarker_iff.mpr hmarker
      obtain ⟨-, -, ⟨-, error, hrefused⟩ | hproceeds⟩ := Session.proceed_of_onMarker hon
      · rw [follow_of_refused hmarker hrefused] at h
        exact Stage.noConfusion h
      · rw [follow_of_proceeds hmarker hproceeds, stage_after] at h
        generalize (session.after (.ask .proceed)).shown = next at hproceeds h
        have hnext : (session.after (.ask .proceed)).Shows next := .of_answer hproceeds
        cases hagain : isMarker next with
        | false =>
          obtain ⟨hprompts, rfl, rfl⟩ := asks_of_unmarked hagain h
          exact ⟨hnext, hprompts, ⟨[.proceed], rfl⟩, fun _ => ⟨session, hon, hproceeds, rfl⟩⟩
        | true =>
          obtain ⟨hasked, hprompts, ⟨requests, rfl⟩, hlast⟩ := ih hnext h hagain
          exact ⟨hasked, hprompts, ⟨.proceed :: requests, rfl⟩, fun _ => hlast rfl⟩

end Scene

end Narrative
