import Narrative.Proofs.Markers
import Narrative.Proofs.Passage
import Narrative.Proofs.Snapshots

/-!
# Prompts and answers

The player shows a prompt and waits for a line. The line may ask the session for something, go back,
or ask for nothing. The player remembers what it showed and only replaces it when the session
answers; so the question is whether what it shows is where the session is.

It is, as long as no answer runs into a cycle of branches. Such an answer is refused, but the
session has moved, and the prompt that is shown again is no longer the current step. From then on
every answer is refused, until the player goes back.

* `Standing` is what holds at each prompt of a play, and `Standing.typed` its step;
* `typedAll`: the scenes of a play, line by line; `standing_typedAll` is the run;
* **`shows_current_iff`**: which prompts show the current step of the session.
-/

namespace Narrative

/-! ## What a line asks for -/

/-- The line asks to go back. -/
def Text.Line.GoesBack (line : Text.Line) : Prop :=
  ∃ text, line = .text text ∧ Answer.ofLine text = .back

/-- The request is one that a step of this kind waits for. -/
def Request.Answers : Request → StepKind → Prop
  | .proceed, .say | .choose _, .choice | .report _, .awaitResult => True
  | _, _ => False

/-- What the current step waits for is never to stay. -/
theorem Request.Answers.verdict_ne_stay {request : Request} {director : Director}
    (h : request.Answers director.current.kind) : request.verdict director ≠ .stay := by
  unfold verdict
  cases request with
  | present => exact False.elim h
  | proceed =>
    cases hstep : director.current with
    | say speaker text => simp
    | _ =>
      rw [hstep] at h
      exact False.elim h
  | choose index =>
    unfold Verdict.ofChosen
    cases hchosen : Session.chosen director index <;> simp [hchosen]
  | report result =>
    simp only
    split <;> simp

namespace Presentation

variable {shown : Presentation} {words : String} {line : Text.Line} {request : Request}

/-- What typed words ask of the session, if they are understood. -/
def request? : Presentation → String → Option Request
  | .dialogue .., words => if words.isEmpty then some .proceed else none
  | .choice .., words => (Text.natural? words).bind fun number =>
    if 1 ≤ number ∧ number ≤ 9 then some (.choose (number - 1)) else none
  | .awaitingResult _, words => (GameResult.ofTyped? words).map .report
  | _, _ => none

/-- The line is an answer to what is shown, and asks the session for something. -/
def Asks (shown : Presentation) (line : Text.Line) (request : Request) : Prop :=
  ∃ text words, line = .text text ∧ Answer.ofLine text = .text words ∧
    shown.request? words = some request

theorem answer_of_request? (h : shown.request? words = some request) :
    shown.answer words = .ok request.turn := by
  cases shown with
  | dialogue speaker text =>
    simp only [request?, Option.ite_none_right_eq_some, Option.some.injEq] at h
    obtain ⟨hempty, rfl⟩ := h
    exact if_pos hempty
  | choice prompt options =>
    obtain ⟨number, hnumber, h⟩ := Option.bind_eq_some_iff.mp h
    simp only [Option.ite_none_right_eq_some, Option.some.injEq] at h
    obtain ⟨hrange, rfl⟩ := h
    simp only [answer, hnumber, if_pos hrange]
    rfl
  | awaitingResult var =>
    obtain ⟨result, hresult, rfl⟩ := Option.map_eq_some_iff.mp h
    simp only [answer, hresult]
    rfl
  | _ => exact absurd h (by simp [request?])

/-- At a prompt, words that ask for nothing are not understood. -/
theorem answer_of_request?_eq_none (hprompts : Scene.Prompts shown)
    (h : shown.request? words = none) : ∃ text, shown.answer words = .error text := by
  cases shown with
  | dialogue speaker text =>
    have hwords : ¬ words.isEmpty = true := by
      intro hempty
      simp [request?, hempty] at h
    simp [answer, hwords]
  | choice prompt options =>
    cases hnumber : Text.natural? words with
    | none => simp [answer, hnumber]
    | some number =>
      have hrange : ¬ (1 ≤ number ∧ number ≤ 9) := by
        intro hrange
        simp [request?, hnumber, hrange] at h
      simp only [answer, hnumber, if_neg hrange, Except.error.injEq, exists_eq']
  | awaitingResult var =>
    have hresult := Option.map_eq_none_iff.mp h
    simp [answer, hresult]
  | ended => exact absurd rfl hprompts.lasts
  | _ => exact absurd hprompts.waits (by simp [Scene.isMarker])

/-- A line asks for one thing at most. -/
theorem Asks.unique {other : Request} (h : shown.Asks line request) (h' : shown.Asks line other) :
    request = other := by
  obtain ⟨text, words, rfl, hwords, hrequest⟩ := h
  obtain ⟨text', words', htext, hwords', hother⟩ := h'
  cases htext
  cases hwords.symm.trans hwords'
  exact Option.some.inj (hrequest.symm.trans hother)

theorem Asks.not_goesBack (h : shown.Asks line request) : ¬ line.GoesBack := by
  rintro ⟨text', htext, hback⟩
  obtain ⟨text, words, rfl, hwords, -⟩ := h
  cases htext
  exact absurd (hwords.symm.trans hback) (by simp)

/-- An answer asks for what the step that is shown waits for. -/
theorem Asks.answers {step : Step} (h : (Presentation.ofStep step).Asks line request) :
    request.Answers step.kind := by
  obtain ⟨text, words, -, -, h⟩ := h
  cases step with
  | say speaker text =>
    simp only [ofStep, request?, Option.ite_none_right_eq_some, Option.some.injEq] at h
    obtain ⟨-, rfl⟩ := h
    trivial
  | choice prompt options =>
    obtain ⟨number, -, h⟩ := Option.bind_eq_some_iff.mp h
    simp only [Option.ite_none_right_eq_some, Option.some.injEq] at h
    obtain ⟨-, rfl⟩ := h
    trivial
  | awaitResult var =>
    obtain ⟨result, -, rfl⟩ := Option.map_eq_some_iff.mp h
    trivial
  | _ => exact absurd h (by simp [ofStep, request?])

end Presentation

/-! ## What a line comes to -/

namespace Scene

variable {debug : Bool} {session asked : Session} {shown prompt : Presentation} {line : Text.Line}
  {request : Request}

theorem start_of_presents (h : session.answer (.ask .present) = some (.ok shown)) :
    start debug session = view debug (session.after (.ask .present)) shown := by
  have houtcome : (Session.present session).outcome = .ok shown := Session.answer_ask_iff.mp h
  unfold start
  simp only [houtcome]
  rfl

theorem start_of_refused {error : SessionError}
    (h : session.answer (.ask .present) = some (.error error)) :
    start debug session =
      finished (session.after (.ask .present)) [] (some (.session error)) := by
  have houtcome : (Session.present session).outcome = .error error :=
    Session.answer_ask_iff.mp h
  unfold start
  simp only [houtcome]
  rfl

/-- An answer is a turn of the session. -/
theorem respond_of_asks (asks : shown.Asks line request) :
    respond debug session shown line = moved debug shown (request.turn session) := by
  obtain ⟨text, words, rfl, hwords, hrequest⟩ := asks
  simp only [respond, hwords, Presentation.answer_of_request? hrequest]

/-- What an accepted answer leads to is shown. -/
theorem respond_of_accepted {next : Presentation} (asks : shown.Asks line request)
    (accepted : session.answer (.ask request) = some (.ok next)) :
    respond debug session shown line = view debug (session.after (.ask request)) next := by
  rw [respond_of_asks asks, moved]
  simp only [Session.answer_ask_iff.mp accepted]
  rfl

/-- After a refused answer the same is shown, wherever the session was left. -/
theorem respond_of_refused {error : SessionError} (asks : shown.Asks line request)
    (refused : session.answer (.ask request) = some (.error error)) :
    respond debug session shown line =
      after [.refusal error.message] (view debug (session.after (.ask request)) shown) := by
  rw [respond_of_asks asks, moved]
  simp only [Session.answer_ask_iff.mp refused]
  rfl

/-- What going back leads to is shown. -/
theorem respond_of_undone {previous : Presentation} (back : line.GoesBack)
    (undone : session.answer .undo = some (.ok previous)) :
    respond debug session shown line =
      after [.wentBack] (view debug (session.after .undo) previous) := by
  obtain ⟨text, rfl, hback⟩ := back
  obtain ⟨reply, hreply, houtcome⟩ := Option.map_eq_some_iff.mp undone
  have hleft : session.after .undo = reply.session := by
    unfold Session.after
    rw [hreply]
    rfl
  simp only [respond, hback, hreply, moved, houtcome, hleft]

theorem respond_of_not_undone (back : line.GoesBack) (stays : session.answer .undo = none) :
    respond debug session shown line = after [.cannotUndo] (view debug session shown) := by
  obtain ⟨text, rfl, hback⟩ := back
  simp only [respond, hback, Option.map_eq_none_iff.mp stays]

/-- A prompt is shown as it is. -/
theorem asks_of_view (prompts : Prompts shown)
    (h : (view debug session shown).stage = .asking asked prompt) :
    asked = session ∧ prompt = shown :=
  (asks_of_unmarked prompts.waits h).2

/-- A line at a prompt is an answer, or goes back, or else the session does not learn of it and the
prompt is shown again. -/
theorem asks_or_goesBack (prompts : Prompts shown)
    (h : (respond debug session shown line).stage = .asking asked prompt) :
    (∃ request, shown.Asks line request) ∨ line.GoesBack ∨
      ((∀ request, ¬ shown.Asks line request) ∧ ¬ line.GoesBack ∧
        asked = session ∧ prompt = shown) := by
  cases line with
  | closed => exact Stage.noConfusion h
  | unreadable => exact Stage.noConfusion h
  | text text =>
    cases hmeaning : Answer.ofLine text with
    | quit =>
      simp only [respond, hmeaning] at h
      exact Stage.noConfusion h
    | back => exact Or.inr (Or.inl ⟨text, rfl, hmeaning⟩)
    | text words =>
      cases hrequest : shown.request? words with
      | some request => exact Or.inl ⟨request, text, words, rfl, hmeaning, hrequest⟩
      | none =>
        obtain ⟨complaint, hanswer⟩ := Presentation.answer_of_request?_eq_none prompts hrequest
        simp only [respond, hmeaning, hanswer, stage_after] at h
        refine Or.inr (Or.inr ⟨?_, ?_, asks_of_view prompts h⟩)
        · rintro request ⟨text', words', htext, hwords, hasks⟩
          cases htext
          cases hmeaning.symm.trans hwords
          exact absurd (hrequest.symm.trans hasks) (by simp)
        · rintro ⟨text', htext, hback⟩
          cases htext
          exact absurd (hmeaning.symm.trans hback) (by simp)

/-! ## Where a play stands -/

/-- The answer is refused for a cycle of branches. -/
def Misled (session : Session) (shown : Presentation) (line : Text.Line) : Prop :=
  ∃ request position, shown.Asks line request ∧
    session.answer (.ask request) = some (.error (.branchCycle position))

theorem misled_iff (asks : shown.Asks line request) :
    Misled session shown line ↔
      ∃ position, session.answer (.ask request) = some (.error (.branchCycle position)) := by
  constructor
  · rintro ⟨other, position, hother, hcycle⟩
    cases asks.unique hother
    exact ⟨position, hcycle⟩
  · rintro ⟨position, hcycle⟩
    exact ⟨request, position, asks, hcycle⟩

/-- **How a play stands where it asks.** The prompt shows the current step, unless the session is
caught in a cycle of branches; then there is something to go back to. -/
structure Standing (session : Session) (shown : Presentation) (lost : Prop) : Prop where
  reachable : session.Reachable
  room : 0 < session.history.limit
  prompts : Prompts shown
  shows : ¬ lost → session.Shows shown
  endless : lost → session.script.Endless session.state
  wayBack : lost → session.history.snapshots ≠ []

theorem Standing.congr {lost lost' : Prop} (standing : Standing session shown lost)
    (h : lost' ↔ lost) : Standing session shown lost' :=
  propext h ▸ standing

/-- Where the session rests on what is viewed, the play stands well at the next prompt. -/
theorem Standing.of_view {lost : Prop} (reachable : session.Reachable)
    (room : 0 < session.history.limit) (shows : session.Shows shown)
    (h : (view debug session shown).stage = .asking asked prompt) (well : ¬ lost) :
    Standing asked prompt lost := by
  obtain ⟨hshows, hprompts, ⟨requests, rfl⟩, -⟩ := asks_of_follow shows h
  refine ⟨Session.reachable_afterAll reachable _, ?_, hprompts, fun _ => hshows,
    fun hlost => absurd hlost well, fun hlost => absurd hlost well⟩
  rw [Session.serve, Session.limit_afterAll]
  exact room

variable {lost : Prop}

/-- An answer that is refused for a cycle loses the session. -/
theorem Standing.of_cycle (standing : Standing session shown lost) {position : Position}
    (refused : session.answer (.ask request) = some (.error (.branchCycle position)))
    {lost' : Prop} (hlost : lost') : Standing (session.after (.ask request)) shown lost' := by
  refine ⟨standing.reachable.call _, ?_, standing.prompts, absurd hlost, fun _ => ?_, fun _ => ?_⟩
  · rw [Session.limit_after]
    exact standing.room
  · rw [Session.script_after]
    exact Session.endless_after_cycle refused
  · rcases Session.refusal_cases refused with ⟨-, hafter, hcycle⟩ | ⟨next, departs, -, -, hafter⟩
    · rw [hafter, Session.history_rested]
      apply standing.wayBack
      by_contra hwell
      exact Script.not_endless_of_not_onBranch (standing.shows hwell).rests (hcycle.mpr ⟨_, rfl⟩)
    · obtain ⟨room, hroom⟩ := Nat.exists_eq_succ_of_ne_zero standing.room.ne'
      rw [hafter, Session.history_rested, Session.history_departed, History.snapshots_push, hroom]
      exact List.cons_ne_nil _ _

/-- Any other refusal leaves the session on the step that is shown. -/
theorem Standing.after_refusal (standing : Standing session shown lost) {error : SessionError}
    (refused : session.answer (.ask request) = some (.error error))
    (other : ¬ ∃ position, error = .branchCycle position) :
    ¬ lost ∧ session.after (.ask request) = session := by
  have hwell : ¬ lost := by
    intro hlost
    obtain ⟨hcycle, -⟩ := Session.ask_of_endless request (standing.endless hlost)
    exact other ⟨_, by simpa using refused.symm.trans hcycle⟩
  exact ⟨hwell, Session.after_of_refused (standing.shows hwell).rests refused other⟩

/-- An accepted answer is none of a lost session. -/
theorem Standing.not_lost_of_accepted (standing : Standing session shown lost)
    {next : Presentation} (accepted : session.answer (.ask request) = some (.ok next)) :
    ¬ lost := by
  intro hlost
  obtain ⟨hcycle, -⟩ := Session.ask_of_endless request (standing.endless hlost)
  exact absurd (accepted.symm.trans hcycle) (by simp)

/-- **What a line changes**: an answer that runs into a cycle loses the session, going back finds it
again, and other lines leave things as they are. -/
theorem Standing.typed (standing : Standing session shown lost)
    (h : (respond debug session shown line).stage = .asking asked prompt) :
    Standing asked prompt (Misled session shown line ∨ lost ∧ ¬ line.GoesBack) := by
  have hroom : ∀ call, 0 < (session.after call).history.limit := by
    intro call
    rw [Session.limit_after]
    exact standing.room
  rcases asks_or_goesBack standing.prompts h with ⟨request, asks⟩ | back | ⟨hasks, hback, rfl, rfl⟩
  · obtain ⟨outcome, hanswer⟩ : ∃ outcome, session.answer (.ask request) = some outcome := ⟨_, rfl⟩
    rw [misled_iff asks, hanswer]
    cases outcome with
    | ok next =>
      have hwell := standing.not_lost_of_accepted hanswer
      rw [respond_of_accepted asks hanswer] at h
      exact .of_view (standing.reachable.call _) (hroom _) (.of_answer hanswer) h (by simp [hwell])
    | error error =>
      rw [respond_of_refused asks hanswer, stage_after] at h
      obtain ⟨rfl, rfl⟩ := asks_of_view standing.prompts h
      by_cases hcycle : ∃ position, error = .branchCycle position
      · obtain ⟨position, rfl⟩ := hcycle
        exact standing.of_cycle hanswer (Or.inl ⟨position, rfl⟩)
      · obtain ⟨hwell, hsame⟩ := standing.after_refusal hanswer hcycle
        rw [hsame]
        refine standing.congr (iff_of_false ?_ hwell)
        rintro (⟨position, hposition⟩ | ⟨hlost, -⟩)
        · exact hcycle ⟨position, by simpa using hposition⟩
        · exact hwell hlost
  · have hmisled : ¬ Misled session shown line := fun ⟨_, _, asks, _⟩ => asks.not_goesBack back
    rcases Session.undo_cases (Session.sound_of_reachable standing.reachable) with
      ⟨hnil, hnone, -⟩ | ⟨_, _, previous, -, hundone, -⟩
    · rw [respond_of_not_undone back hnone, stage_after] at h
      obtain ⟨rfl, rfl⟩ := asks_of_view standing.prompts h
      have hwell : ¬ lost := fun hlost => standing.wayBack hlost hnil
      exact standing.congr (iff_of_false (by simp [hmisled, hwell]) hwell)
    · rw [respond_of_undone back hundone, stage_after] at h
      exact .of_view (standing.reachable.call _) (hroom _) (.of_answer hundone) h
        (by simp [hmisled, back])
  · have hmisled : ¬ Misled asked prompt line := fun ⟨request, _, asks, _⟩ => hasks request asks
    exact standing.congr (by simp [hmisled, hback])

/-! ## Lines typed one after another -/

/-- The scene after a line; a play that is over takes none. -/
def typed (debug : Bool) (scene : Scene) (line : Text.Line) : Scene :=
  match scene.stage with
  | .asking session shown => after scene.output (respond debug session shown line)
  | .finished .. => scene

/-- The scene after several lines. -/
def typedAll (debug : Bool) (scene : Scene) (lines : List Text.Line) : Scene :=
  lines.foldl (typed debug) scene

variable {scene : Scene}

theorem typed_of_asking (h : scene.stage = .asking session shown) (line : Text.Line) :
    typed debug scene line = after scene.output (respond debug session shown line) := by
  unfold typed
  rw [h]

theorem typed_of_finished {error : Option PlayError} (h : scene.stage = .finished session error)
    (line : Text.Line) : typed debug scene line = scene := by
  unfold typed
  rw [h]

/-- What was printed before makes no difference to a play. -/
theorem finish_after (printed : List Display) (scene : Scene) (lines : List Text.Line) :
    (after printed scene).finish debug lines = after printed (scene.finish debug lines) := by
  cases lines <;> cases hstage : scene.stage <;> simp [finish, hstage]

theorem finish_cons (scene : Scene) (line : Text.Line) (lines : List Text.Line) :
    scene.finish debug (line :: lines) = (typed debug scene line).finish debug lines := by
  cases hstage : scene.stage with
  | asking session shown =>
    rw [typed_of_asking hstage, finish_after, finish, hstage]
  | finished session error =>
    rw [typed_of_finished hstage]
    cases lines <;> simp [finish, hstage]

/-- **A play goes on from the scene that its lines have led to.** -/
theorem finish_append (scene : Scene) (lines later : List Text.Line) :
    scene.finish debug (lines ++ later) = (typedAll debug scene lines).finish debug later := by
  induction lines generalizing scene with
  | nil => rfl
  | cons line lines ih =>
    rw [List.cons_append, finish_cons, ih]
    rfl

@[simp] theorem typedAll_nil (debug : Bool) (scene : Scene) : typedAll debug scene [] = scene := rfl

theorem typedAll_concat (scene : Scene) (lines : List Text.Line) (line : Text.Line) :
    typedAll debug scene (lines ++ [line]) = typed debug (typedAll debug scene lines) line := by
  rw [typedAll, List.foldl_append]
  rfl

/-- The last line of those that lead to a prompt was typed at a prompt. -/
theorem exists_asking_of_typed (h : (typed debug scene line).stage = .asking asked prompt) :
    ∃ session shown, scene.stage = .asking session shown ∧
      (respond debug session shown line).stage = .asking asked prompt := by
  cases hstage : scene.stage with
  | asking session shown =>
    rw [typed_of_asking hstage, stage_after] at h
    exact ⟨session, shown, rfl, h⟩
  | finished session error =>
    rw [typed_of_finished hstage, hstage] at h
    exact Stage.noConfusion h

/-- The lines have led the play astray: an answer was refused for a cycle of branches, and no line
since has gone back. -/
def Strayed (debug : Bool) (scene : Scene) (lines : List Text.Line) : Prop :=
  ∃ before line later session shown, lines = before ++ line :: later ∧
    (typedAll debug scene before).stage = .asking session shown ∧ Misled session shown line ∧
    ∀ line ∈ later, ¬ line.GoesBack

theorem not_strayed_nil : ¬ Strayed debug scene [] := by
  rintro ⟨before, line, later, session, shown, hlines, -⟩
  exact absurd hlines (by simp)

theorem strayed_concat_iff {lines : List Text.Line}
    (h : (typedAll debug scene lines).stage = .asking session shown) :
    Strayed debug scene (lines ++ [line]) ↔
      Misled session shown line ∨ Strayed debug scene lines ∧ ¬ line.GoesBack := by
  constructor
  · rintro ⟨before, misled, later, session', shown', hlines, hstage, hmisled, hback⟩
    rcases List.eq_nil_or_concat later with rfl | ⟨later, last, rfl⟩
    · obtain ⟨rfl, hline⟩ := List.append_inj' hlines rfl
      obtain rfl := (List.cons.inj hline).1
      obtain ⟨rfl, rfl⟩ := Stage.asking.inj (h.symm.trans hstage)
      exact Or.inl hmisled
    · rw [List.concat_eq_append, ← List.cons_append, ← List.append_assoc] at hlines
      obtain ⟨rfl, hline⟩ := List.append_inj' hlines rfl
      obtain rfl := (List.cons.inj hline).1
      rw [List.concat_eq_append] at hback
      refine Or.inr ⟨⟨before, misled, later, session', shown', rfl, hstage, hmisled, ?_⟩, ?_⟩
      · exact fun line hmem => hback line (List.mem_append_left _ hmem)
      · exact hback line (by simp)
  · rintro (hmisled | ⟨⟨before, misled, later, session', shown', rfl, hstage, hmisled, hback⟩,
      hline⟩)
    · exact ⟨lines, line, [], session, shown, rfl, h, hmisled, by simp⟩
    · refine ⟨before, misled, later ++ [line], session', shown', by simp, hstage, hmisled, ?_⟩
      intro other hmem
      rcases List.mem_append.mp hmem with hmem | hmem
      · exact hback other hmem
      · rw [List.mem_singleton.mp hmem]
        exact hline

/-- **How a play stands at every prompt.** -/
theorem standing_typedAll (reachable : session.Reachable) (room : 0 < session.history.limit)
    {lines : List Text.Line}
    (asks : (typedAll debug (start debug session) lines).stage = .asking asked shown) :
    Standing asked shown (Strayed debug (start debug session) lines) := by
  induction lines using List.reverseRecOn generalizing asked shown with
  | nil =>
    obtain ⟨outcome, hanswer⟩ : ∃ outcome, session.answer (.ask .present) = some outcome := ⟨_, rfl⟩
    cases outcome with
    | ok first =>
      rw [typedAll_nil, start_of_presents hanswer] at asks
      refine .of_view (reachable.call _) ?_ (.of_answer hanswer) asks not_strayed_nil
      rw [Session.limit_after]
      exact room
    | error error =>
      rw [typedAll_nil, start_of_refused hanswer] at asks
      exact Stage.noConfusion asks
  | append_singleton lines line ih =>
    rw [typedAll_concat] at asks
    obtain ⟨session', shown', hstage, hresponse⟩ := exists_asking_of_typed asks
    exact ((ih hstage).typed hresponse).congr (strayed_concat_iff hstage)

/-- **Which prompts show the current step.** A play that asks after some lines, and goes on from
there with all others, shows the current step of the session iff no answer has run into a cycle of
branches since the player last went back; then an answer asks for what that step waits for.
Otherwise the session is on a branch: every request is refused for a cycle, and going back helps. -/
theorem shows_current_iff (reachable : session.Reachable) (room : 0 < session.history.limit)
    (lines : List Text.Line)
    (asks : (typedAll debug (start debug session) lines).stage = .asking asked shown) :
    (∀ later, session.play debug (lines ++ later) =
        (typedAll debug (start debug session) lines).finish debug later) ∧
    (asked.answer (.ask .present) = some (.ok shown) ∧ asked.after (.ask .present) = asked ↔
      ¬ Strayed debug (start debug session) lines) ∧
    (¬ Strayed debug (start debug session) lines → shown = .ofStep asked.director.current ∧
      ∀ line request, shown.Asks line request → request.Answers asked.director.current.kind) ∧
    (Strayed debug (start debug session) lines → asked.director.current.kind = .branch ∧
      (∀ request, ∃ position,
        asked.answer (.ask request) = some (.error (.branchCycle position))) ∧
      ∃ previous, asked.answer .undo = some (.ok previous)) := by
  have standing := standing_typedAll reachable room asks
  refine ⟨finish_append _ lines, ⟨?_, fun hwell => (standing.shows hwell).present⟩, ?_, ?_⟩
  · rintro ⟨hpresents, -⟩ hlost
    obtain ⟨hcycle, -⟩ := Session.ask_of_endless .present (standing.endless hlost)
    exact absurd (hpresents.symm.trans hcycle) (by simp)
  · intro hwell
    have hshown : shown = .ofStep asked.director.current := (standing.shows hwell).shows
    refine ⟨hshown, fun line request hasks => ?_⟩
    rw [hshown] at hasks
    exact hasks.answers
  · intro hlost
    have hendless := standing.endless hlost
    refine ⟨hendless 0, fun request => ⟨_, (Session.ask_of_endless request hendless).1⟩, ?_⟩
    rcases Session.undo_cases (Session.sound_of_reachable standing.reachable) with
      ⟨hnil, -⟩ | ⟨_, _, previous, -, hundone, -⟩
    · exact absurd hnil (standing.wayBack hlost)
    · exact ⟨previous, hundone⟩

/-- A game of dice whose win leads into a branch to itself. -/
def winsLoop : Session := .fresh
  ⟨[.startGame .dice, .awaitResult .lastResult, .branch .lastResult ⟨some 2, none, none, none⟩,
    .say .narrator "A pity."]⟩

/-- The session that won. -/
def wonLoop : Session := winsLoop.serve [.proceed, .report .win]

/-- After a win the player is asked for the result again. -/
theorem asking_winsLoop : (typedAll false (start false winsLoop) [.text "win\n"]).stage =
    .asking wonLoop (.awaitingResult .lastResult) := by
  decide +kernel

/-- The session no longer awaits the result that the player is asked for. -/
theorem asks_for_another_step_winsLoop :
    (typedAll false (start false winsLoop) [.text "win\n"]).stage =
      .asking wonLoop (.awaitingResult .lastResult) ∧
    wonLoop.answer (.ask .present) ≠ some (.ok (.awaitingResult .lastResult)) ∧
    wonLoop.answer (.ask (.report .lose)) = some (.error (.branchCycle 2)) :=
  ⟨asking_winsLoop, by decide +kernel, by decide +kernel⟩

/-- The win has led the play astray, and going back helps. -/
theorem shows_current_winsLoop :
    winsLoop.Reachable ∧ 0 < winsLoop.history.limit ∧
    Strayed false (start false winsLoop) [.text "win\n"] ∧
    ∃ previous, wonLoop.answer .undo = some (.ok previous) := by
  have hreachable : winsLoop.Reachable := .fresh _ _
  have hroom : 0 < winsLoop.history.limit := by decide
  obtain ⟨-, hshows, -, hlost⟩ := shows_current_iff hreachable hroom _ asking_winsLoop
  have hstrayed : Strayed false (start false winsLoop) [.text "win\n"] := by
    by_contra hwell
    have hpresents := (hshows.mpr hwell).1
    exact absurd hpresents (by decide +kernel)
  exact ⟨hreachable, hroom, hstrayed, (hlost hstrayed).2.2⟩

end Scene

end Narrative
