import Mathlib.Logic.Relation
import Narrative.Proofs.Prompts

/-!
# The loop of the player

The player is a loop. A round goes through one marker, or reads one line at a prompt, or stops the
play; a counter of the markers since the last line stops it when there are too many. The scenes of
the player do many rounds at once: `Scene.follow` goes through all markers that are allowed, and
`Scene.respond` also through those behind an answer.

This file states the loop round by round (`PlayLoop.round`), without a bound on the number of
rounds, and finds the scenes in it. A round that goes on has either read a line or counted a marker.
So what is left of both decreases, the lines before the markers (`rank`): behind a line the counter
starts again, and going back can lead to markers that were gone through before.

Results:
* `way`: the ways a round can end;
* `scene_round`: a scene is what a round prints, and then the scene that the round leads to;
* `rank_lt`, `halts_scene`: the loop halts, with the scene of the player;
* `Regular.leads`, `Visited.regular`: a round keeps, and a play has, the session on the marker that
  is shown, whatever state it started from;
* **`loop_halts`**: the loop halts on all input, and it gives up iff it comes to a chain of markers
  that never ends.
-/

namespace Narrative

open Scene

/-! ## The loop -/

/-- The loop of the player before a round. -/
structure PlayLoop where
  session : Session
  /-- what the session showed last -/
  shown : Presentation
  /-- how many markers were gone through since the last line -/
  unattended : Nat
  /-- the input that is left -/
  lines : List Text.Line

namespace PlayLoop

/-- What comes after a round. -/
inductive Outcome
  | goesOn (loop : PlayLoop)
  | stops (session : Session) (error : Option PlayError)

/-- Go on after a turn; if it was refused, with what was shown before. -/
def answered (loop : PlayLoop) (reply : Reply Presentation) : List Display × Outcome :=
  match reply.outcome with
  | .ok next => ([], .goesOn { loop with session := reply.session, shown := next })
  | .error error => ([.refusal error.message], .goesOn { loop with session := reply.session })

/-- Answer what is shown with a line. -/
def read (loop : PlayLoop) : Text.Line → List Display × Outcome
  | .closed => ([.goodbye], .stops loop.session none)
  | .unreadable => ([], .stops loop.session (some .unreadable))
  | .text line =>
    match Answer.ofLine line with
    | .quit => ([.goodbye], .stops loop.session none)
    | .back =>
      match loop.session.undo? with
      | some reply => (.wentBack :: (loop.answered reply).1, (loop.answered reply).2)
      | none => ([.cannotUndo], .goesOn loop)
    | .text words =>
      match loop.shown.answer words with
      | .ok move => loop.answered (move loop.session)
      | .error text => ([.refusal text], .goesOn loop)

/-- One round: what it prints, and what comes after it. -/
def round (debug : Bool) (loop : PlayLoop) : List Display × Outcome :=
  let status := status debug loop.session
  if isMarker loop.shown then
    if markerLimit loop.session < loop.unattended + 1 then
      (status, .stops loop.session (some (.endlessMarkers loop.session.position)))
    else
      let reply := Session.proceed loop.session
      (status ++ display loop.shown,
        match reply.outcome with
        | .ok next =>
          .goesOn ⟨reply.session, next, loop.unattended + 1, loop.lines⟩
        | .error error => .stops reply.session (some (.session error)))
  else if loop.shown = .ended then (status ++ display loop.shown, .stops loop.session none)
  else
    let reading : PlayLoop := ⟨loop.session, loop.shown, 0, loop.lines.tail⟩
    let answer := reading.read (loop.lines.headD .closed)
    (status ++ display loop.shown ++ answer.1, answer.2)

/-- What comes before the first round. -/
def start (session : Session) (lines : List Text.Line) : Outcome :=
  let reply := Session.present session
  match reply.outcome with
  | .ok shown => .goesOn ⟨reply.session, shown, 0, lines⟩
  | .error error => .stops reply.session (some (.session error))

/-- The loop halts after so many rounds, in a scene with everything that was printed. -/
inductive Halts (debug : Bool) : Outcome → Nat → Scene → Prop
  | stops (session : Session) (error : Option PlayError) :
      Halts debug (.stops session error) 0 (finished session [] error)
  | goesOn {loop : PlayLoop} {n : Nat} {scene : Scene}
      (later : Halts debug (loop.round debug).2 n scene) :
      Halts debug (.goesOn loop) (n + 1) (after (loop.round debug).1 scene)

/-- A round leads from one loop to the next. -/
def Leads (debug : Bool) (loop next : PlayLoop) : Prop := (loop.round debug).2 = .goesOn next

/-- The loop before some round of a play. -/
def Visited (debug : Bool) (session : Session) (lines : List Text.Line) (loop : PlayLoop) : Prop :=
  ∃ first, start session lines = .goesOn first ∧ Relation.ReflTransGen (Leads debug) first loop

/-- So many rounds in a row go through markers. -/
inductive Passes (debug : Bool) (loop : PlayLoop) : Nat → PlayLoop → Prop
  | none : Passes debug loop 0 loop
  | marker {next last : PlayLoop} {n : Nat} (earlier : Passes debug loop n next)
      (marker : isMarker next.shown = true) (leads : Leads debug next last) :
      Passes debug loop (n + 1) last

variable {debug : Bool} {loop next : PlayLoop} {session : Session} {lines : List Text.Line}

/-! ## What a round can do -/

/-- **The ways a round can end.** -/
inductive Way (debug : Bool) (loop : PlayLoop) : Prop
  /-- there are too many markers -/
  | spent (marker : isMarker loop.shown = true)
      (limit : markerLimit loop.session ≤ loop.unattended)
      (round : loop.round debug = (status debug loop.session,
        .stops loop.session (some (.endlessMarkers loop.session.position))))
  /-- a marker is gone through -/
  | passed {shown : Presentation} (marker : isMarker loop.shown = true)
      (left : loop.unattended < markerLimit loop.session)
      (proceeds : loop.session.answer (.ask .proceed) = some (.ok shown))
      (round : loop.round debug = (status debug loop.session ++ display loop.shown,
        .goesOn ⟨loop.session.after (.ask .proceed), shown, loop.unattended + 1, loop.lines⟩))
  /-- a marker leads into a cycle of branches -/
  | trapped {error : SessionError} (marker : isMarker loop.shown = true)
      (left : loop.unattended < markerLimit loop.session)
      (refused : loop.session.answer (.ask .proceed) = some (.error error))
      (round : loop.round debug = (status debug loop.session ++ display loop.shown,
        .stops (loop.session.after (.ask .proceed)) (some (.session error))))
  /-- the end is shown -/
  | ended (ended : loop.shown = .ended)
      (round : loop.round debug =
        (status debug loop.session ++ display loop.shown, .stops loop.session none))
  /-- a prompt is shown, and a line is read -/
  | asked (prompts : Prompts loop.shown)
      (round : loop.round debug =
        (status debug loop.session ++ display loop.shown ++
            (read ⟨loop.session, loop.shown, 0, loop.lines.tail⟩ (loop.lines.headD .closed)).1,
          (read ⟨loop.session, loop.shown, 0, loop.lines.tail⟩ (loop.lines.headD .closed)).2))

/-- **Every round ends in one of the ways.** -/
theorem way (debug : Bool) (loop : PlayLoop) : Way debug loop := by
  cases hmarker : isMarker loop.shown with
  | true =>
    by_cases hspent : markerLimit loop.session < loop.unattended + 1
    · refine .spent hmarker (by omega) ?_
      unfold round
      rw [if_pos hmarker, if_pos hspent]
    · cases houtcome : (Session.proceed loop.session).outcome with
      | ok shown =>
        refine .passed hmarker (by omega) (Session.answer_ask_iff.mpr houtcome) ?_
        unfold round
        rw [if_pos hmarker, if_neg hspent]
        simp only [houtcome]
        rfl
      | error error =>
        refine .trapped hmarker (by omega) (Session.answer_ask_iff.mpr houtcome) ?_
        unfold round
        rw [if_pos hmarker, if_neg hspent]
        simp only [houtcome]
        rfl
  | false =>
    have hpasses : ¬ isMarker loop.shown = true := by simp [hmarker]
    by_cases hended : loop.shown = .ended
    · refine .ended hended ?_
      unfold round
      rw [if_neg hpasses, if_pos hended]
    · refine .asked ⟨hmarker, hended⟩ ?_
      unfold round
      rw [if_neg hpasses, if_neg hended]

/-- **What a line that does not end the play leads to.** -/
inductive Heeds (loop : PlayLoop) : PlayLoop → Prop
  /-- the session does not learn of the line -/
  | ignored : Heeds loop loop
  /-- the session answers, and its answer is shown -/
  | moved {call : Call} {shown : Presentation}
      (accepted : loop.session.answer call = some (.ok shown)) :
      Heeds loop { loop with session := loop.session.after call, shown }
  /-- the session refuses, and the prompt is shown again -/
  | refused {call : Call} {error : SessionError}
      (refused : loop.session.answer call = some (.error error)) :
      Heeds loop { loop with session := loop.session.after call }

/-- Going on after the reply to a call. -/
theorem heeds_of_answered {call : Call} {reply : Reply Presentation}
    (answer : loop.session.answer call = some reply.outcome)
    (left : loop.session.after call = reply.session)
    (h : (loop.answered reply).2 = .goesOn next) : Heeds loop next := by
  unfold answered at h
  cases houtcome : reply.outcome with
  | ok shown =>
    rw [houtcome] at h answer
    obtain rfl := Outcome.goesOn.inj h
    rw [← left]
    exact .moved answer
  | error error =>
    rw [houtcome] at h answer
    obtain rfl := Outcome.goesOn.inj h
    rw [← left]
    exact .refused answer

theorem heeds_of_read (prompts : Prompts loop.shown) {line : Text.Line}
    (h : (loop.read line).2 = .goesOn next) : Heeds loop next := by
  cases line with
  | closed | unreadable => exact Outcome.noConfusion h
  | text text =>
    cases hmeaning : Answer.ofLine text with
    | quit =>
      simp only [read, hmeaning] at h
      exact Outcome.noConfusion h
    | back =>
      simp only [read, hmeaning] at h
      cases hundo : loop.session.undo? with
      | none =>
        rw [hundo] at h
        obtain rfl := Outcome.goesOn.inj h
        exact .ignored
      | some reply =>
        rw [hundo] at h
        have hanswer : loop.session.answer .undo = some reply.outcome := by
          simp [Session.answer, hundo]
        have hleft : loop.session.after .undo = reply.session := by simp [Session.after, hundo]
        exact heeds_of_answered hanswer hleft h
    | text words =>
      simp only [read, hmeaning] at h
      cases hrequest : loop.shown.request? words with
      | some request =>
        rw [Presentation.answer_of_request? hrequest] at h
        exact @heeds_of_answered _ _ (.ask request) _ rfl rfl h
      | none =>
        obtain ⟨text, hanswer⟩ := Presentation.answer_of_request?_eq_none prompts hrequest
        rw [hanswer] at h
        obtain rfl := Outcome.goesOn.inj h
        exact .ignored

/-- A line never makes the player give up. -/
theorem read_ne_endless (line : Text.Line) (left : Session) (position : Position) :
    (loop.read line).2 ≠ .stops left (some (.endlessMarkers position)) := by
  have hanswered : ∀ reply, (loop.answered reply).2 ≠
      .stops left (some (.endlessMarkers position)) := by
    intro reply
    unfold answered
    split <;> simp
  cases line with
  | closed | unreadable => simp [read]
  | text text =>
    simp only [read]
    split
    · simp
    · split
      · exact hanswered _
      · simp
    · split
      · exact hanswered _
      · simp

/-- **The ways a round can go on.** -/
inductive Continues (loop : PlayLoop) : PlayLoop → Prop
  /-- a marker is gone through -/
  | marker {shown : Presentation} (marker : isMarker loop.shown = true)
      (left : loop.unattended < markerLimit loop.session)
      (proceeds : loop.session.answer (.ask .proceed) = some (.ok shown)) :
      Continues loop ⟨loop.session.after (.ask .proceed), shown, loop.unattended + 1, loop.lines⟩
  /-- a line is read -/
  | line {line : Text.Line} {rest : List Text.Line} {next : PlayLoop} (prompts : Prompts loop.shown)
      (lines : loop.lines = line :: rest)
      (heeds : Heeds ⟨loop.session, loop.shown, 0, rest⟩ next) : Continues loop next

theorem continues_of_leads (leads : loop.Leads debug next) : Continues loop next := by
  unfold Leads at leads
  cases way debug loop with
  | spent _ _ round | trapped _ _ _ round | ended _ round =>
    rw [round] at leads
    exact Outcome.noConfusion leads
  | passed marker left proceeds round =>
    rw [round] at leads
    obtain rfl := Outcome.goesOn.inj leads
    exact .marker marker left proceeds
  | asked prompts round =>
    rw [round] at leads
    cases hlines : loop.lines with
    | nil =>
      rw [hlines] at leads
      exact Outcome.noConfusion leads
    | cons line rest =>
      rw [hlines] at leads
      exact .line prompts hlines (heeds_of_read prompts leads)

/-- Only a marker makes the player give up, and only if the limit is reached. -/
theorem spent_of_gives_up {left : Session} {position : Position}
    (h : (loop.round debug).2 = .stops left (some (.endlessMarkers position))) :
    isMarker loop.shown = true ∧ markerLimit loop.session ≤ loop.unattended := by
  cases way debug loop with
  | spent marker limit _ => exact ⟨marker, limit⟩
  | passed _ _ _ round | trapped _ _ _ round | ended _ round =>
    rw [round] at h
    simp at h
  | asked _ round =>
    rw [round] at h
    exact absurd h (read_ne_endless _ _ _)

/-- A play starts with what the session shows, unless it is caught in a cycle of branches. -/
theorem start_cases (session : Session) (lines : List Text.Line) :
    (∃ shown, session.answer (.ask .present) = some (.ok shown) ∧
        start session lines = .goesOn ⟨session.after (.ask .present), shown, 0, lines⟩) ∨
      ∃ error, session.answer (.ask .present) = some (.error error) ∧
        start session lines = .stops (session.after (.ask .present)) (some (.session error)) := by
  unfold start
  cases houtcome : (Session.present session).outcome with
  | ok shown =>
    simp only [houtcome]
    exact Or.inl ⟨shown, Session.answer_ask_iff.mpr houtcome, rfl⟩
  | error error =>
    simp only [houtcome]
    exact Or.inr ⟨error, Session.answer_ask_iff.mpr houtcome, rfl⟩

/-! ## What rounds preserve -/

theorem Heeds.script (h : Heeds loop next) : next.session.script = loop.session.script := by
  cases h with
  | ignored => rfl
  | moved _ | refused _ => exact Session.script_after _ _

theorem Continues.script (continues : Continues loop next) :
    next.session.script = loop.session.script := by
  cases continues with
  | marker _ _ _ => exact Session.script_after _ _
  | line _ _ heeds => exact heeds.script

/-- A line leaves the counter at the beginning, and the rest of the input as it is. -/
theorem Heeds.frame (h : Heeds loop next) :
    next.unattended = loop.unattended ∧ next.lines = loop.lines := by
  cases h <;> exact ⟨rfl, rfl⟩

/-- The session rests on what is shown, or it is caught in a cycle of branches while a prompt is
shown. -/
def Rests (loop : PlayLoop) : Prop :=
  loop.session.Shows loop.shown ∨
    Prompts loop.shown ∧ loop.session.script.Endless loop.session.state

/-- Markers are shown where the session is. -/
theorem Rests.onMarker_iff (rests : loop.Rests) :
    loop.session.script.OnMarker loop.session.state ↔ isMarker loop.shown = true := by
  rcases rests with shows | ⟨prompts, caught⟩
  · exact shows.onMarker_iff
  · refine iff_of_false (fun hon => hon.not_onBranch (caught 0)) ?_
    simp [prompts.waits]

/-- A refused call leaves the session where it is, or catches it. -/
theorem Rests.refused (rests : loop.Rests) (prompts : Prompts loop.shown) {call : Call}
    {error : SessionError} (refused : loop.session.answer call = some (.error error)) :
    Rests { loop with session := loop.session.after call } := by
  by_cases hcycle : ∃ position, error = .branchCycle position
  · obtain ⟨position, rfl⟩ := hcycle
    refine Or.inr ⟨prompts, ?_⟩
    rw [Session.script_after]
    exact Session.endless_after_cycle refused
  · obtain shows | ⟨-, hcaught⟩ := rests
    · rw [Session.after_of_refused shows.rests refused hcycle]
      exact Or.inl shows
    · cases call with
      | ask request =>
        obtain ⟨hcaught, -⟩ := Session.ask_of_endless request hcaught
        exact absurd ⟨_, by simpa using refused.symm.trans hcaught⟩ hcycle
      | undo => exact absurd (Session.exists_cycle_of_undo refused) hcycle

/-- **What holds before every round of a play.** -/
structure Regular (script : Script) (loop : PlayLoop) : Prop where
  /-- the script is the one that is played -/
  script_eq : loop.session.script = script
  /-- the counter has not passed its limit -/
  within : loop.unattended ≤ script.length + 1
  /-- markers are gone through where the session is -/
  rests : loop.Rests

variable {script : Script}

theorem Regular.limit (regular : loop.Regular script) :
    markerLimit loop.session = script.length + 1 :=
  congrArg (·.length + 1) regular.script_eq

/-- **A round keeps what holds.** -/
theorem Regular.leads (regular : loop.Regular script) (leads : loop.Leads debug next) :
    next.Regular script := by
  have continues := continues_of_leads leads
  refine ⟨continues.script.trans regular.script_eq, ?_, ?_⟩
  · cases continues with
    | marker _ left _ =>
      rw [regular.limit] at left
      exact left
    | line _ _ heeds =>
      rw [heeds.frame.1]
      exact Nat.zero_le _
  · cases continues with
    | marker _ _ proceeds => exact Or.inl (.of_answer proceeds)
    | line prompts _ heeds =>
      cases heeds with
      | ignored => exact regular.rests
      | moved accepted => exact Or.inl (.of_answer accepted)
      | refused refused => exact @Rests.refused loop regular.rests prompts _ _ refused

theorem regular_of_start {first : PlayLoop} (h : start session lines = .goesOn first) :
    first.Regular session.script ∧ first.unattended = 0 ∧ first.lines = lines := by
  rcases start_cases session lines with ⟨shown, hanswer, hstart⟩ | ⟨error, -, hstart⟩
  · obtain rfl := Outcome.goesOn.inj (hstart.symm.trans h)
    have hscript := Session.script_after session (.ask .present)
    exact ⟨⟨hscript, Nat.zero_le _, Or.inl (.of_answer hanswer)⟩, rfl, rfl⟩
  · exact Outcome.noConfusion (hstart.symm.trans h)

/-- A round at a marker takes a step of the walk through markers, and counts it. -/
theorem Regular.passed (regular : loop.Regular script) (marker : isMarker loop.shown = true)
    (leads : loop.Leads debug next) :
    next.unattended = loop.unattended + 1 ∧
      next.session.state = script.passed loop.session.state := by
  obtain ⟨hstate, -, -⟩ := Session.proceed_of_onMarker (regular.rests.onMarker_iff.mpr marker)
  rw [regular.script_eq] at hstate
  cases continues_of_leads leads with
  | marker _ _ _ => exact ⟨rfl, hstate⟩
  | line prompts _ _ => exact absurd (prompts.waits.symm.trans marker) (by simp)

/-- **What holds throughout a play.** -/
theorem Visited.regular (visited : Visited debug session lines loop) :
    loop.Regular session.script := by
  obtain ⟨first, hstart, hleads⟩ := visited
  induction hleads with
  | refl => exact (regular_of_start hstart).1
  | tail _ leads ih => exact ih.leads leads

/-! ## The end of the loop -/

/-- How many rounds are left at most. Lines come first: reading one starts the counter again. -/
def rank (loop : PlayLoop) : Nat :=
  loop.lines.length * (markerLimit loop.session + 1) +
    (markerLimit loop.session - loop.unattended) + 1

/-- **Each round leaves fewer.** -/
theorem rank_lt (regular : loop.Regular script) (leads : loop.Leads debug next) :
    next.rank < loop.rank := by
  have hlimit : markerLimit next.session = markerLimit loop.session :=
    (regular.leads leads).limit.trans regular.limit.symm
  unfold rank
  rw [hlimit]
  cases continues_of_leads leads with
  | marker _ left _ =>
    simp only
    omega
  | @line line rest _ _ hlines heeds =>
    have hcounts : next.unattended = 0 := heeds.frame.1
    have hrest : next.lines = rest := heeds.frame.2
    rw [hcounts, hrest, hlines, List.length_cons, Nat.succ_mul]
    omega

/-- The scene of the player from an outcome on. -/
def Outcome.scene (debug : Bool) : Outcome → Scene
  | .goesOn loop =>
    (follow debug (markerLimit loop.session - loop.unattended) loop.session loop.shown).finish debug
      loop.lines
  | .stops session error => finished session [] error

theorem finish_finished (session : Session) (printed : List Display) (error : Option PlayError)
    (lines : List Text.Line) :
    (finished session printed error).finish debug lines = finished session printed error := by
  cases lines <;> rfl

/-- The player responds to a line by reading it and going on. -/
theorem finish_respond (loop : PlayLoop) (counts : loop.unattended = 0) (line : Text.Line) :
    (respond debug loop.session loop.shown line).finish debug loop.lines =
      after (loop.read line).1 ((loop.read line).2.scene debug) := by
  have hscene : ∀ session shown, (view debug session shown).finish debug loop.lines =
      (Outcome.goesOn { loop with session, shown }).scene debug := by
    intro session shown
    unfold view Outcome.scene
    simp only [counts, Nat.sub_zero]
  have hanswered : ∀ reply, (moved debug loop.shown reply).finish debug loop.lines =
      after (loop.answered reply).1 ((loop.answered reply).2.scene debug) := by
    intro reply
    unfold moved answered
    cases reply.outcome with
    | ok shown => exact hscene _ _
    | error error => exact (finish_after _ _ _).trans (congrArg _ (hscene _ _))
  cases line with
  | closed | unreadable => exact finish_finished _ _ _ _
  | text text =>
    cases hmeaning : Answer.ofLine text with
    | quit =>
      simp only [respond, read, hmeaning]
      exact finish_finished _ _ _ _
    | back =>
      simp only [respond, read, hmeaning]
      cases loop.session.undo? with
      | none => exact (finish_after _ _ _).trans (congrArg _ (hscene _ _))
      | some reply =>
        refine (finish_after _ _ _).trans ?_
        rw [hanswered, after_after]
        rfl
    | text words =>
      simp only [respond, read, hmeaning]
      cases loop.shown.answer words with
      | ok move => exact hanswered _
      | error text => exact (finish_after _ _ _).trans (congrArg _ (hscene _ _))

/-- **A scene is what a round prints, and then the scene that the round leads to.** -/
theorem scene_round (debug : Bool) (loop : PlayLoop) :
    (Outcome.goesOn loop).scene debug =
      after (loop.round debug).1 ((loop.round debug).2.scene debug) := by
  change (follow debug (markerLimit loop.session - loop.unattended) loop.session loop.shown).finish
    debug loop.lines = _
  cases way debug loop with
  | spent marker limit round =>
    rw [round, Nat.sub_eq_zero_of_le limit, follow_zero marker, finish_finished]
    unfold Outcome.scene after finished
    simp
  | passed marker left proceeds round =>
    have hbudget : markerLimit loop.session - loop.unattended =
        markerLimit (loop.session.after (.ask .proceed)) - (loop.unattended + 1) + 1 := by
      have hlimit : markerLimit (loop.session.after (.ask .proceed)) = markerLimit loop.session :=
        congrArg (·.length + 1) (Session.script_after _ _)
      omega
    rw [round, hbudget, follow_of_proceeds marker proceeds, finish_after]
    rfl
  | trapped marker left refused round =>
    obtain ⟨budget, hbudget⟩ := Nat.exists_eq_add_of_lt left
    rw [round, show markerLimit loop.session - loop.unattended = budget + 1 by omega,
      follow_of_refused marker refused, finish_after, finish_finished]
    rfl
  | ended ended round =>
    rw [round, ended, follow_ended, finish_finished]
    unfold Outcome.scene after finished
    simp [display]
  | asked prompts round =>
    rw [round, follow_of_prompts prompts]
    have hread := @finish_respond debug ⟨loop.session, loop.shown, 0, loop.lines.tail⟩ rfl
      (loop.lines.headD .closed)
    rw [← after_after, ← hread]
    cases loop.lines <;> rfl

/-- **The loop halts**, with the scene of the player. -/
theorem halts_scene (regular : loop.Regular script) :
    ∃ n ≤ loop.rank, Halts debug (.goesOn loop) n ((Outcome.goesOn loop).scene debug) := by
  induction hrank : loop.rank using Nat.strong_induction_on generalizing loop with
  | _ rank ih =>
    subst hrank
    rw [scene_round]
    cases hround : (loop.round debug).2 with
    | stops session error =>
      refine ⟨1, Nat.succ_pos _, .goesOn ?_⟩
      rw [hround]
      exact .stops session error
    | goesOn next =>
      have hlt := rank_lt regular hround
      obtain ⟨n, hn, hhalts⟩ := ih next.rank hlt (regular.leads hround) rfl
      refine ⟨n + 1, by omega, .goesOn ?_⟩
      rw [hround]
      exact hhalts

theorem scene_start (debug : Bool) (session : Session) (lines : List Text.Line) :
    session.play debug lines = (start session lines).scene debug := by
  unfold Session.play
  rcases start_cases session lines with ⟨shown, hanswer, hstart⟩ | ⟨error, hanswer, hstart⟩
  · rw [start_of_presents hanswer, hstart]
    rfl
  · rw [start_of_refused hanswer, hstart]
    exact finish_finished _ _ _ _

theorem halts_play (debug : Bool) (session : Session) (lines : List Text.Line) :
    ∃ n ≤ (lines.length + 1) * (session.script.length + 2),
      Halts debug (start session lines) n (session.play debug lines) := by
  rw [scene_start]
  cases hstart : start session lines with
  | stops left error => exact ⟨0, Nat.zero_le _, .stops left error⟩
  | goesOn first =>
    obtain ⟨hregular, hcounts, hlines⟩ := regular_of_start hstart
    obtain ⟨n, hn, hhalts⟩ := @halts_scene debug _ _ hregular
    refine ⟨n, hn.trans (le_of_eq ?_), hhalts⟩
    rw [rank, hregular.limit, hcounts, hlines, Nat.succ_mul]
    rfl

/-! ## Giving up -/

/-- What a play stops with, it stops with in its last round, if there is a round at all. -/
theorem Halts.exists_last {outcome : Outcome} {n : Nat} {scene : Scene}
    (halts : Halts debug outcome n scene) {left : Session} {error : Option PlayError}
    (hstage : scene.stage = .finished left error) :
    outcome = .stops left error ∨
      ∃ first last, outcome = .goesOn first ∧ Relation.ReflTransGen (Leads debug) first last ∧
        (last.round debug).2 = .stops left error := by
  induction halts with
  | stops session found =>
    obtain ⟨rfl, rfl⟩ := Stage.finished.inj hstage
    exact Or.inl rfl
  | @goesOn loop n scene later ih =>
    refine Or.inr ?_
    rcases ih hstage with hstops | ⟨next, last, hnext, hleads, hstops⟩
    · exact ⟨loop, loop, rfl, .refl, hstops⟩
    · exact ⟨loop, last, rfl, .head hnext hleads, hstops⟩

/-- What comes after a visited round is a part of the play. -/
theorem Halts.of_visited {n : Nat} {scene : Scene}
    (halts : Halts debug (start session lines) n scene)
    (visited : Visited debug session lines loop) :
    ∃ m later, Halts debug (.goesOn loop) m later ∧ later.stage = scene.stage := by
  obtain ⟨first, hstart, hleads⟩ := visited
  rw [hstart] at halts
  induction hleads with
  | refl => exact ⟨n, scene, halts, rfl⟩
  | @tail current next _ leads ih =>
    have hround : (current.round debug).2 = .goesOn next := leads
    obtain ⟨m, later, hhalts, hstage⟩ := ih
    cases hhalts with
    | @goesOn _ m later hlater =>
      rw [hround] at hlater
      exact ⟨m, later, hlater, hstage⟩

/-- **On a chain of markers that never ends, the play gives up.** -/
theorem Halts.gives_up {outcome : Outcome} {n : Nat} {scene : Scene}
    (halts : Halts debug outcome n scene) (on : outcome = .goesOn loop)
    (regular : loop.Regular script) (restless : script.Restless loop.session.state) :
    ∃ left position, scene.stage = .finished left (some (.endlessMarkers position)) := by
  induction halts generalizing loop with
  | stops session error => exact Outcome.noConfusion on
  | @goesOn current n scene later ih =>
    obtain rfl := Outcome.goesOn.inj on
    have hon : current.session.script.OnMarker current.session.state := by
      rw [regular.script_eq]
      exact restless 0
    have hmarker := regular.rests.onMarker_iff.mp hon
    cases way debug current with
    | spent _ _ round =>
      rw [round] at later
      cases later
      exact ⟨_, _, rfl⟩
    | passed _ _ _ round =>
      have leads : Leads debug current _ := congrArg Prod.snd round
      refine ih leads (regular.leads leads) ?_
      rw [(regular.passed hmarker leads).2]
      exact restless.passed
    | trapped _ _ refused _ =>
      obtain ⟨-, -, ⟨hcaught, -⟩ | hproceeds⟩ := Session.proceed_of_onMarker hon
      · rw [regular.script_eq] at hcaught
        exact absurd hcaught (Script.OnMarker.not_onBranch (restless 1))
      · exact absurd (refused.symm.trans hproceeds) (by simp)
    | ended ended _ => exact absurd hmarker (by simp [ended, isMarker])
    | asked prompts _ => exact absurd (prompts.waits.symm.trans hmarker) (by simp)

/-- Markers in a row are a walk, and are counted. -/
theorem Passes.walk {n : Nat} {last : PlayLoop} (passes : Passes debug loop n last)
    (regular : loop.Regular script) :
    last.Regular script ∧ last.unattended = loop.unattended + n ∧
      last.session.state = script.passed^[n] loop.session.state := by
  induction passes with
  | none => exact ⟨regular, rfl, rfl⟩
  | marker _ marker leads ih =>
    obtain ⟨hregular, hcount, hstate⟩ := ih
    obtain ⟨hnext, hpassed⟩ := hregular.passed marker leads
    refine ⟨hregular.leads leads, by omega, ?_⟩
    rw [hpassed, hstate, Function.iterate_succ_apply']

/-- A chain of markers starts with the play or behind a line. -/
theorem Visited.exists_origin (visited : Visited debug session lines loop) :
    ∃ origin, Visited debug session lines origin ∧ origin.unattended = 0 ∧
      Passes debug origin loop.unattended loop := by
  obtain ⟨first, hstart, hleads⟩ := visited
  induction hleads with
  | refl =>
    obtain ⟨-, hcounts, -⟩ := regular_of_start hstart
    refine ⟨first, ⟨first, hstart, .refl⟩, hcounts, ?_⟩
    rw [hcounts]
    exact .none
  | @tail loop next hleads leads ih =>
    obtain ⟨origin, hvisited, hcounts, hpasses⟩ := ih
    cases continues_of_leads leads with
    | marker marker _ _ => exact ⟨origin, hvisited, hcounts, hpasses.marker marker leads⟩
    | line _ _ heeds =>
      have hfresh : next.unattended = 0 := heeds.frame.1
      refine ⟨next, ⟨first, hstart, hleads.tail leads⟩, hfresh, ?_⟩
      rw [hfresh]
      exact .none

/-- **The loop of the player halts, and gives up exactly where it has to.** For every session and
all input, the loop halts with the scene of `Session.play`, and its rounds are bounded by the lines of
the input and the steps of the script. It never goes through more than `length + 1` markers in a row.
And it gives up iff at the start or behind a line it comes to a chain of markers that never ends,
neither at a step of another kind nor in a cycle of branches; a chain that ends is gone through,
however long it is. -/
theorem loop_halts (debug : Bool) (session : Session) (lines : List Text.Line) :
    (∃ n ≤ (lines.length + 1) * (session.script.length + 2),
      Halts debug (start session lines) n (session.play debug lines)) ∧
    (∀ loop, Visited debug session lines loop → ∀ n last, Passes debug loop n last →
      n ≤ session.script.length + 1) ∧
    ((∃ left position, (session.play debug lines).stage =
        .finished left (some (.endlessMarkers position))) ↔
      ∃ loop, Visited debug session lines loop ∧ loop.unattended = 0 ∧
        session.script.Restless loop.session.state) := by
  obtain ⟨n, hn, hhalts⟩ := halts_play debug session lines
  refine ⟨⟨n, hn, hhalts⟩, ?_, ?_, ?_⟩
  · intro loop visited n last passes
    obtain ⟨hregular, hcount, -⟩ := passes.walk visited.regular
    have hwithin := hregular.within
    omega
  · rintro ⟨left, position, hstage⟩
    rcases hhalts.exists_last hstage with hstops | ⟨first, last, hstart, hleads, hstops⟩
    · rcases start_cases session lines with ⟨_, -, hstart⟩ | ⟨_, -, hstart⟩ <;>
        exact absurd (hstart.symm.trans hstops) (by simp)
    · have hvisited : Visited debug session lines last := ⟨first, hstart, hleads⟩
      obtain ⟨hmarker, hlimit⟩ := spent_of_gives_up hstops
      obtain ⟨origin, horigin, hcounts, hpasses⟩ := hvisited.exists_origin
      obtain ⟨hregular, -, hstate⟩ := hpasses.walk horigin.regular
      have hon := hregular.rests.onMarker_iff.mpr hmarker
      rw [hregular.script_eq, hstate] at hon
      rw [hregular.limit] at hlimit
      exact ⟨origin, horigin, hcounts, (Script.restless_iff (by omega)).mp hon⟩
  · rintro ⟨loop, hvisited, -, hrestless⟩
    obtain ⟨m, later, hlater, hstage⟩ := hhalts.of_visited hvisited
    rw [← hstage]
    exact hlater.gives_up rfl hvisited.regular hrestless

/-- A line in front of two jumps that lead to each other. -/
def carousel : Session := .fresh ⟨[.say .ivan "Round we go.", .goto 2, .goto 1]⟩

/-- The play of the carousel behind its line. -/
def boarded : PlayLoop := ⟨carousel.after (.ask .proceed), .jump 2, 0, []⟩

theorem visited_boarded : Visited false carousel [.text "\n"] boarded :=
  ⟨⟨carousel, .dialogue .ivan "Round we go.", 0, [.text "\n"]⟩, rfl, .single rfl⟩

/-- Behind the line four markers in a row are gone through, and no more; then the play gives up. -/
theorem loop_halts_carousel :
    carousel.script.length = 3 ∧ (∃ last, Passes false boarded 4 last) ∧
    (¬ ∃ last, Passes false boarded 5 last) ∧
    ∃ left position, (carousel.play false [.text "\n"]).stage =
      .finished left (some (.endlessMarkers position)) := by
  obtain ⟨-, hbound, hgivesUp⟩ := loop_halts false carousel [.text "\n"]
  have hrestless : carousel.script.Restless boarded.session.state :=
    (Script.restless_iff (le_refl 3)).mp (by unfold Script.OnMarker; decide)
  refine ⟨rfl, ⟨_, .marker (.marker (.marker (.marker .none rfl rfl) rfl rfl) rfl rfl) rfl rfl⟩, ?_,
    hgivesUp.mpr ⟨boarded, visited_boarded, rfl, hrestless⟩⟩
  rintro ⟨last, hpasses⟩
  exact absurd (hbound boarded visited_boarded 5 last hpasses) (by decide)

end PlayLoop

end Narrative
