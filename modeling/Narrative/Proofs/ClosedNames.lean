import Narrative.Proofs.Refusing
import Narrative.Proofs.ScriptTexts

/-!
# Closed sets of names in script texts

Kinds of steps, speakers, games, variables and results are written by name. `Script.Holds` says where
such names stand in the JSON of a script; `Step.Holds` has one constructor for each kind of place in a
step. A text that is no name of the set is refused in each of them, however little it differs from
one. A kind is looked at where it is read. The other names are in the body of a step, which is
converted once the step is read to its end.

* `Step.Holds.refuses`: a step is refused with any other text in the place of a name;
* **`Script.names_are_closed`**: so is the text of a script.
-/

namespace Narrative

open Json

/-! ## Where the names stand -/

/-- A name of a closed set in a value: what is around it, the name, and all names of the set. -/
structure NamePlace where
  frame : Value.Frame
  held : String
  known : List String

/-- The place of a name. -/
def NamePlace.of {α : Type} (names : Names α) (a : α) (frame : Value.Frame) : NamePlace :=
  ⟨frame, names.name a, names.texts⟩

/-- The member that tells the kind of a step. -/
def StepKind.member (kind : StepKind) : String × Value := ("kind", StepKind.names.toValue kind)

/-- An arm of a branch as a member. -/
def Arms.member (arm : GameResult × Position) : String × Value :=
  (GameResult.names.name arm.1, arm.2.toValue)

/-- **The names of closed sets in the JSON of a step**: its kind, and a speaker, a game, a variable
or the result of an arm. -/
inductive Step.Holds : Step → NamePlace → Prop
  | kind (step : Step) :
    Holds step (.of StepKind.names step.kind (.member [] "kind" .here step.members))
  | speaker (speaker : Speaker) (text : String) :
    Holds (.say speaker text) (.of Speaker.names speaker
      (.member [StepKind.say.member] "speaker" .here [("text", .str text)]))
  | game (game : Game) :
    Holds (.startGame game) (.of Game.names game
      (.member [StepKind.startGame.member] "game" .here []))
  | toVar (var : Variable) :
    Holds (.awaitResult var) (.of Variable.names var
      (.member [StepKind.awaitResult.member] "toVar" .here []))
  | var (var : Variable) (arms : Arms) :
    Holds (.branch var arms) (.of Variable.names var
      (.member [StepKind.branch.member] "var" .here [("nextByResult", arms.toValue)]))
  | result (var : Variable) {arms : Arms} {before behind : List (GameResult × Position)}
    {arm : GameResult × Position} (split : arms.toList = before ++ arm :: behind) :
    Holds (.branch var arms) (.of GameResult.names arm.1
      (.member [StepKind.branch.member, ("var", Variable.names.toValue var)] "nextByResult"
        (.key (before.map Arms.member) arm.2.toValue (behind.map Arms.member)) []))

/-- The names of closed sets in the JSON of a script are those in its steps. -/
inductive Script.Holds : Script → NamePlace → Prop
  | step (before behind : List Step) {step : Step} {place : NamePlace} (holds : step.Holds place) :
    Holds ⟨before ++ step :: behind⟩
      ⟨.item (before.map Step.toValue) place.frame (behind.map Step.toValue), place.held,
        place.known⟩

/-- With the name itself in its place there is the step again. -/
theorem Step.Holds.fill_held {step : Step} {place : NamePlace} (holds : step.Holds place) :
    place.frame.fill place.held = step.toValue := by
  cases holds with
  | result var split =>
    have hmembers := congrArg (List.map Arms.member) split
    rw [List.map_append] at hmembers
    exact congrArg (fun ms => Value.obj [_, _, ("nextByResult", .obj ms)]) hmembers.symm
  | _ => rfl

theorem Script.Holds.fill_held {script : Script} {place : NamePlace} (holds : script.Holds place) :
    place.frame.fill place.held = script.toValue := by
  cases holds with
  | step before behind holds =>
    change Value.arr (_ ++ _ :: _) = .arr _
    rw [holds.fill_held, List.map_append, List.map_cons]

/-! ## Refused steps -/

namespace Decoder

open Json.Decoder

variable {n : String} {levels : Nat} {flaw : Flaw}

theorem fits_members (levels : Nat) (step : Step) : ∀ m ∈ step.members, m.2.Fits (levels + 2) :=
  (takesReordered_stepBody levels step).takes.fits.of_obj

/-- A step is refused with another value of a member if that is not converted. -/
theorem refuses_step (step : Step) (left right : List (String × Value)) {name : String}
    {v w : Value} (members : step.members = left ++ (name, v) :: right)
    (fits : w.Fits (levels + 2))
    (refused : (stepBody step.kind).convertMembers (left ++ (name, w) :: right) = .error flaw) :
    Decoder.step.Refuses (levels + 3) (.obj (step.kind.member :: (left ++ (name, w) :: right)))
      flaw := by
  have hmembers : ∀ m ∈ left ++ (name, w) :: right, m = (name, w) ∨ m ∈ step.members := by
    intro m hm
    rw [members]
    rw [List.mem_append, List.mem_cons] at hm ⊢
    rcases hm with hm | hm | hm
    · exact Or.inr (Or.inl hm)
    · exact Or.inl hm
    · exact Or.inr (Or.inr (Or.inr hm))
  have huntagged := key_ne_kind step
  refine @Variants.refuses_of_body _ _ stepVariants _ [] _ _ step.kind (fun m hm => ?_)
    (fun m hm => ?_) refused
  · rcases hmembers m hm with rfl | hm
    · exact fits
    · exact fits_members levels step m hm
  · rcases hmembers m hm with rfl | hm
    · exact huntagged (name, v) (members ▸ List.mem_append_right _ List.mem_cons_self)
    · exact huntagged m hm

/-- A text that is no name is not converted. -/
theorem convert_oneOf_of_unknown {α : Type} {names : Names α} (unknown : n ∉ names.texts) :
    (oneOf names).convert (.str n) = .error (.unknownVariant n names.texts) :=
  named_of_unknown unknown

/-- Arms are read, whatever the key of one of them is. -/
theorem fits_arms (levels : Nat) (before behind : List (GameResult × Position)) (target : Position) :
    (Value.obj (before.map Arms.member ++ (n, target.toValue) :: behind.map Arms.member)).Fits
      (levels + 1) := by
  have harm : ∀ p : Position, p.toValue.Fits levels := fun p => .scalar (scalar_position p)
  refine .obj fun m hm => ?_
  rw [List.mem_append, List.mem_cons, List.mem_map, List.mem_map] at hm
  rcases hm with ⟨arm, -, rfl⟩ | rfl | ⟨arm, -, rfl⟩
  all_goals exact harm _

/-- The arms of a branch are not converted if one of them is for no result. -/
theorem convert_arms_of_unknown {before behind : List (GameResult × Position)} {target : Position}
    (unknown : n ∉ GameResult.names.texts) :
    Decoder.arms.convert
        (.obj (before.map Arms.member ++ (n, target.toValue) :: behind.map Arms.member)) =
      .error (.unknownVariant n GameResult.names.texts) := by
  have hbefore : List.Forall₂
      (fun m entry => m.1 = GameResult.names.name entry.1 ∧ position.Takes 0 m.2 entry.2)
      (before.map Arms.member) before := by
    rw [List.forall₂_map_left_iff, List.forall₂_same]
    exact fun arm _ => ⟨rfl, takes_position 0 arm.2⟩
  change Arms.ofList <$> (entries GameResult.names position).convert _ = _
  rw [convert_entries_of_unknown hbefore unknown]
  rfl

end Decoder

open Decoder in
/-- **A step is refused** with a text in the place of a name that is none of the known ones. -/
theorem Step.Holds.refuses {step : Step} {place : NamePlace} (holds : step.Holds place)
    (levels : Nat) {n : String} (unknown : n ∉ place.known) :
    Decoder.step.Refuses (levels + 3) (place.frame.fill n) (.unknownVariant n place.known) := by
  cases holds with
  | kind =>
    exact @Variants.refuses_of_tag _ _ stepVariants _ [] _ (fits_members levels step) nofun _ unknown
  | speaker speaker text =>
    refine refuses_step (.say speaker text) [] [_] rfl (.scalar .str) ?_
    exact Record.convertMembers_of_refused 0 .nil
      (Fields.convertMember_here (convert_oneOf_of_unknown unknown) _)
  | game game =>
    refine refuses_step (.startGame game) [] [] rfl (.scalar .str) ?_
    exact Record.convertMembers_of_refused 0 .nil
      (Fields.convertMember_here (convert_oneOf_of_unknown unknown) _)
  | toVar var =>
    refine refuses_step (.awaitResult var) [] [] rfl (.scalar .str) ?_
    exact Record.convertMembers_of_refused 0 .nil
      (Fields.convertMember_here (convert_oneOf_of_unknown unknown) _)
  | var var arms =>
    refine refuses_step (.branch var arms) [] [_] rfl (.scalar .str) ?_
    exact Record.convertMembers_of_refused 0 .nil
      (Fields.convertMember_here (convert_oneOf_of_unknown unknown) _)
  | @result var arms before behind arm split =>
    refine refuses_step (.branch var arms) [_] [] rfl (fits_arms _ before behind arm.2) ?_
    -- the variable is converted before the arms are looked at
    refine Record.convertMembers_of_refused 0
      (.cons (Fields.puts_here (Decoder.takes_oneOf 0 Variable.names var) _) .nil) ?_
    exact Fields.convertMember_there (show "nextByResult" ≠ "var" by decide)
      (Fields.convertMember_here (convert_arms_of_unknown unknown) _) _

/-- So is a script with such a step, whatever steps stand before and behind it. -/
theorem Script.Holds.refuses {script : Script} {place : NamePlace} (holds : script.Holds place)
    (levels : Nat) {n : String} (unknown : n ∉ place.known) :
    Decoder.script.Refuses (levels + 4) (place.frame.fill n) (.unknownVariant n place.known) := by
  have htaken : ∀ step : Step, Decoder.step.Takes (levels + 3) step.toValue step := fun step =>
    (Decoder.takesReordered_step levels step).takes
  cases holds with
  | step before behind holds =>
    have hbefore : List.Forall₂ (Decoder.step.Takes (levels + 3)) (before.map Step.toValue)
        before := by
      rw [List.forall₂_map_left_iff, List.forall₂_same]
      exact fun step _ => htaken step
    have hbehind : ∀ v ∈ behind.map Step.toValue, v.Fits (levels + 3) := by
      intro v hv
      obtain ⟨step, -, rfl⟩ := List.mem_map.mp hv
      exact (htaken step).fits
    exact Decoder.refuses_map Script.mk
      (Decoder.refuses_list hbefore (holds.refuses levels unknown) hbehind)

namespace Script

/-- A text that is refused as a list of steps is no script. -/
theorem parse_of_refuses {vs : List Value} {flaw : Flaw}
    (refused : Decoder.script.Refuses maxLevels (.arr vs) flaw) (layout : Layout)
    {trail : List Char} (ends : Reader.Delimited trail) :
    ∃ fault, parse (String.ofList (layout.write 0 (.arr vs) ++ trail)) =
      .error (.malformed fault) ∧ fault.flaw = flaw := by
  obtain ⟨fault, hdecode, hflaw⟩ := refused.decode layout ends
  refine ⟨fault, ?_, hflaw⟩
  unfold parse
  rw [allBlank_write_arr, hdecode]
  rfl

/-- **The sets of names are closed.** When a name in the canonical text of a script is replaced, the
text in front of it and behind it stays as it is. If what replaces it is the JSON of a text that is no
name of its set (case and blanks count), the whole text is refused because of that text. -/
theorem names_are_closed {script : Script} {place : NamePlace} (holds : script.Holds place) :
    ∃ front back : List Char,
      script.canonical = String.ofList (front ++ (quoted place.held ++ back)) ∧
      (∀ n, (place.frame.fill n).compact = String.ofList (front ++ (quoted n ++ back))) ∧
      ∀ n, n ∉ place.known →
        ∃ fault, parse (String.ofList (front ++ (quoted n ++ back))) = .error (.malformed fault) ∧
          fault.flaw = .unknownVariant n place.known := by
  obtain ⟨front, back, hwrite⟩ := Layout.compact.exists_write_fill place.frame 0
  have htext : ∀ n, (place.frame.fill n).compact = String.ofList (front ++ (quoted n ++ back)) :=
    fun n => congrArg String.ofList (hwrite n)
  refine ⟨front, back, ?_, htext, fun n unknown => ?_⟩
  · rw [← htext, holds.fill_held]
    rfl
  · have hrefused := holds.refuses 123 unknown
    have hlist : ∃ vs, place.frame.fill n = .arr vs := by
      cases holds
      exact ⟨_, rfl⟩
    obtain ⟨vs, hvs⟩ := hlist
    rw [hvs] at hrefused
    have hends : Reader.Delimited [] := nofun
    have hparse := parse_of_refuses hrefused .compact hends
    rw [List.append_nil, ← hvs, hwrite n] at hparse
    exact hparse

/-- The result of the second arm of the crossroads. -/
def crossroadsDraw : NamePlace :=
  .of GameResult.names .draw
    (.item [Step.toValue (.choice "Left?" [⟨"Yes", 1⟩, ⟨"No", -2⟩])]
      (.member [StepKind.branch.member, ("var", .str "lastResult")] "nextByResult"
        (.key [("win", .ofInt 0)] (.ofInt 7) []) [])
      [])

/-- A capital letter is enough to be refused. -/
theorem names_are_closed_crossroads :
    crossroads.Holds crossroadsDraw ∧
    (crossroadsDraw.frame.fill "Draw").compact =
      "[\x7b\"kind\":\"choice\",\"prompt\":\"Left?\",\"options\":[" ++
        "\x7b\"label\":\"Yes\",\"next\":1\x7d,\x7b\"label\":\"No\",\"next\":-2\x7d]\x7d," ++
        "\x7b\"kind\":\"branchOnResult\",\"var\":\"lastResult\"," ++
        "\"nextByResult\":\x7b\"win\":0,\"Draw\":7\x7d\x7d]" ∧
    "Draw" ∉ crossroadsDraw.known ∧
    ∃ fault, parse (crossroadsDraw.frame.fill "Draw").compact = .error (.malformed fault) ∧
      fault.flaw = .unknownVariant "Draw" ["win", "lose", "draw", "completed"] := by
  have hstep : Step.Holds
      (.branch .lastResult { Arms.empty with win := some 0, draw := some 7 })
      (.of GameResult.names .draw
        (.member [StepKind.branch.member, ("var", .str "lastResult")] "nextByResult"
          (.key [("win", .ofInt 0)] (.ofInt 7) []) [])) :=
    @Step.Holds.result .lastResult _ [(.win, 0)] [] (.draw, 7) rfl
  have holds : crossroads.Holds crossroadsDraw :=
    .step [.choice "Left?" [⟨"Yes", 1⟩, ⟨"No", -2⟩]] [] hstep
  have unknown : "Draw" ∉ crossroadsDraw.known := by decide +kernel
  obtain ⟨front, back, -, htext, hclosed⟩ := names_are_closed holds
  obtain ⟨fault, hparse, hflaw⟩ := hclosed "Draw" unknown
  rw [← htext] at hparse
  exact ⟨holds, by decide +kernel, unknown, fault, hparse, hflaw⟩

end Script

end Narrative
