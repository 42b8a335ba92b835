import Narrative.Proofs.Reordering
import Narrative.Save

/-!
# Script texts read back

Every part of a script is taken by its decoder for what it was written from, in any order of the
members of objects. The arms of a branch are written as a map without the absent ones, and made again
from its entries; no two of these are for one result, so their order does not matter either. A script
nests four levels deep, so none is too deep to be read.

* `Decoder.takesReordered_script`: scripts are taken for what they were written from;
* `Script.parse_write`: a script is parsed from its text in every layout;
* **`Script.texts_roundtrip`**: scripts survive being written, canonically or dumped;
* **`Script.order_of_members_is_free`**: they do so with the members in another order.
-/

namespace Narrative

open Json

/-! ## What the decoders take -/

namespace Arms

/-- The arms of a branch are made again from their entries. -/
theorem ofList_toList (arms : Arms) : ofList arms.toList = arms := by
  obtain ⟨win, lose, draw, completed⟩ := arms
  cases win <;> cases lose <;> cases draw <;> cases completed <;> rfl

theorem set_comm (arms : Arms) {result other : GameResult} (distinct : result ≠ other)
    (target target' : Position) :
    (arms.set result target).set other target' = (arms.set other target').set result target := by
  cases result <;> cases other <;> simp [set] at distinct ⊢

/-- So they are from their entries in another order, for no two are for the same result. -/
theorem ofList_of_perm {arms : Arms} {entries : List (GameResult × Position)}
    (order : entries.Perm arms.toList) : ofList entries = arms := by
  refine Eq.trans ?_ arms.ofList_toList
  refine order.foldl_eq' ?_ empty
  intro entry hentry other hother arms'
  by_cases same : entry.1 = other.1
  · have hget := mem_toList.mp (order.subset hentry)
    have hget' := mem_toList.mp (order.subset hother)
    rw [same, hget'] at hget
    rw [same, Option.some.inj hget]
  · exact set_comm arms' same entry.2 other.2

end Arms

namespace Decoder

open Json.Decoder

theorem takesReordered_arms (levels : Nat) (arms : Arms) :
    Decoder.arms.TakesReordered (levels + 1) arms.toValue arms := by
  intro w reordered
  obtain ⟨ns, ns', rfl, members, order⟩ := reordered.of_obj
  have hentries : List.Forall₂
      (fun m entry => m.1 = GameResult.names.name entry.1 ∧ position.Takes levels m.2 entry.2)
      ns arms.toList := by
    rw [List.forall₂_map_left_iff] at members
    refine members.flip.imp fun n entry hmember => ?_
    obtain ⟨result, target⟩ := entry
    obtain ⟨htarget⟩ := hmember
    exact ⟨rfl, (takes_position levels target).reordered (scalar_position target) _ htarget⟩
  -- the entries are read in the order of the members
  obtain ⟨entries, hmade, horder⟩ := List.perm_comp_forall₂ order.symm hentries
  have htaken := takes_map Arms.ofList (takes_entries hmade)
  rwa [Arms.ofList_of_perm horder] at htaken

theorem takesReordered_choiceOption (levels : Nat) (option : ChoiceOption) :
    Decoder.choiceOption.TakesReordered (levels + 1) option.toValue option :=
  takesReordered_ofRecord
    (.field (by decide) ((takes_text levels _).reordered .str) <|
      .field (by decide) ((takes_position levels _).reordered (scalar_position _))
        Fields.listed_nil) rfl

/-- The members of a step beside its kind. -/
theorem takesReordered_stepBody (levels : Nat) (step : Step) :
    (ofRecord (stepBody step.kind)).TakesReordered (levels + 3) (.obj step.members) step := by
  have hname : ∀ {κ : Type} (names : Names κ) (a : κ),
      (oneOf names).TakesReordered (levels + 2) (names.toValue a) a := fun names a =>
    (takes_oneOf _ names a).reordered .str
  have htext : ∀ s, Decoder.text.TakesReordered (levels + 2) (.str s) s := fun s =>
    (takes_text _ s).reordered .str
  cases step with
  | say speaker text =>
    exact takesReordered_ofRecord
      (.field (by decide) (hname _ _) <| .field (by decide) (htext _) Fields.listed_nil) rfl
  | choice prompt options =>
    have hoptions : (list choiceOption).TakesReordered (levels + 2)
        (.list ChoiceOption.toValue options) options := by
      refine takesReordered_list ?_
      rw [List.forall₂_map_left_iff, List.forall₂_same]
      exact fun option _ => takesReordered_choiceOption levels option
    exact takesReordered_ofRecord
      (.field (by decide) (htext _) <| .field (by decide) hoptions Fields.listed_nil) rfl
  | startGame _ | awaitResult _ =>
    exact takesReordered_ofRecord (.field (by decide) (hname _ _) Fields.listed_nil) rfl
  | branch var arms =>
    exact takesReordered_ofRecord
      (.field (by decide) (hname _ _) <|
        .field (by decide) (takesReordered_arms _ arms) Fields.listed_nil) rfl
  | goto next =>
    exact takesReordered_ofRecord
      (.field (by decide) ((takes_position _ _).reordered (scalar_position _)) Fields.listed_nil) rfl
  | finish => exact takesReordered_ofRecord Fields.listed_nil rfl

theorem key_ne_kind (step : Step) : ∀ m ∈ step.members, m.1 ≠ "kind" := by
  cases step <;> simp [Step.members]

/-- **Steps are taken** for what they were written from, in any order of their members. -/
theorem takesReordered_step (levels : Nat) (step : Step) :
    Decoder.step.TakesReordered (levels + 3) step.toValue step :=
  Variants.takesReordered_decoder (key_ne_kind step) (takesReordered_stepBody levels step)

/-- **Scripts are taken** for what they were written from, in any order of the members. -/
theorem takesReordered_script (levels : Nat) (script : Script) :
    Decoder.script.TakesReordered (levels + 4) script.toValue script := by
  refine takesReordered_map Script.mk (takesReordered_list ?_)
  rw [List.forall₂_map_left_iff, List.forall₂_same]
  exact fun step _ => takesReordered_step levels step

end Decoder

namespace Script

/-- A text that starts with a bracket is no blank text. -/
theorem allBlank_write_arr (layout : Layout) (vs : List Value) (trail : List Char) :
    Text.allBlank (String.ofList (layout.write 0 (.arr vs) ++ trail)) = false := by
  rw [Text.allBlank, String.toList_ofList, layout.write_arr, List.cons_append, List.all_cons,
    Bool.and_eq_false_iff]
  exact Or.inl (by decide)

/-- A script is read from a list that it is taken for, in every layout, blanks behind it or not. -/
theorem parse_of_takes {script : Script} {vs : List Value}
    (taken : Decoder.script.Takes maxLevels (.arr vs) script) (layout : Layout) {trail : List Char}
    (blanks : Reader.Blanks trail) :
    parse (String.ofList (layout.write 0 (.arr vs) ++ trail)) = .ok script := by
  unfold parse
  rw [allBlank_write_arr, taken.decode layout blanks]
  rfl

/-- A script is read back from its text in every layout and any order of the members. -/
theorem parse_write (script : Script) {w : Value} (reordered : script.toValue.Reordered w)
    (layout : Layout) {trail : List Char} (blanks : Reader.Blanks trail) :
    parse (String.ofList (layout.write 0 w ++ trail)) = .ok script := by
  have htaken := Decoder.takesReordered_script 123 script w reordered
  obtain ⟨ws, rfl, -⟩ := reordered.of_arr
  exact parse_of_takes htaken layout blanks

theorem parse_of_canonical (script : Script) : parse script.canonical = .ok script := by
  have h := script.parse_write .same .compact Reader.blanks_nil
  rwa [List.append_nil] at h

theorem parse_of_dump (script : Script) : parse script.dump = .ok script := by
  have h := script.parse_write .same .pretty Reader.blanks_nil
  rwa [List.append_nil] at h

/-- The canonical text tells scripts apart. -/
theorem canonical_injective : Function.Injective canonical := by
  intro script other h
  have hparse : parse script.canonical = parse other.canonical := by rw [h]
  rw [parse_of_canonical, parse_of_canonical] at hparse
  exact Except.ok.inj hparse

/-- **Scripts survive being written.** A script is read back from its canonical text and from what
is dumped of it, the line end behind it included. So canonical texts tell scripts apart, and what is
made from the dump of a script has the digest and the dump of that script. -/
theorem texts_roundtrip (script : Script) :
    parse script.canonical = .ok script ∧
      parse script.dump = .ok script ∧
      parse (script.dump ++ "\n") = .ok script ∧
      (∀ other : Script, other.canonical = script.canonical ↔ other = script) ∧
      (parse script.dump).map digest = .ok script.digest ∧
      (parse script.dump).map dump = .ok script.dump := by
  have hline : parse (script.dump ++ "\n") = .ok script := by
    have hblanks : Reader.Blanks ['\n'] := by simp [Reader.Blanks, Reader.isGap]
    have h := script.parse_write .same .pretty hblanks
    rwa [String.ofList_append] at h
  refine ⟨parse_of_canonical script, parse_of_dump script, hline, ?_, ?_, ?_⟩
  · exact fun other => canonical_injective.eq_iff
  · rw [parse_of_dump]
    rfl
  · rw [parse_of_dump]
    rfl

/-- **The order of members does not matter.** In each object of the JSON of a script (steps, options
and arms) the members may change places, independently of the others. Written canonically or dumped,
the value is read as the same script. -/
theorem order_of_members_is_free (script : Script) {w : Value}
    (reordered : script.toValue.Reordered w) :
    parse w.compact = .ok script ∧ parse w.pretty = .ok script := by
  have hcompact := script.parse_write reordered .compact Reader.blanks_nil
  have hpretty := script.parse_write reordered .pretty Reader.blanks_nil
  rw [List.append_nil] at hcompact hpretty
  exact ⟨hcompact, hpretty⟩

/-- A choice, and a branch behind it. -/
def crossroads : Script :=
  ⟨[.choice "Left?" [⟨"Yes", 1⟩, ⟨"No", -2⟩],
    .branch .lastResult { Arms.empty with win := some 0, draw := some 7 }]⟩

/-- The crossroads with the kind behind the options of the choice, the target of an option before its
label, and everything in the branch turned round. -/
def crossroadsReordered : Value :=
  .arr
    [.obj [("options", .arr [.obj [("next", .ofInt 1), ("label", .str "Yes")],
        .obj [("label", .str "No"), ("next", .ofInt (-2))]]),
      ("kind", .str "choice"), ("prompt", .str "Left?")],
    .obj [("nextByResult", .obj [("draw", .ofInt 7), ("win", .ofInt 0)]),
      ("var", .str "lastResult"), ("kind", .str "branchOnResult")]]

/-- The crossroads are read from their reordered text. -/
theorem order_of_members_is_free_crossroads :
    crossroads.toValue.Reordered crossroadsReordered ∧
    crossroadsReordered.compact =
      "[\x7b\"options\":[\x7b\"next\":1,\"label\":\"Yes\"\x7d,\x7b\"label\":\"No\",\"next\":-2\x7d]," ++
        "\"kind\":\"choice\",\"prompt\":\"Left?\"\x7d," ++
        "\x7b\"nextByResult\":\x7b\"draw\":7,\"win\":0\x7d,\"var\":\"lastResult\"," ++
        "\"kind\":\"branchOnResult\"\x7d]" ∧
    parse crossroadsReordered.compact = .ok crossroads ∧
    parse crossroadsReordered.pretty = .ok crossroads := by
  have hchoice : Value.Reordered
      (.obj [("kind", .str "choice"), ("prompt", .str "Left?"),
        ("options", .arr [.obj [("label", .str "Yes"), ("next", .ofInt 1)],
          .obj [("label", .str "No"), ("next", .ofInt (-2))]])])
      (.obj [("options", .arr [.obj [("next", .ofInt 1), ("label", .str "Yes")],
          .obj [("label", .str "No"), ("next", .ofInt (-2))]]),
        ("kind", .str "choice"), ("prompt", .str "Left?")]) := by
    refine .obj ?_ (@List.perm_append_comm _ [_, _] [_])
    refine .cons (.intro .same) (.cons (.intro .same) (.cons (.intro (.arr ?_)) .nil))
    refine .cons (.obj ?_ (.swap _ _ _)) (.cons .same .nil)
    exact .cons (.intro .same) (.cons (.intro .same) .nil)
  have hbranch : Value.Reordered
      (.obj [("kind", .str "branchOnResult"), ("var", .str "lastResult"),
        ("nextByResult", .obj [("win", .ofInt 0), ("draw", .ofInt 7)])])
      (.obj [("nextByResult", .obj [("draw", .ofInt 7), ("win", .ofInt 0)]),
        ("var", .str "lastResult"), ("kind", .str "branchOnResult")]) := by
    refine .obj ?_ (List.reverse_perm [_, _, _]).symm
    refine .cons (.intro .same) (.cons (.intro .same) (.cons (.intro (.obj ?_ (.swap _ _ _))) .nil))
    exact .cons (.intro .same) (.cons (.intro .same) .nil)
  have hreordered : crossroads.toValue.Reordered crossroadsReordered :=
    .arr (.cons hchoice (.cons hbranch .nil))
  exact ⟨hreordered, by decide +kernel, order_of_members_is_free crossroads hreordered⟩

end Script

end Narrative
