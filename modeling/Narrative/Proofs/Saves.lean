import Narrative.Proofs.ScriptTexts

/-!
# Saves read back

A save holds a state and the digest of the script it belongs to. What loads it again is any script
with that digest. As canonical texts tell scripts apart, two scripts share a digest only if the
digest collides (`Digest.Collide`).

* `Script.load_of_save`: a save is loaded if the digests agree;
* **`Script.saves_roundtrip`**: saves survive being written and are bound to their script.
-/

namespace Narrative

open Json

/-! ## What the decoders take -/

namespace Decoder

open Json.Decoder

/-- The recorded results are taken, there being one at most. -/
theorem takes_recorded (levels : Nat) (state : State) :
    recorded.Takes (levels + 1) state.recordedValue state.lastResult := by
  unfold State.recordedValue
  cases state.lastResult with
  | none => exact takes_map _ (takes_entries .nil)
  | some result =>
    have hentry : (entries Variable.names (oneOf GameResult.names)).Takes (levels + 1)
        (.obj [(Variable.names.name .lastResult, GameResult.names.toValue result)])
        [(.lastResult, result)] :=
      takes_entries (.cons ⟨rfl, takes_oneOf levels GameResult.names result⟩ .nil)
    exact takes_map _ hentry

theorem takes_state (levels : Nat) (state : State) :
    Decoder.state.Takes (levels + 2) state.toValue state :=
  takes_ofRecord
    (.front (by decide) (takes_position _ _) <| .front (by decide) (takes_recorded levels state)
      Fields.given_nil) rfl

/-- **Saves are taken** for what they were written from. -/
theorem takes_saveData (levels : Nat) (data : SaveData) :
    Decoder.saveData.Takes (levels + 3) data.toValue data :=
  takes_ofRecord
    (.front (by decide) (takes_text _ _) <| .front (by decide) (takes_state levels data.state)
      Fields.given_nil) rfl

end Decoder

/-! ## Loading -/

/-- The bytes of a text are that text. -/
theorem Text.ofBytes_toByteArray (text : String) : Text.ofBytes text.toByteArray = .ok text := by
  have h : String.fromUTF8? text.toByteArray = some text := dif_pos text.isValidUTF8
  rw [ofBytes, h]

/-- Two messages with one digest. -/
def Digest.Collide (message other : List UInt8) : Prop :=
  message ≠ other ∧ md5 message = md5 other

namespace Script

theorem bytes_injective :
    Function.Injective fun script : Script => script.canonical.toByteArray.data.toList := by
  intro script other h
  exact canonical_injective (String.toByteArray_inj.mp (ByteArray.ext (Array.toList_inj.mp h)))

/-- A save is loaded if the digests agree. -/
theorem load_of_save (script other : Script) (state : State) :
    other.load (script.save state).toByteArray =
      if script.digest = other.digest then .ok state
      else .error (.otherScript script.digest other.digest) := by
  have hdata : Decoder.saveData.decode (script.save state) = .ok ⟨script.digest, state⟩ :=
    (Decoder.takes_saveData 124 ⟨script.digest, state⟩).readsBack.2
  unfold load
  simp only [Text.ofBytes_toByteArray, Except.mapError, bind, Except.bind, hdata]
  -- Nothing depends on how digests are made, so they need not be computed.
  generalize script.digest = found, other.digest = expected
  rfl

/-- **Saves survive being written and are bound to their script.** The save of a state is that state
for its own script and for every script with the same digest; any other script refuses it. So
another script accepts it only if their canonical texts collide. -/
theorem saves_roundtrip (script other : Script) (state : State) :
    other.load (script.save state).toByteArray =
        (if script.digest = other.digest then .ok state
        else .error (.otherScript script.digest other.digest)) ∧
      script.load (script.save state).toByteArray = .ok state ∧
      ((∃ loaded, other.load (script.save state).toByteArray = .ok loaded) ↔
        script = other ∨
          Digest.Collide script.canonical.toByteArray.data.toList
            other.canonical.toByteArray.data.toList) := by
  refine ⟨load_of_save script other state, ?_, ?_⟩
  · rw [load_of_save, if_pos rfl]
  · rw [load_of_save]
    constructor
    · rintro ⟨loaded, h⟩
      by_cases hdigest : script.digest = other.digest
      · by_cases hsame : script = other
        · exact Or.inl hsame
        · exact Or.inr ⟨fun hbytes => hsame (bytes_injective hbytes), hdigest⟩
      · rw [if_neg hdigest] at h
        exact absurd h (by simp)
    · rintro (rfl | hcollide)
      · exact ⟨state, if_pos rfl⟩
      · exact ⟨state, if_pos hcollide.2⟩

end Script

end Narrative
