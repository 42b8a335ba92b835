import Narrative.Runner
import Narrative.Wire.Script

/-!
# Runner configurations in JSON

A span of time is a record of seconds and nanoseconds. Nanoseconds may exceed a second; they carry
into the seconds, which must then still fit 64 bits. Fields of other names are refused.
-/

namespace Narrative

open Json

/-! ## Writing -/

/-- A span of time as a value. -/
def Duration.toValue (span : Duration) : Value :=
  .obj [("secs", .ofNat span.secs), ("nanos", .ofNat span.nanos)]

/-- A runner configuration as a value. -/
def RunConfig.toValue (config : RunConfig) : Value :=
  .obj [("game_timeout", .optional Duration.toValue config.gameTimeout),
    ("timeout_result", GameResult.names.toValue config.timeoutResult),
    ("max_transitions", .ofNat config.maxTransitions)]

/-! ## Reading -/

namespace Decoder

open Json.Decoder

/-- The span of some seconds and nanoseconds, unless its seconds exceed 64 bits. -/
def carried (secs nanos : Nat) : Except Flaw Duration :=
  let span := Duration.ofParts secs nanos
  if span.secs < UInt64.size then .ok span else .error .durationOverflow

/-- Decode a span of time. -/
def duration : Decoder Duration :=
  ofRecord <| .strict "struct Duration"
    (.field "secs" none (natural UInt64.size "u64") <|
      .field "nanos" none (natural UInt32.size "u32") .nil)
    fun (secs, nanos, ()) => carried secs nanos

/-- Decode a runner configuration. -/
def runConfig : Decoder RunConfig :=
  ofRecord <| .ofFields "struct RunnerConfig"
    (.field "game_timeout" (some none) (optional duration) <|
      .field "timeout_result" none (oneOf GameResult.names) <|
      .field "max_transitions" none count .nil)
    fun (gameTimeout, timeoutResult, maxTransitions, ()) =>
      ⟨gameTimeout, timeoutResult, maxTransitions⟩

end Decoder

end Narrative
