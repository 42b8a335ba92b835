/-!
# Spans of time

Whole seconds and the nanoseconds beyond them, of which there are fewer than make a second. So spans
of one length are equal.

* `Duration.total_ofParts`: carrying nanoseconds into seconds keeps the length.
* `Duration.total_inj`: a span is determined by its length.
-/

namespace Narrative

/-- A span of time. -/
structure Duration where
  secs : Nat
  nanos : Nat
  nanos_lt : nanos < 1000000000 := by decide
  deriving DecidableEq, Repr

namespace Duration

/-- The span of some seconds and nanoseconds. Nanoseconds that make a second are carried. -/
def ofParts (secs nanos : Nat) : Duration where
  secs := secs + nanos / 1000000000
  nanos := nanos % 1000000000
  nanos_lt := Nat.mod_lt _ (by decide)

/-- A span of so many milliseconds. -/
def ofMillis (ms : Nat) : Duration := ofParts 0 (ms * 1000000)

/-- No time at all. -/
def zero : Duration := { secs := 0, nanos := 0 }

/-- The length in nanoseconds. -/
def total (span : Duration) : Nat := span.secs * 1000000000 + span.nanos

@[simp] theorem total_ofParts (secs nanos : Nat) :
    (ofParts secs nanos).total = secs * 1000000000 + nanos := by
  simp only [total, ofParts]
  omega

theorem total_inj {a b : Duration} : a.total = b.total ↔ a = b := by
  constructor
  · intro h
    obtain ⟨s, n, hn⟩ := a
    obtain ⟨t, m, hm⟩ := b
    simp only [total] at h
    obtain rfl : s = t := by omega
    obtain rfl : n = m := by omega
    rfl
  · rintro rfl
    rfl

/-- The digits of `part` in a fraction of `places` digits, without zeros at the end. -/
def fraction (part places : Nat) : String :=
  let digits := toString part
  let padded := List.replicate (places - digits.length) '0' ++ digits.toList
  let kept := (padded.reverse.dropWhile (· = '0')).reverse
  if kept.isEmpty then "" else "." ++ String.ofList kept

/-- The text of a span, in the largest unit of which it holds at least one. -/
def text (span : Duration) : String :=
  if span.secs > 0 then toString span.secs ++ fraction span.nanos 9 ++ "s"
  else if span.nanos ≥ 1000000 then
    toString (span.nanos / 1000000) ++ fraction (span.nanos % 1000000) 6 ++ "ms"
  else if span.nanos ≥ 1000 then
    toString (span.nanos / 1000) ++ fraction (span.nanos % 1000) 3 ++ "µs"
  else toString span.nanos ++ "ns"

end Duration

end Narrative
