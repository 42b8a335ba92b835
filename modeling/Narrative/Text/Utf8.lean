/-!
# Bytes as text

Bytes are a text if they are well-formed UTF-8. If they are not, the fault is at the first byte that
starts no character: either the bytes there can never become one, or the sequence ends too early.
-/

namespace Narrative.Text

/-- What is wrong with bytes that are no text. -/
inductive Utf8Fault
  /-- the `length` bytes from `index` on start like a character but cannot become one -/
  | invalid (length index : Nat)
  /-- the bytes from `index` to the end are the start of a character -/
  | incomplete (index : Nat)
  deriving DecidableEq, Repr

/-- The wording of a fault. -/
def Utf8Fault.message : Utf8Fault → String
  | .invalid length index => s!"invalid utf-8 sequence of {length} bytes from index {index}"
  | .incomplete index => s!"incomplete utf-8 byte sequence from index {index}"

/-- Whether a byte can continue a character. -/
def isContinuation (b : UInt8) : Bool := decide (0x80 ≤ b) && decide (b ≤ 0xBF)

/-- For a byte that starts a character, which bytes may come second and how many more come after
that one. Overlong forms, surrogates and numbers past the last code point are left out. -/
def secondByte? (first : UInt8) : Option (UInt8 × UInt8 × Nat) :=
  if 0xC2 ≤ first ∧ first ≤ 0xDF then some (0x80, 0xBF, 0)
  else if first = 0xE0 then some (0xA0, 0xBF, 1)
  else if first = 0xED then some (0x80, 0x9F, 1)
  else if 0xE1 ≤ first ∧ first ≤ 0xEF then some (0x80, 0xBF, 1)
  else if first = 0xF0 then some (0x90, 0xBF, 2)
  else if 0xF1 ≤ first ∧ first ≤ 0xF3 then some (0x80, 0xBF, 2)
  else if first = 0xF4 then some (0x80, 0x8F, 2)
  else none

/-- How many of `count` bytes that must come next are there, if one is missing or wrong: the number
of good ones, and whether the sequence ends after them. -/
def shortfall? : Nat → List UInt8 → Option (Nat × Bool)
  | 0, _ => none
  | _ + 1, [] => some (0, true)
  | count + 1, b :: rest =>
    if isContinuation b then (shortfall? count rest).map fun (good, ended) => (good + 1, ended)
    else some (0, false)

/-- The fault of the character that starts at `index`, or how many bytes follow its first one. -/
def character (index : Nat) (first : UInt8) (rest : List UInt8) : Except Utf8Fault Nat :=
  if first < 0x80 then .ok 0
  else
    match secondByte? first, rest with
    | none, _ => .error (.invalid 1 index)
    | some _, [] => .error (.incomplete index)
    | some (low, high, more), second :: others =>
      if second < low ∨ high < second then .error (.invalid 1 index)
      else
        match shortfall? more others with
        | none => .ok (more + 1)
        | some (_, true) => .error (.incomplete index)
        | some (good, false) => .error (.invalid (good + 2) index)

/-- The first fault of bytes that stand at `index`. -/
def utf8Fault? (index : Nat) : List UInt8 → Option Utf8Fault
  | [] => none
  | first :: rest =>
    match character index first rest with
    | .ok following => utf8Fault? (index + following + 1) (rest.drop following)
    | .error fault => some fault
termination_by all => all.length

/-- The text of some bytes. -/
def ofBytes (bytes : ByteArray) : Except Utf8Fault String :=
  match String.fromUTF8? bytes with
  | some text => .ok text
  | none => .error ((utf8Fault? 0 bytes.data.toList).getD (.incomplete bytes.size))

end Narrative.Text
