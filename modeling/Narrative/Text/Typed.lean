import Narrative.Text.Blank
import Narrative.Text.Utf8

/-!
# Typed lines

Input is read line by line. A line may not be text at all, and the input may be closed.
-/

namespace Narrative.Text

/-- What a request for a line yields. -/
inductive Line
  /-- a line, possibly with its line break -/
  | text (s : String)
  /-- a line whose bytes are no text -/
  | unreadable
  /-- no line: the input is closed -/
  | closed
  deriving DecidableEq

/-- The line that some bytes make. -/
def Line.ofBytes (bytes : List UInt8) : Line :=
  match String.fromUTF8? ⟨bytes.toArray⟩ with
  | some s => .text s
  | none => .unreadable

/-- The pieces of some bytes, each up to and including a line break, after the bytes in `before`,
last first. -/
def pieces (before : List UInt8) : List UInt8 → List (List UInt8)
  | [] => if before.isEmpty then [] else [before.reverse]
  | b :: rest =>
    if b = 10 then (b :: before).reverse :: pieces [] rest else pieces (b :: before) rest

/-- The lines of an input. -/
def lines (input : ByteArray) : List Line := (pieces [] input.data.toList).map Line.ofBytes

/-- The value of a typed natural number: decimal digits, with or without a plus sign. -/
def natural? (s : String) : Option Nat :=
  let digits := match s.toList with
    | '+' :: rest => rest
    | all => all
  if digits.isEmpty || !digits.all Char.isDigit then none
  else some (digits.foldl (fun n c => n * 10 + (c.toNat - 48)) 0)

end Narrative.Text
