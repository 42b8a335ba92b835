import Narrative.Decimal

/-!
# JSON values

The members of an object are a list of pairs: their order counts and a key may occur twice. Numbers
are exact integers where 64 bits hold them, otherwise binary fractions given by their bits.

Two writers: `compact` without any blank, `pretty` with one item or member a line, indented by two.
Both escape the same characters: the quote, the backslash, and the controls below U+0020.
-/

namespace Narrative.Json

/-- A number. -/
inductive Number
  /-- an integer that 64 bits hold, signed or unsigned -/
  | int (n : Int)
  /-- any other number, as the bits of a 64-bit binary fraction -/
  | real (bits : UInt64)
  deriving DecidableEq

/-- A JSON value. -/
inductive Value
  | null
  | bool (b : Bool)
  | num (n : Number)
  | str (s : String)
  | arr (items : List Value)
  | obj (members : List (String × Value))
  deriving Inhabited

namespace Value

/-- A natural number as a value. -/
def ofNat (n : Nat) : Value := .num (.int n)

/-- An integer as a value. -/
def ofInt (n : Int) : Value := .num (.int n)

/-- A list of encoded things. -/
def list {α : Type} (encode : α → Value) (xs : List α) : Value := .arr (xs.map encode)

/-- A thing that may be missing; nothing is `null`. -/
def optional {α : Type} (encode : α → Value) : Option α → Value
  | none => .null
  | some a => encode a

end Value

/-! ## Written scalars -/

/-- A hexadecimal digit in lower case. -/
def hexDigit (n : Nat) : Char :=
  if n < 10 then Char.ofNat (48 + n) else Char.ofNat (87 + n)

/-- How a character stands in a written text. -/
def escaped (c : Char) : List Char :=
  if c = '"' then ['\\', '"']
  else if c = '\\' then ['\\', '\\']
  else if c = '\x08' then ['\\', 'b']
  else if c = '\x0c' then ['\\', 'f']
  else if c = '\n' then ['\\', 'n']
  else if c = '\r' then ['\\', 'r']
  else if c = '\t' then ['\\', 't']
  else if c.toNat < 0x20 then
    ['\\', 'u', '0', '0', hexDigit (c.toNat / 16), hexDigit (c.toNat % 16)]
  else [c]

/-- A written text: quoted, with its characters escaped. -/
def quoted (s : String) : List Char :=
  '"' :: (s.toList.flatMap escaped ++ ['"'])

/-- A written integer. -/
def integer (n : Int) : List Char :=
  if n < 0 then '-' :: Nat.toDigits 10 n.natAbs else Nat.toDigits 10 n.natAbs

/-- A written number. -/
def Number.chars : Number → List Char
  | .int n => integer n
  | .real bits => (binaryText bits).toList

/-- A written truth value. -/
def truth (b : Bool) : List Char := if b then "true".toList else "false".toList

/-! ## Compact text -/

mutual

/-- The text of a value without any blank. -/
def Value.compactChars : Value → List Char
  | .null => "null".toList
  | .bool b => truth b
  | .num n => n.chars
  | .str s => quoted s
  | .arr [] => ['[', ']']
  | .arr (v :: vs) => '[' :: (v.compactChars ++ compactItems vs)
  | .obj [] => ['\x7b', '\x7d']
  | .obj ((key, v) :: ms) =>
    '\x7b' :: (quoted key ++ ':' :: (v.compactChars ++ compactMembers ms))
termination_by structural v => v

/-- The items after the first one, up to the closing bracket. -/
def compactItems : List Value → List Char
  | [] => [']']
  | v :: vs => ',' :: (v.compactChars ++ compactItems vs)
termination_by structural vs => vs

/-- The members after the first one, up to the closing brace. -/
def compactMembers : List (String × Value) → List Char
  | [] => ['\x7d']
  | (key, v) :: ms => ',' :: (quoted key ++ ':' :: (v.compactChars ++ compactMembers ms))
termination_by structural ms => ms

end

/-! ## Indented text -/

/-- A new line at a depth of nesting. -/
def indent (depth : Nat) : List Char := '\n' :: List.replicate (2 * depth) ' '

mutual

/-- The text of a value nested `depth` deep, one item or member a line. -/
def Value.prettyChars (depth : Nat) : Value → List Char
  | .null => "null".toList
  | .bool b => truth b
  | .num n => n.chars
  | .str s => quoted s
  | .arr [] => ['[', ']']
  | .arr (v :: vs) =>
    '[' :: (indent (depth + 1) ++ v.prettyChars (depth + 1) ++ prettyItems depth vs)
  | .obj [] => ['\x7b', '\x7d']
  | .obj ((key, v) :: ms) =>
    '\x7b' :: (indent (depth + 1) ++ quoted key ++ ':' :: ' ' :: v.prettyChars (depth + 1) ++
      prettyMembers depth ms)
termination_by structural v => v

/-- The items after the first one of a list nested `depth` deep, up to the closing bracket. -/
def prettyItems (depth : Nat) : List Value → List Char
  | [] => indent depth ++ [']']
  | v :: vs => ',' :: (indent (depth + 1) ++ v.prettyChars (depth + 1) ++ prettyItems depth vs)
termination_by structural vs => vs

/-- The members after the first one of an object nested `depth` deep, up to the closing brace. -/
def prettyMembers (depth : Nat) : List (String × Value) → List Char
  | [] => indent depth ++ ['\x7d']
  | (key, v) :: ms =>
    ',' :: (indent (depth + 1) ++ quoted key ++ ':' :: ' ' :: v.prettyChars (depth + 1) ++
      prettyMembers depth ms)
termination_by structural ms => ms

end

/-- The compact text of a value. -/
def Value.compact (v : Value) : String := String.ofList v.compactChars

/-- The indented text of a value. -/
def Value.pretty (v : Value) : String := String.ofList (v.prettyChars 0)

end Narrative.Json
