import Narrative.Json.Value
import Narrative.Text.Quoted

/-!
# What can be wrong with a JSON text

`Flaw` lists the causes for which reading fails: faults of the grammar, and values that do not fit
what is expected. `Flaw.message` gives the wording. A `Fault` is a flaw with the place it was
noticed at, if it has one.
-/

namespace Narrative.Json

/-- A name between accents. -/
def ticked (name : String) : String := "`" ++ name ++ "`"

/-- What was found where something else was expected. -/
inductive Found
  | bool (b : Bool)
  | int (n : Int)
  | real (bits : UInt64)
  | text (s : String)
  | null
  | sequence
  | map
  deriving DecidableEq

/-- The description of a thing found. -/
def Found.describe : Found → String
  | .bool b => "boolean " ++ ticked (String.ofList (truth b))
  | .int n => "integer " ++ ticked (toString n)
  | .real bits => "floating point " ++ ticked (binaryText bits)
  | .text s => "string " ++ Text.inQuotes s
  | .null => "null"
  | .sequence => "sequence"
  | .map => "map"

/-- What a value is found to be. -/
def Value.found : Value → Found
  | .null => .null
  | .bool b => .bool b
  | .num (.int n) => .int n
  | .num (.real bits) => .real bits
  | .str s => .text s
  | .arr _ => .sequence
  | .obj _ => .map

/-- Why a text or a value was refused. -/
inductive Flaw
  /-- the text ends inside a list -/
  | endInList
  /-- the text ends inside an object -/
  | endInObject
  /-- the text ends inside a quoted text -/
  | endInText
  /-- the text ends where a value is expected, or inside a number or word -/
  | endInValue
  | expectedColon
  | expectedListSeparator
  | expectedObjectSeparator
  /-- a wrong letter in `true`, `false` or `null` -/
  | expectedWord
  | expectedValue
  | invalidEscape
  | invalidNumber
  /-- no 64-bit binary fraction is that great -/
  | numberOutOfRange
  | controlCharacter
  | keyNotText
  /-- a second half of a surrogate pair without the first, or a first half with a wrong second -/
  | loneSurrogate
  /-- a first half of a surrogate pair that no escape follows -/
  | unfinishedSurrogate
  | trailingComma
  | trailingCharacters
  | tooDeep
  /-- a value of the wrong type -/
  | wrongType (found : Found) (expected : String)
  /-- a value of the right type that is out of range -/
  | wrongValue (found : Found) (expected : String)
  /-- a list with too few or too many items -/
  | wrongLength (length : Nat) (expected : String)
  | missingField (name : String)
  | duplicateField (name : String)
  | unknownField (name : String) (known : List String)
  | unknownVariant (name : String) (known : List String)
  /-- a time span whose seconds exceed 64 bits after the carry -/
  | durationOverflow
  deriving DecidableEq

namespace Flaw

/-- A list of known names, as messages spell it. -/
def alternatives : List String → String
  | [a] => ticked a
  | [a, b] => ticked a ++ " or " ++ ticked b
  | names => "one of " ++ ", ".intercalate (names.map ticked)

/-- The wording of a flaw. -/
def message : Flaw → String
  | .endInList => "EOF while parsing a list"
  | .endInObject => "EOF while parsing an object"
  | .endInText => "EOF while parsing a string"
  | .endInValue => "EOF while parsing a value"
  | .expectedColon => "expected " ++ ticked ":"
  | .expectedListSeparator => "expected " ++ ticked "," ++ " or " ++ ticked "]"
  | .expectedObjectSeparator => "expected " ++ ticked "," ++ " or " ++ ticked "\x7d"
  | .expectedWord => "expected ident"
  | .expectedValue => "expected value"
  | .invalidEscape => "invalid escape"
  | .invalidNumber => "invalid number"
  | .numberOutOfRange => "number out of range"
  | .controlCharacter => "control character (\\u0000-\\u001F) found while parsing a string"
  | .keyNotText => "key must be a string"
  | .loneSurrogate => "lone leading surrogate in hex escape"
  | .unfinishedSurrogate => "unexpected end of hex escape"
  | .trailingComma => "trailing comma"
  | .trailingCharacters => "trailing characters"
  | .tooDeep => "recursion limit exceeded"
  | .wrongType found expected => "invalid type: " ++ found.describe ++ ", expected " ++ expected
  | .wrongValue found expected => "invalid value: " ++ found.describe ++ ", expected " ++ expected
  | .wrongLength length expected => "invalid length " ++ toString length ++ ", expected " ++ expected
  | .missingField name => "missing field " ++ ticked name
  | .duplicateField name => "duplicate field " ++ ticked name
  | .unknownField name known =>
    "unknown field " ++ ticked name ++ ", expected " ++ alternatives known
  | .unknownVariant name known =>
    "unknown variant " ++ ticked name ++ ", expected " ++ alternatives known
  | .durationOverflow => "overflow deserializing Duration"

end Flaw

/-- A place in a text: the line from 1, and the bytes of that line before the place. -/
structure Place where
  line : Nat
  column : Nat
  deriving DecidableEq, Repr

namespace Place

/-- The place `left` bytes after `place`, walking over the text that starts there. -/
def advance (place : Place) : List Char → Nat → Place
  | [], _ => place
  | c :: cs, left =>
    if left < c.utf8Size then { place with column := place.column + left }
    else
      let after : Place :=
        if c = '\n' then ⟨place.line + 1, 0⟩ else { place with column := place.column + c.utf8Size }
      advance after cs (left - c.utf8Size)

/-- The place `offset` bytes into a text. -/
def ofOffset (text : List Char) (offset : Nat) : Place := advance ⟨1, 0⟩ text offset

end Place

/-- A flaw and the place it was noticed at. -/
structure Fault where
  flaw : Flaw
  place : Option Place
  deriving DecidableEq

/-- The wording of a fault; the place is part of it. -/
def Fault.message (fault : Fault) : String :=
  match fault.place with
  | some place =>
    fault.flaw.message ++ " at line " ++ toString place.line ++ " column " ++ toString place.column
  | none => fault.flaw.message

end Narrative.Json
