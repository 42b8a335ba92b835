import Narrative.Json.Tree
import Narrative.Position
import Narrative.Names

/-!
# Decoders

A decoder gets a typed value out of JSON in two ways. `read` works on the text: it stops at the first
thing that does not fit, and a flaw's place is where the reader stands. `convert` works on a value
that is already read; its flaws have no place of their own.

Records may be written as objects or as lists of their fields in order. A variant type is written as
an object with a tag among its members, or as a list that starts with the tag. Its body is read
whole before it is converted.

`decode` runs a decoder on a text that must hold nothing else.
-/

namespace Narrative.Json

/-- Two ways to get an `α` out of JSON. `read` is told how many levels may still be opened. -/
structure Decoder (α : Type) where
  read : Nat → Reader α
  convert : Value → Except Flaw α

/-- The flaw of a value that is not of the expected type. -/
def Value.unlike (v : Value) (expected : String) : Flaw := .wrongType v.found expected

namespace Decoder

open Reader

variable {α β κ : Type}

/-! ## Scalars -/

/-- Decode a value that is no list and no object. One of the wrong type is read before it is
refused; a group is refused at its bracket. -/
def scalar (accept : Value → Except Flaw α) : Decoder α where
  read _ := do
    match ← lookPast with
    | some '[' => orFailHere (accept (.arr []))
    | some '\x7b' => orFailHere (accept (.obj []))
    | _ => orFailHere (accept (← Reader.scalar))
  convert := accept

/-- Decode a text. -/
def text : Decoder String := scalar fun
  | .str s => .ok s
  | v => .error (v.unlike "a string")

/-- Decode a truth value. -/
def bool : Decoder Bool := scalar fun
  | .bool b => .ok b
  | v => .error (v.unlike "a boolean")

/-- Decode a position. -/
def position : Decoder Position := scalar fun
  | .num (.int n) =>
    match Position.ofInt? n with
    | some p => .ok p
    | none => .error (.wrongValue (.int n) "i64")
  | v => .error (v.unlike "i64")

/-- Decode a natural number below `limit`; messages call such numbers `name`. -/
def natural (limit : Nat) (name : String) : Decoder Nat := scalar fun
  | .num (.int n) =>
    if 0 ≤ n ∧ n < limit then .ok n.toNat else .error (.wrongValue (.int n) name)
  | v => .error (v.unlike name)

/-- Decode a count. -/
def count : Decoder Nat := natural UInt64.size "usize"

/-- Decode `null`. -/
def null : Decoder Unit := scalar fun
  | .null => .ok ()
  | v => .error (v.unlike "unit")

/-- Convert a value that stands where nothing but `null` or an empty object may. -/
def convertNothing : Value → Except Flaw Unit
  | .null => .ok ()
  | .obj [] => .ok ()
  | v => .error (v.unlike "unit")

/-! ## Names -/

/-- The value with this name. -/
def named (names : Names α) (name : String) : Except Flaw α :=
  match names.find? name with
  | some a => .ok a
  | none => .error (.unknownVariant name names.texts)

/-- Decode a name. -/
def identifier (names : Names α) : Decoder α := scalar fun
  | .str s => named names s
  | v => .error (v.unlike "variant identifier")

/-- Go to the key of an object that has one. -/
def onlyKey : Reader Unit := do
  match ← lookPast with
  | some '"' => return ()
  | some '\x7d' => failNext .expectedValue
  | some _ => failNext .keyNotText
  | none => failNext .endInObject

/-- Decode one of a closed set of names, written as a text or as an object that maps it to
nothing. -/
def oneOf (names : Names α) : Decoder α where
  read levels := do
    match ← lookPast with
    | some '"' => (identifier names).read levels
    | some '\x7b' => opened levels fun inner => do
      onlyKey
      let a ← (identifier names).read inner
      colon
      null.read inner
      match ← lookPast with
      | some '\x7d' => do
        skip
        return a
      | some _ => failHere .expectedValue
      | none => failHere .endInObject
    | some _ => failNext .expectedValue
    | none => failNext .endInValue
  convert
    | .str s => named names s
    | .obj [(name, v)] => do
      let a ← named names name
      convertNothing v
      return a
    | .obj _ => .error (.wrongValue .map "map with a single key")
    | v => .error (v.unlike "string or map")

/-! ## Containers -/

/-- Decode a value that may be `null`. -/
def optional (decoder : Decoder α) : Decoder (Option α) where
  read levels := do
    match ← lookPast with
    | some 'n' => do
      skip
      word ['u', 'l', 'l']
      return none
    | _ => return some (← decoder.read levels)
  convert
    | .null => .ok none
    | v => some <$> decoder.convert v

/-- Decode a list. -/
def list (decoder : Decoder α) : Decoder (List α) where
  read levels := do
    match ← lookPast with
    | some '[' => opened levels fun inner => enclosed .list (items (decoder.read inner))
    | some '\x7b' => failHere (Value.unlike (.obj []) "a sequence")
    | _ => do failHere ((← Reader.scalar).unlike "a sequence")
  convert
    | .arr vs => vs.mapM decoder.convert
    | v => .error (v.unlike "a sequence")

/-- Decode an object whose keys are names. Entries come in the order they stand in. -/
def entries (names : Names κ) (decoder : Decoder α) : Decoder (List (κ × α)) where
  read levels := do
    match ← lookPast with
    | some '\x7b' => opened levels fun inner => enclosed .object do
      let read ← loopAfter firstMember nextMember nextMember_advances
        (fun read => do
          let name ← (oneOf names).read inner
          colon
          let a ← decoder.read inner
          return (name, a) :: read) []
      return read.reverse
    | some '[' => failHere (Value.unlike (.arr []) "a map")
    | _ => do failHere ((← Reader.scalar).unlike "a map")
  convert
    | .obj members => members.mapM fun (key, v) => do
      let name ← named names key
      let a ← decoder.convert v
      return (name, a)
    | v => .error (v.unlike "a map")

/-- Decode and then change the result. -/
def map (f : α → β) (decoder : Decoder α) : Decoder β where
  read levels := f <$> decoder.read levels
  convert v := f <$> decoder.convert v

end Decoder

/-! ## Records -/

/-- The fields of a record, in order, with the type of what they make together and the type of the
slots that hold it while it is incomplete. A field with a value for its absence may be missing from
an object. -/
inductive Fields : (Parts Slots : Type) → Type 1
  | nil : Fields Unit Unit
  | field {α β τ : Type} (name : String) (absent : Option α) (decoder : Decoder α)
      (others : Fields β τ) : Fields (α × β) (Option α × τ)

namespace Fields

open Reader

/-- The names of the fields. -/
def names {α τ : Type} : Fields α τ → List String
  | .nil => []
  | .field name _ _ others => name :: others.names

/-- No field has a value yet. -/
def unfilled {α τ : Type} : Fields α τ → τ
  | .nil => ()
  | .field _ _ _ others => (none, others.unfilled)

/-- How the member with this key is read from after its key on, if a field has that name. -/
def readMember {α τ : Type} (levels : Nat) (key : String) : Fields α τ → τ → Option (Reader τ)
  | .nil, _ => none
  | .field name _ decoder others, (filled, rest) =>
    if key = name then
      some <|
        match filled with
        | some _ => raise (.duplicateField name)
        | none => do
          colon
          let a ← decoder.read levels
          return (some a, rest)
    else
      (others.readMember levels key rest).map fun reader => do return (filled, ← reader)

/-- How the member with this key is converted, if a field has that name. -/
def convertMember {α τ : Type} (key : String) (v : Value) :
    Fields α τ → τ → Option (Except Flaw τ)
  | .nil, _ => none
  | .field name _ decoder others, (filled, rest) =>
    if key = name then
      some <|
        match filled with
        | some _ => .error (.duplicateField name)
        | none => do
          let a ← decoder.convert v
          return (some a, rest)
    else
      (others.convertMember key v rest).map fun slots => do return (filled, ← slots)

/-- The values of all fields, or the first field without one. -/
def complete {α τ : Type} : Fields α τ → τ → Except Flaw α
  | .nil, _ => .ok ()
  | .field name absent _ others, (filled, rest) => do
    match filled.or absent with
    | some a => return (a, ← others.complete rest)
    | none => .error (.missingField name)

/-- Read the fields as items of a list, the first of them the item number `index`. -/
def readItems {α τ : Type} (levels : Nat) (expected : String) : Nat → Fields α τ → Reader α
  | _, .nil => return ()
  | index, .field _ _ decoder others => do
    if ← (if index = 0 then firstItem else nextItem) then
      let a ← decoder.read levels
      return (a, ← others.readItems levels expected (index + 1))
    else
      raise (.wrongLength index expected)

/-- Convert the fields from items of a list, the first of them the item number `index`; also gives
the items left over. -/
def convertItems {α τ : Type} (expected : String) :
    Nat → Fields α τ → List Value → Except Flaw (α × List Value)
  | _, .nil, vs => .ok ((), vs)
  | index, .field .., [] => .error (.wrongLength index expected)
  | index, .field _ _ decoder others, v :: vs => do
    let a ← decoder.convert v
    let (b, left) ← others.convertItems expected (index + 1) vs
    return ((a, b), left)

/-- How many items a list of `n` fields has, in words. -/
def countText (n : Nat) : String :=
  toString n ++ (if n = 1 then " element" else " elements")

end Fields

/-- A record: what it is called in messages, how its length is described, whether fields of other
names are refused, its fields, and what they make. -/
structure Record (α : Type) where
  title : String
  lengthText : String
  closed : Bool
  Parts : Type
  Slots : Type
  fields : Fields Parts Slots
  make : Parts → Except Flaw α

namespace Record

open Reader

variable {α : Type}

/-- A record that allows fields of other names. -/
def ofFields {β τ : Type} (title : String) (fields : Fields β τ) (make : β → α) : Record α where
  title := title
  lengthText := title ++ " with " ++ Fields.countText fields.names.length
  closed := false
  Parts := β
  Slots := τ
  fields := fields
  make b := .ok (make b)

/-- A record that refuses fields of other names, may fail to be made, and whose length messages do
not count. -/
def strict {β τ : Type} (title : String) (fields : Fields β τ) (make : β → Except Flaw α) :
    Record α where
  title := title
  lengthText := title
  closed := true
  Parts := β
  Slots := τ
  fields := fields
  make := make

/-- Read the members of a record, up to the brace. -/
def readMembers (record : Record α) (levels : Nat) : Reader α := do
  let slots ← loopAfter firstMember nextMember nextMember_advances
    (fun slots => do
      let name ← key
      match record.fields.readMember levels name slots with
      | some reader => reader
      | none =>
        if record.closed then raise (.unknownField name record.fields.names)
        else
          colon
          passOver
          return slots)
    record.fields.unfilled
  orRaise (record.fields.complete slots >>= record.make)

/-- Read a record from the items of a list. -/
def readItems (record : Record α) (levels : Nat) : Reader α := do
  orRaise (record.make (← record.fields.readItems levels record.lengthText 0))

/-- Convert a record from the members of an object. -/
def convertMembers (record : Record α) (members : List (String × Value)) : Except Flaw α := do
  let slots ← members.foldlM
    (fun slots (key, v) =>
      match record.fields.convertMember key v slots with
      | some result => result
      | none =>
        if record.closed then .error (.unknownField key record.fields.names) else .ok slots)
    record.fields.unfilled
  record.make (← record.fields.complete slots)

/-- Convert a record from the items of a list, all of which must be used. -/
def convertItems (record : Record α) (items : List Value) : Except Flaw α := do
  let (parts, left) ← record.fields.convertItems record.lengthText 0 items
  let a ← record.make parts
  if left.isEmpty then return a
  else
    .error (.wrongLength items.length
      (Fields.countText record.fields.names.length ++ " in sequence"))

end Record

namespace Decoder

open Reader

variable {α κ : Type}

/-- Decode a record. -/
def ofRecord (record : Record α) : Decoder α where
  read levels := do
    match ← lookPast with
    | some '[' => opened levels fun inner => enclosed .list (record.readItems inner)
    | some '\x7b' => opened levels fun inner => enclosed .object (record.readMembers inner)
    | _ => do failHere ((← Reader.scalar).unlike record.title)
  convert
    | .obj members => record.convertMembers members
    | .arr items => record.convertItems items
    | v => .error (v.unlike record.title)

end Decoder

/-! ## Variants -/

/-- A type with variants: the tag that names the variant, what the type is called in messages, the
names of its variants, and the record each of them holds beside the tag. -/
structure Variants (κ α : Type) where
  tag : String
  title : String
  names : Names κ
  body : κ → Record α

namespace Variants

open Reader

variable {κ α : Type} (variants : Variants κ α)

/-- The members of an object without its tag, and the variant that the tag names. The tag may stand
anywhere, but only once; its value is looked at as soon as it is met. -/
def readTagged (levels : Nat) : Reader (κ × Value) := do
  let (kind, read) ← loopAfter firstMember nextMember nextMember_advances
    (fun (kind, read) => do
      let name ← key
      if name = variants.tag then
        match kind with
        | some _ => raise (.duplicateField name)
        | none => do
          colon
          let kind ← (Decoder.identifier variants.names).read levels
          return (some kind, read)
      else
        colon
        let v ← value levels
        return (kind, (name, v) :: read))
    (none, [])
  match kind with
  | some kind => return (kind, .obj read.reverse)
  | none => raise (.missingField variants.tag)

/-- The items of a list after the first one, which names the variant. -/
def readListed (levels : Nat) : Reader (κ × Value) := do
  if ← firstItem then
    let kind ← (Decoder.identifier variants.names).read levels
    let read ← loop nextItem nextItem_advances (fun read => do return (← value levels) :: read) []
    return (kind, .arr read.reverse)
  else
    raise (.missingField variants.tag)

/-- Convert the body of a variant. -/
def convertBody (kind : κ) (body : Value) : Except Flaw α :=
  (Decoder.ofRecord (variants.body kind)).convert body

/-- Read a value: first its tag and body, then what they make. -/
def read (levels : Nat) : Reader α := do
  match ← lookPast with
  | some '[' => do
    let (kind, body) ← opened levels fun inner => enclosed .list (variants.readListed inner)
    orRaise (variants.convertBody kind body)
  | some '\x7b' => do
    let (kind, body) ← opened levels fun inner => enclosed .object (variants.readTagged inner)
    orRaise (variants.convertBody kind body)
  | _ => do failHere ((← Reader.scalar).unlike variants.title)

/-- Convert a value that is already read. -/
def convert : Value → Except Flaw α
  | .obj members => do
    let (kind, read) ← members.foldlM
      (fun (kind, read) (name, v) =>
        if name = variants.tag then
          match kind with
          | some _ => .error (.duplicateField name)
          | none => do return (some (← (Decoder.identifier variants.names).convert v), read)
        else .ok (kind, (name, v) :: read))
      (none, [])
    match kind with
    | some kind => variants.convertBody kind (.obj read.reverse)
    | none => .error (.missingField variants.tag)
  | .arr (v :: vs) => do
    variants.convertBody (← (Decoder.identifier variants.names).convert v) (.arr vs)
  | .arr [] => .error (.missingField variants.tag)
  | v => .error (v.unlike variants.title)

/-- The decoder of a type with variants. -/
def decoder : Decoder α := ⟨variants.read, variants.convert⟩

end Variants

/-! ## Whole texts -/

/-- The number of levels a text may nest. -/
def maxLevels : Nat := 127

/-- Read a value and then nothing but blanks. -/
def Reader.toEnd {α : Type} (reader : Reader α) : Reader α := do
  let a ← reader
  match ← lookPast with
  | none => return a
  | some _ => failNext .trailingCharacters

/-- Run a reader on a whole text; flaws get their place in it. -/
def Reader.runText {α : Type} (reader : Reader α) (text : String) : Except Fault α :=
  match reader.toEnd.run text.toList with
  | .done a _ => .ok a
  | .failed flaw left =>
    .error ⟨flaw, some (Place.ofOffset text.toList (bytes text.toList - left))⟩
  | .raised flaw _ => .error ⟨flaw, none⟩

/-- Decode a whole text. -/
def Decoder.decode {α : Type} (decoder : Decoder α) (text : String) : Except Fault α :=
  (decoder.read maxLevels).runText text

end Narrative.Json
