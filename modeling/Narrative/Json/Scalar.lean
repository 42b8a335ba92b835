import Narrative.Json.Reader

/-!
# Words, texts and numbers

The readers of the unstructured values. A text is read character by character; escapes in four
hexadecimal digits are code units, and a pair of surrogates makes one character.

A number that 64 bits hold as an integer is read as one, `-0` excepted. Any other number is a binary
fraction: digits are collected into 64 bits for as long as they fit (`absorb`), each integer digit
left over raises the exponent, and the result is scaled once by a power of ten.
-/

namespace Narrative.Json.Reader

/-! ## Words -/

/-- Read the rest of a known word. -/
def word : List Char → Reader Unit
  | [] => return ()
  | expected :: more => do
    match ← look with
    | none => failHere .endInValue
    | some c =>
      if c = expected then
        skip
        word more
      else
        failNext .expectedWord

/-! ## Texts -/

/-- The value of a hexadecimal digit. -/
def hexValue? (c : Char) : Option Nat :=
  if '0' ≤ c ∧ c ≤ '9' then some (c.toNat - 48)
  else if 'a' ≤ c ∧ c ≤ 'f' then some (c.toNat - 87)
  else if 'A' ≤ c ∧ c ≤ 'F' then some (c.toNat - 55)
  else none

/-- The number written by four hexadecimal digits. -/
def hexNumber? (a b c d : Char) : Option Nat := do
  let a ← hexValue? a
  let b ← hexValue? b
  let c ← hexValue? c
  let d ← hexValue? d
  return ((a * 16 + b) * 16 + c) * 16 + d

/-- Read a code unit in four hexadecimal digits. Four bytes are taken before they are looked at. -/
def codeUnit : Reader Nat where
  run text :=
    if bytes (text.take 4) < 4 then .failed .endInText 0
    else
      match text with
      | a :: b :: c :: d :: rest =>
        match hexNumber? a b c d with
        | some n => .done n rest
        | none => .failed .invalidEscape (bytes text - 4)
      | _ => .failed .invalidEscape (bytes text - 4)
  shrinks := by
    intro text value rest h
    split at h
    · cases h
    · split at h
      · split at h
        · cases h
          simp only [List.length_cons]
          omega
        · cases h
      · cases h

/-- Read a character that must come next in a surrogate pair. -/
def pairMark (mark : Char) : Reader Unit := do
  match ← look with
  | none => failHere .endInText
  | some c => if c = mark then skip else failNext .unfinishedSurrogate

/-- Whether a code unit is the first half of a surrogate pair. -/
def isHigh (unit : Nat) : Bool := decide (0xD800 ≤ unit) && decide (unit ≤ 0xDBFF)

/-- Whether a code unit is the second half of a surrogate pair. -/
def isLow (unit : Nat) : Bool := decide (0xDC00 ≤ unit) && decide (unit ≤ 0xDFFF)

/-- Read what follows `\u`: one code unit, or a surrogate pair. -/
def unicodeEscape : Reader Char := do
  let unit ← codeUnit
  if isLow unit then failHere .loneSurrogate
  else if isHigh unit then
    pairMark '\\'
    pairMark 'u'
    let second ← codeUnit
    if isLow second then
      return Char.ofNat ((unit - 0xD800) * 0x400 + (second - 0xDC00) + 0x10000)
    else
      failHere .loneSurrogate
  else
    return Char.ofNat unit

/-- The character a one-letter escape stands for. -/
def escapeLetter? : Char → Option Char
  | '"' => some '"'
  | '\\' => some '\\'
  | '/' => some '/'
  | 'b' => some '\x08'
  | 'f' => some '\x0c'
  | 'n' => some '\n'
  | 'r' => some '\r'
  | 't' => some '\t'
  | _ => none

/-- Read what follows a backslash. -/
def escape : Reader Char := do
  match ← look with
  | none => failHere .endInText
  | some c =>
    match escapeLetter? c with
    | some meant =>
      skip
      return meant
    | none =>
      if c = 'u' then
        skip
        unicodeEscape
      else
        failNext .invalidEscape

/-- Read characters up to the closing quote, after those in `before`, last first. -/
def textFrom (before : List Char) (text : List Char) : Reading String :=
  match text with
  | [] => .failed .endInText 0
  | c :: rest =>
    if c = '"' then .done (String.ofList before.reverse) rest
    else if c = '\\' then
      match h : escape.run rest with
      | .done meant rest' =>
        have : rest'.length ≤ rest.length := escape.shrinks _ _ _ h
        textFrom (meant :: before) rest'
      | .failed flaw left => .failed flaw left
      | .raised flaw rest' => .raised flaw rest'
    else if c.toNat < 0x20 then .failed .controlCharacter (bytes rest)
    else textFrom (c :: before) rest
termination_by text.length

/-- Read a text whose opening quote is already read. -/
def text : Reader String where
  run := textFrom []
  shrinks := by
    suffices ∀ before text value rest, textFrom before text = .done value rest →
        rest.length ≤ text.length from this []
    intro before text value rest h
    fun_induction textFrom before text with
    | case1 => cases h
    | case2 =>
      cases h
      simp
    | case3 before rest' _ meant rest'' _ _ ih =>
      have := ih h
      simp only [List.length_cons]
      omega
    | case4 => cases h
    | case5 => cases h
    | case6 => cases h
    | case7 before c rest' _ _ _ ih =>
      have := ih h
      simp only [List.length_cons]
      omega

/-! ## Numbers -/

/-- Whether a character is a decimal digit. -/
def isDigit (c : Char) : Bool := decide ('0' ≤ c) && decide (c ≤ '9')

/-- Read all digits that come next, as their values. -/
def digits : Reader (List Nat) where
  run text := .done ((text.takeWhile isDigit).map fun c => c.toNat - 48) (text.dropWhile isDigit)
  shrinks := by
    rintro text value rest h
    cases h
    exact (List.dropWhile_sublist _).length_le

/-- Append digits to a number for as long as 64 bits hold it; also says how many were. -/
def absorb (significand : Nat) : List Nat → Nat × Nat
  | [] => (significand, 0)
  | d :: ds =>
    if significand * 10 + d < UInt64.size then
      let after := absorb (significand * 10 + d) ds
      (after.1, after.2 + 1)
    else (significand, 0)

/-- A power of ten as a binary fraction. -/
def powerOfTen (n : Nat) : Float := Float.ofScientific 1 false n

/-- Divide by a power of ten, in steps that a binary fraction can hold. -/
def scaleDown (f : Float) (exponent : Nat) : Float :=
  if exponent ≤ 308 then f / powerOfTen exponent
  else if f == 0 then f
  else scaleDown (f / powerOfTen 308) (exponent - 308)
termination_by exponent

/-- `significand * 10 ^ exponent` as a binary fraction, unless it is too great for one. -/
def scaled? (significand : Nat) : Int → Option Float
  | .ofNat exponent =>
    let f := (UInt64.ofNat significand).toFloat
    if exponent ≤ 308 then
      let product := f * powerOfTen exponent
      if product.isInf then none else some product
    else if significand = 0 then some f
    else none
  | .negSucc exponent => some (scaleDown (UInt64.ofNat significand).toFloat (exponent + 1))

/-- A number with a sign of its own, as a binary fraction. -/
def signed (negative : Bool) (f : Float) : Number := .real (if negative then -f else f).toBits

/-- The number `significand * 10 ^ exponent`, or a flaw right here. -/
def scaled (negative : Bool) (significand : Nat) (exponent : Int) : Reader Number :=
  match scaled? significand exponent with
  | some f => return signed negative f
  | none => failHere .numberOutOfRange

/-- The exponent written by some digits, if 31 bits hold it; otherwise how many digits are left after
the one that is too much. -/
def exponentOf (acc : Nat) : List Nat → Except Nat Nat
  | [] => .ok acc
  | d :: ds => if acc * 10 + d < 0x80000000 then exponentOf (acc * 10 + d) ds else .error ds.length

/-- Read the exponent of a number whose mark `e` comes next, if it does. -/
def exponentPart (negative : Bool) (significand : Nat) (start : Int) : Reader Number := do
  skip
  let down ← match ← look with
    | some '+' => do
      skip
      pure false
    | some '-' => do
      skip
      pure true
    | _ => pure false
  match ← look with
  | none => failHere .endInValue
  | some c =>
    if isDigit c then
      match exponentOf 0 (← digits) with
      | .ok exponent =>
        scaled negative significand (if down then start - exponent else start + exponent)
      | .error left =>
        if significand ≠ 0 ∧ down = false then failBack .numberOutOfRange left
        else return signed negative 0
    else
      failNext .invalidNumber

/-- Whether a character marks an exponent. -/
def isExponentMark (c : Char) : Bool := c = 'e' ∨ c = 'E'

/-- Read what follows the integer digits of a number. -/
def afterDigits (negative : Bool) (whole : List Nat) : Reader Number := do
  let (significand, taken) := absorb 0 whole
  let start : Int := (whole.length - taken : Nat)
  match ← look with
  | some '.' => do
    skip
    let fraction ← digits
    let (longer, extra) := absorb significand fraction
    match fraction, ← look with
    | [], some _ => failNext .invalidNumber
    | [], none => failNext .endInValue
    | _ :: _, some c =>
      if isExponentMark c then exponentPart negative longer (start - extra)
      else scaled negative longer (start - extra)
    | _ :: _, none => scaled negative longer (start - extra)
  | some c =>
    if isExponentMark c then exponentPart negative significand start
    else plain significand taken start
  | none => plain significand taken start
where
  /-- A number that is nothing but integer digits. -/
  plain (significand taken : Nat) (start : Int) : Reader Number :=
    if taken < whole.length then scaled negative significand start
    else if negative then
      if 0 < significand ∧ significand ≤ 0x8000000000000000 then return .int (-significand)
      else return signed true (UInt64.ofNat significand).toFloat
    else return .int significand

/-- Read a number whose sign is already read. -/
def number (negative : Bool) : Reader Number := do
  match ← look with
  | none => failHere .endInValue
  | some '0' => do
    skip
    match ← look with
    | some c => if isDigit c then failNext .invalidNumber else afterDigits negative [0]
    | none => afterDigits negative [0]
  | some c => if isDigit c then afterDigits negative (← digits) else failNext .invalidNumber

/-! ## Scalars -/

/-- Read a value that is no list and no object. -/
def scalar : Reader Value := do
  match ← lookPast with
  | none => failNext .endInValue
  | some 'n' => do
    skip
    word ['u', 'l', 'l']
    return .null
  | some 't' => do
    skip
    word ['r', 'u', 'e']
    return .bool true
  | some 'f' => do
    skip
    word ['a', 'l', 's', 'e']
    return .bool false
  | some '-' => do
    skip
    return .num (← number true)
  | some '"' => do
    skip
    return .str (← text)
  | some c => if isDigit c then return .num (← number false) else failNext .expectedValue

end Narrative.Json.Reader
