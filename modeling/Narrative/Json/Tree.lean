import Narrative.Json.Scalar

/-!
# Whole values

Two ways over a value of any shape. `value` reads it: its numbers must be in range, its surrogates
paired, and its lists and objects may nest only so many levels deep. `passOver` checks the grammar
alone: it ignores the range of numbers, the pairing of surrogates and the depth of nesting. It words
a few faults differently, such as a bracket right after a comma.
-/

namespace Narrative.Json.Reader

variable {α : Type}

/-! ## Reading a value -/

/-- Read the items of a list, up to its bracket. -/
def items (item : Reader α) : Reader (List α) := do
  let read ← loopAfter firstItem nextItem nextItem_advances (fun read => do return (← item) :: read) []
  return read.reverse

/-- Read a key whose opening quote comes next. -/
def key : Reader String := do
  skip
  text

/-- Read the members of an object, up to its brace. -/
def members (item : Reader α) : Reader (List (String × α)) := do
  let read ← loopAfter firstMember nextMember nextMember_advances
    (fun read => do
      let name ← key
      colon
      let v ← item
      return (name, v) :: read) []
  return read.reverse

/-- Open a group if a level is left for it. -/
def opened (levels : Nat) (contents : Nat → Reader α) : Reader α :=
  match levels with
  | 0 => failNext .tooDeep
  | inner + 1 => do
    skip
    contents inner

/-- Read a value whose items are read by `item`, if one more level is allowed. -/
def valueOf (item : Option (Reader Value)) : Reader Value := do
  match ← lookPast with
  | some '[' =>
    match item with
    | none => failNext .tooDeep
    | some item => do
      skip
      return .arr (← enclosed .list (items item))
  | some '\x7b' =>
    match item with
    | none => failNext .tooDeep
    | some item => do
      skip
      return .obj (← enclosed .object (members item))
  | _ => scalar

/-- Read a value that nests at most `levels` deep. -/
def value : Nat → Reader Value
  | 0 => valueOf none
  | levels + 1 => valueOf (some (value levels))

/-! ## Passing over a value -/

/-- Pass over what follows a backslash. -/
def passEscape : Reader Unit := do
  match ← look with
  | none => failHere .endInText
  | some c =>
    if (escapeLetter? c).isSome then skip
    else if c = 'u' then
      skip
      let _ ← codeUnit
    else
      failNext .invalidEscape

/-- Whether a text goes on; its closing quote is passed over. A control character is refused where
it stands. -/
def moreText : Reader Bool := do
  match ← look with
  | none => failHere .endInText
  | some '"' => do
    skip
    return false
  | some '\\' => do
    skip
    passEscape
    return true
  | some c =>
    if c.toNat < 0x20 then failHere .controlCharacter
    else
      skip
      return true

theorem moreText_advances : moreText.Advances := by
  intro text rest h
  simp only [moreText, run_bind, run_look] at h
  cases text with
  | nil => simp at h
  | cons c cs =>
    simp only [List.head?_cons] at h
    split at h
    · simp at h
    · simp at h
    · simp only [run_bind, run_skip, List.tail_cons] at h
      split at h
      · next hp =>
        simp only [run_pure, Reading.done.injEq] at h
        obtain ⟨_, rfl⟩ := h
        exact Nat.lt_succ_of_le (passEscape.shrinks _ _ _ hp)
      · cases h
      · cases h
    · split at h
      · simp at h
      · simp only [run_bind, run_skip, run_pure, List.tail_cons, Reading.done.injEq] at h
        obtain ⟨_, rfl⟩ := h
        simp

/-- Pass over a text whose opening quote is already read. -/
def passText : Reader Unit := loop moreText moreText_advances (fun _ => return ()) ()

/-- Pass over the exponent of a number, from its mark on. -/
def passExponent : Reader Unit := do
  skip
  match ← look with
  | some '+' => skip
  | some '-' => skip
  | _ => pure ()
  match ← digits with
  | [] =>
    match ← look with
    | some _ => failNext .invalidNumber
    | none => failHere .invalidNumber
  | _ => return ()

/-- Pass over an exponent if its mark comes next. -/
def passExponent? : Reader Unit := do
  match ← look with
  | some c => if isExponentMark c then passExponent else return ()
  | none => return ()

/-- Pass over what follows the integer digits of a number. -/
def passAfterDigits : Reader Unit := do
  match ← look with
  | some '.' => do
    skip
    match ← digits with
    | [] => failNext .invalidNumber
    | _ => passExponent?
  | _ => passExponent?

/-- Pass over a number whose sign is already read. -/
def passNumber : Reader Unit := do
  match ← look with
  | some '0' => do
    skip
    match ← look with
    | some c => if isDigit c then failNext .invalidNumber else passAfterDigits
    | none => passAfterDigits
  | some c =>
    if isDigit c then
      let _ ← digits
      passAfterDigits
    else
      failNext .invalidNumber
  | none => failHere .invalidNumber

/-- After an item that was passed over: whether another one follows. Passes over the comma. -/
def passNextItem : Reader Bool := do
  match ← lookPast with
  | some ']' => return false
  | some ',' => do
    skip
    return true
  | some _ => failNext .expectedListSeparator
  | none => failNext .endInList

theorem passNextItem_advances : passNextItem.Advances := by
  intro text rest h
  have short := length_dropWhile_le text
  simp only [passNextItem, run_bind, run_lookPast] at h
  cases e : text.dropWhile isGap with
  | nil => simp [e] at h
  | cons c cs =>
    simp only [e, List.head?_cons, List.length_cons] at h short
    split at h
    · simp at h
    · simp only [run_bind, run_skip, run_pure, List.tail_cons, Reading.done.injEq] at h
      obtain ⟨_, rfl⟩ := h
      omega
    · simp at h
    · simp at h

/-- After a member that was passed over: whether another one follows. Passes over the comma. -/
def passNextMember : Reader Bool := do
  match ← lookPast with
  | some '\x7d' => return false
  | some ',' => do
    skip
    match ← lookPast with
    | some '"' => return true
    | some _ => failNext .keyNotText
    | none => failNext .endInObject
  | some _ => failNext .expectedObjectSeparator
  | none => failNext .endInObject

theorem passNextMember_advances : passNextMember.Advances := by
  intro text rest h
  have short := length_dropWhile_le text
  simp only [passNextMember, run_bind, run_lookPast] at h
  cases e : text.dropWhile isGap with
  | nil => simp [e] at h
  | cons c cs =>
    have shorter := length_dropWhile_le cs
    simp only [e, List.head?_cons, List.length_cons] at h short
    split at h
    · simp at h
    · simp only [run_bind, run_skip, run_lookPast, List.tail_cons] at h
      split at h
      · simp only [run_pure, Reading.done.injEq] at h
        obtain ⟨_, rfl⟩ := h
        omega
      all_goals simp at h
    · simp at h
    · simp at h

/-- Pass over a key whose opening quote comes next, and its colon. -/
def passKey : Reader Unit := do
  skip
  passText
  colon

/-- Pass over a value that nests at most `levels` deep. -/
def passWithin : Nat → Reader Unit
  | 0 => failNext .tooDeep
  | levels + 1 => do
    match ← lookPast with
    | some '[' => do
      skip
      loopAfter firstItem passNextItem passNextItem_advances (fun _ => passWithin levels) ()
      skip
    | some '\x7b' => do
      skip
      loopAfter firstMember passNextMember passNextMember_advances
        (fun _ => do
          passKey
          passWithin levels) ()
      skip
    | some '"' => do
      skip
      passText
    | some '-' => do
      skip
      passNumber
    | some 'n' => do
      skip
      word ['u', 'l', 'l']
    | some 't' => do
      skip
      word ['r', 'u', 'e']
    | some 'f' => do
      skip
      word ['a', 'l', 's', 'e']
    | some c => if isDigit c then passNumber else failNext .expectedValue
    | none => failNext .endInValue

/-- Pass over a value. A text nests no deeper than it is long. -/
def passOver : Reader Unit where
  run text := (passWithin (text.length + 1)).run text
  shrinks text value rest h := (passWithin (text.length + 1)).shrinks text value rest h

end Narrative.Json.Reader
