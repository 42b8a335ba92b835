import Narrative.Json.Flaw

/-!
# Readers

A reader consumes characters from the front of a text. It ends in one of three ways: `done` with a
value and the text it leaves, `failed` with a flaw whose place is fixed by the number of bytes not
yet read, or `raised` with a flaw whose place is still open, together with the text it leaves. The
list or object around a raised flaw is closed first and gives it its place (`enclosed`).

A reader never gives back more text than it got (`shrinks`), so a loop whose every round takes at
least one character ends (`Reader.loop`).
-/

namespace Narrative.Json

/-- The number of bytes of a text. -/
def bytes : List Char → Nat
  | [] => 0
  | c :: cs => c.utf8Size + bytes cs

/-- How reading ended. -/
inductive Reading (α : Type)
  /-- a value, and the text after it -/
  | done (value : α) (rest : List Char)
  /-- a flaw, and how many bytes are left at its place -/
  | failed (flaw : Flaw) (left : Nat)
  /-- a flaw without a place so far, and the text not yet read -/
  | raised (flaw : Flaw) (rest : List Char)

/-- A reader of `α`. -/
structure Reader (α : Type) where
  run : List Char → Reading α
  shrinks : ∀ text value rest, run text = .done value rest → rest.length ≤ text.length

namespace Reader

variable {α β σ : Type}

/-- Read nothing. -/
protected def pure (a : α) : Reader α where
  run text := .done a text
  shrinks := by
    rintro text value rest h
    cases h
    exact Nat.le_refl _

/-- Read one thing after another. -/
protected def bind (reader : Reader α) (next : α → Reader β) : Reader β where
  run text :=
    match reader.run text with
    | .done a rest => (next a).run rest
    | .failed flaw left => .failed flaw left
    | .raised flaw rest => .raised flaw rest
  shrinks := by
    intro text value rest h
    split at h
    · next a rest' ha => exact Nat.le_trans ((next a).shrinks _ _ _ h) (reader.shrinks _ _ _ ha)
    · cases h
    · cases h

instance : Monad Reader where
  pure := Reader.pure
  bind := Reader.bind

/-- A flaw right here. -/
def failHere (flaw : Flaw) : Reader α where
  run text := .failed flaw (bytes text)
  shrinks := by rintro _ _ _ ⟨⟩

/-- A flaw of the next byte: its place is after that byte, or here if the text ends here. -/
def failNext (flaw : Flaw) : Reader α where
  run text := .failed flaw (bytes text - 1)
  shrinks := by rintro _ _ _ ⟨⟩

/-- A flaw `back` bytes before here. -/
def failBack (flaw : Flaw) (back : Nat) : Reader α where
  run text := .failed flaw (bytes text + back)
  shrinks := by rintro _ _ _ ⟨⟩

/-- A flaw whose place is left to what is around it. -/
def raise (flaw : Flaw) : Reader α where
  run text := .raised flaw text
  shrinks := by rintro _ _ _ ⟨⟩

/-- The value, or a flaw right here. -/
def orFailHere : Except Flaw α → Reader α
  | .ok a => pure a
  | .error flaw => failHere flaw

/-- The value, or a flaw whose place is left open. -/
def orRaise : Except Flaw α → Reader α
  | .ok a => pure a
  | .error flaw => raise flaw

/-- The next character, which stays unread. -/
def look : Reader (Option Char) where
  run text := .done text.head? text
  shrinks := by
    rintro text value rest h
    cases h
    exact Nat.le_refl _

/-- Pass over the next character. -/
def skip : Reader Unit where
  run text := .done () text.tail
  shrinks := by
    rintro text value rest h
    cases h
    simp

/-- The four blanks between tokens. -/
def isGap (c : Char) : Bool := c = ' ' ∨ c = '\n' ∨ c = '\t' ∨ c = '\r'

/-- Pass over blanks. -/
def gap : Reader Unit where
  run text := .done () (text.dropWhile isGap)
  shrinks := by
    rintro text value rest h
    cases h
    exact (List.dropWhile_sublist _).length_le

/-- The next character after blanks, which stays unread. -/
def lookPast : Reader (Option Char) := do
  gap
  look

/-! ## What the basic readers do -/

@[simp] theorem run_pure (a : α) (text : List Char) :
    (pure a : Reader α).run text = .done a text := rfl

@[simp] theorem run_bind (reader : Reader α) (next : α → Reader β) (text : List Char) :
    (reader >>= next).run text =
      match reader.run text with
      | .done a rest => (next a).run rest
      | .failed flaw left => .failed flaw left
      | .raised flaw rest => .raised flaw rest := rfl

@[simp] theorem run_failHere (flaw : Flaw) (text : List Char) :
    (failHere flaw : Reader α).run text = .failed flaw (bytes text) := rfl

@[simp] theorem run_failNext (flaw : Flaw) (text : List Char) :
    (failNext flaw : Reader α).run text = .failed flaw (bytes text - 1) := rfl

@[simp] theorem run_raise (flaw : Flaw) (text : List Char) :
    (raise flaw : Reader α).run text = .raised flaw text := rfl

@[simp] theorem run_look (text : List Char) : look.run text = .done text.head? text := rfl

@[simp] theorem run_skip (text : List Char) : skip.run text = .done () text.tail := rfl

@[simp] theorem run_lookPast (text : List Char) :
    lookPast.run text = .done (text.dropWhile isGap).head? (text.dropWhile isGap) := rfl

theorem length_dropWhile_le (text : List Char) : (text.dropWhile isGap).length ≤ text.length :=
  (List.dropWhile_sublist _).length_le

/-! ## Loops -/

/-- Whether a reader takes at least one character whenever it answers `true`. -/
def Advances (more : Reader Bool) : Prop :=
  ∀ text rest, more.run text = .done true rest → rest.length < text.length

/-- Carry a value through rounds of `step` for as long as `more` answers `true`. -/
def loopFrom (more : Reader Bool) (advances : more.Advances) (step : σ → Reader σ) (x : σ)
    (text : List Char) : Reading σ :=
  match h : more.run text with
  | .done false rest => .done x rest
  | .done true rest =>
    match h' : (step x).run rest with
    | .done y rest' =>
      have : rest'.length < text.length :=
        Nat.lt_of_le_of_lt ((step x).shrinks _ _ _ h') (advances _ _ h)
      loopFrom more advances step y rest'
    | .failed flaw left => .failed flaw left
    | .raised flaw rest' => .raised flaw rest'
  | .failed flaw left => .failed flaw left
  | .raised flaw rest => .raised flaw rest
termination_by text.length

/-- The loop as a reader. -/
def loop (more : Reader Bool) (advances : more.Advances) (step : σ → Reader σ) (x : σ) :
    Reader σ where
  run := loopFrom more advances step x
  shrinks := by
    intro text value rest h
    fun_induction loopFrom more advances step x text with
    | case1 x text rest' h' =>
      cases h
      exact more.shrinks _ _ _ h'
    | case2 x text rest' h' y rest'' h'' _ ih =>
      exact Nat.le_trans (ih h)
        (Nat.le_trans ((step x).shrinks _ _ _ h'') (more.shrinks _ _ _ h'))
    | _ => cases h

/-- A loop whose first round is announced by another reader than the later ones. -/
def loopAfter (first more : Reader Bool) (advances : more.Advances) (step : σ → Reader σ) (x : σ) :
    Reader σ := do
  if ← first then
    let y ← step x
    loop more advances step y
  else
    return x

/-! ## Lists and objects -/

/-- The two kinds of bracketed groups. -/
inductive Group
  | list
  | object
  deriving DecidableEq

/-- Before the first item of a list: whether there is one. -/
def firstItem : Reader Bool := do
  match ← lookPast with
  | some ']' => return false
  | some _ => return true
  | none => failNext .endInList

/-- After an item of a list: whether another one follows. Passes over the comma. -/
def nextItem : Reader Bool := do
  match ← lookPast with
  | some ']' => return false
  | some ',' => do
    skip
    match ← lookPast with
    | some ']' => failNext .trailingComma
    | some _ => return true
    | none => failNext .endInValue
  | some _ => failNext .expectedListSeparator
  | none => failNext .endInList

theorem nextItem_advances : nextItem.Advances := by
  intro text rest h
  have short := length_dropWhile_le text
  simp only [nextItem, run_bind, run_lookPast] at h
  cases e : text.dropWhile isGap with
  | nil => simp [e] at h
  | cons c cs =>
    have shorter := length_dropWhile_le cs
    simp only [e, List.head?_cons, List.length_cons] at h short
    split at h
    · simp at h
    · simp only [run_bind, run_skip, run_lookPast, List.tail_cons] at h
      split at h
      · simp at h
      · simp only [run_pure, Reading.done.injEq] at h
        obtain ⟨_, rfl⟩ := h
        omega
      · simp at h
    · simp at h
    · simp at h

/-- Before the first member of an object: whether there is one. -/
def firstMember : Reader Bool := do
  match ← lookPast with
  | some '\x7d' => return false
  | some '"' => return true
  | some _ => failNext .keyNotText
  | none => failNext .endInObject

/-- After a member of an object: whether another one follows. Passes over the comma. -/
def nextMember : Reader Bool := do
  match ← lookPast with
  | some '\x7d' => return false
  | some ',' => do
    skip
    match ← lookPast with
    | some '"' => return true
    | some '\x7d' => failNext .trailingComma
    | some _ => failNext .keyNotText
    | none => failNext .endInValue
  | some _ => failNext .expectedObjectSeparator
  | none => failNext .endInObject

theorem nextMember_advances : nextMember.Advances := by
  intro text rest h
  have short := length_dropWhile_le text
  simp only [nextMember, run_bind, run_lookPast] at h
  cases e : text.dropWhile isGap with
  | nil => simp [e] at h
  | cons c cs =>
    have shorter := length_dropWhile_le cs
    simp only [e, List.head?_cons, List.length_cons] at h short
    split at h
    · simp at h
    · simp only [run_bind, run_skip, run_lookPast, List.tail_cons] at h
      split at h
      · simp only [run_pure, Reading.done.injEq] at h
        obtain ⟨_, rfl⟩ := h
        omega
      all_goals simp at h
    · simp at h
    · simp at h

/-- Pass over the colon between a key and its value. -/
def colon : Reader Unit := do
  match ← lookPast with
  | some ':' => skip
  | some _ => failNext .expectedColon
  | none => failNext .endInObject

/-- Pass over the end of a group whose contents are all read. -/
def close : Group → Reader Unit
  | .list => do
    match ← lookPast with
    | some ']' => skip
    | some ',' => do
      skip
      match ← lookPast with
      | some ']' => failNext .trailingComma
      | _ => failNext .trailingCharacters
    | some _ => failNext .trailingCharacters
    | none => failNext .endInList
  | .object => do
    match ← lookPast with
    | some '\x7d' => skip
    | some ',' => failNext .trailingComma
    | some _ => failNext .trailingCharacters
    | none => failNext .endInObject

/-- Where an abandoned group leaves the text: past blanks, past its end if that is next, and in a
list past one comma and the blanks after it. -/
def abandon (group : Group) (text : List Char) : List Char :=
  match group, text.dropWhile isGap with
  | .list, ']' :: rest => rest
  | .list, ',' :: rest => rest.dropWhile isGap
  | .object, '\x7d' :: rest => rest
  | _, rest => rest

/-- The contents of a group up to and including its end. A flaw raised inside gets the place where
the abandoned group leaves the text. -/
def enclosed (group : Group) (contents : Reader α) : Reader α where
  run text :=
    match contents.run text with
    | .done a rest =>
      match (close group).run rest with
      | .done _ rest' => .done a rest'
      | .failed flaw left => .failed flaw left
      | .raised flaw rest' => .raised flaw rest'
    | .failed flaw left => .failed flaw left
    | .raised flaw rest => .failed flaw (bytes (abandon group rest))
  shrinks := by
    intro text value rest h
    split at h
    · next a rest' ha =>
      split at h
      · next hc =>
        cases h
        exact Nat.le_trans ((close group).shrinks _ _ _ hc) (contents.shrinks _ _ _ ha)
      · cases h
      · cases h
    · cases h
    · cases h

end Reader

end Narrative.Json
