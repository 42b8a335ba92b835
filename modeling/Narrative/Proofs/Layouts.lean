import Narrative.Proofs.Scalars

/-!
# Layouts

Compact and indented texts differ in the blanks between their tokens and in nothing else. A `Layout`
says where it has blanks, and carries the proof that the rest is the same in all layouts: scalars as
they are, and groups as `inside` puts them together from the texts of their parts.

What is said of a `Layout` is said of both texts at once.

* `inside`: the text of a group behind its opening bracket, from the texts of its parts;
* **`Layout.compact`**, **`Layout.pretty`**: both writers have a layout.
-/

namespace Narrative.Json

open Reader

/-! ## Groups -/

/-- The bracket that ends a group. -/
def Reader.Group.closing : Group → Char
  | .list => ']'
  | .object => '\x7d'

/-- What stands behind the first part of a group: the others, each after a comma, and the end. -/
def laterParts (line : Nat → List Char) (group : Group) (depth : Nat) :
    List (List Char) → List Char
  | [] => line depth ++ [group.closing]
  | part :: parts => ',' :: (line (depth + 1) ++ part ++ laterParts line group depth parts)

/-- What stands behind the bracket that opens a group. -/
def inside (line : Nat → List Char) (group : Group) (depth : Nat) :
    List (List Char) → List Char
  | [] => [group.closing]
  | part :: parts => line (depth + 1) ++ part ++ laterParts line group depth parts

/-- A way to write values. -/
structure Layout where
  /-- the text of a value nested so deep -/
  write : Nat → Value → List Char
  /-- what stands before an item or a member nested so deep, and before the end of a group -/
  line : Nat → List Char
  /-- what stands between the colon behind a key and the value -/
  space : List Char
  blanks_line : ∀ depth, Blanks (line depth)
  blanks_space : Blanks space
  write_scalar : ∀ depth v, v.Scalar → write depth v = v.scalarChars
  write_arr : ∀ depth vs,
    write depth (.arr vs) = '[' :: inside line .list depth (vs.map (write (depth + 1)))
  write_obj : ∀ depth ms,
    write depth (.obj ms) = '\x7b' :: inside line .object depth
      (ms.map fun m => quoted m.1 ++ ':' :: (space ++ write (depth + 1) m.2))

namespace Layout

/-- A member as it stands in an object nested so deep. -/
def member (layout : Layout) (depth : Nat) (m : String × Value) : List Char :=
  quoted m.1 ++ ':' :: (layout.space ++ layout.write (depth + 1) m.2)

theorem compactItems_eq (vs : List Value) (depth : Nat) :
    compactItems vs = laterParts (fun _ => []) .list depth (vs.map Value.compactChars) := by
  induction vs with
  | nil => rfl
  | cons v vs ih => simp only [compactItems, ih, List.map_cons, laterParts, List.nil_append]

theorem compactMembers_eq (ms : List (String × Value)) (depth : Nat) :
    compactMembers ms = laterParts (fun _ => []) .object depth
      (ms.map fun m => quoted m.1 ++ ':' :: m.2.compactChars) := by
  induction ms with
  | nil => rfl
  | cons m ms ih =>
    simp only [compactMembers, ih, List.map_cons, laterParts, List.nil_append, List.append_assoc,
      List.cons_append]

/-- The layout without blanks. -/
def compact : Layout where
  write _ v := v.compactChars
  line _ := []
  space := []
  blanks_line _ := blanks_nil
  blanks_space := blanks_nil
  write_scalar _ _ h := by cases h <;> rfl
  write_arr depth vs := by
    cases vs with
    | nil => rfl
    | cons v vs =>
      simp only [Value.compactChars, compactItems_eq vs depth, List.map_cons, inside,
        List.nil_append]
  write_obj depth ms := by
    cases ms with
    | nil => rfl
    | cons m ms =>
      simp only [Value.compactChars, compactMembers_eq ms depth, List.map_cons, inside,
        List.nil_append, List.append_assoc, List.cons_append]

theorem prettyItems_eq (vs : List Value) (depth : Nat) :
    prettyItems depth vs =
      laterParts indent .list depth (vs.map (Value.prettyChars (depth + 1))) := by
  induction vs with
  | nil => rfl
  | cons v vs ih => simp only [prettyItems, ih, List.map_cons, laterParts]

theorem prettyMembers_eq (ms : List (String × Value)) (depth : Nat) :
    prettyMembers depth ms = laterParts indent .object depth
      (ms.map fun m => quoted m.1 ++ ':' :: ([' '] ++ m.2.prettyChars (depth + 1))) := by
  induction ms with
  | nil => rfl
  | cons m ms ih =>
    simp only [prettyMembers, ih, List.map_cons, laterParts, List.nil_append, List.append_assoc,
      List.cons_append]

theorem blanks_indent (depth : Nat) : Blanks (indent depth) := by
  intro c hmem
  rcases List.mem_cons.mp hmem with rfl | hmem
  · rfl
  · rw [List.eq_of_mem_replicate hmem]
    rfl

/-- The layout with one item or member a line. -/
def pretty : Layout where
  write depth v := v.prettyChars depth
  line := indent
  space := [' ']
  blanks_line := blanks_indent
  blanks_space c hmem := by
    rw [List.mem_singleton.mp hmem]
    rfl
  write_scalar _ _ h := by cases h <;> rfl
  write_arr depth vs := by
    cases vs with
    | nil => rfl
    | cons v vs => simp only [Value.prettyChars, prettyItems_eq, List.map_cons, inside]
  write_obj depth ms := by
    cases ms with
    | nil => rfl
    | cons m ms =>
      simp only [Value.prettyChars, prettyMembers_eq, List.map_cons, inside, List.nil_append,
        List.append_assoc, List.cons_append]

end Layout

end Narrative.Json
