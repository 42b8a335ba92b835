import Mathlib.Data.List.Forall2
import Narrative.Json.Tree
import Narrative.Proofs.Layouts

/-!
# Values read back

A group is read by a loop: one reader says whether a part follows, another reads it. What the two
kinds of group have in common is `Separates`, and what a loop makes of the parts is `Steps`. So a
loop over a group is known by the steps that its parts make.

Reading is bounded in two ways: an integer must fit 64 bits, and lists and objects may be nested
only so deep (`Value.Fits`).

* `run_loopAfter_inside`: a loop over a group goes through its parts, up to the closing bracket;
* **`Layout.value_reads`**: a value that fits is read back, whatever its layout is.
-/

namespace Narrative.Json

open Reader

/-! ## Loops -/

namespace Reader

variable {α σ : Type}

theorem run_loop_of_false {more : Reader Bool} {advances : more.Advances} {step : σ → Reader σ}
    {x : σ} {text rest : List Char} (h : more.run text = .done false rest) :
    (loop more advances step x).run text = .done x rest := by
  change loopFrom more advances step x text = _
  rw [loopFrom]
  split
  · rename_i h'
    obtain ⟨-, rfl⟩ := Reading.done.inj (h.symm.trans h')
    rfl
  all_goals
    rename_i h'
    exact absurd (h.symm.trans h') (by simp)

theorem run_loop_of_true {more : Reader Bool} {advances : more.Advances} {step : σ → Reader σ}
    {x y : σ} {text rest rest' : List Char} (h : more.run text = .done true rest)
    (hstep : (step x).run rest = .done y rest') :
    (loop more advances step x).run text = (loop more advances step y).run rest' := by
  change loopFrom more advances step x text = loopFrom more advances step y rest'
  rw [loopFrom]
  split
  · rename_i h'
    exact absurd (h.symm.trans h') (by simp)
  · rename_i h'
    obtain ⟨-, rfl⟩ := Reading.done.inj (h.symm.trans h')
    split
    · rename_i hstep'
      obtain ⟨rfl, rfl⟩ := Reading.done.inj (hstep.symm.trans hstep')
      rfl
    all_goals
      rename_i hstep'
      exact absurd (hstep.symm.trans hstep') (by simp)
  all_goals
    rename_i h'
    exact absurd (h.symm.trans h') (by simp)

/-- The rounds of a loop that read the parts of a group one after the other. A round starts at its
part, for the blanks before it were passed over with the comma. -/
inductive Steps (step : σ → Reader σ) : σ → List (List Char) → σ → Prop
  | nil {x : σ} : Steps step x [] x
  | cons {x y z : σ} {part : List Char} {parts : List (List Char)}
      (reads : ∀ rest, Delimited rest → (step x).run (part ++ rest) = .done y rest)
      (later : Steps step y parts z) : Steps step x (part :: parts) z

theorem Steps.append {step : σ → Reader σ} {x y z : σ} {parts parts' : List (List Char)}
    (steps : Steps step x parts y) (later : Steps step y parts' z) :
    Steps step x (parts ++ parts') z := by
  induction steps with
  | nil => exact later
  | cons reads _ ih => exact .cons reads (ih later)

/-- The rounds of a loop that puts one thing in front for each part. -/
theorem Steps.collect {step : List α → Reader (List α)} {parts : List (List Char)} {as : List α}
    (rounds : List.Forall₂
      (fun part a => ∀ read rest, Delimited rest →
        (step read).run (part ++ rest) = .done (a :: read) rest) parts as)
    (read : List α) : Steps step read parts (as.reverse ++ read) := by
  induction rounds generalizing read with
  | nil => exact .nil
  | @cons part a parts as hpart _ ih =>
    rw [List.reverse_cons, List.append_assoc, List.singleton_append]
    exact .cons (hpart read) (ih (a :: read))

/-- What a loop has collected is put in order behind it. -/
theorem run_reverse {reader : Reader (List α)} {as : List α} {text rest : List Char}
    (h : reader.run text = .done (as.reverse ++ []) rest) :
    (do
      let read ← reader
      return read.reverse).run text = .done as rest := by
  refine (run_bind_done h).trans ?_
  rw [List.append_nil, List.reverse_reverse]
  rfl

/-- `first` and `more` announce the parts of a group, which start with characters that `starts`
admits. -/
structure Separates (group : Group) (first more : Reader Bool) (starts : Char → Prop) : Prop where
  advances : more.Advances
  first_closing : ∀ lead rest, Blanks lead →
    first.run (lead ++ group.closing :: rest) = .done false (group.closing :: rest)
  first_part : ∀ lead c rest, Blanks lead → starts c →
    first.run (lead ++ c :: rest) = .done true (c :: rest)
  more_closing : ∀ lead rest, Blanks lead →
    more.run (lead ++ group.closing :: rest) = .done false (group.closing :: rest)
  more_part : ∀ lead c rest, Blanks lead → starts c →
    more.run (',' :: (lead ++ c :: rest)) = .done true (c :: rest)

/-- The items of a list. -/
theorem separates_list :
    Separates .list firstItem nextItem (fun c => isGap c = false ∧ c ≠ ']') where
  advances := nextItem_advances
  first_closing lead rest blanks := by
    unfold firstItem
    rw [run_bind_lookPast blanks, run_bind, run_lookPast_cons rfl]
    rfl
  first_part lead c rest blanks starts := by
    obtain ⟨hgap, hclosing⟩ := starts
    unfold firstItem
    rw [run_bind_lookPast blanks, run_bind, run_lookPast_cons hgap]
    simp only [run_pure]
  more_closing lead rest blanks := by
    unfold nextItem
    rw [run_bind_lookPast blanks, run_bind, run_lookPast_cons rfl]
    rfl
  more_part lead c rest blanks starts := by
    obtain ⟨hgap, hclosing⟩ := starts
    unfold nextItem
    rw [run_bind, run_lookPast_cons rfl]
    simp only [run_bind, run_skip, List.tail_cons, run_lookPast_append blanks,
      run_lookPast_cons hgap, run_pure]

/-- The members of an object. -/
theorem separates_object : Separates .object firstMember nextMember (· = '"') where
  advances := nextMember_advances
  first_closing lead rest blanks := by
    unfold firstMember
    rw [run_bind_lookPast blanks, run_bind, run_lookPast_cons rfl]
    rfl
  first_part lead c rest blanks starts := by
    subst starts
    unfold firstMember
    rw [run_bind_lookPast blanks, run_bind, run_lookPast_cons rfl]
    rfl
  more_closing lead rest blanks := by
    unfold nextMember
    rw [run_bind_lookPast blanks, run_bind, run_lookPast_cons rfl]
    rfl
  more_part lead c rest blanks starts := by
    subst starts
    unfold nextMember
    rw [run_bind, run_lookPast_cons rfl]
    simp only [run_bind, run_skip, List.tail_cons, run_lookPast_append blanks,
      run_lookPast_cons (show isGap '"' = false from rfl), run_pure]

variable {first more : Reader Bool} {step : σ → Reader σ} {x y : σ} {group : Group}
  {starts : Char → Prop} {line : Nat → List Char} {parts : List (List Char)}

/-- A part of a group is followed by a comma, a blank or the end of the group. -/
theorem delimited_laterParts (group : Group) (blanks : ∀ depth, Blanks (line depth))
    (depth : Nat) (parts : List (List Char)) (rest : List Char) :
    Delimited (laterParts line group depth parts ++ rest) := by
  intro c hc
  cases parts with
  | nil =>
    unfold laterParts at hc
    cases hline : line depth with
    | nil =>
      rw [hline] at hc
      obtain rfl : group.closing = c := by simpa using hc
      cases group <;> exact Or.inr (by decide)
    | cons d ds =>
      rw [hline] at hc
      obtain rfl : d = c := by simpa using hc
      exact Or.inl (blanks depth d (hline ▸ List.mem_cons_self))
  | cons part parts =>
    obtain rfl : ',' = c := by simpa [laterParts] using hc
    exact Or.inr List.mem_cons_self

/-- The rounds behind the first part, whatever other parts come after them. -/
theorem run_loop_laterParts_append (separates : Separates group first more starts)
    (blanks : ∀ depth, Blanks (line depth)) (steps : Steps step x parts y)
    (hstarts : ∀ part ∈ parts, ∃ c cs, part = c :: cs ∧ starts c) (others : List (List Char))
    (depth : Nat) (rest : List Char) :
    (loop more separates.advances step x).run
        (laterParts line group depth (parts ++ others) ++ rest) =
      (loop more separates.advances step y).run (laterParts line group depth others ++ rest) := by
  induction steps with
  | nil => rfl
  | @cons x y z part parts reads later ih =>
    obtain ⟨c, cs, rfl, hc⟩ := hstarts part List.mem_cons_self
    have hmore : more.run (laterParts line group depth ((c :: cs) :: (parts ++ others)) ++ rest) =
        .done true (c :: cs ++ (laterParts line group depth (parts ++ others) ++ rest)) := by
      simp only [laterParts, List.cons_append, List.append_assoc]
      exact separates.more_part _ _ _ (blanks _) hc
    have hstep := reads _ (delimited_laterParts group blanks depth (parts ++ others) rest)
    rw [List.cons_append, run_loop_of_true hmore hstep]
    exact ih fun part hmem => hstarts part (List.mem_cons_of_mem _ hmem)

/-- All rounds of a group with a part, whatever other parts come after it. -/
theorem run_loopAfter_inside_append (separates : Separates group first more starts)
    (blanks : ∀ depth, Blanks (line depth)) {part : List Char}
    (steps : Steps step x (part :: parts) y)
    (hstarts : ∀ p ∈ part :: parts, ∃ c cs, p = c :: cs ∧ starts c) (others : List (List Char))
    (depth : Nat) (rest : List Char) :
    (loopAfter first more separates.advances step x).run
        (inside line group depth (part :: parts ++ others) ++ rest) =
      (loop more separates.advances step y).run (laterParts line group depth others ++ rest) := by
  unfold loopAfter
  cases steps with
  | cons reads later =>
    obtain ⟨c, cs, rfl, hc⟩ := hstarts part List.mem_cons_self
    have hfirst := separates.first_part (line (depth + 1)) c
      (cs ++ (laterParts line group depth (parts ++ others) ++ rest)) (blanks _) hc
    have hstep := reads _ (delimited_laterParts group blanks depth (parts ++ others) rest)
    rw [List.cons_append, inside, List.append_assoc, List.append_assoc, List.cons_append,
      run_bind_done hfirst, if_pos rfl]
    refine (run_bind_done hstep).trans ?_
    exact run_loop_laterParts_append separates blanks later
      (fun p hmem => hstarts p (List.mem_cons_of_mem _ hmem)) others depth rest

/-- **A loop over a group** takes its parts one after the other, up to the closing bracket. -/
theorem run_loopAfter_inside (separates : Separates group first more starts)
    (blanks : ∀ depth, Blanks (line depth)) (steps : Steps step x parts y)
    (hstarts : ∀ part ∈ parts, ∃ c cs, part = c :: cs ∧ starts c) (depth : Nat)
    (rest : List Char) :
    (loopAfter first more separates.advances step x).run (inside line group depth parts ++ rest) =
      .done y (group.closing :: rest) := by
  cases parts with
  | nil =>
    cases steps
    exact run_bind_done (separates.first_closing [] rest blanks_nil)
  | cons part parts =>
    have hall := run_loopAfter_inside_append separates blanks steps hstarts [] depth rest
    rw [List.append_nil] at hall
    rw [hall, laterParts, List.append_assoc]
    exact run_loop_of_false (separates.more_closing _ _ (blanks depth))

/-- A group is closed where its contents end. -/
theorem run_enclosed {group : Group} {contents : Reader α} {text rest : List Char} {a : α}
    (h : contents.run text = .done a (group.closing :: rest)) :
    (enclosed group contents).run text = .done a rest := by
  have hclose : (close group).run (group.closing :: rest) = .done () rest := by
    cases group with
    | list => exact run_bind_done (run_lookPast_cons (show isGap ']' = false from rfl) rest)
    | object => exact run_bind_done (run_lookPast_cons (show isGap '\x7d' = false from rfl) rest)
  unfold enclosed
  simp only [h, hclose]

end Reader

/-! ## What can be read back -/

/-- A value that can be read back with so many levels left to open. -/
inductive Value.Fits : Nat → Value → Prop
  | scalar {levels : Nat} {v : Value} (scalar : v.Scalar) : Fits levels v
  | arr {levels : Nat} {vs : List Value} (items : ∀ v ∈ vs, Fits levels v) :
      Fits (levels + 1) (.arr vs)
  | obj {levels : Nat} {ms : List (String × Value)} (members : ∀ m ∈ ms, Fits levels m.2) :
      Fits (levels + 1) (.obj ms)

theorem Value.Fits.of_obj {levels : Nat} {ms : List (String × Value)}
    (h : (Value.obj ms).Fits (levels + 1)) : ∀ m ∈ ms, m.2.Fits levels := by
  cases h with
  | scalar scalar => cases scalar
  | obj members => exact members

namespace Layout

variable (layout : Layout) {levels : Nat} {vs : List Value} {ms : List (String × Value)}

/-- The first character of a value tells its type. -/
theorem exists_cons {v : Value} (fits : v.Fits levels) (depth : Nat) :
    ∃ c cs, layout.write depth v = c :: cs ∧ v.startsWith c = true := by
  cases fits with
  | scalar scalar =>
    rw [layout.write_scalar depth v scalar]
    exact scalar.exists_cons
  | arr => exact ⟨_, _, layout.write_arr depth _, rfl⟩
  | obj => exact ⟨_, _, layout.write_obj depth _, rfl⟩

/-! ## Lists and objects -/

/-- An item is told from the end of its list. -/
theorem item_starts {v : Value} (fits : v.Fits levels) (depth : Nat) :
    ∃ c cs, layout.write depth v = c :: cs ∧ isGap c = false ∧ c ≠ ']' := by
  obtain ⟨c, cs, hwrite, hstarts⟩ := layout.exists_cons fits depth
  obtain ⟨hgap, hends⟩ := Value.startsWith_ne hstarts
  exact ⟨c, cs, hwrite, hgap, fun h => hends (by simp [h])⟩

/-- **A loop over a list** takes its items one after the other, up to the bracket. -/
theorem run_items {σ : Type} {step : σ → Reader σ} {x y : σ} {depth : Nat}
    (fits : ∀ v ∈ vs, v.Fits levels) (steps : Steps step x (vs.map (layout.write (depth + 1))) y)
    (rest : List Char) :
    (loopAfter firstItem nextItem nextItem_advances step x).run
      (inside layout.line .list depth (vs.map (layout.write (depth + 1))) ++ rest) =
        .done y (']' :: rest) := by
  refine run_loopAfter_inside separates_list layout.blanks_line steps (fun part hmem => ?_) depth
    rest
  obtain ⟨v, hv, rfl⟩ := List.mem_map.mp hmem
  exact layout.item_starts (fits v hv) (depth + 1)

/-- **A loop over an object** takes its members one after the other, up to the brace. -/
theorem run_members {σ : Type} {step : σ → Reader σ} {x y : σ} {depth : Nat}
    (steps : Steps step x (ms.map (layout.member depth)) y) (rest : List Char) :
    (loopAfter firstMember nextMember nextMember_advances step x).run
      (inside layout.line .object depth (ms.map (layout.member depth)) ++ rest) =
        .done y ('\x7d' :: rest) := by
  refine run_loopAfter_inside separates_object layout.blanks_line steps (fun part hmem => ?_) depth
    rest
  obtain ⟨m, -, rfl⟩ := List.mem_map.mp hmem
  exact ⟨_, _, rfl, rfl⟩

theorem member_append (depth : Nat) (m : String × Value) (rest : List Char) :
    layout.member depth m ++ rest =
      quoted m.1 ++ ':' :: (layout.space ++ (layout.write (depth + 1) m.2 ++ rest)) := by
  simp only [Layout.member, List.append_assoc, List.cons_append]

/-- The key of a member is read up to the colon. -/
theorem run_key (depth : Nat) (m : String × Value) (rest : List Char) :
    key.run (layout.member depth m ++ rest) =
      .done m.1 (':' :: (layout.space ++ (layout.write (depth + 1) m.2 ++ rest))) := by
  unfold key
  rw [layout.member_append, quoted, List.cons_append, List.append_assoc, List.singleton_append,
    run_bind, run_skip, List.tail_cons]
  exact run_text m.1 _

theorem run_colon (rest : List Char) : colon.run (':' :: rest) = .done () rest :=
  run_bind_done (run_lookPast_cons rfl rest)

/-- The value of a member is read from its colon on. -/
theorem run_colon_bind {α β : Type} {reader : Reader α} {depth : Nat} {v : Value} {a : α}
    (reads : reader.Reads (layout.write depth v) a) (next : α → Reader β) {rest : List Char}
    (ends : Delimited rest) :
    (colon >>= fun _ => reader >>= next).run
      (':' :: (layout.space ++ (layout.write depth v ++ rest))) = (next a).run rest := by
  rw [run_bind_done (run_colon _)]
  exact run_bind_done (reads _ _ layout.blanks_space ends)

/-- The rounds that collect the items of a list. -/
theorem steps_items {α : Type} {item : Reader α} {as : List α} {depth : Nat}
    (reads : List.Forall₂ (fun v => item.Reads (layout.write (depth + 1) v)) vs as) :
    Steps (fun read => do return (← item) :: read) [] (vs.map (layout.write (depth + 1)))
      (as.reverse ++ []) := by
  refine Steps.collect ?_ []
  rw [List.forall₂_map_left_iff]
  refine reads.imp fun v a h read rest ends => ?_
  exact run_bind_done (h.run ends)

/-- A list is read back if its items are. -/
theorem enclosed_items {α : Type} {item : Reader α} {as : List α} {depth : Nat}
    (fits : ∀ v ∈ vs, v.Fits levels)
    (reads : List.Forall₂ (fun v => item.Reads (layout.write (depth + 1) v)) vs as)
    (rest : List Char) :
    (enclosed .list (items item)).run
      (inside layout.line .list depth (vs.map (layout.write (depth + 1))) ++ rest) =
        .done as rest :=
  run_enclosed (run_reverse (layout.run_items fits (layout.steps_items reads) rest))

/-- An object is read back if its values are. -/
theorem enclosed_members {item : Reader Value} {depth : Nat}
    (reads : ∀ m ∈ ms, item.Reads (layout.write (depth + 1) m.2) m.2) (rest : List Char) :
    (enclosed .object (members item)).run
      (inside layout.line .object depth (ms.map (layout.member depth)) ++ rest) =
        .done ms rest := by
  refine run_enclosed (run_reverse (layout.run_members (Steps.collect ?_ []) rest))
  rw [List.forall₂_map_left_iff, List.forall₂_same]
  intro m hm read rest ends
  rw [run_bind_done (layout.run_key depth m rest)]
  exact layout.run_colon_bind (reads m hm) _ ends

/-! ## Values -/

variable {α : Type} {lead : List Char}

/-- Scalars are read back from every layout. -/
theorem scalar_reads {v : Value} (scalar : v.Scalar) (depth : Nat) :
    Reader.scalar.Reads (layout.write depth v) v := by
  rw [layout.write_scalar depth v scalar]
  exact Reader.scalar_reads scalar

/-- The first character of a value is looked at and stays unread. -/
theorem lookPast_value {v : Value} (fits : v.Fits levels) (depth : Nat) (blanks : Blanks lead)
    (next : Option Char → Reader α) (rest : List Char) :
    ∃ c, v.startsWith c = true ∧
      (lookPast >>= next).run (lead ++ (layout.write depth v ++ rest)) =
        (next (some c)).run (layout.write depth v ++ rest) := by
  obtain ⟨c, cs, hchars, hstarts⟩ := layout.exists_cons fits depth
  refine ⟨c, hstarts, ?_⟩
  rw [run_bind_lookPast blanks, hchars]
  exact run_bind_done (run_lookPast_cons (Value.startsWith_ne hstarts).1 _)

/-- A scalar is told from a group by it. -/
theorem lookPast_scalar {v : Value} (scalar : v.Scalar) (depth : Nat) (blanks : Blanks lead)
    (next : Option Char → Reader α) (rest : List Char) :
    ∃ c, v.startsWith c = true ∧ c ≠ '[' ∧ c ≠ '\x7b' ∧
      (lookPast >>= next).run (lead ++ (layout.write depth v ++ rest)) =
        (next (some c)).run (layout.write depth v ++ rest) := by
  have fits : v.Fits 0 := .scalar scalar
  obtain ⟨c, hstarts, hlook⟩ := layout.lookPast_value fits depth blanks next rest
  obtain ⟨hlist, hobject⟩ := scalar.startsWith_ne hstarts
  exact ⟨c, hstarts, hlist, hobject, hlook⟩

/-- A list is told by its bracket. -/
theorem lookPast_arr (depth : Nat) (blanks : Blanks lead) (next : Option Char → Reader α)
    (rest : List Char) :
    (lookPast >>= next).run (lead ++ (layout.write depth (.arr vs) ++ rest)) =
      (next (some '[')).run
        ('[' :: (inside layout.line .list depth (vs.map (layout.write (depth + 1))) ++ rest)) := by
  rw [run_bind_lookPast blanks, layout.write_arr]
  exact run_bind_done (run_lookPast_cons rfl _)

/-- An object is told by its brace. -/
theorem lookPast_obj (depth : Nat) (blanks : Blanks lead) (next : Option Char → Reader α)
    (rest : List Char) :
    (lookPast >>= next).run (lead ++ (layout.write depth (.obj ms) ++ rest)) =
      (next (some '\x7b')).run
        ('\x7b' :: (inside layout.line .object depth (ms.map (layout.member depth)) ++ rest)) := by
  rw [run_bind_lookPast blanks, layout.write_obj]
  exact run_bind_done (run_lookPast_cons rfl _)

/-- **Values are read back** from every layout if they fit. -/
theorem value_reads {v : Value} (fits : v.Fits levels) (depth : Nat) :
    (value levels).Reads (layout.write depth v) v := by
  induction fits generalizing depth with
  | @scalar levels v hscalar =>
    intro lead rest blanks ends
    have hvalue : ∃ item, value levels = valueOf item := by
      cases levels <;> exact ⟨_, rfl⟩
    obtain ⟨item, hitem⟩ := hvalue
    unfold valueOf at hitem
    rw [hitem]
    obtain ⟨c, -, hlist, hobject, hlook⟩ := layout.lookPast_scalar hscalar depth blanks _ rest
    rw [hlook]
    split
    · rename_i h
      exact absurd (Option.some.inj h) hlist
    · rename_i h
      exact absurd (Option.some.inj h) hobject
    · exact (layout.scalar_reads hscalar depth).run ends
  | @arr levels vs hitems ih =>
    intro lead rest blanks ends
    have hreads : List.Forall₂ (fun v => (value levels).Reads (layout.write (depth + 1) v)) vs vs :=
      List.forall₂_same.mpr fun v hmem => ih v hmem (depth + 1)
    unfold value valueOf
    rw [layout.lookPast_arr depth blanks]
    exact run_bind_done (layout.enclosed_items hitems hreads rest)
  | @obj levels ms hmembers ih =>
    intro lead rest blanks ends
    have hreads : ∀ m ∈ ms, (value levels).Reads (layout.write (depth + 1) m.2) m.2 :=
      fun m hmem => ih m hmem (depth + 1)
    unfold value valueOf
    rw [layout.lookPast_obj depth blanks]
    exact run_bind_done (layout.enclosed_members hreads rest)

end Layout

end Narrative.Json
