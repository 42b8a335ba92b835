import Narrative.Proofs.Decoding

/-!
# Refused values

A decoder reads up to the first value that it refuses, and the flaw of that value becomes the flaw of
the whole text: a loop makes no further round, and a list or an object around it at most gives the
flaw its place. What stands behind the refused value does not matter. Only where it is put aside with
the rest of an object, until the tag is known, it must be possible to read it.

`Value.Frame` is a value without one of its texts. Its own text is the same in front of that place
and behind it, whatever is filled in (`Layout.exists_write_fill`).

* `Variants.refuses_of_tag`: a variant with an unknown tag is refused;
* `Variants.refuses_of_body`: so is one whose body cannot be converted;
* `Decoder.refuses_list`: a list is refused with any of its items;
* **`Decoder.Refuses.decode`**: a whole text is refused with the flaw of its value.
-/

namespace Narrative.Json

open Reader

/-! ## How flaws get through -/

/-- The flaw that ended reading, whether it has its place or not. -/
def Reading.flaw? {α : Type} : Reading α → Option Flaw
  | .done _ _ => none
  | .failed flaw _ | .raised flaw _ => some flaw

namespace Reader

variable {α β σ : Type} {flaw : Flaw} {text rest : List Char}

/-- The reader ends in a flaw in front of a text, whatever blanks stand before it and whatever
follows. -/
def Stops (reader : Reader α) (text : List Char) (flaw : Flaw) : Prop :=
  ∀ lead rest, Blanks lead → Delimited rest →
    (reader.run (lead ++ (text ++ rest))).flaw? = some flaw

theorem Stops.run {reader : Reader α} (h : reader.Stops text flaw) (ends : Delimited rest) :
    (reader.run (text ++ rest)).flaw? = some flaw :=
  h [] rest blanks_nil ends

/-- Nothing is read behind a flaw. -/
theorem flaw?_bind {reader : Reader α} (h : (reader.run text).flaw? = some flaw)
    (next : α → Reader β) : ((reader >>= next).run text).flaw? = some flaw := by
  rw [run_bind]
  cases hrun : reader.run text with
  | done a rest =>
    rw [hrun] at h
    cases h
  | failed | raised =>
    rw [hrun] at h
    exact h

/-- A group ends in the flaw of its contents. -/
theorem flaw?_enclosed {contents : Reader α} (h : (contents.run text).flaw? = some flaw)
    (group : Group) : ((enclosed group contents).run text).flaw? = some flaw := by
  unfold enclosed
  cases hrun : contents.run text with
  | done a rest =>
    rw [hrun] at h
    cases h
  | failed | raised =>
    rw [hrun] at h
    simp only [hrun]
    exact h

/-- A loop ends with the flaw of one of its rounds. -/
theorem flaw?_loop {more : Reader Bool} {advances : more.Advances} {step : σ → Reader σ} {x : σ}
    (hmore : more.run text = .done true rest) (hstep : ((step x).run rest).flaw? = some flaw) :
    ((loop more advances step x).run text).flaw? = some flaw := by
  change (loopFrom more advances step x text).flaw? = some flaw
  rw [loopFrom]
  split
  · rename_i h'
    exact absurd (hmore.symm.trans h') (by simp)
  · rename_i h'
    obtain ⟨-, rfl⟩ := Reading.done.inj (hmore.symm.trans h')
    split
    all_goals
      rename_i hstep'
      rw [hstep'] at hstep
    · cases hstep
    · exact hstep
    · exact hstep
  all_goals
    rename_i h'
    exact absurd (hmore.symm.trans h') (by simp)

variable {first more : Reader Bool} {step : σ → Reader σ} {x y : σ} {group : Group}
  {starts : Char → Prop} {line : Nat → List Char} {part : List Char}
  {parts others : List (List Char)}

/-- **A loop over a group** ends with the flaw of a part, whatever other parts follow it. -/
theorem flaw?_loopAfter_inside (separates : Separates group first more starts)
    (blanks : ∀ depth, Blanks (line depth)) (steps : Steps step x parts y)
    (stops : ∀ rest, Delimited rest → ((step y).run (part ++ rest)).flaw? = some flaw)
    (hstarts : ∀ p ∈ parts ++ [part], ∃ c cs, p = c :: cs ∧ starts c) (depth : Nat)
    (rest : List Char) :
    ((loopAfter first more separates.advances step x).run
      (inside line group depth (parts ++ part :: others) ++ rest)).flaw? = some flaw := by
  have hstep := stops _ (delimited_laterParts group blanks depth others rest)
  obtain ⟨c, cs, rfl, hc⟩ := hstarts part (List.mem_append_right _ List.mem_cons_self)
  -- the first part is announced by another reader than the later ones
  cases parts with
  | nil =>
    cases steps
    have hfirst := separates.first_part (line (depth + 1)) c
      (cs ++ (laterParts line group depth others ++ rest)) (blanks _) hc
    unfold loopAfter
    rw [List.nil_append, inside, List.append_assoc, List.append_assoc, List.cons_append,
      run_bind_done hfirst, if_pos rfl]
    exact flaw?_bind hstep _
  | cons p parts =>
    have hbefore : ∀ q ∈ p :: parts, ∃ c cs, q = c :: cs ∧ starts c := fun q hq =>
      hstarts q (List.mem_append_left _ hq)
    rw [run_loopAfter_inside_append separates blanks steps hbefore]
    refine flaw?_loop ?_ hstep
    simp only [laterParts, List.cons_append, List.append_assoc]
    exact separates.more_part _ _ _ (blanks _) hc

end Reader

namespace Layout

variable (layout : Layout) {σ : Type} {step : σ → Reader σ} {x y : σ} {levels depth : Nat}
  {flaw : Flaw}

/-- A loop over a list ends with the flaw of an item. -/
theorem flaw?_items {vs ws : List Value} {v : Value} (fits : ∀ w ∈ vs ++ [v], w.Fits levels)
    (steps : Steps step x (vs.map (layout.write (depth + 1))) y)
    (stops : ∀ rest, Delimited rest →
      ((step y).run (layout.write (depth + 1) v ++ rest)).flaw? = some flaw)
    (rest : List Char) :
    ((loopAfter firstItem nextItem nextItem_advances step x).run
      (inside layout.line .list depth ((vs ++ v :: ws).map (layout.write (depth + 1))) ++
        rest)).flaw? = some flaw := by
  rw [List.map_append, List.map_cons]
  refine flaw?_loopAfter_inside separates_list layout.blanks_line steps stops (fun p hp => ?_)
    depth rest
  have hp : p ∈ (vs ++ [v]).map (layout.write (depth + 1)) := by rwa [List.map_append]
  obtain ⟨w, hw, rfl⟩ := List.mem_map.mp hp
  exact layout.item_starts (fits w hw) (depth + 1)

/-- A loop over an object ends with the flaw of a member. -/
theorem flaw?_members {ms ns : List (String × Value)} {m : String × Value}
    (steps : Steps step x (ms.map (layout.member depth)) y)
    (stops : ∀ rest, Delimited rest →
      ((step y).run (layout.member depth m ++ rest)).flaw? = some flaw)
    (rest : List Char) :
    ((loopAfter firstMember nextMember nextMember_advances step x).run
      (inside layout.line .object depth ((ms ++ m :: ns).map (layout.member depth)) ++
        rest)).flaw? = some flaw := by
  rw [List.map_append, List.map_cons]
  refine flaw?_loopAfter_inside separates_object layout.blanks_line steps stops (fun p hp => ?_)
    depth rest
  have hp : p ∈ (ms ++ [m]).map (layout.member depth) := by rwa [List.map_append]
  obtain ⟨m', -, rfl⟩ := List.mem_map.mp hp
  exact ⟨_, _, rfl, rfl⟩

/-- The value of a member is refused from its colon on. -/
theorem flaw?_colon_bind {α β : Type} {reader : Reader α} {v : Value}
    (stops : reader.Stops (layout.write depth v) flaw) (next : α → Reader β) {rest : List Char}
    (ends : Delimited rest) :
    ((colon >>= fun _ => reader >>= next).run
      (':' :: (layout.space ++ (layout.write depth v ++ rest)))).flaw? = some flaw := by
  rw [run_bind_done (run_colon _)]
  exact flaw?_bind (stops _ _ layout.blanks_space ends) next

end Layout

/-! ## Refusing decoders -/

/-- A decoder that reads a value up to a flaw, in every layout, with so many levels left to open. -/
structure Decoder.Refuses {α : Type} (decoder : Decoder α) (levels : Nat) (v : Value)
    (flaw : Flaw) : Prop where
  fits : v.Fits levels
  stops : ∀ layout : Layout, ∀ depth, (decoder.read levels).Stops (layout.write depth v) flaw

namespace Decoder

variable {α β : Type} {decoder : Decoder α} {levels : Nat} {v : Value} {flaw : Flaw}

/-- A scalar is read before it is refused. -/
theorem refuses_scalar {accept : Value → Except Flaw α} (scalar : v.Scalar)
    (refused : accept v = .error flaw) : (Decoder.scalar accept).Refuses levels v flaw where
  fits := .scalar scalar
  stops layout depth lead rest blanks ends := by
    rw [run_scalar accept scalar layout depth blanks ends, refused]
    rfl

theorem refuses_map (f : α → β) (refused : decoder.Refuses levels v flaw) :
    (decoder.map f).Refuses levels v flaw where
  fits := refused.fits
  stops layout depth lead rest blanks ends :=
    flaw?_bind (refused.stops layout depth lead rest blanks ends) _

/-- **A list is refused** with any of its items, whatever stands behind that one. -/
theorem refuses_list {vs ws : List Value} {as : List α}
    (before : List.Forall₂ (decoder.Takes levels) vs as) (refused : decoder.Refuses levels v flaw)
    (behind : ∀ w ∈ ws, w.Fits levels) :
    (list decoder).Refuses (levels + 1) (.arr (vs ++ v :: ws)) flaw := by
  have hbefore : ∀ w ∈ vs ++ [v], w.Fits levels := by
    intro w hw
    rcases List.mem_append.mp hw with hw | hw
    · exact fits_of_takes before w hw
    · exact List.mem_singleton.mp hw ▸ refused.fits
  refine ⟨.arr fun w hw => ?_, fun layout depth lead rest blanks ends => ?_⟩
  · rw [List.append_cons, List.mem_append] at hw
    exact hw.elim (hbefore w) (behind w)
  · have hsteps := layout.steps_items (before.imp fun w a taken => taken.reads layout (depth + 1))
    unfold list
    rw [layout.lookPast_arr depth blanks]
    refine flaw?_enclosed (flaw?_bind (layout.flaw?_items hbefore hsteps ?_ rest) _) _
    exact fun rest ends => flaw?_bind ((refused.stops layout (depth + 1)).run ends) _

/-- **A whole text is refused** with the flaw of its value, whatever stands behind it. -/
theorem Refuses.decode (refused : decoder.Refuses maxLevels v flaw) (layout : Layout)
    {trail : List Char} (ends : Delimited trail) :
    ∃ fault, decoder.decode (String.ofList (layout.write 0 v ++ trail)) = .error fault ∧
      fault.flaw = flaw := by
  have hread := (refused.stops layout 0).run ends
  have hall : ((decoder.read maxLevels).toEnd.run (layout.write 0 v ++ trail)).flaw? = some flaw :=
    flaw?_bind hread _
  unfold Decoder.decode runText
  rw [String.toList_ofList]
  cases hrun : (decoder.read maxLevels).toEnd.run (layout.write 0 v ++ trail) with
  | done a rest =>
    rw [hrun] at hall
    cases hall
  | failed | raised =>
    rw [hrun] at hall
    exact ⟨_, rfl, Option.some.inj hall⟩

/-! ## Conversions that fail -/

/-- A text that is no name. -/
theorem named_of_unknown {names : Names α} {n : String} (unknown : n ∉ names.texts) :
    named names n = .error (.unknownVariant n names.texts) := by
  have hnone : names.find? n = none := by
    refine names.find?_eq_none_iff.mpr fun a ha => unknown ?_
    rw [← ha]
    exact List.mem_map_of_mem (names.mem_all a)
  rw [named, hnone]

/-- An object from names to values is not converted if a key is no name. -/
theorem convert_entries_of_unknown {κ : Type} {names : Names κ} {ms ns : List (String × Value)}
    {read : List (κ × α)}
    (before : List.Forall₂
      (fun m entry => m.1 = names.name entry.1 ∧ decoder.Takes levels m.2 entry.2) ms read)
    {n : String} (unknown : n ∉ names.texts) :
    (entries names decoder).convert (.obj (ms ++ (n, v) :: ns)) =
      .error (.unknownVariant n names.texts) := by
  have htaken := (takes_entries before).converts
  change List.mapM _ (ms ++ _) = _
  rw [List.mapM_append, show List.mapM _ ms = _ from htaken, List.mapM_cons]
  simp only [named_of_unknown unknown]
  rfl

end Decoder

namespace Fields

variable {α β τ : Type} {fields : Fields β τ} {name key : String} {absent : Option α}
  {decoder : Decoder α} {v : Value} {flaw : Flaw}

/-- The member of a field that is not converted. -/
theorem convertMember_here (refused : decoder.convert v = .error flaw) (slots : τ) :
    (Fields.field name absent decoder fields).convertMember name v (none, slots) =
      some (.error flaw) := by
  simp only [convertMember, if_pos, refused]
  rfl

/-- It may be one of the other fields. -/
theorem convertMember_there {slots : τ} (other : key ≠ name)
    (refused : fields.convertMember key v slots = some (.error flaw)) (filled : Option α) :
    (Fields.field name absent decoder fields).convertMember key v (filled, slots) =
      some (.error flaw) := by
  simp only [convertMember, if_neg other, refused]
  rfl

end Fields

/-- A fold over a list ends with the error it meets. -/
theorem foldlM_of_error {β σ ε : Type} {step : σ → β → Except ε σ} {x y : σ} {b : β} {e : ε}
    {left right : List β} (before : left.foldlM step x = .ok y) (meets : step y b = .error e) :
    (left ++ b :: right).foldlM step x = .error e := by
  rw [List.foldlM_append, before]
  change (List.foldlM step y (b :: right)) = _
  rw [List.foldlM_cons, meets]
  rfl

/-- A record is not converted if one of its members is not, whatever stands behind that one. -/
theorem Record.convertMembers_of_refused {α : Type} {record : Record α} (levels : Nat)
    {ms ns : List (String × Value)} {m : String × Value} {slots : record.Slots} {flaw : Flaw}
    (before : record.fields.PutsAll levels record.fields.unfilled ms slots)
    (refused : record.fields.convertMember m.1 m.2 slots = some (.error flaw)) :
    record.convertMembers (ms ++ m :: ns) = .error flaw := by
  unfold Record.convertMembers
  rw [foldlM_of_error (before.foldlM ?_) ?_]
  · rfl
  · intro slots m slots' puts
    simp only [puts.converts]
  · simp only [refused]

/-! ## Variants -/

namespace Variants

variable {κ α : Type} {variants : Variants κ α} {levels : Nat} {left right : List (String × Value)}
  {flaw : Flaw}

/-- **A variant with an unknown tag is refused** at that tag. -/
theorem refuses_of_tag (fits : ∀ m ∈ left ++ right, m.2.Fits levels)
    (untagged : ∀ m ∈ left, m.1 ≠ variants.tag) {n : String} (unknown : n ∉ variants.names.texts) :
    variants.decoder.Refuses (levels + 1) (.obj (left ++ (variants.tag, .str n) :: right))
      (.unknownVariant n variants.names.texts) := by
  have hname : (Decoder.identifier variants.names).Refuses levels (.str n)
      (.unknownVariant n variants.names.texts) :=
    Decoder.refuses_scalar .str (Decoder.named_of_unknown unknown)
  refine ⟨fits_tagged fits, fun layout depth lead rest blanks ends => ?_⟩
  change ((variants.read (levels + 1)).run _).flaw? = _
  unfold read
  rw [layout.lookPast_obj depth blanks]
  refine flaw?_bind (flaw?_enclosed (flaw?_bind
    (layout.flaw?_members (steps_beside ?_ []) ?_ rest) _) .object) _
  · intro m hm read rest ends
    have hreads := layout.value_reads (fits m (List.mem_append_left right hm)) (depth + 1)
    rw [run_bind_done (layout.run_key depth m rest), if_neg (untagged m hm)]
    exact layout.run_colon_bind hreads _ ends
  · intro rest ends
    rw [run_bind_done (layout.run_key depth _ rest), if_pos rfl]
    exact layout.flaw?_colon_bind (hname.stops layout (depth + 1)) _ ends

/-- **A variant is refused** if its body is not converted, wherever its tag stands. -/
theorem refuses_of_body {kind : κ} (fits : ∀ m ∈ left ++ right, m.2.Fits levels)
    (untagged : ∀ m ∈ left ++ right, m.1 ≠ variants.tag)
    (refused : (variants.body kind).convertMembers (left ++ right) = .error flaw) :
    variants.decoder.Refuses (levels + 1)
      (.obj (left ++ (variants.tag, .str (variants.names.name kind)) :: right)) flaw := by
  have hbody : variants.convertBody kind (.obj (left ++ right)) = .error flaw := refused
  refine ⟨fits_tagged fits, fun layout depth lead rest blanks ends => ?_⟩
  have hrun : (variants.read (levels + 1)).run (lead ++ (layout.write depth
      (.obj (left ++ (variants.tag, .str (variants.names.name kind)) :: right)) ++ rest)) =
        .raised flaw rest := by
    unfold read
    rw [layout.lookPast_obj depth blanks]
    -- the object is read to its end, so the flaw has no place yet
    refine (run_bind_done (run_enclosed (run_readTagged fits untagged layout depth rest))).trans ?_
    simp only [hbody]
    rfl
  exact congrArg Reading.flaw? hrun

end Variants

/-! ## Frames -/

/-- **A value without one of its texts**, which may be a key. -/
inductive Value.Frame
  /-- the text is the whole value -/
  | here
  /-- the text is in an item of a list -/
  | item (before : List Value) (inner : Frame) (behind : List Value)
  /-- the text is in the value of a member -/
  | member (before : List (String × Value)) (key : String) (inner : Frame)
      (behind : List (String × Value))
  /-- the text is the key of a member -/
  | key (before : List (String × Value)) (v : Value) (behind : List (String × Value))

/-- The value with a text in the place that was left open. -/
def Value.Frame.fill (n : String) : Value.Frame → Value
  | .here => .str n
  | .item before inner behind => .arr (before ++ inner.fill n :: behind)
  | .member before name inner behind => .obj (before ++ (name, inner.fill n) :: behind)
  | .key before v behind => .obj (before ++ (n, v) :: behind)

/-- The text behind the first part of a group is the same around one of the other parts. -/
theorem exists_laterParts (line : Nat → List Char) (group : Group) (depth : Nat)
    (before behind : List (List Char)) :
    ∃ front back, ∀ part,
      laterParts line group depth (before ++ part :: behind) = front ++ (part ++ back) := by
  induction before with
  | nil =>
    refine ⟨',' :: line (depth + 1), laterParts line group depth behind, fun part => ?_⟩
    rw [List.nil_append, laterParts, List.append_assoc, List.cons_append]
  | cons p before ih =>
    obtain ⟨front, back, hfront⟩ := ih
    refine ⟨',' :: (line (depth + 1) ++ p ++ front), back, fun part => ?_⟩
    simp only [List.cons_append, laterParts, hfront, List.append_assoc]

/-- So is the text of a whole group around any of its parts. -/
theorem exists_inside (line : Nat → List Char) (group : Group) (depth : Nat)
    (before behind : List (List Char)) :
    ∃ front back, ∀ part,
      inside line group depth (before ++ part :: behind) = front ++ (part ++ back) := by
  cases before with
  | nil =>
    refine ⟨line (depth + 1), laterParts line group depth behind, fun part => ?_⟩
    rw [List.nil_append, inside, List.append_assoc]
  | cons p before =>
    obtain ⟨front, back, hfront⟩ := exists_laterParts line group depth before behind
    refine ⟨line (depth + 1) ++ p ++ front, back, fun part => ?_⟩
    simp only [List.cons_append, inside, hfront, List.append_assoc]

/-- **What is filled in changes nothing else**: the text of the value is the same around it. -/
theorem Layout.exists_write_fill (layout : Layout) (frame : Value.Frame) (depth : Nat) :
    ∃ front back, ∀ n, layout.write depth (frame.fill n) = front ++ (quoted n ++ back) := by
  induction frame generalizing depth with
  | here =>
    refine ⟨[], [], fun n => ?_⟩
    rw [List.append_nil, List.nil_append]
    exact layout.write_scalar depth (.str n) .str
  | item before inner behind ih =>
    obtain ⟨front, back, hinner⟩ := ih (depth + 1)
    obtain ⟨front', back', hgroup⟩ := exists_inside layout.line .list depth
      (before.map (layout.write (depth + 1))) (behind.map (layout.write (depth + 1)))
    refine ⟨'[' :: (front' ++ front), back ++ back', fun n => ?_⟩
    rw [Value.Frame.fill, layout.write_arr, List.map_append, List.map_cons, hgroup, hinner]
    simp only [List.cons_append, List.append_assoc]
  | member before key inner behind ih =>
    obtain ⟨front, back, hinner⟩ := ih (depth + 1)
    obtain ⟨front', back', hgroup⟩ := exists_inside layout.line .object depth
      (before.map (layout.member depth)) (behind.map (layout.member depth))
    refine ⟨'\x7b' :: (front' ++ (quoted key ++ ':' :: (layout.space ++ front))), back ++ back',
      fun n => ?_⟩
    have hobj := layout.write_obj depth (before ++ (key, inner.fill n) :: behind)
    rw [List.map_append, List.map_cons] at hobj
    rw [Value.Frame.fill, hobj]
    refine (congrArg (List.cons '\x7b') (hgroup _)).trans ?_
    simp only [hinner, List.cons_append, List.append_assoc]
  | key before v behind =>
    obtain ⟨front, back, hgroup⟩ := exists_inside layout.line .object depth
      (before.map (layout.member depth)) (behind.map (layout.member depth))
    refine ⟨'\x7b' :: front, ':' :: (layout.space ++ layout.write (depth + 1) v) ++ back,
      fun n => ?_⟩
    have hobj := layout.write_obj depth (before ++ (n, v) :: behind)
    rw [List.map_append, List.map_cons] at hobj
    rw [Value.Frame.fill, hobj]
    refine (congrArg (List.cons '\x7b') (hgroup _)).trans ?_
    simp only [List.cons_append, List.append_assoc]

end Narrative.Json
