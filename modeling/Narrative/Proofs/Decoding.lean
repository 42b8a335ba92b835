import Mathlib.Data.List.TakeWhile
import Narrative.Json.Decoder
import Narrative.Proofs.Values

/-!
# Decoding what was written

A decoder gets at its value in two ways: it reads the text of a document, or it converts a value
that was read before, as the members of a tagged object are, which are put aside until the tag is
known. `Decoder.Takes` says that it gets the same out of both. There is one law for each way to put
decoders together.

The members of an object may come in any order. A record has a slot for each of its fields, and
`Fields.Given` says which members fill them.

* `takes_list`, `takes_entries`: lists and maps are taken if their items are;
* `Decoder.takes_ofRecord`: records are taken if their fields are;
* `Variants.takes_decoder`: variants are taken, wherever the tag stands, if their bodies are;
* **`Decoder.Takes.decode`**: what is taken is decoded from a whole text, whatever its layout is;
* `Decoder.Takes.readsBack`: so it is from the compact and from the indented text.
-/

namespace Narrative.Json

open Reader

/-- The decoder gets `a` out of a value, with so many levels left to open: from its text in every
layout, and from the value that such a text is read as. -/
structure Decoder.Takes {α : Type} (decoder : Decoder α) (levels : Nat) (v : Value) (a : α) :
    Prop where
  fits : v.Fits levels
  reads : ∀ layout : Layout, ∀ depth, (decoder.read levels).Reads (layout.write depth v) a
  converts : decoder.convert v = .ok a

namespace Decoder

variable {α β κ : Type} {levels : Nat} {v : Value} {a : α}

/-! ## Scalars and names -/

/-- A scalar is read whole before it is looked at. -/
theorem run_scalar (accept : Value → Except Flaw α) (scalar : v.Scalar) (layout : Layout)
    (depth : Nat) {lead rest : List Char} (blanks : Blanks lead) (ends : Delimited rest) :
    ((Decoder.scalar accept).read levels).run (lead ++ (layout.write depth v ++ rest)) =
      (orFailHere (accept v)).run rest := by
  unfold Decoder.scalar
  obtain ⟨c, -, hlist, hobject, hlook⟩ := layout.lookPast_scalar scalar depth blanks _ rest
  rw [hlook]
  split
  · rename_i h
    exact absurd (Option.some.inj h) hlist
  · rename_i h
    exact absurd (Option.some.inj h) hobject
  · exact run_bind_done ((layout.scalar_reads scalar depth).run ends)

/-- Accepted scalars are taken. -/
theorem takes_scalar {accept : Value → Except Flaw α} (scalar : v.Scalar)
    (accepted : accept v = .ok a) : (Decoder.scalar accept).Takes levels v a where
  fits := .scalar scalar
  reads layout depth lead rest blanks ends := by
    rw [run_scalar accept scalar layout depth blanks ends, accepted]
    rfl
  converts := accepted

theorem takes_text (levels : Nat) (s : String) : text.Takes levels (.str s) s :=
  takes_scalar .str rfl

theorem takes_bool (levels : Nat) (b : Bool) : bool.Takes levels (.bool b) b :=
  takes_scalar .bool rfl

/-- Numbers below a limit are taken if 64 bits hold all of them. -/
theorem takes_natural {limit n : Nat} (levels : Nat) (name : String) (holds : limit ≤ UInt64.size)
    (below : n < limit) : (natural limit name).Takes levels (.ofNat n) n := by
  have hlow : (0 : Int) ≤ n := Int.natCast_nonneg n
  have hhigh : (n : Int) < limit := Int.ofNat_lt.mpr below
  exact takes_scalar (.int (by omega) (by omega)) (if_pos ⟨hlow, hhigh⟩)

theorem takes_count {n : Nat} (levels : Nat) (below : n < UInt64.size) :
    count.Takes levels (.ofNat n) n :=
  takes_natural levels "usize" (Nat.le_refl _) below

theorem takes_identifier (levels : Nat) (names : Names α) (a : α) :
    (identifier names).Takes levels (.str (names.name a)) a :=
  takes_scalar .str (by simp [named])

theorem scalar_position (p : Position) : (Value.ofInt p.toInt).Scalar :=
  .int p.le_toInt (Int.lt_trans p.toInt_lt (by decide))

theorem takes_position (levels : Nat) (p : Position) : position.Takes levels (.ofInt p.toInt) p :=
  takes_scalar (scalar_position p) (by simp [Value.ofInt])

/-- Names that are written as texts are taken. -/
theorem takes_oneOf (levels : Nat) (names : Names α) (a : α) :
    (oneOf names).Takes levels (.str (names.name a)) a where
  fits := .scalar .str
  reads layout depth lead rest blanks ends := by
    have hname := (takes_identifier levels names a).reads layout depth
    unfold oneOf
    obtain ⟨c, hstarts, -, -, hlook⟩ := layout.lookPast_scalar .str depth blanks _ rest
    obtain rfl : c = '"' := of_decide_eq_true hstarts
    rw [hlook]
    exact hname.run ends
  converts := by simp [oneOf, named]

/-! ## Containers -/

theorem takes_map (f : α → β) {decoder : Decoder α} (taken : decoder.Takes levels v a) :
    (decoder.map f).Takes levels v (f a) where
  fits := taken.fits
  reads layout depth lead rest blanks ends :=
    run_bind_done (taken.reads layout depth lead rest blanks ends)
  converts := by
    change f <$> decoder.convert v = _
    rw [taken.converts]
    rfl

/-- Nothing is written as `null`. -/
theorem takes_optional_none (decoder : Decoder α) (levels : Nat) :
    (optional decoder).Takes levels .null none where
  fits := .scalar .null
  reads layout depth lead rest blanks ends := by
    have hword := (layout.scalar_reads .null depth).run ends
    unfold optional
    obtain ⟨c, hstarts, -, -, hlook⟩ := layout.lookPast_scalar .null depth blanks _ rest
    obtain rfl : c = 'n' := of_decide_eq_true hstarts
    rw [hlook, layout.write_scalar depth _ .null]
    rfl
  converts := rfl

/-- What is there is told from nothing by its first character. -/
theorem takes_optional_some {decoder : Decoder α} (taken : decoder.Takes levels v a)
    (present : v ≠ .null) : (optional decoder).Takes levels v (some a) where
  fits := taken.fits
  reads layout depth lead rest blanks ends := by
    unfold optional
    obtain ⟨c, hstarts, hlook⟩ := layout.lookPast_value taken.fits depth blanks _ rest
    rw [hlook]
    split
    · rename_i h
      exact absurd (Option.some.inj h) (Value.startsWith_ne_n hstarts present)
    · exact run_bind_done ((taken.reads layout depth).run ends)
  converts := by
    have hconvert : (optional decoder).convert v = some <$> decoder.convert v := by
      cases v <;> first | rfl | exact absurd rfl present
    rw [hconvert, taken.converts]
    rfl

/-- What may be missing is taken if it is taken where it is there. -/
theorem takes_optional {decoder : Decoder α} {encode : α → Value} {o : Option α}
    (taken : ∀ a ∈ o, encode a ≠ .null ∧ decoder.Takes levels (encode a) a) :
    (optional decoder).Takes levels (.optional encode o) o := by
  cases o with
  | none => exact takes_optional_none decoder levels
  | some a =>
    obtain ⟨present, htaken⟩ := taken a rfl
    exact takes_optional_some htaken present

/-- Where all elements succeed, so does the list. -/
theorem mapM_of_forall₂ {β ε : Type} {f : α → Except ε β} {as : List α} {bs : List β}
    (h : List.Forall₂ (fun a b => f a = .ok b) as bs) : as.mapM f = .ok bs := by
  induction h with
  | nil => rfl
  | cons hhead _ ih =>
    rw [List.mapM_cons, hhead, ih]
    rfl

/-- What is taken is not nested too deep. -/
theorem fits_of_takes {decoder : Decoder α} {vs : List Value} {as : List α}
    (items : List.Forall₂ (decoder.Takes levels) vs as) : ∀ v ∈ vs, v.Fits levels :=
  ((List.forall₂_and_left _ _).mp (items.imp fun _ _ taken => ⟨taken.fits, taken⟩)).1

/-- A list is taken if its items are. -/
theorem takes_list {decoder : Decoder α} {vs : List Value} {as : List α}
    (items : List.Forall₂ (decoder.Takes levels) vs as) :
    (list decoder).Takes (levels + 1) (.arr vs) as := by
  have fits := fits_of_takes items
  refine ⟨.arr fits, fun layout depth lead rest blanks ends => ?_, ?_⟩
  · have hreads := items.imp fun v a taken => taken.reads layout (depth + 1)
    unfold list
    rw [layout.lookPast_arr depth blanks]
    exact layout.enclosed_items fits hreads rest
  · exact mapM_of_forall₂ (items.imp fun v a taken => taken.converts)

/-- An object from names to values is taken if its values are. -/
theorem takes_entries {names : Names κ} {decoder : Decoder α} {ms : List (String × Value)}
    {read : List (κ × α)}
    (entries : List.Forall₂
      (fun m entry => m.1 = names.name entry.1 ∧ decoder.Takes levels m.2 entry.2) ms read) :
    (Decoder.entries names decoder).Takes (levels + 1) (.obj ms) read := by
  have fits : ∀ m ∈ ms, m.2.Fits levels :=
    ((List.forall₂_and_left _ _).mp (entries.imp fun _ _ h => ⟨h.2.fits, h⟩)).1
  refine ⟨.obj fits, fun layout depth lead rest blanks ends => ?_, ?_⟩
  · unfold Decoder.entries
    rw [layout.lookPast_obj depth blanks]
    refine run_enclosed (run_reverse (layout.run_members (Steps.collect ?_ []) rest))
    rw [List.forall₂_map_left_iff]
    refine entries.imp fun m entry h read rest ends => ?_
    obtain ⟨hkey, taken⟩ := h
    have hname := (takes_oneOf levels names entry.1).reads layout depth
    rw [layout.write_scalar depth _ .str, Value.scalarChars, ← hkey] at hname
    rw [layout.member_append, run_bind_done (hname.run (delimited_colon _))]
    exact layout.run_colon_bind (taken.reads layout (depth + 1)) _ ends
  · refine mapM_of_forall₂ (entries.imp fun m entry h => ?_)
    obtain ⟨hkey, taken⟩ := h
    simp only [hkey, named, Names.find?_name, taken.converts]
    rfl

end Decoder

/-! ## Records -/

namespace Fields

variable {α β τ : Type} {levels : Nat}

/-- A member is taken into the slots of a record, both while it is read and when it is converted. -/
structure Puts (fields : Fields β τ) (levels : Nat) (slots : τ) (m : String × Value) (slots' : τ) :
    Prop where
  reads : ∃ reader, fields.readMember levels m.1 slots = some reader ∧
    ∀ layout : Layout, ∀ depth rest, Delimited rest →
      reader.run (':' :: (layout.space ++ (layout.write depth m.2 ++ rest))) = .done slots' rest
  converts : fields.convertMember m.1 m.2 slots = some (.ok slots')

/-- Members are taken one after the other. -/
inductive PutsAll (fields : Fields β τ) (levels : Nat) : τ → List (String × Value) → τ → Prop
  | nil {slots : τ} : PutsAll fields levels slots [] slots
  | cons {slots slots' slots'' : τ} {m : String × Value} {ms : List (String × Value)}
      (puts : fields.Puts levels slots m slots') (later : PutsAll fields levels slots' ms slots'') :
      PutsAll fields levels slots (m :: ms) slots''

variable {fields : Fields β τ} {name : String} {absent : Option α} {decoder : Decoder α}

theorem PutsAll.append {slots slots' slots'' : τ} {ms ms' : List (String × Value)}
    (puts : fields.PutsAll levels slots ms slots')
    (later : fields.PutsAll levels slots' ms' slots'') :
    fields.PutsAll levels slots (ms ++ ms') slots'' := by
  induction puts with
  | nil => exact later
  | cons puts _ ih => exact .cons puts (ih later)

/-- A loop whose rounds take members takes all of them. -/
theorem PutsAll.steps {step : τ → Reader τ} {layout : Layout} {depth : Nat} {slots slots' : τ}
    {ms : List (String × Value)} (puts : fields.PutsAll levels slots ms slots')
    (rounds : ∀ slots m slots', fields.Puts levels slots m slots' → ∀ rest, Delimited rest →
      (step slots).run (layout.member depth m ++ rest) = .done slots' rest) :
    Steps step slots (ms.map (layout.member depth)) slots' := by
  induction puts with
  | nil => exact .nil
  | cons puts _ ih => exact .cons (rounds _ _ _ puts) ih

/-- A fold whose rounds take members takes all of them. -/
theorem PutsAll.foldlM {ε : Type} {step : τ → String × Value → Except ε τ} {slots slots' : τ}
    {ms : List (String × Value)} (puts : fields.PutsAll levels slots ms slots')
    (rounds : ∀ slots m slots', fields.Puts levels slots m slots' → step slots m = .ok slots') :
    ms.foldlM step slots = .ok slots' := by
  induction puts with
  | nil => rfl
  | cons puts _ ih =>
    rw [List.foldlM_cons, rounds _ _ _ puts]
    exact ih

/-- What takes two lists of members takes one and then the other. -/
theorem PutsAll.exists_of_append {slots slots'' : τ} {ms ms' : List (String × Value)}
    (puts : fields.PutsAll levels slots (ms ++ ms') slots'') :
    ∃ slots', fields.PutsAll levels slots ms slots' ∧ fields.PutsAll levels slots' ms' slots'' := by
  induction ms generalizing slots with
  | nil => exact ⟨slots, .nil, puts⟩
  | cons m ms ih =>
    cases puts with
    | cons hputs later =>
      obtain ⟨slots', hms, hms'⟩ := ih later
      exact ⟨slots', .cons hputs hms, hms'⟩

/-- The member of a field without a value fills its slot. -/
theorem puts_here {v : Value} {a : α} (taken : decoder.Takes levels v a) (slots : τ) :
    (Fields.field name absent decoder fields).Puts levels (none, slots) (name, v)
      (some a, slots) where
  reads := by
    refine ⟨_, if_pos rfl, fun layout depth rest ends => ?_⟩
    exact layout.run_colon_bind (taken.reads layout depth) _ ends
  converts := by
    simp only [convertMember, if_pos, taken.converts]
    rfl

/-- A member of another name is taken by the other fields. -/
theorem Puts.there {slots slots' : τ} {m : String × Value}
    (puts : fields.Puts levels slots m slots') (other : m.1 ≠ name) (filled : Option α) :
    (Fields.field name absent decoder fields).Puts levels (filled, slots) m (filled, slots') where
  reads := by
    obtain ⟨reader, hreader, hreads⟩ := puts.reads
    refine ⟨do return (filled, ← reader), ?_, fun layout depth rest ends => ?_⟩
    · simp only [readMember, if_neg other, hreader]
      rfl
    · exact run_bind_done (hreads layout depth rest ends)
  converts := by
    simp only [convertMember, if_neg other, puts.converts]
    rfl

/-- So are members of other names. -/
theorem PutsAll.there {slots slots' : τ} {ms : List (String × Value)}
    (puts : fields.PutsAll levels slots ms slots') (others : ∀ m ∈ ms, m.1 ≠ name)
    (filled : Option α) :
    (Fields.field name absent decoder fields).PutsAll levels (filled, slots) ms
      (filled, slots') := by
  induction puts with
  | nil => exact .nil
  | cons puts _ ih =>
    exact .cons (puts.there (others _ List.mem_cons_self) filled)
      (ih fun m hm => others m (List.mem_cons_of_mem _ hm))

/-- The members of an object are the parts of a record: one for each field, in any order. -/
def Given {β τ : Type} (levels : Nat) : Fields β τ → List (String × Value) → β → Prop
  | .nil, ms, _ => ms = []
  | .field name _ decoder others, ms, (a, b) =>
    name ∉ others.names ∧ ∃ left v right, ms = left ++ (name, v) :: right ∧
      decoder.Takes levels v a ∧ others.Given levels (left ++ right) b

theorem given_nil : Fields.nil.Given levels [] () := rfl

/-- Members in the order of the fields. -/
theorem Given.front {v : Value} {a : α} {ms : List (String × Value)} {b : β}
    (fresh : name ∉ fields.names) (taken : decoder.Takes levels v a)
    (given : fields.Given levels ms b) :
    (Fields.field name absent decoder fields).Given levels ((name, v) :: ms) (a, b) :=
  ⟨fresh, [], v, ms, rfl, taken, given⟩

theorem Given.key_mem {ms : List (String × Value)} {b : β} (given : fields.Given levels ms b)
    {m : String × Value} (hm : m ∈ ms) : m.1 ∈ fields.names := by
  induction fields generalizing ms with
  | nil =>
    obtain rfl : ms = [] := given
    exact absurd hm List.not_mem_nil
  | field name absent decoder others ih =>
    obtain ⟨a, b⟩ := b
    obtain ⟨-, left, v, right, rfl, -, hothers⟩ := given
    rw [names, List.mem_cons]
    rcases List.mem_append.mp hm with hm | hm
    · exact Or.inr (ih hothers (List.mem_append_left _ hm))
    · rcases List.mem_cons.mp hm with rfl | hm
      · exact Or.inl rfl
      · exact Or.inr (ih hothers (List.mem_append_right _ hm))

theorem Given.fits {ms : List (String × Value)} {b : β} (given : fields.Given levels ms b)
    {m : String × Value} (hm : m ∈ ms) : m.2.Fits levels := by
  induction fields generalizing ms with
  | nil =>
    obtain rfl : ms = [] := given
    exact absurd hm List.not_mem_nil
  | field name absent decoder others ih =>
    obtain ⟨a, b⟩ := b
    obtain ⟨-, left, v, right, rfl, taken, hothers⟩ := given
    rcases List.mem_append.mp hm with hm | hm
    · exact ih hothers (List.mem_append_left _ hm)
    · rcases List.mem_cons.mp hm with rfl | hm
      · exact taken.fits
      · exact ih hothers (List.mem_append_right _ hm)

/-- **Members fill the slots** of a record in whatever order they come. -/
theorem Given.putsAll {ms : List (String × Value)} {b : β} (given : fields.Given levels ms b) :
    ∃ slots, fields.PutsAll levels fields.unfilled ms slots ∧ fields.complete slots = .ok b := by
  induction fields generalizing ms with
  | nil =>
    obtain rfl : ms = [] := given
    exact ⟨(), .nil, rfl⟩
  | field name absent decoder others ih =>
    obtain ⟨a, b⟩ := b
    obtain ⟨hname, left, v, right, rfl, taken, hothers⟩ := given
    obtain ⟨slots, hputs, hcomplete⟩ := ih hothers
    obtain ⟨before, hleft, hright⟩ := hputs.exists_of_append
    have hkeys : ∀ m ∈ left ++ right, m.1 ≠ name := fun m hm h => hname (h ▸ hothers.key_mem hm)
    refine ⟨(some a, slots), ?_, ?_⟩
    · refine (hleft.there (fun m hm => hkeys m (List.mem_append_left _ hm)) none).append ?_
      refine .cons (puts_here taken before) ?_
      exact hright.there (fun m hm => hkeys m (List.mem_append_right _ hm)) (some a)
    · simp only [complete, Option.some_or, hcomplete]
      rfl

end Fields

/-- **Records are taken** if their fields are, in whatever order these stand. -/
theorem Decoder.takes_ofRecord {α : Type} {record : Record α} {levels : Nat} {a : α}
    {ms : List (String × Value)} {parts : record.Parts}
    (given : record.fields.Given levels ms parts) (made : record.make parts = .ok a) :
    (Decoder.ofRecord record).Takes (levels + 1) (.obj ms) a := by
  obtain ⟨slots, hputs, hcomplete⟩ := given.putsAll
  refine ⟨.obj fun m hm => given.fits hm, fun layout depth lead rest blanks ends => ?_, ?_⟩
  · unfold Decoder.ofRecord
    rw [layout.lookPast_obj depth blanks]
    refine run_enclosed ((run_bind_done (layout.run_members (hputs.steps ?_) rest)).trans ?_)
    · intro slots m slots' puts rest ends
      obtain ⟨reader, hreader, hreads⟩ := puts.reads
      rw [run_bind_done (layout.run_key depth m rest)]
      simp only [hreader]
      exact hreads layout (depth + 1) rest ends
    · simp only [hcomplete]
      change (orRaise (record.make parts)).run _ = _
      rw [made]
      rfl
  · change (ms.foldlM _ record.fields.unfilled >>= _) = _
    rw [hputs.foldlM ?_]
    · change (record.fields.complete slots >>= _) = _
      rw [hcomplete]
      exact made
    · intro slots m slots' puts
      simp only [puts.converts]

/-! ## Variants -/

namespace Variants

variable {κ α : Type} {ms : List (String × Value)}

/-- A loop that keeps members beside a tag which stays as it is. -/
theorem steps_beside {layout : Layout} {depth : Nat}
    {step : Option κ × List (String × Value) → Reader (Option κ × List (String × Value))}
    {kind : Option κ}
    (rounds : ∀ m ∈ ms, ∀ read rest, Delimited rest →
      (step (kind, read)).run (layout.member depth m ++ rest) = .done (kind, m :: read) rest)
    (read : List (String × Value)) :
    Steps step (kind, read) (ms.map (layout.member depth)) (kind, ms.reverse ++ read) := by
  induction ms generalizing read with
  | nil => exact .nil
  | cons m ms ih =>
    rw [List.reverse_cons, List.append_assoc, List.singleton_append]
    exact .cons (rounds m List.mem_cons_self read)
      (ih (fun m' hm' => rounds m' (List.mem_cons_of_mem _ hm')) (m :: read))

/-- A fold that keeps members beside a tag which stays as it is. -/
theorem foldlM_beside {ε : Type}
    {step : Option κ × List (String × Value) → String × Value →
      Except ε (Option κ × List (String × Value))}
    {kind : Option κ}
    (rounds : ∀ m ∈ ms, ∀ read, step (kind, read) m = .ok (kind, m :: read))
    (read : List (String × Value)) :
    ms.foldlM step (kind, read) = .ok (kind, ms.reverse ++ read) := by
  induction ms generalizing read with
  | nil => rfl
  | cons m ms ih =>
    rw [List.reverse_cons, List.append_assoc, List.singleton_append, List.foldlM_cons,
      rounds m List.mem_cons_self read]
    exact ih (fun m' hm' => rounds m' (List.mem_cons_of_mem _ hm')) (m :: read)

/-- A fold over a list goes through each of its members. -/
theorem foldlM_through {β σ ε : Type} {step : σ → β → Except ε σ} {w x y z : σ} {b : β}
    {left right : List β} (before : left.foldlM step w = .ok x) (meets : step x b = .ok y)
    (behind : right.foldlM step y = .ok z) : (left ++ b :: right).foldlM step w = .ok z := by
  rw [List.foldlM_append, before]
  change (List.foldlM step x (b :: right)) = _
  rw [List.foldlM_cons, meets]
  exact behind

variable {variants : Variants κ α} {levels : Nat} {kind : κ} {left right : List (String × Value)}

/-- The tag is found among the members, and they are put in order without it. -/
theorem run_readTagged (fits : ∀ m ∈ left ++ right, m.2.Fits levels)
    (untagged : ∀ m ∈ left ++ right, m.1 ≠ variants.tag) (layout : Layout) (depth : Nat)
    (rest : List Char) :
    (variants.readTagged levels).run (inside layout.line .object depth
        ((left ++ (variants.tag, .str (variants.names.name kind)) :: right).map
          (layout.member depth)) ++ rest) =
      .done (kind, .obj (left ++ right)) ('\x7d' :: rest) := by
  have hend : (left ++ right).reverse = right.reverse ++ (left.reverse ++ []) := by
    rw [List.append_nil, List.reverse_append]
  have hreads : ∀ m ∈ left ++ right, (value levels).Reads (layout.write (depth + 1) m.2) m.2 :=
    fun m hm => layout.value_reads (fits m hm) (depth + 1)
  unfold readTagged
  refine (run_bind_done (layout.run_members (y := (some kind, (left ++ right).reverse)) ?_
    rest)).trans ?_
  · rw [List.map_append, List.map_cons, hend]
    refine (steps_beside ?_ []).append (.cons ?_ (steps_beside ?_ _))
    · intro m hm read rest ends
      have hm := List.mem_append_left right hm
      rw [run_bind_done (layout.run_key depth m rest), if_neg (untagged m hm)]
      exact layout.run_colon_bind (hreads m hm) _ ends
    · intro rest ends
      have hname := (Decoder.takes_identifier levels variants.names kind).reads layout
      rw [run_bind_done (layout.run_key depth _ rest), if_pos rfl]
      exact layout.run_colon_bind (hname (depth + 1)) _ ends
    · intro m hm read rest ends
      have hm := List.mem_append_right left hm
      rw [run_bind_done (layout.run_key depth m rest), if_neg (untagged m hm)]
      exact layout.run_colon_bind (hreads m hm) _ ends
  · simp only [List.reverse_reverse]
    rfl

/-- A tag nests no deeper than the members beside it. -/
theorem fits_tagged {name : String} (fits : ∀ m ∈ left ++ right, m.2.Fits levels) :
    (Value.obj (left ++ (variants.tag, .str name) :: right)).Fits (levels + 1) := by
  refine .obj fun m hm => ?_
  rw [List.mem_append, List.mem_cons, or_left_comm, ← List.mem_append] at hm
  rcases hm with rfl | hm
  · exact .scalar .str
  · exact fits m hm

/-- **A variant is taken**, wherever its tag stands, if its body is. -/
theorem takes_decoder {a : α} (left right : List (String × Value))
    (untagged : ∀ m ∈ left ++ right, m.1 ≠ variants.tag)
    (body : (Decoder.ofRecord (variants.body kind)).Takes (levels + 1) (.obj (left ++ right)) a) :
    variants.decoder.Takes (levels + 1)
      (.obj (left ++ (variants.tag, .str (variants.names.name kind)) :: right)) a := by
  have hfits := body.fits.of_obj
  have hbody : variants.convertBody kind (.obj (left ++ right)) = .ok a := body.converts
  refine ⟨fits_tagged hfits, fun layout depth lead rest blanks ends => ?_, ?_⟩
  · change (variants.read (levels + 1)).run _ = _
    unfold read
    rw [layout.lookPast_obj depth blanks]
    refine (run_bind_done (run_enclosed (run_readTagged hfits untagged layout depth rest))).trans ?_
    simp only [hbody]
    rfl
  · have hname := (Decoder.takes_identifier 0 variants.names kind).converts
    have hend : (right.reverse ++ (left.reverse ++ [])).reverse = left ++ right := by
      rw [List.append_nil, List.reverse_append, List.reverse_reverse, List.reverse_reverse]
    unfold decoder convert
    simp only
    rw [foldlM_through (y := (some kind, left.reverse ++ [])) (foldlM_beside ?_ []) ?_
      (foldlM_beside ?_ _)]
    · change variants.convertBody kind (.obj (right.reverse ++ (left.reverse ++ [])).reverse) = _
      rw [hend]
      exact hbody
    · exact fun m hm read => if_neg (untagged m (List.mem_append_left right hm))
    · simp only [if_pos, hname]
      rfl
    · exact fun m hm read => if_neg (untagged m (List.mem_append_right left hm))

end Variants

/-! ## Whole texts -/

/-- **A text is decoded** to what the decoder takes its value for, blanks behind it or not. -/
theorem Decoder.Takes.decode {α : Type} {decoder : Decoder α} {v : Value} {a : α}
    (taken : decoder.Takes maxLevels v a) (layout : Layout) {trail : List Char}
    (blanks : Blanks trail) :
    decoder.decode (String.ofList (layout.write 0 v ++ trail)) = .ok a := by
  have ends : Delimited trail := fun c hc => Or.inl (blanks c (List.mem_of_head? hc))
  have hread := (taken.reads layout 0).run ends
  have hend : lookPast.run trail = .done none [] := by
    rw [run_lookPast, List.dropWhile_eq_nil_iff.mpr blanks]
    rfl
  have hall : (decoder.read maxLevels).toEnd.run (layout.write 0 v ++ trail) = .done a [] :=
    (run_bind_done hread).trans (run_bind_done hend)
  unfold Decoder.decode runText
  rw [String.toList_ofList, hall]

/-- A value is decoded from both of its texts. -/
def Decoder.ReadsBack {α : Type} (decoder : Decoder α) (v : Value) (a : α) : Prop :=
  decoder.decode v.compact = .ok a ∧ decoder.decode v.pretty = .ok a

theorem Decoder.Takes.readsBack {α : Type} {decoder : Decoder α} {v : Value} {a : α}
    (taken : decoder.Takes maxLevels v a) : decoder.ReadsBack v a := by
  have hcompact := taken.decode .compact blanks_nil
  have hpretty := taken.decode .pretty blanks_nil
  rw [List.append_nil] at hcompact hpretty
  exact ⟨hcompact, hpretty⟩

end Narrative.Json
