import Mathlib.Data.List.Perm.Basic
import Narrative.Proofs.Decoding

/-!
# The order of members

The members of an object may stand in any order. `Value.Reordered` says that two values differ in
nothing else, however deep the objects are nested, and `Decoder.TakesReordered` that a decoder gets
the same out of all of them. Again there is one law for each way to put decoders together.

A map whose entries are kept in order is no such decoder; what is made of its entries must not depend
on their order. Otherwise the members of a record find their fields by name (`Fields.Given.perm`),
and the tag of a variant may stand anywhere among them.

* `takesReordered_list`, `takesReordered_ofRecord`: lists and records are taken in any order if
  their parts are;
* **`Variants.takesReordered_decoder`**: so are variants, wherever the tag has got to.
-/

namespace Narrative.Json

open Reader

/-! ## Reordered values -/

/-- Members with one key and related values. -/
inductive SameKey (related : Value → Value → Prop) : String × Value → String × Value → Prop
  | intro {key : String} {v w : Value} (values : related v w) : SameKey related (key, v) (key, w)

/-- **The same value with the members of its objects in another order**, in each object its own. -/
inductive Value.Reordered : Value → Value → Prop
  | same {v : Value} : Reordered v v
  | arr {vs ws : List Value} (items : List.Forall₂ Reordered vs ws) :
      Reordered (.arr vs) (.arr ws)
  | obj {ms ns ns' : List (String × Value)}
      (members : List.Forall₂ (SameKey Reordered) ms ns)
      (order : ns.Perm ns') : Reordered (.obj ms) (.obj ns')

/-- Reordered members have the same keys. -/
theorem keys_eq {related : Value → Value → Prop} {ms ns : List (String × Value)}
    (members : List.Forall₂ (SameKey related) ms ns) : ms.map Prod.fst = ns.map Prod.fst := by
  induction members with
  | nil => rfl
  | cons hmember _ ih =>
    obtain ⟨-⟩ := hmember
    exact congrArg (List.cons _) ih

namespace Value.Reordered

variable {v w : Value}

/-- A scalar has no members. -/
theorem of_scalar (reordered : v.Reordered w) (scalar : v.Scalar) : w = v := by
  cases reordered with
  | same => rfl
  | arr _ | obj _ _ => cases scalar

theorem of_arr {vs : List Value} (reordered : (Value.arr vs).Reordered w) :
    ∃ ws, w = .arr ws ∧ List.Forall₂ Reordered vs ws := by
  cases reordered with
  | same => exact ⟨vs, rfl, List.forall₂_same.mpr fun _ _ => .same⟩
  | arr items => exact ⟨_, rfl, items⟩

theorem of_obj {ms : List (String × Value)} (reordered : (Value.obj ms).Reordered w) :
    ∃ ns ns', w = .obj ns' ∧ List.Forall₂ (SameKey Reordered) ms ns ∧ ns.Perm ns' := by
  cases reordered with
  | same => exact ⟨ms, ms, rfl, List.forall₂_same.mpr fun _ _ => .intro .same, .refl _⟩
  | obj members order => exact ⟨_, _, rfl, members, order⟩

end Value.Reordered

/-- The decoder gets `a` out of a value, whatever the order of members in it. -/
def Decoder.TakesReordered {α : Type} (decoder : Decoder α) (levels : Nat) (v : Value) (a : α) :
    Prop :=
  ∀ w, v.Reordered w → decoder.Takes levels w a

namespace Decoder

variable {α β κ : Type} {decoder : Decoder α} {levels : Nat} {v : Value} {a : α}

theorem TakesReordered.takes (taken : decoder.TakesReordered levels v a) :
    decoder.Takes levels v a :=
  taken v .same

theorem Takes.reordered (taken : decoder.Takes levels v a) (scalar : v.Scalar) :
    decoder.TakesReordered levels v a := by
  intro w reordered
  rw [reordered.of_scalar scalar]
  exact taken

theorem takesReordered_map (f : α → β) (taken : decoder.TakesReordered levels v a) :
    (decoder.map f).TakesReordered levels v (f a) :=
  fun w reordered => takes_map f (taken w reordered)

/-- A list is taken in any order of members if its items are. -/
theorem takesReordered_list {vs : List Value} {as : List α}
    (items : List.Forall₂ (decoder.TakesReordered levels) vs as) :
    (list decoder).TakesReordered (levels + 1) (.arr vs) as := by
  intro w reordered
  obtain ⟨ws, rfl, hitems⟩ := reordered.of_arr
  clear reordered
  refine takes_list ?_
  induction items generalizing ws with
  | nil =>
    cases hitems
    exact .nil
  | cons taken _ ih =>
    cases hitems with
    | cons hitem hitems => exact .cons (taken _ hitem) (ih _ hitems)

end Decoder

/-! ## Records -/

namespace Fields

variable {α β τ : Type} {levels : Nat} {fields : Fields β τ} {name : String} {absent : Option α}
  {decoder : Decoder α}

/-- The members of a record may change places. -/
theorem Given.perm {ms ms' : List (String × Value)} {b : β} (given : fields.Given levels ms b)
    (order : ms.Perm ms') : fields.Given levels ms' b := by
  induction fields generalizing ms ms' with
  | nil =>
    obtain rfl : ms = [] := given
    exact order.nil_eq.symm
  | field name absent decoder others ih =>
    obtain ⟨a, b⟩ := b
    obtain ⟨fresh, left, v, right, rfl, taken, hothers⟩ := given
    obtain ⟨left', right', rfl⟩ := List.append_of_mem
      (order.subset (List.mem_append_right left List.mem_cons_self))
    refine ⟨fresh, left', v, right', rfl, taken, ih hothers ?_⟩
    exact (List.perm_middle.symm.trans (order.trans List.perm_middle)).cons_inv

/-- Members that stand in the order of the fields and may themselves be reordered. -/
def Listed {β τ : Type} (levels : Nat) : Fields β τ → List (String × Value) → β → Prop
  | .nil, ms, _ => ms = []
  | .field name _ decoder others, ms, (a, b) =>
    name ∉ others.names ∧ ∃ v rest, ms = (name, v) :: rest ∧ decoder.TakesReordered levels v a ∧
      others.Listed levels rest b

theorem listed_nil : Fields.nil.Listed levels [] () := rfl

theorem Listed.field {v : Value} {a : α} {ms : List (String × Value)} {b : β}
    (fresh : name ∉ fields.names) (taken : decoder.TakesReordered levels v a)
    (listed : fields.Listed levels ms b) :
    (Fields.field name absent decoder fields).Listed levels ((name, v) :: ms) (a, b) :=
  ⟨fresh, v, ms, rfl, taken, listed⟩

/-- Reordered members are the parts of the same record. -/
theorem Listed.given {ms ns : List (String × Value)} {b : β} (listed : fields.Listed levels ms b)
    (members : List.Forall₂ (SameKey Value.Reordered) ms ns) :
    fields.Given levels ns b := by
  induction fields generalizing ms ns with
  | nil =>
    obtain rfl : ms = [] := listed
    cases members
    exact given_nil
  | field name absent decoder others ih =>
    obtain ⟨a, b⟩ := b
    obtain ⟨fresh, v, rest, rfl, taken, hothers⟩ := listed
    cases members with
    | cons hmember members =>
      obtain ⟨reordered⟩ := hmember
      exact .front fresh (taken _ reordered) (ih hothers members)

end Fields

/-- **Records are taken** in any order if their fields are. -/
theorem Decoder.takesReordered_ofRecord {α : Type} {record : Record α} {levels : Nat} {a : α}
    {ms : List (String × Value)} {parts : record.Parts}
    (listed : record.fields.Listed levels ms parts) (made : record.make parts = .ok a) :
    (Decoder.ofRecord record).TakesReordered (levels + 1) (.obj ms) a := by
  intro w reordered
  obtain ⟨ns, ns', rfl, members, order⟩ := reordered.of_obj
  exact takes_ofRecord ((listed.given members).perm order) made

/-! ## Variants -/

/-- **Variants are taken** in any order if their bodies are, wherever the tag has got to. -/
theorem Variants.takesReordered_decoder {κ α : Type} {variants : Variants κ α} {levels : Nat}
    {kind : κ} {a : α} {ms : List (String × Value)} (untagged : ∀ m ∈ ms, m.1 ≠ variants.tag)
    (body : (Decoder.ofRecord (variants.body kind)).TakesReordered (levels + 1) (.obj ms) a) :
    variants.decoder.TakesReordered (levels + 1)
      (.obj ((variants.tag, .str (variants.names.name kind)) :: ms)) a := by
  intro w reordered
  obtain ⟨_, ns', rfl, members, order⟩ := reordered.of_obj
  cases members with
  | @cons _ _ _ ns htag members =>
    obtain ⟨hname⟩ := htag
    obtain rfl := hname.of_scalar .str
    -- the tag is somewhere among the members, and the others are a permutation of the body
    obtain ⟨left, right, rfl⟩ := List.append_of_mem (order.subset List.mem_cons_self)
    have hbody : ns.Perm (left ++ right) := (order.trans List.perm_middle).cons_inv
    refine takes_decoder left right ?_ (body _ (.obj members hbody))
    have hkeys : ms.map Prod.fst = ns.map Prod.fst := keys_eq members
    intro n hn
    have hkey : n.1 ∈ ms.map Prod.fst := by
      rw [hkeys]
      exact List.mem_map_of_mem (hbody.mem_iff.mpr hn)
    obtain ⟨m, hm, hmn⟩ := List.mem_map.mp hkey
    exact hmn ▸ untagged m hm

end Narrative.Json
