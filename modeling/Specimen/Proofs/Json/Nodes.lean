import Specimen.Json.Basic

set_option autoImplicit false

/-!
# Values at every depth

A condition on a template is mostly a condition on the values in it, at whatever depth they stand.
Here the values inside a value are listed, and induction over values is put into the two forms in
which it is used: over the value itself, and over what a rule can put in the place of a value, which
is one of its items, or an object with some of its members.

## Main definitions

* `Specimen.Json.nodes`, `Specimen.Json.Everywhere` — the values inside a value, and a condition on
  all of them.
* `Specimen.Json.IsPart` — what a rule can put in the place of a value.
* `Specimen.Json.Selective` — a condition that an object keeps when members are taken out.

## Main results

* `Specimen.Json.everywhere_arr`, `Specimen.Json.everywhere_obj` — a condition holds everywhere when
  it holds at the top and everywhere in the items or members.
* `Specimen.Json.Everywhere.parts_induction` — induction over values and their parts.
-/

namespace Specimen.Json

/-! ## Induction on values -/

/-- What all items of an array have passes to the array, and what all values of members have to the
object. -/
@[elab_as_elim]
theorem values_induction {motive : Json → Prop} (null : motive .null)
    (bool : ∀ value, motive (.bool value)) (num : ∀ number, motive (.num number))
    (str : ∀ text, motive (.str text))
    (arr : ∀ items, (∀ item ∈ items, motive item) → motive (.arr items))
    (obj : ∀ members, (∀ member ∈ members, motive member.2) → motive (.obj members)) :
    ∀ value, motive value
  | .null => null
  | .bool value => bool value
  | .num number => num number
  | .str text => str text
  | .arr items => arr items fun item _ => values_induction null bool num str arr obj item
  | .obj members => obj members fun member _ =>
      values_induction null bool num str arr obj member.2
termination_by value => sizeOf value
decreasing_by
  · rename_i h
    have := List.sizeOf_lt_of_mem h
    simp only [Json.arr.sizeOf_spec]
    omega
  · rename_i h
    have h1 := List.sizeOf_lt_of_mem h
    obtain ⟨key, value⟩ := member
    simp only [Json.obj.sizeOf_spec, Prod.mk.sizeOf_spec] at h1 ⊢
    omega

/-! ## The values inside a value -/

mutual

/-- The values inside a value, at any depth, the value itself first. -/
def nodes : Json → List Json
  | .arr items => .arr items :: nodesOfItems items
  | .obj members => .obj members :: nodesOfMembers members
  | leaf => [leaf]

/-- The values inside items. -/
def nodesOfItems : List Json → List Json
  | [] => []
  | item :: items => nodes item ++ nodesOfItems items

/-- The values inside members. -/
def nodesOfMembers : List (String × Json) → List Json
  | [] => []
  | (_, value) :: members => nodes value ++ nodesOfMembers members

end

/-- A condition on all values inside a value. -/
def Everywhere (condition : Json → Prop) (value : Json) : Prop :=
  ∀ node ∈ value.nodes, condition node

instance (condition : Json → Prop) [DecidablePred condition] (value : Json) :
    Decidable (value.Everywhere condition) :=
  inferInstanceAs (Decidable (∀ node ∈ value.nodes, condition node))

theorem mem_nodesOfItems {node : Json} {items : List Json} :
    node ∈ nodesOfItems items ↔ ∃ item ∈ items, node ∈ item.nodes := by
  induction items with
  | nil => simp [nodesOfItems]
  | cons item items ih => simp [nodesOfItems, ih]

theorem mem_nodesOfMembers {node : Json} {members : List (String × Json)} :
    node ∈ nodesOfMembers members ↔ ∃ member ∈ members, node ∈ member.2.nodes := by
  induction members with
  | nil => simp [nodesOfMembers]
  | cons member members ih => simp [nodesOfMembers, ih]

section Everywhere

variable {condition : Json → Prop}

theorem everywhere_arr {items : List Json} :
    (Json.arr items).Everywhere condition ↔
      condition (.arr items) ∧ ∀ item ∈ items, item.Everywhere condition := by
  simp only [Everywhere, nodes, List.mem_cons, forall_eq_or_imp, mem_nodesOfItems]
  exact and_congr_right fun _ =>
    ⟨fun h item hi node hn => h node ⟨item, hi, hn⟩, fun h node ⟨item, hi, hn⟩ => h item hi node hn⟩

theorem everywhere_obj {members : List (String × Json)} :
    (Json.obj members).Everywhere condition ↔
      condition (.obj members) ∧ ∀ member ∈ members, member.2.Everywhere condition := by
  simp only [Everywhere, nodes, List.mem_cons, forall_eq_or_imp, mem_nodesOfMembers]
  exact and_congr_right fun _ =>
    ⟨fun h member hm node hn => h node ⟨member, hm, hn⟩,
      fun h node ⟨member, hm, hn⟩ => h member hm node hn⟩

/-- What holds everywhere holds of the value itself. -/
theorem Everywhere.top {value : Json} (h : value.Everywhere condition) : condition value := by
  apply h
  cases value <;> simp [nodes]

end Everywhere

/-! ## What a rule can put in the place of a value -/

/-- The value itself, an item of an array, or an object with nothing but members of an object. -/
inductive IsPart : Json → Json → Prop where
  /-- The value itself. -/
  | whole (value : Json) : IsPart value value
  /-- An item. -/
  | item {item : Json} {items : List Json} (h : item ∈ items) : IsPart item (.arr items)
  /-- Some members, in any order. -/
  | members {chosen members : List (String × Json)} (h : ∀ member ∈ chosen, member ∈ members) :
    IsPart (.obj chosen) (.obj members)

/-- An object keeps the condition when it loses members. -/
def Selective (condition : Json → Prop) : Prop :=
  ∀ chosen members : List (String × Json), (∀ member ∈ chosen, member ∈ members) →
    condition (.obj members) → condition (.obj chosen)

variable {condition : Json → Prop}

/-- What holds everywhere in a value holds everywhere in its parts. -/
theorem Everywhere.part (hsel : Selective condition) {part value : Json}
    (h : value.Everywhere condition) (hpart : IsPart part value) : part.Everywhere condition := by
  cases hpart with
  | whole => exact h
  | item hi => exact (everywhere_arr.1 h).2 _ hi
  | members hm =>
    obtain ⟨htop, hvalues⟩ := everywhere_obj.1 h
    exact everywhere_obj.2 ⟨hsel _ _ hm htop, fun member hc => hvalues member (hm member hc)⟩

/-- **Induction over values and their parts**: an object is reached from the parts of the values of
its members, because these are what its members can generate.

**Proof sketch.** By induction on the value all its parts have the property. A part of an array
is the array or an item, and a part of an object is an object whose members have been dealt with. -/
@[elab_as_elim]
theorem Everywhere.parts_induction (hsel : Selective condition)
    {motive : (value : Json) → value.Everywhere condition → Prop}
    (null : ∀ h, motive .null h) (bool : ∀ value h, motive (.bool value) h)
    (num : ∀ number h, motive (.num number) h) (str : ∀ text h, motive (.str text) h)
    (arr : ∀ items h, (∀ item (hitem : item ∈ items),
      motive item ((everywhere_arr.1 h).2 item hitem)) → motive (.arr items) h)
    (obj : ∀ members h, (∀ member (hmember : member ∈ members) part (hpart : IsPart part member.2),
      motive part (((everywhere_obj.1 h).2 member hmember).part hsel hpart)) →
        motive (.obj members) h)
    {value : Json} (h : value.Everywhere condition) : motive value h := by
  suffices hall : ∀ part (hpart : IsPart part value), motive part (h.part hsel hpart) from
    hall value (.whole value)
  induction value using values_induction with
  | null => intro part hpart; cases hpart; exact null _
  | bool value => intro part hpart; cases hpart; exact bool value _
  | num number => intro part hpart; cases hpart; exact num number _
  | str text => intro part hpart; cases hpart; exact str text _
  | arr items ih =>
    have hitems : ∀ item (hitem : item ∈ items),
        motive item ((everywhere_arr.1 h).2 item hitem) := fun item hitem =>
      ih item hitem ((everywhere_arr.1 h).2 item hitem) item (.whole item)
    intro part hpart
    cases hpart with
    | whole => exact arr items h hitems
    | item hitem => exact hitems part hitem
  | obj members ih =>
    -- Every object with nothing but members of this one, not only this one itself.
    have hchosen : ∀ chosen (hc : ∀ member ∈ chosen, member ∈ members),
        motive (.obj chosen) (h.part hsel (.members hc)) := fun chosen hc =>
      obj chosen _ fun member hmember =>
        ih member (hc member hmember) ((everywhere_obj.1 h).2 member (hc member hmember))
    intro part hpart
    cases hpart with
    | whole => exact hchosen members fun _ hm => hm
    | members hc => exact hchosen _ hc

end Specimen.Json
