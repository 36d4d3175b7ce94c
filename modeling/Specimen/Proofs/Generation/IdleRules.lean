import Specimen.Generation.Setup
import Specimen.Proofs.Generation.Run

set_option autoImplicit false

/-!
# Rules that cannot be used

A rule that is no rule for the kind of its value, or that has a fault, is as good as no rule, at
whatever depth it stands: a template generates what it generates when such rules are struck out. The
one thing that could tell the two templates apart is a rule with a point that falls back on its
value, where that value is an object or an array with idle rules inside.

## Main definitions

* `Specimen.Json.withoutIdle` — a template with the rules struck out that cannot be used.
* `Specimen.Json.HasFlatFractions` — usable rules with a point stand on values without parts only.

## Main results

* `Specimen.Engine.generateIn_withoutIdle` — a template and the one without idle rules mean the
  same.
-/

namespace Specimen

/-! ## Striking idle rules out -/

/-- The key, or its name alone: on a value without kind, where the rule text is no rule for the
kind, and where the rule has a fault. -/
def Key.withoutIdle (key : String) (value : Json) : String :=
  match value.kind? with
  | none => name key
  | some kind =>
    match rule? key kind with
    | none => name key
    | some rule => if rule.isValid then key else name key

namespace Json

mutual

/-- The template without the rules that cannot be used. -/
def withoutIdle : Json → Json
  | .arr items => .arr (withoutIdleItems items)
  | .obj members => .obj (withoutIdleMembers members)
  | leaf => leaf

/-- The items without the rules that cannot be used. -/
def withoutIdleItems : List Json → List Json
  | [] => []
  | item :: items => withoutIdle item :: withoutIdleItems items

/-- The members without the rules that cannot be used. -/
def withoutIdleMembers : List (String × Json) → List (String × Json)
  | [] => []
  | (key, value) :: members =>
    (Key.withoutIdle key value, withoutIdle value) :: withoutIdleMembers members

end

/-- The member without the rules that cannot be used. -/
def withoutIdleMember (member : String × Json) : String × Json :=
  (Key.withoutIdle member.1 member.2, member.2.withoutIdle)

theorem withoutIdleItems_eq_map (items : List Json) :
    withoutIdleItems items = items.map withoutIdle := by
  induction items with
  | nil => rfl
  | cons item items ih => simp [withoutIdleItems, ih]

theorem withoutIdleMembers_eq_map (members : List (String × Json)) :
    withoutIdleMembers members = members.map withoutIdleMember := by
  induction members with
  | nil => rfl
  | cons member members ih => simp [withoutIdleMembers, withoutIdleMember, ih]

theorem withoutIdle_arr (items : List Json) :
    (Json.arr items).withoutIdle = .arr (items.map withoutIdle) := by
  rw [← withoutIdleItems_eq_map, withoutIdle]

theorem withoutIdle_obj (members : List (String × Json)) :
    (Json.obj members).withoutIdle = .obj (members.map withoutIdleMember) := by
  rw [← withoutIdleMembers_eq_map, withoutIdle]

/-- Striking rules out changes no kind. -/
theorem kind?_withoutIdle (value : Json) : value.withoutIdle.kind? = value.kind? := by
  cases value <;> simp [withoutIdle, kind?]

/-- A value that has parts. -/
def isContainer : Json → Bool
  | .arr _ => true
  | .obj _ => true
  | _ => false

/-- A value without parts has no rule to strike out. -/
theorem withoutIdle_eq_self {value : Json} (h : value.isContainer = false) :
    value.withoutIdle = value := by
  cases value with
  | arr items => cases h
  | obj members => cases h
  | _ => simp [withoutIdle]

/-- No member of an object has a usable rule with a point on a value that has parts. -/
def HasFlatFractions : Json → Prop
  | .obj members => ∀ member ∈ members, member.2.isContainer = true →
      ∀ rule ∈ Key.usable? member.1 member.2, rule.isFraction = false
  | _ => True

instance : DecidablePred HasFlatFractions
  | .obj members => inferInstanceAs (Decidable (∀ member ∈ members, member.2.isContainer = true →
      ∀ rule ∈ Key.usable? member.1 member.2, rule.isFraction = false))
  | .null | .bool _ | .num _ | .str _ | .arr _ => isTrue trivial

theorem selective_hasFlatFractions : Selective HasFlatFractions :=
  fun _ _ hsub h member hm => h member (hsub member hm)

end Json

namespace Key

/-- The key stays exactly when it has a rule that can be used. -/
theorem withoutIdle_eq_ite (key : String) (value : Json) :
    withoutIdle key value = if (usable? key value).isSome then key else name key := by
  cases husable : usable? key value with
  | some rule =>
    obtain ⟨⟨kind, hkind, hrule⟩, hvalid⟩ := usable?_eq_some_iff.1 husable
    simp [withoutIdle, hkind, hrule, hvalid]
  | none =>
    unfold withoutIdle
    split
    · rfl
    · rename_i kind hkind
      split
      · rfl
      · rename_i rule hrule
        have hinvalid : ¬ rule.isValid = true := fun hvalid => by
          rw [usable?_eq_some_iff.2 ⟨⟨kind, hkind, hrule⟩, hvalid⟩] at husable
          cases husable
        rw [if_neg hinvalid]
        rfl

/-- What is left of a key has its name. -/
theorem name_withoutIdle (key : String) (value : Json) :
    name (withoutIdle key value) = name key := by
  rw [withoutIdle_eq_ite]
  split
  · rfl
  · exact name_eq_self (split?_name key)

/-- What is left of a key has its usable rule. -/
theorem usable?_withoutIdle (key : String) (value : Json) :
    usable? (withoutIdle key value) value.withoutIdle = usable? key value := by
  have hkind : ∀ key, usable? key value.withoutIdle = usable? key value := fun key => by
    simp only [usable?, Json.kind?_withoutIdle]
  rw [withoutIdle_eq_ite]
  cases h : usable? key value with
  | none => exact usable?_eq_none (split?_name key) _
  | some rule => exact (hkind key).trans h

end Key

/-! ## The meaning of a template without idle rules -/

/-- The parts of a value mean what they mean without idle rules when this holds of each of them. -/
theorem Parts.of_withoutIdle {sampler : Sampler} {generate : Json → Producer} {value : Json}
    (h : ∀ part, Json.IsPart part value → generate part.withoutIdle = generate part) :
    Parts.of sampler generate value.withoutIdle = Parts.of sampler generate value := by
  cases value with
  | arr items =>
    have hwhole := h _ (.whole _)
    rw [Json.withoutIdle_arr] at hwhole ⊢
    simp only [Parts.of, hwhole, List.map_map, Parts.mk.injEq, and_true, true_and]
    exact List.map_congr_left fun item hitem => h item (.item hitem)
  | obj members =>
    have hwhole := h _ (.whole _)
    rw [Json.withoutIdle_obj] at hwhole ⊢
    simp only [Parts.of, hwhole, Parts.mk.injEq, true_and]
    funext positions
    rw [Parts.select_map, ← Json.withoutIdle_obj]
    exact h _ (.members (Parts.select_sublist _ _).subset)
  | _ => rw [Json.withoutIdle_eq_self rfl]

/-- A rule that suits a value does not see the idle rules in it, its parts apart. -/
theorem Rule.apply_withoutIdle {rule : Rule} {value : Json} {kind : Kind}
    (hkind : value.kind? = some kind) (hsuits : rule.Suits kind)
    (hfraction : value.isContainer = true → rule.isFraction = false) (parts : Parts) :
    rule.apply value.withoutIdle parts = rule.apply value parts := by
  cases value with
  | arr items =>
    obtain rfl : kind = .array := (Option.some.inj hkind).symm
    rw [Json.withoutIdle_arr]
    have hshape := hfraction rfl
    cases rule with
    | arrayPickOne => cases items <;> rfl
    | arrayPickSequential step => cases items <;> rfl
    | arrayRepeatRange min max => cases items <;> rfl
    | arrayRepeatCount count => cases items <;> rfl
    | numberIncrement step => exact absurd rfl hsuits
    -- Rules with a point are excluded by the shape, all others by the kind.
    | _ => first | (cases hshape; done) | cases hsuits
  | obj members =>
    obtain rfl : kind = .object := (Option.some.inj hkind).symm
    rw [Json.withoutIdle_obj]
    have hshape := hfraction rfl
    cases rule with
    | numberIncrement step => rfl
    | objectCount count => funext scope; simp only [apply, pickMembers, List.length_map]
    | objectRange min max => funext scope; simp only [apply, pickMembers, List.length_map]
    | _ => first | (cases hshape; done) | cases hsuits
  | _ => rw [Json.withoutIdle_eq_self rfl]

namespace Engine

variable (engine : Engine)

/-- A member generates what it generates without idle rules when the parts of its value do. -/
theorem produceEntry_withoutIdle {member : String × Json}
    (hfraction : member.2.isContainer = true →
      ∀ rule ∈ Key.usable? member.1 member.2, rule.isFraction = false)
    (hparts : ∀ part, Json.IsPart part member.2 →
      engine.generateIn part.withoutIdle = engine.generateIn part) (scope : Scope) :
    produceEntry (engine.entry (Json.withoutIdleMember member)) scope =
      produceEntry (engine.entry member) scope := by
  rw [produceEntry_entry, produceEntry_entry]
  simp only [Json.withoutIdleMember, Key.usable?_withoutIdle, Key.name_withoutIdle,
    Parts.of_withoutIdle hparts]
  cases husable : Key.usable? member.1 member.2 with
  | none => rfl
  | some rule =>
    obtain ⟨-, -, kind, -, hkind, -, hsuits⟩ := Key.of_usable?_eq_some husable
    simp only [Rule.execute]
    rw [Rule.apply_withoutIdle hkind hsuits fun hc => hfraction hc rule husable]

/-- Members generate what they generate without idle rules when each of them does. -/
theorem produceEntriesFrom_withoutIdle {members : List (String × Json)}
    (h : ∀ member ∈ members, ∀ scope, produceEntry (engine.entry (Json.withoutIdleMember member))
      scope = produceEntry (engine.entry member) scope) (made : Dictionary Json) (scope : Scope) :
    produceEntriesFrom ((members.map Json.withoutIdleMember).map engine.entry) made scope =
      produceEntriesFrom (members.map engine.entry) made scope := by
  induction members generalizing made scope with
  | nil => rfl
  | cons member members ih =>
    have hname : Key.name (Json.withoutIdleMember member).1 = Key.name member.1 :=
      Key.name_withoutIdle member.1 member.2
    have hrest := ih fun other ho => h other (List.mem_cons_of_mem _ ho)
    have hfirst := h member (List.mem_cons_self ..) scope
    funext progress
    change (produceEntriesFrom (engine.entry (Json.withoutIdleMember member) ::
        (members.map Json.withoutIdleMember).map engine.entry) made scope).run progress =
      (produceEntriesFrom (engine.entry member :: members.map engine.entry) made scope).run progress
    rw [run_produceEntriesFrom_cons, run_produceEntriesFrom_cons, hfirst]
    simp only [entry, hname, hrest]

/-- A template and the one without idle rules are one producer.

**Proof sketch.** By induction over values and their parts. The members of an object keep their
names and usable rules, so that each of them is executed in the same way on parts that mean the
same. -/
theorem generateIn_withoutIdle_eq {template : Json}
    (h : template.Everywhere Json.HasFlatFractions) :
    engine.generateIn template.withoutIdle = engine.generateIn template := by
  induction h using Json.Everywhere.parts_induction Json.selective_hasFlatFractions with
  | null => rw [Json.withoutIdle_eq_self rfl]
  | bool => rw [Json.withoutIdle_eq_self rfl]
  | num => rw [Json.withoutIdle_eq_self rfl]
  | str => rw [Json.withoutIdle_eq_self rfl]
  | arr items _ ih =>
    rw [Json.withoutIdle_arr, generateIn_arr, generateIn_arr, List.map_map]
    exact congrArg produceItems (List.map_congr_left ih)
  | obj members hnode ih =>
    have hflat : Json.HasFlatFractions (.obj members) := hnode.top
    rw [Json.withoutIdle_obj, generateIn_obj, generateIn_obj]
    funext scope
    refine congrArg (Json.obj <$> ·) (engine.produceEntriesFrom_withoutIdle ?_ [] scope)
    intro member hmember inner
    exact engine.produceEntry_withoutIdle (hflat member hmember) (ih member hmember) inner

/-- **A rule that cannot be used is the same as no rule**: in every scope, from every source and
with every ledger a template and the one without idle rules give the same value and leave the same
source and the same ledger. Members are kept in order here, so nothing is asked of the keys that
are left. -/
theorem generateIn_withoutIdle {template : Json} (h : template.Everywhere Json.HasFlatFractions)
    (scope : Scope) (progress : Progress) :
    (engine.generateIn template.withoutIdle scope).run progress =
      (engine.generateIn template scope).run progress := by
  rw [engine.generateIn_withoutIdle_eq h]

/-- A range upside down on an array, and a step of zero in an item of it, are the same as no
rules. -/
theorem generateIn_withoutIdle_nested :
    (Json.obj [("tags|5-2", .arr [.obj [("id|+0", .num (.int 1)),
      ("name|2", .str "a")]])]).Everywhere Json.HasFlatFractions ∧
      ((standard ⟨.enUS, 0⟩).generateIn (.obj [("tags",
          .arr [.obj [("id", .num (.int 1)), ("name|2", .str "a")]])]) Scope.root).run
            ⟨default, Ledger.empty⟩ =
        ((standard ⟨.enUS, 0⟩).generateIn (.obj [("tags|5-2",
          .arr [.obj [("id|+0", .num (.int 1)), ("name|2", .str "a")]])]) Scope.root).run
            ⟨default, Ledger.empty⟩ := by
  have hflat : (Json.obj [("tags|5-2",
      .arr [.obj [("id|+0", .num (.int 1)), ("name|2", .str "a")]])]).Everywhere
      Json.HasFlatFractions := by decide
  exact ⟨hflat, generateIn_withoutIdle _ hflat Scope.root ⟨default, Ledger.empty⟩⟩

end Engine

end Specimen
