import Mathlib
import Specimen.Generation.Setup
import Specimen.Proofs.Generation.Agreement
import Specimen.Proofs.Scope.Path

set_option autoImplicit false

/-!
# Counters of different properties

A number with a step counts under the path of its property as written, and so do the turns of an
array, with a mark behind the path. A run reads and moves the counters of the properties with steps
that are in its template, and no others. Whether two properties have two counters is a question of
what is written: a first name that is empty, a point in a name, and a name that ends in the mark of
turns can make the keys of two properties the same.

## Main definitions

* `Specimen.Json.steps` — the properties with rules of a step in a template.
* `Specimen.Path.counter` — the key of the counter of a property.
* `Specimen.Path.IsUnambiguous` — what is written shows the path, and what is counted.
* `Specimen.Gen.Spares` — a step that neither moves a counter nor depends on it.

## Main results

* `Specimen.Path.counter_injective` — unambiguous properties have different counters.
* `Specimen.Engine.respects_spares` — a run spares the counters of which it has no step.
* `Specimen.Engine.counters_separate` — the two together.
* `Specimen.Engine.counters_shared` — an empty name, a point and a mark make properties share.
-/

namespace Specimen

/-! ## Properties with steps -/

namespace Json

mutual

/-- The properties with usable rules of a step in a template, by the names that lead to them, and
what they count. -/
def steps : Json → List (Path × StepKind)
  | .arr items => stepsOfItems items
  | .obj members => stepsOfMembers members
  | _ => []

/-- The properties with steps in items, which stand where the array does. -/
def stepsOfItems : List Json → List (Path × StepKind)
  | [] => []
  | item :: items => steps item ++ stepsOfItems items

/-- The properties with steps among members and in their values. -/
def stepsOfMembers : List (String × Json) → List (Path × StepKind)
  | [] => []
  | (key, value) :: members =>
    ((Key.usable? key value).bind Rule.stepKind?).toList.map (fun kind => ([Key.name key], kind)) ++
      (steps value).map (fun place => (Key.name key :: place.1, place.2)) ++ stepsOfMembers members

end

theorem mem_steps_arr {place : Path × StepKind} {items : List Json} :
    place ∈ (Json.arr items).steps ↔ ∃ item ∈ items, place ∈ item.steps := by
  rw [steps]
  induction items with
  | nil => simp [stepsOfItems]
  | cons item items ih => simp [stepsOfItems, ih]

theorem mem_steps_obj {place : Path × StepKind} {members : List (String × Json)} :
    place ∈ (Json.obj members).steps ↔ ∃ member ∈ members,
      (∃ kind, (Key.usable? member.1 member.2).bind Rule.stepKind? = some kind ∧
        ([Key.name member.1], kind) = place) ∨
      ∃ inner ∈ member.2.steps, (Key.name member.1 :: inner.1, inner.2) = place := by
  rw [steps]
  induction members with
  | nil => simp [stepsOfMembers]
  | cons member members ih =>
    obtain ⟨key, value⟩ := member
    simp only [stepsOfMembers, List.mem_append, List.mem_map, Option.mem_toList, ih,
      List.mem_cons, exists_eq_or_imp]

/-- A part of a value has no steps but those of the value. -/
theorem IsPart.mem_steps {part value : Json} (hpart : IsPart part value) {place : Path × StepKind}
    (h : place ∈ part.steps) : place ∈ value.steps := by
  cases hpart with
  | whole => exact h
  | item hitem => exact mem_steps_arr.2 ⟨_, hitem, h⟩
  | members hsub =>
    obtain ⟨member, hmember, hplace⟩ := mem_steps_obj.1 h
    exact mem_steps_obj.2 ⟨member, hsub member hmember, hplace⟩

/-- Where nothing counts there are no steps. -/
theorem steps_eq_nil {value : Json} (h : value.Everywhere IsUncounted) : value.steps = [] := by
  refine List.eq_nil_iff_forall_not_mem.2 ?_
  induction value using values_induction with
  | arr items ih =>
    intro place hplace
    obtain ⟨item, hitem, hinner⟩ := mem_steps_arr.1 hplace
    exact ih item hitem ((everywhere_arr.1 h).2 item hitem) place hinner
  | obj members ih =>
    obtain ⟨htop, hvalues⟩ := everywhere_obj.1 h
    intro place hplace
    obtain ⟨member, hmember, ⟨kind, hkind, -⟩ | ⟨inner, hinner, -⟩⟩ := mem_steps_obj.1 hplace
    · obtain ⟨rule, husable, hstep⟩ := Option.bind_eq_some_iff.1 hkind
      have hnone := htop member hmember rule husable
      rw [Rule.isStep_of_stepKind? hstep] at hnone
      cases hnone
    · exact ih member hmember (hvalues member hmember) inner hinner
  | _ => exact fun _ => nofun

end Json

/-! ## Keys of counters -/

namespace Path

/-- The key of the counter of a property. -/
def counter (path : Path) (kind : StepKind) : String := kind.key path.place.path

/-- The path is known from what is written, and what is written for a number does not end as it does
for the turns of an array. -/
def IsUnambiguous (path : Path) (kind : StepKind) : Prop :=
  path.IsPlain ∧ (kind = .number → ¬Rule.positionSuffix.toList <:+ path.text.toList)

instance (path : Path) (kind : StepKind) : Decidable (path.IsUnambiguous kind) :=
  inferInstanceAs (Decidable (path.IsPlain ∧
    (kind = .number → ¬Rule.positionSuffix.toList <:+ path.text.toList)))

/-- **Unambiguous properties have different counters.**

**Proof sketch.** The key of a number does not end in the mark of turns, and that of turns does. Two
keys of one kind come from one path as written, which determines the path. -/
theorem counter_injective {path other : Path} {kind otherKind : StepKind}
    (h : path.IsUnambiguous kind) (hother : other.IsUnambiguous otherKind)
    (heq : path.counter kind = other.counter otherKind) : path = other ∧ kind = otherKind := by
  rw [counter, counter, path_place h.1, path_place hother.1] at heq
  cases kind with
  | number =>
    cases otherKind with
    | number => exact ⟨text_injective h.1 hother.1 heq, rfl⟩
    | turn =>
      refine absurd ?_ (h.2 rfl)
      rw [show path.text = other.text ++ Rule.positionSuffix from heq, String.toList_append]
      exact List.suffix_append ..
  | turn =>
    cases otherKind with
    | number =>
      refine absurd ?_ (hother.2 rfl)
      rw [← show path.text ++ Rule.positionSuffix = other.text from heq, String.toList_append]
      exact List.suffix_append ..
    | turn =>
      refine ⟨text_injective h.1 hother.1 (String.toList_inj.1 ?_), rfl⟩
      have hlist := congrArg String.toList heq
      simp only [StepKind.key, String.toList_append] at hlist
      exact List.append_cancel_right hlist

end Path

/-! ## Runs and counters -/

/-- A step that neither moves the counter under a key nor depends on it. -/
structure Gen.Spares (key : String) {α : Type} (step : Gen α) : Prop where
  /-- The counter is not moved. -/
  keeps : ∀ start, (step.run start).2.ledger.counter? key = start.ledger.counter? key
  /-- From states that are the same but for this counter the step goes on alike. -/
  ignores : step.Parallel (Progress.Agree (· ≠ key) fun _ => True)

namespace Gen

theorem sequential_spares (key : String) : Sequential fun _ step => step.Spares key where
  pure result := ⟨fun _ => rfl, (sequential_parallel _).pure result⟩
  bind hstep hnext :=
    ⟨fun start => ((hnext _).keeps _).trans (hstep.keeps start),
      (sequential_parallel _).bind hstep.ignores fun result => (hnext result).ignores⟩

/-- A counter that is read and moves on spares all others. -/
theorem spares_advance {key counter : String} (hne : counter ≠ key) (seed step : Int) :
    (advance counter seed step).Spares key := by
  refine ⟨fun start => ?_, parallel_advance ?_ seed step⟩
  · exact (start.ledger.counter?_advance counter key seed step).trans (if_neg hne)
  · exact hne

end Gen

namespace Engine

variable (engine : Engine)

/-- **A run spares the counters of which it has no step.**

**Proof sketch.** The key of a counter says where in the template the step stands. A part stands
deeper than its object or array, with the steps that the template has there, and the one counter
that a rule moves is that of its own place. -/
theorem respects_spares (key : String) : engine.Respects (fun _ step => step.Spares key)
    fun path template => ∃ base : Path, base.place.path = path ∧
      ∀ place ∈ template.steps, Path.counter (base ++ place.1) place.2 ≠ key where
  sequential := Gen.sequential_spares key
  draw _ step := ⟨fun _ => rfl, Gen.parallel_draw step⟩
  item := fun ⟨base, hbase, hsteps⟩ hitem =>
    ⟨base, hbase, fun place hplace => hsteps place (Json.mem_steps_arr.2 ⟨_, hitem, hplace⟩)⟩
  part := by
    rintro scope members member part ⟨base, hbase, hsteps⟩ hmember hpart
    refine ⟨base ++ [Key.name member.1], ?_, fun place hplace => ?_⟩
    · rw [Path.place_append_singleton]
      exact Scope.key_congr hbase (Key.name member.1)
    · rw [List.append_assoc]
      exact hsteps _ (Json.mem_steps_obj.2
        ⟨member, hmember, Or.inr ⟨place, hpart.mem_steps hplace, rfl⟩⟩)
  text := by
    refine fun {scope text} _ =>
      ⟨fun _ => rfl, engine.parallel_produceText fun first second h _ token _ => ?_⟩
    unfold Scope.find?
    split
    · exact h.value _ trivial
    · rfl
  record _ _ value := ⟨fun _ => rfl, Gen.parallel_record _ value⟩
  step := by
    rintro scope members member kind ⟨base, hbase, hsteps⟩ hmember hkind seed step
    have hcounter := hsteps _ (Json.mem_steps_obj.2 ⟨member, hmember, Or.inl ⟨kind, hkind, rfl⟩⟩)
    rw [Path.counter, Path.place_append_singleton] at hcounter
    refine Gen.spares_advance (fun heq => hcounter ?_) seed step
    rw [← heq]
    exact congrArg kind.key (Scope.key_congr hbase (Key.name member.1))

/-- **Different properties count apart** when what is written shows which they are: an unambiguous
property shares its counter with no other, and a run of a template that has only other such
properties with steps neither moves the counter nor depends on it.

**Proof sketch.** The run spares all counters but those of its steps, which are others because the
keys of unambiguous properties are different. -/
theorem counters_separate {template : Json} {base : Path} {scope : Scope}
    (hscope : scope.path = base.place.path) {path : Path} {kind : StepKind}
    (hpath : path.IsUnambiguous kind)
    (hsteps : ∀ place ∈ template.steps, Path.IsUnambiguous (base ++ place.1) place.2 ∧
      (base ++ place.1, place.2) ≠ (path, kind)) :
    (∀ (other : Path) (otherKind : StepKind), other.IsUnambiguous otherKind →
        other.counter otherKind = path.counter kind → other = path ∧ otherKind = kind) ∧
      (engine.generateIn template scope).Spares (path.counter kind) := by
  have hother : ∀ (other : Path) (otherKind : StepKind), other.IsUnambiguous otherKind →
      other.counter otherKind = path.counter kind → other = path ∧ otherKind = kind :=
    fun other otherKind h heq => Path.counter_injective h hpath heq
  refine ⟨hother, (engine.respects_spares (path.counter kind)).generateIn
    ⟨base, hscope.symm, fun place hplace heq => ?_⟩⟩
  obtain ⟨hplain, hne⟩ := hsteps place hplace
  obtain ⟨hsame, hkind⟩ := hother _ _ hplain heq
  exact hne (Prod.ext hsame hkind)

/-- The number `b.a` counts apart from the number `a` and from the turns of `b.c`. -/
theorem counters_separate_nested :
    (∀ place ∈ (Json.obj [("a|+1", .num (.int 1)),
        ("b", .obj [("c|+1", .arr [.str "x", .str "y"])])]).steps,
      Path.IsUnambiguous ([] ++ place.1) place.2 ∧
        ([] ++ place.1, place.2) ≠ (["b", "a"], StepKind.number)) ∧
    Path.IsUnambiguous ["b", "a"] .number ∧
    (∀ (other : Path) (otherKind : StepKind), other.IsUnambiguous otherKind →
        other.counter otherKind = Path.counter ["b", "a"] .number →
          other = ["b", "a"] ∧ otherKind = .number) ∧
      ((standard ⟨.enUS, 0⟩).generateIn (.obj [("a|+1", .num (.int 1)),
        ("b", .obj [("c|+1", .arr [.str "x", .str "y"])])]) Scope.root).Spares
          (Path.counter ["b", "a"] .number) := by
  have hsteps : ∀ place ∈ (Json.obj [("a|+1", .num (.int 1)),
      ("b", .obj [("c|+1", .arr [.str "x", .str "y"])])]).steps,
      Path.IsUnambiguous ([] ++ place.1) place.2 ∧
        ([] ++ place.1, place.2) ≠ (["b", "a"], StepKind.number) := by decide
  have hpath : Path.IsUnambiguous ["b", "a"] .number := by decide
  exact ⟨hsteps, hpath, counters_separate _ rfl hpath hsteps⟩

/-- An empty first name, a point in a name and a name that ends in the mark of turns make different
properties share a counter. In the run `b` stands in the object of an empty name and again beside
it, and the second number goes on from the first. -/
theorem counters_shared :
    (Path.counter ["", "b"] .number = Path.counter ["b"] .number ∧
      Path.counter ["a", "b"] .number = Path.counter ["a.b"] .number ∧
      Path.counter ["a"] .turn = Path.counter ["a[index]"] .number) ∧
    (((standard ⟨.enUS, 0⟩).generate
        (.obj [("", .obj [("b|+1", .num (.int 1))]), ("b|+1", .num (.int 100))])).run default).1 =
      .obj [("", .obj [("b", .num (.int 1))]), ("b", .num (.int 2))] := by
  refine ⟨by decide, ?_⟩
  cbv

end Engine

end Specimen
