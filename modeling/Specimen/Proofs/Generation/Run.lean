import Specimen.Proofs.Rule.Outcome

set_option autoImplicit false

/-!
# Runs of generation

The producer of an array is a loop over its items and that of an object a loop over its members; a
repeated pick is a loop, too. What every round of such a loop has for a property, the loop has, when
the property passes from steps to their sequence. So does what a step keeps, when what is kept
compares the start and the end of a run and passes through the states between.

## Main definitions

* `Specimen.Engine.namedValues` — the values of members with their names, in order.
* `Specimen.Gen.Sequential` — a property of steps that passes from one step after another to both
  of them together.
* `Specimen.Gen.Keeps` — a step that ends where a relation allows it, wherever it starts.
* `Specimen.Json.IsUncounted` — an object whose members do not count.

## Main results

* `Specimen.Engine.generateIn_arr`, `Specimen.Engine.generateIn_obj` — what arrays and objects
  mean.
* `Specimen.Engine.generateIn_congr` — templates mean the same for engines when their texts do.
* `Specimen.Engine.run_produceEntriesFrom`, `Specimen.Engine.run_produceEntriesFrom_append` — what
  becomes of the values of members, and what members find that stand behind others.
* `Specimen.Gen.Sequential.many`, `Specimen.Gen.Sequential.produceItemsFrom`,
  `Specimen.Gen.Sequential.produceEntriesFrom` — loops.
* `Specimen.Gen.sequential_keeps` — what is kept step by step is such a property.
* `Specimen.Engine.gives_produceItemsFrom` — what the items of an array have.
-/

namespace Specimen

/-! ## What arrays and objects mean -/

namespace Engine

variable (engine : Engine)

theorem generateIn_str (text : String) :
    engine.generateIn (.str text) = engine.produceText text := rfl

theorem generateIn_arr (items : List Json) :
    engine.generateIn (.arr items) = produceItems (items.map engine.generateIn) := by
  rw [← itemProducers_eq_map]
  rfl

theorem generateIn_obj (members : List (String × Json)) :
    engine.generateIn (.obj members) = produceEntries (members.map engine.entry) := by
  rw [← entries_eq_map]
  rfl

/-- **Engines that mean the same by texts mean the same by templates** with such texts only.

**Proof sketch.** By induction on the value; only texts are generated by what the engines differ in.
-/
theorem parts_congr {first second : Engine} {condition : Json → Prop}
    (htext : ∀ text, condition (.str text) → first.produceText text = second.produceText text)
    {value : Json} (h : value.Everywhere condition) : first.parts value = second.parts value := by
  induction value using Json.values_induction with
  | null => rfl
  | bool => rfl
  | num => rfl
  | str text => rw [parts, parts, htext text h.top]
  | arr items ih =>
    have hitems : first.itemProducers items = second.itemProducers items := by
      rw [itemProducers_eq_map, itemProducers_eq_map]
      refine List.map_congr_left fun item hitem => ?_
      rw [generateIn, generateIn, ih item hitem ((Json.everywhere_arr.1 h).2 item hitem)]
    rw [parts, parts, hitems]
  | obj members ih =>
    have hentries : first.entries members = second.entries members := by
      rw [entries_eq_map, entries_eq_map]
      refine List.map_congr_left fun member hmember => ?_
      rw [entry, entry, ih member hmember ((Json.everywhere_obj.1 h).2 member hmember)]
    rw [parts, parts, hentries]

theorem generateIn_congr {first second : Engine} {condition : Json → Prop}
    (htext : ∀ text, condition (.str text) → first.produceText text = second.produceText text)
    {template : Json} (h : template.Everywhere condition) :
    first.generateIn template = second.generateIn template := by
  rw [generateIn, generateIn, parts_congr htext h]

/-- A member is generated in the state before it; the others follow with its value recorded. -/
theorem run_produceEntriesFrom_cons (entry : Entry) (entries : List Entry) (made : Dictionary Json)
    (scope : Scope) (progress : Progress) :
    (produceEntriesFrom (entry :: entries) made scope).run progress =
      (produceEntriesFrom entries
        (made.set (Key.name entry.key) ((produceEntry entry scope).run progress).1)
        (scope.record (Key.name entry.key) ((produceEntry entry scope).run progress).1)).run
        { ((produceEntry entry scope).run progress).2 with
          ledger := ((produceEntry entry scope).run progress).2.ledger.record
            (scope.key (Key.name entry.key)) ((produceEntry entry scope).run progress).1 } := rfl

/-- A run from the start begins with the source that is given, and an empty ledger. -/
theorem run_generate_obj (members : List (String × Json)) (source : Source) :
    (engine.generate (.obj members)).run source =
      (.obj ((produceEntriesFrom (members.map engine.entry) [] Scope.root).run
          ⟨source, Ledger.empty⟩).1,
        ((produceEntriesFrom (members.map engine.entry) [] Scope.root).run
          ⟨source, Ledger.empty⟩).2.source) := by
  rw [← entries_eq_map]
  rfl

/-- An item is generated in the state that the items before it leave. -/
theorem run_produceItemsFrom_cons (producer : Producer) (producers : List Producer) (scope : Scope)
    (progress : Progress) :
    (produceItemsFrom (producer :: producers) scope).run progress =
      (((producer scope).run progress).1 ::
          ((produceItemsFrom producers scope).run ((producer scope).run progress).2).1,
        ((produceItemsFrom producers scope).run ((producer scope).run progress).2).2) := rfl

/-- A text is expanded first and resolved after that, with the references of its place. -/
theorem run_produceText (text : String) (scope : Scope) (progress : Progress) :
    (engine.produceText text scope).run progress =
      (((engine.resolve (scope.find? progress.ledger)
          ((Pattern.expand text.toList).run progress.source).1).run
            ((Pattern.expand text.toList).run progress.source).2).1,
        { progress with source := ((engine.resolve (scope.find? progress.ledger)
          ((Pattern.expand text.toList).run progress.source).1).run
            ((Pattern.expand text.toList).run progress.source).2).2 }) := rfl

end Engine

/-! ## Members in order -/

namespace Dictionary

variable {α : Type}

/-- Puts values under names, one after the other. -/
def setAll (entries : Dictionary α) (values : List (String × α)) : Dictionary α :=
  values.foldl (fun made (name, value) => made.set name value) entries

/-- The last value under a name. -/
def last? (values : List (String × α)) (name : String) : Option α := get? values.reverse name

theorem get?_append (first second : Dictionary α) (name : String) :
    get? (first ++ second) name = (first.get? name).or (second.get? name) := by
  induction first with
  | nil => rfl
  | cons entry first ih =>
    obtain ⟨key, value⟩ := entry
    rw [List.cons_append, get?, get?, ih]
    split <;> rfl

/-- An earlier value counts when there is no later one. -/
theorem last?_cons (key : String) (value : α) (rest : List (String × α)) (name : String) :
    last? ((key, value) :: rest) name =
      (last? rest name).or (if key = name then some value else none) := by
  rw [last?, List.reverse_cons, get?_append]
  rfl

theorem last?_eq_none {values : List (String × α)} {name : String}
    (h : ∀ entry ∈ values, entry.1 ≠ name) : last? values name = none := by
  induction values with
  | nil => rfl
  | cons entry rest ih =>
    rw [last?_cons, ih fun other ho => h other (List.mem_cons_of_mem _ ho),
      if_neg (h entry (List.mem_cons_self ..))]
    rfl

/-- **The last value counts**, and what was there before when no value has the name. -/
theorem get?_setAll (entries : Dictionary α) (values : List (String × α)) (name : String) :
    (entries.setAll values).get? name = (last? values name).or (entries.get? name) := by
  induction values generalizing entries with
  | nil => rfl
  | cons entry rest ih =>
    obtain ⟨key, value⟩ := entry
    refine (ih (entries.set key value)).trans ?_
    rw [get?_set, last?_cons, Option.or_assoc]
    split <;> rfl

end Dictionary

/-- Keeps values under names, one after the other. -/
def Scope.recordAll (scope : Scope) (values : List (String × Json)) : Scope :=
  { scope with locals := scope.locals.setAll values }

namespace Engine

/-- The values of entries with their names, in the order in which they are generated. An object is
made of them (`run_produceEntriesFrom`). -/
def namedValues : List Entry → Scope → Gen (List (String × Json))
  | [], _ => pure []
  | entry :: entries, scope => do
    let name := Key.name entry.key
    let value ← produceEntry entry scope
    Gen.update fun ledger => ledger.record (scope.key name) value
    let rest ← namedValues entries (scope.record name value)
    pure ((name, value) :: rest)

theorem run_namedValues_cons (entry : Entry) (entries : List Entry) (scope : Scope)
    (progress : Progress) :
    (namedValues (entry :: entries) scope).run progress =
      ((namedValues entries
        (scope.record (Key.name entry.key) ((produceEntry entry scope).run progress).1)).run
        { ((produceEntry entry scope).run progress).2 with
          ledger := ((produceEntry entry scope).run progress).2.ledger.record
            (scope.key (Key.name entry.key)) ((produceEntry entry scope).run progress).1 }).map
        ((Key.name entry.key, ((produceEntry entry scope).run progress).1) :: ·) id := rfl

/-- An object is made of the values of its members. -/
theorem run_produceEntriesFrom (entries : List Entry) (made : Dictionary Json) (scope : Scope)
    (progress : Progress) :
    (produceEntriesFrom entries made scope).run progress =
      ((namedValues entries scope).run progress).map made.setAll id := by
  induction entries generalizing made scope progress with
  | nil => rfl
  | cons entry entries ih =>
    rw [run_produceEntriesFrom_cons, run_namedValues_cons, ih]
    rfl

/-- Members behind others are generated from what these leave, with their values kept. -/
theorem run_namedValues_append (first second : List Entry) (scope : Scope) (start : Progress) :
    (namedValues (first ++ second) scope).run start =
      ((namedValues second (scope.recordAll ((namedValues first scope).run start).1)).run
        ((namedValues first scope).run start).2).map (((namedValues first scope).run start).1 ++ ·)
          id := by
  induction first generalizing scope start with
  | nil => rfl
  | cons entry first ih =>
    rw [List.cons_append, run_namedValues_cons, run_namedValues_cons, ih]
    rfl

/-- The values have the names of their members. -/
theorem exists_of_mem_namedValues {entries : List Entry} {scope : Scope} {start : Progress}
    {value : String × Json} (h : value ∈ ((namedValues entries scope).run start).1) :
    ∃ entry ∈ entries, Key.name entry.key = value.1 := by
  induction entries generalizing scope start with
  | nil => cases h
  | cons entry entries ih =>
    rw [run_namedValues_cons] at h
    rcases List.mem_cons.1 h with rfl | hrest
    · exact ⟨entry, List.mem_cons_self .., rfl⟩
    · obtain ⟨other, hother, hname⟩ := ih hrest
      exact ⟨other, List.mem_cons_of_mem _ hother, hname⟩

/-- The last member of a name decides what is under the name. -/
theorem get?_produceEntriesFrom (entries : List Entry) (made : Dictionary Json) (scope : Scope)
    (start : Progress) (name : String) :
    ((produceEntriesFrom entries made scope).run start).1.get? name =
      (Dictionary.last? ((namedValues entries scope).run start).1 name).or (made.get? name) := by
  rw [run_produceEntriesFrom]
  exact Dictionary.get?_setAll made _ name

/-- Members of other names leave what is under a name. -/
theorem get?_produceEntriesFrom_of_ne {name : String} {entries : List Entry}
    (hnames : ∀ entry ∈ entries, Key.name entry.key ≠ name) (made : Dictionary Json) (scope : Scope)
    (start : Progress) :
    ((produceEntriesFrom entries made scope).run start).1.get? name = made.get? name := by
  rw [get?_produceEntriesFrom, Dictionary.last?_eq_none fun value hvalue => ?_, Option.none_or]
  obtain ⟨entry, hentry, hname⟩ := exists_of_mem_namedValues hvalue
  exact hname ▸ hnames entry hentry

/-- Members behind others are generated in the place of these, with their values kept. -/
theorem run_produceEntriesFrom_append (first second : List Entry) (made : Dictionary Json)
    (scope : Scope) (start : Progress) :
    (produceEntriesFrom (first ++ second) made scope).run start =
      (produceEntriesFrom second ((produceEntriesFrom first made scope).run start).1
        (scope.recordAll ((namedValues first scope).run start).1)).run
          ((produceEntriesFrom first made scope).run start).2 := by
  rw [run_produceEntriesFrom, run_produceEntriesFrom, run_produceEntriesFrom,
    run_namedValues_append]
  exact Prod.ext List.foldl_append rfl

end Engine

/-! ## Loops -/

namespace Gen

/-- A step that ends where the relation allows it, wherever it starts. -/
def Keeps {α : Type} (related : Progress → Progress → Prop) (step : Gen α) : Prop :=
  ∀ progress, related progress (step.run progress).2

theorem run_many_succ {α : Type} (count : Nat) (step : Gen α) (progress : Progress) :
    (many (count + 1) step).run progress =
      ((step.run progress).1 :: ((many count step).run (step.run progress).2).1,
        ((many count step).run (step.run progress).2).2) := rfl

end Gen

/-- A property of steps that passes from one step after another to both of them together. -/
structure Gen.Sequential (property : ∀ α : Type, Gen α → Prop) : Prop where
  /-- Steps that only give a result have the property. -/
  pure : ∀ {α : Type} (result : α), property α (pure result)
  /-- Steps taken one after the other have the property when each of them has it. -/
  bind : ∀ {α β : Type} {step : Gen α} {next : α → Gen β}, property α step →
    (∀ result, property β (next result)) → property β (step >>= next)

namespace Gen.Sequential

variable {property : ∀ α : Type, Gen α → Prop} (hseq : Gen.Sequential property)

include hseq

/-- A function of the result does not matter. -/
theorem map {α β : Type} (f : α → β) {step : Gen α} (h : property α step) :
    property β (f <$> step) :=
  hseq.bind h fun result => hseq.pure (f result)

/-- A step can be taken many times. -/
theorem many {α : Type} {step : Gen α} (h : property α step) (count : Nat) :
    property (List α) (many count step) :=
  @many_related Gen Gen _ _ (fun α step _ => property α step) hseq.pure hseq.bind α step step h
    count

/-- An array has the property when all items have it. -/
theorem produceItemsFrom {producers : List Producer} {scope : Scope}
    (h : ∀ producer ∈ producers, property Json (producer scope)) :
    property (List Json) (Engine.produceItemsFrom producers scope) := by
  induction producers with
  | nil => exact hseq.pure []
  | cons producer producers ih =>
    refine hseq.bind (h producer (List.mem_cons_self ..)) fun first => ?_
    exact hseq.bind (ih fun other ho => h other (List.mem_cons_of_mem _ ho)) fun rest =>
      hseq.pure (first :: rest)

/-- An object has the property when all members have it, and the records of their values. The
members are generated in scopes of one path. -/
theorem produceEntriesFrom {path : String} {entries : List Entry}
    (hentry : ∀ entry ∈ entries, ∀ scope : Scope, scope.path = path →
      property Json (Engine.produceEntry entry scope))
    (hrecord : ∀ entry ∈ entries, ∀ scope : Scope, scope.path = path → ∀ value, property Unit
      (Gen.update fun ledger => ledger.record (scope.key (Key.name entry.key)) value))
    {scope : Scope} (hpath : scope.path = path) (made : Dictionary Json) :
    property (Dictionary Json) (Engine.produceEntriesFrom entries made scope) := by
  induction entries generalizing made scope with
  | nil => exact hseq.pure made
  | cons entry entries ih =>
    have hfirst := hentry entry (List.mem_cons_self ..) scope hpath
    have hkept := hrecord entry (List.mem_cons_self ..) scope hpath
    have hnext : ∀ value, (scope.record (Key.name entry.key) value).path = path := fun _ => hpath
    refine hseq.bind hfirst fun value => hseq.bind (hkept value) fun _ => ?_
    exact ih (fun other ho => hentry other (List.mem_cons_of_mem _ ho))
      (fun other ho => hrecord other (List.mem_cons_of_mem _ ho)) (hnext value) _

end Gen.Sequential

section Loops

variable {related : Progress → Progress → Prop} (hrefl : ∀ start, related start start)
  (htrans : ∀ start middle finish, related start middle → related middle finish →
    related start finish)

include hrefl htrans

/-- What a relation that passes through the states between allows is kept one step after another. -/
theorem Gen.sequential_keeps : Gen.Sequential fun _ step => step.Keeps related where
  pure _ := hrefl
  bind hstep hnext progress := htrans _ _ _ (hstep progress) (hnext _ _)

/-- What a step keeps is kept when it is taken many times. -/
theorem Gen.keeps_many {α : Type} {step : Gen α} (hstep : step.Keeps related) (count : Nat) :
    (many count step).Keeps related :=
  (Gen.sequential_keeps hrefl htrans).many hstep count

/-- What all items keep the array keeps. -/
theorem Engine.keeps_produceItemsFrom {producers : List Producer} {scope : Scope}
    (h : ∀ producer ∈ producers, (producer scope).Keeps related) :
    (produceItemsFrom producers scope).Keeps related :=
  (Gen.sequential_keeps hrefl htrans).produceItemsFrom h

end Loops

/-- What all items give the items of the array have. -/
theorem Engine.gives_produceItemsFrom {property : Json → Prop} {producers : List Producer}
    {scope : Scope} (h : ∀ producer ∈ producers, Gives (producer scope) property) :
    Gives (produceItemsFrom producers scope) fun items => ∀ item ∈ items, property item := by
  induction producers with
  | nil => exact gives_pure nofun
  | cons producer producers ih =>
    refine (h producer (List.mem_cons_self ..)).bind fun first hfirst => ?_
    exact (ih fun other ho => h other (List.mem_cons_of_mem _ ho)).bind fun rest hrest =>
      gives_pure (List.forall_mem_cons.2 ⟨hfirst, hrest⟩)

/-! ## Members without steps -/

/-- No member of an object has a usable rule of a step. -/
def Json.IsUncounted : Json → Prop
  | .obj members => ∀ member ∈ members, ∀ rule ∈ Key.usable? member.1 member.2, rule.isStep = false
  | _ => True

instance : DecidablePred Json.IsUncounted
  | .obj members => inferInstanceAs (Decidable (∀ member ∈ members,
      ∀ rule ∈ Key.usable? member.1 member.2, rule.isStep = false))
  | .null | .bool _ | .num _ | .str _ | .arr _ => isTrue trivial

theorem Json.selective_isUncounted : Json.Selective Json.IsUncounted :=
  fun _ _ hsub h member hm => h member (hsub member hm)

end Specimen
