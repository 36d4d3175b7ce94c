import Mathlib.Data.List.Induction
import Specimen.Placeholder.Registry
import Specimen.Proofs.Sorted

set_option autoImplicit false

/-!
# Calls of registered functions

Whatever has been registered, in any order and under any spellings, the functions that concern a
name are those whose own name has the same small letters, in the order of registration. A call
leaves out those that do not take so many arguments and runs the others one after the other, each on
what the ones before it have left of the random source, until one succeeds. The catalogue is the
same history, written down name by name.

## Main definitions

* `Specimen.Registry.named` — the functions with the same name, whatever the case.
* `Specimen.Registry.FailInTurn` — functions that run one after the other and all fail.
* `Specimen.Registry.Answers` — what a call of some functions comes to.

## Main results

* `Specimen.Registry.get?_registerAll`, `Specimen.Registry.mem_names_registerAll` — what has been
  registered under a name.
* `Specimen.Registry.exists_answers`, `Specimen.Registry.call_registerAll` — a call has an answer,
  and it is the one that the registrations say.
* `Specimen.Registry.pairwise_lt_catalogue`, `Specimen.Registry.mem_catalogue_iff` — the catalogue.
* `Specimen.Registry.registered_answers` — all that a registry answers.
-/

namespace Specimen.Registry

/-! ## What has been registered -/

/-- The functions whose name in small letters is a given one, in order. -/
def named (signatures : List Signature) (key : String) : List Signature :=
  signatures.filter fun signature => Text.lower signature.name = key

theorem registerAll_append_singleton (registry : Registry) (signatures : List Signature)
    (last : Signature) :
    registry.registerAll (signatures ++ [last]) = (registry.registerAll signatures).register last :=
  List.foldl_append

theorem named_append_singleton (signatures : List Signature) (last : Signature) (key : String) :
    named (signatures ++ [last]) key =
      if Text.lower last.name = key then named signatures key ++ [last]
      else named signatures key := by
  rw [named, List.filter_append, ← named]
  by_cases h : Text.lower last.name = key
  · rw [if_pos h, List.filter_cons_of_pos (by simpa using h), List.filter_nil]
  · rw [if_neg h, List.filter_cons_of_neg (by simpa using h), List.filter_nil, List.append_nil]

/-- No functions are found where none have been registered. -/
theorem getD_found (signatures : List Signature) :
    (if signatures = [] then none else some signatures).getD [] = signatures := by
  split
  · rename_i hnone
    exact hnone.symm
  · rfl

/-- **What is found under a name** are the functions of that name, if there are any.

**Proof sketch.** By induction on the registrations: a function goes behind those of its name and
changes nothing under other names. -/
theorem get?_registerAll (signatures : List Signature) (key : String) :
    (empty.registerAll signatures).entries.get? key =
      if named signatures key = [] then none else some (named signatures key) := by
  induction signatures using List.reverseRecOn with
  | nil => rfl
  | append_singleton signatures last ih =>
    rw [registerAll_append_singleton, register, Dictionary.get?_set, named_append_singleton]
    split
    · rename_i hkey
      have hbefore : ((empty.registerAll signatures).entries.get? (Text.lower last.name)).getD [] =
          named signatures key := by
        rw [hkey, ih, getD_found]
      rw [hbefore, if_neg (List.append_ne_nil_of_right_ne_nil _ (List.cons_ne_nil _ _))]
    · exact ih

theorem mem_names_registerAll {signatures : List Signature} {key : String} :
    key ∈ (empty.registerAll signatures).entries.names ↔ named signatures key ≠ [] := by
  rw [← not_iff_not, ← Dictionary.get?_eq_none_iff, get?_registerAll, not_not]
  split
  · rename_i h
    exact iff_of_true rfl h
  · rename_i h
    exact iff_of_false nofun h

theorem nodup_names_registerAll (signatures : List Signature) :
    (empty.registerAll signatures).entries.names.Nodup := by
  induction signatures using List.reverseRecOn with
  | nil => exact List.nodup_nil
  | append_singleton signatures last ih =>
    rw [registerAll_append_singleton]
    exact Dictionary.nodup_names_set ih _ _

theorem contains_registerAll {signatures : List Signature} {name : String} :
    (empty.registerAll signatures).contains name = true ↔
      named signatures (Text.lower name) ≠ [] := by
  rw [contains, Dictionary.contains_iff, mem_names_registerAll]

theorem signatures_registerAll (registered : List Signature) (name : String) :
    (empty.registerAll registered).signatures name = named registered (Text.lower name) := by
  rw [signatures, get?_registerAll, getD_found]

/-! ## Functions that run in turn -/

section Runs

variable (setting : Setting) (arguments : List Json)

/-- Functions run one after the other, each once, from a source to another, and all fail. -/
inductive FailInTurn :
    List Signature → Source → List ResolutionError → Source → Prop
  /-- No function runs. -/
  | nil {source : Source} : FailInTurn [] source [] source
  /-- The first function fails, and then the others do. -/
  | cons {signature : Signature} {others : List Signature} {source middle finish : Source}
      {failure : ResolutionError} {failures : List ResolutionError} :
      signature.run setting arguments source = (.error failure, middle) →
      FailInTurn others middle failures finish →
      FailInTurn (signature :: others) source (failure :: failures) finish

/-- What a call under a name comes to when some functions have the name: the result, and what is
left of the source. -/
inductive Answers (name : String) (signatures : List Signature) (source : Source) :
    Except ResolutionError Json → Source → Prop
  /-- No function has the name, and nothing is drawn. -/
  | unknown : signatures = [] → Answers name signatures source (.error (.unknown name)) source
  /-- Functions have the name, but none takes so many arguments, and nothing is drawn. -/
  | arity : signatures ≠ [] →
      (signatures.filter fun signature => signature.arity.accepts arguments.length) = [] →
      Answers name signatures source (.error (.arity name arguments.length)) source
  /-- Functions fail, each once, and the next one succeeds; those behind it do not run. -/
  | value {failing later : List Signature} {winner : Signature} {middle finish : Source}
      {failures : List ResolutionError} {value : Json} :
      (signatures.filter fun signature => signature.arity.accepts arguments.length) =
        failing ++ winner :: later →
      FailInTurn setting arguments failing source failures middle →
      winner.run setting arguments middle = (.ok value, finish) →
      Answers name signatures source (.ok value) finish
  /-- All functions that take so many arguments fail, each once; the last failure stays. -/
  | failure {failures : List ResolutionError} {last : ResolutionError} {finish : Source} :
      FailInTurn setting arguments
        (signatures.filter fun signature => signature.arity.accepts arguments.length) source
        (failures ++ [last]) finish →
      Answers name signatures source (.error last) finish

variable {setting arguments}

/-- There is a failure for each function. -/
theorem FailInTurn.length_eq {failing : List Signature} {source finish : Source}
    {failures : List ResolutionError}
    (h : FailInTurn setting arguments failing source failures finish) :
    failures.length = failing.length := by
  induction h with
  | nil => rfl
  | cons _ _ ih => exact congrArg Nat.succ ih

/-- Functions that fail are passed over. -/
theorem FailInTurn.firstSuccess_append {failing : List Signature} {source middle : Source}
    {failures : List ResolutionError}
    (h : FailInTurn setting arguments failing source failures middle) (others : List Signature)
    (before : ResolutionError) :
    firstSuccess setting arguments (failing ++ others) before source =
      firstSuccess setting arguments others (failures.getLastD before) middle := by
  induction h generalizing before with
  | nil => rfl
  | cons hrun _ ih =>
    rw [List.cons_append, firstSuccess]
    simp only [hrun]
    rw [ih, List.getLastD_cons]

variable (setting arguments) in
/-- Either functions fail up to one that succeeds, or all of them fail. -/
theorem exists_failInTurn (accepted : List Signature) (source : Source) :
    (∃ failing winner later failures middle value finish,
      accepted = failing ++ winner :: later ∧
        FailInTurn setting arguments failing source failures middle ∧
          winner.run setting arguments middle = (.ok value, finish)) ∨
      ∃ failures finish, FailInTurn setting arguments accepted source failures finish := by
  induction accepted generalizing source with
  | nil => exact Or.inr ⟨[], source, .nil⟩
  | cons signature others ih =>
    rcases hrun : signature.run setting arguments source with ⟨result, middle⟩
    cases result with
    | ok value =>
      exact Or.inl ⟨[], signature, others, [], source, value, middle, rfl, .nil, hrun⟩
    | error failure =>
      rcases ih middle with ⟨failing, winner, later, failures, last, value, finish, rfl, hfail,
        hwin⟩ | ⟨failures, finish, hfail⟩
      · exact Or.inl ⟨signature :: failing, winner, later, failure :: failures, last, value, finish,
          rfl, .cons hrun hfail, hwin⟩
      · exact Or.inr ⟨failure :: failures, finish, .cons hrun hfail⟩

variable (setting arguments) in
/-- A call comes to something. -/
theorem exists_answers (name : String) (signatures : List Signature) (source : Source) :
    ∃ result finish, Answers setting arguments name signatures source result finish := by
  by_cases hnone : signatures = []
  · exact ⟨_, _, .unknown hnone⟩
  rcases exists_failInTurn setting arguments
    (signatures.filter fun signature => signature.arity.accepts arguments.length) source with
    ⟨failing, winner, later, failures, middle, value, finish, haccepted, hfail, hwin⟩ |
      ⟨failures, finish, hfail⟩
  · exact ⟨_, _, .value haccepted hfail hwin⟩
  · rcases List.eq_nil_or_concat failures with rfl | ⟨initial, last, rfl⟩
    · generalize haccepted : signatures.filter _ = accepted at hfail
      cases hfail
      exact ⟨_, _, .arity hnone haccepted⟩
    · rw [List.concat_eq_append] at hfail
      exact ⟨_, _, .failure hfail⟩

/-- Only what the answer says comes of a call. -/
theorem Answers.call_eq {registered : List Signature} {name : String} {source finish : Source}
    {result : Except ResolutionError Json}
    (h : Answers setting arguments name (named registered (Text.lower name)) source result
      finish) :
    (empty.registerAll registered).call setting name arguments source = (result, finish) := by
  have hsome : (named registered (Text.lower name)).filter (fun signature =>
      signature.arity.accepts arguments.length) ≠ [] → named registered (Text.lower name) ≠ [] :=
    mt fun hnone => by rw [hnone, List.filter_nil]
  rw [call, get?_registerAll]
  cases h with
  | unknown hnone =>
    rw [if_pos hnone]
    rfl
  | arity hsome haccepted =>
    rw [if_neg hsome]
    simp only [haccepted]
    rfl
  | value haccepted hfail hwin =>
    rw [if_neg (hsome (by rw [haccepted]; simp))]
    simp only [haccepted, hfail.firstSuccess_append, firstSuccess, hwin]
  | failure hfail =>
    have hlength := hfail.length_eq
    rw [List.length_append, List.length_singleton] at hlength
    rw [if_neg (hsome (List.ne_nil_of_length_pos (by omega)))]
    have hall := hfail.firstSuccess_append [] (.arity name arguments.length)
    rw [List.append_nil] at hall
    refine hall.trans ?_
    rw [List.getLastD_eq_getLast?, List.getLast?_concat, Option.getD_some]
    rfl

/-- **A call answers as the history says**, and in no other way. -/
theorem call_registerAll {registered : List Signature} {name : String} {source finish : Source}
    {result : Except ResolutionError Json} :
    (empty.registerAll registered).call setting name arguments source = (result, finish) ↔
      Answers setting arguments name (named registered (Text.lower name)) source result finish := by
  refine ⟨fun hcall => ?_, Answers.call_eq⟩
  obtain ⟨other, rest, hanswers⟩ :=
    exists_answers setting arguments name (named registered (Text.lower name)) source
  obtain ⟨rfl, rfl⟩ := Prod.mk.inj (hanswers.call_eq.symm.trans hcall)
  exact hanswers

end Runs

/-! ## The catalogue -/

theorem mem_entries_registerAll {registered found : List Signature} {key : String} :
    (key, found) ∈ (empty.registerAll registered).entries ↔
      named registered key ≠ [] ∧ found = named registered key := by
  rw [← Dictionary.get?_eq_some_iff (nodup_names_registerAll registered), get?_registerAll]
  split
  · rename_i hnone
    exact iff_of_false nofun fun h => h.1 hnone
  · rename_i hsome
    rw [Option.some.injEq, eq_comm, and_iff_right hsome]

/-- The names of the catalogue ascend, each once. -/
theorem pairwise_lt_catalogue (registered : List Signature) :
    ((empty.registerAll registered).catalogue.map Prod.fst).Pairwise (· < ·) := by
  refine pairwise_lt_map_mergeSort Prod.fst ?_
  rw [List.map_map]
  exact nodup_names_registerAll registered

/-- The catalogue lists each name that has functions, with their arities. -/
theorem mem_catalogue_iff {registered : List Signature} {key : String} {arities : List Arity} :
    (key, arities) ∈ (empty.registerAll registered).catalogue ↔
      named registered key ≠ [] ∧ arities = (named registered key).map Signature.arity := by
  rw [catalogue, List.mem_mergeSort, List.mem_map]
  constructor
  · rintro ⟨⟨name, found⟩, hmem, heq⟩
    obtain ⟨rfl, rfl⟩ := Prod.mk.inj heq
    obtain ⟨hsome, rfl⟩ := mem_entries_registerAll.1 hmem
    exact ⟨hsome, rfl⟩
  · rintro ⟨hsome, rfl⟩
    exact ⟨(key, named registered key), mem_entries_registerAll.2 ⟨hsome, rfl⟩, rfl⟩

/-! ## All answers -/

/-- **What a registry answers after any registrations.** A call under a name runs the functions of
that name which take so many arguments, in the order of registration and each once, until one
succeeds, and has the value of that one; when all fail it has the last failure, when none takes so
many arguments the failure for their number, and when there is no function of the name the failure
for the name, and then nothing is drawn. The name has functions, and these are its functions, in
whatever case it is written. The catalogue lists the names in small letters, each once and in
strictly ascending order, with the arities of the functions in the order of registration.

**Proof sketch.** By induction on the registrations a name holds those functions that were
registered under it, in order. A call tries the ones that take so many arguments in this order; what
it answers is determined, and some answer there is. -/
theorem registered_answers (registered : List Signature) :
    (∀ setting arguments name source result finish,
      (empty.registerAll registered).call setting name arguments source = (result, finish) ↔
        Answers setting arguments name
          (registered.filter fun signature => Text.lower signature.name = Text.lower name) source
          result finish) ∧
      (∀ name, (empty.registerAll registered).contains name = true ↔
        ∃ signature ∈ registered, Text.lower signature.name = Text.lower name) ∧
      (∀ name, (empty.registerAll registered).signatures name =
        registered.filter fun signature => Text.lower signature.name = Text.lower name) ∧
      ((empty.registerAll registered).catalogue.map Prod.fst).Pairwise (· < ·) ∧
      ∀ key arities, (key, arities) ∈ (empty.registerAll registered).catalogue ↔
        (∃ signature ∈ registered, Text.lower signature.name = key) ∧
          arities = (registered.filter fun signature => Text.lower signature.name = key).map
            Signature.arity := by
  have hnamed : ∀ key, named registered key ≠ [] ↔
      ∃ signature ∈ registered, Text.lower signature.name = key := by
    intro key
    simp [named]
  refine ⟨fun setting arguments name source result finish => call_registerAll, fun name => ?_,
    signatures_registerAll registered, pairwise_lt_catalogue registered, fun key arities => ?_⟩
  · rw [contains_registerAll, hnamed]
  · rw [mem_catalogue_iff, hnamed, named]

end Specimen.Registry
