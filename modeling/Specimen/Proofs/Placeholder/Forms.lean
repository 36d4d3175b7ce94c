import Mathlib.Data.List.Induction
import Specimen.Placeholder.Extension
import Specimen.Proofs.Sorted

set_option autoImplicit false

/-!
# Extensions as one map

Extensions are kept in two dictionaries, one for each sort of form. To everyone who asks they are
one map from names in small letters to the forms that are held there. A registration changes one
form of one name, a removal takes both forms of a name, and whatever is asked is answered from the
forms of the name alone.

## Main definitions

* `Specimen.Forms` — the forms of one name.
* `Specimen.Extensions.Change`, `Specimen.Extensions.after` — what is done to extensions, and what
  comes of it.
* `Specimen.Extensions.held` — the map after the same changes.

## Main results

* `Specimen.Extensions.represents_after` — both dictionaries are the map.
* `Specimen.Extensions.Represents.mem_names_iff`, `Specimen.Extensions.Represents.pairwise_lt_names`
  — the names.
* `Specimen.Extensions.Represents.call_plain`, `Specimen.Extensions.Represents.call_withArguments` —
  the forms that calls use.
* `Specimen.Extensions.after_answers` — all that extensions answer.
-/

namespace Specimen

/-- The forms that one name holds. -/
structure Forms where
  /-- The plain form. -/
  plain : Option PlainForm
  /-- The form with arguments. -/
  withArguments : Option ArgumentForm

/-- No forms. -/
def Forms.none : Forms := ⟨Option.none, Option.none⟩

namespace Extensions

/-! ## Histories -/

/-- What is done to extensions. -/
inductive Change where
  /-- The plain form of a name is set. -/
  | register (name : String) (form : PlainForm)
  /-- The form with arguments of a name is set. -/
  | registerWith (name : String) (form : ArgumentForm)
  /-- A name is taken out. -/
  | unregister (name : String)
  /-- Everything is taken out. -/
  | clear

/-- The extensions after a change. -/
def apply (extensions : Extensions) : Change → Extensions
  | .register name form => extensions.register name form
  | .registerWith name form => extensions.registerWith name form
  | .unregister name => (extensions.unregister name).2
  | .clear => extensions.clear

/-- The extensions after some changes, from none. -/
def after (history : List Change) : Extensions := history.foldl apply empty

/-- What the map has under a name in small letters after a change. -/
def Change.update (forms : String → Forms) (key : String) : Change → Forms
  | .register name form =>
    if Text.lower name = key then { forms key with plain := some form } else forms key
  | .registerWith name form =>
    if Text.lower name = key then { forms key with withArguments := some form } else forms key
  | .unregister name => if Text.lower name = key then Forms.none else forms key
  | .clear => Forms.none

/-- The map after some changes, from the one without forms. -/
def held (history : List Change) : String → Forms :=
  history.foldl (fun forms change key => change.update forms key) fun _ => Forms.none

/-! ## The map and the dictionaries -/

/-- The dictionaries have the forms of the map, each name once. -/
structure Represents (extensions : Extensions) (forms : String → Forms) : Prop where
  /-- The plain forms are those of the map. -/
  plain : ∀ key, extensions.plain.get? key = (forms key).plain
  /-- The forms with arguments are those of the map. -/
  withArguments : ∀ key, extensions.withArguments.get? key = (forms key).withArguments
  /-- No name has two plain forms. -/
  nodup_plain : extensions.plain.names.Nodup
  /-- No name has two forms with arguments. -/
  nodup_withArguments : extensions.withArguments.names.Nodup

/-- A change of the dictionaries is a change of the map. -/
theorem Represents.apply {extensions : Extensions} {forms : String → Forms}
    (h : extensions.Represents forms) (change : Change) :
    (extensions.apply change).Represents fun key => change.update forms key := by
  cases change with
  | register name form =>
    refine ⟨fun key => ?_, fun key => ?_, Dictionary.nodup_names_set h.nodup_plain _ _,
      h.nodup_withArguments⟩
    · refine (Dictionary.get?_set _ _ _ _).trans ?_
      rw [h.plain, Change.update]
      split <;> rfl
    · rw [Change.update]
      split <;> exact h.withArguments key
  | registerWith name form =>
    refine ⟨fun key => ?_, fun key => ?_, h.nodup_plain,
      Dictionary.nodup_names_set h.nodup_withArguments _ _⟩
    · rw [Change.update]
      split <;> exact h.plain key
    · refine (Dictionary.get?_set _ _ _ _).trans ?_
      rw [h.withArguments, Change.update]
      split <;> rfl
  | unregister name =>
    refine ⟨fun key => ?_, fun key => ?_, Dictionary.nodup_names_erase h.nodup_plain _,
      Dictionary.nodup_names_erase h.nodup_withArguments _⟩
    · refine (Dictionary.get?_erase _ _ _).trans ?_
      rw [h.plain, Change.update]
      split <;> rfl
    · refine (Dictionary.get?_erase _ _ _).trans ?_
      rw [h.withArguments, Change.update]
      split <;> rfl
  | clear => exact ⟨fun _ => rfl, fun _ => rfl, List.nodup_nil, List.nodup_nil⟩

/-- **Both dictionaries are one map** after any changes. -/
theorem represents_after (history : List Change) : (after history).Represents (held history) := by
  induction history using List.reverseRecOn with
  | nil => exact ⟨fun _ => rfl, fun _ => rfl, List.nodup_nil, List.nodup_nil⟩
  | append_singleton history change ih =>
    rw [after, held, List.foldl_append, List.foldl_append]
    exact ih.apply change

/-! ## Answers from the map -/

namespace Represents

variable {extensions : Extensions} {forms : String → Forms} (h : extensions.Represents forms)

include h

/-- A name has no form in either dictionary when the map has none for it. -/
theorem eq_none_iff {key : String} :
    forms key = Forms.none ↔
      key ∉ extensions.plain.names ∧ key ∉ extensions.withArguments.names := by
  rw [← Dictionary.get?_eq_none_iff, ← Dictionary.get?_eq_none_iff, h.plain, h.withArguments]
  rcases forms key with ⟨plain, withArguments⟩
  exact Forms.mk.injEq _ _ _ _ ▸ Iff.rfl

theorem contains_iff {name : String} :
    extensions.contains name = true ↔ forms (Text.lower name) ≠ Forms.none := by
  rw [Extensions.contains, Bool.or_eq_true, Dictionary.contains_iff, Dictionary.contains_iff, ne_eq,
    h.eq_none_iff]
  tauto

theorem mem_names_iff {key : String} :
    key ∈ extensions.names ↔ forms key ≠ Forms.none := by
  rw [names, List.mem_mergeSort, List.mem_append, List.mem_filter, ne_eq, h.eq_none_iff,
    Bool.not_eq_true', ← Bool.not_eq_true, Dictionary.contains_iff]
  tauto

/-- The names ascend, each once. -/
theorem pairwise_lt_names : extensions.names.Pairwise (· < ·) := by
  have hnodup : (extensions.plain.names ++ extensions.withArguments.names.filter fun name =>
      !extensions.plain.contains name).Nodup := by
    refine List.nodup_append.2 ⟨h.nodup_plain, h.nodup_withArguments.filter _, ?_⟩
    rintro name hname other hother rfl
    obtain ⟨-, hnew⟩ := List.mem_filter.1 hother
    rw [Dictionary.contains_iff.2 hname] at hnew
    cases hnew
  have hsorted := pairwise_lt_map_mergeSort id (by rwa [List.map_id])
  rwa [List.map_id] at hsorted

variable {name : String} {arguments : List Json}

/-- Without arguments the plain form is used. -/
theorem call_plain {form : PlainForm} (hplain : (forms (Text.lower name)).plain = some form) :
    extensions.call name [] = outcome name form := by
  rw [call, h.plain, h.withArguments, hplain]
  cases (forms (Text.lower name)).withArguments <;> rfl

/-- Where there is no plain form, or there are arguments, the form with arguments is used. -/
theorem call_withArguments {form : ArgumentForm}
    (hform : (forms (Text.lower name)).withArguments = some form)
    (huse : arguments ≠ [] ∨ (forms (Text.lower name)).plain = none) :
    extensions.call name arguments = outcome name (form arguments) := by
  rw [call, h.plain, h.withArguments, hform]
  cases hplain : (forms (Text.lower name)).plain with
  | none => rfl
  | some plain =>
    have hsome : arguments ≠ [] := huse.resolve_right (by rw [hplain]; nofun)
    exact if_neg (mt List.isEmpty_iff.1 hsome)

/-- A plain form alone takes no arguments. -/
theorem call_arity (harguments : arguments ≠ []) {form : PlainForm}
    (hplain : (forms (Text.lower name)).plain = some form)
    (hnone : (forms (Text.lower name)).withArguments = none) :
    extensions.call name arguments = .error (.arity name arguments.length) := by
  rw [call, h.plain, h.withArguments, hplain, hnone]
  exact if_neg (mt List.isEmpty_iff.1 harguments)

/-- A name is unknown when it has no form, and only then: the failure of a form is another one. -/
theorem call_eq_unknown_iff :
    extensions.call name arguments = .error (.unknown name) ↔
      forms (Text.lower name) = Forms.none := by
  have houtcome : ∀ result, outcome name result ≠ .error (.unknown name) := by
    intro result
    cases result <;> nofun
  constructor
  · intro hcall
    rw [call, h.plain, h.withArguments] at hcall
    rcases hforms : forms (Text.lower name) with ⟨_ | plain, _ | form⟩ <;> rw [hforms] at hcall
    · rfl
    · exact absurd hcall (houtcome _)
    · dsimp only at hcall
      split at hcall
      · exact absurd hcall (houtcome _)
      · cases hcall
    · dsimp only at hcall
      split at hcall <;> exact absurd hcall (houtcome _)
  · intro hnone
    rw [call, h.plain, h.withArguments, hnone]
    rfl

end Represents

/-- A call depends on the forms of its name alone. -/
theorem Represents.call_congr {first second : Extensions} {forms others : String → Forms}
    (hfirst : first.Represents forms) (hsecond : second.Represents others) {name : String}
    (h : forms (Text.lower name) = others (Text.lower name)) (arguments : List Json) :
    first.call name arguments = second.call name arguments := by
  simp only [call, hfirst.plain, hfirst.withArguments, hsecond.plain, hsecond.withArguments, h]

section Removal

variable {extensions : Extensions} {forms : String → Forms} (h : extensions.Represents forms)
  {name : String}

include h

/-- A removal takes both forms of a name. -/
theorem Represents.unregister (name : String) :
    (extensions.unregister name).2.Represents fun key =>
      if Text.lower name = key then Forms.none else forms key :=
  h.apply (.unregister name)

/-- A name that is taken out has no form. -/
theorem Represents.contains_unregister_self :
    (extensions.unregister name).2.contains name = false := by
  rw [← Bool.not_eq_true, (h.unregister name).contains_iff, if_pos rfl]
  exact not_not_intro rfl

/-- The names stay but for the one that is taken out. -/
theorem Represents.mem_names_unregister_iff {key : String} :
    key ∈ (extensions.unregister name).2.names ↔
      key ∈ extensions.names ∧ key ≠ Text.lower name := by
  rw [(h.unregister name).mem_names_iff, h.mem_names_iff]
  split
  · rename_i hkey
    exact iff_of_false (not_not_intro rfl) fun hmem => hmem.2 hkey.symm
  · rename_i hkey
    exact (and_iff_left (Ne.symm hkey)).symm

section Others

variable {other : String} (hne : Text.lower other ≠ Text.lower name)

include hne

theorem Represents.contains_unregister :
    (extensions.unregister name).2.contains other = extensions.contains other := by
  rw [Bool.eq_iff_iff, (h.unregister name).contains_iff, h.contains_iff, if_neg (Ne.symm hne)]

/-- Calls of other names stay as they are. -/
theorem Represents.call_unregister (arguments : List Json) :
    (extensions.unregister name).2.call other arguments = extensions.call other arguments :=
  (h.unregister name).call_congr h (if_neg (Ne.symm hne)) arguments

end Others

end Removal

/-- **What extensions answer after any changes.** The names are the small letters of those that hold
a form, each once and in strictly ascending order, and a name is found in whatever case it is
written. A call without arguments uses the plain form of its name, and the form with arguments where
there is no plain one; a call with arguments uses the form with arguments, and fails for their
number where there is only a plain one. A name is unknown when it holds no form, and only then. A
removal tells whether the name held a form, takes its forms out and changes no answer about another
name.

**Proof sketch.** By induction on the history the two dictionaries together represent what each name
holds. All answers are read off from what a name holds. -/
theorem after_answers (history : List Change) :
    (after history).names.Pairwise (· < ·) ∧
      (∀ key, key ∈ (after history).names ↔ held history key ≠ Forms.none) ∧
      (∀ name, (after history).contains name = true ↔
        Text.lower name ∈ (after history).names) ∧
      (∀ name form, (held history (Text.lower name)).plain = some form →
        (after history).call name [] = outcome name form) ∧
      (∀ name arguments form, (held history (Text.lower name)).withArguments = some form →
        arguments ≠ [] ∨ (held history (Text.lower name)).plain = none →
          (after history).call name arguments = outcome name (form arguments)) ∧
      (∀ name arguments form, arguments ≠ [] →
        (held history (Text.lower name)).plain = some form →
          (held history (Text.lower name)).withArguments = none →
            (after history).call name arguments = .error (.arity name arguments.length)) ∧
      (∀ name arguments, (after history).call name arguments = .error (.unknown name) ↔
        held history (Text.lower name) = Forms.none) ∧
      ∀ name, ((after history).unregister name).1 = (after history).contains name ∧
        ((after history).unregister name).2.contains name = false ∧
        (∀ key, key ∈ ((after history).unregister name).2.names ↔
          key ∈ (after history).names ∧ key ≠ Text.lower name) ∧
        ∀ other, Text.lower other ≠ Text.lower name →
          ((after history).unregister name).2.contains other = (after history).contains other ∧
            ∀ arguments, ((after history).unregister name).2.call other arguments =
              (after history).call other arguments := by
  have h := represents_after history
  refine ⟨h.pairwise_lt_names, fun key => h.mem_names_iff, fun name => ?_,
    fun name form => h.call_plain, fun name arguments form => h.call_withArguments,
    fun name arguments form harguments => h.call_arity harguments,
    fun name arguments => h.call_eq_unknown_iff, fun name => ⟨rfl, h.contains_unregister_self,
      fun key => h.mem_names_unregister_iff,
      fun other hne => ⟨h.contains_unregister hne, h.call_unregister hne⟩⟩⟩
  rw [h.contains_iff, h.mem_names_iff]

/-- A name with both forms, one with a plain form and one with a form with arguments; a further name
has been taken out. -/
theorem after_answers_names : ∃ history : List Change,
    history = [.register "Ab" (.ok (.bool true)), .register "c" (.error "no"),
      .registerWith "aB" fun arguments => .ok (.bool arguments.isEmpty),
      .registerWith "D" fun arguments => .ok (.bool arguments.isEmpty), .register "e" (.ok .null),
      .unregister "E"] ∧
    (after history).call "AB" [] = .ok (.bool true) ∧
    (after history).call "ab" [.null] = .ok (.bool false) ∧
    (after history).call "d" [] = .ok (.bool true) ∧
    (after history).call "C" [.null] = .error (.arity "C" 1) ∧
    (after history).call "e" [] = .error (.unknown "e") ∧
    ((after history).unregister "C").2.call "d" [] = .ok (.bool true) := by
  refine ⟨_, rfl, ?_⟩
  obtain ⟨-, -, -, hplain, harguments, harity, hunknown, hremoval⟩ := after_answers
    [.register "Ab" (.ok (.bool true)), .register "c" (.error "no"),
      .registerWith "aB" fun arguments => .ok (.bool arguments.isEmpty),
      .registerWith "D" fun arguments => .ok (.bool arguments.isEmpty), .register "e" (.ok .null),
      .unregister "E"]
  have hcall := harguments "d" [] _ rfl (Or.inr rfl)
  refine ⟨hplain "AB" _ rfl, harguments "ab" [.null] _ rfl (Or.inl (by simp)), hcall,
    harity "C" [.null] _ (by simp) rfl rfl, (hunknown "e" []).2 rfl, ?_⟩
  exact (((hremoval "C").2.2.2 "d" (by decide)).2 []).trans hcall

end Extensions

end Specimen
