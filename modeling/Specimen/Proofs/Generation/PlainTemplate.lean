import Specimen.Generation.Setup
import Specimen.Proofs.Text.Plain

set_option autoImplicit false

/-!
# Templates without directives

A template whose keys carry no rules and whose texts have neither patterns nor tokens is generated
as it is, at whatever place and by whatever engine. All that such a run leaves behind are the values
that it has generated, under their paths.

## Main definitions

* `Specimen.Json.IsPlain` — texts without directives, and keys without rules.
* `Specimen.Json.HasDistinctKeys` — the keys of an object are different, as they are in every object
  that is read.
* `Specimen.Gen.OnlyRecords` — a step that gives a fixed result and at most records values.

## Main results

* `Specimen.Engine.generateIn_plain` — a template without directives is generated as it is.
-/

namespace Specimen

/-! ## Plain values -/

namespace Json

/-- A text that has at most one slash and no at sign before a letter, or an object whose keys carry
no rules. -/
def IsPlain : Json → Prop
  | .str text => text.toList.count '/' ≤ 1 ∧ Token.IsFree text.toList
  | .obj members => ∀ member ∈ members, Key.split? member.1 = none
  | _ => True

instance : DecidablePred IsPlain
  | .str text => inferInstanceAs (Decidable (text.toList.count '/' ≤ 1 ∧ Token.IsFree text.toList))
  | .obj members => inferInstanceAs (Decidable (∀ member ∈ members, Key.split? member.1 = none))
  | .null | .bool _ | .num _ | .arr _ => isTrue trivial

/-- An object has each of its keys once. -/
def HasDistinctKeys : Json → Prop
  | .obj members => (Dictionary.names members).Nodup
  | _ => True

instance : DecidablePred HasDistinctKeys
  | .obj members => inferInstanceAs (Decidable (Dictionary.names members).Nodup)
  | .null | .bool _ | .num _ | .str _ | .arr _ => isTrue trivial

end Json

/-! ## Steps that only record -/

/-- A step that gives a fixed result, takes no random word and changes no counter. -/
def Gen.OnlyRecords {α : Type} (step : Gen α) (result : α) : Prop :=
  ∀ progress, ∃ values, step.run progress =
    (result, ⟨progress.source, ⟨progress.ledger.counters, values⟩⟩)

namespace Engine

variable (engine : Engine)

/-- Items that only record make an array that only records. -/
theorem onlyRecords_produceItemsFrom {items : List Json} {scope : Scope}
    (h : ∀ item ∈ items, (engine.generateIn item scope).OnlyRecords item) :
    (produceItemsFrom (items.map engine.generateIn) scope).OnlyRecords items := by
  induction items with
  | nil => exact fun progress => ⟨progress.ledger.values, rfl⟩
  | cons item items ih =>
    intro progress
    obtain ⟨first, hfirst⟩ := h item (List.mem_cons_self ..) progress
    obtain ⟨rest, hrest⟩ := ih (fun other ho => h other (List.mem_cons_of_mem _ ho))
      ⟨progress.source, ⟨progress.ledger.counters, first⟩⟩
    refine ⟨rest, ?_⟩
    rw [List.map_cons, run_produceItemsFrom_cons, hfirst, hrest]

/-- Members without rules that only record add themselves to what is there.

**Proof sketch.** By induction on the members. Each name is new, so its value goes to the end, and
the names that follow are still new. -/
theorem onlyRecords_produceEntriesFrom {members : Dictionary Json} (made : Dictionary Json)
    (scope : Scope) (hrule : ∀ member ∈ members, Key.split? member.1 = none)
    (hvalue : ∀ member ∈ members, ∀ inner, (engine.generateIn member.2 inner).OnlyRecords member.2)
    (hnodup : (made ++ members).names.Nodup) :
    (produceEntriesFrom (members.map engine.entry) made scope).OnlyRecords (made ++ members) := by
  induction members generalizing made scope with
  | nil => exact fun progress => ⟨progress.ledger.values, by rw [List.append_nil]; rfl⟩
  | cons member members ih =>
    intro progress
    have hsplit := hrule member (List.mem_cons_self ..)
    have hname : Key.name (engine.entry member).key = member.1 := Key.name_eq_self hsplit
    have hnew : member.1 ∉ made.names := by
      intro hmem
      rw [Dictionary.names, List.map_append] at hnodup
      exact (List.nodup_append.1 hnodup).2.2 _ hmem _ (List.mem_cons_self ..) rfl
    have hset : made.set member.1 member.2 = made ++ [member] := Dictionary.set_eq_append hnew _
    obtain ⟨first, hfirst⟩ :=
      hvalue member (List.mem_cons_self ..) (scope.child member.1) progress
    rw [List.append_cons] at hnodup ⊢
    obtain ⟨rest, hrest⟩ := ih (made ++ [member]) (scope.record member.1 member.2)
      (fun other ho => hrule other (List.mem_cons_of_mem _ ho))
      (fun other ho => hvalue other (List.mem_cons_of_mem _ ho)) hnodup
      ⟨progress.source,
        Ledger.record ⟨progress.ledger.counters, first⟩ (scope.key member.1) member.2⟩
    refine ⟨rest, ?_⟩
    rw [List.map_cons, run_produceEntriesFrom_cons, engine.produceEntry_of_split? hsplit, hname,
      hfirst, hset]
    exact hrest

/-- **A template without directives is generated as it is**: its values and their order come back,
the source does not move on, and no counter is made or changed.

**Proof sketch.** By induction on the template. A text is copied by the scanner of patterns and by
that of tokens; the items of an array, and the members of an object without rules, are generated
where they stand. -/
theorem generateIn_plain {template : Json} (hplain : template.Everywhere Json.IsPlain)
    (hkeys : template.Everywhere Json.HasDistinctKeys) (scope : Scope) (progress : Progress) :
    ∃ values, (engine.generateIn template scope).run progress =
      (template, ⟨progress.source, ⟨progress.ledger.counters, values⟩⟩) := by
  induction template using Json.values_induction generalizing scope progress with
  | null => exact ⟨progress.ledger.values, rfl⟩
  | bool => exact ⟨progress.ledger.values, rfl⟩
  | num => exact ⟨progress.ledger.values, rfl⟩
  | str text =>
    obtain ⟨hslash, hfree⟩ : text.toList.count '/' ≤ 1 ∧ Token.IsFree text.toList := hplain.top
    exact ⟨progress.ledger.values, engine.run_produceText_plain hslash hfree scope progress⟩
  | arr items ih =>
    have hitems := (Json.everywhere_arr.1 hplain).2
    have hdistinct := (Json.everywhere_arr.1 hkeys).2
    obtain ⟨values, hrun⟩ := engine.onlyRecords_produceItemsFrom
      (fun item hi => ih item hi (hitems item hi) (hdistinct item hi) scope) progress
    refine ⟨values, ?_⟩
    rw [generateIn_arr, produceItems, run_map, hrun]
  | obj members ih =>
    obtain ⟨hrules, hmembers⟩ := Json.everywhere_obj.1 hplain
    obtain ⟨hnodup, hdistinct⟩ := Json.everywhere_obj.1 hkeys
    obtain ⟨values, hrun⟩ := engine.onlyRecords_produceEntriesFrom [] scope hrules
      (fun member hm inner => ih member hm (hmembers member hm) (hdistinct member hm) inner)
      hnodup progress
    refine ⟨values, ?_⟩
    rw [generateIn_obj, produceEntries, run_map, hrun]
    rfl

/-- A lone slash, an at sign before a digit and a bar with nothing behind it are not directives. -/
theorem generateIn_plain_signs :
    (Json.obj [("a|", .str " 1/2 "), ("|b", .arr [.str "x@9 @", .obj []])]).Everywhere
        Json.IsPlain ∧
      (Json.obj [("a|", .str " 1/2 "), ("|b", .arr [.str "x@9 @", .obj []])]).Everywhere
        Json.HasDistinctKeys ∧
      ∃ values, ((standard ⟨.enUS, 0⟩).generateIn
          (.obj [("a|", .str " 1/2 "), ("|b", .arr [.str "x@9 @", .obj []])]) Scope.root).run
            ⟨default, Ledger.empty⟩ =
        (.obj [("a|", .str " 1/2 "), ("|b", .arr [.str "x@9 @", .obj []])],
          ⟨default, ⟨[], values⟩⟩) := by
  have hplain : (Json.obj [("a|", .str " 1/2 "), ("|b", .arr [.str "x@9 @", .obj []])]).Everywhere
      Json.IsPlain := by decide
  have hkeys : (Json.obj [("a|", .str " 1/2 "), ("|b", .arr [.str "x@9 @", .obj []])]).Everywhere
      Json.HasDistinctKeys := by decide
  exact ⟨hplain, hkeys, generateIn_plain _ hplain hkeys Scope.root ⟨default, Ledger.empty⟩⟩

end Engine

end Specimen
