import Specimen.Generation.Setup
import Specimen.Proofs.Generation.Agreement

set_option autoImplicit false

/-!
# Templates that refer locally

A reference with a point looks into the ledger of the run; a plain name looks into the scope, which
knows the values that were generated earlier at the place and around it. A template whose tokens are
plain names is therefore generated alike whatever values the ledger holds: what one branch or item
has left there is invisible in the next.

## Main definitions

* `Specimen.Json.RefersLocally` — a text without patterns whose tokens have no points.

## Main results

* `Specimen.Engine.respects_agree` — generation does not look at the values of the ledger.
* `Specimen.Engine.generateIn_ignores_values` — the same for two runs with different values.
-/

namespace Specimen

/-- A character outside tokens, or a token whose name has no point. -/
def Segment.IsLocal : Segment → Prop
  | .plain _ => True
  | .token found => '.' ∉ found.name

instance : DecidablePred Segment.IsLocal
  | .plain _ => isTrue trivial
  | .token found => inferInstanceAs (Decidable ('.' ∉ found.name))

/-- A text that has no slash and no token with a point in its name. -/
def Json.RefersLocally : Json → Prop
  | .str text => '/' ∉ text.toList ∧ ∀ segment ∈ segments text.toList, segment.IsLocal
  | _ => True

instance : DecidablePred Json.RefersLocally
  | .str text => inferInstanceAs (Decidable ('/' ∉ text.toList ∧
      ∀ segment ∈ segments text.toList, segment.IsLocal))
  | .null | .bool _ | .num _ | .arr _ | .obj _ => isTrue trivial

namespace Engine

variable (engine : Engine)

/-- A text that refers locally looks into the scope only.

**Proof sketch.** Without slashes the text stays what it is until its tokens are looked up, and none
of them is looked up in the ledger. -/
theorem parallel_produceText_local {text : String} (h : Json.RefersLocally (.str text))
    {counters values : String → Prop} (scope : Scope) :
    (engine.produceText text scope).Parallel (Progress.Agree counters values) := by
  obtain ⟨hslash, hlocal⟩ : '/' ∉ text.toList ∧
    ∀ segment ∈ segments text.toList, segment.IsLocal := h
  refine engine.parallel_produceText fun first second _ source token htoken => ?_
  rw [Pattern.run_expand_of_count_le (Pattern.count_slash_le hslash) source] at htoken
  have hpoint : '.' ∉ (String.ofList token.name).toList := by
    rw [String.toList_ofList]
    exact hlocal _ htoken
  rw [Scope.find?, Scope.find?, if_neg hpoint, if_neg hpoint]

/-- **Generation does not look at the values of the ledger** when the texts of a template refer
locally: all the run depends on are its source and its counters. -/
theorem respects_agree : engine.Respects
    (fun _ step => step.Parallel (Progress.Agree (fun _ => True) fun _ => False))
    fun _ template => template.Everywhere Json.RefersLocally where
  sequential := Gen.sequential_parallel _
  draw _ := Gen.parallel_draw
  item h hitem := (Json.everywhere_arr.1 h).2 _ hitem
  part h hmember hpart := ((Json.everywhere_obj.1 h).2 _ hmember).part (fun _ _ _ h => h) hpart
  text h := engine.parallel_produceText_local h.top _
  record _ _ := Gen.parallel_record _
  step _ _ _ := Gen.parallel_advance trivial

/-- **Values of the ledger do not show** in what a template generates whose texts have no slashes
and no tokens with points in their names: from the same source and the same counters, in the same
scope, two runs give the same value and leave the same source and the same counters, whatever values
their ledgers hold.

**Proof sketch.** Two ledgers with the same counters agree in all that such a template looks at, and
steps that look at no more keep them in agreement. -/
theorem generateIn_ignores_values {template : Json} (h : template.Everywhere Json.RefersLocally)
    (scope : Scope) {first second : Progress} (hsource : first.source = second.source)
    (hcounters : ∀ key, first.ledger.counter? key = second.ledger.counter? key) :
    ((engine.generateIn template scope).run first).1 =
        ((engine.generateIn template scope).run second).1 ∧
      ((engine.generateIn template scope).run first).2.source =
        ((engine.generateIn template scope).run second).2.source ∧
      ∀ key, ((engine.generateIn template scope).run first).2.ledger.counter? key =
        ((engine.generateIn template scope).run second).2.ledger.counter? key := by
  have hagree : first.Agree (fun _ => True) (fun _ => False) second :=
    ⟨hsource, fun key _ => hcounters key, fun _ => False.elim⟩
  have hparallel : (engine.generateIn template scope).Parallel
      (Progress.Agree (fun _ => True) fun _ => False) := engine.respects_agree.generateIn h
  obtain ⟨hvalue, hreached⟩ := hparallel first second hagree
  exact ⟨hvalue, hreached.source, fun key => hreached.counter key trivial⟩

/-- Tokens alone and in a text, beside a counter, and values in one of the ledgers. -/
theorem generateIn_ignores_values_tokens :
    (Json.obj [("a|+1", .num (.int 1)), ("b", .arr [.str " @a ", .str "@a, @b(1.5)."])]).Everywhere
        Json.RefersLocally ∧
    (((standard ⟨.enUS, 0⟩).generateIn (.obj [("a|+1", .num (.int 1)),
        ("b", .arr [.str " @a ", .str "@a, @b(1.5)."])]) Scope.root).run
          ⟨default, Ledger.empty⟩).1 =
      (((standard ⟨.enUS, 0⟩).generateIn (.obj [("a|+1", .num (.int 1)),
        ("b", .arr [.str " @a ", .str "@a, @b(1.5)."])]) Scope.root).run
          ⟨default, ⟨[], [("a", .null), ("b.a", .null)]⟩⟩).1 := by
  have hlocal : (Json.obj [("a|+1", .num (.int 1)),
      ("b", .arr [.str " @a ", .str "@a, @b(1.5)."])]).Everywhere Json.RefersLocally := by decide
  have hruns := @generateIn_ignores_values (standard ⟨.enUS, 0⟩) _ hlocal Scope.root
    ⟨default, Ledger.empty⟩ ⟨default, ⟨[], [("a", .null), ("b.a", .null)]⟩⟩ rfl fun _ => rfl
  exact ⟨hlocal, hruns.1⟩

end Engine

end Specimen
