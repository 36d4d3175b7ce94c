import Specimen.Generation.Setup
import Specimen.Proofs.Generation.Run
import Specimen.Proofs.Placeholder.Dispatch
import Specimen.Proofs.Text.Tokens

set_option autoImplicit false

/-!
# Templates without the time

Three placeholders look at the time at which a run takes place. A template whose texts have none of
them, whatever comes out of their patterns, is generated alike at all times.

## Main definitions

* `Specimen.Builtin.clockNames` — the placeholders that look at the time.
* `Specimen.Builtin.IgnoresTime` — a function that does the same at all times.
* `Specimen.Json.IsTimeless` — a text whose tokens do not name them.
* `Specimen.Engine.atTime` — the engine at another time.

## Main results

* `Specimen.Builtin.ignoresTime_of_mem` — other built-in functions do the same at all times.
* `Specimen.Engine.generate_atTime` — a template without the time has the same value at all times.
-/

namespace Specimen

/-- The setting at another time. -/
def Setting.atTime (setting : Setting) (now : Int) : Setting := { setting with now := now }

/-! ## Built-in functions -/

namespace Builtin

/-- The names, in small letters, of the placeholders that look at the time. -/
def clockNames : List String := ["date", "datetime", "now"]

/-- The function does the same at all times. -/
def IgnoresTime (signature : Signature) : Prop :=
  ∀ (setting : Setting) (now : Int), signature.run (setting.atTime now) = signature.run setting

/-- **All other built-in functions do the same at all times.** They look at the locale at most. -/
theorem ignoresTime_of_mem {signature : Signature} (h : signature ∈ signatures)
    (hname : signature.name ∉ clockNames) : IgnoresTime signature := by
  revert signature
  simp only [signatures, List.forall_mem_append, and_assoc]
  refine ⟨?_, ?_, ?_, ?_, ?_, ?_, ?_, ?_, ?_, ?_⟩
  case refine_4 =>
    simp only [timeSignatures, List.forall_mem_cons, List.not_mem_nil, false_imp_iff, implies_true,
      and_true]
    and_intros
    all_goals first
      | exact fun hname => absurd (by decide) hname
      | exact fun _ _ _ => rfl
  all_goals
    simp only [numberSignatures, textSignatures, rangeSignatures, fillerSignatures,
      peopleSignatures, transformSignatures, catalogueSignatures, phoneSignatures,
      List.forall_mem_cons, List.not_mem_nil, false_imp_iff, implies_true, and_true]
    and_intros
    all_goals exact fun _ _ _ => rfl

end Builtin

/-! ## The registry -/

namespace Registry

/-- Every function of a name is one of those that were registered, and has the name in small
letters. -/
theorem mem_of_registerAll {signatures found : List Signature} {key : String}
    (h : (empty.registerAll signatures).entries.get? key = some found) :
    ∀ signature ∈ found, signature ∈ signatures ∧ Text.lower signature.name = key := by
  rw [get?_registerAll] at h
  split at h
  · cases h
  · obtain rfl := Option.some.inj h
    intro signature hmem
    exact (List.mem_filter.1 hmem).imp_right of_decide_eq_true

/-- Functions that do the same at all times give the same values. -/
theorem firstSuccess_atTime {signatures : List Signature}
    (h : ∀ signature ∈ signatures, Builtin.IgnoresTime signature) (setting : Setting) (now : Int)
    (arguments : List Json) (failure : ResolutionError) :
    firstSuccess (setting.atTime now) arguments signatures failure =
      firstSuccess setting arguments signatures failure := by
  induction signatures generalizing failure with
  | nil => rfl
  | cons signature others ih =>
    obtain ⟨hfirst, hothers⟩ := List.forall_mem_cons.1 h
    funext source
    rw [firstSuccess, firstSuccess, hfirst setting now]
    simp only [ih hothers]

/-- **Names that do not stand for the time** mean the same at all times. -/
theorem call_atTime {name : String} (h : Text.lower name ∉ Builtin.clockNames) (setting : Setting)
    (now : Int) (arguments : List Json) :
    Registry.default.call (setting.atTime now) name arguments =
      Registry.default.call setting name arguments := by
  unfold call
  split
  · rfl
  · rename_i found hfound
    refine firstSuccess_atTime (fun signature hmem => ?_) setting now arguments _
    obtain ⟨hmem, hname⟩ := mem_of_registerAll hfound signature (List.mem_of_mem_filter hmem)
    have hsmall : ∀ clock ∈ Builtin.clockNames, Text.lower clock = clock := by decide
    refine Builtin.ignoresTime_of_mem hmem fun hclock => h ?_
    rwa [← hname, hsmall _ hclock]

end Registry

/-! ## Engines and templates -/

/-- A text whose tokens, whatever comes out of its patterns, do not name a placeholder that looks at
the time. -/
def Json.IsTimeless : Json → Prop
  | .str text => ∀ (source : Source) (token : Token),
      Segment.token token ∈ segments ((Pattern.expand text.toList).run source).1 →
        Text.lower (String.ofList token.name) ∉ Builtin.clockNames
  | _ => True

namespace Engine

/-- The engine at another time. -/
def atTime (engine : Engine) (now : Int) : Engine :=
  { engine with setting := engine.setting.atTime now }

variable {engine : Engine} (hregistry : engine.registry = Registry.default)

include hregistry

theorem resolveToken_atTime {token : Token}
    (h : Text.lower (String.ofList token.name) ∉ Builtin.clockNames) (now : Int)
    (references : References) :
    (engine.atTime now).resolveToken references token = engine.resolveToken references token := by
  have hcall := fun arguments => Registry.call_atTime h engine.setting now arguments
  rw [← hregistry] at hcall
  have hdispatch : ∀ arguments, (engine.atTime now).dispatch (String.ofList token.name) arguments =
      engine.dispatch (String.ofList token.name) arguments := by
    intro arguments
    funext source
    simp only [dispatch, atTime, hcall]
    rfl
  simp only [resolveToken, lookUp, hdispatch]
  rfl

/-- **A template without the time** is generated alike at all times.

**Proof sketch.** A text means what its tokens mean, and the tokens are calls of functions that do
not look at the time. -/
theorem generateIn_atTime {template : Json} (h : template.Everywhere Json.IsTimeless) (now : Int) :
    (engine.atTime now).generateIn template = engine.generateIn template := by
  refine generateIn_congr (fun text htext => ?_) h
  funext scope progress
  have hresolve := resolve_eq_of_resolveToken fun token hmem =>
    resolveToken_atTime hregistry (htext progress.source token hmem) now
      (scope.find? progress.ledger)
  exact ((engine.atTime now).run_produceText text scope progress).trans
    (hresolve ▸ (engine.run_produceText text scope progress).symm)

/-- So is its value, from every source. -/
theorem generate_atTime {template : Json} (h : template.Everywhere Json.IsTimeless) (now : Int) :
    (engine.atTime now).generate template = engine.generate template := by
  unfold generate
  rw [generateIn_atTime hregistry h]

end Engine

end Specimen
