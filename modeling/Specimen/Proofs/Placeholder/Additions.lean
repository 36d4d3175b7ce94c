import Specimen.Generation.Setup
import Specimen.Proofs.Random.Draws
import Specimen.Proofs.Text.Tokens

set_option autoImplicit false

/-!
# Further extensions

An extension is asked last, after earlier values and the functions of the registry. Forms that are
registered under new names therefore change nothing for tokens that have a value already, whatever
else the names mean: they can only give values to tokens that had none.

## Main definitions

* `Specimen.Extensions.Addition` — a form with the name under which it is registered.
* `Specimen.Extensions.IsKeptBy` — other extensions have the same forms under the names there are.
* `Specimen.Engine.ResolvesAll` — all tokens of a text have values.

## Main results

* `Specimen.Extensions.isKeptBy_addAll` — forms under new names keep the ones that are there.
* `Specimen.Engine.resolve_extend` — tokens and texts that have values keep them.
-/

namespace Specimen

/-! ## Extensions and more of them -/

namespace Extensions

/-- A form with the name under which it is registered. -/
inductive Addition where
  /-- A plain form. -/
  | plain (name : String) (form : PlainForm)
  /-- A form with arguments. -/
  | withArguments (name : String) (form : ArgumentForm)

/-- The name under which a form is registered. -/
def Addition.name : Addition → String
  | .plain name _ => name
  | .withArguments name _ => name

/-- The extensions with one more form. -/
def add (extensions : Extensions) : Addition → Extensions
  | .plain name form => extensions.register name form
  | .withArguments name form => extensions.registerWith name form

/-- The extensions with more forms, from left to right. -/
def addAll (extensions : Extensions) (added : List Addition) : Extensions :=
  added.foldl add extensions

/-- Under the names of the first extensions, the second have the same forms. -/
def IsKeptBy (first second : Extensions) : Prop :=
  ∀ name, first.contains name = true →
    second.plain.get? (Text.lower name) = first.plain.get? (Text.lower name) ∧
      second.withArguments.get? (Text.lower name) = first.withArguments.get? (Text.lower name)

/-- What a name means depends on its small letters only. -/
theorem contains_congr (extensions : Extensions) {first second : String}
    (h : Text.lower first = Text.lower second) :
    extensions.contains first = extensions.contains second := by
  rw [contains, contains, h]

/-- A name that has a value has a form. -/
theorem contains_of_call {extensions : Extensions} {name : String} {arguments : List Json}
    {value : Json} (h : extensions.call name arguments = .ok value) :
    extensions.contains name = true := by
  by_contra hnone
  rw [call_of_contains (by simpa using hnone)] at h
  cases h

/-- A form under a new name keeps the forms that are kept already. -/
theorem IsKeptBy.add {first second : Extensions} (h : first.IsKeptBy second) {addition : Addition}
    (hnew : first.contains addition.name = false) : first.IsKeptBy (second.add addition) := by
  intro name hname
  obtain ⟨hplain, harguments⟩ := h name hname
  have hne : Text.lower addition.name ≠ Text.lower name := fun heq => by
    rw [contains_congr first heq, hname] at hnew
    cases hnew
  cases addition with
  | plain other form =>
    refine ⟨?_, harguments⟩
    exact (Dictionary.get?_set _ _ _ _).trans ((if_neg hne).trans hplain)
  | withArguments other form =>
    refine ⟨hplain, ?_⟩
    exact (Dictionary.get?_set _ _ _ _).trans ((if_neg hne).trans harguments)

/-- **Forms under new names keep the ones that are there**, one after the other. -/
theorem isKeptBy_addAll {extensions : Extensions} {added : List Addition}
    (hnew : ∀ addition ∈ added, extensions.contains addition.name = false) :
    extensions.IsKeptBy (extensions.addAll added) := by
  have hloop : ∀ reached, extensions.IsKeptBy reached →
      extensions.IsKeptBy (added.foldl Extensions.add reached) := by
    induction added with
    | nil => exact fun _ h => h
    | cons addition added ih =>
      intro reached h
      exact ih (fun other ho => hnew other (List.mem_cons_of_mem _ ho)) _
        (h.add (hnew addition (List.mem_cons_self ..)))
  exact hloop extensions fun _ _ => ⟨rfl, rfl⟩

section Kept

variable {first second : Extensions} (h : first.IsKeptBy second) {name : String}
  (hname : first.contains name = true)

include h hname

/-- Names do not go. -/
theorem IsKeptBy.contains : second.contains name = true := by
  obtain ⟨hplain, harguments⟩ := h name hname
  rw [Extensions.contains, Dictionary.contains, Dictionary.contains, hplain, harguments]
  exact hname

/-- Calls of names that have forms stay as they are. -/
theorem IsKeptBy.call (arguments : List Json) :
    second.call name arguments = first.call name arguments := by
  obtain ⟨hplain, harguments⟩ := h name hname
  simp only [Extensions.call, hplain, harguments]

end Kept

end Extensions

/-! ## Tokens and texts -/

namespace Engine

/-- All tokens have values, each in the state that the ones before it leave. -/
def ResolvesAll (engine : Engine) (references : References) : List Segment → Source → Prop
  | [], _ => True
  | .plain _ :: rest, source => engine.ResolvesAll references rest source
  | .token token :: rest, source =>
    ∃ value finish, (engine.resolveToken references token).run.run source = (.ok value, finish) ∧
      engine.ResolvesAll references rest finish

/-- Characters outside tokens do not matter. -/
theorem resolvesAll_plain_append {engine : Engine} {references : References} (text : List Char)
    (rest : List Segment) (source : Source) :
    engine.ResolvesAll references (text.map .plain ++ rest) source ↔
      engine.ResolvesAll references rest source := by
  induction text with
  | nil => rfl
  | cons c text ih => exact ih

section Kept

variable {engine : Engine} {more : Extensions} (hkept : engine.extensions.IsKeptBy more)

include hkept

/-- **A name that has a value keeps it.** The registry is the same; where it has failed, or does not
know the name, the value has come from an extension, and that is still there.

**Proof sketch.** By the way the name took. The registry does not change, and an extension that has
answered is one whose name was known, and so it is kept. -/
theorem dispatch_of_isKeptBy {name : String} {arguments : List Json} {source finish : Source}
    {value : Json} (h : (engine.dispatch name arguments).run.run source = (.ok value, finish)) :
    ({ engine with extensions := more }.dispatch name arguments).run.run source =
      (.ok value, finish) := by
  have hcall : ∀ {state : Source}, (engine.extensions.call name arguments, state) =
      ((.ok value, finish) : Except ResolutionError Json × Source) →
      (more.call name arguments, state) =
        ((.ok value, finish) : Except ResolutionError Json × Source) := by
    intro state heq
    rwa [hkept.call (Extensions.contains_of_call (Prod.mk.inj heq).1)]
  change engine.dispatch name arguments source = _ at h
  change { engine with extensions := more }.dispatch name arguments source = _
  unfold dispatch at h ⊢
  by_cases hregistry : engine.registry.contains name = true
  · rw [if_pos hregistry] at h ⊢
    split at h
    · rename_i found reached hfound
      simp only [hfound]
      exact h
    · rename_i failure reached hfailed
      simp only [hfailed]
      by_cases hname : engine.extensions.contains name = true
      · rw [if_pos hname] at h
        rw [if_pos (hkept.contains hname)]
        exact hcall h
      · rw [if_neg hname] at h
        cases h
  · rw [if_neg hregistry] at h ⊢
    exact hcall h

/-- A token that has a value keeps it. -/
theorem resolveToken_of_isKeptBy {references : References} {token : Token} {source finish : Source}
    {value : Json}
    (h : (engine.resolveToken references token).run.run source = (.ok value, finish)) :
    ({ engine with extensions := more }.resolveToken references token).run.run source =
      (.ok value, finish) := by
  unfold resolveToken lookUp at h ⊢
  split at h
  · rename_i found hfound
    simp only [hfound]
    exact h
  · rename_i hfound
    simp only [hfound]
    exact dispatch_of_isKeptBy hkept h

/-- When all tokens have values, what takes the place of the segments is the same, token after
token. -/
theorem run_forEach_of_isKeptBy {references : References} {parts : List Segment} {source : Source}
    (h : engine.ResolvesAll references parts source) :
    (Draw.forEach ({ engine with extensions := more }.resolveSegment references) parts).run source =
      (Draw.forEach (engine.resolveSegment references) parts).run source := by
  induction parts generalizing source with
  | nil => rfl
  | cons segment rest ih =>
    rw [Draw.forEach, Draw.forEach, run_bind, run_bind, run_bind, run_bind]
    cases segment with
    | plain c =>
      simp only [resolveSegment, run_pure]
      rw [ih h]
    | token token =>
      obtain ⟨value, finish, htoken, hrest⟩ := h
      simp only [resolveSegment, run_bind, htoken, resolveToken_of_isKeptBy hkept htoken, run_pure]
      rw [ih hrest]

/-- A text whose tokens all have values stays as it is. -/
theorem run_resolve_of_isKeptBy {references : References} {text : List Char} {source : Source}
    (h : engine.ResolvesAll references (segments text) source) :
    ({ engine with extensions := more }.resolve references text).run source =
      (engine.resolve references text).run source := by
  unfold resolve
  split
  · rename_i token hwhole
    obtain ⟨lead, trail, hsegments⟩ := Token.segments_of_whole? hwhole
    rw [hsegments, resolvesAll_plain_append] at h
    obtain ⟨value, finish, htoken, -⟩ := h
    rw [run_bind, run_bind, htoken, resolveToken_of_isKeptBy hkept htoken]
  · simp only [resolveSegments, run_bind, run_forEach_of_isKeptBy hkept h]

end Kept

/-- The engine with more forms of extensions. -/
def extend (engine : Engine) (added : List Extensions.Addition) : Engine :=
  { engine with extensions := engine.extensions.addAll added }

/-- **Further extensions take nothing away**: when forms are registered under names that have none,
a token that has a value has the same value with them, from the same source and leaving the same
source; and a text all of whose tokens have values means the same, and leaves the same source.

**Proof sketch.** A form under a new name hides no other form, so the extensions keep what they had
after each addition. Tokens that have values are resolved in the same way, one after the other. -/
theorem resolve_extend (engine : Engine) {added : List Extensions.Addition}
    (hnew : ∀ addition ∈ added, engine.extensions.contains addition.name = false)
    (references : References) :
    (∀ (token : Token) (source finish : Source) (value : Json),
      (engine.resolveToken references token).run.run source = (.ok value, finish) →
        ((engine.extend added).resolveToken references token).run.run source =
          (.ok value, finish)) ∧
      ∀ (text : List Char) (source : Source),
        engine.ResolvesAll references (segments text) source →
          ((engine.extend added).resolve references text).run source =
            (engine.resolve references text).run source := by
  have hkept := Extensions.isKeptBy_addAll hnew
  constructor
  · intro token source finish value h
    exact resolveToken_of_isKeptBy hkept h
  · intro text source h
    exact run_resolve_of_isKeptBy hkept h

/-- The new names are, in small letters, those of an earlier value and of a function of the
registry; the tokens have values by an earlier value, a function and an extension. -/
theorem resolve_extend_names :
    (∀ addition ∈ [Extensions.Addition.plain "B" (.ok .null),
        .withArguments "Integer" fun _ => .ok .null],
      ((standard ⟨.enUS, 0⟩).extend [.plain "x" (.ok (.bool true))]).extensions.contains
        addition.name = false) ∧
    ((standard ⟨.enUS, 0⟩).extend [.plain "x" (.ok (.bool true))]).ResolvesAll
      (Dictionary.get? [("b", .bool false)]) (segments "@b, @integer(1, 6) @x".toList) default ∧
    ((((standard ⟨.enUS, 0⟩).extend [.plain "x" (.ok (.bool true))]).extend
        [.plain "B" (.ok .null), .withArguments "Integer" fun _ => .ok .null]).resolve
          (Dictionary.get? [("b", .bool false)]) "@b, @integer(1, 6) @x".toList).run default =
      (((standard ⟨.enUS, 0⟩).extend [.plain "x" (.ok (.bool true))]).resolve
        (Dictionary.get? [("b", .bool false)]) "@b, @integer(1, 6) @x".toList).run default := by
  have hnew : ∀ addition ∈ [Extensions.Addition.plain "B" (.ok .null),
      .withArguments "Integer" fun _ => .ok .null],
      ((standard ⟨.enUS, 0⟩).extend [.plain "x" (.ok (.bool true))]).extensions.contains
        addition.name = false := by decide
  have hsegments : segments "@b, @integer(1, 6) @x".toList = [.token ⟨['b'], none⟩, .plain ',',
      .plain ' ', .token ⟨"integer".toList, some "1, 6".toList⟩, .plain ' ',
      .token ⟨['x'], none⟩] := by decide
  have hall : ((standard ⟨.enUS, 0⟩).extend [.plain "x" (.ok (.bool true))]).ResolvesAll
      (Dictionary.get? [("b", .bool false)]) (segments "@b, @integer(1, 6) @x".toList) default := by
    rw [hsegments]
    exact ⟨_, _, rfl, _, _, rfl, _, _, rfl, trivial⟩
  exact ⟨hnew, hall, (resolve_extend _ hnew _).2 _ _ hall⟩

end Engine

end Specimen
