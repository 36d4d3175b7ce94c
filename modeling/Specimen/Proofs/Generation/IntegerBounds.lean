import Specimen.Proofs.Generation.Shape
import Specimen.Proofs.Rule.Grammar

set_option autoImplicit false

/-!
# Integers between bounds

An integer is drawn between two bounds in either order, which may be as far apart as the range of
integers is wide. Whatever the random words are, it does not leave the bounds; and what is generated
from such a draw does not either, for a number under a rule with two bounds and for the placeholders
of integers.

## Main definitions

* `Specimen.Draw.IsBetween` — an integer is not outside two bounds.
* `Specimen.Key.WritesBounds` — a key with two bounds.

## Main results

* `Specimen.Key.WritesBounds.usable?` — the rule of a key with two bounds on a number.
* `Specimen.Engine.exists_produceEntry_range` — the number that is generated for such a key.
* `Specimen.Engine.exists_get?_generateIn_range` — the same in an object.
* `Specimen.Builtin.run_call_two` — the integer that a placeholder with two bounds gives.
* `Specimen.Engine.integers_between` — all integers that are drawn between bounds are between them.
-/

namespace Specimen

/-! ## Draws -/

namespace Draw

/-- The integer is not outside the two bounds, which are in either order. -/
def IsBetween (a b n : Int) : Prop := min a b ≤ n ∧ n ≤ max a b

variable {a b : Int}

theorem gives_integer (ha : Integer.InRange a) (hb : Integer.InRange b) :
    Gives (integer a b) (IsBetween a b) := integer_mem ha hb

/-- Bounds that are not below zero are in range. -/
theorem inRange_max_zero (ha : Integer.InRange a) : Integer.InRange (max a 0) := by
  unfold Integer.InRange Integer.least Integer.greatest at *
  omega

/-- A natural number is not below zero. -/
theorem gives_natural (ha : Integer.InRange a) (hb : Integer.InRange b) :
    Gives (natural a b) fun n => IsBetween (max a 0) (max b 0) n ∧ 0 ≤ n := by
  intro source
  have hbetween := gives_integer (inRange_max_zero ha) (inRange_max_zero hb) source
  refine ⟨hbetween, ?_⟩
  have hlow := hbetween.1
  change min (max a 0) (max b 0) ≤ ((natural a b).run source).1 at hlow
  omega

end Draw

/-! ## Numbers under rules -/

namespace Key

/-- A key is a name and, behind a bar, two numerals with a dash between them. -/
inductive WritesBounds : String → String → Int → Int → Prop where
  /-- Neither the bar nor a plus sign may be read in another way. -/
  | intro {name : String} {low high : List Char} {a b : Int} (hname : name ≠ "")
    (hbar : '|' ∉ name.toList.tail) (hlow : Integer.Unsigned low a)
    (hhigh : Integer.Unsigned high b) (hplus : low.head? ≠ some '+') :
    WritesBounds (name ++ "|" ++ String.ofList (low ++ '-' :: high)) name a b

/-- Two bounds in order are the rule of the key for a number. -/
theorem WritesBounds.usable? {key name : String} {a b : Int} (h : WritesBounds key name a b)
    (hle : a ≤ b) (number : Number) :
    Key.name key = name ∧ Key.usable? key (.num number) = some (.numberRange a b) := by
  obtain @⟨_, low, high, _, _, hname, hbar, hlow, hhigh, hplus⟩ := h
  have hne : low ≠ [] := by
    cases hlow with
    | bare hdigits _ => exact hdigits.ne_nil
    | plus _ _ => exact List.cons_ne_nil _ _
  have hhead : (low ++ '-' :: high).head? ≠ some '+' := by
    rwa [List.head?_append_of_ne_nil _ hne]
  have hsplit : split? (name ++ "|" ++ String.ofList (low ++ '-' :: high)) =
      some (name, String.ofList (low ++ '-' :: high)) :=
    split?_eq_some_iff.2 ⟨rfl, hname, by simp, hbar⟩
  have hread : Rule.read? (low ++ '-' :: high) .number = some (.numberRange a b) :=
    Rule.read?_eq_some_iff.2 (.extent hhead (.range hlow hhigh) (.numberRange a b))
  refine ⟨name_eq_of_split? hsplit, usable?_eq_some_iff.2 ⟨⟨.number, rfl, ?_⟩, ?_⟩⟩
  · rw [rule?_eq, hsplit]
    simp only [String.toList_ofList, hread]
  · exact Rule.isValid_iff.2 hle

end Key

namespace Engine

variable (engine : Engine) {key name : String} {a b : Int}

/-- **A number under two bounds** is generated as an integer between them. -/
theorem exists_produceEntry_range (hkey : Key.WritesBounds key name a b) (hle : a ≤ b)
    (ha : Integer.InRange a) (hb : Integer.InRange b) (number : Number) (scope : Scope)
    (start : Progress) :
    ∃ n : Int, ((produceEntry (engine.entry (key, .num number)) scope).run start).1 = .ofInt n ∧
      a ≤ n ∧ n ≤ b := by
  have husable := (hkey.usable? hle number).2
  have hvalid := (Key.usable?_eq_some_iff.1 husable).2
  have hbetween := Draw.gives_integer ha hb start.source
  rw [Draw.IsBetween, Int.min_eq_left hle, Int.max_eq_right hle] at hbetween
  rw [produceEntry_entry, husable, Rule.execute, if_pos hvalid]
  exact ⟨_, rfl, hbetween⟩

/-- The object has this integer under the name of the key, when no later member has the name. -/
theorem exists_get?_generateIn_range (hkey : Key.WritesBounds key name a b) (hle : a ≤ b)
    (ha : Integer.InRange a) (hb : Integer.InRange b) (number : Number) (scope : Scope)
    (start : Progress) (before : List (String × Json)) {after : List (String × Json)}
    (hafter : ∀ other ∈ after, Key.name other.1 ≠ name) :
    ∃ (made : Dictionary Json) (n : Int),
      ((engine.generateIn (.obj (before ++ (key, .num number) :: after)) scope).run start).1 =
        .obj made ∧ made.get? name = some (.ofInt n) ∧ a ≤ n ∧ n ≤ b := by
  obtain rfl := (hkey.usable? hle number).1
  have hlast := engine.get?_of_last before (key, .num number) hafter scope start
  rw [run_bind] at hlast
  obtain ⟨n, hn, hrange⟩ := engine.exists_produceEntry_range hkey hle ha hb number
    ((engine.scopeBehind before scope).run start).1 ((engine.scopeBehind before scope).run start).2
  rw [hn] at hlast
  exact ⟨_, n, congrArg Prod.fst (engine.run_generateIn_obj _ scope start), hlast, hrange⟩

end Engine

/-! ## Placeholders -/

/-- A placeholder that draws an integer for two integers gives what is drawn for these. -/
theorem Builtin.run_call_two {name : String} {step : Int → Int → Draw Int} {a b : Int}
    (hname : (Registry.default.signatures name).filter (fun s => s.arity.accepts 2) =
      [two name intArgument intArgument fun _ a b => intOf (step a b)])
    (ha : Integer.InRange a) (hb : Integer.InRange b) (setting : Setting) (source : Source) :
    (Registry.default.call setting name [.ofInt a, .ofInt b]).run.run source =
      (.ok (.ofInt ((step a b).run source).1), ((step a b).run source).2) := by
  have hcall : Registry.default.call setting name [.ofInt a, .ofInt b] =
      (two name intArgument intArgument fun _ a b => intOf (step a b)).run setting
        [.ofInt a, .ofInt b] :=
    @Registry.call_of_filter _ name [.ofInt a, .ofInt b] _ hname setting
  rw [hcall]
  simp only [two]
  rw [intArgument_eq_ok rfl ha, intArgument_eq_ok rfl hb]
  rfl

namespace Engine

/-- **Integers stay between their bounds.** An integer is drawn between its two bounds, in either
order, and from equal bounds without random words; a natural number is drawn between the bounds that
are not below zero; and a position is one of the list. So a number under two bounds is generated as
an integer between them, which the object has under its name when no later member has the name; and
the placeholders for integers and natural numbers give integers between the same bounds.

**Proof sketch.** All of them are one draw below the number of integers between the bounds, added to
the lower one; only the whole range takes a word as it is. A rule of two bounds makes the draw, and
so do the placeholders. -/
theorem integers_between (engine : Engine) {a b : Int} (ha : Integer.InRange a)
    (hb : Integer.InRange b) :
    (∀ source, Draw.IsBetween a b ((Draw.integer a b).run source).1 ∧
      (a = b → (Draw.integer a b).run source = (a, source))) ∧
    (∀ source, Draw.IsBetween (max a 0) (max b 0) ((Draw.natural a b).run source).1 ∧
      0 ≤ ((Draw.natural a b).run source).1) ∧
    (∀ length, 1 ≤ length → ∀ source, ((Draw.index length).run source).1 < length) ∧
    (∀ key name, Key.WritesBounds key name a b → a ≤ b → ∀ (number : Number) (scope : Scope)
      (start : Progress),
      (∃ n : Int, ((produceEntry (engine.entry (key, .num number)) scope).run start).1 =
        .ofInt n ∧ a ≤ n ∧ n ≤ b) ∧
      ∀ before after : List (String × Json), (∀ other ∈ after, Key.name other.1 ≠ name) →
        ∃ (made : Dictionary Json) (n : Int),
          ((engine.generateIn (.obj (before ++ (key, .num number) :: after)) scope).run start).1 =
            .obj made ∧ made.get? name = some (.ofInt n) ∧ a ≤ n ∧ n ≤ b) ∧
    ∀ (setting : Setting) (source : Source),
      (∃ n finish, (Registry.default.call setting "integer" [.ofInt a, .ofInt b]).run.run source =
        (.ok (.ofInt n), finish) ∧ Draw.IsBetween a b n) ∧
      ∃ n finish, (Registry.default.call setting "natural" [.ofInt a, .ofInt b]).run.run source =
        (.ok (.ofInt n), finish) ∧ Draw.IsBetween (max a 0) (max b 0) n ∧ 0 ≤ n := by
  refine ⟨?_, Draw.gives_natural ha hb, fun length h => Draw.index_lt h, ?_, ?_⟩
  · intro source
    refine ⟨Draw.gives_integer ha hb source, ?_⟩
    rintro rfl
    rw [Draw.integer_self, run_pure]
  · intro key name hkey hle number scope start
    exact ⟨engine.exists_produceEntry_range hkey hle ha hb number scope start,
      fun before _ => engine.exists_get?_generateIn_range hkey hle ha hb number scope start before⟩
  · intro setting source
    exact ⟨⟨_, _, Builtin.run_call_two rfl ha hb setting source, Draw.gives_integer ha hb source⟩,
      _, _, Builtin.run_call_two rfl ha hb setting source, Draw.gives_natural ha hb source⟩

/-- The greatest integer is among the bounds, a member before has the same name, and a plus sign
stands in front of the second bound. -/
theorem integers_between_greatest :
    (Integer.InRange 0 ∧ Integer.InRange Integer.greatest) ∧
      Key.WritesBounds "n|0-+9223372036854775807" "n" 0 Integer.greatest ∧
      (∀ other ∈ [("m|2-3", Json.str "x")], Key.name other.1 ≠ "n") ∧
      ∃ (made : Dictionary Json) (n : Int),
        (((standard ⟨.enUS, 0⟩).generateIn (.obj [("n", .null),
          ("n|0-+9223372036854775807", .num (.int 5)), ("m|2-3", .str "x")]) Scope.root).run
            ⟨default, Ledger.empty⟩).1 = .obj made ∧
        made.get? "n" = some (.ofInt n) ∧ 0 ≤ n ∧ n ≤ Integer.greatest := by
  have hlow : Integer.Unsigned ['0'] 0 :=
    (Integer.read?_eq_some_iff_unsigned (by decide)).1 (by decide)
  have hhigh : Integer.Unsigned "+9223372036854775807".toList Integer.greatest :=
    (Integer.read?_eq_some_iff_unsigned (by decide)).1 (by decide)
  have hkey : Key.WritesBounds "n|0-+9223372036854775807" "n" 0 Integer.greatest :=
    @Key.WritesBounds.intro "n" _ _ _ _ (by decide) (by decide) hlow hhigh (by decide)
  have hafter : ∀ other ∈ [("m|2-3", Json.str "x")], Key.name other.1 ≠ "n" := by decide
  have hrange : Integer.InRange 0 ∧ Integer.InRange Integer.greatest := by decide
  obtain ⟨-, -, -, hnumber, -⟩ := integers_between (standard ⟨.enUS, 0⟩) hrange.1 hrange.2
  exact ⟨hrange, hkey, hafter, (hnumber _ _ hkey (by decide) (.int 5) Scope.root
    ⟨default, Ledger.empty⟩).2 [("n", .null)] [("m|2-3", .str "x")] hafter⟩

end Engine

end Specimen
