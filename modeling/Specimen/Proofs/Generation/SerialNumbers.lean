import Mathlib
import Specimen.Generation.Setup
import Specimen.Proofs.Generation.Counters
import Specimen.Proofs.Rule.Numeral

set_option autoImplicit false

/-!
# Serial numbers

All items of a list stand at one path, and a number with a step counts under its path. Items picked
one after the other, whichever they are, are therefore numbered in sequence, when every item has its
number under the same name and nothing else in an item counts.

## Main definitions

* `Specimen.Json.IsSerial` — an item with a number that counts, and nothing else that does.
* `Specimen.Json.HasNumber`, `Specimen.Json.AreNumbered`, `Specimen.Json.IsSeries` — a numbered
  item, items that are numbered in sequence, and an object with a list of them.
* `Specimen.Ledger.next` — the number that comes next under a key.

## Main results

* `Specimen.Engine.run_generateIn_serial` — one item takes the next number.
* `Specimen.Engine.run_generate_series` — repeated picks are numbered in sequence.
-/

namespace Specimen

namespace Json

/-- An object with an integer that counts by a step under a name, no other member of that name, and
no usable rule of a step in any other member, as when no other text of a rule begins with a plus
sign. -/
def IsSerial (name : String) (first step : Int) (item : Json) : Prop :=
  ∃ before after : List (String × Json),
    item = .obj (before ++ (name ++ "|+" ++ toString step, .num (.int first)) :: after) ∧
    (∀ other ∈ before ++ after, Key.name other.1 ≠ name) ∧
    (Json.obj (before ++ after)).Everywhere IsUncounted

/-- An object with a number under a name. -/
def HasNumber (name : String) (number : Int) (item : Json) : Prop :=
  ∃ members, item = .obj members ∧ Dictionary.get? members name = some (.ofInt number)

/-- Items that are numbered from a first number on by a step. -/
def AreNumbered (name : String) (first step : Int) (items : List Json) : Prop :=
  ∀ (i : Nat) (item : Json), items[i]? = some item → item.HasNumber name (first + i * step)

/-- An object with nothing but a list of so many numbered items. -/
def IsSeries (list name : String) (count : Nat) (first step : Int) (value : Json) : Prop :=
  ∃ items, value = .obj [(list, .arr items)] ∧ items.length = count ∧
    AreNumbered name first step items

end Json

/-! ## Counters -/

/-- The number that comes next under a key: the one that the counter shows, or the first. -/
def Ledger.next (ledger : Ledger) (key : String) (first : Int) : Int :=
  (ledger.counter? key).getD first

/-- A counter that is read shows its number moved on by the step. -/
theorem Ledger.next_advance (ledger : Ledger) (key : String) (first step : Int) :
    (ledger.advance key first step).2.next key first =
      Integer.saturate (ledger.next key first + step) := by
  rw [next, counter?_advance, if_pos rfl, Option.getD_some, next]

/-- Between two numbers in range there are only numbers in range. -/
theorem Integer.inRange_between {first step : Int} {count : Nat} (hfirst : InRange first)
    (hlast : InRange (first + ((count : Int) - 1) * step)) {i : Nat} (hi : i < count) :
    InRange (first + i * step) := by
  have hle : (i : Int) ≤ (count : Int) - 1 := by omega
  unfold InRange at hfirst hlast ⊢
  rcases Int.le_total 0 step with hstep | hstep
  · have hlow : 0 ≤ (i : Int) * step := Int.mul_nonneg (by omega) hstep
    have hhigh : (i : Int) * step ≤ ((count : Int) - 1) * step :=
      Int.mul_le_mul_of_nonneg_right hle hstep
    omega
  · have hlow : (i : Int) * step ≤ 0 := Int.mul_nonpos_of_nonneg_of_nonpos (by omega) hstep
    have hhigh : ((count : Int) - 1) * step ≤ (i : Int) * step :=
      Int.mul_le_mul_of_nonpos_right hle hstep
    omega

namespace Engine

variable (engine : Engine)

/-- Members without steps leave the number that comes next. -/
theorem next_produceEntriesFrom {members : List (String × Json)}
    (huncounted : (Json.obj members).Everywhere Json.IsUncounted) (made : Dictionary Json)
    (scope : Scope) (start : Progress) (key : String) (first : Int) :
    ((produceEntriesFrom (members.map engine.entry) made scope).run start).2.ledger.next key first =
      start.ledger.next key first := by
  have hplace : (Path.place [scope.path]).path = scope.path := rfl
  have hspares := (engine.respects_spares key).produceEntriesFrom
    ⟨_, hplace, by rw [Json.steps_eq_nil huncounted]; exact nofun⟩ made
  rw [Ledger.next, hspares.keeps start]
  rfl

section Serial

variable {name : String} {first step : Int} (hname : name ≠ "") (hbar : '|' ∉ name.toList)
  (hstep : step ≠ 0) (hrange : Integer.InRange step) (hfirst : Integer.InRange first)

include hname hbar hstep hrange hfirst

/-- A number with a step takes the next number under its path and moves the counter on. -/
theorem run_produceEntry_step (scope : Scope) (start : Progress) :
    (produceEntry (engine.entry (name ++ "|+" ++ toString step, .num (.int first))) scope).run
        start =
      (.ofInt (start.ledger.next (scope.key name) first),
        { start with ledger := (start.ledger.advance (scope.key name) first step).2 }) := by
  obtain ⟨hkey, husable⟩ := Key.usable?_step hname hbar hrange hstep (.int first)
  have hvalid := (Key.usable?_eq_some_iff.1 husable).2
  have hseed : Rule.counterSeed (.num (.int first)) step = first := by
    simp only [Rule.counterSeed, Number.toInt?, Integer.check?, if_pos hfirst, Option.getD_some]
  rw [produceEntry_entry]
  simp only [husable, hkey, Rule.execute, hvalid, if_true, Rule.apply, Rule.increment, hseed]
  rfl

/-- **One item takes the next number** under the path of its number, and moves the counter on.

**Proof sketch.** The members before the number change no counter. The number is read and moves on,
and the members behind it change neither the counter nor what is under the name. -/
theorem run_generateIn_serial {item : Json} (hserial : item.IsSerial name first step)
    (scope : Scope) (start : Progress) :
    ((engine.generateIn item scope).run start).1.HasNumber name
        (start.ledger.next (scope.key name) first) ∧
      ((engine.generateIn item scope).run start).2.ledger.next (scope.key name) first =
        Integer.saturate (start.ledger.next (scope.key name) first + step) := by
  obtain ⟨before, after, rfl, hnames, huncounted⟩ := hserial
  have hbefore : (Json.obj before).Everywhere Json.IsUncounted :=
    huncounted.part Json.selective_isUncounted (.members fun _ => List.mem_append_left after)
  have hafter : (Json.obj after).Everywhere Json.IsUncounted :=
    huncounted.part Json.selective_isUncounted (.members fun _ => List.mem_append_right before)
  have hothers : ∀ entry ∈ after.map engine.entry, Key.name entry.key ≠ name := by
    intro entry hentry
    obtain ⟨member, hmember, rfl⟩ := List.mem_map.1 hentry
    exact hnames member (List.mem_append_right before hmember)
  obtain ⟨hkey, -⟩ := Key.usable?_step hname hbar hrange hstep (.int first)
  have happend := run_produceEntriesFrom_append (before.map engine.entry)
    (engine.entry (name ++ "|+" ++ toString step, .num (.int first)) :: after.map engine.entry) []
    scope start
  generalize hlast : scope.recordAll _ = last at happend
  have hplace : last.key name = scope.key name := by rw [← hlast]; exact Scope.key_congr rfl name
  have hnext := engine.next_produceEntriesFrom hbefore [] scope start (scope.key name) first
  rw [generateIn_obj, produceEntries, run_map, List.map_append, List.map_cons, happend]
  generalize (produceEntriesFrom (before.map engine.entry) [] scope).run start = reached at hnext
  have hentry := engine.run_produceEntry_step hname hbar hstep hrange hfirst last reached.2
  rw [hplace, hnext] at hentry
  rw [run_produceEntriesFrom_cons, hentry]
  simp only [entry, hkey, hplace]
  -- What is left of the run are the members behind the number.
  refine ⟨⟨_, rfl, (get?_produceEntriesFrom_of_ne hothers _ _ _).trans ?_⟩,
    (engine.next_produceEntriesFrom hafter _ _ _ _ _).trans ?_⟩
  · rw [Dictionary.get?_set, if_pos rfl]
  · rw [← hnext]
    exact Ledger.next_advance reached.2.ledger (scope.key name) first step

/-- **Repeated picks take numbers in sequence**, whichever items are picked.

**Proof sketch.** By induction on the number of picks. A pick generates one of the items, which
takes the next number; the number after that is in range as long as there is another pick to come,
so that the counter has not stopped at an end. -/
theorem run_many_serial {items : List Json} (hitems : items ≠ [])
    (hserial : ∀ item ∈ items, item.IsSerial name first step) (scope : Scope) (count : Nat)
    (start : Progress) (hrun : ∀ i < count,
      Integer.InRange (start.ledger.next (scope.key name) first + (i : Nat) * step)) :
    ((many count (Rule.pickItem (items.map engine.generateIn) scope)).run start).1.length =
        count ∧
      Json.AreNumbered name (start.ledger.next (scope.key name) first) step
        ((many count (Rule.pickItem (items.map engine.generateIn) scope)).run start).1 := by
  induction count generalizing start with
  | zero => exact ⟨rfl, fun i item h => by cases h⟩
  | succ count ih =>
    obtain ⟨item, hitem, source, hpick⟩ :=
      Rule.run_pickItem engine.generateIn hitems scope start
    obtain ⟨hnumber, hnext⟩ := engine.run_generateIn_serial hname hbar hstep hrange hfirst
      (hserial item hitem) scope { start with source := source }
    rw [Gen.run_many_succ, hpick]
    generalize (engine.generateIn item scope).run { start with source := source } = finish
      at hnumber hnext ⊢
    generalize start.ledger.next (scope.key name) first = number at hrun hnumber hnext ⊢
    have hshift : ∀ i : Nat, number + step + i * step = number + (i + 1 : Nat) * step := by
      intro i
      rw [Int.natCast_succ, Int.add_mul, Int.one_mul]
      omega
    -- Behind the last pick the counter may have stopped at an end of the range.
    have hmoved : 0 < count → finish.2.ledger.next (scope.key name) first = number + step := by
      intro hpos
      have hsecond := hrun 1 (by omega)
      rw [hnext]
      exact Integer.saturate_eq_self (by simpa using hsecond)
    obtain ⟨hlength, hrest⟩ := ih finish.2 fun i hi => by
      rw [hmoved (by omega), hshift]
      exact hrun (i + 1) (by omega)
    refine ⟨by rw [List.length_cons, hlength], fun i other h => ?_⟩
    cases i with
    | zero =>
      obtain rfl : finish.1 = other := Option.some.inj h
      simpa using hnumber
    | succ i =>
      rw [List.getElem?_cons_succ] at h
      have hi : i < count := hlength ▸ (List.getElem?_eq_some_iff.1 h).1
      have hother := hrest i other h
      rwa [hmoved (by omega), hshift] at hother

end Serial

/-- **Items of a repeated list are numbered in sequence**: when every item of a list has a number
that counts from the same first number by the same step, and nothing else in an item counts, so many
picks make a list of so many items with the numbers one step apart, whichever items are picked.

**Proof sketch.** The key of the list repeats picks from its items. The counter of their numbers is
not there when the run begins, and all the numbers that come up lie between the first and the last
of them. -/
theorem run_generate_series {list name : String} (hlist : list ≠ "" ∧ '|' ∉ list.toList)
    (hname : name ≠ "" ∧ '|' ∉ name.toList) {items : List Json} (hitems : items ≠ [])
    {first step : Int} (hserial : ∀ item ∈ items, item.IsSerial name first step) {count : Nat}
    (hlow : 2 ≤ count) (hhigh : count ≤ 10000) (hstep : step ≠ 0) (hrange : Integer.InRange step)
    (hfirst : Integer.InRange first)
    (hlast : Integer.InRange (first + ((count : Int) - 1) * step)) (source : Source) :
    Json.IsSeries list name count first step
      ((engine.generate (.obj [(list ++ "|" ++ toString count, .arr items)])).run source).1 := by
  have hmax : (count : Int) ≤ maxRepeat := by
    simp only [maxRepeat]
    omega
  obtain ⟨hkey, husable⟩ := Key.usable?_count hlist.1 hlist.2 hlow hmax items
  have hvalid := (Key.usable?_eq_some_iff.1 husable).2
  have hcount : (max 0 (min (count : Int) maxRepeat)).toNat = count := by omega
  obtain ⟨head, rest, rfl⟩ := List.exists_cons_of_ne_nil hitems
  have hentry : (produceEntry (engine.entry (list ++ "|" ++ toString count, .arr (head :: rest)))
      Scope.root).run ⟨source, Ledger.empty⟩ =
      (Json.arr <$> many count (Rule.pickItem ((head :: rest).map engine.generateIn)
        (Scope.root.child list))).run ⟨source, Ledger.empty⟩ := by
    rw [produceEntry_entry]
    simp only [husable, hkey, Rule.execute, hvalid, if_true, Rule.apply, Rule.repeatPicks, hcount]
    rfl
  obtain ⟨hlength, hnumbered⟩ := engine.run_many_serial hname.1 hname.2 hstep hrange hfirst hitems
    hserial (Scope.root.child list) count ⟨source, Ledger.empty⟩
    fun i hi => Integer.inRange_between hfirst hlast hi
  rw [run_generate_obj, List.map_singleton, run_produceEntriesFrom_cons, hentry, run_map]
  simp only [entry, hkey]
  exact ⟨_, rfl, hlength, hnumbered⟩

/-- Two items, of which the second has an object and a repeated text beside its number. -/
theorem run_generate_series_users :
    (∀ item ∈ [Json.obj [("id|+-2", .num (.int 9))],
        .obj [("tags|2", .str "a"), ("id|+-2", .num (.int 9)), ("in", .obj [("id", .null)])]],
      item.IsSerial "id" 9 (-2)) ∧
    Json.IsSeries "users" "id" 3 9 (-2)
      (((standard ⟨.enUS, 0⟩).generate (.obj [("users|3", .arr [.obj [("id|+-2", .num (.int 9))],
        .obj [("tags|2", .str "a"), ("id|+-2", .num (.int 9)),
          ("in", .obj [("id", .null)])]])])).run default).1 := by
  have hserial : ∀ item ∈ [Json.obj [("id|+-2", .num (.int 9))],
      .obj [("tags|2", .str "a"), ("id|+-2", .num (.int 9)), ("in", .obj [("id", .null)])]],
      item.IsSerial "id" 9 (-2) := by
    intro item hitem
    rcases List.mem_cons.1 hitem with rfl | hitem
    · exact ⟨[], [], rfl, by decide, by decide⟩
    · obtain rfl := List.mem_singleton.1 hitem
      exact ⟨[("tags|2", .str "a")], [("in", .obj [("id", .null)])], rfl, by decide, by decide⟩
  exact ⟨hserial, run_generate_series _ (by decide) (by decide) (by decide) hserial
    (by decide) (by decide) (by decide) (by decide) (by decide) (by decide) default⟩

/-- A first number above the range counts from the end of the range, although the last one is in
range. -/
theorem run_generate_series_above :
    (Json.obj [("y|+-1", .num (.int 9223372036854775808))]).IsSerial "y" 9223372036854775808 (-1) ∧
      Integer.InRange (9223372036854775808 + (((2 : Nat) : Int) - 1) * -1) ∧
      ¬Json.IsSeries "x" "y" 2 9223372036854775808 (-1)
        (((standard ⟨.enUS, 0⟩).generate
          (.obj [("x|2", .arr [.obj [("y|+-1", .num (.int 9223372036854775808))]])])).run
            default).1 := by
  refine ⟨⟨[], [], rfl, by decide, by decide⟩, by decide, ?_⟩
  have hresult : (((standard ⟨.enUS, 0⟩).generate
      (.obj [("x|2", .arr [.obj [("y|+-1", .num (.int 9223372036854775808))]])])).run default).1 =
      .obj [("x", .arr [.obj [("y", .num (.int 9223372036854775807))],
        .obj [("y", .num (.int 9223372036854775806))]])] := by cbv
  rw [hresult]
  rintro ⟨items, hitems, -, hnumbered⟩
  simp only [Json.obj.injEq, List.cons.injEq, Prod.mk.injEq, Json.arr.injEq, true_and,
    and_true] at hitems
  subst hitems
  obtain ⟨members, hmembers, hget⟩ := hnumbered 0 _ rfl
  cases hmembers
  simp [Dictionary.get?, Json.ofInt] at hget

end Engine

end Specimen
