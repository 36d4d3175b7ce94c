import Mathlib.Data.List.Sort
import Specimen.Proofs.Scope.Answers

set_option autoImplicit false

/-!
# What counters show

A counter is known by its family and its key. The calls that concern it, in the order of the
history, give its numbers: the seed of the first call, and then each time the number before, moved
on by the step of the call that read it, as far as the range of integers goes. Nothing else in the
history counts: which scopes of the family make the calls, and what is done to other keys and to
other families, does not matter.

## Main definitions

* `Specimen.Families.Call` — a call that reads a counter and moves it on.
* `Specimen.Families.InOrder` — the calls of some sort in the order of their times.
* `Specimen.Families.answer?` — the number that is read at a time.
* `Specimen.Families.number`, `Specimen.Families.shown` — the numbers of a counter, and what it
  shows.

## Main results

* `Specimen.Families.counter?_apply_advance`, `Specimen.Families.counter?_apply_of_ne` — what one
  operation does to a counter.
* `Specimen.Families.exists_calls_ledgerOf` — what a history does to it.
* `Specimen.Families.counters_after` — the numbers that are read from a counter.
-/

namespace Specimen.Families

/-! ## One operation -/

section Steps

variable (families : Families)

/-- A counter that is read moves on. -/
theorem counter?_apply_advance {n : Nat}
    (hfamily : (families.member n).family < families.ledgers.length) (key : String)
    (seed step : Int) :
    ((families.apply (.advance n key seed step)).ledgerOf (families.member n).family).counter? key =
      some (Integer.saturate
        (((families.ledgerOf (families.member n).family).counter? key).getD seed + step)) := by
  rw [apply, advance, ledgerOf_setLedger families hfamily, if_pos rfl]
  exact (Ledger.counter?_advance _ key key seed step).trans (if_pos rfl)

/-- A counter stays unless it is read in its family. -/
theorem counter?_apply_of_ne {family : Nat} (hfamily : family < families.ledgers.length)
    {operation : Operation} {key : String}
    (h : ∀ n seed step, operation = .advance n key seed step →
      (families.member n).family ≠ family) :
    ((families.apply operation).ledgerOf family).counter? key =
      (families.ledgerOf family).counter? key := by
  cases operation with
  | fresh => rw [families.ledgerOf_fresh hfamily]
  | copy n | derive n name => rfl
  | record n name value =>
    rw [apply, ledgerOf_record families hfamily]
    split <;> rfl
  | advance n other seed step =>
    rw [apply, advance, ledgerOf_setLedger families hfamily]
    split
    · rename_i hn
      have hne : other ≠ key := fun heq => h n seed step (by rw [heq]) hn
      rw [← hn]
      exact (Ledger.counter?_advance _ other key seed step).trans (if_neg hne)
    · rfl

end Steps

/-! ## Calls -/

/-- A call that reads a counter and moves it on. -/
structure Call where
  /-- The time of the call. -/
  time : Nat
  /-- The number that a new counter begins with. -/
  seed : Int
  /-- How far the counter moves on. -/
  step : Int

/-- The calls of some sort, each once, in the order of their times. -/
structure InOrder (occurs : Call → Prop) (calls : List Call) : Prop where
  /-- The times ascend. -/
  ascending : calls.Pairwise fun first second => first.time < second.time
  /-- The calls of the sort are there, and no others. -/
  mem_iff : ∀ call, call ∈ calls ↔ occurs call

theorem InOrder.congr {first second : Call → Prop} (h : ∀ call, first call ↔ second call)
    {calls : List Call} (hcalls : InOrder first calls) : InOrder second calls :=
  ⟨hcalls.ascending, fun call => (hcalls.mem_iff call).trans (h call)⟩

/-- There is one order of the calls of a sort. -/
theorem InOrder.unique {occurs : Call → Prop} {first second : List Call}
    (hfirst : InOrder occurs first) (hsecond : InOrder occurs second) : first = second := by
  have hirrefl : Std.Irrefl fun first second : Call => first.time < second.time :=
    ⟨fun call => Nat.lt_irrefl call.time⟩
  have hantisymm : Std.Antisymm fun first second : Call => first.time < second.time :=
    ⟨fun _ _ hlt hgt => absurd hlt (Nat.lt_asymm hgt)⟩
  exact hfirst.ascending.eq_of_mem_iff hsecond.ascending fun call =>
    (hfirst.mem_iff call).trans (hsecond.mem_iff call).symm

/-- A later call comes last. -/
theorem InOrder.append_singleton {first second : Call → Prop} {calls : List Call} {last : Call}
    (hcalls : InOrder first calls) (hlast : ∀ call, first call → call.time < last.time)
    (h : ∀ call, second call ↔ first call ∨ call = last) : InOrder second (calls ++ [last]) where
  ascending := by
    refine List.pairwise_append.2 ⟨hcalls.ascending, List.pairwise_singleton _ _, ?_⟩
    intro call hcall other hother
    rw [List.mem_singleton.1 hother]
    exact hlast call ((hcalls.mem_iff call).1 hcall)
  mem_iff call := by
    rw [List.mem_append, List.mem_singleton, h, hcalls.mem_iff]

/-- The number that is read at a time, if one is. -/
def answer? (history : List Operation) (i : Nat) : Option Int :=
  match history[i]? with
  | some (.advance n key seed step) => some ((after (history.take i)).advance n key seed step).1
  | _ => none

/-! ## The numbers of a counter -/

/-- The number of a counter before the call of an index: at first the seed of the first call, then
the number before, moved on by the step of the call. -/
def number (calls : List Call) : Nat → Int
  | 0 => (calls.head?.map Call.seed).getD 0
  | j + 1 => Integer.saturate (number calls j + (calls[j]?.map Call.step).getD 0)

/-- What a counter shows after some calls. -/
def shown (calls : List Call) : Option Int :=
  if calls = [] then none else some (number calls calls.length)

/-- Later calls leave the numbers before them alone. -/
theorem number_append {calls : List Call} (hne : calls ≠ []) (later : List Call) {j : Nat}
    (hj : j ≤ calls.length) : number (calls ++ later) j = number calls j := by
  induction j with
  | zero => rw [number, number, List.head?_append_of_ne_nil _ hne]
  | succ j ih =>
    rw [number, number, ih (Nat.le_of_succ_le hj), List.getElem?_append_left hj]

/-- A further call reads what the counter shows, or its own seed. -/
theorem number_append_length (calls : List Call) (last : Call) :
    number (calls ++ [last]) calls.length = (shown calls).getD last.seed := by
  by_cases hne : calls = []
  · subst hne
    rfl
  · rw [number_append hne _ (Nat.le_refl _), shown, if_neg hne, Option.getD_some]

/-- After a further call the counter shows what the call has read, moved on. -/
theorem shown_append_singleton (calls : List Call) (last : Call) :
    shown (calls ++ [last]) =
      some (Integer.saturate ((shown calls).getD last.seed + last.step)) := by
  rw [shown, if_neg (by simp), List.length_append, List.length_singleton, number,
    number_append_length, List.getElem?_concat_length]
  rfl

/-- With steps of one length the numbers are those of a progression, as far as the range goes. -/
theorem number_eq_saturate {calls : List Call} {first : Call} (hhead : calls.head? = some first)
    (hrange : Integer.InRange first.seed) {step : Int} (hsteps : ∀ call ∈ calls, call.step = step)
    {j : Nat} (hj : j ≤ calls.length) :
    number calls j = Integer.saturate (first.seed + j * step) := by
  induction j with
  | zero =>
    rw [number, hhead, Option.map_some, Option.getD_some, Int.natCast_zero, Int.zero_mul,
      Int.add_zero, Integer.saturate_eq_self hrange]
  | succ j ih =>
    have hstep : (calls[j]?.map Call.step).getD 0 = step := by
      rw [List.getElem?_eq_getElem hj, Option.map_some, Option.getD_some,
        hsteps _ (List.getElem_mem hj)]
    rw [number, ih (Nat.le_of_succ_le hj), hstep, Integer.saturate_add_steps hrange]

/-! ## Counters in a history -/

section Histories

variable {history : List Operation} {operation : Operation}

theorem answer?_append_of_lt {i : Nat} (hi : i < history.length) :
    answer? (history ++ [operation]) i = answer? history i := by
  rw [answer?, answer?, List.getElem?_append_left hi, take_append_singleton (Nat.le_of_lt hi)]

theorem answer?_append_length (n : Nat) (key : String) (seed step : Int) :
    answer? (history ++ [.advance n key seed step]) history.length =
      some ((((after history).ledgerOf ((after history).member n).family).counter? key).getD
        seed) := by
  rw [answer?, List.getElem?_concat_length, List.take_left]
  rfl

/-- A counter with a key is read by a scope of a family. -/
def CalledIn (history : List Operation) (family : Nat) (key : String) (call : Call) : Prop :=
  ∃ m, history[call.time]? = some (.advance m key call.seed call.step) ∧
    ((after history).member m).family = family

theorem CalledIn.time_lt {family : Nat} {key : String} {call : Call}
    (h : CalledIn history family key call) : call.time < history.length := by
  obtain ⟨m, hat, -⟩ := h
  exact lt_of_getElem? hat

/-- The one call that can be new is that of the operation. -/
theorem calledIn_append (hpossible : Possible (history ++ [operation])) {family : Nat}
    {key : String} {call : Call} :
    CalledIn (history ++ [operation]) family key call ↔
      CalledIn history family key call ∨ call.time = history.length ∧
        ∃ m, operation = .advance m key call.seed call.step ∧
          ((after history).member m).family = family := by
  obtain ⟨hold, hsubject⟩ := possible_append_singleton.1 hpossible
  have hsame : ∀ {m}, m < made history →
      ((after (history ++ [operation])).member m).family = ((after history).member m).family := by
    intro m hm
    rw [after_append_singleton]
    exact ((after history).member_apply (length_members_after history ▸ hm) operation).1
  constructor
  · rintro ⟨m, hat, hfamily⟩
    rcases getElem?_append_singleton.1 hat with hi | ⟨htime, rfl⟩
    · exact Or.inl ⟨m, hi, hsame (hold.subject_lt_made hi rfl) ▸ hfamily⟩
    · exact Or.inr ⟨htime, m, rfl, hsame (hsubject m rfl) ▸ hfamily⟩
  · rintro (⟨m, hi, hfamily⟩ | ⟨htime, m, rfl, hfamily⟩)
    · exact ⟨m, getElem?_append_singleton.2 (Or.inl hi),
        (hsame (hold.subject_lt_made hi rfl)).trans hfamily⟩
    · exact ⟨m, getElem?_append_singleton.2 (Or.inr ⟨htime, rfl⟩),
        (hsame (hsubject m rfl)).trans hfamily⟩

/-- A call of the family with the key comes last among them. -/
theorem inOrder_append_call {m : Nat} {key : String} {seed step : Int}
    (hpossible : Possible (history ++ [.advance m key seed step])) {calls : List Call}
    (hcalls : InOrder (CalledIn history ((after history).member m).family key) calls) :
    InOrder
      (CalledIn (history ++ [.advance m key seed step]) ((after history).member m).family key)
      (calls ++ [⟨history.length, seed, step⟩]) := by
  refine hcalls.append_singleton (fun call hcall => hcall.time_lt) fun call => ?_
  rw [calledIn_append hpossible]
  refine or_congr_right ⟨?_, ?_⟩
  · rintro ⟨htime, _, heq, -⟩
    cases call
    cases heq
    rw [← htime]
  · rintro rfl
    exact ⟨rfl, m, rfl, rfl⟩

/-- The calls read the numbers of their counter, in order. -/
def Answered (history : List Operation) (calls : List Call) : Prop :=
  ∀ j call, calls[j]? = some call →
    call.time < history.length ∧ answer? history call.time = some (number calls j)

/-- What has been read stays read. -/
theorem Answered.append {calls : List Call} (h : Answered history calls) :
    Answered (history ++ [operation]) calls := by
  intro j call hj
  obtain ⟨htime, hanswer⟩ := h j call hj
  exact ⟨by rw [List.length_append]; omega, (answer?_append_of_lt htime).trans hanswer⟩

/-- A call of the family with the key reads what the counter shows. -/
theorem Answered.append_call {m : Nat} {key : String} {seed step : Int} {calls : List Call}
    (h : Answered history calls)
    (hshown : ((after history).ledgerOf ((after history).member m).family).counter? key =
      shown calls) :
    Answered (history ++ [.advance m key seed step])
      (calls ++ [⟨history.length, seed, step⟩]) := by
  intro j call hj
  by_cases hearlier : j < calls.length
  · have hne : calls ≠ [] := List.ne_nil_of_length_pos (Nat.zero_lt_of_lt hearlier)
    rw [List.getElem?_append_left hearlier] at hj
    rw [number_append hne _ (Nat.le_of_lt hearlier)]
    exact h.append j call hj
  · have hlength := (List.getElem?_eq_some_iff.1 hj).1
    rw [List.length_append, List.length_singleton] at hlength
    obtain rfl : j = calls.length := by omega
    rw [List.getElem?_concat_length] at hj
    obtain rfl := Option.some.inj hj
    refine ⟨by simp, ?_⟩
    rw [answer?_append_length, hshown, number_append_length]

/-- **The calls that concern a counter give all its numbers**: those that the calls read, and the
one that it shows.

**Proof sketch.** By induction on the history. A call of the family with the key reads what the
counter shows and comes last among the calls; every other operation leaves the counter as it is and
is no such call. In a new family there is neither a counter nor a call. -/
theorem exists_calls_ledgerOf (hpossible : Possible history) {family : Nat}
    (hfamily : family < (after history).ledgers.length) (key : String) :
    ∃ calls, InOrder (CalledIn history family key) calls ∧
      ((after history).ledgerOf family).counter? key = shown calls ∧ Answered history calls := by
  induction history using List.reverseRecOn with
  | nil => cases hfamily
  | append_singleton history operation ih =>
    obtain ⟨hold, -⟩ := possible_append_singleton.1 hpossible
    rw [after_append_singleton] at hfamily ⊢
    rcases family_cases _ hfamily with hlt | ⟨rfl, rfl⟩
    · obtain ⟨calls, hcalls, hshown, hanswered⟩ := ih hold hlt
      by_cases hcall : ∃ m seed step, operation = .advance m key seed step ∧
        ((after history).member m).family = family
      · obtain ⟨m, seed, step, rfl, rfl⟩ := hcall
        refine ⟨_, inOrder_append_call hpossible hcalls, ?_, hanswered.append_call hshown⟩
        rw [counter?_apply_advance _ hlt, hshown, shown_append_singleton]
      · refine ⟨calls, hcalls.congr fun call => ?_, ?_, hanswered.append⟩
        · rw [calledIn_append hpossible]
          refine (or_iff_left ?_).symm
          rintro ⟨-, m, heq, hm⟩
          exact hcall ⟨m, call.seed, call.step, heq, hm⟩
        · rw [counter?_apply_of_ne _ hlt fun m seed step heq hm => hcall ⟨m, seed, step, heq, hm⟩,
            hshown]
    · rw [ledgerOf_apply_fresh]
      refine ⟨[], ⟨List.Pairwise.nil, fun call => ?_⟩, rfl, nofun⟩
      rw [calledIn_append hpossible]
      refine iff_of_false List.not_mem_nil ?_
      rintro (⟨m, hat, hnew⟩ | ⟨-, m, heq, -⟩)
      · have hm := hold.subject_lt_made hat rfl
        exact absurd (family_lt hold hm) (Nat.not_lt.2 (Nat.le_of_eq hnew.symm))
      · cases heq

/-- A counter with a key is read by a scope of the family of another. -/
def Called (history : List Operation) (n : Nat) (key : String) (call : Call) : Prop :=
  ∃ m, history[call.time]? = some (.advance m key call.seed call.step) ∧ SameFamily history n m

theorem calledIn_iff (hpossible : Possible history) {n : Nat} (hn : n < made history)
    {key : String} {call : Call} :
    CalledIn history ((after history).member n).family key call ↔ Called history n key call := by
  refine exists_congr fun m => and_congr_right fun hat => ?_
  rw [sameFamily_iff hpossible hn (hpossible.subject_lt_made hat rfl)]
  exact eq_comm

end Histories

/-- **The numbers that are read from a counter.** Of the calls with a key that scopes of one family
make in a history, the first reads its own seed, and each later one the number before it, moved on
by the step of the call before and stopped at the ends of the range. Afterwards the counter shows
the number that comes next; without a call there is no counter. With steps of one length the numbers
are those of the progression from the seed, or the nearest end of the range.

**Proof sketch.** By induction on the history. A call with the key by a scope of the family is the
next in order, and reads what the call before has left; all other operations leave the counter as it
is. The closed form is an induction on the calls, where stopping at an end commutes with further
steps of one length. -/
theorem counters_after {history : List Operation} (hpossible : Possible history) {n : Nat}
    (hn : n < made history) {key : String} {calls : List Call}
    (hcalls : InOrder (Called history n key) calls) :
    ∃ number : Nat → Int,
      (∀ first, calls.head? = some first → number 0 = first.seed) ∧
      (∀ j call, calls[j]? = some call →
        answer? history call.time = some (number j) ∧
          number (j + 1) = Integer.saturate (number j + call.step)) ∧
      (((after history).ledger n).counter? key =
        if calls = [] then none else some (number calls.length)) ∧
      ∀ first step, calls.head? = some first → Integer.InRange first.seed →
        (∀ call ∈ calls, call.step = step) →
          ∀ j ≤ calls.length, number j = Integer.saturate (first.seed + j * step) := by
  obtain ⟨found, hfound, hshown, hanswered⟩ :=
    exists_calls_ledgerOf hpossible (family_lt hpossible hn) key
  obtain rfl : found = calls :=
    (hfound.congr fun call => calledIn_iff hpossible hn).unique hcalls
  refine ⟨number found, fun first hfirst => ?_, fun j call hj => ⟨(hanswered j call hj).2, ?_⟩,
    hshown, fun first step hfirst hrange hsteps j hj => number_eq_saturate hfirst hrange hsteps hj⟩
  · rw [number, hfirst]
    rfl
  · rw [number, hj]
    rfl

/-- Three scopes of two families read a counter with one key. Two of them are of one family and read
one counter, which stops at the end of the range. -/
theorem counters_after_end : ∃ history : List Operation,
    history = [.fresh, .fresh, .derive 0 "a", .advance 0 "k" 9223372036854775806 2,
      .advance 1 "k" 7 1, .advance 2 "k" 5 2] ∧
    Possible history ∧ 0 < made history ∧
    InOrder (Called history 0 "k") [⟨3, 9223372036854775806, 2⟩, ⟨5, 5, 2⟩] ∧
    answer? history 3 = some 9223372036854775806 ∧
    answer? history 5 = some 9223372036854775807 ∧
    ((after history).ledger 0).counter? "k" = some 9223372036854775807 := by
  refine ⟨_, rfl, ?_⟩
  have hpossible : Possible [.fresh, .fresh, .derive 0 "a",
      .advance 0 "k" 9223372036854775806 2, .advance 1 "k" 7 1, .advance 2 "k" 5 2] := by decide
  have hmade : 0 < made [.fresh, .fresh, .derive 0 "a",
      .advance 0 "k" 9223372036854775806 2, .advance 1 "k" 7 1, .advance 2 "k" 5 2] := by decide
  have hcalls : InOrder (Called [.fresh, .fresh, .derive 0 "a",
      .advance 0 "k" 9223372036854775806 2, .advance 1 "k" 7 1, .advance 2 "k" 5 2] 0 "k")
      [⟨3, 9223372036854775806, 2⟩, ⟨5, 5, 2⟩] := by
    refine ⟨by simp, fun call => ?_⟩
    rw [← calledIn_iff hpossible hmade]
    constructor
    · intro hmem
      rcases List.mem_pair.1 hmem with rfl | rfl
      · exact ⟨0, rfl, rfl⟩
      · exact ⟨2, rfl, rfl⟩
    · rintro ⟨m, hat, hfamily⟩
      obtain ⟨time, seed, step⟩ := call
      match time, hat with
      | 3, hat =>
        cases hat
        exact List.mem_cons_self ..
      | 4, hat =>
        cases hat
        exact absurd hfamily (by decide)
      | 5, hat =>
        cases hat
        exact List.mem_cons_of_mem _ (List.mem_cons_self ..)
  obtain ⟨number, hfirst, hnext, hshown, hequal⟩ := counters_after hpossible hmade hcalls
  have hrange : Integer.InRange 9223372036854775806 := by decide
  have hsteps : ∀ call ∈ [(⟨3, 9223372036854775806, 2⟩ : Call), ⟨5, 5, 2⟩], call.step = 2 := by
    simp
  refine ⟨hpossible, hmade, hcalls, ?_, ?_, ?_⟩
  · rw [(hnext 0 _ rfl).1, hfirst _ rfl]
  · rw [(hnext 1 _ rfl).1, hequal _ 2 rfl hrange hsteps 1 (by decide)]
    decide
  · rw [hshown, if_neg (by simp)]
    exact congrArg some ((hequal _ 2 rfl hrange hsteps 2 (by decide)).trans (by decide))

end Specimen.Families
