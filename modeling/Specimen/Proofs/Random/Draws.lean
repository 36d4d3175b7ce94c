import Mathlib.Data.List.Forall2
import Specimen.Random.Pool
import Specimen.Random.Sample

set_option autoImplicit false

/-!
# Runs of draws and their bounds

A run of one step after another hands the state on. The high half of a product with a random word is
below the other factor, and the carry does not spoil this: a carry needs a low half that a product
with the greatest possible high half does not have.

## Main definitions

* `Specimen.Gives` — all results of a step have a property.

## Main results

* `Specimen.run_bind`, `Specimen.run_map` — runs of composed steps.
* `Specimen.Draw.below_lt` — a number below a bound is below the bound.
* `Specimen.Draw.index_lt` — a position in a list that has elements is one of the list.
* `Specimen.Draw.integer_mem` — an integer between bounds is between the bounds.
* `Specimen.Draw.gives_textBetween_minmax` — a text of a pool has a length between its bounds, and
  characters of the pool.
-/

namespace Specimen

/-! ## Runs of steps -/

section Runs

variable {σ α β : Type}

/-- The second step runs from the state that the first one leaves. -/
theorem run_bind (step : StateM σ α) (next : α → StateM σ β) (state : σ) :
    (step >>= next).run state = (next (step.run state).1).run (step.run state).2 := rfl

/-- A function of the result leaves the state as it is. -/
theorem run_map (f : α → β) (step : StateM σ α) (state : σ) :
    (f <$> step).run state = (f (step.run state).1, (step.run state).2) := rfl

/-- A step that only gives a result leaves the state as it is. -/
theorem run_pure (result : α) (state : σ) :
    (pure result : StateM σ α).run state = (result, state) := rfl

/-- All results of a step have a property, whatever the state is. -/
def Gives (step : StateM σ α) (property : α → Prop) : Prop :=
  ∀ state, property (step.run state).1

variable {property : α → Prop}

theorem gives_pure {result : α} (h : property result) :
    Gives (pure result : StateM σ α) property := fun _ => h

/-- What the first step gives can be used for the second. -/
theorem Gives.bind {further : β → Prop} {step : StateM σ α} {next : α → StateM σ β}
    (h : Gives step property) (hnext : ∀ result, property result → Gives (next result) further) :
    Gives (step >>= next) further :=
  fun state => hnext _ (h state) _

/-- A step that is taken many times gives so many results, all with what each of them has. -/
theorem Gives.many {step : StateM σ α} (h : Gives step property) (count : Nat) :
    Gives (many count step) fun results =>
      results.length = count ∧ ∀ result ∈ results, property result := by
  induction count with
  | zero => exact gives_pure ⟨rfl, nofun⟩
  | succ count ih =>
    exact h.bind fun first hfirst => ih.bind fun rest hrest =>
      gives_pure ⟨congrArg Nat.succ hrest.1, List.forall_mem_cons.2 ⟨hfirst, hrest.2⟩⟩

end Runs

/-- What steps of two kinds have in common is common to their repetitions, when results have it and
when it passes from one step after another to both of them together. -/
theorem many_related {m n : Type → Type} [Monad m] [Monad n]
    (related : ∀ α : Type, m α → n α → Prop)
    (hpure : ∀ {α : Type} (result : α), related α (pure result) (pure result))
    (hbind : ∀ {α β : Type} {step : m α} {other : n α} {next : α → m β} {further : α → n β},
      related α step other → (∀ result, related β (next result) (further result)) →
        related β (step >>= next) (other >>= further))
    {α : Type} {step : m α} {other : n α} (h : related α step other) (count : Nat) :
    related (List α) (many count step) (many count other) := by
  induction count with
  | zero => exact hpure []
  | succ count ih =>
    exact hbind h fun first => hbind ih fun rest => hpure (first :: rest)

namespace Draw

/-- The steps for the elements of a list give what each of them gives. -/
theorem gives_forEach {α β : Type} {step : α → Draw β} {property : α → β → Prop} {items : List α}
    (h : ∀ item ∈ items, Gives (step item) (property item)) :
    Gives (forEach step items) fun results => List.Forall₂ property items results := by
  induction items with
  | nil => exact gives_pure .nil
  | cons item items ih =>
    have hfirst := h item (List.mem_cons_self ..)
    have hrest := ih fun other ho => h other (List.mem_cons_of_mem _ ho)
    exact hfirst.bind fun first hf => hrest.bind fun rest hr => gives_pure (.cons hf hr)

/-! ## Bounds of words and numbers -/

/-- A word is one of the words of its width. -/
theorem word_lt (width : Width) (source : Source) : ((word width).run source).1 < width.count := by
  cases width with
  | w32 => exact (source.word source.position).toNat_lt
  | w64 =>
    have hlow := (source.word source.position).toNat_lt
    have hhigh := (source.word (source.position + 1)).toNat_lt
    change (source.word source.position).toNat +
      (source.word (source.position + 1)).toNat * 0x100000000 < 0x10000000000000000
    omega

/-- The high half of the product of a word with a bound is below the bound, and so is its
successor when the low half leaves room for a carry only.

**Proof sketch.** The product is at most `count * bound - bound`. A high half of `bound - 1` takes
`count * bound - count` of it, which leaves at most `count - bound` for the low half. -/
theorem high_lt {count bound word : Nat} (hword : word < count) (hbound : 0 < bound) :
    word * bound / count < bound ∧
      (count - bound < word * bound % count → word * bound / count + 1 < bound) := by
  have hcount : 0 < count := by omega
  have hproduct : word * bound + bound ≤ count * bound := by
    have := Nat.mul_le_mul_right bound hword
    rwa [Nat.succ_mul] at this
  have hsplit := Nat.div_add_mod (word * bound) count
  refine ⟨?_, fun hlow => ?_⟩
  · rw [Nat.div_lt_iff_lt_mul hcount, Nat.mul_comm bound count]
    omega
  · rcases Nat.lt_or_ge (word * bound / count + 1) bound with h | h
    · exact h
    · have hhigh : count * bound ≤ count * (word * bound / count) + count := by
        rw [← Nat.mul_succ]
        exact Nat.mul_le_mul_left count h
      omega

/-- **A number below a bound** is below the bound. -/
theorem below_lt (width : Width) {bound : Nat} (hbound : 0 < bound) (source : Source) :
    ((below width bound).run source).1 < bound := by
  obtain ⟨hhigh, hcarry⟩ := high_lt (word_lt width source) hbound
  rw [below, run_bind]
  generalize ((word width).run source).1 = first at hhigh hcarry
  dsimp only
  split
  · rename_i hlow
    rw [run_bind, run_pure]
    dsimp only
    split
    · exact hcarry hlow
    · exact hhigh
  · exact hhigh

/-- A position in a list that has elements is one of the list. -/
theorem index_lt {length : Nat} (h : 0 < length) (source : Source) :
    ((index length).run source).1 < length := by
  unfold index
  split
  · exact h
  · exact below_lt _ h source

/-- **An integer between two bounds** is between the bounds.

**Proof sketch.** Bounds with all words between them are the ends of the range, and a word is read
as a number of the range. Otherwise an offset below the number of integers is added to the lower
bound. -/
theorem integer_mem {a b : Int} (ha : Integer.InRange a) (hb : Integer.InRange b)
    (source : Source) :
    min a b ≤ ((integer a b).run source).1 ∧ ((integer a b).run source).1 ≤ max a b := by
  unfold Integer.InRange Integer.least Integer.greatest at ha hb
  unfold integer
  dsimp only
  split
  · rename_i heq
    exact ⟨Int.le_refl _, Int.le_of_eq heq⟩
  · split
    · rename_i hne hwhole
      have hword : ((word .w64).run source).1 < Width.w64.count := word_lt .w64 source
      simp only [Width.count] at hwhole hword
      rw [run_bind, run_pure]
      change min a b ≤ signed ((word .w64).run source).1 ∧ signed ((word .w64).run source).1 ≤ _
      simp only [signed, Width.count]
      split <;> omega
    · have hbound : 0 < (max a b - min a b + 1).toNat := by omega
      have hoffset := below_lt .w64 hbound source
      rw [run_bind, run_pure]
      dsimp only
      omega

/-- Equal bounds leave one integer. -/
theorem integer_self (n : Int) : integer n n = pure n := by
  simp [integer]

/-! ## Texts of pools -/

/-- What is chosen from a list that has elements is one of them. -/
theorem gives_choose {α : Type} {items : List α} (hitems : items ≠ []) (filler : α) :
    Gives (choose items.toArray filler) (· ∈ items) := by
  have hposition : Gives (position items.length) (· < items.length) :=
    below_lt _ (List.length_pos_iff.2 hitems)
  exact hposition.bind fun n hn => gives_pure (by simp [Array.getD, hn])

/-- **A text of a length** has so many characters, all from the pool. -/
theorem gives_text {pool : List Char} (hpool : pool ≠ []) (length : Nat) :
    Gives (text length pool) fun text => text.length = length ∧ ∀ c ∈ text, c ∈ pool := by
  rw [text, if_neg (by simpa using hpool)]
  exact (gives_choose hpool ' ').many length

/-- A length that is drawn between two lengths is between them, in either order. -/
theorem gives_integer_ofLength {a b : Nat} (ha : Integer.InRange a) (hb : Integer.InRange b) :
    Gives (integer (Integer.ofLength a) (Integer.ofLength b)) fun n =>
      min a b ≤ n.toNat ∧ n.toNat ≤ max a b := by
  rw [Integer.ofLength_eq_self ha, Integer.ofLength_eq_self hb]
  intro source
  obtain ⟨hlow, hhigh⟩ := integer_mem ha hb source
  omega

/-- **A text with a length between bounds**, in either order, has its characters from the pool. -/
theorem gives_textBetween_minmax {a b : Nat} (ha : Integer.InRange a) (hb : Integer.InRange b)
    {pool : List Char} (hpool : pool ≠ []) :
    Gives (textBetween a b pool) fun text =>
      (min a b ≤ text.length ∧ text.length ≤ max a b) ∧ ∀ c ∈ text, c ∈ pool := by
  refine (gives_integer_ofLength ha hb).bind fun n hn => ?_
  intro source
  obtain ⟨hlength, hmem⟩ := gives_text hpool n.toNat source
  refine ⟨?_, hmem⟩
  rw [hlength]
  exact hn

/-- The same for bounds in order. -/
theorem gives_textBetween {a b : Nat} (hab : a ≤ b) (hb : Integer.InRange b) {pool : List Char}
    (hpool : pool ≠ []) :
    Gives (textBetween a b pool) fun text =>
      (a ≤ text.length ∧ text.length ≤ b) ∧ ∀ c ∈ text, c ∈ pool := by
  have ha : Integer.InRange a := by
    unfold Integer.InRange Integer.least at hb ⊢
    omega
  have h := gives_textBetween_minmax ha hb hpool
  rwa [Nat.min_eq_left hab, Nat.max_eq_right hab] at h

end Draw

end Specimen
