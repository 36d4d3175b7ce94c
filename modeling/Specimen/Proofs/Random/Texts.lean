import Mathlib.Algebra.Group.Nat.Even
import Specimen.Proofs.Random.Draws
import Specimen.Random.Word

set_option autoImplicit false

/-!
# Lengths of random texts

The length of a random text is asked for, or drawn between two lengths in either order. Lengths
count characters, whatever the characters are. A text of a pool has them all from the pool; only an
empty pool leaves nothing to take them from. A word is cut to its length, or small letters are added
behind it.

## Main definitions

* `Specimen.Draw.IsFitted` — what a word is cut or padded to.

## Main results

* `Specimen.Draw.gives_fitted` — a word that is cut or padded has a length between its bounds.
* `Specimen.Draw.texts_have_lengths` — the lengths and the characters of random texts.
-/

namespace Specimen.Draw

/-! ## Texts of pools -/

/-- There is no text of an empty pool but the empty one. -/
theorem text_nil (length : Nat) : text length [] = pure [] := rfl

theorem gives_textBetween_nil (a b : Nat) : Gives (textBetween a b []) (· = []) := fun _ => rfl

/-! ## Words -/

/-- A word is cut or padded to a text: the text is the front of the word, or the word with small
letters behind it. -/
inductive IsFitted (word : List Char) : List Char → Prop
  /-- The word is cut. -/
  | cut {text : List Char} : text <+: word → IsFitted word text
  /-- The word is padded. -/
  | padded {padding : List Char} : (∀ c ∈ padding, c.isLower = true) →
    IsFitted word (word ++ padding)

/-- **A word that is cut or padded** has a length between its bounds, in either order.

**Proof sketch.** The length that is drawn lies between the bounds. A longer word is cut to it, and
a shorter one is padded with as many letters as are missing. -/
theorem gives_fitted (word : List Char) {a b : Nat} (ha : Integer.InRange a)
    (hb : Integer.InRange b) :
    Gives (fitted word a b) fun text =>
      (min a b ≤ text.length ∧ text.length ≤ max a b) ∧ IsFitted word text := by
  refine (gives_integer_ofLength ha hb).bind fun n hn => ?_
  dsimp only
  split
  · rename_i hle
    refine gives_pure ⟨?_, .cut (List.take_prefix _ _)⟩
    rwa [List.length_take, Nat.min_eq_left hle]
  · rename_i hlt
    have hpool : Pool.lowercase ≠ [] := by decide
    have hlower : Pool.lowercase.all Char.isLower = true := by decide
    refine (gives_text hpool _).bind fun padding ⟨hlength, hmem⟩ =>
      gives_pure ⟨?_, .padded fun c hc => List.all_eq_true.1 hlower c (hmem c hc)⟩
    have htotal : (word ++ padding).length = n.toNat := by
      rw [List.length_append, hlength]
      omega
    rwa [htotal]

/-- An entry of a list that has entries is one of them. -/
theorem gives_entry {words : Array String} (h : words.toList ≠ []) :
    Gives (entry words) (· ∈ words) := by
  have hchoose := gives_choose h ""
  simpa only [entry, Array.toArray_toList, Array.mem_toList_iff] using hchoose

/-- What comes of a word that is drawn in any way, and then cut or padded. -/
theorem run_bind_fitted (step : Draw String) (a b : Nat) (source : Source) :
    ((step >>= fun word => fitted word.toList a b >>= fun fit =>
        pure (String.ofList fit)).run source).1 =
      String.ofList ((fitted (step.run source).1.toList a b).run (step.run source).2).1 := rfl

theorem gives_fillerWord : Gives fillerWord (· ∈ Vocabulary.fillerWords) := by
  refine gives_entry ?_
  -- The list is opened by rewriting, so that none of its words is looked at.
  rw [Vocabulary.fillerWords]
  exact Vocabulary.toList_items_cons_ne_nil _ _

/-! ## Lengths -/

/-- A length below the end of the range is in range. -/
theorem inRange_of_lt {length : Nat} (h : length < 2 ^ 63) : Integer.InRange length := by
  unfold Integer.InRange Integer.least Integer.greatest
  omega

/-- **Random texts have the length that is asked for.** A text of a pool has exactly so many
characters, all from the pool; the text of an empty pool is empty. So is a text with a length
between two bounds when the pool is empty, and otherwise its length is between the bounds, in either
order. Any word is cut or padded to a length between the bounds, and so is the word that is drawn
from the list of words.

**Proof sketch.** A length in range is drawn as it is. Each character is chosen from the pool. The
small letters behind a word make up for what it is too short. -/
theorem texts_have_lengths {a b : Nat} (ha : a < 2 ^ 63) (hb : b < 2 ^ 63) (pool : List Char) :
    (∀ length, Gives (text length pool) fun text =>
      text.length = (if pool = [] then 0 else length) ∧ ∀ c ∈ text, c ∈ pool) ∧
    (Gives (textBetween a b pool) fun text =>
      (if pool = [] then text = [] else min a b ≤ text.length ∧ text.length ≤ max a b) ∧
        ∀ c ∈ text, c ∈ pool) ∧
    (∀ word, Gives (fitted word a b) fun text =>
      (min a b ≤ text.length ∧ text.length ≤ max a b) ∧ IsFitted word text) ∧
    ∀ source, (fillerWord.run source).1 ∈ Vocabulary.fillerWords ∧
      (min a b ≤ ((wordBetween a b).run source).1.length ∧
        ((wordBetween a b).run source).1.length ≤ max a b) ∧
      IsFitted (fillerWord.run source).1.toList ((wordBetween a b).run source).1.toList := by
  have ha := inRange_of_lt ha
  have hb := inRange_of_lt hb
  refine ⟨fun length => ?_, ?_, fun word => gives_fitted word ha hb, fun source => ?_⟩
  · by_cases hpool : pool = []
    · subst hpool
      rw [text_nil]
      exact gives_pure ⟨rfl, List.forall_mem_nil _⟩
    · simpa only [if_neg hpool] using gives_text hpool length
  · by_cases hpool : pool = []
    · subst hpool
      intro source
      rw [gives_textBetween_nil a b source]
      exact ⟨rfl, List.forall_mem_nil _⟩
    · simpa only [if_neg hpool] using gives_textBetween_minmax ha hb hpool
  · have hfitted := gives_fitted (fillerWord.run source).1.toList ha hb (fillerWord.run source).2
    rw [wordBetween, run_bind_fitted, String.length_ofList, String.toList_ofList]
    exact ⟨gives_fillerWord source, hfitted⟩

/-- Characters of more than one byte count as one each, in the pool and in the word. -/
theorem texts_have_lengths_wide :
    4 < 2 ^ 63 ∧ 2 < 2 ^ 63 ∧
    Gives (text 9 "é漢😀".toList) (fun text => text.length = 9 ∧ ∀ c ∈ text, c ∈ "é漢😀".toList) ∧
    Gives (textBetween 4 2 "é漢😀".toList) (fun text => 2 ≤ text.length ∧ text.length ≤ 4) ∧
    Gives (fitted "你好世界".toList 4 2) fun text =>
      (2 ≤ text.length ∧ text.length ≤ 4) ∧ IsFitted "你好世界".toList text := by
  have hbounds : 4 < 2 ^ 63 ∧ 2 < 2 ^ 63 := by decide
  obtain ⟨htext, hbetween, hword, -⟩ :=
    texts_have_lengths hbounds.1 hbounds.2 "é漢😀".toList
  exact ⟨hbounds.1, hbounds.2, htext 9, fun source => (hbetween source).1, hword _⟩

/-- An empty pool has no text of two or three characters. -/
theorem textBetween_of_empty_pool :
    ¬∀ (pool : List Char) (a b : Nat), a < 2 ^ 63 → b < 2 ^ 63 →
      Gives (textBetween a b pool) fun text => min a b ≤ text.length ∧ text.length ≤ max a b := by
  intro h
  have hlength := (h [] 2 3 (by decide) (by decide) default).1
  rw [gives_textBetween_nil 2 3 default] at hlength
  exact absurd hlength (by decide)

end Specimen.Draw
