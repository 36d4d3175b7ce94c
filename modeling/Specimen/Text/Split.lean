set_option autoImplicit false

/-!
# Cutting a text at a separator

## Main definitions

* `Specimen.Text.cut?` — the parts before and after the first separator.

## Main results

* `Specimen.Text.cut?_eq_some_iff` — a cut gives back the text, and the part before it has no
  separator.
* `Specimen.Text.splitOn_eq_pair_iff`, `Specimen.Text.not_mem_of_mem_splitOn` — the parts between
  separators.
* `Specimen.Text.takeWhile_run` — a run of characters ends at the first one of another kind.
-/

namespace Specimen.Text

/-- The parts before and after the first separator; nothing when there is none. -/
def cut? (separator : Char) : List Char → Option (List Char × List Char)
  | [] => none
  | c :: rest =>
    if c = separator then some ([], rest)
    else (cut? separator rest).map fun (before, after) => (c :: before, after)

/-- A cut is exactly a way to write the text around a separator that is the first one. -/
theorem cut?_eq_some_iff {separator : Char} {text before after : List Char} :
    cut? separator text = some (before, after) ↔
      text = before ++ separator :: after ∧ separator ∉ before := by
  induction text generalizing before with
  | nil => simp [cut?]
  | cons c rest ih =>
    unfold cut?
    split
    · rename_i h
      subst h
      constructor
      · rintro h
        obtain ⟨rfl, rfl⟩ := Prod.mk.injEq .. ▸ Option.some.inj h
        simp
      · rintro ⟨h, hn⟩
        cases before with
        | nil => simpa using h
        | cons b before => simp_all
    · rename_i hc
      simp only [Option.map_eq_some_iff, Prod.exists, Prod.mk.injEq]
      constructor
      · rintro ⟨b, a, h, rfl, rfl⟩
        obtain ⟨rfl, hb⟩ := ih.1 h
        exact ⟨rfl, by simp [Ne.symm hc, hb]⟩
      · rintro ⟨h, hn⟩
        cases before with
        | nil => simp_all
        | cons b before =>
          simp only [List.cons_append, List.cons.injEq] at h
          obtain ⟨rfl, h⟩ := h
          exact ⟨before, after, ih.2 ⟨h, by simp_all⟩, rfl, rfl⟩

/-- There is no cut exactly when there is no separator. -/
theorem cut?_eq_none_iff {separator : Char} {text : List Char} :
    cut? separator text = none ↔ separator ∉ text := by
  induction text with
  | nil => simp [cut?]
  | cons c rest ih =>
    unfold cut?
    split
    · rename_i h
      simp [h]
    · rename_i h
      simp [ih, Ne.symm h]

/-! ## Parts between separators -/

variable {separator : Char}

/-- There is one part only when there is no separator. -/
theorem splitOn_eq_singleton_iff {text part : List Char} :
    text.splitOn separator = [part] ↔ text = part ∧ separator ∉ part := by
  constructor
  · intro h
    by_cases hmem : separator ∈ text
    · obtain ⟨before, after, rfl, hbefore⟩ := List.eq_append_cons_of_mem hmem
      rw [List.splitOn_append_cons_self_of_not_mem hbefore] at h
      exact absurd (List.cons.inj h).2 (List.splitOn_ne_nil separator after)
    · rw [List.splitOn_eq_singleton hmem] at h
      obtain rfl := List.singleton_inj.1 h
      exact ⟨rfl, hmem⟩
  · rintro ⟨rfl, hpart⟩
    exact List.splitOn_eq_singleton hpart

/-- **Two parts** are what stands on the two sides of the only separator. -/
theorem splitOn_eq_pair_iff {text first second : List Char} :
    text.splitOn separator = [first, second] ↔
      text = first ++ separator :: second ∧ separator ∉ first ∧ separator ∉ second := by
  constructor
  · intro h
    by_cases hmem : separator ∈ text
    · obtain ⟨before, after, rfl, hbefore⟩ := List.eq_append_cons_of_mem hmem
      rw [List.splitOn_append_cons_self_of_not_mem hbefore] at h
      obtain ⟨rfl, hrest⟩ := List.cons.inj h
      obtain ⟨rfl, hsecond⟩ := splitOn_eq_singleton_iff.1 hrest
      exact ⟨rfl, hbefore, hsecond⟩
    · rw [List.splitOn_eq_singleton hmem] at h
      cases h
  · rintro ⟨rfl, hfirst, hsecond⟩
    rw [List.splitOn_append_cons_self_of_not_mem hfirst, List.splitOn_eq_singleton hsecond]

/-- The parts have no separator. -/
theorem not_mem_of_mem_splitOn {text part : List Char} (h : part ∈ text.splitOn separator) :
    separator ∉ part := by
  induction text generalizing part with
  | nil =>
    obtain rfl := List.mem_singleton.1 h
    exact List.not_mem_nil
  | cons c rest ih =>
    rw [List.splitOn_cons_eq_if_modifyHead] at h
    split at h
    · rcases List.mem_cons.1 h with rfl | hrest
      · exact List.not_mem_nil
      · exact ih hrest
    · rename_i hc
      -- The character belongs to the first part of the rest.
      obtain ⟨first, parts, hsplit⟩ :=
        List.exists_cons_of_ne_nil (List.splitOn_ne_nil separator rest)
      rw [hsplit] at ih h
      rcases List.mem_cons.1 h with rfl | hother
      · have hfirst := ih (List.mem_cons_self ..)
        rintro (_ | ⟨_, hmem⟩)
        · exact hc (beq_self_eq_true _)
        · exact hfirst hmem
      · exact ih (List.mem_cons_of_mem _ hother)

/-! ## Runs of characters -/

/-- **A run of characters** ends at the first one of another kind. -/
theorem takeWhile_run {kind : Char → Bool} {run rest : List Char}
    (hrun : ∀ c ∈ run, kind c = true) (hrest : ∀ c ∈ rest.head?, kind c = false) :
    (run ++ rest).takeWhile kind = run ∧ (run ++ rest).dropWhile kind = rest := by
  rw [List.takeWhile_append_of_pos hrun, List.dropWhile_append_of_pos hrun]
  cases rest with
  | nil => simp
  | cons c rest => simp [hrest c rfl]

end Specimen.Text
