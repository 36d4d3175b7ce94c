set_option autoImplicit false

/-!
# Dictionaries that keep the order of insertion

A dictionary is a list of names with their values. Setting a name that is present replaces its
value where it stands; a new name goes to the end. Objects, counters, stores of earlier values and
registries are dictionaries.

## Main definitions

* `Specimen.Dictionary` — names with values, in order of first insertion.
* `Specimen.Dictionary.get?`, `Specimen.Dictionary.set`, `Specimen.Dictionary.erase` — look-up,
  insertion and removal.

## Main results

* `Specimen.Dictionary.get?_set` — what a look-up finds after an insertion.
* `Specimen.Dictionary.get?_erase` — what a look-up finds after a removal.
* `Specimen.Dictionary.get?_eq_some_iff` — a look-up finds the entries.
* `Specimen.Dictionary.names_set`, `Specimen.Dictionary.set_eq_append` — a new name goes to the end.
* `Specimen.Dictionary.nodup_names_set`, `Specimen.Dictionary.nodup_names_erase` — names stay
  different.
* `Specimen.Dictionary.ofEntries_eq_self` — a dictionary is made by its own entries.
-/

namespace Specimen

/-- Names with their values, in order of first insertion. -/
abbrev Dictionary (α : Type) := List (String × α)

namespace Dictionary

variable {α : Type}

/-- The value under a name. -/
def get? : Dictionary α → String → Option α
  | [], _ => none
  | (key, value) :: rest, name => if key = name then some value else get? rest name

/-- Puts a value under a name, in place when the name is present and at the end otherwise. -/
def set : Dictionary α → String → α → Dictionary α
  | [], name, value => [(name, value)]
  | (key, old) :: rest, name, value =>
    if key = name then (key, value) :: rest else (key, old) :: set rest name value

/-- Takes a name out. -/
def erase (entries : Dictionary α) (name : String) : Dictionary α :=
  entries.filter fun entry => entry.1 ≠ name

/-- A name is present. -/
def contains (entries : Dictionary α) (name : String) : Bool := (get? entries name).isSome

/-- The names, in order. -/
def names (entries : Dictionary α) : List String := entries.map Prod.fst

/-- The dictionary that a list of entries makes when they are set from left to right. -/
def ofEntries (entries : List (String × α)) : Dictionary α :=
  entries.foldl (fun made (name, value) => set made name value) []

/-! ## Look-up after a change -/

theorem get?_set (entries : Dictionary α) (name other : String) (value : α) :
    get? (set entries name value) other =
      if name = other then some value else get? entries other := by
  induction entries with
  | nil => simp [set, get?]
  | cons entry rest ih =>
    obtain ⟨key, old⟩ := entry
    simp only [set]
    split
    · rename_i h
      subst h
      simp only [get?]
      split <;> rfl
    · rename_i h
      simp only [get?, ih]
      split
      · rename_i hk
        subst hk
        simp [Ne.symm h]
      · rfl

theorem get?_erase (entries : Dictionary α) (name other : String) :
    get? (erase entries name) other = if name = other then none else get? entries other := by
  induction entries with
  | nil => simp [erase, get?]
  | cons entry rest ih =>
    obtain ⟨key, old⟩ := entry
    simp only [erase, List.filter_cons] at ih ⊢
    by_cases h : key = name
    · subst h
      by_cases ho : key = other <;> simp_all [get?]
    · by_cases ho : key = other
      · subst ho
        simp [get?, h, Ne.symm h]
      · simp_all [get?]

/-! ## Names after a change -/

theorem names_set (entries : Dictionary α) (name : String) (value : α) :
    (entries.set name value).names =
      if name ∈ entries.names then entries.names else entries.names ++ [name] := by
  induction entries with
  | nil => rfl
  | cons entry rest ih =>
    obtain ⟨key, old⟩ := entry
    by_cases hkey : key = name
    · simp [set, names, hkey]
    · have hmem : name ∈ names ((key, old) :: rest) ↔ name ∈ names rest := by
        simp [names, Ne.symm hkey]
      have hcons : (set ((key, old) :: rest) name value).names =
          key :: (set rest name value).names := by
        simp [set, names, hkey]
      rw [hcons, ih]
      simp only [hmem]
      split <;> rfl

theorem set_eq_append {entries : Dictionary α} {name : String} (h : name ∉ entries.names)
    (value : α) : entries.set name value = entries ++ [(name, value)] := by
  induction entries with
  | nil => rfl
  | cons entry rest ih =>
    obtain ⟨hfirst, hrest⟩ := not_or.1 (mt List.mem_cons.2 h)
    obtain ⟨key, old⟩ := entry
    rw [set, if_neg fun heq => hfirst heq.symm, ih hrest, List.cons_append]

/-- A dictionary with each name once is made by its own entries. -/
theorem ofEntries_eq_self {entries : Dictionary α} (h : entries.names.Nodup) :
    ofEntries entries = entries := by
  have hloop : ∀ made rest : Dictionary α, (made ++ rest).names.Nodup →
      rest.foldl (fun made entry => set made entry.1 entry.2) made = made ++ rest := by
    intro made rest
    induction rest generalizing made with
    | nil => simp
    | cons entry rest ih =>
      intro hnodup
      have hnew : entry.1 ∉ made.names := by
        intro hmem
        rw [names, List.map_append] at hnodup
        exact (List.nodup_append.1 hnodup).2.2 _ hmem _ (List.mem_cons_self ..) rfl
      rw [List.append_cons] at hnodup ⊢
      rw [List.foldl_cons, set_eq_append hnew]
      exact ih _ hnodup
  exact hloop [] entries h

theorem mem_names_set {entries : Dictionary α} {name other : String} {value : α} :
    other ∈ (entries.set name value).names ↔ other = name ∨ other ∈ entries.names := by
  rw [names_set]
  split
  · rename_i h
    exact ⟨Or.inr, fun hmem => hmem.elim (fun heq => heq ▸ h) id⟩
  · rw [List.mem_append, List.mem_singleton, or_comm]

theorem nodup_names_set {entries : Dictionary α} (h : entries.names.Nodup) (name : String)
    (value : α) : (entries.set name value).names.Nodup := by
  rw [names_set]
  split
  · exact h
  · rename_i hnew
    refine List.nodup_append.2 ⟨h, List.nodup_cons.2 ⟨List.not_mem_nil, List.nodup_nil⟩, ?_⟩
    intro other hother last hlast heq
    exact hnew (List.mem_singleton.1 hlast ▸ heq ▸ hother)

theorem nodup_names_erase {entries : Dictionary α} (h : entries.names.Nodup) (name : String) :
    (entries.erase name).names.Nodup :=
  List.Nodup.sublist (List.Sublist.map _ List.filter_sublist) h

theorem mem_set {entries : Dictionary α} {name : String} {value : α} {entry : String × α}
    (h : entry ∈ entries.set name value) : entry = (name, value) ∨ entry ∈ entries := by
  induction entries with
  | nil => exact Or.inl (List.mem_singleton.1 h)
  | cons first rest ih =>
    obtain ⟨key, old⟩ := first
    simp only [set] at h
    split at h
    · rename_i hkey
      subst hkey
      rcases List.mem_cons.1 h with heq | hrest
      · exact Or.inl heq
      · exact Or.inr (List.mem_cons_of_mem _ hrest)
    · rcases List.mem_cons.1 h with heq | hrest
      · exact Or.inr (heq ▸ List.mem_cons_self ..)
      · exact (ih hrest).imp_right (List.mem_cons_of_mem _)

theorem mem_names_of_get? {entries : Dictionary α} {name : String} {value : α}
    (h : entries.get? name = some value) : name ∈ entries.names := by
  induction entries with
  | nil => cases h
  | cons entry rest ih =>
    obtain ⟨key, old⟩ := entry
    rw [get?] at h
    split at h
    · rename_i hkey
      exact hkey ▸ List.mem_cons_self ..
    · exact List.mem_cons_of_mem _ (ih h)

theorem get?_eq_none_iff {entries : Dictionary α} {name : String} :
    entries.get? name = none ↔ name ∉ entries.names := by
  induction entries with
  | nil => exact iff_of_true rfl List.not_mem_nil
  | cons entry rest ih =>
    obtain ⟨key, old⟩ := entry
    have hcons : name ∈ names ((key, old) :: rest) ↔ name = key ∨ name ∈ names rest :=
      List.mem_cons
    rw [get?, hcons, not_or]
    split
    · rename_i hkey
      exact iff_of_false nofun fun h => h.1 hkey.symm
    · rename_i hkey
      rw [ih, and_iff_right (Ne.symm hkey)]

/-- Where each name comes once, a look-up finds all entries. -/
theorem get?_eq_some_iff {entries : Dictionary α} (h : entries.names.Nodup) {name : String}
    {value : α} : entries.get? name = some value ↔ (name, value) ∈ entries := by
  induction entries with
  | nil => exact iff_of_false nofun List.not_mem_nil
  | cons entry rest ih =>
    obtain ⟨key, old⟩ := entry
    obtain ⟨hnew, hrest⟩ := List.nodup_cons.1 h
    rw [get?, List.mem_cons, Prod.mk.injEq]
    split
    · rename_i hkey
      subst hkey
      have hgone : (key, value) ∉ rest := fun hmem =>
        hnew (List.mem_map.2 ⟨_, hmem, rfl⟩)
      rw [or_iff_left hgone, and_iff_right rfl, Option.some.injEq, eq_comm]
    · rename_i hkey
      rw [ih hrest, or_iff_right fun heq => hkey heq.1.symm]

theorem contains_iff {entries : Dictionary α} {name : String} :
    entries.contains name = true ↔ name ∈ entries.names := by
  rw [contains, Option.isSome_iff_ne_none, ne_eq, get?_eq_none_iff, Classical.not_not]

/-! ## Changes one after the other -/

/-- The later of two values under one name stays. -/
theorem set_set (entries : Dictionary α) (name : String) (first second : α) :
    (entries.set name first).set name second = entries.set name second := by
  induction entries with
  | nil => simp [set]
  | cons entry rest ih =>
    obtain ⟨key, old⟩ := entry
    by_cases hkey : key = name <;> simp [set, hkey, ih]

/-- The value of a name that is there can be changed before or after that of another name. -/
theorem set_comm {entries : Dictionary α} {name other : String} (hname : name ∈ entries.names)
    (hne : name ≠ other) (value further : α) :
    (entries.set other further).set name value = (entries.set name value).set other further := by
  induction entries with
  | nil => cases hname
  | cons entry rest ih =>
    obtain ⟨key, old⟩ := entry
    by_cases hkey : key = name
    · subst hkey
      simp [set, hne]
    · have hrest : name ∈ names rest := by simpa [names, Ne.symm hkey] using hname
      by_cases hother : key = other
      · subst hother
        simp [set, hkey]
      · simp [set, hkey, hother, ih hrest]

end Dictionary

end Specimen
