import Specimen.Command.Folder

set_option autoImplicit false

/-!
# Paths in a folder that changes

A path leads to a name only through folders that are there already. A text under such a name makes
no new folders, so that after it all paths lead where they led before, and the effects of a run can
be followed one by one: each changes what is under the name that its path led to from the start.

## Main definitions

* `Specimen.Command.Folder.IsReached` — steps that lead through folders.
* `Specimen.Command.Folder.contents` — what a folder holds.

## Main results

* `Specimen.Command.Folder.locate?_set` — paths lead where they led before.
* `Specimen.Command.Folder.contents_after` — what a folder holds after a run.
-/

namespace Specimen.Command.Folder

/-! ## Names of steps -/

theorem toList_nameOf_cons_cons (first second : String) (rest : List String) :
    (nameOf (first :: second :: rest)).toList =
      first.toList ++ '/' :: (nameOf (second :: rest)).toList := by
  rw [nameOf, String.toList_intercalate, List.map_cons, List.map_cons, List.intercalate_cons_cons,
    ← List.map_cons, ← String.toList_intercalate, List.append_assoc]
  rfl

/-- What is written before a slash in the name of steps is the name of some of them. -/
theorem exists_take_of_prefix {steps : List String} (hsteps : ∀ step ∈ steps, '/' ∉ step.toList)
    {front : List Char} (h : front ++ ['/'] <+: (nameOf steps).toList) :
    ∃ k, 0 < k ∧ k < steps.length ∧ front = (nameOf (steps.take k)).toList := by
  induction steps generalizing front with
  | nil => simp [nameOf] at h
  | cons step steps ih =>
    have hstep := hsteps step (List.mem_cons_self ..)
    cases steps with
    | nil =>
      rw [nameOf, String.intercalate_singleton] at h
      exact absurd (h.subset (List.mem_append_right _ (List.mem_cons_self ..))) hstep
    | cons second rest =>
      have hone : step.toList = (nameOf ((step :: second :: rest).take 1)).toList := by
        rw [List.take_succ_cons, List.take_zero, nameOf, String.intercalate_singleton]
      obtain ⟨more, hmore⟩ := h
      rw [toList_nameOf_cons_cons, List.append_assoc, List.singleton_append] at hmore
      rcases List.append_eq_append_iff.1 hmore with ⟨between, hfront, hbehind⟩ |
        ⟨between, hfront, hbehind⟩
      · cases between with
        | nil => exact ⟨1, Nat.one_pos, by simp, by rw [← hone, hfront, List.append_nil]⟩
        | cons c between =>
          obtain rfl := (List.cons.inj hbehind).1
          exact absurd (hfront ▸ List.mem_append_right _ (List.mem_cons_self ..)) hstep
      · cases between with
        | nil => exact ⟨1, Nat.one_pos, by simp, by rw [← hone, hfront, List.append_nil]⟩
        | cons c between =>
          -- The slash stands behind the second step, or further on.
          obtain ⟨rfl, hname⟩ := List.cons.inj hbehind
          obtain ⟨k, hk, hlength, rfl⟩ := ih
            (fun other ho => hsteps other (List.mem_cons_of_mem _ ho))
            ⟨more, by rw [hname, List.append_assoc]; rfl⟩
          refine ⟨k + 1, Nat.succ_pos k, Nat.succ_lt_succ hlength, ?_⟩
          obtain ⟨k, rfl⟩ := Nat.exists_eq_succ_of_ne_zero (Nat.ne_of_gt hk)
          rw [List.take_succ_cons, List.take_succ_cons, toList_nameOf_cons_cons, hfront,
            List.take_succ_cons]

/-! ## Reaching names -/

/-- All steps but the last lead to folders, and no step has a slash. -/
structure IsReached (folder : Folder) (steps : List String) : Prop where
  /-- The steps lead through folders. -/
  isFolder : ∀ k < steps.length, folder.isFolder (steps.take k) = true
  /-- A slash separates steps. -/
  slash : ∀ step ∈ steps, '/' ∉ step.toList

section Walks

variable {folder : Folder}

/-- A step from a folder is reached. -/
theorem IsReached.append {before : List String} (h : folder.IsReached before)
    (hfolder : folder.isFolder before = true) {step : String} (hstep : '/' ∉ step.toList) :
    folder.IsReached (before ++ [step]) := by
  constructor
  · intro k hk
    rw [List.length_append, List.length_singleton] at hk
    rw [List.take_append_of_le_length (Nat.le_of_lt_succ hk)]
    rcases Nat.lt_or_ge k before.length with hlt | hge
    · exact h.isFolder k hlt
    · rwa [List.take_of_length_le hge]
  · intro other ho
    rcases List.mem_append.1 ho with hmem | hmem
    · exact h.slash other hmem
    · exact List.mem_singleton.1 hmem ▸ hstep

/-- So is what lies before. -/
theorem IsReached.dropLast {before : List String} (h : folder.IsReached before) :
    folder.IsReached before.dropLast := by
  constructor
  · intro k hk
    rw [List.length_dropLast] at hk
    rw [List.dropLast_eq_take, List.take_take, Nat.min_eq_left (Nat.le_of_lt hk)]
    exact h.isFolder k (Nat.lt_of_lt_of_le hk (Nat.sub_le ..))
  · exact fun step hstep => h.slash step (List.dropLast_subset _ hstep)

/-- Walks lead through folders. -/
theorem IsReached.of_walk? {before steps : List String} {rest : List (List Char)}
    (hbefore : folder.IsReached before) (hrest : ∀ step ∈ rest, '/' ∉ step)
    (h : folder.walk? before rest = some steps) : folder.IsReached steps := by
  induction rest generalizing before with
  | nil => exact Option.some.inj h ▸ hbefore
  | cons step rest ih =>
    obtain ⟨hstep, hothers⟩ := List.forall_mem_cons.1 hrest
    simp only [walk?] at h
    split at h
    · cases h
    · rename_i hfolder
      split at h
      · exact ih hbefore hothers h
      · split at h
        · split at h
          · cases h
          · exact ih hbefore.dropLast hothers h
        · refine ih (hbefore.append (by simpa using hfolder) ?_) hothers h
          rwa [String.toList_ofList]

/-- The name that a path leads to is reached, and no folder. -/
theorem exists_of_locate? {path name : String} (h : folder.locate? path = some name) :
    ∃ steps, folder.IsReached steps ∧ folder.isFolder steps = false ∧ name = nameOf steps := by
  unfold locate? at h
  dsimp only at h
  split at h
  · cases h
  · obtain ⟨steps, hwalk, hname⟩ := Option.bind_eq_some_iff.1 h
    have hreached : folder.IsReached [] := ⟨nofun, nofun⟩
    split at hname
    · cases hname
    · rename_i hfolder
      exact ⟨steps, hreached.of_walk? (fun _ => Text.not_mem_of_mem_splitOn) hwalk,
        by simpa using hfolder, (Option.some.inj hname).symm⟩

/-- **A text under a name that a path leads to makes no folders**: those before its last step were
there.

**Proof sketch.** A name that is new is that of steps all but the last of which lead to folders, and
what is written before one of its slashes is the name of some of these steps. -/
theorem isFolder_set {path name : String} (h : folder.locate? path = some name) (text : String)
    (steps : List String) :
    isFolder (folder.set name text) steps = folder.isFolder steps := by
  obtain ⟨reached, hreached, -, rfl⟩ := exists_of_locate? h
  have hany : ∀ {entries : Folder} {steps : List String}, steps ≠ [] →
      (entries.isFolder steps = true ↔
        ∃ other ∈ entries.names, (nameOf steps).toList ++ ['/'] <+: other.toList) := by
    intro entries steps hne
    simp [isFolder, hne]
  by_cases hne : steps = []
  · rw [hne]
    rfl
  rw [Bool.eq_iff_iff, hany hne, hany hne]
  constructor
  · rintro ⟨other, hother, hprefix⟩
    rcases Dictionary.mem_names_set.1 hother with rfl | hother
    · obtain ⟨k, hk, hlength, hname⟩ := exists_take_of_prefix hreached.slash hprefix
      have htake : reached.take k ≠ [] := by
        rw [Ne, List.take_eq_nil_iff, not_or]
        exact ⟨Nat.ne_of_gt hk, List.ne_nil_of_length_pos (Nat.zero_lt_of_lt hlength)⟩
      rw [hname]
      exact (hany htake).1 (hreached.isFolder k hlength)
    · exact ⟨other, hother, hprefix⟩
  · rintro ⟨other, hother, hprefix⟩
    exact ⟨other, Dictionary.mem_names_set.2 (.inr hother), hprefix⟩

/-- **Paths lead where they led before.** -/
theorem locate?_set {path name : String} (h : folder.locate? path = some name) (text : String)
    (other : String) : locate? (folder.set name text) other = folder.locate? other := by
  have hwalk : ∀ (rest : List (List Char)) (before : List String),
      walk? (folder.set name text) before rest = folder.walk? before rest := by
    intro rest
    induction rest with
    | nil => exact fun _ => rfl
    | cons step rest ih =>
      intro before
      simp only [walk?, isFolder_set h, ih]
  simp only [locate?, hwalk, isFolder_set h]

end Walks

/-! ## Runs -/

variable {folder : Folder}

/-- No device lies in a folder. -/
theorem locate?_eq_none_of_device {path : String} {device : Device}
    (h : Device.ofPath? path = some device) : folder.locate? path = none := by
  have hhead : path.toList.head? = some '/' := by
    unfold Device.ofPath? at h
    split at h
    · rename_i rest hpath
      rw [hpath]
      rfl
    · cases h
  exact if_pos (Or.inl hhead)

/-- A path that leads to no name leads to no file. -/
theorem place_ne_file {path : String} (h : folder.locate? path = none) (name : String) :
    folder.place path ≠ .file name := by
  unfold place
  split
  · exact nofun
  · exact nofun
  · rw [h]
    exact nofun

/-- A path that leads to a name leads to its file. -/
theorem place_eq_file {path name : String} (h : folder.locate? path = some name) :
    folder.place path = .file name := by
  cases hdevice : Device.ofPath? path with
  | some device => exact absurd (h.symm.trans (locate?_eq_none_of_device hdevice)) nofun
  | none => rw [place, hdevice, h]

theorem files_place (folder : Folder) (input : Option String) :
    (folder.files input).place = folder.place := rfl

/-- What a folder holds. -/
def contents (folder : Folder) : Contents := fun name => (folder.get? name).map String.toUTF8

/-- A text under a name changes what is held under this name. -/
theorem contents_set (folder : Folder) {path name : String} (h : folder.locate? path = some name)
    {text : String} {held : Option ByteArray → ByteArray}
    (htext : text.toUTF8 = held (folder.contents name)) :
    contents (folder.set name text) = folder.contents.put (folder.place path) held := by
  funext other
  rw [place_eq_file h]
  simp only [contents, Contents.put, Dictionary.get?_set]
  by_cases hother : name = other
  · rw [if_pos hother, if_pos hother, Option.map_some, htext]
    rfl
  · rw [if_neg hother, if_neg hother]

/-- Where no name is led to nothing changes. -/
theorem contents_put_of_none {path : String} (h : folder.locate? path = none)
    (held : Option ByteArray → ByteArray) :
    folder.contents.put (folder.place path) held = folder.contents := by
  cases hplace : folder.place path with
  | file name => exact absurd hplace (place_ne_file h name)
  | output | other => rfl

/-- An effect does to a folder what it does to files. -/
theorem contents_apply (folder : Folder) (input : Option String) (effect : Effect) :
    (folder.apply effect).contents = folder.contents.apply (folder.files input) effect := by
  cases effect with
  | print text => rfl
  | write path text =>
    rw [Contents.apply, files_place]
    cases hname : folder.locate? path with
    | none => rw [contents_put_of_none hname, apply, hname]
    | some name =>
      rw [apply, hname]
      exact contents_set folder hname rfl
  | append path text =>
    rw [Contents.apply, files_place]
    cases hname : folder.locate? path with
    | none => rw [contents_put_of_none hname, apply, hname]
    | some name =>
      rw [apply, hname]
      refine contents_set folder hname ?_
      cases hheld : folder.get? name with
      | none => simp [contents, hheld]
      | some held => simp [contents, hheld]

/-- Paths lead where they led before an effect. -/
theorem locate?_apply (folder : Folder) (effect : Effect) :
    (folder.apply effect).locate? = folder.locate? := by
  cases effect with
  | print text => rfl
  | write path text | append path text =>
    cases hname : folder.locate? path with
    | none => simp only [apply, hname]
    | some name =>
      simp only [apply, hname]
      exact funext (locate?_set hname _)

/-- **What a folder holds after a run** is what files hold after it, by the places to which paths
led at the start.

**Proof sketch.** By induction on the effects. Each does to the folder what it does to files, and
leaves all paths leading where they led. -/
theorem contents_after (folder : Folder) (input : Option String) (outcome : Outcome) :
    (folder.after outcome).contents = outcome.contents (folder.files input) folder.contents := by
  have hfoldl : ∀ (effects : List Effect) (now : Folder), now.locate? = folder.locate? →
      (effects.foldl apply now).contents =
        effects.foldl (Contents.apply (folder.files input)) now.contents := by
    intro effects
    induction effects with
    | nil => exact fun _ _ => rfl
    | cons effect effects ih =>
      intro now hnow
      have hplace : now.place = folder.place := by
        funext path
        rw [place, place, hnow]
      have hfiles : now.contents.apply (folder.files input) effect =
          now.contents.apply (now.files input) effect := by
        cases effect with
        | print text => rfl
        | write path text | append path text => simp only [Contents.apply, files, hplace]
      rw [List.foldl_cons, List.foldl_cons, hfiles, ← contents_apply,
        ih _ ((locate?_apply now effect).trans hnow)]
  exact hfoldl outcome.effects folder rfl

end Specimen.Command.Folder
