import Specimen.Command.Effect

set_option autoImplicit false

/-!
# What effects do

Effects are of three kinds: texts are printed, files get a new text, and texts are added to files.
The first two put something out in a place; what is said of these outputs and of the paths of
additions is therefore said of all effects. An effect shows on the standard output when it prints
or when its path leads there, and it changes no file but the one that its path leads to.

## Main definitions

* `Specimen.Command.Outcome.emissions` — the texts that a run prints, or makes the content of files.
* `Specimen.Command.Outcome.AppendsOnlyTo` — a run adds to at most one file.
* `Specimen.Command.Outcome.ChangesOnly` — a run changes at most the files at some paths.

## Main results

* `Specimen.Command.Outcome.printed_append` — what appears, effect by effect.
* `Specimen.Command.Outcome.contents_of_ne` — a file that no effect leads to stays as it is.
-/

namespace Specimen.Command

/-! ## Places of output -/

/-- The output of an effect with its place: a printed text, or the new content of a file. -/
def Effect.emission? : Effect → Option (Option String × String)
  | .print text => some (none, text)
  | .write path text => some (some path, text)
  | .append _ _ => none

/-- The path of what an effect changes. -/
def Effect.path? : Effect → Option String
  | .print _ => none
  | .write path _ => some path
  | .append path _ => some path

namespace Outcome

/-- The outputs of a run with their places, in order. -/
def emissions (outcome : Outcome) : List (Option String × String) :=
  outcome.effects.filterMap Effect.emission?

/-- What a run adds to files goes to one path, if there is one. -/
def AppendsOnlyTo (outcome : Outcome) (path? : Option String) : Prop :=
  ∀ path text, .append path text ∈ outcome.effects → path? = some path

/-- No file is made or changed by a run, those at some paths apart. -/
def ChangesOnly (outcome : Outcome) (files : Files) (paths : List String) : Prop :=
  ∀ (contents : Contents) (name : String), (∀ path ∈ paths, files.place path ≠ .file name) →
    outcome.contents files contents name = contents name

/-! ## The standard output -/

variable {files : Files} {status : Status}

theorem printed_append (before after : List Effect) :
    printed files ⟨status, before ++ after⟩ =
      printed files ⟨status, before⟩ ++ printed files ⟨status, after⟩ := by
  simp only [printed, List.map_append, String.join_append]

theorem printed_cons (effect : Effect) (effects : List Effect) :
    printed files ⟨status, effect :: effects⟩ =
      effect.printed files ++ printed files ⟨status, effects⟩ := by
  simp only [printed, List.map_cons, String.join_cons]

/-- Texts that are printed appear one after the other. -/
theorem printed_map_print (texts : List String) :
    printed files ⟨status, texts.map .print⟩ = String.join texts := by
  rw [printed, List.map_map]
  exact congrArg String.join (List.map_id' texts)

/-- Effects that show nothing do not count. -/
theorem printed_eq_empty {effects : List Effect}
    (h : ∀ effect ∈ effects, effect.printed files = "") :
    printed files ⟨status, effects⟩ = "" := by
  induction effects with
  | nil => rfl
  | cons effect effects ih =>
    obtain ⟨heffect, heffects⟩ := List.forall_mem_cons.1 h
    rw [printed_cons, heffect, ih heffects, String.empty_append]

end Outcome

/-! ## What files hold -/

/-- What is at another place does not change. -/
theorem Contents.put_of_ne {contents : Contents} {place : Place} {name : String}
    (h : place ≠ .file name) (held : Option ByteArray → ByteArray) :
    contents.put place held name = contents name := by
  cases place with
  | file other => exact if_neg fun heq => h (congrArg Place.file heq)
  | output | other => rfl

/-- An effect changes no file but the one that its path leads to. -/
theorem Contents.apply_of_ne {files : Files} {contents : Contents} {effect : Effect}
    {name : String} (h : ∀ path ∈ effect.path?, files.place path ≠ .file name) :
    contents.apply files effect name = contents name := by
  cases effect with
  | print text => rfl
  | write path text | append path text => rw [apply, put_of_ne (h path rfl)]

/-- **A file that no effect leads to stays as it is.** -/
theorem Outcome.contents_of_ne {files : Files} {status : Status} {effects : List Effect}
    {name : String}
    (h : ∀ effect ∈ effects, ∀ path ∈ effect.path?, files.place path ≠ .file name)
    (contents : Contents) :
    Outcome.contents files ⟨status, effects⟩ contents name = contents name := by
  induction effects generalizing contents with
  | nil => rfl
  | cons effect effects ih =>
    obtain ⟨hfirst, hothers⟩ := List.forall_mem_cons.1 h
    exact (ih hothers (contents.apply files effect)).trans (Contents.apply_of_ne hfirst)

/-- A run whose effects lead to some paths only changes nothing elsewhere. -/
theorem Outcome.changesOnly_of_forall {files : Files} {status : Status} {effects : List Effect}
    {paths : List String} (h : ∀ effect ∈ effects, ∀ path ∈ effect.path?, path ∈ paths) :
    Outcome.ChangesOnly ⟨status, effects⟩ files paths :=
  fun contents _ hname => contents_of_ne
    (fun effect hmem path hpath => hname path (h effect hmem path hpath)) contents

/-- A file that gets a new text holds it when no later effect leads to it. -/
theorem Outcome.contents_write {files : Files} {status : Status} {before after : List Effect}
    {path name : String} (hplace : files.place path = .file name)
    (h : ∀ effect ∈ after, ∀ other ∈ effect.path?, files.place other ≠ .file name)
    (text : String) (held : Contents) :
    contents files ⟨status, before ++ .write path text :: after⟩ held name =
      some text.toUTF8 := by
  have hwritten : ∀ now : Contents, now.apply files (.write path text) name =
      some text.toUTF8 := by
    intro now
    rw [Contents.apply, hplace]
    exact if_pos rfl
  have hsplit : contents files ⟨status, before ++ .write path text :: after⟩ held =
      contents files ⟨status, after⟩
        ((contents files ⟨status, before⟩ held).apply files (.write path text)) := by
    rw [contents, List.foldl_append, List.foldl_cons]
    rfl
  rw [hsplit, contents_of_ne h, hwritten]

end Specimen.Command
