import Specimen.Command.Run

set_option autoImplicit false

/-!
# Folders

A folder holds texts under names; a name with slashes in it lies in a folder within the folder, and
such folders are there as long as something lies in them. Runs can take place in a folder. Outside
of it there are devices: the standard streams, one that forgets what it takes, and one that is
always full. What else lies outside of it cannot be reached.

## Main definitions

* `Specimen.Command.Device` — the devices, and the paths that lead to them.
* `Specimen.Command.Folder` — texts by name.
* `Specimen.Command.Folder.locate?` — the name that a path leads to.
* `Specimen.Command.Folder.files` — what a run finds in a folder.
* `Specimen.Command.Folder.apply`, `Specimen.Command.Folder.changed` — what a run changes.
-/

namespace Specimen.Command

/-! ## Devices -/

/-- What takes or gives texts outside of folders. -/
inductive Device where
  /-- Forgets what it takes and gives nothing. -/
  | null
  /-- Takes nothing. -/
  | full
  /-- The standard input. -/
  | input
  /-- The standard output. -/
  | output
  /-- The standard stream for errors. -/
  | errors
  deriving DecidableEq, Repr

namespace Device

/-- The devices, by the steps that lead to them from the root of all files. -/
def places : List (List String × Device) := [
  (["dev", "null"], .null), (["dev", "full"], .full), (["dev", "stdin"], .input),
  (["dev", "stdout"], .output), (["dev", "stderr"], .errors), (["dev", "fd", "0"], .input),
  (["dev", "fd", "1"], .output), (["dev", "fd", "2"], .errors),
  (["proc", "self", "fd", "0"], .input), (["proc", "self", "fd", "1"], .output),
  (["proc", "self", "fd", "2"], .errors)]

/-- The steps of a path after it was followed from other steps; the latest step comes first. -/
def follow : List String → List (List Char) → List String
  | steps, [] => steps
  | steps, step :: rest =>
    if step = [] ∨ step = ['.'] then follow steps rest
    else if step = ['.', '.'] then follow steps.tail rest
    else follow (String.ofList step :: steps) rest

/-- The device that a path from the root leads to. -/
def ofPath? (path : String) : Option Device :=
  match path.toList with
  | '/' :: rest =>
    let steps := rest.splitOn '/'
    if steps.getLast? = some [] then none else places.lookup (follow [] steps).reverse
  | _ => none

/-- The text that a device gives in a run with an input. -/
def text? (input : Option String) : Device → Option String
  | .null => some ""
  | .input => input
  | _ => none

end Device

/-! ## Folders -/

/-- Texts by name. -/
abbrev Folder := Dictionary String

namespace Folder

/-! ## Paths -/

/-- The name that steps from the outermost folder lead to. -/
def nameOf (steps : List String) : String := "/".intercalate steps

/-- A folder is reached by steps. -/
def isFolder (folder : Folder) (steps : List String) : Bool :=
  steps.isEmpty || folder.names.any fun name => (nameOf steps ++ "/").toList.isPrefixOf name.toList

/-- The steps that a path leads to from steps before it; all but the last step of a path lead to
folders. -/
def walk? (folder : Folder) : List String → List (List Char) → Option (List String)
  | before, [] => some before
  | before, step :: rest =>
    if !folder.isFolder before then none
    else if step = [] ∨ step = ['.'] then walk? folder before rest
    else if step = ['.', '.'] then
      if before = [] then none else walk? folder before.dropLast rest
    else walk? folder (before ++ [String.ofList step]) rest

/-- The name that a path leads to, when it is in the folder and not itself a folder. -/
def locate? (folder : Folder) (path : String) : Option String :=
  let steps := path.toList.splitOn '/'
  let last := steps.getLast?.getD []
  if path.toList.head? = some '/' ∨ last = [] ∨ last = ['.'] ∨ last = ['.', '.'] then none
  else (folder.walk? [] steps).bind fun steps =>
    if folder.isFolder steps then none else some (nameOf steps)

/-! ## Runs in a folder -/

/-- Where a path leads from a folder. -/
def place (folder : Folder) (path : String) : Place :=
  match Device.ofPath? path with
  | some .output => .output
  | some _ => .other path
  | none =>
    match folder.locate? path with
    | some name => .file name
    | none => .other path

/-- What a run with an input finds in a folder. -/
def files (folder : Folder) (input : Option String) : Files where
  place := folder.place
  isThere path :=
    (Device.ofPath? path).isSome || ((folder.locate? path).bind folder.get?).isSome
  text? path :=
    match Device.ofPath? path with
    | some device => device.text? input
    | none => (folder.locate? path).bind folder.get?
  canAppend path := (Device.ofPath? path).isSome || (folder.locate? path).isSome
  canWrite path :=
    (Device.ofPath? path).any (· != .full) || (folder.locate? path).isSome

/-- The folder after an effect. -/
def apply (folder : Folder) : Effect → Folder
  | .print _ => folder
  | .write path text =>
    match folder.locate? path with
    | some name => folder.set name text
    | none => folder
  | .append path text =>
    match folder.locate? path with
    | some name => folder.set name ((folder.get? name).getD "" ++ text)
    | none => folder

/-- The folder after an outcome. -/
def after (folder : Folder) (outcome : Outcome) : Folder := outcome.effects.foldl apply folder

/-- The texts of a later state of a folder that are new or changed. -/
def changed (folder later : Folder) : Folder :=
  later.filter fun (name, text) => folder.get? name ≠ some text

end Folder

end Specimen.Command
