set_option autoImplicit false

/-!
# Surroundings

What a run of the program finds: the standard streams, the files, the setting of the log filter, the
time, and a seed for runs that name none. Many paths can lead to one place, and some lead to the
standard output; nothing is assumed about which do. A file takes a text as a whole or not at all,
and so does the standard output.

## Main definitions

* `Specimen.Command.Place` — where a path leads.
* `Specimen.Command.Files` — the files, by path.
* `Specimen.Command.Files.afterOpening` — the files after one of them was opened for adding to it.
* `Specimen.Command.Surroundings` — what a run finds.
-/

namespace Specimen.Command

/-- Where a path leads. -/
inductive Place where
  /-- To the standard output. -/
  | output
  /-- To a file, whether it is there or not, by a name that no other file has. -/
  | file (name : String)
  /-- To something that keeps no text, or to nothing. -/
  | other (name : String)
  deriving DecidableEq, Repr

/-- The files that a run finds, by path. -/
structure Files where
  /-- Where a path leads. -/
  place : String → Place
  /-- Something is there. -/
  isThere : String → Bool
  /-- The text of a file that can be read. -/
  text? : String → Option String
  /-- A file can be opened for adding to it, whether it is there or not. -/
  canAppend : String → Bool
  /-- A file can get a new text, whether it is there or not. -/
  canWrite : String → Bool

/-- The files after one of them was opened for adding to it. If it was not there, it is there now,
without text. -/
def Files.afterOpening (files : Files) (path : String) : Files :=
  if files.isThere path then files
  else
    let isOpened := fun other => decide (files.place other = files.place path)
    { files with
      isThere := fun other => isOpened other || files.isThere other
      text? := fun other => if isOpened other then some "" else files.text? other }

/-- What a run finds. -/
structure Surroundings where
  /-- The standard input, when it can be read as a text. -/
  input : Option String
  /-- The standard output takes a text after another one was printed. -/
  canPrint : String → String → Bool
  /-- The files. -/
  files : Files
  /-- The setting of the log filter. -/
  logSetting : Option String
  /-- The time in seconds since the start of 1970. -/
  now : Int
  /-- The seed of a run that names none. -/
  spareSeed : Nat

end Specimen.Command
