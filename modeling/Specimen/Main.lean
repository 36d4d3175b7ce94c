import Specimen.Command.Run

set_option autoImplicit false

/-!
# The program

The program collects its surroundings, runs, and carries out the effects of the run.

## Main definitions

* `main` — the program.
-/

namespace Specimen.Program

open Specimen.Command

/-- The text of a file, when it can be read. -/
def readFile? (path : String) : IO (Option String) :=
  try some <$> IO.FS.readFile path catch _ => pure none

/-- A file can be opened for adding to it; it is made when it is not there. -/
def canAppend (path : String) : IO Bool :=
  try
    let _ ← IO.FS.Handle.mk path .append
    pure true
  catch _ => pure false

/-- The file that a path leads to can be written: its folder is there, and it is no folder. -/
def canWrite (path : String) : IO Bool := do
  let place := (← IO.currentDir) / path
  match place.parent with
  | some folder => pure ((← folder.isDir) && !(← place.isDir))
  | none => pure false

/-- The rest of the standard input. -/
partial def readInput (input : IO.FS.Stream) (before : String) : IO String := do
  let line ← input.getLine
  if line.isEmpty then pure before else readInput input (before ++ line)

/-- The standard input, when it can be read as a text. -/
def readInput? : IO (Option String) := do
  try some <$> readInput (← IO.getStdin) "" catch _ => pure none

/-- The paths of the files that a request reads, that of the template first. -/
def inputPaths : Request → List String
  | .generate request => request.template :: request.config.toList
  | .placeholders => []

/-- The path of the file for the output. -/
def outputPath? : Request → Option String
  | .generate request => request.out
  | .placeholders => none

/-- The files that an invocation finds. The log file is opened before the others are read, so that
it is there like them. -/
def findFiles (invocation : Invocation) : IO Files := do
  let logs ← invocation.log.file.toList.filterM canAppend
  let texts ← (inputPaths invocation.request).mapM fun path => do pure (path, ← readFile? path)
  let outputs ← (outputPath? invocation.request).toList.filterM canWrite
  pure ⟨.file, fun _ => true, fun path => (texts.lookup path).join, fun path => path ∈ logs,
    fun path => path ∈ outputs⟩

/-- The time in seconds since the start of 1970. -/
def presentTime : IO Int := do
  let (_, path) ← IO.FS.createTempFile
  let metadata ← path.metadata
  IO.FS.removeFile path
  pure metadata.modified.sec

/-- A seed that cannot be foreseen. -/
def freshSeed : IO Nat := do
  let bytes ← IO.getRandomBytes 8
  pure (bytes.toList.foldl (fun n byte => 256 * n + byte.toNat) 0)

/-- Carries out an effect. -/
def carryOut : Effect → IO Unit
  | .print text => IO.print text
  | .write path text => IO.FS.writeFile path text
  | .append path text => do
    let handle ← IO.FS.Handle.mk path .append
    handle.putStr text

/-- What a run of an invocation finds. The standard input is read when the template comes from
it. Whether the standard output takes a text shows when it is printed. -/
def surroundingsOf (invocation : Invocation) : IO Surroundings := do
  let files ← findFiles invocation
  let input ←
    if (inputPaths invocation.request).head? = some "-" then readInput? else pure none
  pure ⟨input, fun _ _ => true, files, ← IO.getEnv "RUST_LOG", ← presentTime, ← freshSeed⟩

/-- The surroundings of a run that looks at nothing. -/
def nowhere : Surroundings :=
  ⟨none, fun _ _ => true,
    ⟨.other, fun _ => false, fun _ => none, fun _ => false, fun _ => false⟩, none, 0, 0⟩

end Specimen.Program

open Specimen.Command Specimen.Program in
/-- The program: runs with the arguments of the command line. -/
def main (arguments : List String) : IO UInt32 := do
  match Invocation.read arguments with
  | .ok invocation => do
    let outcome := run (← surroundingsOf invocation) arguments
    try
      outcome.effects.forM carryOut
      pure (UInt32.ofNat outcome.status.code)
    catch failure => do
      IO.eprintln failure
      pure 1
  | .error _ => do
    let outcome := run nowhere arguments
    try outcome.effects.forM carryOut catch _ => pure ()
    pure (UInt32.ofNat outcome.status.code)
