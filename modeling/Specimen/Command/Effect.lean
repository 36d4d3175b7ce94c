import Specimen.Command.Surroundings

set_option autoImplicit false

/-!
# Effects

A run ends with a status and has effects, in order: it prints texts, and it changes what files hold.
What an effect does to a file is said for the file that its path leads to, by whatever path; a text
for a place that keeps none changes nothing.

## Main definitions

* `Specimen.Command.Effect`, `Specimen.Command.Outcome` — what a run does.
* `Specimen.Command.Outcome.printed` — what appears on the standard output.
* `Specimen.Command.Contents`, `Specimen.Command.Outcome.contents` — what files hold, and what they
  hold after a run.
-/

namespace Specimen.Command

/-- What a run does. -/
inductive Effect where
  /-- Prints a text. -/
  | print (text : String)
  /-- Makes a text the whole content of a file. -/
  | write (path text : String)
  /-- Adds a text to a file, which is made when it is not there. -/
  | append (path text : String)
  deriving DecidableEq, Repr

/-- How a run ends. -/
inductive Status where
  /-- Well. -/
  | success
  /-- With a failure. -/
  | failure
  /-- With arguments that make no sense. -/
  | misuse
  deriving DecidableEq, Repr

/-- The number of a status. -/
def Status.code : Status → Nat
  | .success => 0
  | .failure => 1
  | .misuse => 2

/-- The end of a run, and what it has done. -/
structure Outcome where
  /-- How the run ends. -/
  status : Status
  /-- What the run does, in order. -/
  effects : List Effect
  deriving DecidableEq, Repr

/-! ## The standard output -/

/-- What an effect makes appear on the standard output. -/
def Effect.printed (files : Files) : Effect → String
  | .print text => text
  | .write path text => if files.place path = .output then text else ""
  | .append path text => if files.place path = .output then text else ""

/-- What a run makes appear on the standard output. -/
def Outcome.printed (files : Files) (outcome : Outcome) : String :=
  String.join (outcome.effects.map (Effect.printed files))

/-! ## What files hold -/

/-- What files hold, by name; there is no file where there is nothing. -/
abbrev Contents := String → Option ByteArray

/-- What files hold when the one at a place, if it is a file, holds something new. -/
def Contents.put (contents : Contents) (place : Place) (held : Option ByteArray → ByteArray) :
    Contents :=
  match place with
  | .file name => fun other => if name = other then some (held (contents name)) else contents other
  | _ => contents

/-- What files hold after an effect. -/
def Contents.apply (files : Files) (contents : Contents) : Effect → Contents
  | .print _ => contents
  | .write path text => contents.put (files.place path) fun _ => text.toUTF8
  | .append path text => contents.put (files.place path) fun held => held.getD .empty ++ text.toUTF8

/-- What files hold after a run. -/
def Outcome.contents (files : Files) (outcome : Outcome) (contents : Contents) : Contents :=
  outcome.effects.foldl (Contents.apply files) contents

end Specimen.Command
