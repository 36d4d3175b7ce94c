import Specimen.Integer
import Specimen.Locale

set_option autoImplicit false

/-!
# Requests on the command line

The command line names a request, with options before and after it. Options are read from left to
right, and the first mistake, or the wish to see the help or the version, ends the reading. An
option occurs at most once; those for the log may occur before the name of the request and once more
after it, where they count.

## Main definitions

* `Specimen.Command.Request` — what is asked for.
* `Specimen.Command.Invocation` — a request with the options for the log.
* `Specimen.Command.Stop` — why there is no invocation.
* `Specimen.Command.Invocation.read` — the invocation that arguments write.
-/

namespace Specimen.Command

/-! ## Requests -/

/-- How the log for people is written. -/
inductive LogFormat where
  /-- In lines for people. -/
  | human
  /-- In lines for programs. -/
  | json
  deriving DecidableEq, Repr

/-- A request to generate data. -/
structure Generation where
  /-- The file of the template, or a dash for the standard input. -/
  template : String
  /-- How many times the template is generated. -/
  count : Nat
  /-- The seed of chance. -/
  seed : Option Nat
  /-- The locale. -/
  locale : Option Locale
  /-- The file of options. -/
  config : Option String
  /-- The output has lines and indentation. -/
  pretty : Bool
  /-- The file for the output. -/
  out : Option String
  deriving DecidableEq, Repr

/-- What is asked for. -/
inductive Request where
  /-- To generate data. -/
  | generate (generation : Generation)
  /-- To list the built-in placeholders. -/
  | placeholders
  deriving DecidableEq, Repr

/-- The options for the log. -/
structure LogOptions where
  /-- The file to which the log is added. -/
  file : Option String
  /-- How the log for people is written. -/
  format : Option LogFormat
  deriving DecidableEq, Repr

/-- A request with the options for the log. -/
structure Invocation where
  /-- What is asked for. -/
  request : Request
  /-- The options for the log. -/
  log : LogOptions
  deriving DecidableEq, Repr

/-- Why there is no invocation. -/
inductive Stop where
  /-- The help is wanted, for the named request or for all. -/
  | help (topic : String)
  /-- The version is wanted. -/
  | version
  /-- The arguments make no sense. -/
  | misuse
  deriving DecidableEq, Repr

/-! ## Values of options -/

/-- An unsigned number of sixty-four bits, perhaps with a plus sign. -/
def readUnsigned? (text : String) : Option Nat :=
  let digits := match text.toList with
    | '+' :: digits => digits
    | digits => digits
  (Integer.readNat? digits).filter fun n => n < 0x10000000000000000

/-- A number of generations: at least one. -/
def readCount? (text : String) : Option Nat := (readUnsigned? text).filter fun n => 1 ≤ n

/-- The path of a file: not empty. -/
def readPath? (text : String) : Option String := if text = "" then none else some text

/-- The name of a format of the log. -/
def LogFormat.read? (text : String) : Option LogFormat :=
  if text = "human" then some .human else if text = "json" then some .json else none

/-- The value of an option that has not occurred yet. -/
def setOnce {α : Type} (old value : Option α) : Except Stop (Option α) :=
  match old, value with
  | none, some value => .ok (some value)
  | _, _ => .error .misuse

/-! ## Drafts -/

/-- What has been read after the name of a request to generate. -/
structure GenerationDraft where
  /-- The file of the template. -/
  template : Option String
  /-- How many times the template is generated. -/
  count : Option Nat
  /-- The seed of chance. -/
  seed : Option Nat
  /-- The locale. -/
  locale : Option Locale
  /-- The file of options. -/
  config : Option String
  /-- The output has lines and indentation. -/
  pretty : Option Unit
  /-- The file for the output. -/
  out : Option String

/-- A draft in which nothing has been read. -/
def GenerationDraft.empty : GenerationDraft := ⟨none, none, none, none, none, none, none⟩

/-- The request of a draft, which needs a template. -/
def GenerationDraft.finish (draft : GenerationDraft) : Except Stop Generation :=
  match draft.template with
  | none => .error .misuse
  | some template =>
    .ok ⟨template, draft.count.getD 1, draft.seed, draft.locale, draft.config,
      draft.pretty.isSome, draft.out⟩

/-- How far the command line has been read. -/
inductive Stage where
  /-- The request has not been named. -/
  | unnamed
  /-- A request to generate. -/
  | generate (draft : GenerationDraft)
  /-- A request for the list of placeholders. -/
  | placeholders
  /-- A request for help, perhaps with a topic. -/
  | help (topic : Option String)

/-- What has been read. -/
structure Draft where
  /-- How far the command line has been read. -/
  stage : Stage
  /-- The options for the log before the name of the request. -/
  outer : LogOptions
  /-- The options for the log at this stage. -/
  log : LogOptions

namespace Draft

/-- A draft in which nothing has been read. -/
def empty : Draft := ⟨.unnamed, ⟨none, none⟩, ⟨none, none⟩⟩

/-- The help for the stage. -/
def helpTopic (draft : Draft) : String :=
  match draft.stage with
  | .unnamed => ""
  | .generate _ => "generate"
  | .placeholders => "placeholders"
  | .help topic => topic.getD ""

/-- The draft at another stage. -/
def atStage (draft : Draft) (stage : Stage) : Draft := { draft with stage := stage }

/-- Goes on to the stage of a named request. -/
def enter (draft : Draft) (stage : Stage) : Draft := ⟨stage, draft.log, ⟨none, none⟩⟩

/-! ## Options -/

/-- Options with a value for the log. -/
def setLogOption? (draft : Draft) (name value : String) : Option (Except Stop Draft) :=
  let log := draft.log
  if name = "log-file" then
    some ((setOnce log.file (readPath? value)).map fun file =>
      { draft with log := { log with file := file } })
  else if name = "log-format" then
    some ((setOnce log.format (LogFormat.read? value)).map fun format =>
      { draft with log := { log with format := format } })
  else none

/-- Options with a value for a request to generate. -/
def setGenerationOption? (draft : GenerationDraft) (name value : String) :
    Option (Except Stop GenerationDraft) :=
  if name = "count" then
    some ((setOnce draft.count (readCount? value)).map fun count => { draft with count := count })
  else if name = "seed" then
    some ((setOnce draft.seed (readUnsigned? value)).map fun seed => { draft with seed := seed })
  else if name = "locale" then
    some ((setOnce draft.locale (Locale.read? value)).map fun locale =>
      { draft with locale := locale })
  else if name = "config" then
    some ((setOnce draft.config (readPath? value)).map fun config =>
      { draft with config := config })
  else if name = "out" then
    some ((setOnce draft.out (readPath? value)).map fun out => { draft with out := out })
  else none

/-- The draft with the value of an option; none when no option of the name takes a value. -/
def setOption? (draft : Draft) (name value : String) : Option (Except Stop Draft) :=
  match draft.stage with
  | .generate generation =>
    match setGenerationOption? generation name value with
    | some result => some (result.map fun generation => draft.atStage (.generate generation))
    | none => draft.setLogOption? name value
  | .help _ => none
  | _ => draft.setLogOption? name value

/-- The draft after an option without value. -/
def setFlag (draft : Draft) (name : String) : Except Stop Draft :=
  match draft.stage with
  | .help _ => .error .misuse
  | .unnamed =>
    if name = "help" then .error (.help draft.helpTopic)
    else if name = "version" then .error .version
    else .error .misuse
  | .generate generation =>
    if name = "help" then .error (.help draft.helpTopic)
    else if name = "pretty" then
      (setOnce generation.pretty (some ())).map fun pretty =>
        draft.atStage (.generate { generation with pretty := pretty })
    else .error .misuse
  | .placeholders =>
    if name = "help" then .error (.help draft.helpTopic) else .error .misuse

/-- The draft after an option of a single letter. Such options end the reading. -/
def setLetter (draft : Draft) (letter : Char) : Except Stop Draft :=
  if letter = 'h' then draft.setFlag "help"
  else if letter = 'V' then draft.setFlag "version"
  else .error .misuse

/-! ## Words -/

/-- The stage of a named request. -/
def stageOf? (word : String) : Option Stage :=
  if word = "generate" then some (.generate GenerationDraft.empty)
  else if word = "placeholders" then some .placeholders
  else if word = "help" then some (.help none)
  else none

/-- The draft after a word that is no option: the name of a request, or a template. -/
def addWord (draft : Draft) (word : String) : Except Stop Draft :=
  match draft.stage with
  | .unnamed =>
    match stageOf? word with
    | some stage => .ok (draft.enter stage)
    | none => .error .misuse
  | .generate generation =>
    (setOnce generation.template (some word)).map fun template =>
      draft.atStage (.generate { generation with template := template })
  | .placeholders => .error .misuse
  | .help topic =>
    if topic.isNone ∧ (stageOf? word).isSome then .ok (draft.atStage (.help (some word)))
    else .error .misuse

/-- The draft after a word that follows the mark for the end of options. -/
def addLateWord (draft : Draft) (word : String) : Except Stop Draft :=
  match draft.stage with
  | .generate _ => draft.addWord word
  | _ => .error .misuse

/-! ## Arguments -/

/-- An argument by its looks. -/
inductive Argument where
  /-- The mark for the end of options. -/
  | ending
  /-- An option with two dashes, perhaps with a value after an equals sign. -/
  | long (name : String) (value : Option String)
  /-- Options of a single letter, of which the first counts. -/
  | short (letter : Char)
  /-- A word, or a single dash. -/
  | word (text : String)
  deriving DecidableEq, Repr

/-- An argument by its looks. -/
def Argument.of (argument : String) : Argument :=
  match argument.toList with
  | '-' :: '-' :: [] => .ending
  | '-' :: '-' :: rest =>
    let name := String.ofList (rest.takeWhile (· ≠ '='))
    match rest.dropWhile (· ≠ '=') with
    | _ :: value => .long name (some (String.ofList value))
    | [] => .long name none
  | '-' :: letter :: _ => .short letter
  | _ => .word argument

/-- The argument that can be the value of the option before it. -/
def Argument.asValue? : Argument → Option String
  | .word text => some text
  | _ => none

/-- Reads the arguments after the mark for the end of options. -/
def readLate (draft : Draft) : List String → Except Stop Draft
  | [] => .ok draft
  | word :: rest => do
    let draft ← draft.addLateWord word
    readLate draft rest

/-- The draft after the mark for the end of options. -/
def endOptions (draft : Draft) : Except Stop Draft :=
  match draft.stage with
  | .help _ => .error .misuse
  | _ => .ok draft

/-- An option of the name takes a value. -/
def takesValue (draft : Draft) (name : String) : Bool := (draft.setOption? name "").isSome

/-- The draft with the value of an option that takes one. -/
def setAttached (draft : Draft) (name value : String) : Except Stop Draft :=
  (draft.setOption? name value).getD (.error .misuse)

/-- Reads arguments from left to right. An option that takes a value takes the argument after it,
unless that looks like an option. -/
def readArguments (draft : Draft) : List String → Except Stop Draft
  | [] => .ok draft
  | first :: rest =>
    match Argument.of first with
    | .ending => do
      let draft ← draft.endOptions
      draft.readLate rest
    | .word text => do
      let draft ← draft.addWord text
      readArguments draft rest
    | .short letter => do
      let draft ← draft.setLetter letter
      readArguments draft rest
    | .long name (some value) => do
      let draft ← draft.setAttached name value
      readArguments draft rest
    | .long name none =>
      if draft.takesValue name then
        match rest with
        | [] => .error .misuse
        | second :: rest =>
          match (Argument.of second).asValue? with
          | none => .error .misuse
          | some value => do
            let draft ← draft.setAttached name value
            readArguments draft rest
      else do
        let draft ← draft.setFlag name
        readArguments draft rest

/-- The options for the log, of which those after the name of the request count. -/
def logOptions (draft : Draft) : LogOptions :=
  ⟨draft.log.file <|> draft.outer.file, draft.log.format <|> draft.outer.format⟩

/-- The invocation of a draft that has been read to the end. -/
def finish (draft : Draft) : Except Stop Invocation :=
  match draft.stage with
  | .unnamed => .error .misuse
  | .placeholders => .ok ⟨.placeholders, draft.logOptions⟩
  | .help topic => .error (.help (topic.getD ""))
  | .generate generation => generation.finish.map fun generation =>
    ⟨.generate generation, draft.logOptions⟩

end Draft

/-- The invocation that arguments write. -/
def Invocation.read (arguments : List String) : Except Stop Invocation := do
  let draft ← Draft.empty.readArguments arguments
  draft.finish

end Specimen.Command
