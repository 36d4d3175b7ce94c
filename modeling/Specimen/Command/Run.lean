import Specimen.Command.Effect
import Specimen.Command.Help
import Specimen.Command.LogFilter
import Specimen.Command.Request
import Specimen.Generation.Setup

set_option autoImplicit false

/-!
# Runs of the program

A run is a function of the arguments and the surroundings. Everything that can fail is tried before
the output of a request to generate appears, and the output appears in one place. The list of
placeholders is printed line by line, and the run fails at the first line that is refused.

## Main definitions

* `Specimen.Command.Event` — what is logged.
* `Specimen.Command.Generation.run` — the run of a request to generate.
* `Specimen.Command.printAll` — texts that are printed one after the other.
* `Specimen.Command.run` — the run of the program.
-/

namespace Specimen.Command

/-! ## Events -/

/-- What is logged about a request to generate. -/
inductive Event where
  /-- The template has been read. -/
  | started (template : String) (count : Nat) (options : Options)
  /-- The output has been written to a file. -/
  | written (path : String)
  /-- The output is complete. -/
  | finished
  deriving DecidableEq, Repr

namespace Event

/-- The name of an event. -/
def name : Event → String
  | .started _ _ _ => "generation_started"
  | .written _ => "output_written"
  | .finished => "generation_finished"

/-- The details of an event. -/
def details : Event → Dictionary Json
  | .started template count options => [
    ("template", .str template), ("count", .ofInt count),
    ("seed", .str (match options.seed with
      | some seed => "Some(" ++ toString seed ++ ")"
      | none => "None")),
    ("locale", .str options.locale.name)]
  | .written path => [("path", .str path)]
  | .finished => [("status", .str "success")]

/-- The names of the fields of an event. The end of a run also says how long it took. -/
def fieldNames (event : Event) : List String :=
  "event" :: event.details.names ++ (if event = .finished then ["duration_ms"] else [])

/-- The line of the log for an event. -/
def line (now : Int) (event : Event) : String :=
  let time := (Calendar.format? (Moment.ofSeconds now) "%Y-%m-%dT%H:%M:%SZ").getD ""
  let fields := ("event", Json.str event.name) :: event.details
  let record := Json.obj [
    ("timestamp", .str time), ("level", .str "INFO"), ("fields", .obj fields),
    ("target", .str programName)]
  record.render ++ "\n"

end Event

/-! ## Generating -/

namespace Generation

/-- The options of a request: those of the file, if one is named, with those of the arguments in
their place. -/
def options? (request : Generation) (surroundings : Surroundings) : Option Options := do
  let options ← match request.config with
    | none => some Options.default
    | some path => (surroundings.files.text? path).bind Options.read?
  some ⟨request.seed <|> options.seed, request.locale.getD options.locale⟩

/-- The text of the template. -/
def templateText? (request : Generation) (surroundings : Surroundings) : Option String :=
  if request.template = "-" then surroundings.input
  else surroundings.files.text? request.template

/-- The template. -/
def template? (request : Generation) (surroundings : Surroundings) : Option Json :=
  (request.templateText? surroundings).bind fun text => (Json.readTemplate? text).toOption

/-- The generated value: an array when the template is generated more than once. -/
def draw (request : Generation) (engine : Engine) (template : Json) : Draw Json :=
  if request.count = 1 then engine.generate template
  else Json.arr <$> many request.count (engine.generate template)

/-- The output: the text of the value and a new line. -/
def output (request : Generation) (value : Json) : String :=
  (if request.pretty then value.renderPretty else value.render) ++ "\n"

/-- The output of a request under options. -/
def outputFor (request : Generation) (surroundings : Surroundings) (options : Options)
    (template : Json) : String :=
  let engine := Engine.ofOptions options surroundings.now
  let source := options.source surroundings.spareSeed
  request.output ((request.draw engine template).run source).1

/-- The run of a request, where `log` says what is done about an event. -/
def run (request : Generation) (surroundings : Surroundings) (log : Event → List Effect) :
    Outcome :=
  match request.options? surroundings, request.template? surroundings with
  | some options, some template =>
    let started := log (.started request.template request.count options)
    let output := request.outputFor surroundings options template
    match request.out with
    | none =>
      if surroundings.canPrint "" output then
        ⟨.success, started ++ .print output :: log .finished⟩
      else ⟨.failure, started⟩
    | some path =>
      if surroundings.files.canWrite path then
        ⟨.success, started ++ .write path output :: (log (.written path) ++ log .finished)⟩
      else ⟨.failure, started⟩
  | _, _ => ⟨.failure, []⟩

end Generation

/-! ## The program -/

/-- The built-in placeholders with the numbers of arguments they take, one on a line. -/
def placeholderLines : List String :=
  Registry.default.catalogue.map fun (name, arities) =>
    name ++ "/" ++ ",".intercalate (arities.map Arity.text) ++ "\n"

/-- Prints texts one after the other, after a text that was printed before. A text that is refused
is the end. -/
def printAll (canPrint : String → String → Bool) : String → List String → Outcome
  | _, [] => ⟨.success, []⟩
  | before, text :: texts =>
    if canPrint before text then
      let later := printAll canPrint (before ++ text) texts
      { later with effects := .print text :: later.effects }
    else ⟨.failure, []⟩

namespace Invocation

/-- What is done about an event: it is added to the log file, if there is one and the filter lets it
pass. -/
def logEvent (invocation : Invocation) (surroundings : Surroundings) (event : Event) :
    List Effect :=
  match invocation.log.file with
  | some path =>
    if admits surroundings.logSetting event.fieldNames then
      [.append path (event.line surroundings.now)]
    else []
  | none => []

/-- The run of the request, apart from opening the log file. -/
def runRequest (invocation : Invocation) (surroundings : Surroundings) : Outcome :=
  match invocation.request with
  | .generate request => request.run surroundings (invocation.logEvent surroundings)
  | .placeholders => printAll surroundings.canPrint "" placeholderLines

/-- The run of an invocation. The log file is opened before other files are read. -/
def run (invocation : Invocation) (surroundings : Surroundings) : Outcome :=
  match invocation.log.file with
  | none => invocation.runRequest surroundings
  | some path =>
    if surroundings.files.canAppend path then
      let files := surroundings.files.afterOpening path
      let outcome := invocation.runRequest { surroundings with files := files }
      { outcome with effects := .append path "" :: outcome.effects }
    else ⟨.failure, []⟩

end Invocation

/-- Prints a text if it is taken, and does nothing else. -/
def Surroundings.tryPrint (surroundings : Surroundings) (text : String) : Outcome :=
  ⟨.success, if surroundings.canPrint "" text then [.print text] else []⟩

/-- The outcome when there is no invocation. It is no failure when a help text is refused. -/
def Stop.outcome (surroundings : Surroundings) : Stop → Outcome
  | .help topic => surroundings.tryPrint (helpText topic)
  | .version => surroundings.tryPrint versionText
  | .misuse => ⟨.misuse, []⟩

/-- The run of the program. -/
def run (surroundings : Surroundings) (arguments : List String) : Outcome :=
  match Invocation.read arguments with
  | .ok invocation => invocation.run surroundings
  | .error stop => stop.outcome surroundings

end Specimen.Command
