set_option autoImplicit false

/-!
# Help texts of the command line

A help text consists of sections whose rows have two columns: what can be written, and what it is
for.

## Main definitions

* `Specimen.Command.helpText` — the help for a topic.
* `Specimen.Command.versionText` — the name and the version of the program.
-/

namespace Specimen.Command

/-! ## Layout -/

/-- A row of a section: what can be written, and what it is for. -/
abbrev HelpRow := String × String

/-- A text filled up with blanks to a width. -/
def fillUp (width : Nat) (text : String) : String :=
  text ++ String.ofList (List.replicate (width - text.length) ' ')

/-- The lines of a section. -/
def sectionLines (heading : String) (rows : List HelpRow) : List String :=
  let width := (rows.map fun row => row.1.length).foldl max 0
  "" :: (heading ++ ":") :: rows.map fun (name, purpose) =>
    "  " ++ fillUp width name ++ "  " ++ purpose

/-- A text of lines. -/
def unlines (lines : List String) : String := "".intercalate (lines.map (· ++ "\n"))

/-! ## Rows -/

/-- The options for the log. -/
def logRows : List HelpRow := [
  ("    --log-format <LOG_FORMAT>",
    "Log output format on stderr [default: human] [possible values: human, json]"),
  ("    --log-file <LOG_FILE>", "Also append JSON logs to this file")]

/-- The option for the help. -/
def helpRow : HelpRow := ("-h, --help", "Print help")

/-- The option for the version. -/
def versionRow : HelpRow := ("-V, --version", "Print version")

/-- The requests. -/
def requestRows : List HelpRow := [
  ("generate", "Generate data from a JSON template"),
  ("placeholders", "List built-in placeholders with their accepted argument counts"),
  ("help", "Print this message or the help of the given subcommand(s)")]

/-- The options for generating. -/
def generationRows : List HelpRow := [
  ("    --count <COUNT>",
    "Number of independent generations; more than one yields a JSON array [default: 1]"),
  ("    --seed <SEED>", "Seed for reproducible output"),
  ("    --locale <LOCALE>", "Locale for words and names (en_US, pt_BR, zh_CN)"),
  ("    --config <CONFIG>", "TOML file with `seed` and `locale`; flags take precedence"),
  ("    --pretty", "Indent the output"),
  ("    --out <OUT>", "Write output to a file instead of stdout")]

/-! ## Texts -/

/-- The help for all requests. -/
def overview : List String :=
  ["Rule-driven mock data from JSON templates", "", "Usage: templar [OPTIONS] <COMMAND>"] ++
    sectionLines "Commands" requestRows ++
    sectionLines "Options" (logRows ++ [helpRow, versionRow])

/-- The help for generating. -/
def generationHelp : List String :=
  ["Generate data from a JSON template", "", "Usage: templar generate [OPTIONS] <TEMPLATE>"] ++
    sectionLines "Arguments" [("<TEMPLATE>", "Template file, or `-` to read stdin")] ++
    sectionLines "Options" (generationRows ++ logRows ++ [helpRow])

/-- The help for the list of placeholders. -/
def placeholdersHelp : List String :=
  ["List built-in placeholders with their accepted argument counts", "",
    "Usage: templar placeholders [OPTIONS]"] ++ sectionLines "Options" (logRows ++ [helpRow])

/-- The help for a topic; an unknown topic gives the help for all. -/
def helpText (topic : String) : String :=
  if topic = "generate" then unlines generationHelp
  else if topic = "placeholders" then unlines placeholdersHelp
  else unlines overview

/-- The name and the version of the program. -/
def versionText : String := "templar 0.1.0\n"

end Specimen.Command
