import StyleImport.CommandLine.Grammar
import StyleImport.CommandLine.Help

/-!
# Commands

The commands of the program with their options, help pages and examples, and the options that stand
before the command.

## Main definitions

- `Command`: the commands.
- `Command.Arg`, `Command.grammar`, `Command.page`: the options of a command.
- `Program.Arg`, `Program.grammar`, `Program.page`: the options before the command.
-/

namespace StyleImport

/-- The commands. -/
inductive Command
  /-- Removes the temp area. -/
  | clean
  /-- Shows the declarations made from a manifest. -/
  | declarations
  /-- Resolves an import. -/
  | resolve
deriving DecidableEq

namespace Program

/-- The name of the program. -/
def name : Text := "scssimporter"

/-- The version of the program. -/
def version : Text := "0.3.0"

end Program

namespace Command

/-- All commands. -/
def all : List Command := [clean, declarations, resolve]

/-- The name of a command. -/
def name : Command → Text
  | clean => "clean"
  | declarations => "declarations"
  | resolve => "resolve"

/-- The command with a name. -/
def ofName? (t : Text) : Option Command := all.find? fun c => c.name = t

/-- How a command is called. -/
def path (c : Command) : Text := Program.name ++ " " ++ c.name

/-- The name of the operand of a command. -/
def operand? : Command → Option Text
  | clean => none
  | declarations => some "MANIFEST"
  | resolve => some "REFERENCE"

/-- An option of a command. -/
inductive Arg
  /-- Shows the help page. -/
  | help
  /-- Shows examples. -/
  | examples
  /-- Names the file with the import. -/
  | from_ (file : Text)
  /-- Leaves the temp area as it is. -/
  | keepTemp

/-- The spelling of the option for the file with the import. -/
def fromOption : Text := "--from"

/-- The spellings of the options of a command. -/
def grammar (c : Command) : Grammar Arg :=
  match c with
  | resolve =>
    ⟨[("--examples", .examples), ("--help", .help), ("--keep-tmp", .keepTemp)],
      [(fromOption, .from_)], true⟩
  | _ => ⟨[("--examples", .examples), ("--help", .help)], [], true⟩

/-- What a command does. -/
def about : Command → Text
  | clean => "Delete the temp area (node_modules/.tmp/scss-importer by default)."
  | declarations => "Render MANIFEST (.json, .yaml, .yml, .py) as $variable declarations."
  | resolve => "Resolve REFERENCE as an @import inside --from."

/-- What a command does, short enough for a list. -/
def summary : Command → Text
  | clean => "Delete the temp area (node_modules/.tmp/scss-importer by..."
  | declarations => "Render MANIFEST (.json, .yaml, .yml, .py) as $variable..."
  | resolve => about resolve

/-- The options of one command that others do not have. -/
def ownOptions : Command → List (Text × Text)
  | resolve =>
    [(fromOption ++ " TEXT", "File containing the import statement.  [required]"),
     ("--keep-tmp", "Do not clear the temp area before resolving.")]
  | _ => []

/-- The row of a help page for the option that shows examples. -/
def examplesRow : Text × Text := ("--examples", "Print example invocations and exit.")

/-- The row of a help page for the option that shows the page. -/
def helpRow : Text × Text := ("--help", "Show this message and exit.")

/-- The help page of a command. -/
def page (c : Command) : HelpPage where
  usage := c.path ++ " [OPTIONS]" ++ match c.operand? with
    | some operand => " " ++ operand
    | none => []
  about := c.about
  options := examplesRow :: c.ownOptions ++ [helpRow]
  commands := []

/-- Words that show how a command is used. -/
def examples : Command → List Text
  | clean => ["clean", "--json clean"]
  | declarations =>
    ["declarations tokens.json", "declarations theme.yaml", "--json declarations breakpoints.py"]
  | resolve =>
    ["resolve variables --from src/styles/main.scss",
     "resolve ~bootstrap --from src/styles/main.scss",
     "resolve ~@scope/ui/buttons --from src/app.scss",
     "--json resolve ./tokens.json --from src/app.scss",
     "-v resolve ./theme.yaml --from src/app.scss --keep-tmp"]

/-- The line that shows one use of a command. -/
def exampleLine (words : Text) : Text := "  " ++ Program.name ++ " " ++ words ++ "\n"

/-- The text with the examples of a command. -/
def examplesText (c : Command) : Text := c.path ++ ":\n" ++ c.examples.flatMap exampleLine

end Command

namespace Program

/-- An option before the command. -/
inductive Arg
  /-- Shows the version. -/
  | version
  /-- Shows the help page. -/
  | help
  /-- Shows reports as JSON documents. -/
  | json
  /-- Narrates the work. -/
  | verbose
  /-- Shows log records as JSON objects. -/
  | logJson
  /-- Names the configuration file. -/
  | config (file : Text)
  /-- Names the directory of the project. -/
  | root (directory : Text)

/-- The spelling of the option for the directory of the project. -/
def rootOption : Text := "--root"

/-- The spellings of the options before the command. -/
def grammar : Grammar Arg where
  switches :=
    [("--version", .version), ("--help", .help), ("--json", .json), ("-v", .verbose),
     ("--verbose", .verbose), ("--log-json", .logJson)]
  settings := [("-c", .config), ("--config", .config), (rootOption, .root)]
  interspersed := false

/-- The help page of the program. -/
def page : HelpPage where
  usage := name ++ " [OPTIONS] [COMMAND] [ARGS]..."
  about := name ++ " — resolve SCSS imports to files, packages, and value manifests."
  options :=
    [("--version", "Show the version and exit."),
     ("--json", "Structured JSON output."),
     ("-v, --verbose", "Log resolution steps to stderr."),
     ("--log-json", "Structured JSON log output to stderr."),
     ("-c, --config TEXT", "Override config file path."),
     (rootOption ++ " DIRECTORY", "Project root (node_modules lookup starts here)."),
     Command.helpRow]
  commands := Command.all.map fun c => (c.name, c.summary)

/-- The line with the version. -/
def versionText : Text := name ++ ", version " ++ version ++ "\n"

end Program

end StyleImport
