import StyleImport.CommandLine.Outcome
import StyleImport.Context
import StyleImport.Operation
import StyleImport.Report.Render

/-!
# The command line

A run of the program: the words of the command line and the environment decide what is done, the
disk is read and changed, and texts are left on the two outputs.

The options before the command come first. Then the settings are gathered, even if only a help page
is asked of the command, and then the words behind the command are read. A wish for a page or the
version is fulfilled before anything else is checked.

## Main definitions

- `Invocation`: the words of a run, its environment and its time.
- `Invocation.run`: the outcome of a run.
-/

namespace StyleImport

/-- What the options before the command say. -/
structure Program.Options where
  /-- The configuration file. -/
  config : Option Text
  /-- The directory of the project. -/
  root : Option Path
  /-- The switches. All of them are set, given or not. -/
  flags : Flags

/-- What the words behind a command say. -/
inductive Task
  /-- Removing the temp area. -/
  | clean
  /-- Showing the declarations made from a manifest. -/
  | declarations (manifest : Path)
  /-- Resolving the import of a reference in a file. -/
  | resolve (reference : Reference) (file : Text) (keepTemp : Bool)

namespace Program

/-- The text that an option before the command shows instead of a run. -/
def Arg.shown? : Arg → Option Text
  | version => some versionText
  | help => some page.render
  | _ => none

/-- The configuration file that an option names. -/
def Arg.config? : Arg → Option Text
  | config file => some file
  | _ => none

/-- The directory of the project that an option names. -/
def Arg.root? : Arg → Option Text
  | root directory => some directory
  | _ => none

/-- A run in which the options before the command are wrong. -/
def misuse (m : Misuse) : Outcome := .misuse page name m

end Program

namespace Command

/-- The text that an option of a command shows instead of a run. -/
def Arg.shown? (c : Command) : Arg → Option Text
  | help => some c.page.render
  | examples => some c.examplesText
  | _ => none

/-- The file with the import that an option names. -/
def Arg.from? : Arg → Option Text
  | from_ file => some file
  | _ => none

/-- Tells whether an option leaves the temp area as it is. -/
def Arg.isKeepTemp : Arg → Bool
  | keepTemp => true
  | _ => false

/-- A run in which the words behind a command are wrong. -/
def misuse (c : Command) (m : Misuse) : Outcome := .misuse c.page c.path m

end Command

/-- The last of the values that list members have. -/
def lastSome? {α β : Type} (f : α → Option β) (xs : List α) : Option β := (xs.filterMap f).getLast?

/-- What stands at a path, if the path can be looked up at all. -/
def entryAt? (d : Disk) (path : Text) : Except Outcome (Option Entry) :=
  match d.status path with
  | .ok (_, e) => .ok (some e)
  | .error fault =>
    if fault.isUnspeakable then .error (.broken (.access fault)) else .ok none

/-- What the options before the command say, if they ask for no page and fit. -/
def Program.readOptions (d : Disk) (given : List Arg) : Except Outcome Options := do
  if let some text := given.findSome? Arg.shown? then throw (.shows text)
  let root := lastSome? Arg.root? given
  if let some path := root then
    if (← entryAt? d path).any Entry.isFile then
      throw (misuse (.notDirectory rootOption path))
  let has (test : Arg → Bool) : Option Bool := some (given.any test)
  return ⟨lastSome? Arg.config? given, root.map Path.ofText,
    ⟨has (· matches .json), has (· matches .verbose), has (· matches .logJson)⟩⟩

/-- The options before the command, and the words from the command on. -/
def Program.readWords (d : Disk) (words : List Text) : Except Outcome (Options × List Text) :=
  match grammar.read words with
  | .error fault => .error (misuse (.words fault))
  | .ok (given, rest) => (readOptions d given).map fun options => (options, rest)

/-- The command with a name. A word that is no command is read as an option once more. -/
def Program.findCommand (d : Disk) (name : Text) (rest : List Text) : Except Outcome Command :=
  match Command.ofName? name with
  | some command => .ok command
  | none =>
    match readWords d (name :: rest) with
    | .error outcome => .error outcome
    | .ok _ => .error (misuse (.noCommand name))

namespace Command

/-- Tells that there are operands left over, if there are any. -/
def refuseMore (c : Command) (operands : List Text) : Except Outcome Unit :=
  if operands = [] then .ok () else .error (c.misuse (.tooMany operands))

/-- What options and operands of a command say. -/
def task (c : Command) (d : Disk) (given : List Arg) (operands : List Text) :
    Except Outcome Task := do
  match c, operands with
  | clean, rest =>
    c.refuseMore rest
    return .clean
  | declarations, [] => throw (c.misuse (.operandMissing (c.operand?.getD [])))
  | declarations, manifest :: rest =>
    if (← entryAt? d manifest).any Entry.isDirectory then
      throw (c.misuse (.notFile (c.operand?.getD []) manifest))
    c.refuseMore rest
    return .declarations (.ofText manifest)
  | resolve, [] => throw (c.misuse (.operandMissing (c.operand?.getD [])))
  | resolve, reference :: rest =>
    match lastSome? Arg.from? given with
    | none => throw (c.misuse (.optionMissing fromOption))
    | some file =>
      c.refuseMore rest
      return .resolve reference file (given.any Arg.isKeepTemp)

/-- What the words behind a command say, if they ask for no page and fit. -/
def readTask (c : Command) (d : Disk) (words : List Text) : Except Outcome Task :=
  match c.grammar.read words with
  | .error fault => .error (c.misuse (.words fault))
  | .ok (given, operands) =>
    match given.findSome? (Arg.shown? c) with
    | some text => .error (.shows text)
    | none => c.task d given operands

end Command

namespace Task

/-- The work of a task, with a report as its result. -/
def perform (c : Context) : Task → Action Report
  | clean => Operation.clean c.tempArea
  | declarations manifest => .lookup fun d => .ofExcept (Operation.renderDeclarations manifest d)
  | resolve reference file keepTemp => do
    let (e, _) ← c.getEngine (!keepTemp)
    Operation.resolve e reference file

end Task

/-- The words of a run, its environment and its time. -/
structure Invocation where
  /-- The words behind the name of the program. -/
  words : List Text
  /-- The environment variables. -/
  environment : Environment
  /-- The time of log records. -/
  time : Text

namespace Invocation

/-- The line for a warning. -/
def warningLine (warning : Text) : Text := "WARNING: " ++ warning ++ "\n"

/-- What a run leaves whose work is done. -/
def conclude (i : Invocation) (s : Settings) (t : Traced Report) : Outcome :=
  let style : Log.Style := ⟨s.verbose, s.logJson⟩
  let log := t.log.filter style.admits
  let told := (style.render i.time t.log).spelled
  let escapes (f : Failure) : Outcome := ⟨1, [], told, some f, log⟩
  match t.result with
  | .error f => escapes f
  | .ok r =>
    let style : Report.Style := ⟨s.jsonOutput, s.verbose⟩
    let text := (r.render style ++ "\n").dropSequences
    match r.fault? style, Utf8.firstSurrogates 0 text with
    | some f, _ => escapes f
    | none, surrogates =>
      if r.ok then
        match surrogates with
        | some fault => escapes (.access (.unencodable fault))
        | none =>
          let warnings : Text := if s.jsonOutput then [] else r.warnings.flatMap warningLine
          ⟨0, text, told ++ warnings.dropSequences.spelled, none, log⟩
      else ⟨1, [], told ++ text.spelled, none, log⟩

/-- The settings of a run. -/
def gather (i : Invocation) (d : Disk) (options : Program.Options) : Except Outcome Settings :=
  (Settings.gather d i.environment options.config options.root options.flags).mapError .broken

/-- The settings and the task of a run, if there is something to do. -/
def plan (i : Invocation) (d : Disk) : Except Outcome (Settings × Task) := do
  let (options, rest) ← Program.readWords d i.words
  match rest with
  | [] =>
    let _ ← i.gather d options
    throw (.shows Program.page.render)
  | name :: rest =>
    let command ← Program.findCommand d name rest
    let settings ← i.gather d options
    let task ← command.readTask d rest
    return (settings, task)

/-- The outcome of a run, and the disk after it. -/
def run (i : Invocation) (d : Disk) : Outcome × Disk :=
  match i.plan d with
  | .error outcome => (outcome, d)
  | .ok (settings, task) =>
    let (t, d) := task.perform (.start settings) d
    (i.conclude settings t, d)

end Invocation

end StyleImport
