import StyleImport.CommandLine.Command
import StyleImport.Failure
import StyleImport.Log.Render
import StyleImport.Text.ControlSequence

/-!
# The outcome of a run

What a run of the program leaves for its caller: the exit code and the texts on its two outputs. A
run that is called in a wrong way says so and shows how to call it. All that a run says, its log
records apart, is said without control sequences.

## Main definitions

- `Outcome`: what a run leaves.
- `Misuse`: how a run is called in a wrong way.
- `Outcome.misuse`, `Outcome.help`, `Outcome.report`, `Outcome.broken`: the kinds of outcomes.
-/

namespace StyleImport

/-- What a run of the program leaves for its caller. -/
structure Outcome where
  /-- The exit code. -/
  exit : Nat
  /-- The text on the standard output. -/
  out : Text
  /-- The text on the error output. -/
  err : Text
  /-- The failure that the program has no words for, if one ended the run. -/
  escaped : Option Failure
  /-- The log records that were shown. -/
  log : List Record

/-- How a run is called in a wrong way. -/
inductive Misuse
  /-- The words cannot be read. -/
  | words (fault : Grammar.Fault)
  /-- There is no command with this name. -/
  | noCommand (name : Text)
  /-- An operand is missing. -/
  | operandMissing (name : Text)
  /-- An option is missing. -/
  | optionMissing (name : Text)
  /-- There are more operands than the command takes. -/
  | tooMany (operands : List Text)
  /-- A file stands where an option needs a directory. -/
  | notDirectory (option path : Text)
  /-- A directory stands where an operand needs a file. -/
  | notFile (operand path : Text)

namespace Misuse

/-- The wording of a misuse. -/
def message : Misuse → Text
  | words fault => fault.message
  | noCommand name => "No such command " ++ name.quoted ++ "."
  | operandMissing name => "Missing argument '" ++ name ++ "'."
  | optionMissing name => "Missing option '" ++ name ++ "'."
  | tooMany operands =>
    "Got unexpected extra argument" ++ (if operands.length = 1 then [] else Text.ofString "s")
      ++ " (" ++ Text.join " " operands ++ ")"
  | notDirectory option path =>
    "Invalid value for '" ++ option ++ "': Directory " ++ path.quoted ++ " is a file."
  | notFile operand path =>
    "Invalid value for '" ++ operand ++ "': File " ++ path.quoted ++ " is a directory."

/-- Tells whether the usage is shown with a misuse. It is not when only the text of an option is
wrong. -/
def showsUsage : Misuse → Bool
  | words (.textMissing _) => false
  | words (.textRefused _) => false
  | _ => true

end Misuse

namespace Outcome

/-- A run that shows a text and is done. -/
def shows (text : Text) : Outcome := ⟨0, text.dropSequences, [], none, []⟩

/-- The line for an error. -/
def errorLine (message : Text) : Text := "Error: " ++ message ++ "\n"

/-- A run that is called in a wrong way, with the help page of the command that is concerned and
how this command is called. -/
def misuse (page : HelpPage) (path : Text) (m : Misuse) : Outcome :=
  let usage : Text := page.usageLine ++ "Try '" ++ path ++ " --help' for help.\n\n"
  let said := (if m.showsUsage then usage else []) ++ errorLine m.message
  ⟨2, [], said.dropSequences, none, []⟩

/-- A run that ends with a failure before its command starts. -/
def broken : Failure → Outcome
  | .invalidConfig path =>
    ⟨1, [], (errorLine (Failure.invalidConfig path).message).dropSequences, none, []⟩
  | f => ⟨1, [], [], some f, []⟩

end Outcome

end StyleImport
