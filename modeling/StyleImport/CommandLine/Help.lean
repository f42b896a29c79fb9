import StyleImport.Text

/-!
# Help pages

A help page shows how a command is called, what it does, and its options and commands in two
columns. The right column starts behind the longest text of the left one.

## Main definitions

- `HelpPage`: what a help page says.
- `HelpPage.render`: its text.
-/

namespace StyleImport

/-- What a help page says. -/
structure HelpPage where
  /-- How the command is called. -/
  usage : Text
  /-- What it does. -/
  about : Text
  /-- Its options, each with what it means. -/
  options : List (Text × Text)
  /-- Its commands, each with what it does. -/
  commands : List (Text × Text)

namespace HelpPage

/-- A list in two columns. -/
def columns (rows : List (Text × Text)) : Text :=
  let width := rows.foldl (fun width row => max width row.1.length) 0 + 2
  rows.flatMap fun row => "  " ++ Text.padEnd width row.1 ++ row.2 ++ "\n"

/-- A list with a heading, or nothing for an empty list. -/
def listing (heading : Text) (rows : List (Text × Text)) : Text :=
  if rows = [] then [] else "\n" ++ heading ++ ":\n" ++ columns rows

/-- The line that shows how the command is called. -/
def usageLine (p : HelpPage) : Text := "Usage: " ++ p.usage ++ "\n"

/-- The text of a help page. -/
def render (p : HelpPage) : Text :=
  p.usageLine ++ "\n  " ++ p.about ++ "\n" ++ listing "Options" p.options
    ++ listing "Commands" p.commands

end HelpPage

end StyleImport
