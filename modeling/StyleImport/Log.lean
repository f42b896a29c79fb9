import StyleImport.Text

/-!
# Log records

What the library notes about its work. A record names the part of the library that it comes from.

## Main definitions

- `Level`: how important a record is.
- `Record`: a record.
-/

namespace StyleImport

/-- How important a record is. Any number is a level; a greater one is more important. -/
structure Level where
  /-- The number of the level. -/
  rank : Int
deriving DecidableEq

namespace Level

/-- Narration. -/
def debug : Level := ⟨10⟩

/-- News. -/
def info : Level := ⟨20⟩

/-- Something unexpected. -/
def warning : Level := ⟨30⟩

/-- A failure. -/
def error : Level := ⟨40⟩

/-- A failure that ends the work. -/
def critical : Level := ⟨50⟩

/-- The levels that have a name of their own. -/
def named : List (Level × String) :=
  [(⟨0⟩, "notset"), (debug, "debug"), (info, "info"), (warning, "warning"), (error, "error"),
   (critical, "critical")]

/-- The name of a level. A level without a name of its own is called by its number. -/
def name (l : Level) : String :=
  match named.find? fun entry => entry.1 = l with
  | some entry => entry.2
  | none => "level " ++ toString l.rank

/-- The level that has this name of its own, if there is one. -/
def ofName? (t : Text) : Option Level :=
  (named.find? fun entry => Text.ofString entry.2 = t).map (·.1)

end Level

/-- A log record. -/
structure Record where
  /-- The part of the program that the record comes from, as a dotted name. -/
  logger : Text
  /-- How important the record is. -/
  level : Level
  /-- What happened. -/
  message : Text
deriving DecidableEq

/-- The dotted name that all parts of the program share. -/
def Record.root : Text := "scssimporter"

end StyleImport
