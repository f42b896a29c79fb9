import StyleImport.Json.Writer
import StyleImport.Log

/-!
# Rendering log records

A record becomes a line of text with its time, level, message and logger, or a JSON object on a
line of its own. The records of the program itself are shown from warnings on, or all of them on
request; those of other programs are shown from warnings on.

## Main definitions

- `Log.Style`: which records are shown, and how.
- `Log.Style.admits`: whether a record is shown.
- `Log.Style.render`: the text of records.
-/

namespace StyleImport

namespace Log

/-- Which records are shown, and how. -/
structure Style where
  /-- Tells whether all records of the program are shown. -/
  verbose : Bool
  /-- Tells whether records are JSON objects. -/
  json : Bool

/-- Tells whether a logger belongs to the program. -/
def isOwn (logger : Text) : Bool :=
  logger = Record.root || (Record.root ++ ".").isPrefixOf logger

/-- The least level at which the records of a logger are shown. -/
def threshold (verbose : Bool) (logger : Text) : Level :=
  if verbose && isOwn logger then .debug else .warning

/-- Tells whether a record is shown. -/
def Style.admits (s : Style) (r : Record) : Bool :=
  (threshold s.verbose r.logger).rank ≤ r.level.rank

/-- The name of a logger in a line: the one without a name is the root. -/
def shownLogger (logger : Text) : Text := if logger = [] then "root" else logger

/-- The number of characters that a level is filled up to. -/
def levelWidth : Nat := 9

/-- The number of characters that a message is filled up to. -/
def messageWidth : Nat := 30

/-- A record as text. -/
def plainLine (time : Text) (r : Record) : Text :=
  time ++ " [" ++ Text.padEnd levelWidth r.level.name ++ "] " ++ Text.padEnd messageWidth r.message
    ++ " [" ++ shownLogger r.logger ++ "]\n"

/-- A record as a JSON object. -/
def jsonLine (time : Text) (r : Record) : Text :=
  let fields : List (Text × Text) :=
    [("event", r.message), ("level", r.level.name), ("logger", shownLogger r.logger),
     ("timestamp", time)]
  "\x7b" ++ Text.join ", " (fields.map fun f => Json.asciiText f.1 ++ ": " ++ Json.asciiText f.2)
    ++ "\x7d\n"

/-- The text of those records that are shown, each with the given time. -/
def Style.render (s : Style) (time : Text) (rs : List Record) : Text :=
  (rs.filter s.admits).flatMap (if s.json then jsonLine time else plainLine time)

end Log

end StyleImport
