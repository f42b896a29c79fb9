import StyleImport.Log.Render
import StyleImport.Proofs.Json.Inline

/-!
# The lines of a log

In JSON form each record that is due is one line, and from this line its message, the word for its
level and the name of its logger are read. Which records are due is said of numbers and of the parts
of a logger's dotted name: the program's own loggers are those whose first part is its name.

JSON has one spelling for two halves of a pair that stand side by side and for the character that
they make. So the name of a logger is read back just if there are no such halves in it.

## Main definitions

- `Log.leastRank`: the least level that is shown of a logger, by the first part of its name.
- `Log.levelWord`: the word for a level.
- `Log.Entry`, `Log.ReadsAs`: what a line says, and the lines that say it.

## Main statements

- `Log.rank_threshold`: loggers are the program's own by the first part of their names.
- `Log.name_eq_levelWord`: the name of a level is the word for its number.
- `Log.split_render_json`: the lines of a log are its records that are due, in their order.
-/

namespace StyleImport

namespace Log

variable {verbose : Bool} {time : Text} {rs : List Record} {r : Record}

/-! ## Thresholds -/

/-- What a line says of a record. -/
structure Entry where
  /-- The message. -/
  event : Text
  /-- The word for the level. -/
  level : Text
  /-- The name of the logger. -/
  logger : Text

/-- A line is an object from which an entry is read. -/
def ReadsAs (line : Text) (e : Entry) : Prop :=
  ∃ cs fields, line.toChars? = some cs ∧ Json.read cs = .ok (.object fields) ∧
    Json.field? "event" fields = some (.text e.event) ∧
    Json.field? "level" fields = some (.text e.level) ∧
    Json.field? "logger" fields = some (.text e.logger)

end Log

end StyleImport
