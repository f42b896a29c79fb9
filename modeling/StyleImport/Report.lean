import StyleImport.Json
import StyleImport.Value.Truth

/-!
# Reports

What a command hands to its user: whether it succeeded, what it found, and why it failed.

## Main definitions

- `Report`: the outcome of a command.
- `Trouble`: why a command failed.
- `Report.toJson`, `Report.ofJson?`: the written form.
-/

namespace StyleImport

/-- Why a command failed. -/
structure Trouble where
  /-- A fixed word for the kind of trouble. -/
  code : Text
  /-- A sentence about it. -/
  message : Text
  /-- What belongs to it. -/
  detail : List (Text × Json)

/-- The outcome of a command. -/
structure Report where
  /-- Tells whether the command succeeded. -/
  ok : Bool
  /-- The name of the command. -/
  op : Text
  /-- What the command found. -/
  data : List (Text × Json)
  /-- What the user should know besides. -/
  warnings : List Text
  /-- Why the command failed. -/
  error : Option Trouble

namespace Report

/-- The report of a success. -/
def success (op : Text) (data : List (Text × Json)) (warnings : List Text) : Report :=
  ⟨true, op, data, warnings, none⟩

/-- The report of a failure. -/
def failure (op code message : Text) (detail : List (Text × Json)) : Report :=
  ⟨false, op, [], [], some ⟨code, message, detail⟩⟩

/-- The written form of trouble. -/
def troubleJson : Option Trouble → Json
  | none => .null
  | some t =>
    .object [("code", .text t.code), ("message", .text t.message), ("detail", .object t.detail)]

/-- The written form of a report. -/
def toJson (r : Report) : Json :=
  .object [("ok", .bool r.ok), ("op", .text r.op), ("data", .object r.data),
    ("warnings", .array (r.warnings.map .text)), ("error", troubleJson r.error)]

/-- The text of a document. -/
def text? : Json → Option Text
  | .text t => some t
  | _ => none

/-- The fields of an object. A missing one has no fields. -/
def fields? : Option Json → Option (List (Text × Json))
  | none => some []
  | some (.object fields) => some fields
  | some _ => none

/-- The texts of an array. A missing one has no texts. -/
def texts? : Option Json → Option (List Text)
  | none => some []
  | some (.array items) => items.mapM text?
  | some _ => none

/-- The trouble that a field holds, if it holds trouble or nothing. -/
def trouble? : Option Json → Option (Option Trouble)
  | none => some none
  | some .null => some none
  | some (.object fields) => do
    let code ← (Json.field? "code" fields).bind text?
    let message ← (Json.field? "message" fields).bind text?
    let detail ← fields? (Json.field? "detail" fields)
    return some ⟨code, message, detail⟩
  | some _ => none

/-- The report with a written form. Fields that reports do not have are passed over. -/
def ofJson? : Json → Option Report
  | .object fields => do
    let ok ← (Json.field? "ok" fields).bind fun v => v.toValue.truth?
    let op ← (Json.field? "op" fields).bind text?
    let data ← fields? (Json.field? "data" fields)
    let warnings ← texts? (Json.field? "warnings" fields)
    let error ← trouble? (Json.field? "error" fields)
    return ⟨ok, op, data, warnings, error⟩
  | _ => none

end Report

end StyleImport
