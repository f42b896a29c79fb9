import StyleImport.Failure
import StyleImport.Json.Writer
import StyleImport.Report
import StyleImport.Text.Wrap
import StyleImport.Value.Display

/-!
# Rendering reports

A report is shown as a JSON document, or as text for a reader: a line with the outcome, a line for
each thing found, and behind an empty line the declarations, so that they can be copied into a
style sheet. The text of a file is shown only on request.

## Main definitions

- `Report.Style`: how reports are shown.
- `Report.render`: the text of a report.
- `Report.fault?`: what keeps a report from being rendered.
-/

namespace StyleImport

namespace Report

/-- How reports are shown. -/
structure Style where
  /-- Tells whether reports are JSON documents. -/
  json : Bool
  /-- Tells whether all there is to know is shown. -/
  verbose : Bool

/-- The number of cells of a line. -/
def width : Nat := 120

/-- A paragraph that is broken into lines. -/
def paragraph (t : Text) : Text := Text.wrap width t ++ "\n"

/-- The form of a value in a report. -/
def shown (v : Json) : Text := v.toValue.display

/-- The things found that are shown as blocks of their own. -/
def blockNames : List Text := ["contents", "declarations"]

/-- Tells whether a document says that there is nothing. -/
def isNull : Json → Bool
  | .null => true
  | _ => false

/-- The line for one of the things found. -/
def fieldLine (field : Text × Json) : Text :=
  if blockNames.contains field.1 ∨ isNull field.2 then []
  else paragraph ("  " ++ field.1 ++ ": " ++ shown field.2)

/-- The block for one of the things found, below an empty line. -/
def block (style : Style) (data : List (Text × Json)) (name : Text) : Text :=
  match Json.field? name data with
  | none => []
  | some v =>
    if isNull v ∨ (name = "contents" ∧ !style.verbose) then []
    else "\n" ++ Text.unwrapped (shown v) ++ "\n"

/-- The text for a success. -/
def successText (style : Style) (r : Report) : Text :=
  paragraph ("OK   " ++ r.op) ++ r.data.flatMap fieldLine ++ blockNames.flatMap (block style r.data)

/-- The line for something that belongs to trouble. -/
def detailLine (field : Text × Json) : Text :=
  paragraph ("    " ++ field.1 ++ ": " ++ shown field.2)

/-- The text for a failure. -/
def failureText (style : Style) (r : Report) : Text :=
  let message := match r.error with
    | some t => t.message
    | none => "Unknown error"
  let detail := match r.error with
    | some t => t.detail
    | none => []
  paragraph ("ERROR   " ++ r.op ++ " :  " ++ message)
    ++ (if style.verbose ∧ detail ≠ [] then paragraph "  detail:" ++ detail.flatMap detailLine
      else [])

/-- The text of a report. -/
def render (style : Style) (r : Report) : Text :=
  if style.json then Json.write r.toJson
  else
    Text.dropEndWhile (· = .scalar '\n')
      (if r.ok then successText style r else failureText style r)

/-- What keeps a report from being rendered: a JSON document holds no lone surrogates. -/
def fault? (style : Style) (r : Report) : Option Failure :=
  if style.json then r.toJson.surrogates?.map .report else none

end Report

end StyleImport
