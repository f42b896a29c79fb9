import StyleImport.Json

/-!
# Targets

What an import turns out to be. The ending of a file name decides: style sheets are handed over by
their path, value manifests as the declarations made from them, and all other files with their
text. Scripts are never targets.

## Main definitions

- `TargetKind`, `TargetKind.ofSuffix`: the three kinds.
- `Target`: a resolved import.
- `Target.payload`, `Target.parts`: the two shapes in which compilers take a target.
- `Target.ofJson?`: a target from its written form.
-/

namespace StyleImport

/-- What a resolved import is. -/
inductive TargetKind
  /-- A style sheet, which the compiler reads itself. -/
  | stylesheet
  /-- A value manifest, handed over as declarations. -/
  | manifestData
  /-- Any other file, handed over as text. -/
  | rawStatic
deriving DecidableEq, Inhabited

namespace TargetKind

/-- The name of a kind. -/
def name : TargetKind → String
  | stylesheet => "stylesheet"
  | manifestData => "manifest_data"
  | rawStatic => "raw_static"

/-- The kind with a name. -/
def ofName? (t : Text) : Option TargetKind :=
  [stylesheet, manifestData, rawStatic].find? fun k => Text.ofString k.name = t

end TargetKind

/-- The endings of style sheets. -/
def stylesheetSuffixes : List Text := [".scss", ".css"]

/-- The endings of value manifests. -/
def manifestSuffixes : List Text := [".json", ".yaml", ".yml", ".py"]

/-- The endings of scripts. -/
def scriptSuffixes : List Text := [".js", ".ts", ".es6"]

/-- The kind of a file whose name has this ending. -/
def TargetKind.ofSuffix (suffix : Text) : TargetKind :=
  if stylesheetSuffixes.contains suffix then .stylesheet
  else if manifestSuffixes.contains suffix then .manifestData
  else .rawStatic

/-- A resolved import. -/
structure Target where
  /-- The absolute path that the compiler is given. -/
  file : Text
  /-- What the file is. -/
  kind : TargetKind
  /-- The text to use in place of the file's own; none for style sheets. -/
  contents : Option Text
  /-- The absolute path of the file that was found. -/
  source : Text
deriving DecidableEq

namespace Target

/-- Tells whether a target carries its text. -/
def isInline (t : Target) : Bool := t.contents.isSome

/-- The shape of a target for compilers that take named fields. -/
def payload (t : Target) : List (Text × Json) :=
  match t.contents with
  | none => [("file", .text t.file)]
  | some contents => [("file", .text t.file), ("contents", .text contents)]

/-- The shape of a target for compilers that take the path, or the path and the text. -/
def parts (t : Target) : List Text :=
  match t.contents with
  | none => [t.file]
  | some contents => [t.file, contents]

/-- The target with the given fields, if each of them has the right kind. The text may be
absent. -/
def ofJson? (file kind source contents : Json) : Option Target :=
  match file, kind, source with
  | .text file, .text kind, .text source => do
    let kind ← TargetKind.ofName? kind
    match contents with
    | .null => return ⟨file, kind, none, source⟩
    | .text t => return ⟨file, kind, some t, source⟩
    | _ => none
  | _, _, _ => none

end Target

end StyleImport
