import StyleImport.Engine
import StyleImport.Report
import StyleImport.Text.Blank

/-!
# Operations of the commands

What the commands do, with a report as the outcome. A manifest that cannot be used is reported; all
other failures stay failures.

## Main definitions

- `Operation.resolve`: resolving an import.
- `Operation.renderDeclarations`: the declarations made from a manifest.
- `Operation.clean`: removing the temp area.
-/

namespace StyleImport

namespace Operation

/-- The report on a manifest that cannot be used. -/
def invalidManifest (op path : Text) (reason : Manifest.Reason) : Report :=
  .failure op "INVALID_MANIFEST" (Failure.manifest path reason).message [("path", .text path)]

/-- The report on an import for which no file was found. -/
def deferred (op : Text) (reference : Reference) (file : Text) : Report :=
  .failure op "DEFERRED"
    ("No file found for " ++ reference.quoted ++ "; the compiler would use its own lookup")
    [("reference", .text reference), ("previous_file", .text file)]

/-- The report on an import that was resolved. -/
def resolved (op : Text) (reference : Reference) (t : Target) : Report :=
  let contents : Json := match t.contents with
    | some text => .text text
    | none => .null
  let size : List (Text × Json) := match t.contents with
    | some text => [("size", .int text.length)]
    | none => []
  let found : List (Text × Json) :=
    [("reference", .text reference), ("kind", .text t.kind.name), ("file", .text t.file),
      ("source_path", .text t.source), ("contents", contents)]
  .success op (found ++ size)
    (if t.contents = some [] then [t.source ++ " produced no content"] else [])

/-- Resolves an import. -/
def resolve (e : Engine) (reference : Reference) (file : Text) : Action Report := fun d =>
  let op : Text := "resolve"
  let (t, d) := e.resolve reference file d
  let result := match t.result with
    | .ok none => .ok (deferred op reference file)
    | .ok (some target) => .ok (resolved op reference target)
    | .error (.manifest path reason) => .ok (invalidManifest op path reason)
    | .error failure => .error failure
  (⟨t.log, result⟩, d)

/-- Makes declarations from a manifest. -/
def renderDeclarations (manifest : Path) (d : Disk) : Except Failure Report :=
  let op : Text := "declarations"
  match Manifest.declarations d manifest with
  | .ok text =>
    .ok (.success op
      [("manifest", .text manifest.toText), ("count", .int text.lineCount),
       ("declarations", .text text)] [])
  | .error (.manifest path reason) => .ok (invalidManifest op path reason)
  | .error (.access (.system .notFound _)) =>
    .ok (.failure op "NOT_FOUND" ("No such file: " ++ manifest.toText) [])
  | .error failure => .error failure

/-- Removes the temp area. -/
def clean (a : TempArea) : Action Report := do
  let removed ← a.clear
  return .success "clean" [("tmp_dir", .text a.root.toText), ("removed", .bool removed)] []

end Operation

end StyleImport
