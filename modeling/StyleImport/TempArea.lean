import StyleImport.Effect

/-!
# Temp area

The directory to which declarations made from manifests are written, so that other tools find them
in a real file. Each source has one file there, whose name is made from the path of the source.

## Main definitions

- `TempArea`: the directory.
- `TempArea.fileName`: the name of the file for a source.
- `TempArea.reset`, `TempArea.clear`: emptying and removing it.
- `TempArea.write`: writing declarations.
-/

namespace StyleImport

/-- The directory for declarations made from manifests. -/
structure TempArea where
  /-- The path of the directory. -/
  root : Path

namespace TempArea

/-- The path of the directory in a project that does not choose another one. -/
def standard : Path := .ofText "node_modules/.tmp/scss-importer"

/-- The logger of this part. -/
def logger : Text := Record.root ++ ".infrastructure.workspace"

/-- The name of the file for a source: all but ASCII letters and digits become underscores. -/
def fileName (source : Text) : Text :=
  source.map (fun c => if c.isAsciiAlphanumeric then c else .scalar '_') ++ ".scss"

/-- The path of the file for a source. -/
def pathFor (a : TempArea) (source : Text) : Path := a.root.child (fileName source)

/-- Tells whether the directory is there. -/
def isThere (a : TempArea) : Action Bool := .lookup fun d => .ofAccess (d.occupiedAt a.root)

/-- Removes the directory with all in it and makes it anew. -/
def reset (a : TempArea) : Action Unit := do
  if ← a.isThere then .change (·.removeTree a.root)
  .change (·.makeDirectories a.root)
  .note ⟨logger, .debug, "Reset temp area " ++ a.root.toText⟩

/-- Removes the directory. Tells whether it was there. -/
def clear (a : TempArea) : Action Bool := do
  if ← a.isThere then
    .change (·.removeTree a.root)
    return true
  return false

/-- Writes the declarations made from a source, and gives the path of their file. -/
def write (a : TempArea) (source text : Text) : Action Path := do
  let path := a.pathFor source
  .change (·.makeDirectories path.parent)
  .change (·.writeText path text)
  return path

end TempArea

end StyleImport
