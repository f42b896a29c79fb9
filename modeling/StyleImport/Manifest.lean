import StyleImport.Effect
import StyleImport.Yaml.Content

/-!
# Value manifests

A manifest is a file that exports a mapping of values, in one of three formats. The ending of its
name decides which one. An empty document exports nothing. A manifest is read again for each use.

## Main definitions

- `Manifest.Format`: the formats.
- `Manifest.Format.ofSuffix?`: the format of files with an ending.
- `Manifest.export_`: the value that a manifest exports.
- `Manifest.load`: the entries of a manifest.
- `Manifest.declarations`: the declarations made from a manifest.
-/

namespace StyleImport

namespace Manifest

/-- A format of manifests. -/
inductive Format
  /-- A JSON document. -/
  | json
  /-- A YAML document. -/
  | yaml
  /-- A script with assignments. -/
  | script
deriving DecidableEq

/-- The format of files with an ending. -/
def Format.ofSuffix? (suffix : Text) : Option Format :=
  if suffix = ".json" then some .json
  else if suffix = ".yaml" ∨ suffix = ".yml" then some .yaml
  else if suffix = ".py" then some .script
  else none

/-- The name that a script gives its exported value. -/
def exportName : String := "exports"

/-- The characters of the file at a path, with all line ends read as line feeds. A file that is no
text cannot be used as a manifest. -/
def readText (d : Disk) (path : Path) : Except Failure (List Char) :=
  match d.readBytes path with
  | .error fault => .error (.access fault)
  | .ok bytes =>
    match Utf8.decode bytes with
    | .error fault => .error (.manifest path.toText (.bytes fault))
    | .ok cs => .ok (Utf8.unifyLineEnds cs)

/-- The JSON document in the file at a path. -/
def readJson (d : Disk) (path : Path) : Except Failure Json := do
  match Json.read (← readText d path) with
  | .ok v => return v
  | .error (.number fault) => throw (.number fault)
  | .error fault => throw (.manifest path.toText (.json fault))

/-- The value of the YAML document in the file at a path. -/
def readYaml (d : Disk) (path : Path) : Except Failure Value := do
  match Yaml.read (← readText d path) with
  | .ok v => return v
  | .error .malformed => throw (.manifest path.toText .yaml)
  | .error fault => throw (.scalar fault)

/-- The bytes of the script at a path, which is looked up by its absolute path. -/
def readScriptBytes (d : Disk) (path : Path) : Except Reason (List UInt8) :=
  match Disk.unspeakable? path.toText, d.isDirectory path with
  | some fault, _ => .error (.unreadableScript fault)
  | none, .ok true => .error (.scriptDirectory path.toText)
  | none, _ =>
    match d.absolute path with
    | .error fault => .error (.unreadableScript fault)
    | .ok full => (d.readBytes full.normal).mapError .unreadableScript

/-- The value that the script at a path exports. -/
def runScript (d : Disk) (path : Path) : Except Reason Value := do
  let bytes ← readScriptBytes d path
  match Script.lookup exportName bytes with
  | .error fault => throw (.script path.name fault)
  | .ok none => throw (.noExport exportName)
  | .ok (some v) => return v

/-- The value that a manifest exports. -/
def export_ (d : Disk) (path : Path) : Except Failure Value :=
  match Format.ofSuffix? path.suffix with
  | none => .error (.manifest path.toText (.unsupported path.suffix))
  | some .json => (readJson d path).map Json.toValue
  | some .yaml => readYaml d path
  | some .script => (runScript d path).mapError (.manifest path.toText)

/-- The entries of a manifest. -/
def load (d : Disk) (path : Path) : Except Failure (List (Value × Value)) := do
  match ← export_ d path with
  | .null => return []
  | .map entries => return entries
  | v => throw (.manifest path.toText (.notMapping v.kindName))

/-- The declarations made from a manifest. -/
def declarations (d : Disk) (path : Path) : Except Failure Text := do
  let entries ← load d path
  (Declarations.render entries).mapError .literal

end Manifest

end StyleImport
