import StyleImport.Manifest
import StyleImport.Package
import StyleImport.TempArea

/-!
# Resolving imports

An import is a reference in a file. It is resolved in two steps: the file that it means is found,
and the ending of that file's name decides what is handed to the compiler. An import for which no
file is found, or only a script, is left to the compiler.

## Main definitions

- `Engine`: where packages are searched and declarations are written.
- `Engine.normalize`, `Engine.parentDirectory`: the directory of the importing file.
- `Engine.findClassic`, `Engine.findDependency`, `Engine.find`: the file that a reference means.
- `Engine.resolve`: the target of an import.
-/

namespace StyleImport

/-- Where packages are searched and declarations are written. -/
structure Engine where
  /-- The directory for declarations made from manifests. -/
  tempArea : TempArea
  /-- The directory from which packages are searched upwards. -/
  projectRoot : Path
  /-- The directories in which packages are searched before. -/
  packageDirs : List Path
  /-- The spellings of file names. -/
  probe : Probe

namespace Engine

/-- The logger of this part. -/
def logger : Text := Record.root ++ ".services.resolver"

/-- A record that narrates. -/
def story (logger message : Text) : Record := ⟨logger, .debug, message⟩

/-- Tells whether a code point is a slash or backslash. -/
def isSeparator (c : CodePoint) : Bool := c = .scalar '/' || c = .scalar '\\'

/-- The text with each run of slashes and backslashes replaced by one slash. -/
def unifySeparators (t : Text) : Text := Text.squeeze isSeparator (.scalar '/') t

/-- The real path that a text names, or the text itself if nothing stands there, with unified
separators. -/
def normalize (d : Disk) (path : Text) : Except Failure Text :=
  match d.existingPath (.ofText path) with
  | .ok real => .ok (unifySeparators real.toText)
  | .error fault =>
    if fault.isUnspeakable then .error (.access fault) else .ok (unifySeparators path)

/-- What stands before the last separator of a path. -/
def parentText (path : Text) : Text :=
  match Text.splitLast (.scalar '/') (unifySeparators path) with
  | none => []
  | some (before, _) => before

/-- The directory of an importing file. -/
def parentDirectory (d : Disk) (file : Text) : Except Failure Text :=
  let parent := parentText file
  if parent ≠ [] then normalize d parent
  else if file.head?.any isSeparator then normalize d "/"
  else normalize d "."

/-- The name of the files that stand for a directory. -/
def indexName : Text := "index"

/-- The file that a name means in a directory, or else the index file of the directory with this
name. -/
def findClassic (e : Engine) (d : Disk) (directory : Path) (name : Text) :
    Traced (Option Path) := do
  match ← e.probe.find d directory name with
  | some path => return some path
  | none =>
    let inner := directory.child name
    .note (story logger ("Looking for " ++ name ++ " -> " ++ indexName ++ " in " ++ inner.toText))
    e.probe.find d inner indexName

/-- The first file that one of several paths inside a package means. Scripts are passed over. -/
def findEntry (e : Engine) (d : Disk) (package : Text) (directory : Path) :
    List Text → Traced (Option Path)
  | [] => pure none
  | entry :: rest => do
    if !Package.isStyleCandidate entry then
      .note (story Package.logger ("Skipping script entry " ++ entry ++ " of " ++ package))
      findEntry e d package directory rest
    else match ← e.findClassic d directory entry with
      | some path => return some path
      | none => findEntry e d package directory rest

/-- The file that a reference to a package means. -/
def findDependency (e : Engine) (d : Disk) (reference : Reference) : Traced (Option Path) := do
  match Dependency.parse? reference with
  | none => return none
  | some dep =>
    match ← .ofExcept (Package.findDir d e.projectRoot e.packageDirs dep.package) with
    | none =>
      .note (story Package.logger ("Package " ++ dep.package ++ " is not installed"))
      return none
    | some directory =>
      let entries ← .ofExcept (Package.entryPaths d directory dep.subpath)
      e.findEntry d dep.package directory entries

/-- The file that a reference in a file means. -/
def find (e : Engine) (d : Disk) (reference : Reference) (file : Text) : Traced (Option Path) := do
  if reference.isDependency then e.findDependency d reference
  else
    let directory ← .ofExcept (parentDirectory d file)
    e.findClassic d (.ofText directory) reference

/-- The absolute path of a file that was found. -/
def sourcePath (d : Disk) (found : Path) : Except Failure Text :=
  match d.absolute found with
  | .ok path => .ok path.normal.toText
  | .error fault => .error (.access fault)

/-- The text of a file that is neither a style sheet nor a manifest. -/
def staticText (d : Disk) (found : Path) : Except Failure Text :=
  match d.readBytes found with
  | .ok bytes => .ok (Text.ofChars (Utf8.unifyLineEnds (Utf8.decodeLenient bytes)))
  | .error fault => .error (.access fault)

/-- Notes what a file turned out to be. -/
def noteSource (what source : Text) : Action Unit := .note (story logger (what ++ ": " ++ source))

/-- The target for a file that was found. -/
def classify (e : Engine) (found : Path) : Action (Option Target) := do
  let source ← .lookup fun d => .ofExcept (sourcePath d found)
  if scriptSuffixes.contains found.suffix then
    noteSource "Resolved to a script, deferring" source
    return none
  match TargetKind.ofSuffix found.suffix with
  | .stylesheet =>
    noteSource "Resolved to style sheet" source
    return some ⟨source, .stylesheet, none, source⟩
  | .manifestData =>
    noteSource "Resolved to value manifest" source
    let contents ← .lookup fun d => .ofExcept (Manifest.declarations d found)
    let written ← e.tempArea.write source contents
    let file ← .lookup fun d => .ofAccess (d.absolute written)
    return some ⟨file.toText, .manifestData, some contents, source⟩
  | .rawStatic =>
    noteSource "Resolved to static file" source
    let contents ← .lookup fun d => .ofExcept (staticText d found)
    return some ⟨source, .rawStatic, some contents, source⟩

/-- The target of an import. -/
def resolve (e : Engine) (reference : Reference) (file : Text) : Action (Option Target) := do
  .note (story logger ("Trying to resolve " ++ reference))
  match ← .lookup fun d => e.find d reference file with
  | none =>
    .note (story logger ("Not found, deferring " ++ reference ++ " to the compiler"))
    return none
  | some found => e.classify found

/-- An engine whose temp area lies in the project, and the emptying of that area. -/
def create (projectRoot : Option Path) (tempDir : Option Path) (packageDirs : List Path) :
    Action Engine := do
  let root ← match projectRoot with
    | some root => pure root
    | none => .lookup fun d => .ofAccess d.cwd
  let e : Engine := ⟨⟨root.join (tempDir.getD TempArea.standard)⟩, root, packageDirs, .standard⟩
  e.tempArea.reset
  return e

end Engine

end StyleImport
