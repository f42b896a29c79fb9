import StyleImport.Manifest
import StyleImport.Probe
import StyleImport.Reference
import StyleImport.Target

/-!
# Installed packages

A package is a directory below one of the directories for packages: first those that are given, and
then one in the real project directory and in each directory above it. A reference that names only
the package leads to one of its entry points, which its description lists; the last one is always
the package directory itself.

## Main definitions

- `Package.Description`: the entry points that a package describes.
- `Package.Description.read`: the description of a package on the disk.
- `Package.searchDirs`: the directories for packages.
- `Package.findDir`: the directory of a package.
- `Package.isStyleCandidate`: which entry points may be style sheets.
-/

namespace StyleImport

namespace Package

/-- The entry points that a package describes. -/
structure Description where
  /-- The main entry point. -/
  main : Option Text
  /-- The entry point for style sheets. -/
  style : Option Text
  /-- The entry point for style sheets of this language. -/
  sass : Option Text
  /-- The directory of style sheets of this language. -/
  sassDir : Option Text
deriving DecidableEq

namespace Description

/-- The description without entry points. -/
def empty : Description := ⟨none, none, none, none⟩

/-- The text under a key, if there is one. -/
def textField (name : Text) (fields : List (Text × Json)) : Option Text :=
  match Json.field? name fields with
  | some (.text t) => some t
  | _ => none

/-- The description that the fields of an object give. -/
def ofFields (fields : List (Text × Json)) : Description :=
  let eyeglass := match Json.field? "eyeglass" fields with
    | some (.object inner) => inner
    | _ => []
  ⟨textField "main" fields, textField "style" fields, textField "sass" fields,
    textField "sassDir" eyeglass⟩

/-- The entry points in the order in which they are tried. -/
def entryPoints (p : Description) : List Text :=
  [p.main, p.style, p.sass, p.sassDir].filterMap id ++ [[]]

/-- The name of the file that holds the description. -/
def fileName : Text := "package.json"

/-- The description of the package in a directory. A package without a description describes
nothing. -/
def read (d : Disk) (directory : Path) : Except Failure Description :=
  let path := directory.child fileName
  match Manifest.readJson d path with
  | .error (.access (.system .notFound _)) => .ok empty
  | .error failure => .error failure
  | .ok (.object fields) => .ok (ofFields fields)
  | .ok _ => .error (.manifest path.toText .notObject)

end Description

/-- Tells whether an entry point may be a style sheet: it ends like one, or at least not like a
script. -/
def isStyleCandidate (t : Text) : Bool :=
  stylesheetSuffixes.any (·.isSuffixOf t) || !scriptSuffixes.any (·.isSuffixOf t)

/-- The name of the directories for packages. -/
def directoryName : Text := "node_modules"

/-- The logger of this part. -/
def logger : Text := Record.root ++ ".infrastructure.packages"

/-- The directories for packages in a directory and those above it, the nearest one first. -/
def dirsAbove (l : Path) : List Path :=
  (List.range (l.parts.length + 1)).map fun n =>
    (⟨l.anchor, l.parts.take (l.parts.length - n)⟩ : Path).child directoryName

/-- The directories for packages that belong to a project. -/
def projectDirs (d : Disk) (project : Path) : Except Failure (List Path) :=
  match d.realPath project with
  | .ok real => .ok (dirsAbove real)
  | .error fault => .error (.ofRealFault fault)

/-- The directories for packages: those that are given and those of a project. -/
def searchDirs (d : Disk) (project : Path) (given : List Path) : Except Failure (List Path) :=
  (projectDirs d project).map (given ++ ·)

/-- The first directory with a name below one of several directories. -/
def firstDir (d : Disk) (name : Text) : List Path → Except Failure (Option Path)
  | [] => .ok none
  | dir :: rest =>
    match d.isDirectory (dir.child name) with
    | .error fault => .error (.access fault)
    | .ok true => .ok (some (dir.child name))
    | .ok false => firstDir d name rest

/-- The directory of the package with a name. The project is looked at only if the given
directories do not hold the package. -/
def findDir (d : Disk) (project : Path) (given : List Path) (name : Text) :
    Except Failure (Option Path) := do
  match ← firstDir d name given with
  | some dir => return some dir
  | none => firstDir d name (← projectDirs d project)

/-- The paths inside a package that a reference may mean. -/
def entryPaths (d : Disk) (directory : Path) (subpath : Text) : Except Failure (List Text) :=
  if subpath ≠ [] then .ok [subpath] else (Description.read d directory).map (·.entryPoints)

end Package

end StyleImport
