import StyleImport.Disk.Walk

/-!
# Asking the disk

Questions about the place that a path names, all links followed. A question whether something of
some kind stands there is answered with "no" for every path that leads nowhere, but it fails for a
path that is too long.

## Main definitions

- `Disk.isDirectory`, `Disk.isFile`, `Disk.occupiedAt`: what kind of thing stands at a path.
- `Disk.readBytes`: the bytes of a file.
- `Disk.cwd`: the path of the working directory.
-/

namespace StyleImport

/-- The absolute path of a place. -/
def Location.path (l : Location) : Path := ⟨.root, l⟩

namespace Entry

/-- Tells whether an entry is a directory. -/
def isDirectory : Entry → Bool
  | directory => true
  | _ => false

/-- Tells whether an entry is a regular file. -/
def isFile : Entry → Bool
  | file _ => true
  | _ => false

end Entry

namespace Disk

/-- Tells whether a fault means that a path leads nowhere. -/
def meansNothing : AccessFault → Bool
  | .system .notFound _ => true
  | .system .notDirectory _ => true
  | .system .tooManyLinks _ => true
  | .nullCharacter => true
  | .unencodable _ => true
  | _ => false

/-- Tells whether an entry that passes a test stands at a path. -/
def isAt (d : Disk) (test : Entry → Bool) (path : Path) : Except AccessFault Bool :=
  match d.status path.toText with
  | .ok (_, e) => .ok (test e)
  | .error fault => if meansNothing fault then .ok false else .error fault

/-- Tells whether a directory stands at a path. -/
def isDirectory (d : Disk) (path : Path) : Except AccessFault Bool := d.isAt Entry.isDirectory path

/-- Tells whether a regular file stands at a path. -/
def isFile (d : Disk) (path : Path) : Except AccessFault Bool := d.isAt Entry.isFile path

/-- Tells whether anything stands at a path. -/
def occupiedAt (d : Disk) (path : Path) : Except AccessFault Bool := d.isAt (fun _ => true) path

/-- The bytes of the file at a path. -/
def readBytes (d : Disk) (path : Path) : Except AccessFault (List UInt8) :=
  match d.status path.toText with
  | .error fault => .error fault
  | .ok (_, .file bytes) => .ok bytes
  | .ok _ => .error (.system .isDirectory path.toText)

/-- The path of the working directory. -/
def cwd (d : Disk) : Except AccessFault Path :=
  match d.workingDirectory with
  | some l => .ok l.path
  | none => .error .noWorkingDirectory

/-- A path seen from the root. -/
def absolute (d : Disk) (path : Path) : Except AccessFault Path :=
  if path.isAbsolute then .ok path else (d.cwd).map (·.join path)

end Disk

end StyleImport
