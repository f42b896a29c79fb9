import StyleImport.Disk.Query

/-!
# Changing the disk

Operations that make directories, write files and remove trees. Each one gives the disk that it
leaves behind, also when it fails half-way.

## Main definitions

- `Disk.Change`: the outcome of an operation.
- `Disk.makeDirectory`, `Disk.makeDirectories`: one directory, or one with all above it.
- `Disk.removeTree`: removing a directory with all below it.
- `Disk.writeText`: writing a file.
-/

namespace StyleImport

namespace Disk

/-- The outcome of an operation: why it failed, if it did, and the disk that it leaves. -/
structure Change where
  /-- Why the operation failed. -/
  fault : Option AccessFault
  /-- The disk afterwards. -/
  disk : Disk

/-- An operation that leaves the disk as it is. -/
def unchanged (d : Disk) (fault : Option AccessFault) : Change := ⟨fault, d⟩

/-- Makes a directory at a path at which nothing stands. -/
def makeDirectory (d : Disk) (path : Path) : Change :=
  match d.locate false path.toText with
  | .error fault => d.unchanged (some fault)
  | .ok (.occupied _) => d.unchanged (some (.system .occupied path.toText))
  | .ok (.free l) => ⟨none, d.put l .directory⟩

/-- What remains of a failed making of a directory: nothing, if a directory stands there. -/
def forgiveDirectory (path : Path) (c : Change) : Change :=
  match c.fault with
  | none => c
  | some fault =>
    if fault.isUnspeakable then c
    else match c.disk.isDirectory path with
      | .error fault => ⟨some fault, c.disk⟩
      | .ok true => ⟨none, c.disk⟩
      | .ok false => c

/-- Tells whether an operation failed because nothing stands where a directory is needed. -/
def Change.notFound (c : Change) : Bool := (c.fault.bind (·.system?)) = some .notFound

/-- Makes a directory at a path and the missing ones above it, where `above` names are taken off
the path at most. -/
def makeDirectoriesFrom (d : Disk) (path : Path) : Nat → Change
  | 0 => forgiveDirectory path (d.makeDirectory path)
  | above + 1 =>
    let first := d.makeDirectory path
    if first.notFound then
      let parents := makeDirectoriesFrom d path.parent above
      match parents.fault with
      | some _ => parents
      | none =>
        let second := parents.disk.makeDirectory path
        if second.notFound then second else forgiveDirectory path second
    else forgiveDirectory path first

/-- Makes a directory at a path and the missing ones above it. -/
def makeDirectories (d : Disk) (path : Path) : Change :=
  d.makeDirectoriesFrom path path.parts.length

/-- Removes the directory at a path, below which nothing stands any more. -/
def removeDirectory (d : Disk) (path : Path) : Change :=
  let refuse (f : SystemFault) := d.unchanged (some (.system f path.toText))
  match d.linkStatus path.toText with
  | .error fault => d.unchanged (some fault)
  | .ok (l, _) =>
    match path.parts.getLast? with
    | none => refuse (if path.isAbsolute then .busy else .invalid)
    | some last => if last = ".." then refuse .notEmpty else ⟨none, d.eraseTree l⟩

/-- Removes the directory at a path with all below it. -/
def removeTree (d : Disk) (path : Path) : Change :=
  match d.linkStatus path.toText with
  | .error fault => d.unchanged (some fault)
  | .ok (_, .link _) => d.unchanged (some .linkTree)
  | .ok (_, .file _) => d.unchanged (some (.listing path.toText))
  | .ok (l, .directory) => (d.eraseBelow l).removeDirectory path

/-- Writes bytes to the file at a path, which is made if nothing stands there. -/
def writeBytes (d : Disk) (path : Path) (bytes : List UInt8) : Change :=
  match d.locate true path.toText with
  | .error fault => d.unchanged (some fault)
  | .ok (.free l) => ⟨none, d.put l (.file bytes)⟩
  | .ok (.occupied l) =>
    match d.entry? l with
    | some (.file _) => ⟨none, d.put l (.file bytes)⟩
    | _ => d.unchanged (some (.system .isDirectory path.toText))

/-- Writes a text to the file at a path. The file is emptied before the text is turned into
bytes. -/
def writeText (d : Disk) (path : Path) (t : Text) : Change :=
  match Utf8.encode? t with
  | .ok bytes => d.writeBytes path bytes
  | .error fault =>
    let emptied := d.writeBytes path []
    match emptied.fault with
    | some _ => emptied
    | none => ⟨some (.unencodable fault), emptied.disk⟩

/-- Makes a symbolic link at a path at which nothing stands. -/
def makeLink (d : Disk) (path : Path) (target : Text) : Change :=
  match d.locate false path.toText with
  | .error fault => d.unchanged (some fault)
  | .ok (.occupied _) => d.unchanged (some (.system .occupied path.toText))
  | .ok (.free l) => ⟨none, d.put l (.link target)⟩

end Disk

end StyleImport
