import StyleImport.Path

/-!
# Disk

The tree of directories, files and symbolic links that the program works on. A place in the tree
is the list of names that lead to it from the root, and the disk says what stands at which place.
The root is always a directory. A relative path is seen from the working directory, unless that
directory has been removed.

## Main definitions

- `Disk`: a tree and a working directory.
- `Disk.entry?`: what stands at a place.
- `Disk.put`, `Disk.eraseTree`, `Disk.eraseBelow`: changes at a place.
- `Disk.names`: the names in a directory.
-/

namespace StyleImport

/-- A place in the tree: the names that lead to it from the root. -/
abbrev Location := List Text

/-- What stands at a place. -/
inductive Entry
  /-- A regular file with its bytes. -/
  | file (bytes : List UInt8)
  /-- A directory. -/
  | directory
  /-- A symbolic link with the path that it leads to. -/
  | link (target : Text)
deriving DecidableEq

/-- A tree of files and a working directory. -/
structure Disk where
  /-- What stands at which place. The root is not in the list. -/
  entries : List (Location × Entry)
  /-- The place that relative paths start from, unless it has been removed. -/
  workingDirectory : Option Location
deriving DecidableEq

namespace Disk

/-- The disk with nothing on it. -/
def empty : Disk := ⟨[], some []⟩

/-- What stands at a place. -/
def entry? (d : Disk) (l : Location) : Option Entry :=
  if l = [] then some .directory else (d.entries.find? (·.1 = l)).map (·.2)

/-- Puts an entry at a place. -/
def put (d : Disk) (l : Location) (e : Entry) : Disk :=
  { d with entries := d.entries.filter (·.1 ≠ l) ++ [(l, e)] }

/-- Tells whether a place is another one or lies below it. -/
def within (top l : Location) : Bool := top.isPrefixOf l

/-- Removes what stands at a place and all below it. -/
def eraseTree (d : Disk) (top : Location) : Disk :=
  { entries := d.entries.filter fun e => !within top e.1
    workingDirectory := d.workingDirectory.filter fun l => !within top l }

/-- Removes all below a place. -/
def eraseBelow (d : Disk) (top : Location) : Disk :=
  let kept (l : Location) : Bool := l = top || !within top l
  { entries := d.entries.filter fun e => kept e.1
    workingDirectory := d.workingDirectory.filter kept }

/-- The names in a directory. -/
def names (d : Disk) (l : Location) : List Text :=
  d.entries.filterMap fun e => if e.1 ≠ [] ∧ e.1.dropLast = l then e.1.getLast? else none

end Disk

end StyleImport
