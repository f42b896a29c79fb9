import StyleImport.Disk.Query

/-!
# Real paths

The path without symbolic links that names the same place as a given one. Names are worked out
from left to right: a link is replaced by the real path of its target, and a double dot takes the
last real name away. Strict working out fails at the first name where nothing stands. Lenient
working out keeps such names; where links lead in a circle it keeps the link and all names behind
it, and fails only if the system finds the circle in the result too.

## Main definitions

- `Disk.Trail`: what is known about a path after some of its names.
- `Disk.follow`: working out names one after the other.
- `Disk.realPath`: the real path of a path.
- `Disk.RealFault`: why there is none.
-/

namespace StyleImport

namespace Disk

/-- What is known about a path after some of its names. -/
structure Trail where
  /-- The real path of the names so far. -/
  path : Path
  /-- The links met so far, each with its real path once that is known. -/
  met : List (Path × Option Path)
  /-- Tells whether links that lead in a circle have been met; no link is followed from there
  on. -/
  circular : Bool

/-- Adds a name to a path: a double dot takes the last name away. -/
def stepTo (path : Path) (name : Text) : Path :=
  ⟨path.anchor, (Path.pushNormal path.isAbsolute path.parts.reverse name).reverse⟩

/-- The target of the link at a path, if a link stands there. Whether nothing may stand there
depends on strictness. -/
def linkAt (d : Disk) (strict : Bool) (path : Path) : Except AccessFault (Option Text) :=
  match d.linkStatus path.toText with
  | .ok (_, .link target) => .ok (some target)
  | .ok _ => .ok none
  | .error fault => if strict || fault.isUnspeakable then .error fault else .ok none

/-- The greatest number of links that are worked out inside each other. -/
def nestingLimit : Nat := 1000

/-- Works out names one after the other. The depth bounds how many links are worked out inside
each other. -/
def follow (d : Disk) (strict : Bool) (depth : Nat) (trail : Trail) :
    List Text → Except AccessFault Trail
  | [] => .ok trail
  | name :: rest =>
    let next := stepTo trail.path name
    if trail.circular || name = ".." then follow d strict depth { trail with path := next } rest
    else match d.linkAt strict next with
      | .error fault => .error fault
      | .ok none => follow d strict depth { trail with path := next } rest
      | .ok (some target) =>
        match (trail.met.find? (·.1 = next)).map (·.2), depth with
        | some (some known), depth => follow d strict depth { trail with path := known } rest
        | none, depth + 1 =>
          let start := if (Path.ofText target).isAbsolute then ⟨.root, []⟩ else trail.path
          match follow d strict depth ⟨start, (next, none) :: trail.met, false⟩
              (Path.partsOf target) with
          | .error fault => .error fault
          | .ok inner =>
            let met := (next, some inner.path) :: inner.met
            follow d strict (depth + 1) ⟨inner.path, met, inner.circular⟩ rest
        | _, depth =>
          if strict then .error (.system .tooManyLinks next.toText)
          else follow d strict depth { trail with path := next, circular := true } rest
termination_by names => (depth, names.length)

/-- The real path of a path. -/
def workOut (d : Disk) (strict : Bool) (path : Path) : Except AccessFault Path :=
  let start : Path := if path.isAbsolute then ⟨.root, []⟩ else ⟨.relative, []⟩
  match d.follow strict nestingLimit ⟨start, [], false⟩ path.parts with
  | .error fault => .error fault
  | .ok trail => (d.absolute trail.path).map Path.normal

/-- Why there is no real path. -/
inductive RealFault
  /-- An operation on the way fails. -/
  | access (fault : AccessFault)
  /-- Links lead in a circle at a path. -/
  | circle (path : Text)
deriving DecidableEq

/-- The wording of a fault. -/
def RealFault.message : RealFault → Text
  | access fault => fault.message
  | circle path => "Symlink loop from " ++ path.quoted

/-- The real path of a path, with names kept where nothing stands. -/
def realPath (d : Disk) (path : Path) : Except RealFault Path :=
  match d.workOut false path with
  | .error fault => .error (.access fault)
  | .ok real =>
    match d.status real.toText with
    | .error (.system .tooManyLinks path) => .error (.circle path)
    | _ => .ok real

/-- The real path of a path at which something stands. -/
def existingPath (d : Disk) (path : Path) : Except AccessFault Path := d.workOut true path

end Disk

end StyleImport
