import StyleImport.Disk
import StyleImport.Disk.Fault

/-!
# Walking a path

How the system finds the place that a path names. It goes from name to name, needs a directory at
every step, and follows the symbolic links on its way; whether it follows one at the end of the
path depends on the operation. A double dot leads one step up in the tree, and a single dot or an
empty name stays where it is.

## Main definitions

- `Disk.Landing`: where a walk ends.
- `Disk.walk`: a walk along names.
- `Disk.locate`: the place that a path names.
- `Disk.status`: what stands there, with links followed; `Disk.linkStatus` does not follow the last
  one.
-/

namespace StyleImport

namespace Disk

/-- The greatest number of links that are followed on one walk. -/
def linkLimit : Nat := 40

/-- The greatest number of bytes of a name. -/
def nameLimit : Nat := 255

/-- The greatest number of bytes of a path. -/
def pathLimit : Nat := 4095

/-- The first and the last surrogate that stands for a single byte. -/
def byteSurrogates : Nat × Nat := (0xDC80, 0xDCFF)

/-- Tells whether a code point has no bytes in a path. -/
def hasNoBytes (c : CodePoint) : Bool :=
  c.isSurrogate && !(byteSurrogates.1 ≤ c.toNat && c.toNat ≤ byteSurrogates.2)

/-- The first stretch of code points without bytes in a path, whose first code point has the
index `i`. The stretch goes on to the end of the surrogates. -/
def firstWithoutBytes (i : Nat) : Text → Option Utf8.EncodeFault
  | [] => none
  | c :: t =>
    if hasNoBytes c then some ⟨i, c :: t.takeWhile (·.isSurrogate)⟩
    else firstWithoutBytes (i + 1) t

/-- The number of bytes of a name or path. -/
def byteCount : Text → Nat
  | [] => 0
  | .scalar c :: t => (Utf8.encodeChar c).length + byteCount t
  | .surrogate _ :: t => 1 + byteCount t

/-- Why a path cannot be handed to the system, if it cannot. -/
def unspeakable? (path : Text) : Option AccessFault :=
  match firstWithoutBytes 0 path with
  | some fault => some (.unencodable fault)
  | none => if path.contains (.scalar '\x00') then some .nullCharacter else none

/-- Where a walk ends. -/
inductive Landing
  /-- At a place where something stands. -/
  | occupied (l : Location)
  /-- At a place where nothing stands, in a directory. -/
  | free (l : Location)
deriving DecidableEq

/-- The place that a path starts from, if `here` is the place for relative ones. -/
def startOf (here : Location) (path : Text) : Location :=
  if path.head? = some (.scalar '/') then [] else here

/-- The names of a path, with an empty one wherever two slashes meet or one stands at an end. -/
def steps (path : Text) : List Text := Text.split (.scalar '/') path

/-- A walk along names from a place. At most `links` symbolic links are followed. -/
def walk (d : Disk) (followLast : Bool) (links : Nat) (here : Location) :
    List Text → Except SystemFault Landing
  | [] => .ok (.occupied here)
  | name :: rest =>
    match d.entry? here with
    | none => .error .notFound
    | some (.file _) => .error .notDirectory
    | some (.link _) => .error .notDirectory
    | some .directory =>
      if name = [] ∨ name = "." then walk d followLast links here rest
      else if name = ".." then walk d followLast links here.dropLast rest
      else if nameLimit < byteCount name then .error .nameTooLong
      else match d.entry? (here ++ [name]) with
        | none => if rest = [] then .ok (.free (here ++ [name])) else .error .notFound
        | some (.link target) =>
          if rest = [] ∧ !followLast then .ok (.occupied (here ++ [name]))
          else match links with
            | 0 => .error .tooManyLinks
            | links + 1 => walk d followLast links (startOf here target) (steps target ++ rest)
        | some _ => walk d followLast links (here ++ [name]) rest
termination_by names => (links, names.length)

/-- The place that a path names. -/
def locate (d : Disk) (followLast : Bool) (path : Text) : Except AccessFault Landing :=
  match unspeakable? path with
  | some fault => .error fault
  | none =>
    let landing : Except SystemFault Landing :=
      if path = [] then .error .notFound
      else if pathLimit < byteCount path then .error .nameTooLong
      else if path.head? = some (.scalar '/') then walk d followLast linkLimit [] (steps path)
      else match d.workingDirectory with
        | none => .error .notFound
        | some here => walk d followLast linkLimit here (steps path)
    landing.mapError fun f => .system f path

/-- What stands at the place that a path names. -/
def statusBy (d : Disk) (followLast : Bool) (path : Text) : Except AccessFault (Location × Entry) :=
  match d.locate followLast path with
  | .error fault => .error fault
  | .ok (.free _) => .error (.system .notFound path)
  | .ok (.occupied l) =>
    match d.entry? l with
    | none => .error (.system .notFound path)
    | some e => .ok (l, e)

/-- What stands at the place that a path names, all links followed. -/
def status (d : Disk) (path : Text) : Except AccessFault (Location × Entry) := d.statusBy true path

/-- What stands at the place that a path names, a link at its end not followed. -/
def linkStatus (d : Disk) (path : Text) : Except AccessFault (Location × Entry) :=
  d.statusBy false path

end Disk

end StyleImport
