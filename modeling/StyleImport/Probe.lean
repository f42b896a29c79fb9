import StyleImport.Effect

/-!
# Probing for a file

The file that an import means may carry a mark in front of its name, for a style sheet that is only
there to be imported, and an ending behind it. The first of these spellings at which a regular file
stands is taken; the marks are tried one after the other, and for each of them all endings.

## Main definitions

- `Probe`: the marks and endings that are tried.
- `Probe.candidates`: all spellings of a name in their order.
- `Probe.find`: the first file among them.
-/

namespace StyleImport

/-- The spellings of a name that are tried. -/
structure Probe where
  /-- What may stand in front of a name. -/
  marks : List Text
  /-- What may stand behind a name. -/
  endings : List Text

namespace Probe

/-- The spellings of style sheets. -/
def standard : Probe := ⟨["", "_"], [".scss", ".css", ""]⟩

/-- The logger of this part. -/
def logger : Text := Record.root ++ ".infrastructure.probe"

/-- The directory that the last part of a name is looked up in, and that part. -/
def split (directory : Path) (name : Text) : Path × Text :=
  match Text.splitLast (.scalar '/') name with
  | none => (directory, name)
  | some (before, stem) => (directory.child before, stem)

/-- All spellings of a name in a directory, in the order in which they are tried. -/
def candidates (p : Probe) (directory : Path) (name : Text) : List Path :=
  let (base, stem) := split directory name
  p.marks.flatMap fun mark => p.endings.map fun ending => base.child (mark ++ stem ++ ending)

/-- Tells whether a regular file stands at a path. A path that leads nowhere is common; that
something else is wrong with it is noted and counts as no file. -/
def isFile (d : Disk) (path : Path) : Traced Bool :=
  match d.status path.toText with
  | .ok (_, e) => pure e.isFile
  | .error fault =>
    match fault with
    | .system .notFound _ => pure false
    | .system .notDirectory _ => pure false
    | .system _ _ => do
      .note ⟨logger, .warning, "Could not stat " ++ path.toText ++ ": " ++ fault.message⟩
      return false
    | fault => .fail (.access fault)

/-- The first path at which a regular file stands. -/
def firstFile (d : Disk) : List Path → Traced (Option Path)
  | [] => pure none
  | path :: rest => do if ← isFile d path then return some path else firstFile d rest

/-- The first spelling of a name at which a regular file stands. -/
def find (p : Probe) (d : Disk) (directory : Path) (name : Text) : Traced (Option Path) :=
  firstFile d (p.candidates directory name)

end Probe

end StyleImport
