import StyleImport.Effect
import StyleImport.Toml.Reader

/-!
# Configuration files

The settings of a project stand in a file of their own, or in a table of the file that describes
the project for other tools. The file is looked for in the real start directory and those above it;
in each of them a file of its own comes first. An environment variable can name the file instead.

## Main definitions

- `Environment`: the environment variables.
- `Config.ownTable`: the table with the settings.
- `Config.readTable`: the settings in a file.
- `Config.find`: the file with the settings.
-/

namespace StyleImport

/-- The environment variables with their values. -/
abbrev Environment := List (Text × Text)

namespace Environment

/-- The value of a variable. -/
def get? (env : Environment) (name : Text) : Option Text := (env.find? (·.1 = name)).map (·.2)

end Environment

namespace Config

/-- The name of a file that holds nothing but the settings. -/
def ownFileName : Text := "scssimporter.toml"

/-- The name of the file that describes a project for all tools. -/
def projectFileName : Text := "pyproject.toml"

/-- The variable that names the file with the settings. -/
def fileVariable : Text := "SCSSIMPORTER_CONFIG"

/-- Why a file gives no settings. -/
inductive Fault
  /-- The file cannot be used at all. -/
  | failure (f : Failure)
  /-- The file is no TOML document. -/
  | broken
deriving DecidableEq

/-- The kind of a value that has no entries, as messages name it. -/
def kindName : Value → String
  | .moment m => "datetime." ++ (Value.moment m).kindName
  | v => v.kindName

/-- The table with the settings among the entries of the file that describes a project, if there is
one. -/
def ownTable (entries : Toml.Entries) : Except Failure (Option Toml.Entries) :=
  match (Value.get? (.text "tool") entries).getD (.map []) with
  | .map tools =>
    match Value.get? (.text "scssimporter") tools with
    | some (.map table) => .ok (some table)
    | _ => .ok none
  | v => .error (.noEntries (kindName v))

/-- The entries of the document in the file at a path. -/
def readDocument (d : Disk) (path : Path) : Except Fault Toml.Entries :=
  match d.readBytes path with
  | .error fault => .error (.failure (.access fault))
  | .ok bytes =>
    match Utf8.decode bytes with
    | .error fault => .error (.failure (.bytes fault))
    | .ok cs =>
      match Toml.read (Utf8.unifyLineEnds cs) with
      | .ok entries => .ok entries
      | .error .malformed => .error .broken
      | .error (.numeral fault) => .error (.failure (.number fault))

/-- The settings in the file at a path. -/
def readTable (d : Disk) (path : Path) : Except Fault Toml.Entries := do
  let entries ← readDocument d path
  if path.name = projectFileName then
    match ownTable entries with
    | .ok table => return table.getD []
    | .error f => throw (.failure f)
  return entries

/-- Tells whether the file that describes a project holds settings. A file that is no TOML document
is none of ours. -/
def hasTable (d : Disk) (path : Path) : Except Failure Bool :=
  match readDocument d path with
  | .error .broken => .ok false
  | .error (.failure f) => .error f
  | .ok entries => (ownTable entries).map Option.isSome

/-- Tells whether a regular file stands at a path. -/
def isFile (d : Disk) (path : Path) : Except Failure Bool := (d.isFile path).mapError .access

/-- The file with the settings in a directory. -/
def inDirectory (d : Disk) (directory : Path) : Except Failure (Option Path) := do
  let own := directory.child ownFileName
  if ← isFile d own then return some own
  let project := directory.child projectFileName
  if ← isFile d project then
    if ← hasTable d project then return some project
  return none

/-- A directory and all above it, the nearest one first. -/
def upwards (directory : Path) : List Path :=
  (List.range (directory.parts.length + 1)).map fun n =>
    ⟨directory.anchor, directory.parts.take (directory.parts.length - n)⟩

/-- The file with the settings in the first of several directories that has one. -/
def inDirectories (d : Disk) : List Path → Except Failure (Option Path)
  | [] => .ok none
  | directory :: rest => do
    match ← inDirectory d directory with
    | some path => return some path
    | none => inDirectories d rest

/-- The file with the settings, as seen from a start directory or else the working directory. -/
def find (d : Disk) (env : Environment) (start : Option Path) : Except Failure (Option Path) := do
  match env.get? fileVariable with
  | some (c :: name) =>
    let path := Path.ofText (c :: name)
    return if ← isFile d path then some path else none
  | _ =>
    let start ← match start with
      | some path => pure path
      | none => d.cwd.mapError .access
    let origin ← (d.realPath start).mapError .ofRealFault
    inDirectories d (upwards origin)

end Config

end StyleImport
