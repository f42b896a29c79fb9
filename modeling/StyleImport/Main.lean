import StyleImport.CommandLine
import StyleImport.Disk.Revision
import Std.Time.Format
import Std.Time.Zoned

/-!
# The program

The part of the real disk that a run may look at is read, the run is worked out on it, and what the
run has changed is written back. That part holds the trees below the working directory and below the
places that the words of the command line and the settings name, the packages and configuration
files of all directories above these, and whatever links in it lead to.
-/

namespace StyleImport

/-- The string of a text, with a replacement character for each lone surrogate. -/
def Text.toStringLossy (t : Text) : String :=
  String.ofList (t.map fun
    | .scalar c => c
    | .surrogate _ => Utf8.replacement)

namespace RealDisk

/-- The path of a place. -/
def pathTo (l : Location) : String := Text.toStringLossy (Location.path l).toText

/-- What stands at a place and below it. -/
partial def treeAt (l : Location) : IO (List (Location × Entry)) := do
  let path := (← IO.currentDir) / pathTo l
  try
    match (← path.symlinkMetadata).type with
    | .dir =>
      let names := (← path.readDir).toList.map fun child => Text.ofString child.fileName
      let below ← names.mapM fun name => treeAt (l ++ [name])
      return (l, .directory) :: below.flatten
    | .file => return [(l, .file (← IO.FS.readBinFile path).toList)]
    | .symlink => return [(l, .link (← IO.FS.realPath path).toString)]
    | .other => return []
  catch _ => return []

/-- The place that a link leads to. -/
def linkPlace? : Location × Entry → Option Location
  | (_, .link target) => some (Path.ofText target).parts
  | _ => none

/-- What stands at several places and below them, and at all places that links there lead to. -/
partial def treesAt (known : List (Location × Entry)) :
    List Location → IO (List (Location × Entry))
  | [] => return known
  | l :: rest => do
    if known.any fun e => e.1 = l then treesAt known rest
    else
      let tree ← treeAt l
      treesAt (known.filter (fun e => !Disk.within l e.1) ++ tree)
        (rest ++ tree.filterMap linkPlace?)

/-- The directories above a place. -/
def above (l : Location) : List Location := (List.range l.length).map l.take

/-- The places in a directory at which packages and configuration files stand. -/
def placesIn (l : Location) : List Location :=
  [Package.directoryName, Config.ownFileName, Config.projectFileName].map fun name => l ++ [name]

/-- The part of the disk that belongs to several places. -/
def read (here : Location) (places : List Location) : IO Disk := do
  let around := places.flatMap fun l => (above l).flatMap placesIn
  let trees ← treesAt [] (places ++ around)
  let directories := (trees.flatMap fun e => above e.1).eraseDups.filter fun l =>
    l ≠ [] ∧ !trees.any fun e => e.1 = l
  return ⟨directories.map (fun l => (l, .directory)) ++ trees, some here⟩

/-- Removes what stands at a place. -/
def remove (e : Location × Entry) : IO Unit :=
  match e.2 with
  | .directory => IO.FS.removeDir (pathTo e.1)
  | _ => IO.FS.removeFile (pathTo e.1)

/-- Makes a directory or writes a file. -/
def make (e : Location × Entry) : IO Unit :=
  match e.2 with
  | .directory => IO.FS.createDir (pathTo e.1)
  | .file bytes => IO.FS.writeBinFile (pathTo e.1) ⟨bytes.toArray⟩
  | .link _ => return

/-- Writes back what a run has changed. -/
def write (old new : Disk) : IO Unit := do
  (old.goneSince new).forM remove
  (old.newSince new).forM make

end RealDisk

namespace Invocation

/-- A variable of the environment. -/
def variable_ (line : Text) : Text × Text :=
  let name := line.takeWhile (· ≠ .scalar '=')
  (name, line.drop (name.length + 1))

/-- The environment variables of this process. -/
def readEnvironment : IO Environment := do
  let bytes ← IO.FS.readBinFile "/proc/self/environ"
  let lines := Text.split (.scalar '\x00') (.ofChars (Utf8.decodeLenient bytes.toList))
  return (lines.filter (· ≠ [])).map variable_

/-- The time as log records show it. -/
def readTime : IO Text := do
  let utc := Std.Time.TimeZone.ZoneRules.UTC
  let now := Std.Time.DateTime.ofTimestamp (← Std.Time.Timestamp.now) utc
  return now.format "uuuu-MM-dd'T'HH:mm:ss.SSSSSS'Z'"

/-- The values of the variables that are settings. -/
def settingValues (e : Environment) : List Text :=
  (e.filter fun v => Settings.variableStart.isPrefixOf v.1.toLower).map (·.2)

/-- The places that the words and the settings of a run name, and the directories that these stand
in. -/
def namedPlaces (i : Invocation) (here : Location) : List Location :=
  let texts := i.words.flatMap fun word => [word, (Grammar.splitWord word).2.getD []]
  let paths := (texts ++ settingValues i.environment).filter (· ≠ [])
  let places := paths.map fun t => ((Location.path here).child t).normal.parts
  (places ++ places.map List.dropLast).filter (· ≠ [])

/-- The places that settings name. -/
def settingsPlaces (here : Location) (s : Settings) : List Location :=
  (s.projectRoot :: s.tempDir :: s.packageDirs).map fun p =>
    ((Location.path here).join p).normal.parts

/-- Carries out a run on the real disk, and gives its exit code. -/
def carryOut (i : Invocation) : IO UInt32 := do
  let here := (Path.ofText (← IO.currentDir).toString).parts
  let places := here :: i.namedPlaces here
  let first ← RealDisk.read here places
  let disk ← match i.plan first with
    | .ok (settings, _) => RealDisk.read here (places ++ settingsPlaces here settings)
    | .error _ => pure first
  let (outcome, changed) := i.run disk
  RealDisk.write disk changed
  IO.print outcome.out.toStringLossy
  IO.eprint outcome.err.toStringLossy
  if let some failure := outcome.escaped then
    IO.eprint (Outcome.errorLine failure.message).toStringLossy
  return UInt32.ofNat outcome.exit

end Invocation

end StyleImport

open StyleImport in
/-- Runs the program with the words of the command line. -/
def main (words : List String) : IO UInt32 := do
  let i : Invocation :=
    ⟨words.map Text.ofString, ← Invocation.readEnvironment, ← Invocation.readTime⟩
  i.carryOut
