import StyleImport.Config
import StyleImport.Json.Reader
import StyleImport.TempArea
import StyleImport.Text.LetterCase
import StyleImport.Value.Truth

/-!
# Settings

The settings of a run come from the command line, the environment and a configuration file, in this
order; what none of them sets has a default. The settings of the resolver form a section of their
own, whose parts are decided one by one. Other names are not allowed in a configuration file, but
the section of the resolver may hold any.

## Main definitions

- `Flags`: what the command line sets.
- `Settings`: the settings of a run.
- `Settings.overlay`: entries put over others.
- `Settings.fromEnvironment`: the entries that the environment sets.
- `Settings.ofEntries`: the settings that entries give.
- `Settings.gather`: the settings of a run.
-/

namespace StyleImport

/-- The switches that the command line sets. -/
structure Flags where
  /-- Tells whether reports are JSON documents. -/
  jsonOutput : Option Bool
  /-- Tells whether the work is narrated. -/
  verbose : Option Bool
  /-- Tells whether log records are JSON objects. -/
  logJson : Option Bool

/-- The settings of a run. -/
structure Settings where
  /-- The directory of the project. -/
  projectRoot : Path
  /-- The configuration file that was used. -/
  configPath : Option Path
  /-- Tells whether reports are JSON documents. -/
  jsonOutput : Bool
  /-- Tells whether the work is narrated. -/
  verbose : Bool
  /-- Tells whether log records are JSON objects. -/
  logJson : Bool
  /-- The directory for declarations, seen from the project. -/
  resolverTempDir : Path
  /-- The directories in which packages are searched, seen from the project. -/
  resolverPackageDirs : List Path

namespace Settings

/-- The directory for declarations. -/
def tempDir (s : Settings) : Path := s.projectRoot.join s.resolverTempDir

/-- The directories in which packages are searched. -/
def packageDirs (s : Settings) : List Path := s.resolverPackageDirs.map s.projectRoot.join

/-- The entries of settings. -/
abbrev Entries := List (Value × Value)

mutual

/-- The value under a key when another one is put over it: mappings are joined, all other values
replaced. -/
def overlayValue : Option Value → Value → Value
  | some (.map base), .map new => .map (overlay base new)
  | _, v => v

/-- Entries put over others. -/
def overlay (base : Entries) : Entries → Entries
  | [] => base
  | (k, v) :: rest => overlay (Value.put k (overlayValue (Value.get? k base) v) base) rest

end

/-- The entries that the command line sets. -/
def fromFlags (f : Flags) : Entries :=
  let entry (name : Text) (b : Option Bool) : Entries :=
    match b with
    | some b => [(.text name, .bool b)]
    | none => []
  entry "json_output" f.jsonOutput ++ entry "verbose" f.verbose ++ entry "log_json" f.logJson

/-- What the names of all variables start with, in small letters. -/
def variableStart : Text := "scssimporter_"

/-- What stands between the name of a section and the name of a part. -/
def partMark : Text := "__"

/-- The name of the section of the resolver. -/
def resolverName : Text := "resolver"

/-- The names of the parts of the section. -/
def tempDirName : Text := "tmp_dir"

@[inherit_doc tempDirName]
def packageDirsName : Text := "package_dirs"

/-- The JSON document in a variable. -/
def readVariable (t : Text) : Except Failure Value :=
  match t.toChars? with
  | none => .error .unreadableSetting
  | some cs =>
    match Json.read cs with
    | .ok v => .ok v.toValue
    | .error _ => .error .unreadableSetting

/-- The pieces of a text between the occurrences of the mark for parts. -/
def splitParts : Text → List Text
  | [] => [[]]
  | [c] => [[c]]
  | .scalar '_' :: .scalar '_' :: t => [] :: splitParts t
  | c :: t =>
    match splitParts t with
    | [] => [[c]]
    | piece :: pieces => (c :: piece) :: pieces

/-- Puts the value of a variable for a part of a part into entries: the outer parts become
mappings, unless something else stands there already. -/
def putPart (v : Value) : List Text → Entries → Entries
  | [], es => es
  | [name], es => Value.put (.text name) v es
  | name :: rest, es =>
    match Value.get? (.text name) es with
    | none => Value.put (.text name) (.map (putPart v rest [])) es
    | some (.map inner) => Value.put (.text name) (.map (putPart v rest inner)) es
    | some _ => es

/-- The value of a variable for a part of the section: the list of directories is a JSON document,
unless the variable is empty. -/
def partValue (names : List Text) (t : Text) : Except Failure Value :=
  if names = [packageDirsName] ∧ t ≠ [] then readVariable t else .ok (.text t)

/-- The parts of the section that have variables of their own. -/
def partsFrom : Environment → Entries → Except Failure Entries
  | [], es => .ok es
  | (name, t) :: rest, es =>
    let start := variableStart ++ resolverName ++ partMark
    if start.isPrefixOf name then do
      let names := splitParts (name.drop start.length)
      partsFrom rest (putPart (← partValue names t) names es)
    else partsFrom rest es

/-- The entries of the section with the names of its parts in small letters. -/
def lowerNames (es : Entries) : Entries :=
  es.foldl (fun done e =>
    match e.1 with
    | .text name =>
      let lower := name.toLower
      let name := if lower = tempDirName ∨ lower = packageDirsName then lower else name
      Value.put (.text name) e.2 done
    | k => Value.put k e.2 done) []

/-- The variables with their names in small letters; of several variables with one name the last
one counts. -/
def lowerVariables (env : Environment) : Environment :=
  env.foldl (fun done e =>
    let name := e.1.toLower
    if done.any (·.1 = name) then done.map fun f => if f.1 = name then (name, e.2) else f
    else done ++ [(name, e.2)]) []

/-- The section of the resolver that the environment sets. -/
def resolverFrom (env : Environment) : Except Failure (Option Value) := do
  match env.get? (variableStart ++ resolverName) with
  | none =>
    match ← partsFrom env [] with
    | [] => return none
    | parts => return some (.map (lowerNames parts))
  | some t =>
    match ← readVariable t with
    | .map es => return some (.map (lowerNames (overlay es (← partsFrom env []))))
    | .null => return none
    | v => return some v

/-- The entries that the environment sets. -/
def fromEnvironment (env : Environment) : Except Failure Entries := do
  let env := lowerVariables env
  let switch (name : Text) : Entries :=
    match env.get? (variableStart ++ name) with
    | some t => [(.text name, .text t)]
    | none => []
  let section_ : Entries := match ← resolverFrom env with
    | some v => [(.text resolverName, v)]
    | none => []
  return switch "json_output" ++ switch "verbose" ++ switch "log_json" ++ section_

/-- The path that a value is read as. -/
def path? : Value → Option Path
  | .text t => some (.ofText t)
  | _ => none

/-- The names that a configuration file may hold. -/
def knownNames : List Text :=
  ["project_root", "config_path", "json_output", "verbose", "log_json", resolverName]

/-- Tells whether all keys of entries are names that a configuration file may hold. -/
def allKnown (es : Entries) : Bool :=
  es.all fun e => match e.1 with
    | .text name => knownNames.contains name
    | _ => false

/-- The value under a name, read in some way, or a default. -/
def field? {α : Type} (read : Value → Option α) (default : α) (name : Text) (es : Entries) :
    Option α :=
  match Value.get? (.text name) es with
  | none => some default
  | some v => read v

/-- The paths that a list is read as. -/
def paths? : Value → Option (List Path)
  | .list items => items.mapM path?
  | _ => none

/-- The settings that entries give, if each of them fits. -/
def ofEntries? (projectRoot : Path) (configPath : Option Path) (es : Entries) :
    Option Settings := do
  if !allKnown es then none
  let jsonOutput ← field? Value.truth? false "json_output" es
  let verbose ← field? Value.truth? false "verbose" es
  let logJson ← field? Value.truth? false "log_json" es
  let inner ← field? Value.entries? [] resolverName es
  let tempDir ← field? path? TempArea.standard tempDirName inner
  let packageDirs ← field? paths? [] packageDirsName inner
  return ⟨projectRoot, configPath, jsonOutput, verbose, logJson, tempDir, packageDirs⟩

/-- The configuration file of a run: the one that is given, if it is there, or the one that is
found. -/
def configFile (d : Disk) (env : Environment) (config : Option Text) (root : Option Path) :
    Except Failure (Option Path) :=
  match config with
  | some (c :: name) => do
    let path := Path.ofText (c :: name)
    return if ← Config.isFile d path then some path else none
  | _ => Config.find d env root

/-- The entries of the configuration file of a run. -/
def fromFile (d : Disk) (file : Option Path) : Except Failure Entries :=
  match file with
  | none => .ok []
  | some path =>
    match Config.readTable d path with
    | .ok es => .ok es
    | .error (.failure f) => .error f
    | .error .broken => .error (.invalidConfig path.toText)

/-- The settings of a run. -/
def gather (d : Disk) (env : Environment) (config : Option Text) (root : Option Path)
    (flags : Flags) : Except Failure Settings := do
  let file ← configFile d env config root
  let projectRoot ← match root, file with
    | some root, _ => pure root
    | none, some path => pure path.parent
    | none, none => d.cwd.mapError .access
  let inFile ← fromFile d file
  let inEnvironment ← fromEnvironment env
  let es := overlay (overlay inFile inEnvironment) (fromFlags flags)
  match ofEntries? projectRoot file es with
  | some s => return s
  | none => throw .invalidSettings

end Settings

end StyleImport
