import StyleImport.CommandLine
import StyleImport.Proofs.Config.Variables

/-!
# Where settings come from

Each setting is asked of the options, the environment and the configuration file, in this order,
before its default counts. The resolver's parts follow this order. The switches and the directory of
the project do not: the command line passes a value for each of them, given or not, so that the
other sources are never asked. These settings follow the order only where the option is given or the
other sources say what counts without them.

## Main definitions

- `Settings.Sources`: what the sources say about a setting, and the value that counts.
- `Switch`: the switches of the command line.
- `Settings.rootSources`, `Settings.partSources`, `Switch.sources`: the sources of the settings.
- `Settings.IsValid`: the entries that give settings.

## Main statements

- `Settings.ofEntries?_overlay_eq_some_iff`: the settings that all sources together give.
- `Invocation.settings_follow_sources_iff`: which settings follow the order of their sources.
-/

namespace StyleImport

namespace Settings

/-! ## Entries with fixed names -/

/-- Entries with some of the values for names. -/
def ofFields (fields : List (Text × Option Value)) : Entries :=
  fields.flatMap fun f => f.2.toList.map fun v => (.text f.1, v)

variable {fields : List (Text × Option Value)} {base new es : Entries} {name : Text}

theorem names_ofFields_sublist : (Value.names (ofFields fields)).Sublist (fields.map (·.1)) := by
  induction fields with
  | nil => exact List.Sublist.slnil
  | cons f fields ih =>
    obtain ⟨n, o⟩ := f
    cases o with
    | none => exact ih.cons n
    | some v => exact ih.cons_cons n

theorem get?_ofFields (h : (fields.map (·.1)).Nodup) :
    Value.get? (.text name) (ofFields fields) = (fields.find? (·.1 = name)).bind (·.2) := by
  induction fields with
  | nil => rfl
  | cons f fields ih =>
    obtain ⟨n, o⟩ := f
    rw [List.map_cons, List.nodup_cons] at h
    by_cases hn : n = name
    · subst hn
      cases o with
      | none =>
        have hlater : n ∉ Value.names (ofFields fields) := fun hmem =>
          h.1 (names_ofFields_sublist.subset hmem)
        simpa [ofFields] using Value.get?_eq_none_iff.mpr hlater
      | some v => simpa [ofFields] using Value.get?_cons_self
    · have hne : Value.text n ≠ .text name := by simpa using hn
      cases o with
      | none => simpa [ofFields, hn] using ih h.2
      | some v => simpa [ofFields, hn, Value.get?_cons_of_ne hne] using ih h.2

theorem nodup_names_ofFields (h : (fields.map (·.1)).Nodup) :
    (Value.names (ofFields fields)).Nodup := h.sublist names_ofFields_sublist

/-- The entries of a switch on the command line are put under its name. -/
theorem fromFlags_eq_ofFields (f : Flags) :
    fromFlags f = ofFields [("json_output", f.jsonOutput.map .bool),
      ("verbose", f.verbose.map .bool), ("log_json", f.logJson.map .bool)] := by
  obtain ⟨json, verbose, log⟩ := f
  cases json <;> cases verbose <;> cases log <;> rfl

/-- What the environment sets: the switches, and the section of the resolver. -/
theorem fromEnvironment_eq_ok {env : Environment} (h : fromEnvironment env = .ok es) :
    ∃ o, resolverFrom (lowerVariables env) = .ok o ∧
      es = ofFields [("json_output", (env.value? (variableStart ++ "json_output")).map .text),
        ("verbose", (env.value? (variableStart ++ "verbose")).map .text),
        ("log_json", (env.value? (variableStart ++ "log_json")).map .text), (resolverName, o)] := by
  unfold fromEnvironment at h
  obtain ⟨o, ho, hpure⟩ := bind_eq_ok_iff.mp h
  refine ⟨o, ho, ?_⟩
  cases hpure
  simp only [get?_lowerVariables]
  cases env.value? (variableStart ++ "json_output") <;>
    cases env.value? (variableStart ++ "verbose") <;>
    cases env.value? (variableStart ++ "log_json") <;> cases o <;> rfl

/-- The names that the command line and the environment give values. -/
theorem nodup_fieldNames :
    (["json_output", "verbose", "log_json", resolverName] : List Text).Nodup := by decide

theorem nodup_names_fromFlags (f : Flags) : (Value.names (fromFlags f)).Nodup := by
  rw [fromFlags_eq_ofFields]
  exact nodup_names_ofFields (nodup_fieldNames.sublist (List.sublist_append_left _ [resolverName]))

theorem resolverName_notMem_fromFlags (f : Flags) :
    resolverName ∉ Value.names (fromFlags f) := by
  rw [fromFlags_eq_ofFields]
  intro h
  have hmem : resolverName ∈ (["json_output", "verbose", "log_json"] : List Text) :=
    names_ofFields_sublist.subset h
  revert hmem
  decide

theorem nodup_names_fromEnvironment {env : Environment} (h : fromEnvironment env = .ok es) :
    (Value.names es).Nodup := by
  obtain ⟨o, -, rfl⟩ := fromEnvironment_eq_ok h
  exact nodup_names_ofFields nodup_fieldNames

/-- The section that the environment sets. -/
theorem resolverFrom_of_fromEnvironment {env : Environment} (h : fromEnvironment env = .ok es) :
    resolverFrom (lowerVariables env) = .ok (Value.get? (.text resolverName) es) := by
  obtain ⟨o, ho, rfl⟩ := fromEnvironment_eq_ok h
  rw [ho, get?_ofFields (by exact nodup_fieldNames)]
  rfl

/-- Putting an entry with a known name keeps all names known. -/
theorem allKnown_put {k v : Value} (hk : k = .text name) (hname : name ∈ knownNames) :
    allKnown (Value.put k v es) = allKnown es := by
  subst hk
  induction es with
  | nil => simp [Value.put, allKnown, hname]
  | cons e es ih =>
    obtain ⟨l, w⟩ := e
    simp only [Value.put]
    split
    · simp [allKnown]
    · unfold allKnown at ih ⊢
      rw [List.all_cons, List.all_cons, ih]

/-- Entries with known names over others keep all names known. -/
theorem allKnown_overlay (h : allKnown new = true) :
    allKnown (overlay base new) = allKnown base := by
  induction new generalizing base with
  | nil => rw [overlay]
  | cons e new ih =>
    obtain ⟨k, v⟩ := e
    rw [allKnown, List.all_cons, Bool.and_eq_true] at h
    cases k with
    | text name =>
      rw [overlay_cons, ih h.2]
      exact allKnown_put rfl (by simpa using h.1)
    | _ => simp at h

theorem allKnown_ofFields (h : ∀ n ∈ fields.map (·.1), n ∈ knownNames) :
    allKnown (ofFields fields) := by
  simp only [allKnown, ofFields, List.all_flatMap, List.all_eq_true]
  intro f hf e he
  obtain ⟨v, -, rfl⟩ := List.mem_map.mp he
  simpa using h f.1 (List.mem_map_of_mem hf)

theorem allKnown_fromFlags (f : Flags) : allKnown (fromFlags f) := by
  rw [fromFlags_eq_ofFields]
  have hnames : ∀ n ∈ (["json_output", "verbose", "log_json"] : List Text), n ∈ knownNames := by
    decide
  exact allKnown_ofFields hnames

theorem allKnown_fromEnvironment {env : Environment} (h : fromEnvironment env = .ok es) :
    allKnown es := by
  obtain ⟨o, -, rfl⟩ := fromEnvironment_eq_ok h
  have hnames : ∀ n ∈ (["json_output", "verbose", "log_json", resolverName] : List Text),
      n ∈ knownNames := by decide
  exact allKnown_ofFields hnames

/-! ## The settings that entries give -/

theorem field?_eq_readOr? {α : Type} (read : Value → Option α) (default : α) :
    field? read default name es = readOr? read default (Value.get? (.text name) es) := by
  unfold field? readOr?
  cases Value.get? (.text name) es <;> rfl

/-- A section that is not there, or a mapping. -/
def IsSection (o : Option Value) : Prop := ∀ v, o = some v → ∃ es, v = .map es

theorem isSection_none : IsSection none := by
  rintro _ ⟨⟩

/-- A section has parts under their names. -/
theorem readOr?_entries?_eq_some {o : Option Value} {inner : Entries}
    (h : readOr? Value.entries? [] o = some inner) :
    IsSection o ∧ ∀ name, Value.get? (.text name) inner = part? o name := by
  cases o with
  | none =>
    cases h
    exact ⟨isSection_none, fun name => rfl⟩
  | some v =>
    cases v with
    | map es =>
      cases h
      refine ⟨?_, fun name => rfl⟩
      rintro _ ⟨⟩
      exact ⟨_, rfl⟩
    | _ => cases h

theorem exists_entries?_of_isSection {o : Option Value} (h : IsSection o) :
    ∃ inner, readOr? Value.entries? [] o = some inner := by
  cases o with
  | none => exact ⟨[], rfl⟩
  | some v =>
    obtain ⟨es, rfl⟩ := h v rfl
    exact ⟨es, rfl⟩

/-- The settings that entries give have the values under the names, or the defaults. -/
theorem ofEntries?_eq_some_iff {root : Path} {config : Option Path} {s : Settings} :
    ofEntries? root config es = some s ↔
      allKnown es = true ∧ IsSection (Value.get? (.text resolverName) es) ∧
        s.projectRoot = root ∧ s.configPath = config ∧
        readOr? Value.truth? false (Value.get? (.text "json_output") es) = some s.jsonOutput ∧
        readOr? Value.truth? false (Value.get? (.text "verbose") es) = some s.verbose ∧
        readOr? Value.truth? false (Value.get? (.text "log_json") es) = some s.logJson ∧
        readOr? path? TempArea.standard
          (part? (Value.get? (.text resolverName) es) tempDirName) = some s.resolverTempDir ∧
        readOr? paths? []
          (part? (Value.get? (.text resolverName) es) packageDirsName) =
            some s.resolverPackageDirs := by
  unfold ofEntries?
  simp only [field?_eq_readOr?]
  cases hknown : allKnown es with
  | false => simp
  | true =>
    simp only [Bool.not_true, Bool.false_eq_true, if_false, true_and]
    constructor
    · intro h
      obtain ⟨json, hjson, h⟩ := Option.bind_eq_some_iff.mp h
      obtain ⟨verbose, hverbose, h⟩ := Option.bind_eq_some_iff.mp h
      obtain ⟨log, hlog, h⟩ := Option.bind_eq_some_iff.mp h
      obtain ⟨inner, hinner, h⟩ := Option.bind_eq_some_iff.mp h
      obtain ⟨dir, hdir, h⟩ := Option.bind_eq_some_iff.mp h
      obtain ⟨dirs, hdirs, h⟩ := Option.bind_eq_some_iff.mp h
      -- The parts are read from the entries of the section, which are none if it is not there.
      obtain ⟨hsection, hparts⟩ := readOr?_entries?_eq_some hinner
      rw [hparts] at hdir hdirs
      cases h
      exact ⟨hsection, rfl, rfl, hjson, hverbose, hlog, hdir, hdirs⟩
    · rintro ⟨hsection, rfl, rfl, hjson, hverbose, hlog, hdir, hdirs⟩
      obtain ⟨inner, hinner⟩ := exists_entries?_of_isSection hsection
      have hparts := (readOr?_entries?_eq_some hinner).2
      rw [← hparts] at hdir hdirs
      simp [hjson, hverbose, hlog, hinner, hdir, hdirs]

/-! ## The sources -/

/-- What the sources say about a setting. -/
structure Sources where
  /-- What the command line says. -/
  option : Option Value
  /-- What the environment says. -/
  environment : Option Value
  /-- What the configuration file says. -/
  file : Option Value

namespace Sources

/-- The value of a setting: what the first source says that says anything, or else a default. -/
def value? {α : Type} (read : Value → Option α) (default : α) (s : Sources) : Option α :=
  readOr? read default (s.option.or (s.environment.or s.file))

/-- The sources behind the command line. -/
def others (s : Sources) : Sources := { s with option := none }

/-- Tells whether the option alone decides: it is given, or without it the default counts. -/
def IsLeftToOption {α : Type} (read : Value → Option α) (default : α) (s : Sources) : Prop :=
  s.option.isSome ∨ s.others.value? read default = some default

/-- A setting that is the option's value, or else the default, follows the order of its sources
just if the option alone decides. -/
theorem value?_eq_some_iff {α : Type} {read : Value → Option α} {default a : α} {s : Sources}
    (h : readOr? read default s.option = some a) :
    s.value? read default = some a ↔ s.IsLeftToOption read default := by
  unfold value? IsLeftToOption
  cases hoption : s.option with
  | none =>
    rw [hoption] at h
    cases h
    simp [others, value?]
  | some v =>
    rw [hoption] at h
    simpa using h

end Sources

/-- Where no mapping can be read, what is read is what is expected. -/
theorem readOr?_of_isOrMap {α : Type} {read : Value → Option α} {default a : α}
    {expected o below : Option Value} (hread : ∀ es, read (.map es) = none)
    (h : IsOrMap expected o) (ha : readOr? read default (o.or below) = some a) :
    Sources.value? read default ⟨none, expected, below⟩ = some a := by
  rcases h with rfl | ⟨es, rfl⟩
  · exact ha
  · rw [Option.some_or, readOr?, hread] at ha
    cases ha

/-- What the sources say about the directory of the project. -/
def rootSources (given : List Program.Arg) (env : Environment) (inFile : Entries) : Sources where
  option := (lastSome? Program.Arg.root? given).map .text
  environment := (env.value? (variableStart ++ "project_root")).map .text
  file := Value.get? (.text "project_root") inFile

/-- What the sources say about a part of the section. The command line has no option for it. -/
def partSources (env : Environment) (inFile : Entries) (name : Text) : Sources where
  option := none
  environment := (partVariable? env name).or (part? (sectionVariable? env) name)
  file := part? (Value.get? (.text resolverName) inFile) name

/-- The directory of a project for which none is given: that of the configuration file, or the
working directory. -/
def startDirectory (d : Disk) (file : Option Path) : Except Failure Path :=
  match file with
  | some path => .ok path.parent
  | none => d.cwd.mapError .access

/-- Tells whether the entries of a configuration file and of the environment give settings. -/
structure IsValid (inFile inEnvironment : Entries) : Prop where
  /-- The configuration file holds known names only. -/
  known : allKnown inFile = true
  /-- The section is a mapping where it counts. -/
  isSection : IsSection ((Value.get? (.text resolverName) inEnvironment).or
    (Value.get? (.text resolverName) inFile))
  /-- The directory for declarations can be read. -/
  tempDir : (readOr? path? TempArea.standard
    ((part? (Value.get? (.text resolverName) inEnvironment) tempDirName).or
      (part? (Value.get? (.text resolverName) inFile) tempDirName))).isSome
  /-- The directories with packages can be read. -/
  packageDirs : (readOr? paths? []
    ((part? (Value.get? (.text resolverName) inEnvironment) packageDirsName).or
      (part? (Value.get? (.text resolverName) inFile) packageDirsName))).isSome

/-- Settings are gathered from the entries that all sources put over each other. -/
theorem gather_eq_ok_iff {d : Disk} {env : Environment} {config : Option Text}
    {root file : Option Path} {flags : Flags} {inFile inEnvironment : Entries} {start : Path}
    {s : Settings}
    (hfile : configFile d env config root = .ok file) (hinFile : fromFile d file = .ok inFile)
    (henv : fromEnvironment env = .ok inEnvironment)
    (hstart : root = none → startDirectory d file = .ok start) :
    gather d env config root flags = .ok s ↔
      ofEntries? (root.getD start) file
        (overlay (overlay inFile inEnvironment) (fromFlags flags)) = some s := by
  have hgather : gather d env config root flags =
      (ofEntries? (root.getD start) file
        (overlay (overlay inFile inEnvironment) (fromFlags flags))).elim
          (.error .invalidSettings) .ok := by
    unfold gather
    simp only [hfile, hinFile, henv, bind, Except.bind]
    -- The start directory counts only if no root is given, and next to a file it is known.
    cases root with
    | some root =>
      dsimp only [pure, Except.pure, Option.getD_some]
      cases ofEntries? root file _ <;> rfl
    | none =>
      have hdirectory := hstart rfl
      cases file with
      | some path =>
        cases hdirectory
        dsimp only [pure, Except.pure, Option.getD_none]
        cases ofEntries? path.parent (some path) _ <;> rfl
      | none =>
        rw [startDirectory] at hdirectory
        rw [hdirectory]
        dsimp only [Option.getD_none]
        cases ofEntries? start none _ <;> rfl
  rw [hgather]
  cases ofEntries? (root.getD start) file
    (overlay (overlay inFile inEnvironment) (fromFlags flags)) <;> simp

/-- What a section is made of that the environment puts over the one in the file. -/
theorem isSection_overlay_iff (hnew : (Value.names new).Nodup) :
    IsSection (Value.get? (.text name) (overlay base new)) ↔
      IsSection ((Value.get? (.text name) new).or (Value.get? (.text name) base)) := by
  rw [get?_overlay hnew]
  cases Value.get? (.text name) new with
  | none => rfl
  | some v =>
    have hiff (o : Option Value) : IsSection o ↔ o.all (·.entries?.isSome) := by
      cases o with
      | none => simp [IsSection]
      | some v => cases v <;> simp [IsSection, Value.entries?]
    simp only [hiff, Option.some_or, Option.all_some, entries?_overlayValue_isSome]

/-- What the settings are when the command line gives a value for each switch. -/
theorem ofEntries?_overlay_eq_some_iff {root : Path} {file : Option Path} {json verbose log : Bool}
    {inFile inEnvironment : Entries} {env : Environment} {s : Settings}
    (henv : fromEnvironment env = .ok inEnvironment) :
    ofEntries? root file (overlay (overlay inFile inEnvironment)
        (fromFlags ⟨some json, some verbose, some log⟩)) = some s ↔
      allKnown inFile = true ∧ IsSection ((Value.get? (.text resolverName) inEnvironment).or
          (Value.get? (.text resolverName) inFile)) ∧
        s.projectRoot = root ∧ s.configPath = file ∧
        s.jsonOutput = json ∧ s.verbose = verbose ∧ s.logJson = log ∧
        readOr? path? TempArea.standard
          ((part? (Value.get? (.text resolverName) inEnvironment) tempDirName).or
            (part? (Value.get? (.text resolverName) inFile) tempDirName)) =
          some s.resolverTempDir ∧
        readOr? paths? []
          ((part? (Value.get? (.text resolverName) inEnvironment) packageDirsName).or
            (part? (Value.get? (.text resolverName) inFile) packageDirsName)) =
          some s.resolverPackageDirs := by
  -- The command line gives every switch a value and says nothing about the section, so only the
  -- section is left to the environment and the file.
  have hswitch {name : Text} {b : Bool} {entries : Entries}
      (h : Value.get? (.text name) (fromFlags ⟨some json, some verbose, some log⟩) =
        some (.bool b)) (c : Bool) :
      readOr? Value.truth? false (Value.get? (.text name)
          (overlay entries (fromFlags ⟨some json, some verbose, some log⟩))) = some c ↔ c = b := by
    rw [readOr?_overlay (fun _ => rfl) (nodup_names_fromFlags _), h]
    simp [readOr?, Value.truth?, eq_comm]
  have hsection (entries : Entries) : Value.get? (.text resolverName)
      (overlay entries (fromFlags ⟨some json, some verbose, some log⟩)) =
        Value.get? (.text resolverName) entries :=
    get?_overlay_of_notMem (resolverName_notMem_fromFlags _)
  have henvSection := resolverFrom_of_fromEnvironment henv
  have hnodup := nodup_names_fromEnvironment henv
  rw [ofEntries?_eq_some_iff, allKnown_overlay (allKnown_fromFlags _),
    allKnown_overlay (allKnown_fromEnvironment henv), hsection, isSection_overlay_iff hnodup,
    hswitch (b := json) rfl, hswitch (b := verbose) rfl, hswitch (b := log) rfl]
  refine and_congr_right fun _ => and_congr_right fun hfits => ?_
  have hparts : ∀ v, Value.get? (.text resolverName) inEnvironment = some v →
      ∃ es, v = .map es ∧ (Value.names es).Nodup := by
    intro v hv
    obtain ⟨es, rfl⟩ := hfits v (by rw [hv, Option.some_or])
    exact ⟨es, rfl, nodup_of_resolverFrom (hv ▸ henvSection)⟩
  rw [readOr?_part?_overlay (fun _ => rfl) hnodup hparts,
    readOr?_part?_overlay (fun _ => rfl) hnodup hparts]

end Settings

/-! ## The switches -/

/-- The switches of the command line. -/
inductive Switch
  /-- Reports are JSON documents. -/
  | jsonOutput
  /-- The work is narrated. -/
  | verbose
  /-- Log records are JSON objects. -/
  | logJson

namespace Switch

/-- The name of a switch among the settings. -/
def name : Switch → Text
  | jsonOutput => "json_output"
  | verbose => "verbose"
  | logJson => "log_json"

/-- Tells whether an option sets a switch. -/
def isSetBy : Switch → Program.Arg → Bool
  | jsonOutput, .json => true
  | verbose, .verbose => true
  | logJson, .logJson => true
  | _, _ => false

/-- The value of a switch. -/
def value (s : Settings) : Switch → Bool
  | jsonOutput => s.jsonOutput
  | verbose => s.verbose
  | logJson => s.logJson

/-- What the sources say about a switch. -/
def sources (given : List Program.Arg) (env : Environment) (inFile : Settings.Entries)
    (w : Switch) : Settings.Sources where
  option := if given.any w.isSetBy then some (.bool true) else none
  environment := (env.value? (Settings.variableStart ++ w.name)).map .text
  file := Value.get? (.text w.name) inFile

end Switch

namespace Program

/-- The options that stand before the command. -/
def given (words : List Text) : List Arg :=
  match grammar.read words with
  | .ok (given, _) => given
  | .error _ => []

/-- What options say about the settings: each switch has a value. -/
theorem options_of_readOptions {d : Disk} {given : List Arg} {options : Options}
    (h : readOptions d given = .ok options) :
    options.root = (lastSome? Arg.root? given).map .ofText ∧
      options.flags = ⟨some (given.any Switch.jsonOutput.isSetBy),
        some (given.any Switch.verbose.isSetBy), some (given.any Switch.logJson.isSetBy)⟩ := by
  -- The three tests for switches are spelled out in the program; they agree on every argument.
  have hflags {p q r : Arg → Bool} (hp : ∀ a, p a = Switch.jsonOutput.isSetBy a)
      (hq : ∀ a, q a = Switch.verbose.isSetBy a) (hr : ∀ a, r a = Switch.logJson.isSetBy a) :
      (⟨some (given.any p), some (given.any q), some (given.any r)⟩ : Flags) =
        ⟨some (given.any Switch.jsonOutput.isSetBy), some (given.any Switch.verbose.isSetBy),
          some (given.any Switch.logJson.isSetBy)⟩ := by
    rw [funext hp, funext hq, funext hr]
  unfold readOptions at h
  dsimp only [bind, Except.bind] at h
  split at h
  · cases h
  · split at h
    · split at h
      · cases h
      · split at h
        · cases h
        · cases h
          refine ⟨rfl, hflags ?_ ?_ ?_⟩ <;> (intro a; cases a <;> rfl)
    · cases h
      refine ⟨rfl, hflags ?_ ?_ ?_⟩ <;> (intro a; cases a <;> rfl)

theorem options_of_readWords {d : Disk} {words rest : List Text} {options : Options}
    (h : readWords d words = .ok (options, rest)) :
    options.root = (lastSome? Arg.root? (given words)).map .ofText ∧
      options.flags = ⟨some ((given words).any Switch.jsonOutput.isSetBy),
        some ((given words).any Switch.verbose.isSetBy),
        some ((given words).any Switch.logJson.isSetBy)⟩ := by
  unfold readWords at h
  unfold given
  split at h
  · cases h
  · next given rest' hread =>
    rw [hread]
    cases hoptions : readOptions d given with
    | error outcome =>
      rw [hoptions] at h
      cases h
    | ok options' =>
      rw [hoptions] at h
      cases h
      exact options_of_readOptions hoptions

end Program

namespace Invocation

open Settings

/-- Where the sources can be read, they give settings just if they are valid. Then a switch follows
the order of its sources just if its option is given or the others leave it off, the directory of
the project just if it is given or the others name the one that counts without them, and the parts
of the resolver's section always, if the variable for the whole section is plain. -/
theorem settings_follow_sources_iff (i : Invocation) {d : Disk} {options : Program.Options}
    {rest : List Text} {file : Option Path} {inFile inEnvironment : Entries} {start : Path}
    (hwords : Program.readWords d i.words = .ok (options, rest))
    (hfile : configFile d i.environment options.config options.root = .ok file)
    (hinFile : fromFile d file = .ok inFile)
    (henv : fromEnvironment i.environment = .ok inEnvironment)
    (hstart : options.root = none → startDirectory d file = .ok start) :
    ((∃ s, i.gather d options = .ok s) ↔ IsValid inFile inEnvironment) ∧
      ∀ s, i.gather d options = .ok s →
        (∀ w : Switch,
          (w.sources (Program.given i.words) i.environment inFile).value? Value.truth? false =
              some (w.value s) ↔
            (w.sources (Program.given i.words) i.environment inFile).IsLeftToOption
              Value.truth? false) ∧
        ((rootSources (Program.given i.words) i.environment inFile).value? path? start =
              some s.projectRoot ↔
            (rootSources (Program.given i.words) i.environment inFile).IsLeftToOption
              path? start) ∧
        (HasPlainSection i.environment →
          (partSources i.environment inFile tempDirName).value? path? TempArea.standard =
              some s.resolverTempDir ∧
            (partSources i.environment inFile packageDirsName).value? paths? [] =
              some s.resolverPackageDirs) := by
  obtain ⟨hroot, hflags⟩ := Program.options_of_readWords hwords
  have hgather (s : Settings) : i.gather d options = .ok s ↔ _ :=
    mapError_eq_ok_iff.trans ((gather_eq_ok_iff hfile hinFile henv hstart).trans
      (hflags ▸ ofEntries?_overlay_eq_some_iff henv))
  constructor
  · constructor
    · rintro ⟨s, hs⟩
      obtain ⟨hknown, hsection, -, -, -, -, -, hdir, hdirs⟩ := (hgather s).mp hs
      exact ⟨hknown, hsection, by simp [hdir], by simp [hdirs]⟩
    · rintro ⟨hknown, hsection, hdir, hdirs⟩
      obtain ⟨dir, hdir⟩ := Option.isSome_iff_exists.mp hdir
      obtain ⟨dirs, hdirs⟩ := Option.isSome_iff_exists.mp hdirs
      exact ⟨⟨_, _, _, _, _, dir, dirs⟩,
        (hgather _).mpr ⟨hknown, hsection, rfl, rfl, rfl, rfl, rfl, hdir, hdirs⟩⟩
  · intro s hs
    obtain ⟨-, hsection, hprojectRoot, -, hjson, hverbose, hlog, hdir, hdirs⟩ := (hgather s).mp hs
    refine ⟨fun w => Sources.value?_eq_some_iff ?_, Sources.value?_eq_some_iff ?_, fun hplain => ?_⟩
    -- A switch is on just if its option is given: the option decides even where it is not.
    · have hvalue : w.value s = (Program.given i.words).any w.isSetBy := by
        cases w <;> assumption
      rw [hvalue, Switch.sources]
      cases (Program.given i.words).any w.isSetBy <;> rfl
    · rw [hprojectRoot, hroot, rootSources]
      cases lastSome? Program.Arg.root? (Program.given i.words) <;> rfl
    -- The command line has no options for the parts, so they come from the environment as it is.
    · have hfits : ∀ v, Value.get? (.text resolverName) inEnvironment = some v →
          ∃ es, v = .map es := fun v hv => hsection v (by rw [hv, Option.some_or])
      have hparts {name : Text} (hname : IsPartName name) :=
        isOrMap_resolverFrom (resolverFrom_of_fromEnvironment henv) hfits hplain hname
      exact ⟨readOr?_of_isOrMap (fun _ => rfl) (hparts (.inl rfl)) hdir,
        readOr?_of_isOrMap (fun _ => rfl) (hparts (.inr rfl)) hdirs⟩

/-! ## Runs with variables -/

/-- A run without options for which the environment asks for JSON documents. -/
def askingRun : Invocation where
  words := ["resolve", "a", "--from", "m.scss"]
  environment := [("SCSSIMPORTER_JSON_OUTPUT", "true")]
  time := ""

/-- The variable of this run in small letters. -/
theorem lowerVariables_askingRun : lowerVariables askingRun.environment =
    [(Text.ofString "scssimporter_json_output", Text.ofString "true")] := by
  have hsmall : Text.toLower "SCSSIMPORTER_JSON_OUTPUT" = "scssimporter_json_output" := by
    rw [Text.toLower_of_ascii (by decide)]
    decide
  simp only [lowerVariables, askingRun, List.foldl_cons, List.foldl_nil, hsmall]
  rfl

theorem readWords_askingRun : Program.readWords .empty askingRun.words =
    .ok (⟨none, none, ⟨some false, some false, some false⟩⟩,
      ["resolve", "a", "--from", "m.scss"]) := rfl

theorem given_askingRun : Program.given askingRun.words = [] := rfl

theorem fromEnvironment_askingRun : fromEnvironment askingRun.environment =
    .ok [(.text "json_output", .text "true")] := by
  unfold fromEnvironment
  rw [lowerVariables_askingRun]
  rfl

theorem value?_askingRun : askingRun.environment.value? (variableStart ++ "json_output") =
    some (Text.ofString "true") := by
  rw [← get?_lowerVariables, lowerVariables_askingRun]
  decide

/-- The reports are no JSON documents, although their variable is set and no option is given. -/
theorem variable_for_switch_ignored :
    ∃ options rest s, Program.readWords .empty askingRun.words = .ok (options, rest) ∧
      configFile .empty askingRun.environment options.config options.root = .ok none ∧
      askingRun.gather .empty options = .ok s ∧ s.jsonOutput = false ∧
      (Switch.jsonOutput.sources (Program.given askingRun.words) askingRun.environment []).value?
        Value.truth? false = some true := by
  have hfile : configFile .empty askingRun.environment none none = .ok none := by cbv
  have hstart : (none : Option Path) = none → startDirectory .empty none = .ok (.ofText "/") :=
    fun _ => rfl
  have hgather := (gather_eq_ok_iff hfile rfl fromEnvironment_askingRun hstart).mpr
    ((ofEntries?_overlay_eq_some_iff (s := ⟨.ofText "/", none, false, false, false,
        TempArea.standard, []⟩) fromEnvironment_askingRun).mpr
      ⟨rfl, isSection_none, rfl, rfl, rfl, rfl, rfl, rfl, rfl⟩)
  refine ⟨_, _, _, readWords_askingRun, hfile, mapError_eq_ok_iff.mpr hgather, rfl, ?_⟩
  rw [Sources.value?, Switch.sources, Switch.name, value?_askingRun, given_askingRun]
  rfl

/-- A disk with a configuration file that names a directory for packages:
`[resolver]` and below it `package_dirs=['v']`. -/
def sectionDisk : Disk where
  entries := [(["scssimporter.toml"],
    .file [91, 114, 101, 115, 111, 108, 118, 101, 114, 93, 10, 112, 97, 99, 107, 97, 103, 101, 95,
      100, 105, 114, 115, 61, 91, 39, 118, 39, 93])]
  workingDirectory := some []

/-- The path of this configuration file. -/
def sectionPath : Path := .ofText "/scssimporter.toml"

/-- A run that asks for JSON documents, for which the environment names a directory for
declarations. -/
def sectionRun : Invocation where
  words := ["--json", "resolve", "a", "--from", "m.scss"]
  environment := [("SCSSIMPORTER_RESOLVER__TMP_DIR", "t")]
  time := ""

/-- The variable of this run in small letters. -/
def sectionVariables : Environment := [("scssimporter_resolver__tmp_dir", "t")]

theorem lowerVariables_sectionRun :
    lowerVariables sectionRun.environment = sectionVariables := by
  have hsmall : Text.toLower "SCSSIMPORTER_RESOLVER__TMP_DIR" =
      "scssimporter_resolver__tmp_dir" := by
    rw [Text.toLower_of_ascii (by decide)]
    decide
  simp only [lowerVariables, sectionRun, List.foldl_cons, List.foldl_nil, hsmall]
  rfl

theorem fromEnvironment_sectionRun : fromEnvironment sectionRun.environment =
    .ok [(.text "resolver", .map [(.text "tmp_dir", .text "t")])] := by
  have hsmall : Text.toLower "tmp_dir" = "tmp_dir" := by
    rw [Text.toLower_of_ascii (by decide)]
    decide
  have hnames : lowerNames [(.text "tmp_dir", .text "t")] = [(.text "tmp_dir", .text "t")] := by
    simp only [lowerNames, List.foldl_cons, List.foldl_nil, hsmall]
    rfl
  have hparts : partsFrom sectionVariables [] = .ok [(.text "tmp_dir", .text "t")] := by rfl
  have hwhole : sectionVariables.get? (variableStart ++ resolverName) = none := by rfl
  have hresolver : resolverFrom sectionVariables =
      .ok (some (.map [(.text "tmp_dir", .text "t")])) := by
    simp only [resolverFrom, hwhole, hparts, hnames, bind, Except.bind]
    rfl
  unfold fromEnvironment
  rw [lowerVariables_sectionRun]
  dsimp only
  rw [hresolver]
  rfl

/-- The entries of this configuration file. -/
def sectionEntries : Entries :=
  [(.text "resolver", .map [(.text "package_dirs", .list [.text "v"])])]

theorem fromFile_sectionDisk : fromFile sectionDisk (some sectionPath) = .ok sectionEntries := by
  have hbytes : sectionDisk.readBytes sectionPath =
      .ok [91, 114, 101, 115, 111, 108, 118, 101, 114, 93, 10, 112, 97, 99, 107, 97, 103, 101, 95,
        100, 105, 114, 115, 61, 91, 39, 118, 39, 93] := by cbv
  have hdecode : Utf8.decode [91, 114, 101, 115, 111, 108, 118, 101, 114, 93, 10, 112, 97, 99, 107,
      97, 103, 101, 95, 100, 105, 114, 115, 61, 91, 39, 118, 39, 93] =
        .ok "[resolver]\npackage_dirs=['v']".toList := by cbv
  have hread : Toml.read (Utf8.unifyLineEnds "[resolver]\npackage_dirs=['v']".toList) =
      .ok sectionEntries := by cbv
  have hname : sectionPath.name ≠ Config.projectFileName := by decide
  have hdocument : Config.readDocument sectionDisk sectionPath = .ok sectionEntries := by
    simp only [Config.readDocument, hbytes, hdecode, hread]
  have htable : Config.readTable sectionDisk sectionPath = .ok sectionEntries := by
    simp only [Config.readTable, hdocument, bind, Except.bind, if_neg hname]
    rfl
  rw [fromFile, htable]

/-- The directory for declarations comes from the environment and the one for packages from the
file. -/
theorem section_parts_of_both_sources :
    ∃ options rest s, Program.readWords sectionDisk sectionRun.words = .ok (options, rest) ∧
      sectionRun.gather sectionDisk options = .ok s ∧ s.jsonOutput = true ∧
      s.resolverTempDir = .ofText "t" ∧ s.resolverPackageDirs = [.ofText "v"] := by
  have hwords : Program.readWords sectionDisk sectionRun.words =
      .ok (⟨none, none, ⟨some true, some false, some false⟩⟩,
        ["resolve", "a", "--from", "m.scss"]) := rfl
  have hfile : configFile sectionDisk sectionRun.environment none none =
      .ok (some sectionPath) := by cbv
  have hstart : (none : Option Path) = none →
      startDirectory sectionDisk (some sectionPath) = .ok (.ofText "/") := fun _ => rfl
  -- Variables are found under their names in small letters, so they are looked up among those.
  have hsection : sectionVariable? sectionRun.environment = none := by
    rw [sectionVariable?, ← get?_lowerVariables, lowerVariables_sectionRun]
    rfl
  have htempDir : partVariable? sectionRun.environment tempDirName = some (.text "t") := by
    rw [partVariable?, ← get?_lowerVariables, lowerVariables_sectionRun]
    rfl
  have hpackageDirs : partVariable? sectionRun.environment packageDirsName = none := by
    rw [partVariable?, ← get?_lowerVariables, lowerVariables_sectionRun]
    rfl
  have hjson : (Program.given sectionRun.words).any Switch.jsonOutput.isSetBy := rfl
  obtain ⟨hvalid, hvalues⟩ := settings_follow_sources_iff sectionRun hwords hfile
    fromFile_sectionDisk fromEnvironment_sectionRun hstart
  obtain ⟨s, hs⟩ := hvalid.mpr ⟨rfl, by rintro _ ⟨⟩; exact ⟨_, rfl⟩, rfl, rfl⟩
  obtain ⟨hswitches, -, hparts⟩ := hvalues s hs
  obtain ⟨hdir, hdirs⟩ := hparts fun v hv => by rw [hsection] at hv; cases hv
  refine ⟨_, _, s, hwords, hs, ?_, ?_, ?_⟩
  · have := (hswitches .jsonOutput).mpr (.inl (by rw [Switch.sources, hjson]; rfl))
    rw [Sources.value?, Switch.sources, hjson] at this
    exact (Option.some.inj this).symm
  · rw [Sources.value?, partSources, htempDir] at hdir
    exact (Option.some.inj hdir).symm
  · rw [Sources.value?, partSources, hpackageDirs, hsection] at hdirs
    exact (Option.some.inj hdirs).symm

end Invocation

end StyleImport
