import StyleImport.Proofs.CommandLine.Documents
import StyleImport.Proofs.Config.Settings
import StyleImport.Proofs.Engine.Resolve
import StyleImport.Proofs.Failure

/-!
# Resolving from the command line

A run that resolves an import does what the library does with an engine for the same settings, and
shows what the library gives as a JSON document. Only where a lone surrogate would have to stand in
that document does the run end with a failure instead.

## Main definitions

- `Settings.resolveFresh`: what the library does for settings.
- `Target.IsWhole`: the targets without lone surrogates.
- `Outcome.ShowsTarget`, `Outcome.ShowsTrouble`: what a run shows.

## Main statements

- `Operation.perform_resolve`: a run does what the library does.
- `Invocation.conclude_resolved`, `Invocation.conclude_failure`: what is shown of it.
- `Invocation.resolve_agrees_iff`: a run agrees with the library.
-/

namespace StyleImport

/-- The value at a path of names inside a document. -/
def Json.at? : List Text → Json → Option Json
  | [], v => some v
  | name :: path, object fields => (field? name fields).bind (at? path)
  | _ :: _, _ => none

/-- What the library does for settings: an engine is created and resolves an import. -/
def Settings.resolveFresh (s : Settings) (reference : Reference) (file : Text) :
    Action (Option Target) := do
  let e ← Engine.create (some s.projectRoot) (some s.resolverTempDir) s.packageDirs
  e.resolve reference file

/-- The engine that the library creates for settings. -/
def Settings.freshEngine (s : Settings) : Engine where
  tempArea := ⟨s.tempDir⟩
  projectRoot := s.projectRoot
  packageDirs := s.packageDirs
  probe := .standard

theorem Settings.resolveFresh_eq (s : Settings) (reference : Reference) (file : Text) :
    s.resolveFresh reference file =
      ((s.freshEngine.tempArea.reset >>= fun _ => pure s.freshEngine) >>= fun e =>
        e.resolve reference file) := rfl

/-- The library empties the temp area and resolves the import then. -/
theorem Settings.gives_resolveFresh {s : Settings} {d area d' : Disk} {reference : Reference}
    {file : Text} {t : Option Target} (hreset : s.freshEngine.tempArea.reset.Gives d () area)
    (hresolve : (s.freshEngine.resolve reference file).Gives area t d') :
    (s.resolveFresh reference file).Gives d t d' := by
  rw [resolveFresh_eq]
  refine Action.gives_bind.mpr ⟨s.freshEngine, area, ?_, hresolve⟩
  exact Action.gives_bind.mpr ⟨(), area, hreset, Action.gives_pure.mpr ⟨rfl, rfl⟩⟩

/-- No surrogate stands alone in the texts of a target. -/
def Target.IsWhole (t : Target) : Prop :=
  t.file.IsWhole ∧ t.source.IsWhole ∧ ∀ contents ∈ t.contents, contents.IsWhole

/-! ## Emptying the temp area -/

/-- Only the disk refuses an action. -/
def Action.OnlyRefused {α : Type} (x : Action α) : Prop :=
  ∀ d f, (x d).1.result = .error f → ∃ fault, f = .access fault

namespace Action

variable {α β : Type}

theorem onlyRefused_bind {x : Action α} {f : α → Action β} (hx : x.OnlyRefused)
    (hf : ∀ a, (f a).OnlyRefused) : (x >>= f).OnlyRefused := by
  intro d failure h
  rw [result_bind, bind_eq_error_iff] at h
  rcases h with h | ⟨a, -, h⟩
  · exact hx d failure h
  · exact hf a _ failure h

theorem onlyRefused_change (f : Disk → Disk.Change) : (change f).OnlyRefused := by
  intro d failure h
  rw [result_change] at h
  split at h
  · cases h
  · cases h
    exact ⟨_, rfl⟩

end Action

theorem TempArea.onlyRefused_reset (a : TempArea) : a.reset.OnlyRefused := by
  have hthere : a.isThere.OnlyRefused := by
    intro d f h
    obtain ⟨fault, -, rfl⟩ := mapError_eq_error_iff.mp h
    exact ⟨fault, rfl⟩
  have hmade : (do
      Action.change (·.makeDirectories a.root)
      .note ⟨logger, .debug, "Reset temp area " ++ a.root.toText⟩ : Action Unit).OnlyRefused :=
    Action.onlyRefused_bind (Action.onlyRefused_change _) fun _ _ _ h => nomatch h
  refine Action.onlyRefused_bind hthere fun there => ?_
  cases there with
  | true => exact Action.onlyRefused_bind (Action.onlyRefused_change _) fun _ => hmade
  | false => exact hmade

/-! ## Doing what the library does -/

namespace Operation

variable {s : Settings} {d : Disk} {reference file : Text}

/-- The report on what resolving an import gives. -/
def reportOf (reference : Reference) (file : Text) :
    Except Failure (Option Target) → Except Failure Report
  | .ok none => .ok (deferred "resolve" reference file)
  | .ok (some t) => .ok (resolved "resolve" reference t)
  | .error (.manifest path reason) => .ok (invalidManifest "resolve" path reason)
  | .error f => .error f

theorem reportOf_error {f : Failure} (h : ¬f.IsManifest) :
    reportOf reference file (.error f) = .error f := by
  cases f with
  | manifest path reason => exact absurd ⟨path, reason, rfl⟩ h
  | _ => rfl

theorem resolve_eq (e : Engine) : Operation.resolve e reference file d =
    (⟨(e.resolve reference file d).1.log,
      reportOf reference file (e.resolve reference file d).1.result⟩,
      (e.resolve reference file d).2) := by
  unfold Operation.resolve reportOf
  rcases e.resolve reference file d with ⟨⟨log, result⟩, d'⟩
  rcases result with failure | _ | t
  · cases failure <;> rfl
  · rfl
  · rfl

/-- A run does what the library does. -/
theorem perform_resolve :
    (Task.resolve reference file false).perform (.start s) d =
      (⟨(s.resolveFresh reference file d).1.log,
        reportOf reference file (s.resolveFresh reference file d).1.result⟩,
        (s.resolveFresh reference file d).2) := by
  let e : Engine := s.freshEngine
  -- Both empty the same area and go on with the same engine; the run only keeps it besides.
  have hrun : (Task.resolve reference file false).perform (.start s) =
      ((e.tempArea.reset >>= fun _ => pure (e, { Context.start s with engine := some e })) >>=
        fun made => Operation.resolve made.1 reference file) := rfl
  rw [hrun, Settings.resolveFresh_eq]
  simp only [bind, Action.bind]
  rcases hreset : e.tempArea.reset d with ⟨⟨log, failure | _⟩, d'⟩
  -- A failure to empty the area is no manifest's, and a run passes it on as it is.
  · obtain ⟨fault, rfl⟩ := e.tempArea.onlyRefused_reset d failure (by rw [hreset])
    rfl
  · simp only [pure, Action.done, resolve_eq]
    rfl

/-! ## The document -/

open Json (surrogates? surrogatesOfFields? IsReadable)
open Text (isWhole_ofString)

/-- What is said besides a target is whole if its source is. -/
theorem isWhole_of_mem_warnings {t : Target} {warning : Text} (hsource : t.source.IsWhole)
    (h : warning ∈ (resolved "resolve" reference t).warnings) : warning.IsWhole := by
  unfold resolved Report.success at h
  dsimp only at h
  split at h
  · rw [List.mem_singleton.mp h]
    exact Text.isWhole_append_iff.mpr ⟨hsource, isWhole_ofString _⟩
  · cases h

/-- No surrogate stands alone in the document of a target just if none does in the target. -/
theorem surrogates?_resolved_iff {t : Target} (hreference : reference.IsWhole) :
    (resolved "resolve" reference t).toJson.surrogates? = none ↔ t.IsWhole := by
  have hdata : surrogatesOfFields? (resolved "resolve" reference t).data = none ↔ t.IsWhole := by
    obtain ⟨file, kind, contents, source⟩ := t
    cases contents <;>
      simp [resolved, Report.success, surrogates?, surrogatesOfFields?,
        Utf8.firstSurrogates_ofString, Utf8.firstSurrogates_eq_none_iff, Target.IsWhole,
        hreference]
  rw [Report.surrogates?_toJson_iff, hdata]
  constructor
  · exact fun h => h.2.1
  · exact fun h => ⟨isWhole_ofString _, h, fun _ => isWhole_of_mem_warnings h.2.1, rfl⟩

/-- The document of a whole target can be read again, unless its text is so long that its length
cannot. -/
theorem isReadable_resolved {t : Target} (hreference : reference.IsWhole) (ht : t.IsWhole)
    (hlength : ∀ contents ∈ t.contents, contents.length < 10 ^ Numeral.digitLimit) :
    IsReadable (resolved "resolve" reference t).toJson := by
  have hdata : IsReadable (.object (resolved "resolve" reference t).data) := by
    obtain ⟨file, kind, contents, source⟩ := t
    obtain ⟨hfile, hsource, hcontents⟩ := ht
    cases contents with
    | none =>
      have hnames : (["reference", "kind", "file", "source_path", "contents"].map
          Text.ofString).Nodup := by decide
      exact ⟨hnames, isWhole_ofString _, hreference, isWhole_ofString _, isWhole_ofString _,
        isWhole_ofString _, hfile, isWhole_ofString _, hsource, isWhole_ofString _, trivial,
        trivial⟩
    | some contents =>
      have hnames : (["reference", "kind", "file", "source_path", "contents", "size"].map
          Text.ofString).Nodup := by decide
      exact ⟨hnames, isWhole_ofString _, hreference, isWhole_ofString _, isWhole_ofString _,
        isWhole_ofString _, hfile, isWhole_ofString _, hsource, isWhole_ofString _,
        hcontents contents rfl, isWhole_ofString _, hlength contents rfl, trivial⟩
  exact Report.isReadable_toJson (isWhole_ofString _) hdata
    (fun _ => isWhole_of_mem_warnings ht.2.1) trivial

end Operation

/-! ## What runs show -/

namespace Outcome

/-- A run succeeds and shows a target. The document is all that can be read on the standard output,
if the text of the target is not so long that its length cannot be read. -/
def ShowsTarget (o : Outcome) (t : Target) : Prop :=
  ∃ doc, o.Shows doc ∧ doc.at? ["ok"] = some (.bool true) ∧
    doc.at? ["data", "file"] = some (.text t.file) ∧
    doc.at? ["data", "source_path"] = some (.text t.source) ∧
    doc.at? ["data", "kind"] = some (.text t.kind.name) ∧
    doc.at? ["data", "contents"] = some (t.contents.elim .null .text) ∧
    ((∀ contents ∈ t.contents, contents.length < 10 ^ Numeral.digitLimit) →
      Json.read (Text.chars o.out) = .ok doc)

/-- A run fails and shows trouble of a kind. The document can be read again. -/
def ShowsTrouble (o : Outcome) (code : Text) (detail : List (Text × Json)) : Prop :=
  ∃ doc, o.Refuses doc ∧ doc.at? ["ok"] = some (.bool false) ∧
    doc.at? ["error", "code"] = some (.text code) ∧
    doc.at? ["error", "detail"] = some (.object detail) ∧
    Json.read (Text.chars (Json.write doc ++ "\n")) = .ok doc

end Outcome

namespace Invocation

variable {i : Invocation} {s : Settings} {d : Disk} {t : Traced Report} {r : Report}
  {task : Task} {reference file : Text}

/-- What a run does with its settings and its task. -/
def doTask (i : Invocation) (s : Settings) (task : Task) (d : Disk) : Outcome × Disk :=
  let (t, d) := task.perform (.start s) d
  (i.conclude s t, d)

theorem run_of_plan (h : i.plan d = .ok (s, task)) : i.run d = i.doTask s task d := by
  unfold run
  rw [h]
  rfl

theorem doTask_resolve : i.doTask s (.resolve reference file false) d =
    (i.conclude s ⟨(s.resolveFresh reference file d).1.log,
      Operation.reportOf reference file (s.resolveFresh reference file d).1.result⟩,
      (s.resolveFresh reference file d).2) := by
  unfold doTask
  rw [Operation.perform_resolve]

theorem conclude_resolved {target : Target} (hjson : s.jsonOutput) (hreference : reference.IsWhole)
    (hr : t.result = .ok (Operation.resolved "resolve" reference target)) :
    ((i.conclude s t).ShowsTarget target ↔ target.IsWhole) ∧
      (¬target.IsWhole → ∃ fault, (i.conclude s t).Breaks (.report fault)) := by
  rw [← Operation.surrogates?_resolved_iff hreference]
  cases hfault : (Operation.resolved "resolve" reference target).toJson.surrogates? with
  | some fault =>
    have hbreaks := conclude_of_surrogates i hjson hr hfault
    refine ⟨iff_of_false ?_ nofun, fun _ => ⟨fault, hbreaks⟩⟩
    rintro ⟨doc, hshows, -⟩
    exact hbreaks.not_shows doc hshows
  | none =>
    have hshows := conclude_of_whole i hjson hr hfault
    refine ⟨iff_of_true ⟨_, hshows, ?_⟩ rfl, fun h => absurd rfl h⟩
    have hwhole := (Operation.surrogates?_resolved_iff hreference).mp hfault
    rw [hshows.2.2.1]
    obtain ⟨file, kind, contents, source⟩ := target
    refine ⟨rfl, ?_, ?_, ?_, ?_, fun hlength =>
      read_document (Operation.isReadable_resolved hreference hwhole hlength)⟩
    · cases contents <;> rfl
    · cases contents <;> rfl
    · cases contents <;> rfl
    · cases contents <;> rfl

/-- A run that resolves an import ends where a surrogate stands alone in the target. -/
theorem breaks_of_not_isWhole {target : Target}
    (hplan : i.plan d = .ok (s, .resolve reference file false)) (hjson : s.jsonOutput)
    (hreference : reference.IsWhole)
    (htarget : (s.resolveFresh reference file d).1.result = .ok (some target))
    (hbroken : ¬target.IsWhole) : ∃ fault, (i.run d).1.Breaks (.report fault) := by
  rw [run_of_plan hplan, doTask_resolve, htarget]
  refine (conclude_resolved hjson hreference ?_).2 hbroken
  rfl

theorem conclude_failure {code message : Text} {detail : List (Text × Json)}
    (hjson : s.jsonOutput) (hcode : code.IsWhole) (hdetail : message.IsWhole →
      Json.surrogatesOfFields? detail = none ∧ Json.IsReadable (.object detail))
    (hr : t.result = .ok (.failure "resolve" code message detail)) :
    ((i.conclude s t).ShowsTrouble code detail ↔ message.IsWhole) ∧
      (¬message.IsWhole → ∃ fault, (i.conclude s t).Breaks (.report fault)) := by
  have hwhole : (Report.failure "resolve" code message detail).toJson.surrogates? = none ↔
      message.IsWhole := by
    rw [Report.surrogates?_failure_iff]
    exact ⟨fun h => h.2.2.1, fun h => ⟨Text.isWhole_ofString _, hcode, h, (hdetail h).1⟩⟩
  rw [← hwhole]
  cases hfault : (Report.failure "resolve" code message detail).toJson.surrogates? with
  | some fault =>
    have hbreaks := conclude_of_surrogates i hjson hr hfault
    refine ⟨iff_of_false ?_ nofun, fun _ => ⟨fault, hbreaks⟩⟩
    rintro ⟨doc, hrefuses, -⟩
    exact hbreaks.not_refuses doc hrefuses
  | none =>
    have hmessage := hwhole.mp hfault
    have hread := read_document (Report.isReadable_failure (Text.isWhole_ofString "resolve") hcode
      hmessage (hdetail hmessage).2)
    exact ⟨iff_of_true ⟨_, conclude_of_whole i hjson hr hfault, rfl, rfl, rfl, hread⟩ rfl,
      fun h => absurd rfl h⟩

/-- A run that resolves an import leaves the disk as the library does, and shows what the library
gives: a target just if no surrogate stands alone in it, the lack of a file always, and a manifest
that cannot be used just if no surrogate stands alone in the message about it. All other failures
end the run, as they end the library's work. -/
theorem resolve_agrees_iff (i : Invocation) (hjson : s.jsonOutput)
    (hreference : reference.IsWhole) (hfile : file.IsWhole) :
    let run := i.doTask s (.resolve reference file false) d
    let library := s.resolveFresh reference file d
    (i.plan d = .ok (s, .resolve reference file false) → i.run d = run) ∧
      run.2 = library.2 ∧
      (∀ target, library.1.result = .ok (some target) →
        (run.1.ShowsTarget target ↔ target.IsWhole) ∧
          (¬target.IsWhole → ∃ fault, run.1.Breaks (.report fault))) ∧
      (library.1.result = .ok none → run.1.ShowsTrouble "DEFERRED"
        [("reference", .text reference), ("previous_file", .text file)]) ∧
      (∀ path reason, library.1.result = .error (.manifest path reason) →
        (run.1.ShowsTrouble "INVALID_MANIFEST" [("path", .text path)] ↔
            (Failure.manifest path reason).message.IsWhole) ∧
          (¬(Failure.manifest path reason).message.IsWhole →
            ∃ fault, run.1.Breaks (.report fault))) ∧
      ∀ f, library.1.result = .error f → ¬f.IsManifest → run.1.Breaks f := by
  intro run library
  have hrun : run = (i.conclude s ⟨library.1.log, Operation.reportOf reference file
      library.1.result⟩, library.2) := doTask_resolve
  rw [hrun]
  refine ⟨fun h => (run_of_plan h).trans hrun, rfl, ?_, ?_, ?_, ?_⟩
  · intro target htarget
    exact conclude_resolved hjson hreference (by rw [htarget]; rfl)
  · intro hnone
    have hmessage : Text.IsWhole ("No file found for " ++ reference.quoted ++
        "; the compiler would use its own lookup") := by
      simp only [Text.isWhole_append_iff, Text.isWhole_ofString, Text.isWhole_quoted hreference,
        and_self]
    have hnames : (["reference", "previous_file"].map Text.ofString).Nodup := by decide
    refine (conclude_failure hjson (Text.isWhole_ofString _) (fun _ => ⟨?_, ?_⟩)
      (by rw [hnone]; rfl)).1.mpr hmessage
    · simp [Json.surrogatesOfFields?, Json.surrogates?, Utf8.firstSurrogates_ofString,
        Utf8.firstSurrogates_eq_none_iff, hreference, hfile]
    · exact ⟨hnames, Text.isWhole_ofString _, hreference, Text.isWhole_ofString _, hfile, trivial⟩
  · intro path reason hmanifest
    -- The path is a part of the message.
    have hpath (h : (Failure.manifest path reason).message.IsWhole) : path.IsWhole :=
      (Text.isWhole_append_iff.mp (Text.isWhole_append_iff.mp
        (Text.isWhole_append_iff.mp h).1).1).2
    refine conclude_failure hjson (Text.isWhole_ofString _) (fun h => ⟨?_, ?_⟩)
      (by rw [hmanifest]; rfl)
    · simp [Json.surrogatesOfFields?, Json.surrogates?, Utf8.firstSurrogates_ofString,
        Utf8.firstSurrogates_eq_none_iff, hpath h]
    · exact ⟨List.nodup_singleton _, Text.isWhole_ofString _, hpath h, trivial⟩
  · intro f hf hmanifest
    refine conclude_of_error i ?_
    rw [hf]
    exact Operation.reportOf_error hmanifest

/-! ## Runs with a manifest -/

open Settings

/-- A disk with a manifest, `{"a":"b"}`. -/
def manifestDisk : Disk where
  entries := [(["t.json"], .file [123, 34, 97, 34, 58, 34, 98, 34, 125])]
  workingDirectory := some []

/-- A run that resolves the manifest and asks for a JSON document. -/
def manifestRun (env : Environment) : Invocation where
  words := ["--json", "resolve", "t.json", "--from", "m.scss"]
  environment := env
  time := ""

/-- The settings of such a run with a directory for declarations. -/
def manifestSettings (dir : Path) : Settings where
  projectRoot := .ofText "/"
  configPath := none
  jsonOutput := true
  verbose := false
  logJson := false
  resolverTempDir := dir
  resolverPackageDirs := []

/-- The target that the library gives with a file for the declarations. -/
def manifestTarget (file : Text) : Target where
  file := file
  kind := .manifestData
  contents := some (.ofString "$a: b;")
  source := "/t.json"

/-- Only the section of the resolver decides what such a run does. -/
theorem plan_manifestRun {env : Environment} {inEnvironment : Entries} {dir : Path}
    (hfile : configFile manifestDisk env none none = .ok none)
    (henv : fromEnvironment env = .ok inEnvironment)
    (hsection : IsSection ((Value.get? (.text resolverName) inEnvironment).or none))
    (hdir : readOr? path? TempArea.standard
      ((part? (Value.get? (.text resolverName) inEnvironment) tempDirName).or none) = some dir)
    (hdirs : readOr? paths? []
      ((part? (Value.get? (.text resolverName) inEnvironment) packageDirsName).or none) =
        some []) :
    (manifestRun env).plan manifestDisk =
      .ok (manifestSettings dir, .resolve "t.json" "m.scss" false) := by
  have hwords : Program.readWords manifestDisk (manifestRun env).words =
      .ok (⟨none, none, ⟨some true, some false, some false⟩⟩,
        ["resolve", "t.json", "--from", "m.scss"]) := rfl
  have hcommand : Program.findCommand manifestDisk "resolve" ["t.json", "--from", "m.scss"] =
      .ok .resolve := rfl
  have htask : Command.readTask .resolve manifestDisk ["t.json", "--from", "m.scss"] =
      .ok (.resolve "t.json" "m.scss" false) := rfl
  have hstart : (none : Option Path) = none →
      startDirectory manifestDisk none = .ok (.ofText "/") := fun _ => rfl
  -- The environment is the only source of settings in this run.
  have hsettings : Settings.gather manifestDisk env none none
      ⟨some true, some false, some false⟩ = .ok (manifestSettings dir) :=
    (gather_eq_ok_iff hfile rfl henv hstart).mpr
      ((ofEntries?_overlay_eq_some_iff henv).mpr
        ⟨rfl, hsection, rfl, rfl, rfl, rfl, rfl, hdir, hdirs⟩)
  have hgather : (manifestRun env).gather manifestDisk
      ⟨none, none, ⟨some true, some false, some false⟩⟩ = .ok (manifestSettings dir) :=
    mapError_eq_ok_iff.mpr hsettings
  unfold plan
  simp only [hwords, hcommand, hgather, htask, bind, Except.bind]
  rfl

/-- The library gives the target for the manifest once its temp area has been emptied. -/
theorem result_resolveFresh_manifest {dir full : Path} {area : Disk} {l : Location}
    (hreset : (manifestSettings dir).freshEngine.tempArea.reset.Gives manifestDisk () area)
    (hfind : ((manifestSettings dir).freshEngine.find area "t.json" "m.scss").result =
      .ok (some (.ofText "/t.json")))
    (hsource : Engine.sourcePath area (.ofText "/t.json") = .ok "/t.json")
    (hcontents : Manifest.declarations area (.ofText "/t.json") = .ok "$a: b;")
    (hplace : area.writable? ((manifestSettings dir).freshEngine.tempArea.pathFor "/t.json") =
      some l)
    (hfull : area.absolute ((manifestSettings dir).freshEngine.tempArea.pathFor "/t.json") =
      .ok full) :
    ((manifestSettings dir).resolveFresh "t.json" "m.scss" manifestDisk).1.result =
      .ok (some (manifestTarget full.toText)) := by
  have hencode : Utf8.encode? "$a: b;" = .ok [36, 97, 58, 32, 98, 59] := rfl
  have hwrite := TempArea.gives_write_of_writable? (TempArea.holdsDirectory_of_reset hreset)
    hplace hencode
  have hresolve := Engine.gives_resolve_of_manifest hfind hsource (by decide) hcontents hwrite
    hfull
  exact (gives_resolveFresh hreset hresolve).1

/-- The disk after the standard directory for declarations has been made. -/
def standardArea : Disk :=
  ((manifestDisk.put ["node_modules"] .directory).put ["node_modules", ".tmp"] .directory).put
    ["node_modules", ".tmp", "scss-importer"] .directory

/-- The manifest is shown, with its declarations in the standard directory. -/
theorem manifest_shown :
    (manifestRun []).plan manifestDisk =
        .ok (manifestSettings TempArea.standard, .resolve "t.json" "m.scss" false) ∧
      Text.IsWhole "t.json" ∧ Text.IsWhole "m.scss" ∧
      ((manifestRun []).run manifestDisk).1.ShowsTarget
        (manifestTarget "/node_modules/.tmp/scss-importer/_t_json.scss") := by
  have hplan : (manifestRun []).plan manifestDisk =
      .ok (manifestSettings TempArea.standard, .resolve "t.json" "m.scss" false) :=
    plan_manifestRun (by cbv) rfl nofun rfl rfl
  have htarget : ((manifestSettings TempArea.standard).resolveFresh "t.json" "m.scss"
      manifestDisk).1.result =
        .ok (some (manifestTarget "/node_modules/.tmp/scss-importer/_t_json.scss")) := by
    have hreset : (manifestSettings TempArea.standard).freshEngine.tempArea.reset.Gives
        manifestDisk () standardArea := by
      unfold Action.Gives
      cbv
    have hplace : standardArea.writable?
        ((manifestSettings TempArea.standard).freshEngine.tempArea.pathFor "/t.json") =
          some (["node_modules", ".tmp", "scss-importer", "_t_json.scss"] : Location) := by cbv
    exact result_resolveFresh_manifest hreset (by cbv) (by cbv) (by cbv) hplace rfl
  -- The target is made of whole texts, so all of it can be printed.
  have hwhole : (manifestTarget "/node_modules/.tmp/scss-importer/_t_json.scss").IsWhole := by
    refine ⟨Text.isWhole_ofString _, Text.isWhole_ofString _, ?_⟩
    rintro _ ⟨⟩
    exact Text.isWhole_ofString _
  obtain ⟨hrun, -, hshown, -⟩ := resolve_agrees_iff (manifestRun []) (d := manifestDisk)
    (s := manifestSettings TempArea.standard) rfl (Text.isWhole_ofString "t.json")
    (Text.isWhole_ofString "m.scss")
  refine ⟨hplan, Text.isWhole_ofString _, Text.isWhole_ofString _, ?_⟩
  rw [hrun hplan]
  exact (hshown _ htarget).1.mpr hwhole

/-- The lone surrogate with the number `0xDCFF`. -/
def stray : CodePoint := .surrogate 1279

/-- An environment that names a directory for declarations by a lone surrogate. -/
def strayEnvironment : Environment :=
  [("SCSSIMPORTER_RESOLVER", "\x7b\"tmp_dir\":\"\\udcff\"\x7d")]

/-- This environment with the name of its variable in small letters. -/
def strayVariables : Environment :=
  [("scssimporter_resolver", "\x7b\"tmp_dir\":\"\\udcff\"\x7d")]

theorem fromEnvironment_stray : fromEnvironment strayEnvironment =
    .ok [(.text "resolver", .map [(.text "tmp_dir", .text [stray])])] := by
  have hvariable : Text.toLower "SCSSIMPORTER_RESOLVER" = "scssimporter_resolver" := by
    rw [Text.toLower_of_ascii (by decide)]
    decide
  have hlower : lowerVariables strayEnvironment = strayVariables := by
    simp only [lowerVariables, strayEnvironment, List.foldl_cons, List.foldl_nil, hvariable]
    rfl
  -- Names are written in ASCII, where small letters need no table.
  have hsmall : Text.toLower "tmp_dir" = "tmp_dir" := by
    rw [Text.toLower_of_ascii (by decide)]
    decide
  have hnames : lowerNames [(.text "tmp_dir", .text [stray])] =
      [(.text "tmp_dir", .text [stray])] := by
    simp only [lowerNames, List.foldl_cons, List.foldl_nil, hsmall]
    rfl
  have hread : readVariable "\x7b\"tmp_dir\":\"\\udcff\"\x7d" =
      .ok (.map [(.text "tmp_dir", .text [stray])]) := by cbv
  have hwhole : strayVariables.get? (variableStart ++ resolverName) =
      some (.ofString "\x7b\"tmp_dir\":\"\\udcff\"\x7d") := by rfl
  have hparts : partsFrom strayVariables [] = .ok [] := by rfl
  have hoverlay : overlay [(.text "tmp_dir", .text [stray])] [] =
      [(.text "tmp_dir", .text [stray])] := by rfl
  have hresolver : resolverFrom strayVariables =
      .ok (some (.map [(.text "tmp_dir", .text [stray])])) := by
    simp only [resolverFrom, hwhole, hread, hparts, bind, Except.bind, hoverlay, hnames]
    rfl
  unfold fromEnvironment
  rw [hlower]
  dsimp only
  rw [hresolver]
  rfl

/-- With a lone surrogate in the path of the declarations the library gives a target and the run
fails. -/
theorem stray_target_not_shown :
    ∃ s target, (manifestRun strayEnvironment).plan manifestDisk =
        .ok (s, .resolve "t.json" "m.scss" false) ∧ s.jsonOutput = true ∧
      Text.IsWhole "t.json" ∧ Text.IsWhole "m.scss" ∧
      (s.resolveFresh "t.json" "m.scss" manifestDisk).1.result = .ok (some target) ∧
      ((manifestRun strayEnvironment).run manifestDisk).1.exit ≠ 0 := by
  have hplan : (manifestRun strayEnvironment).plan manifestDisk =
      .ok (manifestSettings (.ofText [stray]), .resolve "t.json" "m.scss" false) :=
    plan_manifestRun (by cbv) fromEnvironment_stray (by rintro _ ⟨⟩; exact ⟨_, rfl⟩) rfl rfl
  have htarget : ((manifestSettings (.ofText [stray])).resolveFresh "t.json" "m.scss"
      manifestDisk).1.result =
        .ok (some (manifestTarget (.scalar '/' :: stray :: "/_t_json.scss"))) := by
    have hreset : (manifestSettings (.ofText [stray])).freshEngine.tempArea.reset.Gives
        manifestDisk () (manifestDisk.put [[stray]] .directory) := by
      unfold Action.Gives
      cbv
    have hplace : (manifestDisk.put [[stray]] .directory).writable?
        ((manifestSettings (.ofText [stray])).freshEngine.tempArea.pathFor "/t.json") =
          some ([[stray], "_t_json.scss"] : Location) := by cbv
    exact result_resolveFresh_manifest hreset (by cbv) (by cbv) (by cbv) hplace rfl
  have hbroken : ¬(manifestTarget (.scalar '/' :: stray :: "/_t_json.scss")).IsWhole :=
    fun h => h.1 stray (by decide) rfl
  refine ⟨_, _, hplan, rfl, Text.isWhole_ofString _, Text.isWhole_ofString _, htarget, ?_⟩
  obtain ⟨fault, hexit, -⟩ := breaks_of_not_isWhole hplan rfl (Text.isWhole_ofString _) htarget
    hbroken
  exact fun hzero => absurd (hexit.symm.trans hzero) (by decide)

end Invocation

end StyleImport
