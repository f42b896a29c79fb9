import StyleImport.Proofs.Disk.Asked
import StyleImport.Proofs.Engine.Frame
import StyleImport.Proofs.Engine.Lookup

/-!
# Earlier requests do not matter

What a reference resolves to does not depend on the requests that were resolved before, as long as
nothing that is looked up leads into the temp area. All that earlier requests leave behind are files
in it. They are noticed only by lookups that come to one of them, or that fail because one of them
stands in their way.

## Main definitions

- `Engine.KeepsClear`: no path that a request looks up leads into the temp area.
- `Engine.IsUnobstructed`: no file in the temp area stands in the way of what a request reads.

## Main statements

- `Engine.find_eq`: lookups find the same whatever files are in the temp area.
- `Engine.resolve_eq`: references resolve to the same.
- `Engine.result_resolve_after`: references resolve to the same after any requests.
-/

namespace StyleImport

open Disk TempArea

variable {d d' : Disk} {top : Location} {path : Path}

/-! ## Reading files -/

/-- The declarations of a manifest depend on what stands at its path, and those of a script on what
stands at its textual normal form too. -/
theorem Manifest.declarations_congr (hfills : Fills top d d')
    (h : d'.status path.toText = d.status path.toText)
    (hscript : ∀ full, Format.ofSuffix? path.suffix = some .script → d'.absolute path = .ok full →
      d'.status full.normal.toText = d.status full.normal.toText) :
    Manifest.declarations d' path = Manifest.declarations d path := by
  have hexport : export_ d' path = export_ d path := by
    unfold export_
    cases hformat : Format.ofSuffix? path.suffix with
    | none => rfl
    | some format =>
      cases format with
      | json =>
        dsimp only
        rw [readJson_congr h]
      | yaml =>
        dsimp only
        unfold readYaml
        rw [readText_congr h]
      | script =>
        have hbytes : readScriptBytes d' path = readScriptBytes d path := by
          have habsolute := absolute_congr (p := path) hfills.here
          unfold readScriptBytes
          rw [hfills.isDirectory_eq, habsolute]
          cases hfull : d.absolute path with
          | error fault => rfl
          | ok full =>
            dsimp only
            rw [readBytes_congr (hscript full hformat (habsolute.trans hfull))]
        dsimp only
        unfold runScript
        rw [hbytes]
  unfold declarations load
  rw [hexport]

/-! ## Searching files -/

/-- Files written inside a directory do not change the first file of a list of paths, unless one of
them is found. -/
theorem Probe.firstFile_eq (h : Fills top d d') {paths : List Path}
    (hfound : ∀ path, (firstFile d' paths).result = .ok (some path) → ¬d'.LeadsInside top path) :
    (firstFile d' paths).result = (firstFile d paths).result := by
  induction paths with
  | nil => rfl
  | cons path rest ih =>
    rw [result_firstFile_cons] at hfound
    rw [result_firstFile_cons, result_firstFile_cons]
    cases hspeak : unspeakable? path.toText with
    | some fault =>
      rw [result_isFile_of_unspeakable? hspeak, result_isFile_of_unspeakable? hspeak]
      rfl
    | none =>
      have hspeakable := unspeakable?_eq_none_iff.mp hspeak
      rw [result_isFile hspeakable] at hfound
      rw [result_isFile hspeakable, result_isFile hspeakable]
      -- Whatever leads inside is a file, and so the search ends there.
      have hout : ¬d'.LeadsInside top path := by
        intro hin
        have hfile := h.holdsFile_of_leadsInside hin
        rw [hfile] at hfound
        exact hfound path rfl hin
      rw [h.holdsFile_eq hout]
      cases hfile : d.holdsFile path with
      | true => rfl
      | false =>
        rw [h.holdsFile_eq hout, hfile] at hfound
        exact ih hfound

namespace Engine

variable {e : Engine} {reference file : Text}

/-! ## Requests that keep clear of the temp area -/

/-- No path that a request looks up leads to something inside a directory. Where nothing but files
stand inside, this concerns among the candidates only the one that is found. -/
structure KeepsClear (e : Engine) (d : Disk) (top : Location) (reference : Reference)
    (file : Text) : Prop where
  /-- Nothing inside is asked for to find the directory of the importing file. -/
  importer : ¬Reference.isDependency reference →
    ∀ path ∈ d.askedFor true (.ofText (importerPath file)), ¬d.NamesInside top path
  /-- The description of the package is not inside. -/
  description : ∀ dep directory, Dependency.parse? reference = some dep → dep.subpath = [] →
    Package.findDir d e.projectRoot e.packageDirs dep.package = .ok (some directory) →
      ¬d.LeadsInside top (directory.child Package.Description.fileName)
  /-- The file that is found is not inside. -/
  found : ∀ path, (e.find d reference file).result = .ok (some path) → ¬d.LeadsInside top path

/-- What a request reads on the second disk is not kept from it by a file that did not stand in its
way on the first disk. -/
structure IsUnobstructed (e : Engine) (d d' : Disk) (top : Location) (reference : Reference)
    (file : Text) : Prop where
  /-- The description of the package. -/
  description : ∀ dep directory, Dependency.parse? reference = some dep → dep.subpath = [] →
    Package.findDir d' e.projectRoot e.packageDirs dep.package = .ok (some directory) →
      d'.IsBlocked (directory.child Package.Description.fileName) →
        d.IsBlocked (directory.child Package.Description.fileName)
  /-- A script, which is read at the textual normal form of its path. -/
  script : ∀ path full, (e.find d' reference file).result = .ok (some path) →
    Manifest.Format.ofSuffix? path.suffix = some .script → d'.absolute path = .ok full →
      ¬d'.LeadsInside top full.normal ∧ (d'.IsBlocked full.normal → d.IsBlocked full.normal)

/-! ## Lookups -/

theorem normalize_eq (h : Fills top d d') {text : Text}
    (hasked : ∀ path ∈ d'.askedFor true (.ofText text), ¬d'.NamesInside top path) :
    normalize d' text = normalize d text := by
  have hagrees := h.agrees_existingPath hasked
  unfold normalize
  generalize d'.existingPath (.ofText text) = r at hagrees ⊢
  generalize d.existingPath (.ofText text) = r' at hagrees ⊢
  cases hagrees with
  | same => rfl
  | fail hfault => simp [hfault.1, hfault.2]

/-- Lookups that keep clear find the same whatever files are inside the directory. -/
theorem find_eq (h : Fills top d d') (hclear : e.KeepsClear d' top reference file)
    (hfree : e.IsUnobstructed d d' top reference file) :
    (e.find d' reference file).result = (e.find d reference file).result := by
  have hpaths : e.searchedPaths d reference file = e.searchedPaths d' reference file := by
    refine searchedPaths_congr (fun hclassic => ?_) (fun dep _ => ?_)
      (fun dep directory hdep hdir => ?_)
    · rw [parentDirectory_eq, parentDirectory_eq, normalize_eq h (hclear.importer hclassic)]
    · exact (Package.findDir_congr h.isDirectory_eq (h.realPath_eq _)).symm
    · refine (Package.entryPaths_congr fun hsub => ?_).symm
      exact h.status_eq (hclear.description dep directory hdep hsub hdir)
        (hfree.description dep directory hdep hsub hdir)
  have hfound := hclear.found
  rw [result_find] at hfound
  rw [result_find, result_find, hpaths]
  cases hsearched : e.searchedPaths d' reference file with
  | error failure => rfl
  | ok paths =>
    rw [hsearched] at hfound
    exact Probe.firstFile_eq h hfound

/-! ## Targets -/

/-- Declarations are written with the same result whatever files are in the temp area. -/
theorem result_persist_eq (he : e.tempArea.root.IsProper) (hd : d.IsTree) (hd' : d'.IsTree)
    (hclean : e.HasCleanArea d top) (hclean' : e.HasCleanArea d' top)
    (hhere : d'.workingDirectory = d.workingDirectory) (source contents : Text) :
    (e.persist source contents d').1.result = (e.persist source contents d).1.result := by
  have hwritten : (e.tempArea.write source contents d').2.workingDirectory =
      (e.tempArea.write source contents d).2.workingDirectory := by
    rw [(keeps_write e.tempArea source contents d').here,
      (keeps_write e.tempArea source contents d).here, hhere]
  rw [result_persist, result_persist, result_write_eq hd hd' he hclean.root hclean.files
    hclean'.root hclean'.files hhere]
  simp only [absolute_congr hwritten]

/-- The file that a request finds is seen alike, and so are its declarations if it is a manifest. -/
theorem found_eq (h : Fills top d d') (hclear : e.KeepsClear d' top reference file)
    (hfree : e.IsUnobstructed d d' top reference file) {found : Path}
    (hfind : (e.find d' reference file).result = .ok (some found)) :
    d'.status found.toText = d.status found.toText ∧
      Manifest.declarations d' found = Manifest.declarations d found := by
  have hstatus : d'.status found.toText = d.status found.toText := by
    refine h.status_eq (hclear.found found hfind) fun hblocked => ?_
    obtain ⟨l, entry, hthere, -⟩ := holds_eq_true_iff.mp (holdsFile_of_find hfind).2
    unfold IsBlocked at hblocked
    cases hblocked.symm.trans hthere
  refine ⟨hstatus, Manifest.declarations_congr h hstatus fun full hformat hfull => ?_⟩
  obtain ⟨hout, hblocked⟩ := hfree.script found full hfind hformat hfull
  exact h.status_eq hout hblocked

/-- References that keep clear resolve to the same whatever files are in the temp area. -/
theorem resolve_eq (he : e.tempArea.root.IsProper) (hd : d.IsTree) (hd' : d'.IsTree)
    (hclean : e.HasCleanArea d top) (hclean' : e.HasCleanArea d' top) (h : Fills top d d')
    (hclear : e.KeepsClear d' top reference file)
    (hfree : e.IsUnobstructed d d' top reference file) :
    (e.resolve reference file d').1.result = (e.resolve reference file d).1.result := by
  rw [result_resolve, result_resolve, ← find_eq h hclear hfree]
  cases hfind : (e.find d' reference file).result with
  | error failure => rfl
  | ok found? =>
    cases found? with
    | none => rfl
    | some found =>
      -- The file that was found is the same, and so is what is read from it.
      obtain ⟨hstatus, hcontents⟩ := found_eq h hclear hfree hfind
      have hpersist := result_persist_eq he hd hd' hclean hclean' h.here
      have hstatic : staticText d' found = staticText d found := by
        unfold staticText
        rw [readBytes_congr hstatus]
      dsimp only [Except.bind]
      rw [result_classify, result_classify, sourcePath_congr h.here, hcontents, hstatic]
      simp only [hpersist]

/-- After the temp area has been emptied, a reference resolves to the same after any requests as
without them, if at its turn it keeps clear of the temp area and is not obstructed by a file in it,
and if nothing else was in the temp area at the start. This is so if no double dot is in its
path. -/
theorem result_resolve_after {d₀ : Disk} (he : e.tempArea.root.IsProper) (hd : d₀.IsTree)
    (hreset : e.tempArea.reset.Gives d₀ () d) :
    ∃ top, d.status e.tempArea.root.toText = .ok (top, .directory) ∧
      ((∀ name ∈ e.tempArea.root.parts, name ≠ "..") → HoldsOnlyFiles d top) ∧
      (HoldsOnlyFiles d top → ∀ before reference file,
        e.KeepsClear (e.resolveAll before d) top reference file →
        e.IsUnobstructed d (e.resolveAll before d) top reference file →
          (e.resolve reference file (e.resolveAll before d)).1.result =
            (e.resolve reference file d).1.result) := by
  obtain ⟨top, hroot, hclean⟩ := exists_area_of_reset he hd hreset
  have hd' := isTree_of_reset hd hreset
  refine ⟨top, hroot, fun hdots => (hclean hdots).files, ?_⟩
  intro honly before reference file hclear hfree
  have harea : e.HasCleanArea d top := ⟨hroot, honly⟩
  obtain ⟨hsame, harea'⟩ := frame_resolveAll he hd' harea before
  have hgrows := grows_resolveAll harea.holdsDirectory before
  exact resolve_eq he hd' (isTree_resolveAll hd' e before) harea harea'
    (fills_of_holdsOnlyFiles hgrows hsame honly harea'.files) hclear hfree

/-! ## Two manifests -/

section Manifests

variable {engine : Engine} {disk : Disk} {target : Path} {place : Location} {entry : Entry}

/-- A request from a file at the root that finds a file outside keeps clear. -/
theorem keepsClear_of_found (hparse : Dependency.parse? reference = none)
    (hasked : disk.askedFor true (.ofText (importerPath file)) = [])
    (hfind : (engine.find disk reference file).result = .ok (some target))
    (hstatus : disk.status target.toText = .ok (place, entry)) (hout : ¬IsInside top place) :
    engine.KeepsClear disk top reference file where
  importer _ path hpath := by
    rw [hasked] at hpath
    cases hpath
  description dep directory hdep := by
    rw [hparse] at hdep
    cases hdep
  found path hpath := by
    rw [hfind] at hpath
    cases hpath
    rintro ⟨l, e, hl, hin⟩
    cases hstatus.symm.trans hl
    exact hout hin

end Manifests

/-- The target for the second manifest behind a double dot. -/
def detourTarget : Target :=
  ⟨"/x/../u/_c_json.scss", .manifestData, some "$y: b;", "/c.json"⟩

theorem gives_detourTarget : (detourEngine.resolve "c.json" "/m.scss").Gives detourArea
    (some detourTarget)
    (detourArea.put ["u", "_c_json.scss"] (.file [36, 121, 58, 32, 98, 59])) := by
  have hfind : (detourEngine.find detourArea "c.json" "/m.scss").result =
      .ok (some (.ofText "/c.json")) := by cbv
  have hsource : sourcePath detourArea (.ofText "/c.json") = .ok "/c.json" := by cbv
  have hcontents : Manifest.declarations detourArea (.ofText "/c.json") = .ok "$y: b;" := by cbv
  have hwrite : (detourEngine.tempArea.write "/c.json" "$y: b;").Gives detourArea
      (.ofText "/x/../u/_c_json.scss")
      (detourArea.put ["u", "_c_json.scss"] (.file [36, 121, 58, 32, 98, 59])) := ⟨by cbv, by cbv⟩
  exact gives_resolve_of_manifest hfind hsource (by decide) hcontents hwrite rfl

/-- Behind a double dot, resolving one manifest changes what the other one resolves to, although
neither request looks up anything inside the temp area. -/
theorem detour_history_matters :
    detourEngine.tempArea.root.IsProper ∧ detourDisk.IsTree ∧
      detourEngine.tempArea.reset.Gives detourDisk () detourArea ∧
      detourArea.status "/x/../u" = .ok (["u"], .directory) ∧
      detourEngine.KeepsClear detourArea ["u"] "b.json" "/m.scss" ∧
      detourEngine.KeepsClear (detourEngine.resolveAll [("b.json", "/m.scss")] detourArea) ["u"]
        "c.json" "/m.scss" ∧
      (detourEngine.resolve "c.json" "/m.scss"
          (detourEngine.resolveAll [("b.json", "/m.scss")] detourArea)).1.result =
        .error (.manifest "/c.json" (.json (.grammar .value 1 1 0))) ∧
      (detourEngine.resolve "c.json" "/m.scss" detourArea).1.result = .ok (some detourTarget) := by
  have hdisk : detourEngine.resolveAll [("b.json", "/m.scss")] detourArea =
      detourArea.put ["c.json"] (.file [36, 120, 58, 32, 97, 59]) := by
    rw [resolveAll, resolveAll, disk_resolve, persisted?_detourArea]
    cbv
  rw [hdisk]
  have hfirst : (detourEngine.find detourArea "b.json" "/m.scss").result =
      .ok (some (.ofText "/b.json")) := by cbv
  have hsecond : (detourEngine.find
      (detourArea.put ["c.json"] (.file [36, 120, 58, 32, 97, 59])) "c.json" "/m.scss").result =
        .ok (some (.ofText "/c.json")) := by cbv
  have hsource : sourcePath (detourArea.put ["c.json"] (.file [36, 120, 58, 32, 97, 59]))
      (.ofText "/c.json") = .ok "/c.json" := by cbv
  refine ⟨by decide, detourDisk_isTree, reset_detourDisk, by cbv, ?_, ?_, ?_, gives_detourTarget.1⟩
  · exact keepsClear_of_found (by decide) (by cbv) hfirst (by cbv) (by decide)
  · exact keepsClear_of_found (by decide) (by cbv) hsecond (by cbv) (by decide)
  · exact result_resolve_of_declarations hsecond hsource (by decide) (by cbv)

/-- With a temp area of its own, the second manifest resolves to the same after the first one as
without it, although both are written to the same file. -/
theorem twin_history_irrelevant :
    areaEngine.tempArea.root.IsProper ∧ twinDisk.IsTree ∧
      areaEngine.tempArea.reset.Gives twinDisk () areaDisk ∧
      areaEngine.KeepsClear (areaEngine.resolveAll [("a-b.json", "/m.scss")] areaDisk) ["t"]
        "a_b.json" "/m.scss" ∧
      areaEngine.IsUnobstructed areaDisk
        (areaEngine.resolveAll [("a-b.json", "/m.scss")] areaDisk) ["t"] "a_b.json" "/m.scss" ∧
      (areaEngine.resolve "a_b.json" "/m.scss"
          (areaEngine.resolveAll [("a-b.json", "/m.scss")] areaDisk)).1.result =
        (areaEngine.resolve "a_b.json" "/m.scss" areaDisk).1.result := by
  have hdisk : areaEngine.resolveAll [("a-b.json", "/m.scss")] areaDisk =
      writtenDisk [36, 120, 58, 32, 97, 59] := by
    rw [resolveAll, resolveAll, gives_firstTarget.2]
  have hfind : (areaEngine.find (writtenDisk [36, 120, 58, 32, 97, 59]) "a_b.json"
      "/m.scss").result = .ok (some (.ofText "/a_b.json")) := by cbv
  have hclear : areaEngine.KeepsClear (areaEngine.resolveAll [("a-b.json", "/m.scss")] areaDisk)
      ["t"] "a_b.json" "/m.scss" := by
    rw [hdisk]
    exact keepsClear_of_found (by decide) (by cbv) hfind (by cbv) (by decide)
  have hfree : areaEngine.IsUnobstructed areaDisk
      (areaEngine.resolveAll [("a-b.json", "/m.scss")] areaDisk) ["t"] "a_b.json" "/m.scss" := by
    rw [hdisk]
    constructor
    · intro dep directory hdep
      cases hdep
    · intro path full hpath hformat
      rw [hfind] at hpath
      cases hpath
      cases hformat
  have hproper : areaEngine.tempArea.root.IsProper := by decide
  refine ⟨hproper, twinDisk_isTree, reset_twinDisk, hclear, hfree, ?_⟩
  obtain ⟨top, hroot, honly, hafter⟩ :=
    result_resolve_after hproper twinDisk_isTree reset_twinDisk
  have hplace : areaDisk.status areaEngine.tempArea.root.toText = .ok (["t"], .directory) := by cbv
  cases hplace.symm.trans hroot
  exact hafter (honly (by decide)) _ _ _ hclear hfree

end Engine

end StyleImport
