import StyleImport.Proofs.Engine.Lookup
import StyleImport.Proofs.Package.Failures

/-!
# Failures of lookups

A lookup is answered if it finds a file, finds none, or comes to the description of a package that
is malformed. It is not answered where the system refuses a path on the search for a package, where
the description of the package cannot be read, and where a path that is tried cannot be handed to
the system.

## Main definitions

- `Engine.IsAnswerable`: nothing keeps a lookup from being answered.
- `Engine.HasMalformedDescription`: a lookup comes to a malformed description.

## Main statements

- `Engine.result_find_cases`: the two ways in which a reference is looked for.
- `Engine.escapes_find_iff`: which lookups are not answered.
- `Engine.find_eq_manifest_iff`: which lookups report a manifest.
- `Engine.find_answered_iff`: which lookups are answered.
-/

namespace StyleImport

/-! ## First files -/

namespace Probe

open Disk

variable {d : Disk} {paths : List Path}

theorem not_isManifest_of_firstFile {failure : Failure}
    (h : (firstFile d paths).result = .error failure) : ¬failure.IsManifest := by
  induction paths with
  | nil => cases h
  | cons path rest ih =>
    rw [result_firstFile_cons, bind_eq_error_iff] at h
    rcases h with hfile | ⟨found, -, hrest⟩
    · cases hspeak : unspeakable? path.toText with
      | none =>
        rw [result_isFile (unspeakable?_eq_none_iff.mp hspeak)] at hfile
        cases hfile
      | some fault =>
        rw [result_isFile_of_unspeakable? hspeak] at hfile
        cases hfile
        exact not_isManifest_access fault
    · cases found with
      | true => cases hrest
      | false => exact ih hrest

/-- A search through a list of paths fails just if a path before the first file cannot be handed to
the system, and never because of a manifest. -/
theorem escapes_firstFile_iff :
    Escapes (firstFile d paths).result ↔
      ¬∀ path ∈ triedPaths d paths, IsSpeakable path.toText := by
  rw [escapes_iff_of_forall fun failure => not_isManifest_of_firstFile]
  simp only [firstFile_eq_ok_iff, exists_eq_left']

end Probe

namespace Engine

open Disk Package.Description

variable {e : Engine} {d : Disk} {reference file : Text}

/-! ## Lookups that are answered -/

/-- Nothing keeps a lookup from being answered. -/
structure IsAnswerable (e : Engine) (d : Disk) (reference : Reference) (file : Text) : Prop where
  /-- Nothing hinders the search for the package. -/
  package : ∀ dep, Dependency.parse? reference = some dep →
    Package.IsSearchable d e.projectRoot e.packageDirs dep.package
  /-- The description of the package, if it is needed, is missing or a regular file without an
  integer that has too many digits. -/
  description : ∀ dep directory, Dependency.parse? reference = some dep →
    Package.install? d e.projectRoot e.packageDirs dep.package = some directory →
      dep.subpath = [] → IsReadable d directory
  /-- All paths before the first file can be handed to the system, unless they are not known. -/
  speakable : (∀ dep directory, Dependency.parse? reference = some dep →
      Package.install? d e.projectRoot e.packageDirs dep.package = some directory →
        dep.subpath = [] → (Package.fields? d directory).isSome) →
    ∀ path ∈ Probe.triedPaths d (e.lookupPaths d reference file), IsSpeakable path.toText

/-- A lookup comes to the description of an installed package and finds that it is malformed. -/
def HasMalformedDescription (e : Engine) (d : Disk) (reference : Reference) (path : Text)
    (reason : Manifest.Reason) : Prop :=
  ∃ dep directory l bytes, Dependency.parse? reference = some dep ∧ dep.subpath = [] ∧
    Package.IsSearchable d e.projectRoot e.packageDirs dep.package ∧
    Package.install? d e.projectRoot e.packageDirs dep.package = some directory ∧
    path = (directory.child fileName).toText ∧ d.status path = .ok (l, .file bytes) ∧
    IsMalformed bytes reason

/-! ## The stages of a lookup -/

/-- A reference that names no package is looked for in the list of its paths, and any other one
inside a package. -/
theorem result_find_cases (hd : d.IsTree) (hfile : IsSpeakable file) :
    (Dependency.parse? reference = none ∧ (e.find d reference file).result =
        (Probe.firstFile d (e.lookupPaths d reference file)).result) ∨
      ∃ dep, Dependency.parse? reference = some dep ∧
        (e.find d reference file).result = (e.findDependency d reference).result := by
  unfold find
  by_cases hpackage : Reference.isDependency reference
  · rw [if_pos hpackage]
    cases hdep : Dependency.parse? reference with
    | some dep => exact .inr ⟨dep, rfl, rfl⟩
    | none =>
      refine .inl ⟨rfl, ?_⟩
      unfold findDependency
      rw [hdep, lookupPaths_of_malformed hpackage hdep]
      rfl
  · obtain ⟨directory, hdir, -⟩ := parentDirectory_eq_ok hd hfile
    have hpaths : e.lookupPaths d reference file = e.namedPaths (.ofText directory) reference := by
      unfold lookupPaths
      rw [if_neg hpackage, hdir]
    refine .inl ⟨parse?_of_classic hpackage, ?_⟩
    rw [if_neg hpackage, Traced.result_ofExcept_bind, hdir, hpaths]
    exact result_findClassic e d _ reference

/-- A lookup inside an installed package is answered just if its description can be read where it is
needed, and all paths before the first file can be handed to the system. -/
theorem not_escapes_inside_iff {dep : Dependency} {directory : Path} (file : Text)
    (hdep : Dependency.parse? reference = some dep)
    (hinstall : Package.install? d e.projectRoot e.packageDirs dep.package = some directory) :
    ¬Escapes ((Package.entryPaths d directory dep.subpath).bind fun names =>
        (e.findEntry d dep.package directory names).result) ↔
      (dep.subpath = [] → IsReadable d directory) ∧
        ((dep.subpath = [] → (Package.fields? d directory).isSome) →
          ∀ path ∈ Probe.triedPaths d (e.lookupPaths d reference file),
            IsSpeakable path.toText) := by
  rw [escapes_bind_iff, Package.escapes_entryPaths_iff, lookupPaths_of_installed hdep hinstall,
    not_or, not_and, not_not]
  simp only [Package.entryPaths_eq_ok_iff, result_findEntry, Probe.escapes_firstFile_iff]
  refine and_congr_right fun _ => ⟨fun h hfields => ?_, fun h => ?_⟩
  · by_contra hspeak
    exact h ⟨_, ⟨rfl, hfields⟩, hspeak⟩
  · rintro ⟨names, ⟨rfl, hfields⟩, hspeak⟩
    exact hspeak (h hfields)

/-! ## Lookups that are not answered -/

/-- A lookup of a package that is not installed is answered just if nothing hinders the search. -/
theorem isAnswerable_iff_of_missing {dep : Dependency}
    (hdep : Dependency.parse? reference = some dep)
    (hinstall : Package.install? d e.projectRoot e.packageDirs dep.package = none) :
    e.IsAnswerable d reference file ↔
      Package.IsSearchable d e.projectRoot e.packageDirs dep.package := by
  refine ⟨fun hanswer => hanswer.package dep hdep, fun hsearch => ⟨?_, ?_, fun _ => ?_⟩⟩
  · intro dep' hdep'
    cases hdep.symm.trans hdep'
    exact hsearch
  · intro dep' directory hdep' hinstall'
    cases hdep.symm.trans hdep'
    cases hinstall.symm.trans hinstall'
  · rw [lookupPaths_of_missing hdep hinstall]
    exact fun path hpath => by cases hpath

theorem isAnswerable_iff_of_installed {dep : Dependency} {directory : Path}
    (hdep : Dependency.parse? reference = some dep)
    (hinstall : Package.install? d e.projectRoot e.packageDirs dep.package = some directory) :
    e.IsAnswerable d reference file ↔
      Package.IsSearchable d e.projectRoot e.packageDirs dep.package ∧
        (dep.subpath = [] → IsReadable d directory) ∧
        ((dep.subpath = [] → (Package.fields? d directory).isSome) →
          ∀ path ∈ Probe.triedPaths d (e.lookupPaths d reference file),
            IsSpeakable path.toText) := by
  constructor
  · intro hanswer
    refine ⟨hanswer.package dep hdep, hanswer.description dep directory hdep hinstall, ?_⟩
    -- A reference names one package, and it is installed in one directory.
    refine fun hfields => hanswer.speakable fun dep' directory' hdep' hinstall' => ?_
    cases hdep.symm.trans hdep'
    cases hinstall.symm.trans hinstall'
    exact hfields
  · rintro ⟨hsearch, hread, hspeak⟩
    refine ⟨?_, ?_, fun hfields => hspeak (hfields dep directory hdep hinstall)⟩
    · intro dep' hdep'
      cases hdep.symm.trans hdep'
      exact hsearch
    · intro dep' directory' hdep' hinstall'
      cases hdep.symm.trans hdep'
      cases hinstall.symm.trans hinstall'
      exact hread

/-- A lookup inside a package is not answered just if something keeps it from being answered. -/
theorem escapes_findDependency_iff {dep : Dependency}
    (hdep : Dependency.parse? reference = some dep) :
    Escapes (e.findDependency d reference).result ↔ ¬e.IsAnswerable d reference file := by
  rw [result_findDependency hdep, escapes_bind_iff, Package.escapes_findDir_iff, ← not_iff_not,
    not_or, not_not, not_not]
  simp only [Package.findDir_eq_ok_iff]
  cases hinstall : Package.install? d e.projectRoot e.packageDirs dep.package with
  | none =>
    rw [isAnswerable_iff_of_missing hdep hinstall]
    refine and_iff_left ?_
    rintro ⟨directory?, ⟨rfl, -⟩, hrest⟩
    exact not_escapes_ok _ hrest
  | some directory =>
    rw [isAnswerable_iff_of_installed hdep hinstall, ← not_escapes_inside_iff file hdep hinstall]
    refine and_congr_right fun hsearch => not_congr ⟨?_, fun hescapes => ?_⟩
    · rintro ⟨directory?, ⟨rfl, -⟩, hrest⟩
      exact hrest
    · exact ⟨some directory, ⟨rfl, hsearch⟩, hescapes⟩

/-- A lookup is not answered just if something keeps it from being answered. -/
theorem escapes_find_iff (hd : d.IsTree) (hfile : IsSpeakable file) :
    Escapes (e.find d reference file).result ↔ ¬e.IsAnswerable d reference file := by
  rcases result_find_cases hd hfile with ⟨hdep, hresult⟩ | ⟨dep, hdep, hresult⟩
  · rw [hresult, Probe.escapes_firstFile_iff, not_iff_not]
    constructor
    · exact fun hspeak => ⟨by simp [hdep], by simp [hdep], fun _ => hspeak⟩
    · exact fun hanswer => hanswer.speakable (by simp [hdep])
  · rw [hresult]
    exact escapes_findDependency_iff hdep

/-! ## Lookups that report a manifest -/

/-- A lookup inside a package reports a manifest just if it comes to a malformed description. -/
theorem findDependency_eq_manifest_iff {dep : Dependency} {path : Text} {reason : Manifest.Reason}
    (hdep : Dependency.parse? reference = some dep) :
    (e.findDependency d reference).result = .error (.manifest path reason) ↔
      e.HasMalformedDescription d reference path reason := by
  rw [result_findDependency hdep, bind_eq_error_iff]
  constructor
  · rintro (hfind | ⟨directory?, hfind, hrest⟩)
    · exact absurd (isManifest_manifest path reason) (Package.not_isManifest_of_findDir hfind)
    · obtain ⟨hinstall, hsearch⟩ := Package.findDir_eq_ok_iff.mp hfind
      cases directory? with
      | none => cases hrest
      | some directory =>
        rcases bind_eq_error_iff.mp hrest with hentries | ⟨names, -, hentry⟩
        · obtain ⟨hsub, hpath, l, bytes, hstatus, hmalformed⟩ :=
            Package.entryPaths_eq_manifest_iff.mp hentries
          exact ⟨dep, directory, l, bytes, hdep, hsub, hsearch, hinstall, hpath, hstatus,
            hmalformed⟩
        · rw [result_findEntry] at hentry
          exact absurd (isManifest_manifest path reason) (Probe.not_isManifest_of_firstFile hentry)
  · rintro ⟨dep', directory, l, bytes, hdep', hsub, hsearch, hinstall, hpath, hstatus, hmalformed⟩
    cases hdep.symm.trans hdep'
    refine .inr ⟨some directory, Package.findDir_eq_ok_iff.mpr ⟨hinstall, hsearch⟩, ?_⟩
    exact bind_eq_error_iff.mpr (.inl (Package.entryPaths_eq_manifest_iff.mpr
      ⟨hsub, hpath, l, bytes, hstatus, hmalformed⟩))

/-- A lookup reports a manifest just if it comes to a malformed description. -/
theorem find_eq_manifest_iff (hd : d.IsTree) (hfile : IsSpeakable file) {path : Text}
    {reason : Manifest.Reason} :
    (e.find d reference file).result = .error (.manifest path reason) ↔
      e.HasMalformedDescription d reference path reason := by
  rcases result_find_cases hd hfile with ⟨hdep, hresult⟩ | ⟨dep, hdep, hresult⟩
  · rw [hresult]
    refine iff_of_false (fun h => ?_) ?_
    · exact Probe.not_isManifest_of_firstFile h (isManifest_manifest path reason)
    · rintro ⟨dep, directory, l, bytes, hdep', -⟩
      cases hdep.symm.trans hdep'
  · rw [hresult]
    exact findDependency_eq_manifest_iff hdep

/-! ## References that are no packages -/

/-- A reference to a file next to the importing one is always answered if its texts can be handed to
the system. -/
theorem isAnswerable_of_classic (hd : d.IsTree) (he : e.IsProper) (hfile : IsSpeakable file)
    (hreference : IsSpeakable reference) (hmarks : ∀ mark ∈ e.probe.marks, IsSpeakable mark)
    (hendings : ∀ ending ∈ e.probe.endings, IsSpeakable ending)
    (hclassic : ¬Reference.isDependency reference) : e.IsAnswerable d reference file := by
  have hdep := parse?_of_classic hclassic
  have hclear := isUnhindered_of_isSpeakable hd he hfile hreference hmarks hendings
    (by simp [hdep]) (by simp [hdep])
  exact ⟨hclear.package, by simp [hdep], fun _ => hclear.speakable⟩

/-! ## All lookups -/

/-- A lookup finds a file or none, or reports that the description of the package is malformed, just
if nothing keeps it from being answered. Only a reference to a package can be kept from that, unless
its texts cannot be handed to the system. -/
theorem find_answered_iff (hd : d.IsTree) (hfile : IsSpeakable file) :
    (((∃ found, (e.find d reference file).result = .ok found) ∨
        ∃ path reason, (e.find d reference file).result = .error (.manifest path reason) ∧
          e.HasMalformedDescription d reference path reason) ↔
      e.IsAnswerable d reference file) ∧
    (e.IsProper → IsSpeakable reference → (∀ mark ∈ e.probe.marks, IsSpeakable mark) →
      (∀ ending ∈ e.probe.endings, IsSpeakable ending) → ¬Reference.isDependency reference →
        e.IsAnswerable d reference file) := by
  constructor
  · rw [← not_iff_not, ← escapes_find_iff hd hfile, ← not_iff_not, not_not, not_escapes_iff]
    refine or_congr_right ⟨?_, ?_⟩
    · rintro ⟨path, reason, h, -⟩
      exact ⟨path, reason, h⟩
    · rintro ⟨path, reason, h⟩
      exact ⟨path, reason, h, (find_eq_manifest_iff hd hfile).mp h⟩
  · intro he hreference hmarks hendings hclassic
    exact isAnswerable_of_classic hd he hfile hreference hmarks hendings hclassic

/-! ## Packages with a broken description, and names that are too long -/

/-- A disk with one package, whose description breaks off. -/
def brokenDisk : Disk where
  entries := [(["node_modules"], .directory), (["node_modules", "k"], .directory),
    (["node_modules", "k", "package.json"], .file [91])]
  workingDirectory := some []

theorem brokenDisk_isTree : brokenDisk.IsTree := ⟨by decide, by decide, by decide, by decide⟩

theorem find_brokenDisk : (rootEngine.find brokenDisk "~k" "/m.scss").result =
    .error (.manifest "/node_modules/k/package.json" (.json (.grammar .value 1 2 1))) := by
  cbv

/-- The lookup of the package is answered: its description is reported. -/
theorem find_brokenDisk_answered : brokenDisk.IsTree ∧ IsSpeakable "/m.scss" ∧
    rootEngine.IsAnswerable brokenDisk "~k" "/m.scss" := by
  refine ⟨brokenDisk_isTree, by decide,
    (find_answered_iff brokenDisk_isTree (by decide)).1.mp (.inr ⟨_, _, find_brokenDisk, ?_⟩)⟩
  exact (find_eq_manifest_iff brokenDisk_isTree (by decide)).mp find_brokenDisk

/-- A disk with a directory for packages in which nothing is installed. -/
def bareDisk : Disk where
  entries := [(["node_modules"], .directory)]
  workingDirectory := some []

theorem bareDisk_isTree : bareDisk.IsTree := ⟨by decide, by decide, by decide, by decide⟩

/-- A name with one byte more than the system takes. -/
def overlongName : Text := List.replicate 256 (.scalar 'a')

set_option maxRecDepth 10000 in
/-- The lookup of a package with this name is not answered, although nothing is installed. -/
theorem find_bareDisk_escapes :
    bareDisk.IsTree ∧ rootEngine.IsProper ∧ IsSpeakable (.scalar '~' :: overlongName) ∧
      IsSpeakable "/m.scss" ∧
      Escapes (rootEngine.find bareDisk (.scalar '~' :: overlongName) "/m.scss").result := by
  have hfind : (rootEngine.find bareDisk (.scalar '~' :: overlongName) "/m.scss").result =
      .error (.access (.system .nameTooLong ("/node_modules/" ++ overlongName))) := by
    cbv
  refine ⟨bareDisk_isTree, rootEngine_isProper, by decide, by decide, ?_⟩
  rw [hfind, escapes_error_iff]
  exact not_isManifest_access _

end Engine

end StyleImport
