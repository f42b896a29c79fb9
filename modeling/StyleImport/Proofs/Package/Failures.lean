import StyleImport.Proofs.Manifest.Loading
import StyleImport.Proofs.Package

/-!
# Failures of the search for a package

The search for the directory of a package can only fail for reasons that are not about a manifest.
Reading the description of a package fails in two ways. A description that is a regular file but no
JSON document, or a document other than an object, is reported. Where anything but a regular file
stands, where the disk refuses the path, and where an integer has too many digits, it is not.

## Main definitions

- `Package.Description.IsReadable`: the descriptions whose failures are reported.
- `Package.Description.IsMalformed`: what is wrong with the bytes of a description.

## Main statements

- `Package.escapes_findDir_iff`: which searches fail.
- `Package.Description.read_cases`: what stands where a description should be.
- `Package.Description.escapes_read_iff`: which descriptions are not reported.
- `Package.Description.read_eq_manifest_iff`: which descriptions are reported.
- `Package.escapes_entryPaths_iff`, `Package.entryPaths_eq_manifest_iff`: the same for the names
  that are tried inside a package.
-/

namespace StyleImport

namespace Package

open Disk

variable {d : Disk} {project directory : Path} {given dirs : List Path} {name : Text}

/-! ## The directory of a package -/

theorem not_isManifest_of_firstDir {failure : Failure} (h : firstDir d name dirs = .error failure) :
    ¬failure.IsManifest := by
  induction dirs with
  | nil => cases h
  | cons dir rest ih =>
    rw [firstDir] at h
    split at h
    · cases h
      exact not_isManifest_access _
    · cases h
    · exact ih h

theorem not_isManifest_ofRealFault (fault : RealFault) :
    ¬(Failure.ofRealFault fault).IsManifest := by
  rintro ⟨path, reason, h⟩
  cases fault <;> cases h

theorem not_isManifest_of_findDir {failure : Failure}
    (h : findDir d project given name = .error failure) : ¬failure.IsManifest := by
  rw [findDir_eq_bind, bind_eq_error_iff] at h
  rcases h with hgiven | ⟨found, -, h⟩
  · exact not_isManifest_of_firstDir hgiven
  · cases found with
    | some dir => cases h
    | none =>
      -- Only behind the given directories the real path of the project is needed.
      rcases bind_eq_error_iff.mp h with hproject | ⟨dirs, -, hdirs⟩
      · unfold projectDirs at hproject
        split at hproject
        · cases hproject
        · cases hproject
          exact not_isManifest_ofRealFault _
      · exact not_isManifest_of_firstDir hdirs

/-- The search for a package fails just if something hinders it, and never because of a
manifest. -/
theorem escapes_findDir_iff :
    Escapes (findDir d project given name) ↔ ¬IsSearchable d project given name := by
  rw [escapes_iff_of_forall fun failure => not_isManifest_of_findDir]
  simp only [findDir_eq_ok_iff, exists_eq_left']

/-! ## The description of a package -/

namespace Description

/-- The description of the package in a directory is not there, or it is a regular file without an
integer that has too many digits. -/
inductive IsReadable (d : Disk) (directory : Path) : Prop
  /-- Nothing stands where the description should be. -/
  | absent {path : Text}
    (h : d.status (directory.child fileName).toText = .error (.system .notFound path))
  /-- A regular file stands there. -/
  | file {l : Location} {bytes : List UInt8}
    (h : d.status (directory.child fileName).toText = .ok (l, .file bytes))
    (hshort : ¬Manifest.HoldsOverlongInteger bytes)

/-- What is wrong with the bytes of a description. -/
inductive IsMalformed (bytes : List UInt8) : Manifest.Reason → Prop
  /-- They are no JSON document. -/
  | broken {reason : Manifest.Reason} (h : Manifest.IsBrokenJson bytes reason) :
    IsMalformed bytes reason
  /-- They are a JSON document, but no object. -/
  | notObject {cs : List Char} {v : Json} (hcs : Manifest.ReadsAs bytes cs)
    (h : Json.read cs = .ok v) (hv : ∀ fields, v ≠ .object fields) : IsMalformed bytes .notObject

/-- The disk does not give a JSON document where no regular file stands. -/
theorem readJson_of_status_error {path : Path} {fault : AccessFault}
    (h : d.status path.toText = .error fault) :
    Manifest.readJson d path = .error (.access fault) := by
  have hbytes : d.readBytes path = .error fault := by
    unfold readBytes
    rw [h]
  have htext : Manifest.readText d path = .error (.access fault) := by
    unfold Manifest.readText
    rw [hbytes]
  rw [Manifest.readJson_eq, htext]
  rfl

theorem readJson_of_not_file {path : Path} {l : Location} {entry : Entry}
    (h : d.status path.toText = .ok (l, entry)) (hentry : ∀ bytes, entry ≠ .file bytes) :
    Manifest.readJson d path = .error (.access (.system .isDirectory path.toText)) := by
  have hbytes : d.readBytes path = .error (.system .isDirectory path.toText) := by
    unfold readBytes
    rw [h]
    cases entry with
    | file bytes => exact absurd rfl (hentry bytes)
    | directory => rfl
    | link target => rfl
  have htext : Manifest.readText d path = .error (.access (.system .isDirectory path.toText)) := by
    unfold Manifest.readText
    rw [hbytes]
  rw [Manifest.readJson_eq, htext]
  rfl

/-- The description that a JSON document gives. -/
def ofDocument (directory : Path) : Json → Except Failure Description
  | .object fields => .ok (ofFields fields)
  | _ => .error (.manifest (directory.child fileName).toText .notObject)

theorem not_escapes_ofDocument (v : Json) : ¬Escapes (ofDocument directory v) := by
  cases v <;> simp [ofDocument]

/-- A description that is not missing is that of the document. -/
theorem read_eq_bind
    (h : ∀ path, Manifest.readJson d (directory.child fileName) ≠
      .error (.access (.system .notFound path))) :
    read d directory =
      (Manifest.readJson d (directory.child fileName)).bind (ofDocument directory) := by
  unfold read
  dsimp only
  generalize Manifest.readJson d (directory.child fileName) = r at h
  cases r with
  | ok v => cases v <;> rfl
  | error failure =>
    split
    · next path hfailure => exact absurd hfailure (h path)
    · next failure' _ hfailure =>
      cases hfailure
      rfl
    · next hfailure => cases hfailure
    · next hfailure => cases hfailure

theorem read_of_file {l : Location} {bytes : List UInt8}
    (h : d.status (directory.child fileName).toText = .ok (l, .file bytes)) :
    read d directory =
      (Manifest.readJson d (directory.child fileName)).bind (ofDocument directory) :=
  read_eq_bind fun _ => Manifest.readJson_ne_access h _

theorem read_of_readJson_error {fault : AccessFault}
    (h : Manifest.readJson d (directory.child fileName) = .error (.access fault))
    (hfault : ∀ path, fault ≠ .system .notFound path) :
    read d directory = .error (.access fault) := by
  have hne : ∀ path, Manifest.readJson d (directory.child fileName) ≠
      .error (.access (.system .notFound path)) := by
    intro path hpath
    cases h.symm.trans hpath
    exact hfault path rfl
  rw [read_eq_bind hne, h]
  rfl

theorem read_of_missing {path : Text}
    (h : d.status (directory.child fileName).toText = .error (.system .notFound path)) :
    read d directory = .ok empty := by
  unfold read
  dsimp only
  rw [readJson_of_status_error h]

/-- Where a description should be stands nothing, or a regular file, or else the disk refuses to
give it. -/
theorem read_cases (d : Disk) (directory : Path) :
    (∃ path, d.status (directory.child fileName).toText = .error (.system .notFound path)) ∨
      (∃ l bytes, d.status (directory.child fileName).toText = .ok (l, .file bytes)) ∨
      ¬IsReadable d directory ∧ ∃ fault, read d directory = .error (.access fault) := by
  rcases hstatus : d.status (directory.child fileName).toText with fault | ⟨l, entry⟩
  · by_cases hmissing : ∃ path, fault = .system .notFound path
    · obtain ⟨path, rfl⟩ := hmissing
      exact .inl ⟨path, rfl⟩
    · have hread := read_of_readJson_error (readJson_of_status_error hstatus)
        fun path hpath => hmissing ⟨path, hpath⟩
      refine .inr (.inr ⟨fun hreadable => ?_, fault, hread⟩)
      cases hreadable with
      | absent h => exact hmissing ⟨_, Except.error.inj (hstatus.symm.trans h)⟩
      | file h _ => cases hstatus.symm.trans h
  · by_cases hfile : ∃ bytes, entry = .file bytes
    · obtain ⟨bytes, rfl⟩ := hfile
      exact .inr (.inl ⟨l, bytes, rfl⟩)
    · have hjson := readJson_of_not_file hstatus fun bytes hbytes => hfile ⟨bytes, hbytes⟩
      have hread := read_of_readJson_error hjson fun path hpath => by cases hpath
      refine .inr (.inr ⟨fun hreadable => ?_, _, hread⟩)
      cases hreadable with
      | absent h => cases hstatus.symm.trans h
      | file h _ =>
        cases hstatus.symm.trans h
        exact hfile ⟨_, rfl⟩

/-- Reading a description is not reported just if the description is neither missing nor a regular
file without an integer that has too many digits. -/
theorem escapes_read_iff : Escapes (read d directory) ↔ ¬IsReadable d directory := by
  rcases read_cases d directory with ⟨path, hstatus⟩ | ⟨l, bytes, hstatus⟩ | ⟨hnot, fault, hread⟩
  · rw [read_of_missing hstatus]
    exact iff_of_false (not_escapes_ok _) (not_not.mpr (.absent hstatus))
  · rw [read_of_file hstatus, escapes_bind_iff, Manifest.escapes_readJson_iff hstatus]
    simp only [not_escapes_ofDocument, and_false, exists_false, or_false]
    constructor
    · rintro hlong hreadable
      cases hreadable with
      | absent h => cases hstatus.symm.trans h
      | file h hshort =>
        cases hstatus.symm.trans h
        exact hshort hlong
    · intro hnot
      by_contra hshort
      exact hnot (.file hstatus hshort)
  · rw [hread, escapes_error_iff]
    exact iff_of_true (not_isManifest_access fault) hnot

theorem ofDocument_eq_manifest_iff {v : Json} {p : Text} {reason : Manifest.Reason} :
    ofDocument directory v = .error (.manifest p reason) ↔
      (∀ fields, v ≠ .object fields) ∧ p = (directory.child fileName).toText ∧
        reason = .notObject := by
  cases v <;> simp [ofDocument, eq_comm]

/-- Reading a description is reported just if it is a malformed regular file, and then under the
path of this file. -/
theorem read_eq_manifest_iff {p : Text} {reason : Manifest.Reason} :
    read d directory = .error (.manifest p reason) ↔
      p = (directory.child fileName).toText ∧
        ∃ l bytes, d.status p = .ok (l, .file bytes) ∧ IsMalformed bytes reason := by
  constructor
  · -- A description that is missing or cannot be read is not reported under a path.
    intro hread
    rcases read_cases d directory with ⟨path, hstatus⟩ | ⟨l, bytes, hstatus⟩ | ⟨-, fault, hfault⟩
    · cases (read_of_missing hstatus).symm.trans hread
    · rw [read_of_file hstatus, bind_eq_error_iff] at hread
      rcases hread with hjson | ⟨v, hjson, hdocument⟩
      · obtain ⟨rfl, hbroken⟩ := (Manifest.readJson_eq_manifest_iff hstatus).mp hjson
        exact ⟨rfl, l, bytes, hstatus, .broken hbroken⟩
      · obtain ⟨cs, hcs, hv⟩ := (Manifest.readJson_eq_ok_iff hstatus).mp hjson
        obtain ⟨hobject, rfl, rfl⟩ := ofDocument_eq_manifest_iff.mp hdocument
        exact ⟨rfl, l, bytes, hstatus, .notObject hcs hv hobject⟩
    · cases hfault.symm.trans hread
  · rintro ⟨rfl, l, bytes, hstatus, hmalformed⟩
    rw [read_of_file hstatus, bind_eq_error_iff, Manifest.readJson_eq_manifest_iff hstatus]
    cases hmalformed with
    | broken hbroken => exact .inl ⟨rfl, hbroken⟩
    | notObject hcs hv hobject =>
      exact .inr ⟨_, (Manifest.readJson_eq_ok_iff hstatus).mpr ⟨_, hcs, hv⟩,
        ofDocument_eq_manifest_iff.mpr ⟨hobject, rfl, rfl⟩⟩

end Description

/-! ## The names inside a package -/

/-- The names that are tried inside a package are not known, and nothing is reported, just if the
description is needed and cannot be read. -/
theorem escapes_entryPaths_iff {subpath : Text} :
    Escapes (entryPaths d directory subpath) ↔
      subpath = [] ∧ ¬Description.IsReadable d directory := by
  unfold entryPaths
  by_cases hsub : subpath = []
  · rw [if_neg (not_not.mpr hsub), escapes_map_iff, Description.escapes_read_iff]
    exact (and_iff_right hsub).symm
  · rw [if_pos hsub]
    exact iff_of_false (not_escapes_ok _) fun h => hsub h.1

/-- The description is reported just if it is needed and malformed. -/
theorem entryPaths_eq_manifest_iff {subpath p : Text} {reason : Manifest.Reason} :
    entryPaths d directory subpath = .error (.manifest p reason) ↔
      subpath = [] ∧ p = (directory.child Description.fileName).toText ∧
        ∃ l bytes, d.status p = .ok (l, .file bytes) ∧ Description.IsMalformed bytes reason := by
  unfold entryPaths
  by_cases hsub : subpath = []
  · rw [if_neg (not_not.mpr hsub), ← Description.read_eq_manifest_iff, and_iff_right hsub]
    cases Description.read d directory with
    | ok p => simp [Except.map]
    | error failure => simp [Except.map]
  · rw [if_pos hsub]
    exact iff_of_false (fun h => by cases h) fun h => hsub h.1

end Package

end StyleImport
