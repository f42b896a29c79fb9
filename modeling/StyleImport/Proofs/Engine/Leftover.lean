import StyleImport.Proofs.Disk.Missing
import StyleImport.Proofs.Engine.Persistence
import StyleImport.Proofs.Failure

/-!
# What a failed request leaves behind

A request that fails before it comes to writing leaves the disk as it is, and so does one that finds
a manifest or the description of a package malformed. A request that fails while it writes may leave
two things behind: directories that were missing on the path of the temp area, and an empty file for
the source, also where a file for this source was written before.

## Main definitions

- `Disk.Same`: the same stands at every place of two disks.

## Main statements

- `Engine.failure_iff_of_persisted?`: what fails after the declarations have been made.
- `Engine.disk_resolve_of_isManifest`: requests that report a manifest.
- `Engine.failed_resolve_unchanged_iff`: when a failed request leaves the disk as it is.
-/

namespace StyleImport

/-- The same stands at every place of two disks, and they have the same working directory. -/
structure Disk.Same (d d' : Disk) : Prop where
  /-- What stands there. -/
  entry : ∀ l, d'.entry? l = d.entry? l
  /-- The working directory. -/
  here : d'.workingDirectory = d.workingDirectory

/-- Putting a file at a place changes nothing just if this file stands there. -/
theorem Disk.same_put_iff {d : Disk} {l : Location} {entry : Entry} (hl : l ≠ []) :
    d.Same (d.put l entry) ↔ d.entry? l = some entry := by
  constructor
  · intro h
    rw [← h.entry l, entry?_put d l entry hl, if_pos rfl]
  · intro hentry
    refine ⟨fun l' => ?_, rfl⟩
    by_cases hroot : l' = []
    · rw [hroot, entry?_nil, entry?_nil]
    · rw [entry?_put d l entry hroot]
      split
      · next hsame => rw [hsame, hentry]
      · rfl

/-! ## Writing that fails -/

namespace TempArea

open Disk

variable {a : TempArea} {d : Disk} {source text : Text} {failure : Failure}

/-- What fails while a text is written is no manifest. -/
theorem not_isManifest_of_write (h : (a.write source text d).1.result = .error failure) :
    ¬failure.IsManifest := by
  rw [result_write] at h
  split at h
  · cases h
    exact not_isManifest_access _
  · split at h
    · cases h
      exact not_isManifest_access _
    · cases h

/-- A directory that was missing on the path of the temp area is there after writing, whatever comes
of it. -/
theorem not_same_write_of_isMissing (hd : d.HasHere) (ha : a.root.IsProper)
    (hmissing : d.IsMissing a.root) : ¬d.Same (a.write source text d).2 := by
  obtain ⟨l, hnone, hmade⟩ := exists_made_of_isMissing hd ha hmissing
  have hkept : entry? (a.write source text d).2 l = some .directory := by
    rw [disk_write]
    split
    · exact (grows_writeText _ _ _).directory l hmade
    · exact hmade
  intro hsame
  rw [hsame.entry l, hnone] at hkept
  cases hkept

theorem holdsDirectory_of_writable?_pathFor (hd : d.IsTree) (ha : a.root.IsProper) {l : Location}
    (h : d.writable? (a.pathFor source) = some l) : d.holdsDirectory a.root := by
  have hproper := pathFor_isProper ha source
  rw [pathFor_eq] at h hproper
  exact holdsDirectory_of_writable? hd hproper h

/-- Writing into a temp area that is there and failing leaves the disk as it is just if the file for
the source is not there to be written, or is empty. -/
theorem failed_write_same_iff_of_holdsDirectory (hroot : d.holdsDirectory a.root)
    (h : (a.write source text d).1.result = .error failure) :
    d.Same (a.write source text d).2 ↔
      ∀ l, d.writable? (a.pathFor source) = some l → d.entry? l = some (.file []) := by
  rw [write_of_holdsDirectory hroot, writeText_disk]
  cases hplace : d.writable? (a.pathFor source) with
  | none => exact iff_of_true ⟨fun _ => rfl, rfl⟩ fun l hl => by cases hl
  | some l =>
    rw [result_write, makeDirectories_of_holdsDirectory hroot] at h
    cases hwritten : (d.writeText (a.pathFor source) text).fault with
    | none => simp [hwritten] at h
    | some fault =>
      have hl : l ≠ [] := by
        rintro rfl
        exact absurd (isFile_of_writable? hplace (entry?_nil d)) (by decide)
      simp only [Option.some.injEq, forall_eq', writtenBytes_of_fault hplace hwritten]
      exact same_put_iff hl

/-- Writing that fails leaves the disk as it is just if no directory is missing on the path of the
temp area and the file for the source is not there to be written, or is empty. -/
theorem failed_write_same_iff (hd : d.IsTree) (ha : a.root.IsProper)
    (h : (a.write source text d).1.result = .error failure) :
    d.Same (a.write source text d).2 ↔
      ¬d.IsMissing a.root ∧
        ∀ l, d.writable? (a.pathFor source) = some l → d.entry? l = some (.file []) := by
  by_cases hmissing : d.IsMissing a.root
  · exact iff_of_false (not_same_write_of_isMissing hd.here ha hmissing) fun hnot => hnot.1 hmissing
  · rw [and_iff_right hmissing]
    have hdisk := makeDirectories_of_not_isMissing ha hmissing
    cases hfault : (d.makeDirectories a.root).fault with
    | some fault =>
      have hsame : (a.write source text d).2 = d := by
        rw [disk_write, hfault]
        exact hdisk
      rw [hsame]
      refine iff_of_true ⟨fun _ => rfl, rfl⟩ fun l hplace => ?_
      -- A file could only be written into a directory that is there.
      have hroot := holdsDirectory_of_writable?_pathFor hd ha hplace
      rw [makeDirectories_of_holdsDirectory hroot] at hfault
      cases hfault
    | none =>
      have hroot := holdsDirectory_of_makeDirectories hfault
      rw [hdisk] at hroot
      exact failed_write_same_iff_of_holdsDirectory hroot h

end TempArea

namespace Engine

open Disk

variable {e : Engine} {d : Disk} {reference file source contents : Text} {failure : Failure}

/-! ## Requests that come to writing -/

theorem of_persisted? (h : e.persisted? d reference file = some (source, contents)) :
    ∃ found, (e.find d reference file).result = .ok (some found) ∧
      sourcePath d found = .ok source ∧ TargetKind.ofSuffix found.suffix = .manifestData ∧
      Manifest.declarations d found = .ok contents := by
  unfold persisted? at h
  split at h
  · next found hfind =>
    unfold persistedOf? at h
    split at h
    · next hkind =>
      split at h
      · next source' contents' hsource hcontents =>
        cases h
        exact ⟨found, hfind, hsource, hkind, hcontents⟩
      · cases h
    · cases h
  · cases h

/-- After the declarations have been made a request fails just as writing them does. -/
theorem failure_iff_of_persisted? (he : e.tempArea.root.IsProper)
    (hpersisted : e.persisted? d reference file = some (source, contents)) :
    (e.resolve reference file d).1.result = .error failure ↔
      (e.tempArea.write source contents d).1.result = .error failure := by
  obtain ⟨found, hfind, hsource, hkind, hcontents⟩ := of_persisted? hpersisted
  rw [result_resolve_manifest hfind hsource hkind, hcontents]
  dsimp only [Except.bind]
  rw [result_persist]
  constructor
  · intro h
    rcases bind_eq_error_iff.mp h with hwrite | ⟨written, hwrite, h⟩
    · exact hwrite
    · -- A file that has been written has an absolute path.
      obtain ⟨rfl, -, hfault, hdisk⟩ := TempArea.gives_write ⟨hwrite, rfl⟩
      obtain ⟨-, l, hplace⟩ := of_writeText_fault_eq_none hfault
      have hpath := TempArea.pathFor_isProper he source
      obtain ⟨full, hfull⟩ := absolute_of_writable? hpath hplace
      rw [← absolute_congr (grows_writeText _ _ contents).here, hdisk] at hfull
      rw [hfull] at h
      cases h
  · intro hwrite
    rw [hwrite]
    rfl

/-- A request that reports a manifest leaves the disk as it is. -/
theorem disk_resolve_of_isManifest (he : e.tempArea.root.IsProper)
    (h : (e.resolve reference file d).1.result = .error failure) (hmanifest : failure.IsManifest) :
    (e.resolve reference file d).2 = d := by
  rw [disk_resolve]
  cases hpersisted : e.persisted? d reference file with
  | none => rfl
  | some x =>
    have hwrite := (failure_iff_of_persisted? he hpersisted).mp h
    exact absurd hmanifest (TempArea.not_isManifest_of_write hwrite)

/-- A request that fails leaves the disk as it is just if it does not come to writing, or if no
directory is missing on the path of the temp area and the file for the source is not there to be
written, or is empty. It does so whenever it reports a manifest. -/
theorem failed_resolve_unchanged_iff (hd : d.IsTree) (he : e.tempArea.root.IsProper)
    (h : (e.resolve reference file d).1.result = .error failure) :
    (d.Same (e.resolve reference file d).2 ↔
      ∀ source contents, e.persisted? d reference file = some (source, contents) →
        ¬d.IsMissing e.tempArea.root ∧
          ∀ l, d.writable? (e.tempArea.pathFor source) = some l → d.entry? l = some (.file [])) ∧
    (failure.IsManifest → (e.resolve reference file d).2 = d) := by
  refine ⟨?_, disk_resolve_of_isManifest he h⟩
  rw [disk_resolve]
  cases hpersisted : e.persisted? d reference file with
  | none => exact iff_of_true ⟨fun _ => rfl, rfl⟩ fun source contents hnone => by cases hnone
  | some x =>
    obtain ⟨source, contents⟩ := x
    have hwrite := (failure_iff_of_persisted? he hpersisted).mp h
    dsimp only
    rw [TempArea.failed_write_same_iff hd he hwrite]
    constructor
    · intro hsame source' contents' hx
      cases hx
      exact hsame
    · intro hsame
      exact hsame source contents rfl

/-! ## A lone surrogate in a manifest that was resolved before -/

/-- A disk on which the declarations of a manifest have been written, after which its value has
become a lone surrogate: the manifest is `\x7b"a":"\ud800"\x7d`. Another manifest breaks off. -/
def surrogateDisk : Disk where
  entries := [
    (["t.json"], .file [123, 34, 97, 34, 58, 34, 92, 117, 100, 56, 48, 48, 34, 125]),
    (["u.json"], .file [91]), (["t"], .directory),
    (["t", "_t_json.scss"], .file [36, 97, 58, 32, 98, 59])]
  workingDirectory := some []

theorem surrogateDisk_isTree : surrogateDisk.IsTree :=
  ⟨by decide, by decide, by decide, by decide⟩

/-- The declarations of this manifest, which cannot be encoded. -/
def surrogateContents : Text :=
  [.scalar '$', .scalar 'a', .scalar ':', .scalar ' ', .surrogate ⟨0, by decide⟩, .scalar ';']

theorem persisted?_surrogateDisk : areaEngine.persisted? surrogateDisk "t.json" "/m.scss" =
    some (Text.ofString "/t.json", surrogateContents) := by
  cbv

/-- The request fails, and the declarations that were written before are lost. -/
theorem failed_resolve_empties :
    surrogateDisk.IsTree ∧ areaEngine.tempArea.root.IsProper ∧
      (∃ fault, (areaEngine.resolve "t.json" "/m.scss" surrogateDisk).1.result =
        .error (.access (.unencodable fault))) ∧
      surrogateDisk.entry? ["t", "_t_json.scss"] = some (.file [36, 97, 58, 32, 98, 59]) ∧
      Disk.entry? (areaEngine.resolve "t.json" "/m.scss" surrogateDisk).2 ["t", "_t_json.scss"] =
        some (.file []) := by
  refine ⟨surrogateDisk_isTree, by decide, ⟨⟨4, [.surrogate 0]⟩, ?_⟩, by decide, ?_⟩
  · rw [failure_iff_of_persisted? (by decide) persisted?_surrogateDisk]
    cbv
  · rw [disk_resolve, persisted?_surrogateDisk]
    cbv

/-- A manifest that breaks off is reported, and the disk stays as it is. -/
theorem failed_resolve_leaves :
    surrogateDisk.IsTree ∧ areaEngine.tempArea.root.IsProper ∧
      (areaEngine.resolve "u.json" "/m.scss" surrogateDisk).1.result =
        .error (.manifest "/u.json" (.json (.grammar .value 1 2 1))) ∧
      (areaEngine.resolve "u.json" "/m.scss" surrogateDisk).2 = surrogateDisk := by
  have hfind : (areaEngine.find surrogateDisk "u.json" "/m.scss").result =
      .ok (some (.ofText "/u.json")) := by cbv
  have hsource : sourcePath surrogateDisk (.ofText "/u.json") = .ok "/u.json" := by cbv
  have hdeclarations : Manifest.declarations surrogateDisk (.ofText "/u.json") =
      .error (.manifest "/u.json" (.json (.grammar .value 1 2 1))) := by cbv
  have hresult := result_resolve_of_declarations hfind hsource (by decide) hdeclarations
  exact ⟨surrogateDisk_isTree, by decide, hresult,
    (failed_resolve_unchanged_iff surrogateDisk_isTree (by decide) hresult).2
      (isManifest_manifest _ _)⟩

end Engine

end StyleImport
