import StyleImport.Proofs.Engine.Persistence
import StyleImport.Proofs.Engine.Source
import StyleImport.Proofs.Text.Scalars

/-!
# Manifests that are resolved

Once the temp area has been emptied, a manifest whose declarations can be made is resolved just if a
file can be written for its source. The name of this file holds the whole path of the source, so a
source whose path is too long for a name has none.

## Main statements

- `Engine.resolve_manifest_of_writable?`: manifests whose declarations can be written.
- `Engine.manifest_resolved_iff`: which manifests are resolved.
-/

namespace StyleImport

theorem Manifest.declarations_of_render {d : Disk} {path : Path} {entries : List (Value × Value)}
    {contents : Text} (hload : load d path = .ok entries)
    (hrender : Declarations.render entries = .ok contents) :
    declarations d path = .ok contents := by
  show (load d path).bind _ = _
  rw [hload]
  show (Declarations.render entries).mapError _ = _
  rw [hrender]
  rfl

namespace Engine

open Disk

variable {e : Engine} {d : Disk} {reference file source contents : Text} {found : Path}

/-- A manifest is resolved if its declarations can be written while the temp area is there. -/
theorem resolve_manifest_of_writable? {l : Location} {bytes : List UInt8}
    (he : e.tempArea.root.IsProper) (hroot : d.holdsDirectory e.tempArea.root)
    (hfind : (e.find d reference file).result = .ok (some found))
    (hsource : sourcePath d found = .ok source)
    (hkind : TargetKind.ofSuffix found.suffix = .manifestData)
    (hcontents : Manifest.declarations d found = .ok contents)
    (hbytes : Utf8.encode? contents = .ok bytes)
    (hplace : d.writable? (e.tempArea.pathFor source) = some l) :
    ∃ full, (e.resolve reference file).Gives d
      (some ⟨full, .manifestData, some contents, source⟩) (d.put l (.file bytes)) := by
  have hpath := TempArea.pathFor_isProper he source
  have hwrite := TempArea.gives_write_of_writable? hroot hplace hbytes
  obtain ⟨full, hfull⟩ := absolute_of_writable? hpath hplace
  -- The file is written in the same working directory.
  have hfull' : (d.put l (.file bytes)).absolute (e.tempArea.pathFor source) = .ok full := by
    rw [absolute_congr rfl]
    exact hfull
  exact ⟨full.toText, gives_resolve_of_manifest hfind hsource hkind hcontents hwrite hfull'⟩

/-- Resolving fails if no file can be written for the source of the manifest that was found. -/
theorem result_resolve_of_not_writable? (hroot : d.holdsDirectory e.tempArea.root)
    (hfind : (e.find d reference file).result = .ok (some found))
    (hsource : sourcePath d found = .ok source)
    (hkind : TargetKind.ofSuffix found.suffix = .manifestData)
    (hcontents : Manifest.declarations d found = .ok contents)
    (hplace : d.writable? (e.tempArea.pathFor source) = none) :
    ∃ fault, (e.resolve reference file d).1.result = .error (.access fault) := by
  obtain ⟨fault, hwrite⟩ := TempArea.result_write_of_not_writable? contents hroot hplace
  refine ⟨fault, ?_⟩
  rw [result_resolve_manifest hfind hsource hkind, hcontents]
  dsimp only [Except.bind]
  rw [result_persist, hwrite]
  rfl

/-- After the temp area has been emptied, a manifest that was found, whose declarations can be made
and have bytes, is resolved just if a file can be written for its source, and otherwise resolving
fails. If no double dot is in the path of the temp area, a file can be written just if the path of
the source has no more than 250 code points and the path of the file is not too long. -/
theorem manifest_resolved_iff {d₀ : Disk} {entries : List (Value × Value)} (he : e.IsProper)
    (hd : d₀.IsTree) (hreset : e.tempArea.reset.Gives d₀ () d)
    (hfind : (e.find d reference file).result = .ok (some found))
    (hkind : TargetKind.ofSuffix found.suffix = .manifestData)
    (hload : Manifest.load d found = .ok entries)
    (hrender : Declarations.render entries = .ok contents)
    (hscalars : ∀ c ∈ contents, ¬c.isSurrogate) :
    ∃ source, sourcePath d found = .ok source ∧
      ((∃ full d', (e.resolve reference file).Gives d
          (some ⟨full, .manifestData, some contents, source⟩) d') ↔
        (d.writable? (e.tempArea.pathFor source)).isSome) ∧
      (d.writable? (e.tempArea.pathFor source) = none →
        ∃ fault, (e.resolve reference file d).1.result = .error (.access fault)) ∧
      ((∀ name ∈ e.tempArea.root.parts, name ≠ "..") →
        ((d.writable? (e.tempArea.pathFor source)).isSome ↔
          source.length ≤ 250 ∧ byteCount (e.tempArea.pathFor source).toText ≤ pathLimit)) := by
  have hd' := TempArea.isTree_of_reset hd hreset
  have hroot := TempArea.holdsDirectory_of_reset hreset
  have hcontents := Manifest.declarations_of_render hload hrender
  obtain ⟨source, hsource⟩ := exists_sourcePath hd' he hfind
  obtain ⟨bytes, hbytes⟩ := Utf8.exists_encode? hscalars
  have hfails := result_resolve_of_not_writable? hroot hfind hsource hkind hcontents
  refine ⟨source, hsource, ⟨?_, ?_⟩, hfails, fun hdots => ?_⟩
  · rintro ⟨full, d', h⟩
    rw [Option.isSome_iff_ne_none]
    intro hnone
    obtain ⟨fault, hfault⟩ := hfails hnone
    cases h.1.symm.trans hfault
  · intro hsome
    obtain ⟨l, hplace⟩ := Option.isSome_iff_exists.mp hsome
    obtain ⟨full, h⟩ := resolve_manifest_of_writable? he.tempRoot hroot hfind hsource hkind
      hcontents hbytes hplace
    exact ⟨full, _, h⟩
  · have hempty := TempArea.holdsEmpty_of_reset hd he.tempRoot hdots hreset
    -- The name of the file is the path of the source with an ending of five characters.
    have hlimit : source.length ≤ 250 ↔ source.length + 5 ≤ nameLimit := by
      unfold nameLimit
      omega
    rw [hlimit]
    exact TempArea.writable?_pathFor_isSome_iff hd'.here he.tempRoot hempty

/-! ## A source whose path is too long for a name -/

/-- A name of 250 letters and an ending, which has as many bytes as a name may have. -/
def lengthyName : Text := List.append (List.replicate 250 (.scalar 'a')) ".json"

/-- The path of a file with this name. -/
def lengthyPath : Path := ⟨.root, [lengthyName]⟩

/-- A disk with one manifest under this name, which is the empty object. -/
def lengthyDisk : Disk where
  entries := [([lengthyName], .file [123, 125])]
  workingDirectory := some []

set_option maxRecDepth 10000 in
theorem lengthyDisk_isTree : lengthyDisk.IsTree := ⟨by decide, by decide, by decide, by decide⟩

theorem areaEngine_isProper : areaEngine.IsProper := ⟨by decide, by decide, by decide⟩

/-- The disk after the temp area has been emptied. -/
def lengthyAreaDisk : Disk := lengthyDisk.put ["t"] .directory

set_option maxRecDepth 10000 in
theorem reset_lengthyDisk : areaEngine.tempArea.reset.Gives lengthyDisk () lengthyAreaDisk :=
  ⟨by cbv, by cbv⟩

set_option maxRecDepth 10000 in
theorem find_lengthyDisk : (areaEngine.find lengthyAreaDisk lengthyName "/m.scss").result =
    .ok (some lengthyPath) := by
  cbv

set_option maxRecDepth 10000 in
/-- The manifest is found and its declarations can be made, but it is not resolved. -/
theorem lengthy_manifest_fails :
    lengthyDisk.IsTree ∧ areaEngine.IsProper ∧
      areaEngine.tempArea.reset.Gives lengthyDisk () lengthyAreaDisk ∧
      (areaEngine.find lengthyAreaDisk lengthyName "/m.scss").result = .ok (some lengthyPath) ∧
      TargetKind.ofSuffix lengthyPath.suffix = .manifestData ∧
      Manifest.load lengthyAreaDisk lengthyPath = .ok [] ∧ Declarations.render [] = .ok [] ∧
      ∃ fault, (areaEngine.resolve lengthyName "/m.scss" lengthyAreaDisk).1.result =
        .error (.access fault) := by
  have hkind : TargetKind.ofSuffix lengthyPath.suffix = .manifestData := by decide
  have hload : Manifest.load lengthyAreaDisk lengthyPath = .ok [] := by cbv
  have hcontents := Manifest.declarations_of_render hload rfl
  have hempty := TempArea.holdsEmpty_of_reset lengthyDisk_isTree areaEngine_isProper.tempRoot
    (by decide) reset_lengthyDisk
  have hplace : lengthyAreaDisk.writable? (areaEngine.tempArea.pathFor lengthyPath.toText) =
      none := by
    rw [← Option.not_isSome_iff_eq_none, TempArea.writable?_pathFor_isSome_iff
      (TempArea.isTree_of_reset lengthyDisk_isTree reset_lengthyDisk).here
      areaEngine_isProper.tempRoot hempty]
    exact fun hshort => absurd hshort.1 (by decide)
  exact ⟨lengthyDisk_isTree, areaEngine_isProper, reset_lengthyDisk, find_lengthyDisk, hkind,
    hload, rfl, result_resolve_of_not_writable? (TempArea.holdsDirectory_of_reset reset_lengthyDisk)
      find_lengthyDisk rfl hkind hcontents hplace⟩

/-- A manifest with a short name is resolved. -/
theorem short_manifest_resolved :
    areaEngine.IsProper ∧ twinDisk.IsTree ∧
      areaEngine.tempArea.reset.Gives twinDisk () areaDisk ∧
      ∃ full d', (areaEngine.resolve "a-b.json" "/m.scss").Gives areaDisk
        (some ⟨full, .manifestData, some "$x: a;", "/a-b.json"⟩) d' := by
  have hfind : (areaEngine.find areaDisk "a-b.json" "/m.scss").result =
      .ok (some (.ofText "/a-b.json")) := by cbv
  have hload : Manifest.load areaDisk (.ofText "/a-b.json") =
      .ok [(.text "x", .text "a")] := by cbv
  have hrender : Declarations.render [(.text "x", .text "a")] = .ok "$x: a;" := by cbv
  have hpath : sourcePath areaDisk (.ofText "/a-b.json") = .ok "/a-b.json" := by cbv
  obtain ⟨source, hsource, hresolved, -, hshort⟩ :=
    manifest_resolved_iff areaEngine_isProper twinDisk_isTree reset_twinDisk hfind (by decide)
      hload hrender (by decide)
  cases hpath.symm.trans hsource
  exact ⟨areaEngine_isProper, twinDisk_isTree, reset_twinDisk,
    hresolved.mpr ((hshort (by decide)).mpr ⟨by decide, by decide⟩)⟩

end Engine

end StyleImport
