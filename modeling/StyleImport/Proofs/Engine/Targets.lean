import StyleImport.Proofs.Disk.Rewrite
import StyleImport.Proofs.Engine.Persistence
import StyleImport.Proofs.Engine.RootIndex
import StyleImport.Proofs.Engine.Source

/-!
# What targets say

The target of a reference is of just one of three kinds, which the ending of the file that was found
decides. A style sheet is handed over by its path alone, so its bytes do not matter, unless the same
file is also read as the description of a package on the way. A manifest is handed over as the
declarations made from its bytes, which are written to the temp area. Any other file is handed over
as its text. Scripts have no targets.

## Main definitions

- `Engine.Consults`: the description of a package is read from a place.
- `Engine.IsSheetTarget`, `Engine.IsManifestTarget`, `Engine.IsStaticTarget`: what targets of the
  three kinds say.
- `Engine.JustOne`: one of three statements holds, and no other.
- `Engine.sharedDisk`, `Engine.twistDisk`: disks on which other bytes matter than those of the file.

## Main statements

- `Engine.find_rewrites`: lookups do not depend on the bytes of files other than descriptions.
- `Engine.target_wellFormed`: a target is of just one of the three kinds.
-/

namespace StyleImport

/-! ## Kinds of files -/

namespace TargetKind

variable {suffix : Text}

theorem ofSuffix_eq_stylesheet_iff :
    ofSuffix suffix = .stylesheet ↔ suffix ∈ stylesheetSuffixes := by
  unfold ofSuffix
  rw [← List.contains_iff_mem]
  split_ifs <;> simp_all

theorem ofSuffix_eq_manifestData_iff :
    ofSuffix suffix = .manifestData ↔ suffix ∈ manifestSuffixes := by
  have hdisjoint : ∀ suffix ∈ manifestSuffixes, suffix ∉ stylesheetSuffixes := by decide
  unfold ofSuffix
  by_cases hsheet : stylesheetSuffixes.contains suffix
  · rw [if_pos hsheet]
    refine iff_of_false (by simp) fun hmem => ?_
    exact hdisjoint suffix hmem (List.contains_iff_mem.mp hsheet)
  · rw [if_neg hsheet, ← List.contains_iff_mem]
    split_ifs <;> simp_all

end TargetKind

namespace Engine

open Disk

variable {e : Engine} {d d' : Disk} {reference : Reference} {file : Text} {found : Path}
  {place : Location} {bytes : List UInt8} {t : Target}

/-! ## Lookups on files with other bytes -/

/-- The description of the package that a reference means is read from a place. -/
def Consults (e : Engine) (d : Disk) (reference : Reference) (place : Location) : Prop :=
  ∃ dep directory entry, Dependency.parse? reference = some dep ∧ dep.subpath = [] ∧
    Package.findDir d e.projectRoot e.packageDirs dep.package = .ok (some directory) ∧
      d.status (directory.child Package.Description.fileName).toText = .ok (place, entry)

theorem isFile_rewrites (h : Rewrites place d d') (path : Path) :
    Probe.isFile d' path = Probe.isFile d path := by
  unfold Probe.isFile status
  rcases h.statusBy_eq_or true path.toText with hsame | ⟨bytes, bytes', hold, hnew⟩
  · rw [hsame]
  · rw [hold, hnew]
    rfl

theorem parentDirectory_rewrites (h : Rewrites place d d') (file : Text) :
    parentDirectory d' file = parentDirectory d file := by
  rw [parentDirectory_eq, parentDirectory_eq]
  unfold normalize
  rw [h.existingPath_eq]

/-- A lookup finds the same whatever bytes a file has that is not read as the description of a
package. -/
theorem find_rewrites (h : Rewrites place d d') (hout : ¬e.Consults d reference place) :
    (e.find d' reference file).result = (e.find d reference file).result := by
  have hpaths : e.searchedPaths d' reference file = e.searchedPaths d reference file := by
    refine searchedPaths_congr (fun _ => parentDirectory_rewrites h file)
      (fun dep _ => Package.findDir_congr h.isDirectory_eq (h.realPath_eq _)) ?_
    intro dep directory hdep hdir
    refine Package.entryPaths_congr fun hsub => h.status_eq fun entry hentry => ?_
    exact hout ⟨dep, directory, entry, hdep, hsub, hdir, hentry⟩
  rw [result_find, result_find, hpaths]
  congr 1
  funext paths
  rw [Probe.firstFile_congr (isFile_rewrites h)]

/-! ## Targets of the three kinds -/

/-- What the target for a style sheet at a place says. -/
structure IsSheetTarget (e : Engine) (d : Disk) (reference : Reference) (file : Text)
    (found : Path) (place : Location) (t : Target) (d' : Disk) : Prop where
  /-- The file is a style sheet. -/
  suffix : found.suffix ∈ stylesheetSuffixes
  /-- The target names the file and holds no text. -/
  target : t = ⟨t.source, .stylesheet, none, t.source⟩
  /-- The disk stays as it is. -/
  disk : d' = d
  /-- The target is the same whatever bytes the file has, unless it is read on the way. -/
  bytes : ¬e.Consults d reference place → ∀ bytes,
    (e.resolve reference file).Gives (d.put place (.file bytes)) (some t)
      (d.put place (.file bytes))

/-- What the target for a manifest with the given bytes at a place says. -/
structure IsManifestTarget (e : Engine) (d : Disk) (found : Path) (place : Location)
    (bytes : List UInt8) (t : Target) (d' : Disk) (contents : Text) (encoded : List UInt8) :
    Prop where
  /-- The file is a manifest. -/
  suffix : found.suffix ∈ manifestSuffixes
  /-- The target is one for a manifest. -/
  kind : t.kind = .manifestData
  /-- The target holds the declarations. -/
  text : t.contents = some contents
  /-- These are the declarations made from the manifest before. -/
  declared : Manifest.declarations d found = .ok contents
  /-- They are made from the bytes of the file, if those of a script stand at its source. -/
  made : (Manifest.Format.ofSuffix? found.suffix = some .script →
    d.status t.source = .ok (place, .file bytes)) →
      Manifest.declarationsOf found bytes = .ok contents
  /-- The declarations have bytes. -/
  encodes : Utf8.encode? contents = .ok encoded
  /-- The target names the file for its source in the temp area. -/
  file : ∃ root, d'.absolute e.tempArea.root = .ok root ∧
    t.file = (root.child (TempArea.fileName t.source)).toText
  /-- A regular file with the bytes of the declarations stands there afterwards, and the target
  names it unless the name is too long. -/
  written : ∃ l, d'.status (e.tempArea.pathFor t.source).toText = .ok (l, .file encoded) ∧
    (d'.status t.file = .ok (l, .file encoded) ↔ byteCount t.file ≤ pathLimit)

/-- What the target for any other file with the given bytes says. -/
structure IsStaticTarget (d : Disk) (found : Path) (bytes : List UInt8) (t : Target) (d' : Disk) :
    Prop where
  /-- The file is neither a style sheet nor a manifest. -/
  suffix : found.suffix ∉ stylesheetSuffixes ∧ found.suffix ∉ manifestSuffixes
  /-- The target names the file and holds its text. -/
  target : t = ⟨t.source, .rawStatic,
    some (Text.ofChars (Utf8.unifyLineEnds (Utf8.decodeLenient bytes))), t.source⟩
  /-- The disk stays as it is. -/
  disk : d' = d

/-- Just one of three statements holds. -/
inductive JustOne (p q r : Prop) : Prop
  /-- The first one holds. -/
  | first (hp : p) (hq : ¬q) (hr : ¬r)
  /-- The second one holds. -/
  | second (hp : ¬p) (hq : q) (hr : ¬r)
  /-- The third one holds. -/
  | third (hp : ¬p) (hq : ¬q) (hr : r)

theorem IsSheetTarget.kind (h : IsSheetTarget e d reference file found place t d') :
    t.kind = .stylesheet := by
  rw [h.target]

theorem IsStaticTarget.kind (h : IsStaticTarget d found bytes t d') : t.kind = .rawStatic := by
  rw [h.target]

/-- A target says of what kind it is, so no target is of two kinds. -/
theorem justOne_of_or
    (h : IsSheetTarget e d reference file found place t d' ∨
      (∃ contents encoded, IsManifestTarget e d found place bytes t d' contents encoded) ∨
      IsStaticTarget d found bytes t d') :
    JustOne (IsSheetTarget e d reference file found place t d')
      (∃ contents encoded, IsManifestTarget e d found place bytes t d' contents encoded)
      (IsStaticTarget d found bytes t d') := by
  have hmanifest : (∃ contents encoded,
      IsManifestTarget e d found place bytes t d' contents encoded) → t.kind = .manifestData := by
    rintro ⟨contents, encoded, h⟩
    exact h.kind
  have hother {k k' : TargetKind} (hne : k ≠ k') (hk : t.kind = k) : ¬t.kind = k' :=
    fun hk' => hne (hk.symm.trans hk')
  rcases h with h | h | h
  · exact .first h (mt hmanifest (hother (by decide) h.kind))
      (mt IsStaticTarget.kind (hother (by decide) h.kind))
  · exact .second (mt IsSheetTarget.kind (hother (by decide) (hmanifest h))) h
      (mt IsStaticTarget.kind (hother (by decide) (hmanifest h)))
  · exact .third (mt IsSheetTarget.kind (hother (by decide) h.kind))
      (mt hmanifest (hother (by decide) h.kind)) h

/-- The target for a style sheet. -/
theorem isSheetTarget_of_gives (hstatus : d.status found.toText = .ok (place, .file bytes))
    (hfind : (e.find d reference file).result = .ok (some found))
    (hkind : TargetKind.ofSuffix found.suffix = .stylesheet)
    (h : (e.classify found).Gives d (some t) d') :
    IsSheetTarget e d reference file found place t d' := by
  obtain ⟨source, hsource, hscript, htarget⟩ := gives_classify_iff.mp h
  rw [hkind] at htarget
  obtain ⟨rfl, rfl⟩ := htarget
  refine ⟨TargetKind.ofSuffix_eq_stylesheet_iff.mp hkind, rfl, rfl, fun hout bytes' => ?_⟩
  have hrewrites := rewrites_put (status_eq_ok_of_locate.mp hstatus).2 bytes'
  refine gives_resolve_iff.mpr ⟨found, (find_rewrites hrewrites hout).trans hfind, ?_⟩
  refine gives_classify_iff.mpr ⟨source, ?_, hscript, ?_⟩
  · rw [sourcePath_congr hrewrites.keeps.here, hsource]
  · rw [hkind]
    exact ⟨rfl, rfl⟩

/-- The target for a manifest. -/
theorem isManifestTarget_of_gives (hd : d.IsTree) (he : e.IsProper)
    (hstatus : d.status found.toText = .ok (place, .file bytes))
    (hkind : TargetKind.ofSuffix found.suffix = .manifestData)
    (h : (e.classify found).Gives d (some t) d') :
    ∃ contents encoded, IsManifestTarget e d found place bytes t d' contents encoded := by
  obtain ⟨source, hsource, -, htarget⟩ := gives_classify_iff.mp h
  rw [hkind] at htarget
  obtain ⟨contents, written, full, hcontents, hwrite, hfull, rfl⟩ := htarget
  obtain ⟨l, encoded, hencode, hwritten, hfile⟩ :=
    TempArea.status_of_gives_write hd he.tempRoot hwrite hfull
  obtain ⟨rfl, -, -, -⟩ := TempArea.gives_write hwrite
  obtain ⟨root, hroot, rfl⟩ := TempArea.absolute_pathFor_iff.mp hfull
  refine ⟨contents, encoded, ⟨TargetKind.ofSuffix_eq_manifestData_iff.mp hkind, rfl, rfl,
    hcontents, fun hscript => ?_, hencode, ⟨root, hroot, rfl⟩, ⟨l, hwritten, hfile⟩⟩⟩
  rw [← Manifest.declarations_of_file hstatus fun hformat => ?_]
  · exact hcontents
  · obtain ⟨path, hpath, rfl⟩ := sourcePath_eq_ok_iff.mp hsource
    exact ⟨path, place, hpath, hscript hformat⟩

/-- The target for any other file. -/
theorem isStaticTarget_of_gives (hstatus : d.status found.toText = .ok (place, .file bytes))
    (hkind : TargetKind.ofSuffix found.suffix = .rawStatic)
    (h : (e.classify found).Gives d (some t) d') : IsStaticTarget d found bytes t d' := by
  obtain ⟨source, -, -, htarget⟩ := gives_classify_iff.mp h
  rw [hkind] at htarget
  obtain ⟨contents, hcontents, rfl, rfl⟩ := htarget
  have hbytes : d'.readBytes found = .ok bytes := by
    unfold readBytes
    rw [hstatus]
  unfold staticText at hcontents
  rw [hbytes] at hcontents
  cases hcontents
  refine ⟨⟨fun hmem => ?_, fun hmem => ?_⟩, rfl, rfl⟩
  · rw [TargetKind.ofSuffix_eq_stylesheet_iff.mpr hmem] at hkind
    cases hkind
  · rw [TargetKind.ofSuffix_eq_manifestData_iff.mpr hmem] at hkind
    cases hkind

/-- The target of a reference is that of the file that was found, which is no script. It is of just
one of three kinds, which the ending of the file decides. -/
theorem target_wellFormed (hd : d.IsTree) (he : e.IsProper)
    (h : (e.resolve reference file).Gives d (some t) d') :
    ∃ found place bytes, (e.find d reference file).result = .ok (some found) ∧
      d.status found.toText = .ok (place, .file bytes) ∧ sourcePath d found = .ok t.source ∧
      found.suffix ∉ scriptSuffixes ∧
      JustOne (IsSheetTarget e d reference file found place t d')
        (∃ contents encoded, IsManifestTarget e d found place bytes t d' contents encoded)
        (IsStaticTarget d found bytes t d') := by
  obtain ⟨found, hfind, hclassify⟩ := gives_resolve h
  obtain ⟨place, entry, hstatus, hentry⟩ := holds_eq_true_iff.mp (holdsFile_of_find hfind).2
  obtain ⟨-, -, hscript, -⟩ := gives_classify_iff.mp hclassify
  cases entry with
  | directory => cases hentry
  | link target => cases hentry
  | file bytes =>
    refine ⟨found, place, bytes, hfind, hstatus, (gives_classify hclassify).1,
      fun hmem => hscript (List.contains_iff_mem.mpr hmem), justOne_of_or ?_⟩
    cases hkind : TargetKind.ofSuffix found.suffix with
    | stylesheet => exact .inl (isSheetTarget_of_gives hstatus hfind hkind hclassify)
    | manifestData =>
      exact .inr (.inl (isManifestTarget_of_gives hd he hstatus hkind hclassify))
    | rawStatic => exact .inr (.inr (isStaticTarget_of_gives hstatus hkind hclassify))

theorem target_firstTarget :
    areaDisk.IsTree ∧ areaEngine.IsProper ∧
      (areaEngine.resolve "a-b.json" "/m.scss").Gives areaDisk (some firstTarget)
        (writtenDisk [36, 120, 58, 32, 97, 59]) ∧
      ∃ found place bytes,
        (areaEngine.find areaDisk "a-b.json" "/m.scss").result = .ok (some found) ∧
          areaDisk.status found.toText = .ok (place, .file bytes) ∧
          sourcePath areaDisk found = .ok firstTarget.source ∧ found.suffix ∉ scriptSuffixes ∧
          JustOne
            (IsSheetTarget areaEngine areaDisk "a-b.json" "/m.scss" found place firstTarget
              (writtenDisk [36, 120, 58, 32, 97, 59]))
            (∃ contents encoded, IsManifestTarget areaEngine areaDisk found place bytes firstTarget
              (writtenDisk [36, 120, 58, 32, 97, 59]) contents encoded)
            (IsStaticTarget areaDisk found bytes firstTarget
              (writtenDisk [36, 120, 58, 32, 97, 59])) := by
  have htree : areaDisk.IsTree := TempArea.isTree_of_reset twinDisk_isTree reset_twinDisk
  have hproper : areaEngine.IsProper := ⟨by decide, by decide, by decide⟩
  exact ⟨htree, hproper, gives_firstTarget, target_wellFormed htree hproper gives_firstTarget⟩

/-! ## Bytes that matter and bytes that do not -/

/-- A disk with a package whose description is its style sheet. The bytes are `{}`. -/
def sharedDisk : Disk where
  entries := [(["node_modules"], .directory), (["node_modules", "k"], .directory),
    (["node_modules", "k", "index.scss"], .file [123, 125]),
    (["node_modules", "k", "package.json"], .link "index.scss")]
  workingDirectory := some []

/-- The style sheet has a target as long as its bytes are a description. -/
theorem gives_sharedDisk :
    (rootEngine.resolve "~k" "/m.scss").Gives sharedDisk
        (some ⟨"/node_modules/k/index.scss", .stylesheet, none, "/node_modules/k/index.scss"⟩)
        sharedDisk ∧
      (rootEngine.resolve "~k" "/m.scss"
        (sharedDisk.put ["node_modules", "k", "index.scss"] (.file [97]))).1.result =
          .error (.manifest "/node_modules/k/package.json" (.json (.grammar .value 1 1 0))) := by
  have htree : sharedDisk.IsTree := ⟨by decide, by decide, by decide, by decide⟩
  have hdir : Package.findDir sharedDisk rootEngine.projectRoot rootEngine.packageDirs "k" =
      .ok (some (.ofText "/node_modules/k")) := by cbv
  have hfields : Package.fields? sharedDisk (.ofText "/node_modules/k") = some [] := by cbv
  have hfind : (rootEngine.find sharedDisk "~k" "/m.scss").result =
      .ok (some (.ofText "/node_modules/k/index.scss")) := by
    rw [find_bare htree rootEngine_isProper rfl parse?_bare rfl hdir hfields rfl]
    cbv
  have hsource : sourcePath sharedDisk (.ofText "/node_modules/k/index.scss") =
      .ok "/node_modules/k/index.scss" := by cbv
  refine ⟨gives_resolve_iff.mpr ⟨_, hfind, ?_⟩, by cbv⟩
  exact gives_classify_iff.mpr ⟨_, hsource, by decide, rfl, rfl⟩

/-- A disk with a link to a directory beside a script. The script beside the link is `exports={}`,
the other one is empty. -/
def twistDisk : Disk where
  entries := [(["p"], .directory), (["p", "m.scss"], .file []), (["p", "l"], .link "../q/r"),
    (["p", "x.py"], .file [101, 120, 112, 111, 114, 116, 115, 61, 123, 125]),
    (["q"], .directory), (["q", "r"], .directory), (["q", "x.py"], .file []), (["t"], .directory)]
  workingDirectory := some []

/-- The empty script is found behind the link, but the declarations are made from the other one. -/
theorem gives_twistDisk :
    (areaEngine.resolve "l/../x.py" "/p/m.scss").Gives twistDisk
        (some ⟨"/t/_p_x_py.scss", .manifestData, some [], "/p/x.py"⟩)
        (twistDisk.put ["t", "_p_x_py.scss"] (.file [])) ∧
      (areaEngine.find twistDisk "l/../x.py" "/p/m.scss").result =
        .ok (some (.ofText "/p/l/../x.py")) ∧
      twistDisk.status "/p/l/../x.py" = .ok (["q", "x.py"], .file []) ∧
      Manifest.declarationsOf (.ofText "/p/l/../x.py") [] ≠ .ok [] := by
  have hfind : (areaEngine.find twistDisk "l/../x.py" "/p/m.scss").result =
      .ok (some (.ofText "/p/l/../x.py")) := by cbv
  have hsource : sourcePath twistDisk (.ofText "/p/l/../x.py") = .ok "/p/x.py" := by cbv
  -- The script is read at its absolute path, in which the double dot takes the link away.
  have hread : Manifest.readScriptBytes twistDisk (.ofText "/p/l/../x.py") =
      .ok [101, 120, 112, 111, 114, 116, 115, 61, 123, 125] := by cbv
  have hcontents : Manifest.declarations twistDisk (.ofText "/p/l/../x.py") = .ok [] := by
    rw [Manifest.declarations_of_export (Manifest.export_of_script rfl hread)]
    decide +kernel
  have hwrite : (areaEngine.tempArea.write "/p/x.py" []).Gives twistDisk
      (.ofText "/t/_p_x_py.scss") (twistDisk.put ["t", "_p_x_py.scss"] (.file [])) :=
    ⟨by cbv, by cbv⟩
  have hfull : (twistDisk.put ["t", "_p_x_py.scss"] (.file [])).absolute
      (.ofText "/t/_p_x_py.scss") = .ok (.ofText "/t/_p_x_py.scss") := by cbv
  have hstatus : twistDisk.status "/p/l/../x.py" = .ok (["q", "x.py"], .file []) := by cbv
  have hother : Manifest.declarationsOf (.ofText "/p/l/../x.py") [] ≠ .ok [] := by decide +kernel
  exact ⟨gives_resolve_of_manifest hfind hsource (by decide) hcontents hwrite hfull, hfind,
    hstatus, hother⟩

/-- The bytes of a style sheet matter if the description of its package is the same file, and those
of a script do not matter if its source is another one. -/
theorem target_bytes_matter :
    ((rootEngine.resolve "~k" "/m.scss").Gives sharedDisk
        (some ⟨"/node_modules/k/index.scss", .stylesheet, none, "/node_modules/k/index.scss"⟩)
        sharedDisk ∧
      (rootEngine.resolve "~k" "/m.scss"
        (sharedDisk.put ["node_modules", "k", "index.scss"] (.file [97]))).1.result =
          .error (.manifest "/node_modules/k/package.json" (.json (.grammar .value 1 1 0)))) ∧
      (areaEngine.resolve "l/../x.py" "/p/m.scss").Gives twistDisk
        (some ⟨"/t/_p_x_py.scss", .manifestData, some [], "/p/x.py"⟩)
        (twistDisk.put ["t", "_p_x_py.scss"] (.file [])) ∧
      (areaEngine.find twistDisk "l/../x.py" "/p/m.scss").result =
        .ok (some (.ofText "/p/l/../x.py")) ∧
      twistDisk.status "/p/l/../x.py" = .ok (["q", "x.py"], .file []) ∧
      Manifest.declarationsOf (.ofText "/p/l/../x.py") [] ≠ .ok [] :=
  ⟨gives_sharedDisk, gives_twistDisk⟩

end Engine

end StyleImport
