import StyleImport.Proofs.Engine.Resolve

/-!
# What stays in the temp area

Once the temp area has been emptied, resolving references only writes files into it. At the end of
a run each file holds what was written to its place last. The file of a target still holds its
declarations just if no later request has written others to the same place, which belongs to all
sources whose file names are the same.

## Main definitions

- `Engine.resolveAll`: the disk after a run.
- `Engine.lastWritten`: what a run writes to a place last.

## Main statements

- `Engine.entry?_resolve`: what stands at a place after a step.
- `Engine.entry?_resolveAll`: what stands at a place after a run.
- `Engine.persisted_intact_iff`: when the file of a target holds its declarations after a run.
-/

namespace StyleImport

namespace Engine

open Disk

variable {e : Engine} {d d' : Disk} {reference file : Text} {t : Target} {l : Location}

/-! ## One step -/

/-- What resolving a reference writes to a place. -/
def writtenAt? (e : Engine) (d : Disk) (reference : Reference) (file : Text) (l : Location) :
    Option (List UInt8) :=
  match e.persisted? d reference file with
  | none => none
  | some (source, contents) =>
    if d.writable? (e.tempArea.pathFor source) = some l then some (writtenBytes contents) else none

/-- Resolving a reference while the temp area is there writes at most the file for one source. -/
theorem disk_resolve_of_holdsDirectory (h : d.holdsDirectory e.tempArea.root) :
    (e.resolve reference file d).2 =
      match e.persisted? d reference file with
      | none => d
      | some (source, contents) => (d.writeText (e.tempArea.pathFor source) contents).disk := by
  rw [disk_resolve]
  cases e.persisted? d reference file with
  | none => rfl
  | some x => exact TempArea.write_of_holdsDirectory h

theorem grows_resolve (h : d.holdsDirectory e.tempArea.root) :
    d.Grows (e.resolve reference file d).2 := by
  rw [disk_resolve_of_holdsDirectory h]
  split
  · exact .refl d
  · exact grows_writeText d _ _

/-- After a step there stands at a place what the step has written to it, or else what stood there
before. -/
theorem entry?_resolve (h : d.holdsDirectory e.tempArea.root) (hl : l ≠ []) :
    Disk.entry? (e.resolve reference file d).2 l =
      match e.writtenAt? d reference file l with
      | some bytes => some (.file bytes)
      | none => d.entry? l := by
  rw [disk_resolve_of_holdsDirectory h]
  unfold writtenAt?
  cases e.persisted? d reference file with
  | none => rfl
  | some x =>
    dsimp only
    rw [writeText_disk]
    cases hplace : d.writable? (e.tempArea.pathFor x.1) with
    | none => simp
    | some l' =>
      dsimp only
      rw [entry?_put d l' _ hl]
      by_cases hsame : l = l'
      · simp [hsame]
      · simp [hsame, Ne.symm hsame]

/-! ## Runs -/

/-- The disk after references in files have been resolved one after the other. -/
def resolveAll (e : Engine) : List (Reference × Text) → Disk → Disk
  | [], d => d
  | (reference, file) :: rest, d => e.resolveAll rest (e.resolve reference file d).2

/-- What is written last to a place when references are resolved one after the other. -/
def lastWritten (e : Engine) (l : Location) : List (Reference × Text) → Disk → Option (List UInt8)
  | [], _ => none
  | (reference, file) :: rest, d =>
    (e.lastWritten l rest (e.resolve reference file d).2).or (e.writtenAt? d reference file l)

/-- A run keeps a disk a tree. -/
theorem isTree_resolveAll (hd : d.IsTree) (e : Engine) (requests : List (Reference × Text)) :
    (e.resolveAll requests d).IsTree := by
  induction requests generalizing d with
  | nil => exact hd
  | cons request rest ih =>
    have hstep : (e.resolve request.1 request.2 d).2.IsTree := isTree_resolve hd e _ _
    exact ih hstep

/-- A run that starts with the temp area there only writes files. -/
theorem grows_resolveAll (h : d.holdsDirectory e.tempArea.root)
    (requests : List (Reference × Text)) :
    d.Grows (e.resolveAll requests d) := by
  induction requests generalizing d with
  | nil => exact .refl d
  | cons request rest ih =>
    have hstep : d.Grows (e.resolve request.1 request.2 d).2 := grows_resolve h
    exact hstep.trans (ih (holdsDirectory_grows hstep h))

/-- After a run there stands at a place what was written to it last, or else what stood there
before. -/
theorem entry?_resolveAll (h : d.holdsDirectory e.tempArea.root) (hl : l ≠ [])
    (requests : List (Reference × Text)) :
    Disk.entry? (e.resolveAll requests d) l =
      match e.lastWritten l requests d with
      | some bytes => some (.file bytes)
      | none => d.entry? l := by
  induction requests generalizing d with
  | nil => rfl
  | cons request rest ih =>
    have hstep : d.Grows (e.resolve request.1 request.2 d).2 := grows_resolve h
    rw [resolveAll, lastWritten, ih (holdsDirectory_grows hstep h)]
    cases e.lastWritten l rest (e.resolve request.1 request.2 d).2 with
    | some bytes => rfl
    | none => exact entry?_resolve h hl

/-- What resolving a reference to a manifest leaves behind while the temp area is there. -/
theorem gives_resolve_manifest (h : d.holdsDirectory e.tempArea.root)
    (hgives : (e.resolve reference file).Gives d (some t) d') (hkind : t.kind = .manifestData) :
    ∃ contents bytes l full, t.contents = some contents ∧ Utf8.encode? contents = .ok bytes ∧
      d.writable? (e.tempArea.pathFor t.source) = some l ∧ d' = d.put l (.file bytes) ∧
      d'.absolute (e.tempArea.pathFor t.source) = .ok full ∧ t.file = full.toText := by
  obtain ⟨found, -, hclassify⟩ := gives_resolve hgives
  obtain ⟨-, ⟨hother, -⟩ | ⟨-, contents, written, full, hcontents, -, hwrite, hfull, hfile⟩⟩ :=
    gives_classify hclassify
  · exact absurd hkind hother
  · obtain ⟨rfl, -, hfault, hdisk⟩ := TempArea.gives_write hwrite
    rw [makeDirectories_of_holdsDirectory h] at hfault hdisk
    obtain ⟨hencode, l, hplace⟩ := of_writeText_fault_eq_none hfault
    rw [writeText_disk, hplace] at hdisk
    exact ⟨contents, _, l, full, hcontents, hencode, hplace, hdisk.symm, hfull, hfile⟩

/-- After the temp area has been emptied, the file of a target for a manifest holds its declarations
at the end of a run just if its path is not too long and what was written last to its place is the
same. If no double dot is in the path of the temp area, this place belongs to all sources with the
same file name, and to no others. -/
theorem persisted_intact_iff {d₀ : Disk} {before after : List (Reference × Text)}
    (he : e.tempArea.root.IsProper) (hd : d₀.IsTree) (hreset : e.tempArea.reset.Gives d₀ () d)
    (h : (e.resolve reference file).Gives (e.resolveAll before d) (some t) d')
    (hkind : t.kind = .manifestData) :
    ∃ contents bytes l, t.contents = some contents ∧ Utf8.encode? contents = .ok bytes ∧
      d.writable? (e.tempArea.pathFor t.source) = some l ∧
      ((∃ l', (e.resolveAll after d').status t.file = .ok (l', .file bytes)) ↔
        byteCount t.file ≤ pathLimit ∧
          ∀ written, e.lastWritten l after d' = some written → written = bytes) ∧
      ((∀ name ∈ e.tempArea.root.parts, name ≠ "..") →
        ∀ source, d.writable? (e.tempArea.pathFor source) = some l ↔
          TempArea.fileName source = TempArea.fileName t.source) := by
  have hd' := TempArea.isTree_of_reset hd hreset
  have hroot := TempArea.holdsDirectory_of_reset hreset
  have hbefore := grows_resolveAll hroot before
  have hroot₁ := holdsDirectory_grows hbefore hroot
  obtain ⟨contents, bytes, l, full, hcontents, hencode, hplace, rfl, hfull, hfile⟩ :=
    gives_resolve_manifest hroot₁ h hkind
  rw [writable?_grows hd' hbefore] at hplace
  refine ⟨contents, bytes, l, hcontents, hencode, hplace, ?_, fun hdots source =>
    TempArea.writable?_pathFor_iff hd'.here he (TempArea.holdsEmpty_of_reset hd he hdots hreset)
      hplace⟩
  -- The place is none of a directory, so it is not the root.
  have hl : l ≠ [] := by
    rintro rfl
    exact absurd (isFile_of_writable? hplace (entry?_nil d)) (by decide)
  have hwrite : (e.resolveAll before d).Grows ((e.resolveAll before d).put l (.file bytes)) := by
    rw [← h.2]
    exact grows_resolve hroot₁
  have hroot₂ := holdsDirectory_grows hwrite hroot₁
  have hafter := grows_resolveAll hroot₂ after
  have hgrows := (hbefore.trans hwrite).trans hafter
  have hentry : Disk.entry? (e.resolveAll after ((e.resolveAll before d).put l (.file bytes))) l =
      some (.file bytes) ↔ ∀ written,
        e.lastWritten l after ((e.resolveAll before d).put l (.file bytes)) = some written →
          written = bytes := by
    rw [entry?_resolveAll hroot₂ hl]
    cases e.lastWritten l after ((e.resolveAll before d).put l (.file bytes)) with
    | some written => simp
    | none => simp [entry?_put _ l _ hl]
  -- The working directory is still the one in which the path of the file was made absolute.
  have habsolute : d.absolute (e.tempArea.pathFor t.source) = .ok full := by
    rw [← absolute_congr (hbefore.trans hwrite).here]
    exact hfull
  have hpath := TempArea.pathFor_isProper he t.source
  rw [← hentry, hfile]
  simp only [status_eq_ok_iff_of_grows hgrows,
    place?_absolute hd' hpath habsolute (place?_of_writable? hplace)]
  constructor
  · rintro ⟨l', ⟨hsize, rfl⟩, hbytes⟩
    exact ⟨hsize, hbytes⟩
  · rintro ⟨hsize, hbytes⟩
    exact ⟨l, ⟨hsize, rfl⟩, hbytes⟩

/-- Two sources with the same file name, and a root for which nothing is said about them. -/
example : TempArea.fileName "/a-b.json" = TempArea.fileName "/a_b.json" ∧
    (Path.ofText "/t/../u").parts.contains ".." := by cbv

/-! ## Two sources with the same file name -/

/-- A disk with two manifests whose names differ in a sign that file names do not keep. The first
one is `{"x":"a"}` and the second one `{"y":"b"}`. -/
def twinDisk : Disk where
  entries := [(["m.scss"], .file []), (["a-b.json"], .file [123, 34, 120, 34, 58, 34, 97, 34, 125]),
    (["a_b.json"], .file [123, 34, 121, 34, 58, 34, 98, 34, 125])]
  workingDirectory := some []

theorem twinDisk_isTree : twinDisk.IsTree := ⟨by decide, by decide, by decide, by decide⟩

/-- An engine whose temp area lies at the root. -/
def areaEngine : Engine where
  tempArea := ⟨.ofText "/t"⟩
  projectRoot := .ofText "/"
  packageDirs := []
  probe := .standard

/-- The disk after the temp area has been emptied. -/
def areaDisk : Disk := twinDisk.put ["t"] .directory

/-- The disk after the file for both manifests has been written. -/
def writtenDisk (bytes : List UInt8) : Disk := areaDisk.put ["t", "_a_b_json.scss"] (.file bytes)

theorem reset_twinDisk : areaEngine.tempArea.reset.Gives twinDisk () areaDisk := ⟨by cbv, by cbv⟩

/-- The target for the first manifest. -/
def firstTarget : Target := ⟨"/t/_a_b_json.scss", .manifestData, some "$x: a;", "/a-b.json"⟩

theorem gives_firstTarget : (areaEngine.resolve "a-b.json" "/m.scss").Gives areaDisk
    (some firstTarget) (writtenDisk [36, 120, 58, 32, 97, 59]) := by
  have hfind : (areaEngine.find areaDisk "a-b.json" "/m.scss").result =
      .ok (some (.ofText "/a-b.json")) := by cbv
  have hsource : sourcePath areaDisk (.ofText "/a-b.json") = .ok "/a-b.json" := by cbv
  have hcontents : Manifest.declarations areaDisk (.ofText "/a-b.json") = .ok "$x: a;" := by cbv
  have hwrite : (areaEngine.tempArea.write "/a-b.json" "$x: a;").Gives areaDisk
      (.ofText "/t/_a_b_json.scss") (writtenDisk [36, 120, 58, 32, 97, 59]) := ⟨by cbv, by cbv⟩
  exact gives_resolve_of_manifest hfind hsource (by decide) hcontents hwrite rfl

/-- Resolving the second manifest writes its declarations to the file of the first one. -/
theorem persisted_twin_lost :
    twinDisk.IsTree ∧ areaEngine.tempArea.reset.Gives twinDisk () areaDisk ∧
      (areaEngine.resolve "a-b.json" "/m.scss").Gives areaDisk (some firstTarget)
        (writtenDisk [36, 120, 58, 32, 97, 59]) ∧
      Utf8.encode? "$x: a;" = .ok [36, 120, 58, 32, 97, 59] ∧
      (areaEngine.resolveAll [("a_b.json", "/m.scss")]
        (writtenDisk [36, 120, 58, 32, 97, 59])).status firstTarget.file =
          .ok (["t", "_a_b_json.scss"], .file [36, 121, 58, 32, 98, 59]) := by
  refine ⟨twinDisk_isTree, reset_twinDisk, gives_firstTarget, by cbv, ?_⟩
  have hpersisted : areaEngine.persisted? (writtenDisk [36, 120, 58, 32, 97, 59]) "a_b.json"
      "/m.scss" = some (Text.ofString "/a_b.json", Text.ofString "$y: b;") := by cbv
  rw [resolveAll, resolveAll, disk_resolve, hpersisted]
  cbv

/-- Resolving a style sheet afterwards leaves the file of the first manifest as it is. -/
theorem persisted_single_intact :
    areaEngine.tempArea.root.IsProper ∧ twinDisk.IsTree ∧
      areaEngine.tempArea.reset.Gives twinDisk () areaDisk ∧
      (areaEngine.resolve "a-b.json" "/m.scss").Gives areaDisk (some firstTarget)
        (writtenDisk [36, 120, 58, 32, 97, 59]) ∧
      ∃ l, (areaEngine.resolveAll [("m.scss", "/m.scss")]
        (writtenDisk [36, 120, 58, 32, 97, 59])).status firstTarget.file =
          .ok (l, .file [36, 120, 58, 32, 97, 59]) := by
  refine ⟨by decide, twinDisk_isTree, reset_twinDisk, gives_firstTarget, ?_⟩
  have hpersisted : areaEngine.persisted? (writtenDisk [36, 120, 58, 32, 97, 59]) "m.scss"
      "/m.scss" = none := by cbv
  have hencode : Utf8.encode? "$x: a;" = .ok [36, 120, 58, 32, 97, 59] := by cbv
  obtain ⟨contents, bytes, l, hcontents, hbytes, -, hintact, -⟩ :=
    persisted_intact_iff (by decide) twinDisk_isTree reset_twinDisk
      (show (areaEngine.resolve "a-b.json" "/m.scss").Gives (areaEngine.resolveAll [] areaDisk) _ _
        from gives_firstTarget) rfl
  cases hcontents
  cases hencode.symm.trans hbytes
  refine hintact.mpr ⟨by decide, fun written hwritten => ?_⟩
  simp [lastWritten, writtenAt?, hpersisted] at hwritten

end Engine

end StyleImport
