import StyleImport.Proofs.Disk.Normal
import StyleImport.Proofs.Engine.Lookup
import StyleImport.Proofs.Engine.Resolve

/-!
# The source of a target

The source of a target is the normal form of the path of the file that was found. It names this
file just if it is not too long and working out the double dots does not change where the path
leads, which is so unless a double dot takes the name of a link away.

## Main statements

- `Engine.source_names_found_iff`: when the source of a target names the file that was found.
-/

namespace StyleImport

namespace Engine

open Disk

variable {e : Engine} {d d' : Disk} {reference file : Text} {found : Path} {t : Target}

theorem keeps_of_gives_resolve (h : (e.resolve reference file).Gives d (some t) d') :
    d.Keeps d' := by
  rw [← h.2]
  exact keeps_resolve e reference file d

/-- The path of the source is the normal form of the absolute path of the file that was found. -/
theorem sourcePath_eq_ok_iff {source : Text} :
    sourcePath d found = .ok source ↔
      ∃ full, d.absolute found = .ok full ∧ full.normal.toText = source := by
  unfold sourcePath
  cases d.absolute found <;> simp

/-- A file that was found has a source. -/
theorem exists_sourcePath (hd : d.IsTree) (he : e.IsProper)
    (hfind : (e.find d reference file).result = .ok (some found)) :
    ∃ source, sourcePath d found = .ok source := by
  obtain ⟨hmem, hholds⟩ := holdsFile_of_find hfind
  have hp : found.IsProper := lookupPaths_isProper hd he found hmem
  obtain ⟨l, entry, hstatus, -⟩ := holds_eq_true_iff.mp hholds
  obtain ⟨full, hfull⟩ := absolute_of_locate hp (status_eq_ok_of_locate.mp hstatus).1
  exact ⟨_, sourcePath_eq_ok_iff.mpr ⟨full, hfull, rfl⟩⟩

/-- The source of a target names the file that was found just if it is not too long and working out
the double dots keeps the way of the path. It does so if no link is taken back. -/
theorem source_names_found_iff (hd : d.IsTree) (he : e.IsProper)
    (h : (e.resolve reference file).Gives d (some t) d') :
    ∃ found full l bytes, (e.find d reference file).result = .ok (some found) ∧
      d.status found.toText = .ok (l, .file bytes) ∧ d.absolute found = .ok full ∧
      t.source = full.normal.toText ∧ t.source.head? = some (.scalar '/') ∧
      ((∃ bytes', d'.status t.source = .ok (l, .file bytes')) ↔
        byteCount t.source ≤ pathLimit ∧ d'.KeepsWay full) ∧
      (d.TakesNoLinkBack full → d'.KeepsWay full) := by
  have hk := keeps_of_gives_resolve h
  obtain ⟨found, hfind, hclassify⟩ := gives_resolve h
  obtain ⟨hsource, -⟩ := gives_classify hclassify
  obtain ⟨full, hfull, hsource⟩ := sourcePath_eq_ok_iff.mp hsource
  obtain ⟨hmem, hholds⟩ := holdsFile_of_find hfind
  have hp : found.IsProper := lookupPaths_isProper hd he found hmem
  obtain ⟨l, entry, hstatus, hentry⟩ := holds_eq_true_iff.mp hholds
  cases entry with
  | directory => cases hentry
  | link target => cases hentry
  | file bytes =>
    obtain ⟨hspeak, -, here, m, hhere, hleads, hfile⟩ := (status_eq_ok_iff hd.here hp).mp hstatus
    obtain ⟨habs, -⟩ := absolute_eq_ok hfull
    have hproper := absolute_isProper hd hp hfull
    have hspeakNormal : IsSpeakable full.normal.toText := by
      have hnames := (isSpeakable_toText hproper).mp (isSpeakable_absolute hd hp hfull hspeak)
      exact isSpeakable_toText_of_forall fun name hname => hnames name (Path.mem_normal_parts hname)
    -- The absolute path leads to the place that was looked at, before and after the step.
    obtain ⟨m', hway⟩ : ∃ m', d.Leads linkLimit [] full.parts m' l := by
      rw [← walk_eq_occupied_iff, walk_absolute hd hfull hhere]
      exact hleads.walk_eq
    have hway' := (hway.keeps hk).walk_eq
    have hhere' : d'.HasHere := HasHere.keeps hd.here hk
    obtain ⟨bytes', hfile'⟩ := hk.file l bytes hfile
    have hhead : full.normal.toText.head? = some (.scalar '/') :=
      (Path.head?_toText (Path.normal_isProper hproper)).mpr habs
    rw [hsource] at hhead
    refine ⟨found, full, l, bytes, hfind, hstatus, hfull, hsource.symm, hhead, ?_, fun hno =>
      keepsWay_of_takesNoLinkBack habs hproper hno hway hk⟩
    rw [← hsource, KeepsWay, hway']
    constructor
    · rintro ⟨bytes'', h⟩
      obtain ⟨-, hsize, root, m'', hroot, hnormal, -⟩ :=
        (status_eq_ok_iff hhere' (Path.normal_isProper hproper)).mp h
      cases (if_pos habs : d'.origin? full.normal = some []).symm.trans hroot
      exact ⟨hsize, hnormal.walk_eq⟩
    · rintro ⟨hsize, hwalk⟩
      obtain ⟨m'', hnormal⟩ := walk_eq_occupied_iff.mp hwalk
      exact ⟨bytes', (status_eq_ok_iff hhere' (Path.normal_isProper hproper)).mpr
        ⟨hspeakNormal, hsize, [], m'', if_pos habs, hnormal, hfile'⟩⟩

example : (Path.ofText "/p/l/../x.scss").normal = .ofText "/p/x.scss" := by cbv

/-! ## A double dot behind a link -/

/-- A disk with a link from one directory into another one. -/
def linkDisk : Disk where
  entries := [(["p"], .directory), (["p", "m.scss"], .file []), (["q"], .directory),
    (["q", "r"], .directory), (["q", "r", "y.scss"], .file [98]), (["q", "x.scss"], .file [97]),
    (["p", "l"], .link "../q/r")]
  workingDirectory := some []

theorem linkDisk_isTree : linkDisk.IsTree := ⟨by decide, by decide, by decide, by decide⟩

/-- The double dot leads out of the directory behind the link, but in the source it takes the name
of the link away, and nothing stands there. -/
theorem source_linkDisk_missing :
    linkDisk.IsTree ∧ rootEngine.IsProper ∧
      (rootEngine.find linkDisk "l/../x" "/p/m.scss").result =
        .ok (some (.ofText "/p/l/../x.scss")) ∧
      linkDisk.status "/p/l/../x.scss" = .ok (["q", "x.scss"], .file [97]) ∧
      (rootEngine.resolve "l/../x" "/p/m.scss").Gives linkDisk
        (some ⟨"/p/x.scss", .stylesheet, none, "/p/x.scss"⟩) linkDisk ∧
      linkDisk.status "/p/x.scss" = .error (.system .notFound "/p/x.scss") :=
  ⟨linkDisk_isTree, rootEngine_isProper, by cbv, by cbv, ⟨by cbv, by cbv⟩, by cbv⟩

/-- The source of a file behind the link names this file. -/
theorem source_linkDisk_behind :
    linkDisk.IsTree ∧ rootEngine.IsProper ∧
      (rootEngine.resolve "l/y" "/p/m.scss").Gives linkDisk
        (some ⟨"/p/l/y.scss", .stylesheet, none, "/p/l/y.scss"⟩) linkDisk ∧
      ∃ bytes, linkDisk.status "/p/l/y.scss" = .ok (["q", "r", "y.scss"], .file bytes) := by
  have hgives : (rootEngine.resolve "l/y" "/p/m.scss").Gives linkDisk
      (some ⟨"/p/l/y.scss", .stylesheet, none, "/p/l/y.scss"⟩) linkDisk := ⟨by cbv, by cbv⟩
  have hfound : (rootEngine.find linkDisk "l/y" "/p/m.scss").result =
      .ok (some (.ofText "/p/l/y.scss")) := by cbv
  have hplace : linkDisk.status (Path.ofText "/p/l/y.scss").toText =
      .ok (["q", "r", "y.scss"], .file [98]) := by cbv
  refine ⟨linkDisk_isTree, rootEngine_isProper, hgives, ?_⟩
  obtain ⟨found, full, l, bytes, hfind, hstatus, hfull, -, -, hnames, -⟩ :=
    source_names_found_iff linkDisk_isTree rootEngine_isProper hgives
  cases hfound.symm.trans hfind
  cases hplace.symm.trans hstatus
  cases hfull
  exact hnames.mpr ⟨by decide, by unfold KeepsWay; cbv⟩

end Engine

end StyleImport
