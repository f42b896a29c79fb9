import StyleImport.Proofs.Engine.Persistence
import StyleImport.Proofs.TempArea.Contents

/-!
# Where resolving writes

After the temp area has been emptied, resolving references changes nothing outside it, and all that
comes into it are files for declarations. This needs that nothing else was left in it: a path with a
double dot may name another directory once the directories above it have been made, and what lies in
that one stays.

## Main statements

- `Engine.frame_resolve`: what one request changes.
- `Engine.frame_resolveAll`: what a run changes.
- `Engine.frame_iff_holdsOnlyFiles`: when this is so for every run after the area was emptied.
-/

namespace StyleImport

namespace Engine

open Disk TempArea

variable {e : Engine} {d d' : Disk} {reference file : Text} {top : Location}

/-! ## One step -/

/-- The temp area is at its place and holds nothing but files for declarations. -/
structure HasCleanArea (e : Engine) (d : Disk) (top : Location) : Prop where
  /-- Where the temp area is. -/
  root : d.status e.tempArea.root.toText = .ok (top, .directory)
  /-- What is in it. -/
  files : HoldsOnlyFiles d top

theorem HasCleanArea.holdsDirectory (h : e.HasCleanArea d top) :
    d.holdsDirectory e.tempArea.root :=
  holds_eq_true_iff.mpr ⟨top, .directory, h.root, rfl⟩

/-- Resolving a reference changes nothing outside the temp area, and still nothing but files for
declarations is in it. -/
theorem frame_resolve (he : e.tempArea.root.IsProper) (hd : d.IsTree) (h : e.HasCleanArea d top) :
    SameOutside top d (e.resolve reference file d).2 ∧
      e.HasCleanArea (e.resolve reference file d).2 top := by
  have hframe : SameOutside top d (e.resolve reference file d).2 ∧
      HoldsOnlyFiles (e.resolve reference file d).2 top := by
    rw [disk_resolve_of_holdsDirectory h.holdsDirectory]
    cases e.persisted? d reference file with
    | none => exact ⟨.refl top d, h.files⟩
    | some x => exact frame_writeText hd.here he h.root h.files x.1 x.2
  exact ⟨hframe.1, status_root_of_grows (grows_resolve h.holdsDirectory) h.root, hframe.2⟩

/-! ## Runs -/

/-- A run changes nothing outside the temp area, and still nothing but files for declarations is in
it. -/
theorem frame_resolveAll (he : e.tempArea.root.IsProper) (hd : d.IsTree)
    (h : e.HasCleanArea d top) (requests : List (Reference × Text)) :
    SameOutside top d (e.resolveAll requests d) ∧ e.HasCleanArea (e.resolveAll requests d) top := by
  induction requests generalizing d with
  | nil => exact ⟨.refl top d, h⟩
  | cons request rest ih =>
    obtain ⟨hsame, hclean⟩ : SameOutside top d (e.resolve request.1 request.2 d).2 ∧
        e.HasCleanArea (e.resolve request.1 request.2 d).2 top := frame_resolve he hd h
    obtain ⟨hsame', hclean'⟩ := ih (isTree_resolve hd e request.1 request.2) hclean
    exact ⟨hsame.trans hsame', hclean'⟩

/-- After the temp area has been emptied it is at its place, and nothing is in it if no double dot
is in its path. -/
theorem exists_area_of_reset {d₀ : Disk} (he : e.tempArea.root.IsProper) (hd : d₀.IsTree)
    (hreset : e.tempArea.reset.Gives d₀ () d) :
    ∃ top, d.status e.tempArea.root.toText = .ok (top, .directory) ∧
      ((∀ name ∈ e.tempArea.root.parts, name ≠ "..") → e.HasCleanArea d top) := by
  obtain ⟨top, entry, hroot, hdir⟩ := holds_eq_true_iff.mp (holdsDirectory_of_reset hreset)
  have hentry : entry = .directory := by
    cases entry with
    | directory => rfl
    | file bytes => cases hdir
    | link target => cases hdir
  subst hentry
  refine ⟨top, hroot, fun hdots => ⟨hroot, ?_⟩⟩
  exact holdsOnlyFiles_of_holdsEmpty (isTree_of_reset hd hreset)
    (holdsEmpty_of_reset hd he hdots hreset) hroot

/-- After the temp area has been emptied, every run changes nothing outside it and leaves nothing
but files for declarations in it, just if nothing else was in it at the start. This is so if no
double dot is in its path. -/
theorem frame_iff_holdsOnlyFiles {d₀ : Disk} (he : e.tempArea.root.IsProper) (hd : d₀.IsTree)
    (hreset : e.tempArea.reset.Gives d₀ () d) :
    ∃ top, d.status e.tempArea.root.toText = .ok (top, .directory) ∧
      ((∀ requests, (e.resolveAll requests d).status e.tempArea.root.toText =
            .ok (top, .directory) ∧
          SameOutside top d (e.resolveAll requests d) ∧
          HoldsOnlyFiles (e.resolveAll requests d) top) ↔
        HoldsOnlyFiles d top) ∧
      ((∀ name ∈ e.tempArea.root.parts, name ≠ "..") → HoldsOnlyFiles d top) := by
  obtain ⟨top, hroot, hclean⟩ := exists_area_of_reset he hd hreset
  refine ⟨top, hroot, ⟨fun h => (h []).2.2, fun honly requests => ?_⟩,
    fun hdots => (hclean hdots).files⟩
  obtain ⟨hsame, harea⟩ :=
    frame_resolveAll he (isTree_of_reset hd hreset) ⟨hroot, honly⟩ requests
  exact ⟨harea.root, hsame, harea.files⟩

/-! ## A temp area behind a double dot -/

/-- A disk with two manifests, `{"x":"a"}` and `{"y":"b"}`, and a directory that holds a link to the
second one. -/
def detourDisk : Disk where
  entries := [(["b.json"], .file [123, 34, 120, 34, 58, 34, 97, 34, 125]),
    (["c.json"], .file [123, 34, 121, 34, 58, 34, 98, 34, 125]),
    (["u"], .directory), (["u", "_b_json.scss"], .link "../c.json")]
  workingDirectory := some []

theorem detourDisk_isTree : detourDisk.IsTree := ⟨by decide, by decide, by decide, by decide⟩

/-- An engine whose temp area has a double dot in its path. -/
def detourEngine : Engine := { areaEngine with tempArea := ⟨.ofText "/x/../u"⟩ }

/-- The disk after the temp area has been emptied: the directory in front of the double dot has been
made, and nothing has been removed. -/
def detourArea : Disk := detourDisk.put ["x"] .directory

theorem reset_detourDisk : detourEngine.tempArea.reset.Gives detourDisk () detourArea :=
  ⟨by cbv, by cbv⟩

theorem persisted?_detourArea : detourEngine.persisted? detourArea "b.json" "/m.scss" =
    some (Text.ofString "/b.json", Text.ofString "$x: a;") := by cbv

/-- Resolving the first manifest writes its declarations to the second one, which lies outside. -/
theorem detour_writes_outside :
    detourEngine.tempArea.root.IsProper ∧ detourDisk.IsTree ∧
      detourEngine.tempArea.reset.Gives detourDisk () detourArea ∧
      detourArea.status "/x/../u" = .ok (["u"], .directory) ∧
      ¬IsInside ["u"] ["c.json"] ∧
      Disk.entry? (detourEngine.resolveAll [("b.json", "/m.scss")] detourArea) ["c.json"] ≠
        Disk.entry? detourArea ["c.json"] := by
  have hwritten : Disk.entry? (detourEngine.resolveAll [("b.json", "/m.scss")] detourArea)
      ["c.json"] = some (.file [36, 120, 58, 32, 97, 59]) := by
    rw [resolveAll, resolveAll, disk_resolve, persisted?_detourArea]
    cbv
  refine ⟨by decide, detourDisk_isTree, reset_detourDisk, by cbv, by decide, ?_⟩
  rw [hwritten]
  decide

/-- Resolving both manifests with a temp area of their own changes nothing outside it. -/
theorem twinDisk_same_outside :
    areaEngine.tempArea.root.IsProper ∧ twinDisk.IsTree ∧
      areaEngine.tempArea.reset.Gives twinDisk () areaDisk ∧
      SameOutside ["t"] areaDisk
        (areaEngine.resolveAll [("a-b.json", "/m.scss"), ("a_b.json", "/m.scss")] areaDisk) := by
  have hproper : areaEngine.tempArea.root.IsProper := by decide
  refine ⟨hproper, twinDisk_isTree, reset_twinDisk, ?_⟩
  obtain ⟨top, hroot, hruns, hclean⟩ :=
    frame_iff_holdsOnlyFiles hproper twinDisk_isTree reset_twinDisk
  have hplace : areaDisk.status areaEngine.tempArea.root.toText = .ok (["t"], .directory) := by cbv
  cases hplace.symm.trans hroot
  exact (hruns.mpr (hclean (by decide)) _).2.1

end Engine

end StyleImport
