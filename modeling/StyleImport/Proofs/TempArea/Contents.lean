import StyleImport.Proofs.Disk.Inside
import StyleImport.Proofs.TempArea

/-!
# What is in the temp area

As long as nothing but files for declarations stands in the temp area, each source has its file
directly in it, and writing this file changes nothing outside. No link and no directory ever comes
into the area through which a later write could lead elsewhere.

## Main definitions

- `TempArea.IsFileName`: the names of files for declarations.
- `TempArea.HoldsOnlyFiles`: nothing else stands in the area.

## Main statements

- `TempArea.isFileName_fileName`: whatever a source is called, its file has such a name.
- `TempArea.place_of_writable?`: the place of the file for a source.
- `TempArea.frame_writeText`: writing this file changes nothing outside the area.
-/

namespace StyleImport

namespace TempArea

open Disk

variable {a : TempArea} {d₀ d d' : Disk} {source text : Text} {top l : Location}

/-! ## Names of files -/

/-- The texts of letters, digits and underscores of ASCII with the ending of style sheets behind
them. -/
def IsFileName (name : Text) : Prop :=
  ∃ stem : Text, name = stem ++ ".scss" ∧ ∀ c ∈ stem, c.isAsciiAlphanumeric ∨ c = .scalar '_'

/-- Whatever a source is called, its file has a name of this kind. -/
theorem isFileName_fileName (source : Text) : IsFileName (fileName source) := by
  refine ⟨_, rfl, fun c hc => ?_⟩
  obtain ⟨c', -, rfl⟩ := List.mem_map.mp hc
  split
  · next halnum => exact .inl halnum
  · exact .inr rfl

/-! ## Areas with nothing but files in them -/

/-- Inside the directory stand only files for declarations, directly in it. -/
def HoldsOnlyFiles (d : Disk) (top : Location) : Prop :=
  ∀ l e, IsInside top l → d.entry? l = some e →
    ∃ name, IsFileName name ∧ l = top ++ [name] ∧ e.isFile

/-- Nothing else comes into the area when a file for declarations is put there. -/
theorem HoldsOnlyFiles.put {name : Text} (h : HoldsOnlyFiles d top) (hname : IsFileName name)
    (bytes : List UInt8) : HoldsOnlyFiles (d.put (top ++ [name]) (.file bytes)) top := by
  intro l e hin he
  have hl : l ≠ [] := by
    rintro rfl
    exact hin.2 (List.prefix_nil.mp (List.isPrefixOf_iff_prefix.mp hin.1)).symm
  rw [entry?_put d _ _ hl] at he
  split at he
  · next hsame =>
    cases he
    exact ⟨name, hname, hsame, rfl⟩
  · exact h l e hin he

/-- An empty area holds nothing but files. -/
theorem holdsOnlyFiles_of_holdsEmpty (hd : d.IsTree) (hempty : d.HoldsEmpty a.root)
    (h : d.status a.root.toText = .ok (top, .directory)) : HoldsOnlyFiles d top := by
  obtain ⟨top', hstatus, hnone⟩ := hempty
  cases h.symm.trans hstatus
  intro l e hin he
  rw [hd.entry?_of_isInside hnone hin] at he
  cases he

/-! ## The places of files -/

/-- No link stands in an area with nothing but files in it. -/
theorem HoldsOnlyFiles.not_link (h : HoldsOnlyFiles d top) (name target : Text) :
    d.entry? (top ++ [name]) ≠ some (.link target) := by
  intro he
  obtain ⟨-, -, -, hfile⟩ := h _ _ (isInside_child top name) he
  cases hfile

/-- The file for a source is written directly in the area. -/
theorem place_of_writable? (hd : d.HasHere) (ha : a.root.IsProper)
    (hroot : d.status a.root.toText = .ok (top, .directory)) (honly : HoldsOnlyFiles d top)
    (h : d.writable? (a.pathFor source) = some l) : l = top ++ [fileName source] := by
  have hp := pathFor_isProper ha source
  obtain ⟨here, hhere, hend⟩ := walk_pathFor source hd ha hroot (honly.not_link _)
  obtain ⟨here', hstart, hwalk⟩ := place?_eq_some_iff.mp (place?_of_writable? h)
  obtain ⟨-, -, hhere'⟩ := (start_eq_ok_iff hp).mp hstart
  cases hhere.symm.trans hhere'
  rw [walk_steps_toText hp (entry?_start hd hstart), hend] at hwalk
  split at hwalk
  · rcases hwalk with hwalk | hwalk <;> cases hwalk
  · split at hwalk
    · rcases hwalk with hwalk | hwalk <;> cases hwalk
      rfl
    · rcases hwalk with hwalk | hwalk <;> cases hwalk
      rfl

/-- Writing the file for a source changes nothing outside the area, and still nothing but files
stands in it. -/
theorem frame_writeText (hd : d.HasHere) (ha : a.root.IsProper)
    (hroot : d.status a.root.toText = .ok (top, .directory)) (honly : HoldsOnlyFiles d top)
    (source text : Text) :
    SameOutside top d (d.writeText (a.pathFor source) text).disk ∧
      HoldsOnlyFiles (d.writeText (a.pathFor source) text).disk top := by
  rw [writeText_disk]
  cases hplace : d.writable? (a.pathFor source) with
  | none => exact ⟨.refl top d, honly⟩
  | some l =>
    have hl := place_of_writable? hd ha hroot honly hplace
    subst hl
    exact ⟨sameOutside_put _ (isInside_child top _), honly.put (isFileName_fileName source) _⟩

/-- Why the file for a source cannot be written: its path or its name is too long. What else is in
the area does not matter. -/
theorem fault_writeBytes (hd : d.HasHere) (ha : a.root.IsProper)
    (hroot : d.status a.root.toText = .ok (top, .directory)) (honly : HoldsOnlyFiles d top)
    (source : Text) (bytes : List UInt8) :
    (d.writeBytes (a.pathFor source) bytes).fault =
      match d.start (a.pathFor source).toText with
      | .error fault => some fault
      | .ok _ =>
        if nameLimit < source.length + 5 then
          some (.system .nameTooLong (a.pathFor source).toText)
        else none := by
  have hp := pathFor_isProper ha source
  obtain ⟨here, hhere, hend⟩ := walk_pathFor source hd ha hroot (honly.not_link _)
  unfold writeBytes
  rw [locate_eq]
  cases hstart : d.start (a.pathFor source).toText with
  | error fault => rfl
  | ok here' =>
    obtain ⟨-, -, hhere'⟩ := (start_eq_ok_iff hp).mp hstart
    cases hhere.symm.trans hhere'
    dsimp only [Except.bind]
    rw [walk_steps_toText hp (entry?_start hd hstart), hend]
    by_cases hlong : nameLimit < source.length + 5
    · rw [if_pos hlong, if_pos hlong]
      rfl
    · rw [if_neg hlong, if_neg hlong]
      cases he : d.entry? (top ++ [fileName source]) with
      | none => rfl
      | some e =>
        obtain ⟨-, -, -, hfile⟩ := honly _ e (isInside_child top _) he
        obtain ⟨bytes', rfl⟩ := Fills.exists_bytes hfile
        simp [Except.mapError, he]

/-- Writing the file for a source gives the same result whatever files are in the area. -/
theorem result_write_eq (hd : d.IsTree) (hd' : d'.IsTree) (ha : a.root.IsProper)
    (hroot : d.status a.root.toText = .ok (top, .directory)) (honly : HoldsOnlyFiles d top)
    (hroot' : d'.status a.root.toText = .ok (top, .directory)) (honly' : HoldsOnlyFiles d' top)
    (hhere : d'.workingDirectory = d.workingDirectory) (source text : Text) :
    (a.write source text d').1.result = (a.write source text d).1.result := by
  have hbytes : ∀ bytes, (d'.writeBytes (a.pathFor source) bytes).fault =
      (d.writeBytes (a.pathFor source) bytes).fault := by
    intro bytes
    rw [fault_writeBytes hd.here ha hroot honly, fault_writeBytes hd'.here ha hroot' honly',
      start_congr hhere]
  have hfault : (d'.writeText (a.pathFor source) text).fault =
      (d.writeText (a.pathFor source) text).fault := by
    unfold writeText
    cases Utf8.encode? text with
    | ok bytes => exact hbytes bytes
    | error fault =>
      -- A text without bytes leaves an empty file behind, and that can fail too.
      dsimp only
      rw [hbytes]
      cases hempty : (d.writeBytes (a.pathFor source) []).fault with
      | none => rfl
      | some fault' =>
        dsimp only
        rw [hempty, hbytes, hempty]
  have hthere : d.holdsDirectory a.root := holds_eq_true_iff.mpr ⟨top, .directory, hroot, rfl⟩
  have hthere' : d'.holdsDirectory a.root := holds_eq_true_iff.mpr ⟨top, .directory, hroot', rfl⟩
  rw [result_write, result_write, makeDirectories_of_holdsDirectory hthere,
    makeDirectories_of_holdsDirectory hthere']
  dsimp only
  rw [hfault]

/-- The area is still there after a file has been written. -/
theorem status_root_of_grows (hg : d.Grows d')
    (hroot : d.status a.root.toText = .ok (top, .directory)) :
    d'.status a.root.toText = .ok (top, .directory) := by
  obtain ⟨hlocate, hentry⟩ := status_eq_ok_of_locate.mp hroot
  have hends := locate_grows hg a.root.toText
  rw [hlocate] at hends
  exact status_eq_ok_of_locate.mpr ⟨hends, hg.directory top hentry⟩

/-- When files for declarations have been written, only files in the area have been. -/
theorem fills_of_holdsOnlyFiles (hg : d.Grows d') (hsame : SameOutside top d d')
    (honly : HoldsOnlyFiles d top) (honly' : HoldsOnlyFiles d' top) : Fills top d d' where
  toSameOutside := hsame
  file l e hin he := by
    obtain ⟨-, -, -, hfile⟩ := honly' l e hin he
    exact hfile
  kept l e hin he := by
    obtain ⟨-, -, -, hfile⟩ := honly l e hin he
    obtain ⟨bytes, rfl⟩ := Fills.exists_bytes hfile
    obtain ⟨bytes', he'⟩ := hg.file l bytes he
    exact ⟨rfl, _, he'⟩

end TempArea

end StyleImport
