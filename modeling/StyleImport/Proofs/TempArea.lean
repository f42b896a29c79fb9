import StyleImport.TempArea
import StyleImport.Proofs.Disk.Removal

/-!
# The files of the temp area

The file for a source lies directly in the temp area. Writing it keeps all else that is on the
disk, and once the area has been emptied it only puts bytes at the place of this file. Sources with
the same file name share a place there, and all others have places of their own.

## Main statements

- `TempArea.pathFor_eq`: the path of the file for a source.
- `TempArea.keeps_write`: writing keeps what is there.
- `TempArea.status_of_gives_write`: what stands at the path of the file after writing.
- `TempArea.write_of_holdsDirectory`: writing into a temp area that is there.
- `TempArea.gives_reset`, `TempArea.gives_clear`: what emptying and clearing do.
- `TempArea.holdsDirectory_of_reset`, `TempArea.holdsEmpty_of_reset`: after the temp area has been
  emptied it is there, and nothing is in it.
- `TempArea.writable?_pathFor_iff`: which sources share a place.
- `TempArea.writable?_pathFor_isSome_iff`: which sources have a place.
-/

namespace StyleImport

namespace TempArea

open Disk

variable {a : TempArea} {d₀ d d' : Disk} {source text : Text} {l : Location}

/-! ## Paths of files -/

theorem length_fileName (source : Text) : (fileName source).length = source.length + 5 := by
  simp [fileName, Text.ofString, Text.ofChars]

theorem fileName_isName (source : Text) : Path.IsName (fileName source) := by
  have hslash : CodePoint.scalar '/' ∉ fileName source := by
    intro h
    rcases List.mem_append.mp h with h | h
    · obtain ⟨c, -, hc⟩ := List.mem_map.mp h
      split at hc
      · next halnum =>
        rw [hc] at halnum
        exact absurd halnum (by decide)
      · cases hc
    · exact absurd h (by decide)
  have hlength := length_fileName source
  refine ⟨?_, ?_, hslash⟩
  · intro h
    simp [h] at hlength
  · intro h
    simp [h] at hlength

theorem fileName_ne_dots (source : Text) : fileName source ≠ ".." := by
  have hlength := length_fileName source
  intro h
  simp [h, Text.ofString, Text.ofChars] at hlength

theorem toNat_of_isAsciiAlphanumeric {c : CodePoint} (h : c.isAsciiAlphanumeric) :
    0 < c.toNat ∧ c.toNat < 0x80 := by
  cases c with
  | surrogate i => cases h
  | scalar c =>
    have halnum : c.isAlphanum := h
    simp only [Char.isAlphanum, Char.isAlpha, Char.isUpper, Char.isLower, Char.isDigit,
      Bool.or_eq_true, Bool.and_eq_true, decide_eq_true_eq, ge_iff_le,
      UInt32.le_iff_toNat_le] at halnum
    -- The letters and digits lie in three ranges.
    rcases halnum with (⟨hlo, hhi⟩ | ⟨hlo, hhi⟩) | ⟨hlo, hhi⟩
    · exact ⟨lt_of_lt_of_le (by decide) hlo, lt_of_le_of_lt hhi (by decide)⟩
    · exact ⟨lt_of_lt_of_le (by decide) hlo, lt_of_le_of_lt hhi (by decide)⟩
    · exact ⟨lt_of_lt_of_le (by decide) hlo, lt_of_le_of_lt hhi (by decide)⟩

/-- The name of the file for a source is an ASCII text without null characters. -/
theorem toNat_of_mem_fileName {c : CodePoint} (h : c ∈ fileName source) :
    0 < c.toNat ∧ c.toNat < 0x80 := by
  rcases List.mem_append.mp h with h | h
  · obtain ⟨c', -, rfl⟩ := List.mem_map.mp h
    split
    · next halnum => exact toNat_of_isAsciiAlphanumeric halnum
    · exact ⟨by decide, by decide⟩
  · have hending : ∀ c ∈ (".scss" : Text), 0 < c.toNat ∧ c.toNat < 0x80 := by decide
    exact hending c h

theorem isSpeakable_fileName (source : Text) : IsSpeakable (fileName source) := by
  intro c hc
  obtain ⟨hpos, hlt⟩ := toNat_of_mem_fileName hc
  cases c with
  | surrogate i =>
    have htoNat : (CodePoint.surrogate i).toNat = 0xD800 + i.val := rfl
    omega
  | scalar c =>
    refine ⟨rfl, fun hnull => ?_⟩
    rw [hnull] at hpos
    exact absurd hpos (by decide)

/-- An ASCII text has one byte for each code point. -/
theorem byteCount_of_ascii {t : Text} (h : ∀ c ∈ t, c.toNat < 0x80) : byteCount t = t.length := by
  induction t with
  | nil => rfl
  | cons c t ih =>
    rw [List.forall_mem_cons] at h
    cases c with
    | surrogate i => rw [byteCount, ih h.2, List.length_cons, Nat.add_comm]
    | scalar c =>
      have hascii : c.toNat < 0x80 := h.1
      have hone : (Utf8.encodeChar c).length = 1 := by
        unfold Utf8.encodeChar
        dsimp only
        rw [if_pos hascii]
        rfl
      rw [byteCount, ih h.2, hone, List.length_cons, Nat.add_comm]

theorem byteCount_fileName (source : Text) : byteCount (fileName source) = source.length + 5 := by
  rw [byteCount_of_ascii fun c hc => (toNat_of_mem_fileName hc).2, length_fileName]

/-- The file for a source lies directly in the temp area. -/
theorem pathFor_eq (a : TempArea) (source : Text) :
    a.pathFor source = ⟨a.root.anchor, a.root.parts ++ [fileName source]⟩ :=
  Path.child_of_isName (fileName_isName source)

@[simp] theorem parent_pathFor (a : TempArea) (source : Text) :
    (a.pathFor source).parent = a.root := by
  rw [pathFor_eq, Path.parent, List.dropLast_concat]

theorem pathFor_isProper (ha : a.root.IsProper) (source : Text) : (a.pathFor source).IsProper := by
  rw [pathFor_eq]
  intro name hname
  rcases List.mem_append.mp hname with h | h
  · exact ha name h
  · rw [List.mem_singleton.mp h]
    exact fileName_isName source

/-! ## Writing -/

theorem gives_write {path : Path} (h : (a.write source text).Gives d path d') :
    path = a.pathFor source ∧ (d.makeDirectories a.root).fault = none ∧
      ((d.makeDirectories a.root).disk.writeText path text).fault = none ∧
      ((d.makeDirectories a.root).disk.writeText path text).disk = d' := by
  unfold write at h
  dsimp only at h
  rw [parent_pathFor] at h
  obtain ⟨⟨⟩, d₁, hmake, h⟩ := Action.gives_bind.mp h
  obtain ⟨hmade, rfl⟩ := Action.gives_change.mp hmake
  obtain ⟨⟨⟩, d₂, hwrite, h⟩ := Action.gives_bind.mp h
  obtain ⟨hwritten, rfl⟩ := Action.gives_change.mp hwrite
  obtain ⟨rfl, rfl⟩ := Action.gives_pure.mp h
  exact ⟨rfl, hmade, hwritten, rfl⟩

/-- The file for a source has an absolute path just if the temp area has one, and lies directly in
it. -/
theorem absolute_pathFor_iff {full : Path} :
    d.absolute (a.pathFor source) = .ok full ↔
      ∃ root, d.absolute a.root = .ok root ∧ full = root.child (fileName source) := by
  have hanchor : (a.pathFor source).isAbsolute = a.root.isAbsolute := by
    rw [pathFor_eq]
    rfl
  unfold absolute
  rw [hanchor]
  by_cases habs : a.root.isAbsolute
  · simp [habs, pathFor, eq_comm]
  · rw [if_neg habs, if_neg habs]
    cases d.cwd with
    | error fault => simp [Except.map]
    | ok here => simp [Except.map, pathFor, Path.child_join, eq_comm]

/-- After writing, the bytes of the text stand at the path of the file, and at its absolute form
just if that is not too long. -/
theorem status_of_gives_write {path full : Path} (hd : d.IsTree) (ha : a.root.IsProper)
    (h : (a.write source text).Gives d path d') (hfull : d'.absolute path = .ok full) :
    ∃ l bytes, Utf8.encode? text = .ok bytes ∧ d'.status path.toText = .ok (l, .file bytes) ∧
      (d'.status full.toText = .ok (l, .file bytes) ↔ byteCount full.toText ≤ pathLimit) := by
  obtain ⟨rfl, -, hfault, hdisk⟩ := gives_write h
  have hmade : (d.makeDirectories a.root).disk.IsTree := isTree_makeDirectoriesFrom hd _ _
  obtain ⟨hencode, l, hplace⟩ := of_writeText_fault_eq_none hfault
  have hgrows := grows_writeText (d.makeDirectories a.root).disk (a.pathFor source) text
  rw [hdisk] at hgrows
  rw [writeText_disk, hplace] at hdisk
  -- The place is none of a directory, so it is not the root.
  have hl : l ≠ [] := by
    rintro rfl
    exact absurd (isFile_of_writable? hplace (entry?_nil _)) (by decide)
  have hfile : d'.entry? l = some (.file (writtenBytes text)) := by
    rw [← hdisk, entry?_put _ l _ hl, if_pos rfl]
  have habsolute : (d.makeDirectories a.root).disk.absolute (a.pathFor source) = .ok full := by
    rw [← absolute_congr hgrows.here]
    exact hfull
  refine ⟨l, _, hencode,
    (status_eq_ok_iff_of_grows hgrows).mpr ⟨place?_of_writable? hplace, hfile⟩, ?_⟩
  rw [status_eq_ok_iff_of_grows hgrows, place?_absolute hmade (pathFor_isProper ha source)
    habsolute (place?_of_writable? hplace)]
  simp [hfile]

/-- Writing gives the path of the file, unless the directory cannot be made or the file cannot be
written. -/
theorem result_write (a : TempArea) (source text : Text) (d : Disk) :
    (a.write source text d).1.result =
      match (d.makeDirectories a.root).fault with
      | some fault => .error (.access fault)
      | none =>
        match ((d.makeDirectories a.root).disk.writeText (a.pathFor source) text).fault with
        | some fault => .error (.access fault)
        | none => .ok (a.pathFor source) := by
  simp only [write, parent_pathFor]
  rw [Action.result_bind, Action.result_change, Action.disk_change]
  cases (d.makeDirectories a.root).fault with
  | some fault => rfl
  | none =>
    dsimp only [Except.bind]
    rw [Action.result_bind, Action.result_change, Action.disk_change]
    cases ((d.makeDirectories a.root).disk.writeText (a.pathFor source) text).fault <;> rfl

/-- The disk that writing leaves behind, whether it fails or not. -/
theorem disk_write (a : TempArea) (source text : Text) (d : Disk) :
    (a.write source text d).2 =
      match (d.makeDirectories a.root).fault with
      | none => ((d.makeDirectories a.root).disk.writeText (a.pathFor source) text).disk
      | some _ => (d.makeDirectories a.root).disk := by
  simp only [write, parent_pathFor]
  rw [Action.disk_bind, Action.result_change, Action.disk_change]
  cases (d.makeDirectories a.root).fault with
  | some fault => rfl
  | none =>
    dsimp only
    rw [Action.disk_bind, Action.result_change, Action.disk_change]
    cases ((d.makeDirectories a.root).disk.writeText (a.pathFor source) text).fault <;> rfl

/-- Writing keeps what is on the disk. -/
theorem keeps_write (a : TempArea) (source text : Text) (d : Disk) :
    d.Keeps (a.write source text d).2 := by
  rw [disk_write]
  split
  · exact (keeps_makeDirectories d a.root).trans (grows_writeText _ _ _).toKeeps
  · exact keeps_makeDirectories d a.root

/-- Writing keeps a disk a tree, also if it fails half-way. -/
theorem isTree_write (hd : d.IsTree) (a : TempArea) (source text : Text) :
    (a.write source text d).2.IsTree := by
  have hmade := isTree_makeDirectoriesFrom hd a.root a.root.parts.length
  rw [disk_write]
  split
  · exact isTree_writeText hmade _ _
  · exact hmade

/-- Writing a text that has bytes into a temp area that is there puts them at the place of the
file. -/
theorem gives_write_of_writable? {bytes : List UInt8} (h : d.holdsDirectory a.root)
    (hplace : d.writable? (a.pathFor source) = some l) (hbytes : Utf8.encode? text = .ok bytes) :
    (a.write source text).Gives d (a.pathFor source) (d.put l (.file bytes)) := by
  have hwrite : d.writeText (a.pathFor source) text = ⟨none, d.put l (.file bytes)⟩ := by
    unfold writeText
    rw [hbytes]
    exact writeBytes_of_writable? bytes hplace
  unfold write
  dsimp only
  rw [parent_pathFor]
  refine Action.gives_bind.mpr ⟨(), d, Action.gives_change.mpr ?_, ?_⟩
  · rw [makeDirectories_of_holdsDirectory h]
    exact ⟨rfl, rfl⟩
  · refine Action.gives_bind.mpr
      ⟨(), _, Action.gives_change.mpr ?_, Action.gives_pure.mpr ⟨rfl, rfl⟩⟩
    rw [hwrite]
    exact ⟨rfl, rfl⟩

/-- Writing into a temp area that is there fails where no file can be written for the source. -/
theorem result_write_of_not_writable? (text : Text) (h : d.holdsDirectory a.root)
    (hplace : d.writable? (a.pathFor source) = none) :
    ∃ fault, (a.write source text d).1.result = .error (.access fault) := by
  obtain ⟨fault, hfault⟩ : ∃ fault, (d.writeText (a.pathFor source) text).fault = some fault := by
    cases hwritten : (d.writeText (a.pathFor source) text).fault with
    | some fault => exact ⟨fault, rfl⟩
    | none =>
      obtain ⟨-, l, hl⟩ := of_writeText_fault_eq_none hwritten
      cases hplace.symm.trans hl
  refine ⟨fault, ?_⟩
  rw [result_write, makeDirectories_of_holdsDirectory h]
  simp only [hfault]

/-- Writing into a temp area that is there only writes the file. -/
theorem write_of_holdsDirectory (h : d.holdsDirectory a.root) :
    (a.write source text d).2 = (d.writeText (a.pathFor source) text).disk := by
  rw [disk_write, makeDirectories_of_holdsDirectory h]

/-! ## Emptying -/

/-- The answer whether the temp area is there is whether anything is seen at its path. -/
theorem gives_isThere {there : Bool} (h : a.isThere.Gives d there d') :
    there = d.holds (fun _ => true) a.root ∧ d = d' := by
  obtain ⟨hthere, rfl⟩ := Action.gives_lookup.mp h
  rw [Traced.result_ofAccess, mapError_eq_ok_iff] at hthere
  refine ⟨?_, rfl⟩
  by_cases hlong : d.IsTooLong a.root
  · rw [occupiedAt, isAt_of_isTooLong hlong] at hthere
    cases hthere
  · rw [occupiedAt, isAt_of_not_isTooLong hlong] at hthere
    exact (Except.ok.inj hthere).symm

/-- What emptying does: the directory is removed if anything is seen at its path, and then it is
made. -/
theorem gives_reset (h : a.reset.Gives d₀ () d) :
    ∃ d₁, (d₁ = d₀ ∧ d₀.holds (fun _ => true) a.root = false ∨
        (d₀.removeTree a.root).fault = none ∧ d₁ = (d₀.removeTree a.root).disk) ∧
      (d₁.makeDirectories a.root).fault = none ∧ d = (d₁.makeDirectories a.root).disk := by
  have hmade : ∀ {d₁ : Disk}, (do
      Action.change (·.makeDirectories a.root)
      .note ⟨logger, .debug, "Reset temp area " ++ a.root.toText⟩ : Action Unit).Gives d₁ () d →
        (d₁.makeDirectories a.root).fault = none ∧ d = (d₁.makeDirectories a.root).disk := by
    intro d₁ h
    obtain ⟨⟨⟩, d₂, hmake, h⟩ := Action.gives_bind.mp h
    obtain ⟨hfault, rfl⟩ := Action.gives_change.mp hmake
    obtain ⟨-, rfl⟩ := h
    exact ⟨hfault, rfl⟩
  unfold reset at h
  obtain ⟨there, d₁, hlookup, h⟩ := Action.gives_bind.mp h
  obtain ⟨rfl, rfl⟩ := gives_isThere hlookup
  dsimp only at h
  split at h
  · obtain ⟨⟨⟩, d₂, hremove, h⟩ := Action.gives_bind.mp h
    obtain ⟨hfault, rfl⟩ := Action.gives_change.mp hremove
    exact ⟨_, .inr ⟨hfault, rfl⟩, hmade h⟩
  · next hnot => exact ⟨_, .inl ⟨rfl, Bool.eq_false_of_not_eq_true hnot⟩, hmade h⟩

/-- What clearing does: the directory is removed if anything is seen at its path. -/
theorem gives_clear {there : Bool} (h : a.clear.Gives d there d') :
    there = d.holds (fun _ => true) a.root ∧
      (there = false ∧ d' = d ∨
        there = true ∧ (d.removeTree a.root).fault = none ∧ d' = (d.removeTree a.root).disk) := by
  unfold clear at h
  obtain ⟨there', d₁, hlookup, h⟩ := Action.gives_bind.mp h
  obtain ⟨hthere, rfl⟩ := gives_isThere hlookup
  split at h
  · next hseen =>
    obtain ⟨⟨⟩, d₂, hremove, h⟩ := Action.gives_bind.mp h
    obtain ⟨hfault, rfl⟩ := Action.gives_change.mp hremove
    obtain ⟨rfl, rfl⟩ := Action.gives_pure.mp h
    exact ⟨hseen.symm.trans hthere, .inr ⟨rfl, hfault, rfl⟩⟩
  · next hnot =>
    obtain ⟨rfl, rfl⟩ := Action.gives_pure.mp h
    exact ⟨(Bool.eq_false_of_not_eq_true hnot).symm.trans hthere, .inl ⟨rfl, rfl⟩⟩

/-- After the temp area has been emptied it is there. -/
theorem holdsDirectory_of_reset (h : a.reset.Gives d₀ () d) : d.holdsDirectory a.root := by
  obtain ⟨d₁, -, hfault, rfl⟩ := gives_reset h
  exact holdsDirectory_of_makeDirectories hfault

/-- Emptying the temp area keeps a disk a tree. -/
theorem isTree_of_reset (hd : d₀.IsTree) (h : a.reset.Gives d₀ () d) : d.IsTree := by
  obtain ⟨d₁, hd₁, -, rfl⟩ := gives_reset h
  refine isTree_makeDirectoriesFrom ?_ _ _
  rcases hd₁ with ⟨rfl, -⟩ | ⟨-, rfl⟩
  · exact hd
  · exact isTree_removeTree hd a.root

/-- Emptying makes the temp area anew, after it has been removed if anything was seen at its
path. -/
theorem madeAnew_of_reset (hd : d₀.IsTree) (ha : a.root.IsProper)
    (hdots : ∀ name ∈ a.root.parts, name ≠ "..") (h : a.reset.Gives d₀ () d) :
    ∃ d₁, (d₁ = d₀ ∧ d₀.holds (fun _ => true) a.root = false ∨
        (d₀.removeTree a.root).fault = none ∧ d₁ = (d₀.removeTree a.root).disk) ∧
      MadeAnew a.root d₁ d := by
  obtain ⟨d₁, hd₁, hfault, rfl⟩ := gives_reset h
  refine ⟨d₁, hd₁, ?_⟩
  rcases hd₁ with ⟨rfl, hnothing⟩ | ⟨hremoved, rfl⟩
  · refine madeAnew_of_makeDirectories hd ha hdots (fun hdir => ?_) hfault
    obtain ⟨l, e, hstatus, -⟩ := holds_eq_true_iff.mp hdir
    have hsomething : d₁.holds (fun _ => true) a.root := holds_eq_true_iff.mpr ⟨l, e, hstatus, rfl⟩
    rw [hnothing] at hsomething
    cases hsomething
  · exact madeAnew_of_makeDirectories (isTree_removeTree hd a.root) ha hdots
      (not_holds_of_removeTree hd ha hremoved) hfault

/-- After the temp area has been emptied nothing is in it, if no double dot is in its path. -/
theorem holdsEmpty_of_reset (hd : d₀.IsTree) (ha : a.root.IsProper)
    (hdots : ∀ name ∈ a.root.parts, name ≠ "..") (h : a.reset.Gives d₀ () d) :
    d.HoldsEmpty a.root := by
  obtain ⟨d₁, -, hanew⟩ := madeAnew_of_reset hd ha hdots h
  exact hanew.holdsEmpty

/-! ## The places of files -/

/-- The path of the file for a source leads to the place with its name in the temp area, unless the
name is too long or a link stands at this place. -/
theorem walk_pathFor (source : Text) {top : Location} (hd : d.HasHere) (ha : a.root.IsProper)
    (hroot : d.status a.root.toText = .ok (top, .directory))
    (hlink : ∀ target, d.entry? (top ++ [fileName source]) ≠ some (.link target)) :
    ∃ here, d.origin? (a.pathFor source) = some here ∧
      d.walk true linkLimit here (a.pathFor source).parts =
        if nameLimit < source.length + 5 then .error .nameTooLong
        else match d.entry? (top ++ [fileName source]) with
          | none => .ok (.free (top ++ [fileName source]))
          | some _ => .ok (.occupied (top ++ [fileName source])) := by
  obtain ⟨-, -, here, m, hhere, hleads, hdir⟩ := (status_eq_ok_iff hd ha).mp hroot
  have hblank := (fileName_isName source).not_isBlank
  refine ⟨here, ?_, ?_⟩
  · rw [pathFor_eq]
    exact hhere
  · rw [pathFor_eq, hleads.walk_append (.inr rfl), ← byteCount_fileName]
    by_cases hlong : nameLimit < byteCount (fileName source)
    · rw [if_pos hlong, walk_long hdir hblank (fileName_ne_dots source) hlong]
    · have hstep : IsStep (fileName source) :=
        ⟨hblank, fileName_ne_dots source, Nat.not_lt.mp hlong⟩
      rw [if_neg hlong]
      cases he : d.entry? (top ++ [fileName source]) with
      | none => rw [walk_missing hdir hstep he, if_pos rfl]
      | some e =>
        have hnot : ∀ target, e ≠ .link target := by
          rintro target rfl
          exact hlink target he
        rw [walk_enter hdir hstep he hnot, walk]

/-- In an empty temp area this place is free. -/
theorem exists_walk_pathFor (hd : d.HasHere) (ha : a.root.IsProper) (hempty : d.HoldsEmpty a.root)
    (source : Text) :
    ∃ top here, d.origin? (a.pathFor source) = some here ∧
      d.walk true linkLimit here (a.pathFor source).parts =
        if nameLimit < source.length + 5 then .error .nameTooLong
        else .ok (.free (top ++ [fileName source])) := by
  obtain ⟨top, hroot, hnone⟩ := hempty
  obtain ⟨here, hhere, hwalk⟩ := walk_pathFor source hd ha hroot (by simp [hnone])
  rw [hnone] at hwalk
  exact ⟨top, here, hhere, hwalk⟩

/-- In an empty temp area the place for a source ends with its file name. -/
theorem getLast?_place (hd : d.HasHere) (ha : a.root.IsProper) (hempty : d.HoldsEmpty a.root)
    (h : d.place? (a.pathFor source).toText = some l) : l.getLast? = some (fileName source) := by
  have hp := pathFor_isProper ha source
  obtain ⟨top, here, hhere, hend⟩ := exists_walk_pathFor hd ha hempty source
  obtain ⟨here', hstart, hwalk⟩ := place?_eq_some_iff.mp h
  obtain ⟨-, -, hhere'⟩ := (start_eq_ok_iff hp).mp hstart
  cases hhere.symm.trans hhere'
  rw [walk_steps_toText hp (entry?_start hd hstart), hend] at hwalk
  split at hwalk
  · rcases hwalk with hwalk | hwalk <;> cases hwalk
  · rcases hwalk with hwalk | hwalk <;> cases hwalk
    exact List.getLast?_concat

/-- In an empty temp area a source has a file just if the name and the path of the file are not too
long. -/
theorem writable?_pathFor_isSome_iff (hd : d.HasHere) (ha : a.root.IsProper)
    (hempty : d.HoldsEmpty a.root) :
    (d.writable? (a.pathFor source)).isSome ↔
      source.length + 5 ≤ nameLimit ∧ byteCount (a.pathFor source).toText ≤ pathLimit := by
  have hp := pathFor_isProper ha source
  obtain ⟨top, here, hhere, hend⟩ := exists_walk_pathFor hd ha hempty source
  rw [Option.isSome_iff_exists]
  constructor
  · -- A place can only be reached if the last name passes the limit on names.
    rintro ⟨l, hplace⟩
    obtain ⟨here', hstart, hwalk⟩ := place?_eq_some_iff.mp (place?_of_writable? hplace)
    obtain ⟨-, hsize, hhere'⟩ := (start_eq_ok_iff hp).mp hstart
    cases hhere.symm.trans hhere'
    rw [walk_steps_toText hp (entry?_start hd hstart), hend] at hwalk
    refine ⟨?_, hsize⟩
    by_contra hlong
    rw [if_pos (Nat.not_le.mp hlong)] at hwalk
    rcases hwalk with hwalk | hwalk <;> cases hwalk
  · -- Nothing stands in the empty area, so the walk ends at the free place with this name.
    rintro ⟨hshort, hsize⟩
    have hspeak : IsSpeakable (a.pathFor source).toText := by
      obtain ⟨root, hstatus, -⟩ := hempty
      have hroot := (isSpeakable_toText ha).mp (isSpeakable_of_status hstatus)
      rw [pathFor_eq]
      refine isSpeakable_toText_of_forall fun name hname => ?_
      rcases List.mem_append.mp hname with hname | hname
      · exact hroot name hname
      · rw [List.mem_singleton.mp hname]
        exact isSpeakable_fileName source
    have hstart : d.start (a.pathFor source).toText = .ok here :=
      (start_eq_ok_iff hp).mpr ⟨hspeak, hsize, hhere⟩
    rw [if_neg (Nat.not_lt.mpr hshort)] at hend
    refine ⟨top ++ [fileName source], writable?_eq_some_iff.mpr (.inl ?_)⟩
    refine locate_eq_ok_iff.mpr ⟨here, hstart, ?_⟩
    rw [walk_steps_toText hp (entry?_start hd hstart), hend]

/-- In an empty temp area one place belongs to all sources with the same file name, and to no
others. -/
theorem writable?_pathFor_iff (hd : d.HasHere) (ha : a.root.IsProper)
    (hempty : d.HoldsEmpty a.root) {source' : Text} (h : d.writable? (a.pathFor source) = some l) :
    d.writable? (a.pathFor source') = some l ↔ fileName source' = fileName source := by
  have hlast := getLast?_place hd ha hempty (place?_of_writable? h)
  constructor
  · intro h'
    have hlast' := getLast?_place hd ha hempty (place?_of_writable? h')
    exact Option.some.inj (hlast'.symm.trans hlast)
  · intro hname
    rw [pathFor_eq] at h ⊢
    rwa [hname]

end TempArea

end StyleImport
