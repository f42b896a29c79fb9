import StyleImport.Proofs.Disk.Change

/-!
# Missing directories

Making a directory with all above it changes the disk just if one of them is missing, which is so if
some of the first names of the path lead to a free place. The first of them is made then, and what
has been made stays, whether the others can be made or not.

## Main definitions

- `Disk.IsMissing`: a directory is missing on a path that the system takes.

## Main statements

- `Disk.locate_of_free_front`: paths behind a free place lead nowhere.
- `Disk.makeDirectories_of_not_isMissing`, `Disk.exists_made_of_isMissing`: when making directories
  changes the disk.
- `Disk.holdsDirectory_of_writable?`: files are written into directories that are there.
-/

namespace StyleImport

/-! ## The number of bytes of a path -/

namespace Disk

theorem byteCount_append (s t : Text) : byteCount (s ++ t) = byteCount s + byteCount t := by
  induction s with
  | nil => simp [byteCount]
  | cons c s ih =>
    cases c with
    | scalar c => simp only [List.cons_append, byteCount, ih, Nat.add_assoc]
    | surrogate i => simp only [List.cons_append, byteCount, ih, Nat.add_assoc]

theorem byteCount_pos {t : Text} (h : t ≠ []) : 0 < byteCount t := by
  cases t with
  | nil => exact absurd rfl h
  | cons c t =>
    cases c with
    | surrogate i =>
      rw [byteCount]
      omega
    | scalar c =>
      have hbytes : 0 < (Utf8.encodeChar c).length := by
        unfold Utf8.encodeChar
        dsimp only
        split_ifs <;> simp
      rw [byteCount]
      omega

theorem join_append_prefix (xs ys : List Text) : Text.join "/" xs <+: Text.join "/" (xs ++ ys) := by
  induction xs with
  | nil => exact List.nil_prefix
  | cons x xs ih =>
    cases xs with
    | nil =>
      cases ys with
      | nil => exact List.prefix_rfl
      | cons y ys =>
        rw [List.cons_append, List.nil_append, Text.join_cons_cons]
        exact ⟨"/" ++ Text.join "/" (y :: ys), by simp [Text.join]⟩
    | cons x' xs =>
      rw [List.cons_append, List.cons_append, Text.join_cons_cons, Text.join_cons_cons]
      exact (List.prefix_append_right_inj _).mpr ih

/-- The first names of a path have no more bytes than the path. -/
theorem byteCount_front_le (anchor : Anchor) (xs ys : List Text) :
    byteCount (⟨anchor, xs⟩ : Path).toText ≤ byteCount (⟨anchor, xs ++ ys⟩ : Path).toText := by
  obtain ⟨rest, hrest⟩ := join_append_prefix xs ys
  by_cases hnil : Path.Anchor.text anchor ++ Text.join "/" xs = []
  · -- The text of the empty path is a dot, which is one byte.
    have hdot : (⟨anchor, xs⟩ : Path).toText = "." := if_pos hnil
    rw [hdot]
    exact byteCount_pos (Path.toText_ne_nil _)
  · have hfront : (⟨anchor, xs⟩ : Path).toText = Path.Anchor.text anchor ++ Text.join "/" xs :=
      if_neg hnil
    have hwhole : (⟨anchor, xs ++ ys⟩ : Path).toText =
        Path.Anchor.text anchor ++ Text.join "/" xs ++ rest := by
      unfold Path.toText
      dsimp only
      rw [← hrest, ← List.append_assoc]
      exact if_neg fun h => hnil (List.append_eq_nil_iff.mp h).1
    rw [hfront, hwhole, byteCount_append _ rest]
    exact Nat.le_add_right _ _

theorem join_append_suffix (xs ys : List Text) : Text.join "/" ys <:+ Text.join "/" (xs ++ ys) := by
  induction xs with
  | nil => exact List.suffix_rfl
  | cons x xs ih =>
    cases hrest : xs ++ ys with
    | nil =>
      rw [(List.append_eq_nil_iff.mp hrest).2]
      exact List.nil_suffix
    | cons second rest =>
      rw [hrest] at ih
      rw [List.cons_append, hrest, Text.join_cons_cons]
      exact ih.trans (List.suffix_append _ _)

/-- The last names of a path have no more bytes than the path. -/
theorem byteCount_back_le (anchor : Anchor) (xs ys : List Text) :
    byteCount (⟨.relative, ys⟩ : Path).toText ≤ byteCount (⟨anchor, xs ++ ys⟩ : Path).toText := by
  obtain ⟨first, hfirst⟩ := join_append_suffix xs ys
  by_cases hnil : Text.join "/" ys = []
  · have hdot : (⟨.relative, ys⟩ : Path).toText = "." := if_pos hnil
    rw [hdot]
    exact byteCount_pos (Path.toText_ne_nil _)
  · have hback : (⟨.relative, ys⟩ : Path).toText = Text.join "/" ys := if_neg hnil
    have hwhole : (⟨anchor, xs ++ ys⟩ : Path).toText =
        Path.Anchor.text anchor ++ first ++ Text.join "/" ys := by
      unfold Path.toText
      dsimp only
      rw [← hfirst, ← List.append_assoc]
      exact if_neg fun h => hnil (List.append_eq_nil_iff.mp h).2
    rw [hback, hwhole, byteCount_append]
    exact Nat.le_add_left _ _

variable {d : Disk} {n : Nat} {here l : Location} {xs ys : List Text} {p : Path}
  {followLast : Bool}

/-! ## Behind a free place -/

/-- Names behind those that lead to a free place lead nowhere. -/
theorem walk_append_of_free (hys : ys ≠ [])
    (h : d.walk followLast n here xs = .ok (.free l)) :
    d.walk followLast n here (xs ++ ys) = .error .notFound := by
  -- A walk that ends at a free place only takes the steps that go on; the other cases are empty.
  fun_induction walk d followLast n here xs with
  | case5 n here name rest hdir hblank ih =>
    rw [List.cons_append, walk_stay hdir hblank]
    exact ih h
  | case6 n here rest hdir hblank ih =>
    rw [List.cons_append, walk_up hdir]
    exact ih h
  | case8 n here name hdir hblank hdots hlong hnone =>
    rw [List.cons_append, walk_missing hdir ⟨hblank, hdots, Nat.not_lt.mp hlong⟩ hnone]
    exact if_neg hys
  | case12 here name rest hdir hblank hdots hlong target he hlast n ih =>
    have hon : rest ++ ys ≠ [] ∨ followLast = true :=
      .inl fun hnil => hys (List.append_eq_nil_iff.mp hnil).2
    rw [List.cons_append, walk_follow hdir ⟨hblank, hdots, Nat.not_lt.mp hlong⟩ he hon,
      ← List.append_assoc]
    exact ih h
  | case13 n here name rest hdir hblank hdots hlong e hlink he ih =>
    rw [List.cons_append, walk_enter hdir ⟨hblank, hdots, Nat.not_lt.mp hlong⟩ he hlink]
    exact ih h
  | _ => cases h

/-- A path behind a free place leads nowhere. -/
theorem locate_of_free_front (hd : d.HasHere) (hp : p.IsProper) (hspeak : IsSpeakable p.toText)
    (hsize : byteCount p.toText ≤ pathLimit) (hparts : p.parts = xs ++ ys) (hys : ys ≠ [])
    (h : d.locate followLast (⟨p.anchor, xs⟩ : Path).toText = .ok (.free l)) :
    d.locate followLast p.toText = .error (.system .notFound p.toText) := by
  have hfront : (⟨p.anchor, xs⟩ : Path).IsProper :=
    fun name hname => hp name (hparts ▸ List.mem_append_left ys hname)
  obtain ⟨here, hstart, hwalk⟩ := locate_eq_ok_iff.mp h
  have hdir := entry?_start hd hstart
  obtain ⟨-, -, hhere⟩ := (start_eq_ok_iff hfront).mp hstart
  have hstart' : d.start p.toText = .ok here := (start_eq_ok_iff hp).mpr ⟨hspeak, hsize, hhere⟩
  rw [walk_steps_toText hfront hdir] at hwalk
  rw [locate_eq, hstart']
  dsimp only [Except.bind]
  rw [walk_steps_toText hp hdir, hparts, walk_append_of_free hys hwalk]
  rfl

/-- A path at which nothing is found can be handed to the system and is not too long. -/
theorem of_locate_notFound {path path' : Text}
    (h : d.locate followLast path = .error (.system .notFound path')) :
    IsSpeakable path ∧ byteCount path ≤ pathLimit := by
  unfold locate at h
  split at h
  · next fault hspeak =>
    cases h
    have hunspeakable := isUnspeakable_of_unspeakable? hspeak
    cases hunspeakable
  · next hspeak =>
    refine ⟨unspeakable?_eq_none_iff.mp hspeak, ?_⟩
    by_contra hlong
    have hne : path ≠ [] := by
      rintro rfl
      exact hlong (Nat.zero_le _)
    rw [if_neg hne, if_pos (Nat.not_le.mp hlong)] at h
    cases h

/-! ## Making directories -/

/-- Some directory is missing on a path that the system takes, of which no more than `above` names
are taken off: its first names lead to a free place. -/
def IsMissingWithin (d : Disk) (p : Path) (above : Nat) : Prop :=
  IsSpeakable p.toText ∧ byteCount p.toText ≤ pathLimit ∧ ∃ xs ys l, p.parts = xs ++ ys ∧
    ys.length ≤ above ∧ d.locate false (⟨p.anchor, xs⟩ : Path).toText = .ok (.free l)

/-- Some directory is missing on a path that the system takes: its first names lead to a free
place. -/
def IsMissing (d : Disk) (p : Path) : Prop :=
  IsSpeakable p.toText ∧ byteCount p.toText ≤ pathLimit ∧ ∃ xs ys l, p.parts = xs ++ ys ∧
    d.locate false (⟨p.anchor, xs⟩ : Path).toText = .ok (.free l)

theorem isMissingWithin_length_iff : d.IsMissingWithin p p.parts.length ↔ d.IsMissing p := by
  refine and_congr_right fun _ => and_congr_right fun _ => ?_
  constructor
  · rintro ⟨xs, ys, l, hparts, -, hfree⟩
    exact ⟨xs, ys, l, hparts, hfree⟩
  · rintro ⟨xs, ys, l, hparts, hfree⟩
    refine ⟨xs, ys, l, hparts, ?_, hfree⟩
    rw [hparts, List.length_append]
    exact Nat.le_add_left _ _

/-- What making one directory does is read off where its path leads. -/
theorem makeDirectory_cases (d : Disk) (p : Path) :
    (∃ l, d.locate false p.toText = .ok (.free l) ∧
        d.makeDirectory p = ⟨none, d.put l .directory⟩) ∨
      (d.locate false p.toText = .error (.system .notFound p.toText) ∧
        (d.makeDirectory p).notFound ∧ (d.makeDirectory p).disk = d) ∨
      (∀ l, d.locate false p.toText ≠ .ok (.free l)) ∧
        d.locate false p.toText ≠ .error (.system .notFound p.toText) ∧
        ¬(d.makeDirectory p).notFound ∧ (d.makeDirectory p).disk = d := by
  unfold makeDirectory
  cases hlocate : d.locate false p.toText with
  | ok landing =>
    cases landing with
    | free l => exact .inl ⟨l, rfl, rfl⟩
    | occupied l =>
      exact .inr (.inr ⟨by simp, by simp, by simp [Change.notFound, unchanged, AccessFault.system?],
        rfl⟩)
  | error fault =>
    rcases fault_of_locate hlocate with hspeak | ⟨f, rfl, hf⟩
    · have hunspeakable := isUnspeakable_of_unspeakable? hspeak
      refine .inr (.inr ⟨by simp, ?_, ?_, rfl⟩)
      · rintro h
        cases h
        cases hunspeakable
      · cases fault <;> cases hunspeakable <;>
          simp [Change.notFound, unchanged, AccessFault.system?]
    · rcases hf with rfl | rfl | rfl | rfl
      · exact .inr (.inl ⟨rfl, by simp [Change.notFound, unchanged, AccessFault.system?], rfl⟩)
      all_goals
        exact .inr (.inr ⟨by simp, by simp,
          by simp [Change.notFound, unchanged, AccessFault.system?], rfl⟩)

/-- The path above a path that the system takes is taken too. -/
theorem isSpeakable_parent (hp : p.IsProper) (h : IsSpeakable p.toText) :
    IsSpeakable p.parent.toText := by
  rw [isSpeakable_toText hp] at h
  exact isSpeakable_toText_of_forall fun name hname => h name (List.dropLast_subset _ hname)

theorem byteCount_parent_le (p : Path) : byteCount p.parent.toText ≤ byteCount p.toText := by
  obtain ⟨anchor, parts⟩ := p
  rcases List.eq_nil_or_concat parts with rfl | ⟨front, last, rfl⟩
  · exact le_rfl
  · show byteCount (⟨anchor, (front.concat last).dropLast⟩ : Path).toText ≤ _
    rw [List.concat_eq_append, List.dropLast_concat]
    exact byteCount_front_le anchor front [last]

/-- Where nothing is found, a directory is missing just if one is missing above. -/
theorem isMissingWithin_succ_iff (hp : p.IsProper) {above : Nat}
    (h : d.locate false p.toText = .error (.system .notFound p.toText)) :
    d.IsMissingWithin p (above + 1) ↔ d.IsMissingWithin p.parent above := by
  obtain ⟨hspeak, hsize⟩ := of_locate_notFound h
  -- The path itself does not lead to a free place, so a name is taken off.
  have hself : ∀ {l}, d.locate false (⟨p.anchor, p.parts⟩ : Path).toText ≠ .ok (.free l) := by
    intro l hfree
    cases h.symm.trans hfree
  have hspeak' := isSpeakable_parent hp hspeak
  have hsize' := (byteCount_parent_le p).trans hsize
  constructor
  · rintro ⟨-, -, xs, ys, l, hparts, hlength, hfree⟩
    rcases List.eq_nil_or_concat ys with rfl | ⟨ys, last, rfl⟩
    · rw [List.append_nil] at hparts
      rw [← hparts] at hfree
      exact absurd hfree hself
    · have hparent : p.parent.parts = xs ++ ys := by
        show p.parts.dropLast = _
        rw [hparts, List.concat_eq_append, ← List.append_assoc, List.dropLast_concat]
      refine ⟨hspeak', hsize', xs, ys, l, hparent, ?_, hfree⟩
      simpa using hlength
  · rintro ⟨-, -, xs, ys, l, hparts, hlength, hfree⟩
    rcases List.eq_nil_or_concat p.parts with hnil | ⟨front, last, hlast⟩
    · have hparent : p.parent.parts = p.parts := by
        show p.parts.dropLast = _
        rw [hnil]
        rfl
      rw [hparent, hnil] at hparts
      obtain ⟨rfl, rfl⟩ := List.append_eq_nil_iff.mp hparts.symm
      rw [show p.parent.anchor = p.anchor from rfl, ← hnil] at hfree
      exact absurd hfree hself
    · have hparent : p.parent.parts = front := by
        show p.parts.dropLast = _
        rw [hlast, List.concat_eq_append, List.dropLast_concat]
      refine ⟨hspeak, hsize, xs, ys ++ [last], l, ?_, ?_, hfree⟩
      · rw [hlast, List.concat_eq_append, ← hparent, hparts, List.append_assoc]
      · simpa using hlength

theorem locate_ne_free_of_not_isMissingWithin {above : Nat} (hp : p.IsProper)
    (h : ¬d.IsMissingWithin p above) : d.locate false p.toText ≠ .ok (.free l) := by
  intro hfree
  obtain ⟨here, hstart, -⟩ := locate_eq_ok_iff.mp hfree
  obtain ⟨hspeak, hsize, -⟩ := (start_eq_ok_iff hp).mp hstart
  exact h ⟨hspeak, hsize, p.parts, [], l, (List.append_nil _).symm, Nat.zero_le _, hfree⟩

/-- Where no directory is missing, making directories leaves the disk as it is. -/
theorem makeDirectoriesFrom_of_not_isMissingWithin {above : Nat} (hp : p.IsProper)
    (h : ¬d.IsMissingWithin p above) : (d.makeDirectoriesFrom p above).disk = d := by
  -- The induction is on how many names may be taken off, as making directories takes them off.
  induction above generalizing p with
  | zero =>
    rw [makeDirectoriesFrom, forgiveDirectory_disk]
    rcases d.makeDirectory_cases p with ⟨l, hl, -⟩ | ⟨-, -, hdisk⟩ | ⟨-, -, -, hdisk⟩
    · exact absurd hl (locate_ne_free_of_not_isMissingWithin hp h)
    · exact hdisk
    · exact hdisk
  | succ above ih =>
    rw [makeDirectoriesFrom]
    dsimp only
    rcases d.makeDirectory_cases p with ⟨l, hl, -⟩ | ⟨hnothing, hmissing, hdisk⟩ |
      ⟨-, -, hother, hdisk⟩
    · exact absurd hl (locate_ne_free_of_not_isMissingWithin hp h)
    · have hparents : (d.makeDirectoriesFrom p.parent above).disk = d :=
        ih (Path.parent_isProper hp) fun habove =>
          h ((isMissingWithin_succ_iff hp hnothing).mpr habove)
      rw [if_pos hmissing]
      split
      · exact hparents
      · -- The second try fails as the first one did, since nothing has been made.
        rw [hparents, if_pos hmissing]
        exact hdisk
    · rw [if_neg hother, forgiveDirectory_disk]
      exact hdisk

theorem entry?_put_of_locate_free {path : Text} {e : Entry}
    (h : d.locate followLast path = .ok (.free l)) : entry? (d.put l e) l = some e := by
  have hl : l ≠ [] := by
    rintro rfl
    cases (entry?_nil d).symm.trans (entry?_of_locate_free h)
  rw [entry?_put d l e hl, if_pos rfl]

/-- Where a directory is missing but not at the end of the path, nothing is found at the path. -/
theorem locate_of_isMissingWithin (hd : d.HasHere) {above : Nat} (hp : p.IsProper)
    (h : d.IsMissingWithin p above) (hfree : ∀ l, d.locate false p.toText ≠ .ok (.free l)) :
    d.locate false p.toText = .error (.system .notFound p.toText) ∧ above ≠ 0 := by
  obtain ⟨hspeak, hsize, xs, ys, l, hparts, hlength, hfront⟩ := h
  have hys : ys ≠ [] := by
    rintro rfl
    rw [List.append_nil] at hparts
    rw [← hparts] at hfront
    exact hfree l hfront
  refine ⟨locate_of_free_front hd hp hspeak hsize hparts hys hfront, ?_⟩
  have hpos := List.length_pos_iff.mpr hys
  omega

/-- Where a directory is missing, one is made, and it stays if making the others fails. -/
theorem exists_made_of_isMissingWithin (hd : d.HasHere) {above : Nat} (hp : p.IsProper)
    (h : d.IsMissingWithin p above) :
    ∃ l, d.entry? l = none ∧
      entry? (d.makeDirectoriesFrom p above).disk l = some .directory := by
  induction above generalizing p with
  | zero =>
    rw [makeDirectoriesFrom, forgiveDirectory_disk]
    rcases d.makeDirectory_cases p with ⟨l, hl, hmade⟩ | ⟨hnothing, -⟩ | ⟨hfree, -⟩
    · rw [hmade]
      exact ⟨l, entry?_of_locate_free hl, entry?_put_of_locate_free hl⟩
    · have hfree : ∀ l, d.locate false p.toText ≠ .ok (.free l) :=
        fun l hl => by cases hnothing.symm.trans hl
      exact absurd rfl (locate_of_isMissingWithin hd hp h hfree).2
    · exact absurd rfl (locate_of_isMissingWithin hd hp h hfree).2
  | succ above ih =>
    rw [makeDirectoriesFrom]
    dsimp only
    rcases d.makeDirectory_cases p with ⟨l, hl, hmade⟩ | ⟨hnothing, hmissing, -⟩ |
      ⟨hfree, hother, -⟩
    · rw [hmade, if_neg (by simp [Change.notFound]), forgiveDirectory_disk]
      exact ⟨l, entry?_of_locate_free hl, entry?_put_of_locate_free hl⟩
    · obtain ⟨l, hnone, hmade⟩ :=
        ih (Path.parent_isProper hp) ((isMissingWithin_succ_iff hp hnothing).mp h)
      rw [if_pos hmissing]
      refine ⟨l, hnone, ?_⟩
      split
      · exact hmade
      · -- What has been made above stays when the last directory is made.
        have hkept := (keeps_makeDirectory (d.makeDirectoriesFrom p.parent above).disk p).directory
          l hmade
        split
        · exact hkept
        · rw [forgiveDirectory_disk]
          exact hkept
    · exact absurd (locate_of_isMissingWithin hd hp h hfree).1 hother

theorem makeDirectories_of_not_isMissing (hp : p.IsProper) (h : ¬d.IsMissing p) :
    (d.makeDirectories p).disk = d :=
  makeDirectoriesFrom_of_not_isMissingWithin hp (mt isMissingWithin_length_iff.mp h)

theorem exists_made_of_isMissing (hd : d.HasHere) (hp : p.IsProper) (h : d.IsMissing p) :
    ∃ l, d.entry? l = none ∧ entry? (d.makeDirectories p).disk l = some .directory :=
  exists_made_of_isMissingWithin hd hp (isMissingWithin_length_iff.mpr h)

/-! ## Files in directories -/

/-- A file can only be written into a directory that is there. -/
theorem holdsDirectory_of_writable? (hd : d.IsTree) {name : Text}
    (hp : (⟨p.anchor, p.parts ++ [name]⟩ : Path).IsProper)
    (h : d.writable? ⟨p.anchor, p.parts ++ [name]⟩ = some l) : d.holdsDirectory p := by
  have hfront : p.IsProper := fun name' hname => hp name' (List.mem_append_left [name] hname)
  obtain ⟨here, hstart, hwalk⟩ := place?_eq_some_iff.mp (place?_of_writable? h)
  obtain ⟨hspeak, hsize, hhere⟩ := (start_eq_ok_iff hp).mp hstart
  have hdir := entry?_start hd.here hstart
  obtain ⟨k, mid, hleads, hlast⟩ : ∃ k mid, d.Leads linkLimit here p.parts k mid ∧
      ∃ landing, d.walk true k mid [name] = .ok landing := by
    rw [walk_steps_toText hp hdir] at hwalk
    rcases hwalk with hwalk | hwalk
    · obtain ⟨k, mid, hleads, hlast⟩ := walk_split (by simp) hwalk
      exact ⟨k, mid, hleads, _, hlast⟩
    · obtain ⟨k, mid, hleads, hlast⟩ := walk_split (by simp) hwalk
      exact ⟨k, mid, hleads, _, hlast⟩
  -- A walk goes on from directories only.
  have hmid : d.entry? mid = some .directory := by
    obtain ⟨landing, hlast⟩ := hlast
    by_contra hnot
    obtain ⟨fault, hfault⟩ := walk_of_not_directory hnot
    cases hfault.symm.trans hlast
  have hsize' : byteCount p.toText ≤ pathLimit :=
    (byteCount_front_le p.anchor p.parts [name]).trans hsize
  refine holds_eq_true_iff.mpr ⟨mid, .directory, (status_eq_ok_iff hd.here hfront).mpr
    ⟨?_, hsize', here, k, hhere, hleads, hmid⟩, rfl⟩
  rw [isSpeakable_toText hp] at hspeak
  exact isSpeakable_toText_of_forall fun name' hname => hspeak name' (List.mem_append_left _ hname)

end Disk

end StyleImport
