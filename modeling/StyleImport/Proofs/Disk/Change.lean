import StyleImport.Disk.Change
import StyleImport.Proofs.Disk.Status

/-!
# Making directories and writing files

Making directories and writing files keeps all that is there, whether it fails or not. A directory
that is there is not made again, and after directories have been made one is seen at the path.
Writing a text puts its bytes at one place, which other written files do not move.

## Main definitions

- `Disk.writable?`: the place of the file that is written at a path.
- `Disk.writtenBytes`: what is in a file after a text has been written to it.

## Main statements

- `Disk.makeDirectoriesFrom_induction`: what the making of each directory keeps is kept.
- `Disk.makeDirectoriesFrom_of_holdsDirectory`: a directory that is there is not made again.
- `Disk.status_of_linkStatus`: what is no link is seen whether links are followed or not.
- `Disk.of_makeDirectoriesFrom`: how directories are made.
- `Disk.holdsDirectory_of_makeDirectories`: directories that have been made are seen.
- `Disk.writable?_eq_some_iff`: where a file can be written.
- `Disk.writeText_disk`, `Disk.of_writeText_fault_eq_none`: writing a text.
- `Disk.writable?_grows`: writing files does not change the place that belongs to a path.
- `Disk.isTree_makeDirectoriesFrom`, `Disk.isTree_writeText`: trees stay trees.
-/

namespace StyleImport

namespace Disk

variable {d d' : Disk} {n : Nat} {here l : Location} {names : List Text} {path : Path} {t : Text}

/-! ## Making directories -/

theorem keeps_makeDirectory (d : Disk) (path : Path) : d.Keeps (d.makeDirectory path).disk := by
  unfold makeDirectory
  split
  · exact .refl d
  · exact .refl d
  · next hfree => exact keeps_put_of_none _ (entry?_of_locate_free hfree)

@[simp] theorem forgiveDirectory_disk (path : Path) (c : Change) :
    (forgiveDirectory path c).disk = c.disk := by
  unfold forgiveDirectory
  split
  · rfl
  · split
    · rfl
    · split <;> rfl

/-- What the making of one directory keeps is kept when all missing ones are made, also if this
fails half-way. -/
theorem makeDirectoriesFrom_induction {P : Disk → Prop} (d : Disk) (path : Path) (above : Nat)
    (hstep : ∀ (d' : Disk) (path' : Path), P d' → P (d'.makeDirectory path').disk) (h : P d) :
    P (d.makeDirectoriesFrom path above).disk := by
  induction above generalizing path with
  | zero =>
    rw [makeDirectoriesFrom, forgiveDirectory_disk]
    exact hstep d path h
  | succ above ih =>
    rw [makeDirectoriesFrom]
    dsimp only
    split
    · split
      · exact ih path.parent
      · split
        · exact hstep _ path (ih path.parent)
        · rw [forgiveDirectory_disk]
          exact hstep _ path (ih path.parent)
    · rw [forgiveDirectory_disk]
      exact hstep d path h

/-- Making directories keeps what is there, also if it fails half-way. -/
theorem keeps_makeDirectories (d : Disk) (path : Path) : d.Keeps (d.makeDirectories path).disk :=
  makeDirectoriesFrom_induction d path _
    (fun d' path' hk => hk.trans (keeps_makeDirectory d' path')) (.refl d)

/-- What is put at a free place lies in a directory. -/
theorem isTree_put_of_locate_free {followLast : Bool} {path : Text} {e : Entry} (hd : d.IsTree)
    (h : d.locate followLast path = .ok (.free l)) (he : HasSpeakableTarget e) :
    (d.put l e).IsTree := by
  obtain ⟨here, hstart, hwalk⟩ := locate_eq_ok_iff.mp h
  obtain ⟨dir, name, rfl, hdir, hname⟩ :=
    exists_directory_of_walk_free hd (isPiece_steps (isSpeakable_of_start hstart)) hwalk
  refine hd.put (by simp) ?_ ?_ ?_ he
  · rwa [List.dropLast_concat]
  · intro name' hmem
    rcases List.mem_append.mp hmem with hmem | hmem
    · exact hd.isEntryName hdir name' hmem
    · rwa [List.mem_singleton.mp hmem]
  · rw [entry?_of_walk_free hwalk]
    simp

theorem isTree_makeDirectory (hd : d.IsTree) (path : Path) :
    (d.makeDirectory path).disk.IsTree := by
  unfold makeDirectory
  split
  · exact hd
  · exact hd
  · next hfree => exact isTree_put_of_locate_free hd hfree trivial

theorem isTree_makeDirectoriesFrom (hd : d.IsTree) (path : Path) (above : Nat) :
    (d.makeDirectoriesFrom path above).disk.IsTree :=
  makeDirectoriesFrom_induction d path above
    (fun _ path' hd' => isTree_makeDirectory hd' path') hd

/-! ## A directory that is there -/

/-- A walk that comes to something with the link at its end followed comes to something without
following it. -/
theorem exists_walk_false (h : d.walk true n here names = .ok (.occupied l)) :
    ∃ l', d.walk false n here names = .ok (.occupied l') := by
  fun_induction walk d true n here names with
  | case1 n here => exact ⟨here, by rw [walk]⟩
  | case5 n here name rest hdir hblank ih =>
    rw [walk_stay hdir hblank]
    exact ih h
  | case6 n here rest hdir hblank ih =>
    rw [walk_up hdir]
    exact ih h
  | case12 here name rest hdir hblank hdots hlong target he hlast n ih =>
    rw [walk_step hdir ⟨hblank, hdots, Nat.not_lt.mp hlong⟩, he]
    by_cases hrest : rest = []
    · exact ⟨_, if_pos ⟨hrest, rfl⟩⟩
    · obtain ⟨l', hl'⟩ := ih h
      exact ⟨l', (if_neg fun hstop => hrest hstop.1).trans hl'⟩
  | case13 n here name rest hdir hblank hdots hlong e hlink he ih =>
    rw [walk_enter hdir ⟨hblank, hdots, Nat.not_lt.mp hlong⟩ he hlink]
    exact ih h
  | case10 n here name rest hdir hblank hdots hlong target he hlast => simp at hlast
  | _ => cases h

/-- A walk that comes to no link without following it comes to the same place with the link at its
end followed. -/
theorem walk_true_of_walk_false (h : d.walk false n here names = .ok (.occupied l))
    (hlink : ∀ target, d.entry? l ≠ some (.link target)) :
    d.walk true n here names = .ok (.occupied l) := by
  fun_induction walk d false n here names with
  | case1 n here =>
    rw [walk]
    exact h
  | case5 n here name rest hdir hblank ih =>
    rw [walk_stay hdir hblank]
    exact ih h
  | case6 n here rest hdir hblank ih =>
    rw [walk_up hdir]
    exact ih h
  | case10 n here name rest hdir hblank hdots hlong target he hlast =>
    cases h
    exact absurd he (hlink target)
  | case12 here name rest hdir hblank hdots hlong target he hlast n ih =>
    rw [walk_follow hdir ⟨hblank, hdots, Nat.not_lt.mp hlong⟩ he (.inr rfl)]
    exact ih h
  | case13 n here name rest hdir hblank hdots hlong e hnolink he ih =>
    rw [walk_enter hdir ⟨hblank, hdots, Nat.not_lt.mp hlong⟩ he hnolink]
    exact ih h
  | _ => cases h

/-- What stands at a path and is no link is seen there. -/
theorem status_of_linkStatus {path : Text} {e : Entry} (h : d.linkStatus path = .ok (l, e))
    (hlink : ∀ target, e ≠ .link target) : d.status path = .ok (l, e) := by
  obtain ⟨hlocate, he⟩ := statusBy_eq_ok_iff.mp h
  obtain ⟨here, hstart, hwalk⟩ := locate_eq_ok_iff.mp hlocate
  have hnolink : ∀ target, d.entry? l ≠ some (.link target) := fun target htarget =>
    hlink target (Option.some.inj (he.symm.trans htarget))
  exact status_eq_ok_of_locate.mpr
    ⟨locate_eq_ok_iff.mpr ⟨here, hstart, walk_true_of_walk_false hwalk hnolink⟩, he⟩

theorem locate_of_holds {test : Entry → Bool} (h : d.holds test path) :
    ∃ l', d.locate false path.toText = .ok (.occupied l') := by
  obtain ⟨l, e, hstatus, -⟩ := holds_eq_true_iff.mp h
  obtain ⟨hlocate, -⟩ := status_eq_ok_of_locate.mp hstatus
  obtain ⟨here, hstart, hwalk⟩ := locate_eq_ok_iff.mp hlocate
  obtain ⟨l', hwalk'⟩ := exists_walk_false hwalk
  exact ⟨l', locate_eq_ok_iff.mpr ⟨here, hstart, hwalk'⟩⟩

/-- A directory that is there is not made again. -/
theorem makeDirectoriesFrom_of_holdsDirectory (h : d.holdsDirectory path) (above : Nat) :
    d.makeDirectoriesFrom path above = ⟨none, d⟩ := by
  obtain ⟨l', hlocate⟩ := locate_of_holds h
  have hfirst : d.makeDirectory path = ⟨some (.system .occupied path.toText), d⟩ := by
    unfold makeDirectory
    rw [hlocate]
    rfl
  have hforgive : forgiveDirectory path ⟨some (.system .occupied path.toText), d⟩ = ⟨none, d⟩ := by
    unfold forgiveDirectory
    simp only [isDirectory_of_holdsDirectory h]
    rfl
  cases above with
  | zero => rw [makeDirectoriesFrom, hfirst, hforgive]
  | succ above =>
    rw [makeDirectoriesFrom, hfirst]
    exact (if_neg (by simp [Change.notFound, AccessFault.system?])).trans hforgive

theorem makeDirectories_of_holdsDirectory (h : d.holdsDirectory path) :
    d.makeDirectories path = ⟨none, d⟩ :=
  makeDirectoriesFrom_of_holdsDirectory h _

/-! ## A directory that has been made -/

/-- A walk that ended at a free place comes to what is put there. -/
theorem walk_put_of_free {followLast : Bool} {e : Entry} (he : ∀ target, e ≠ .link target)
    (h : d.walk false n here names = .ok (.free l)) :
    (d.put l e).walk followLast n here names = .ok (.occupied l) := by
  have hput : ∀ {m e'}, d.entry? m = some e' → entry? (d.put l e) m = some e' :=
    fun hm => entry?_put_of_none e (entry?_of_walk_free h) hm
  fun_induction walk d false n here names with
  | case5 n here name rest hdir hblank ih =>
    rw [walk_stay (hput hdir) hblank]
    exact ih h
  | case6 n here rest hdir hblank ih =>
    rw [walk_up (hput hdir)]
    exact ih h
  | case8 n here name hdir hblank hdots hlong hnone =>
    cases h
    have hnew : entry? (d.put (here ++ [name]) e) (here ++ [name]) = some e := by
      rw [entry?_put d _ e (by simp), if_pos rfl]
    rw [walk_enter (hput hdir) ⟨hblank, hdots, Nat.not_lt.mp hlong⟩ hnew he, walk]
  | case12 here name rest hdir hblank hdots hlong target htarget hlast n ih =>
    rw [walk_step (hput hdir) ⟨hblank, hdots, Nat.not_lt.mp hlong⟩, hput htarget]
    exact (if_neg fun hstop => hlast ⟨hstop.1, rfl⟩).trans (ih h)
  | case13 n here name rest hdir hblank hdots hlong e' hlink he' ih =>
    rw [walk_enter (hput hdir) ⟨hblank, hdots, Nat.not_lt.mp hlong⟩ (hput he') hlink]
    exact ih h
  | _ => cases h

/-- A directory that is put at a free place is seen at the path that leads there. -/
theorem status_put_directory {path : Text} (h : d.locate false path = .ok (.free l)) :
    (d.put l .directory).status path = .ok (l, .directory) := by
  obtain ⟨here, hstart, hwalk⟩ := locate_eq_ok_iff.mp h
  have hl : l ≠ [] := by
    rintro rfl
    cases (entry?_nil d).symm.trans (entry?_of_walk_free hwalk)
  refine status_eq_ok_of_locate.mpr ⟨?_, ?_⟩
  · refine locate_eq_ok_iff.mpr ⟨here, (start_congr rfl _).trans hstart, ?_⟩
    exact walk_put_of_free (by simp) hwalk
  · rw [entry?_put d l _ hl, if_pos rfl]

/-- A directory is made at a free place to which its path leads. -/
theorem exists_free_of_makeDirectory (h : (d.makeDirectory path).fault = none) :
    ∃ l, d.locate false path.toText = .ok (.free l) ∧
      (d.makeDirectory path).disk = d.put l .directory := by
  unfold makeDirectory at h ⊢
  split
  · next hlocate => simp [hlocate, unchanged] at h
  · next hlocate => simp [hlocate, unchanged] at h
  · next l hlocate => exact ⟨l, hlocate, rfl⟩

/-- A directory that has been made is seen, at a place where nothing stood. -/
theorem status_of_makeDirectory (h : (d.makeDirectory path).fault = none) :
    ∃ l, d.entry? l = none ∧ (d.makeDirectory path).disk = d.put l .directory ∧
      (d.makeDirectory path).disk.status path.toText = .ok (l, .directory) := by
  obtain ⟨l, hlocate, hdisk⟩ := exists_free_of_makeDirectory h
  rw [hdisk]
  exact ⟨l, entry?_of_locate_free hlocate, rfl, status_put_directory hlocate⟩

theorem holdsDirectory_of_makeDirectory (h : (d.makeDirectory path).fault = none) :
    (d.makeDirectory path).disk.holdsDirectory path := by
  obtain ⟨l, -, -, hstatus⟩ := status_of_makeDirectory h
  exact holds_eq_true_iff.mpr ⟨l, .directory, hstatus, rfl⟩

/-- The making of a directory succeeds, where failing is forgiven, if it is made or is there. -/
theorem of_forgiveDirectory {c : Change} (h : (forgiveDirectory path c).fault = none) :
    c.fault = none ∨ c.disk.holdsDirectory path := by
  unfold forgiveDirectory at h
  split at h
  · exact .inl h
  · split at h
    · exact .inl h
    · split at h
      · cases h
      · next hdir => exact .inr (holdsDirectory_of_isDirectory hdir)
      · exact .inl h

theorem holdsDirectory_of_forgiveDirectory
    (h : (forgiveDirectory path (d.makeDirectory path)).fault = none) :
    (d.makeDirectory path).disk.holdsDirectory path :=
  (of_forgiveDirectory h).elim holdsDirectory_of_makeDirectory id

theorem fault_of_notFound {c : Change} (h : c.notFound) : c.fault ≠ none := by
  intro hnone
  simp [Change.notFound, hnone] at h

/-- How directories are made: the last one on the path is made either at once or after all above
it have been made. -/
theorem of_makeDirectoriesFrom {above : Nat} (h : (d.makeDirectoriesFrom path above).fault = none) :
    ∃ d₁, (d₁ = d ∨ ∃ above', above = above' + 1 ∧ (d.makeDirectory path).notFound ∧
        (d.makeDirectoriesFrom path.parent above').fault = none ∧
        d₁ = (d.makeDirectoriesFrom path.parent above').disk ∧
        ¬(d₁.makeDirectory path).notFound) ∧
      (forgiveDirectory path (d₁.makeDirectory path)).fault = none ∧
      (d.makeDirectoriesFrom path above).disk = (d₁.makeDirectory path).disk := by
  cases above with
  | zero =>
    rw [makeDirectoriesFrom] at h ⊢
    exact ⟨d, .inl rfl, h, forgiveDirectory_disk _ _⟩
  | succ above =>
    rw [makeDirectoriesFrom] at h ⊢
    dsimp only at h ⊢
    by_cases hmissing : (d.makeDirectory path).notFound
    · rw [if_pos hmissing] at h ⊢
      cases hparents : (d.makeDirectoriesFrom path.parent above).fault with
      | some fault => simp [hparents] at h
      | none =>
        simp only [hparents] at h ⊢
        -- A second attempt that finds a directory missing again would end in this fault.
        have hsecond : ¬((d.makeDirectoriesFrom path.parent above).disk.makeDirectory
            path).notFound := by
          intro hsecond
          rw [if_pos hsecond] at h
          exact fault_of_notFound hsecond h
        rw [if_neg hsecond] at h ⊢
        exact ⟨_, .inr ⟨above, rfl, hmissing, hparents, rfl, hsecond⟩, h,
          forgiveDirectory_disk _ _⟩
    · rw [if_neg hmissing] at h ⊢
      exact ⟨d, .inl rfl, h, forgiveDirectory_disk _ _⟩

/-- Directories that have been made are seen. -/
theorem holdsDirectory_of_makeDirectories (h : (d.makeDirectories path).fault = none) :
    (d.makeDirectories path).disk.holdsDirectory path := by
  obtain ⟨d₁, -, hlast, hdisk⟩ := of_makeDirectoriesFrom h
  rw [makeDirectories, hdisk]
  exact holdsDirectory_of_forgiveDirectory hlast

/-! ## Writing files -/

/-- The place of the file that is written at a path: one at which a file or nothing stands. -/
def writable? (d : Disk) (path : Path) : Option Location :=
  match d.locate true path.toText with
  | .ok (.free l) => some l
  | .ok (.occupied l) => if (d.entry? l).any (·.isFile) then some l else none
  | .error _ => none

/-- What is in a file after a text has been written to it: nothing, if the text has no bytes. -/
def writtenBytes (t : Text) : List UInt8 :=
  match Utf8.encode? t with
  | .ok bytes => bytes
  | .error _ => []

/-- A file can be written just where a file or nothing stands. -/
theorem writable?_eq_some_iff :
    d.writable? path = some l ↔ d.locate true path.toText = .ok (.free l) ∨
      d.locate true path.toText = .ok (.occupied l) ∧ ∃ bytes, d.entry? l = some (.file bytes) := by
  unfold writable?
  cases d.locate true path.toText with
  | error fault => simp
  | ok landing =>
    cases landing with
    | free l' => simp
    | occupied l' =>
      have hfile : (d.entry? l').any (·.isFile) ↔ ∃ bytes, d.entry? l' = some (.file bytes) := by
        cases d.entry? l' with
        | none => simp
        | some e => cases e <;> simp [Entry.isFile]
      simp only [hfile, Option.ite_none_right_eq_some, Option.some.injEq]
      constructor
      · rintro ⟨hbytes, rfl⟩
        exact .inr ⟨rfl, hbytes⟩
      · rintro (hfree | ⟨hoccupied, hbytes⟩)
        · cases hfree
        · cases hoccupied
          exact ⟨hbytes, rfl⟩

theorem isFile_of_writable? {e : Entry} (h : d.writable? path = some l) (he : d.entry? l = some e) :
    e.isFile := by
  rcases writable?_eq_some_iff.mp h with hfree | ⟨-, bytes, hfile⟩
  · rw [entry?_of_locate_free hfree] at he
    cases he
  · cases he.symm.trans hfile
    rfl

theorem writeBytes_of_writable? (bytes : List UInt8) (h : d.writable? path = some l) :
    d.writeBytes path bytes = ⟨none, d.put l (.file bytes)⟩ := by
  unfold writeBytes
  rcases writable?_eq_some_iff.mp h with hfree | ⟨hoccupied, bytes', hfile⟩
  · rw [hfree]
  · rw [hoccupied]
    simp only [hfile]

theorem writeBytes_of_not_writable? (bytes : List UInt8) (h : d.writable? path = none) :
    ∃ fault, d.writeBytes path bytes = ⟨some fault, d⟩ := by
  unfold writable? at h
  unfold writeBytes
  split at h
  · cases h
  · next l' hlocate =>
    rw [hlocate]
    split at h
    · cases h
    · next hfile =>
      dsimp only
      split
      · next bytes' he => simp [he, Entry.isFile] at hfile
      · exact ⟨_, rfl⟩
  · next fault hlocate =>
    rw [hlocate]
    exact ⟨fault, rfl⟩

/-- Writing a text to a file puts its bytes at the place of the file, and nothing else. -/
theorem writeText_disk (d : Disk) (path : Path) (t : Text) :
    (d.writeText path t).disk =
      match d.writable? path with
      | some l => d.put l (.file (writtenBytes t))
      | none => d := by
  unfold writeText writtenBytes
  cases Utf8.encode? t with
  | ok bytes =>
    dsimp only
    cases h : d.writable? path with
    | some l => rw [writeBytes_of_writable? bytes h]
    | none =>
      obtain ⟨fault, hfault⟩ := writeBytes_of_not_writable? bytes h
      rw [hfault]
  | error fault =>
    dsimp only
    cases h : d.writable? path with
    | some l => rw [writeBytes_of_writable? [] h]
    | none =>
      obtain ⟨fault, hfault⟩ := writeBytes_of_not_writable? [] h
      rw [hfault]

/-- A text that has been written has bytes, and there was a place for it. -/
theorem of_writeText_fault_eq_none (h : (d.writeText path t).fault = none) :
    Utf8.encode? t = .ok (writtenBytes t) ∧ ∃ l, d.writable? path = some l := by
  unfold writeText at h
  unfold writtenBytes
  cases hencode : Utf8.encode? t with
  | ok bytes =>
    refine ⟨rfl, ?_⟩
    rw [hencode] at h
    cases hplace : d.writable? path with
    | some l => exact ⟨l, rfl⟩
    | none =>
      obtain ⟨fault, hfault⟩ := writeBytes_of_not_writable? bytes hplace
      simp [hfault] at h
  | error fault =>
    rw [hencode] at h
    dsimp only at h
    split at h
    · next hfault => simp [hfault] at h
    · cases h

/-- Writing files does not change the place that belongs to a path. -/
theorem writable?_grows (hd : d.IsTree) (hg : d.Grows d') (path : Path) :
    d'.writable? path = d.writable? path := by
  have hends := locate_grows hg path.toText
  unfold writable?
  cases hlocate : d.locate true path.toText with
  | error fault =>
    rw [hlocate] at hends
    obtain ⟨fault', hfault⟩ := hends
    rw [hfault]
  | ok landing =>
    rw [hlocate] at hends
    cases landing with
    | occupied l =>
      -- What stands at an occupied place stays a file or stays something else.
      rw [show d'.locate true path.toText = .ok (.occupied l) from hends]
      obtain ⟨e, he⟩ := entry?_of_locate_occupied hd hlocate
      cases e with
      | file bytes =>
        obtain ⟨bytes', he'⟩ := hg.file l bytes he
        simp [he, he', Entry.isFile]
      | directory => simp [he, hg.directory l he]
      | link target => simp [he, hg.link l target he]
    | free l =>
      rcases hends with hfree | ⟨hoccupied, bytes, hfile⟩
      · rw [hfree]
      · rw [hoccupied]
        simp [hfile, Entry.isFile]

/-- The place of the file that is written at a path is the place that the path names. -/
theorem place?_of_writable? (h : d.writable? path = some l) : d.place? path.toText = some l := by
  unfold place?
  rcases writable?_eq_some_iff.mp h with hfree | ⟨hoccupied, -⟩
  · rw [hfree]
  · rw [hoccupied]

/-- A file that can be written has an absolute path. -/
theorem absolute_of_writable? (hp : path.IsProper) (h : d.writable? path = some l) :
    ∃ full, d.absolute path = .ok full := by
  rcases writable?_eq_some_iff.mp h with hfree | ⟨hoccupied, -⟩
  · exact absolute_of_locate hp hfree
  · exact absolute_of_locate hp hoccupied

/-- Where a file can be written, only a text without bytes fails to be written, and then the file is
empty. -/
theorem writtenBytes_of_fault {fault : AccessFault} (hplace : d.writable? path = some l)
    (h : (d.writeText path t).fault = some fault) : writtenBytes t = [] := by
  unfold writtenBytes
  cases hencode : Utf8.encode? t with
  | error fault => rfl
  | ok bytes =>
    unfold writeText at h
    rw [hencode] at h
    dsimp only at h
    rw [writeBytes_of_writable? bytes hplace] at h
    cases h

theorem grows_writeText (d : Disk) (path : Path) (t : Text) :
    d.Grows (d.writeText path t).disk := by
  rw [writeText_disk]
  cases h : d.writable? path with
  | some l => exact grows_put _ fun e he => isFile_of_writable? h he
  | none => exact .refl d

theorem isTree_writeText (hd : d.IsTree) (path : Path) (t : Text) :
    (d.writeText path t).disk.IsTree := by
  rw [writeText_disk]
  cases hplace : d.writable? path with
  | none => exact hd
  | some l =>
    rcases writable?_eq_some_iff.mp hplace with hfree | ⟨-, bytes, hfile⟩
    · exact isTree_put_of_locate_free hd hfree trivial
    · have hl : l ≠ [] := by
        rintro rfl
        cases (entry?_nil d).symm.trans hfile
      exact hd.put hl (hd.entry?_dropLast hfile) (hd.isEntryName hfile) (by simp [hfile]) trivial

end Disk

end StyleImport
