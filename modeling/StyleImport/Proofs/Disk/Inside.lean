import StyleImport.Proofs.Disk.Removal

/-!
# What lies inside a directory

Two disks may be the same everywhere but inside one directory, where files have been written. A walk
notices this only if it comes to one of these files: it ends there, or it fails because a file
stands in its way.

## Main definitions

- `Disk.IsInside`: the places inside a directory.
- `Disk.SameOutside`: two disks are the same but for what lies inside a directory.
- `Disk.Fills`: from one disk to another one, only files inside a directory are written.

## Main statements

- `Disk.Fills.endsWithin_walk`: how a walk ends after files have been written inside a directory.
- `Disk.Fills.seenWithin_statusBy`: what stands at a path then.
-/

namespace StyleImport

namespace Disk

variable {d d' d'' : Disk} {top l : Location}

/-! ## Places inside a directory -/

/-- The place lies inside the directory, at any depth. -/
def IsInside (top l : Location) : Prop := within top l ∧ l ≠ top

instance (top l : Location) : Decidable (IsInside top l) := inferInstanceAs (Decidable (_ ∧ _))

theorem isInside_child (top : Location) (name : Text) : IsInside top (top ++ [name]) :=
  ⟨List.isPrefixOf_iff_prefix.mpr (List.prefix_append top [name]), by simp⟩

/-- The names that lead to a place inside begin with the name of something directly inside. -/
theorem exists_of_isInside (h : IsInside top l) : ∃ name rest, l = top ++ name :: rest := by
  obtain ⟨names, rfl⟩ := List.isPrefixOf_iff_prefix.mp h.1
  cases names with
  | nil => exact absurd (List.append_nil top) h.2
  | cons name rest => exact ⟨name, rest, rfl⟩

/-- On a tree something stands at every place above one at which something stands. -/
theorem IsTree.exists_entry_of_append (hd : d.IsTree) {names : List Text} {e : Entry}
    (h : d.entry? (l ++ names) = some e) : ∃ e', d.entry? l = some e' := by
  induction names using List.reverseRecOn generalizing e with
  | nil => exact ⟨e, by rwa [List.append_nil] at h⟩
  | append_singleton names name ih =>
    rw [← List.append_assoc] at h
    have hparent := hd.entry?_dropLast h
    rw [List.dropLast_concat] at hparent
    exact ih hparent

/-- On a tree nothing stands anywhere inside a directory if nothing stands directly in it. -/
theorem IsTree.entry?_of_isInside (hd : d.IsTree) (hempty : ∀ name, d.entry? (top ++ [name]) = none)
    (h : IsInside top l) : d.entry? l = none := by
  cases he : d.entry? l with
  | none => rfl
  | some e =>
    -- What stands deep inside has something above it that stands directly in the directory.
    obtain ⟨name, rest, rfl⟩ := exists_of_isInside h
    rw [← List.singleton_append, ← List.append_assoc] at he
    obtain ⟨e', he'⟩ := hd.exists_entry_of_append he
    rw [hempty name] at he'
    cases he'

/-! ## Disks that are the same outside a directory -/

/-- Outside a directory the same stands at every place, and the working directory is the same. -/
structure SameOutside (top : Location) (d d' : Disk) : Prop where
  /-- The working directory is the same. -/
  here : d'.workingDirectory = d.workingDirectory
  /-- The same stands at every place outside. -/
  entry : ∀ l, ¬IsInside top l → d'.entry? l = d.entry? l

theorem SameOutside.refl (top : Location) (d : Disk) : SameOutside top d d :=
  ⟨rfl, fun _ _ => rfl⟩

theorem SameOutside.trans (h : SameOutside top d d') (h' : SameOutside top d' d'') :
    SameOutside top d d'' where
  here := h'.here.trans h.here
  entry l hl := (h'.entry l hl).trans (h.entry l hl)

theorem sameOutside_put (e : Entry) (h : IsInside top l) : SameOutside top d (d.put l e) where
  here := rfl
  entry m hm := by
    by_cases hnil : m = []
    · rw [hnil, entry?_nil, entry?_nil]
    · have hml : m ≠ l := fun hml => hm (hml ▸ h)
      rw [entry?_put d l e hnil, if_neg hml]

/-! ## Files written inside a directory -/

/-- From the first disk to the second one files are written inside a directory, in which nothing but
files stand, and nothing else happens. -/
structure Fills (top : Location) (d d' : Disk) : Prop extends SameOutside top d d' where
  /-- Only files stand inside at the end. -/
  file : ∀ l e, IsInside top l → d'.entry? l = some e → e.isFile
  /-- What stood inside at the start was a file, and a file still stands there. -/
  kept : ∀ l e, IsInside top l → d.entry? l = some e →
    e.isFile ∧ ∃ e', d'.entry? l = some e'

namespace Fills

variable {n : Nat} {names : List Text} {followLast : Bool}

theorem exists_bytes {e : Entry} (h : e.isFile) : ∃ bytes, e = .file bytes := by
  cases e with
  | file bytes => exact ⟨bytes, rfl⟩
  | directory => cases h
  | link target => cases h

theorem directory (h : Fills top d d') (hl : d.entry? l = some .directory) :
    d'.entry? l = some .directory := by
  by_cases hin : IsInside top l
  · cases (h.kept l _ hin hl).1
  · rw [h.entry l hin, hl]

theorem link (h : Fills top d d') {target : Text} (hl : d.entry? l = some (.link target)) :
    d'.entry? l = some (.link target) := by
  by_cases hin : IsInside top l
  · cases (h.kept l _ hin hl).1
  · rw [h.entry l hin, hl]

/-- A file stays one, with other bytes perhaps. -/
theorem stays_file (h : Fills top d d') {bytes : List UInt8}
    (hl : d.entry? l = some (.file bytes)) : ∃ bytes', d'.entry? l = some (.file bytes') := by
  by_cases hin : IsInside top l
  · obtain ⟨-, e, he⟩ := h.kept l _ hin hl
    obtain ⟨bytes', rfl⟩ := exists_bytes (h.file l e hin he)
    exact ⟨bytes', he⟩
  · exact ⟨bytes, (h.entry l hin).trans hl⟩

/-- Files are written, and nothing else happens. -/
theorem grows (h : Fills top d d') : d.Grows d' where
  here := h.here
  directory _ := h.directory
  link _ _ := h.link
  file _ _ := h.stays_file
  oldDirectory l hl := by
    by_cases hin : IsInside top l
    · cases h.file l _ hin hl
    · rwa [← h.entry l hin]
  oldLink l target hl := by
    by_cases hin : IsInside top l
    · cases h.file l _ hin hl
    · rwa [← h.entry l hin]

/-- What newly stands somewhere lies inside the directory. -/
theorem isInside_of_new (h : Fills top d d') {e : Entry} (hold : d.entry? l = none)
    (hnew : d'.entry? l = some e) : IsInside top l := by
  by_contra hout
  rw [h.entry l hout, hold] at hnew
  cases hnew

/-- How a walk ends after files have been written inside a directory, seen from how it ended before:
it ends alike unless it comes to one of these files. -/
inductive EndsWithin (top : Location) :
    Except SystemFault Landing → Except SystemFault Landing → Prop
  /-- The walk ends as before. -/
  | same (r : Except SystemFault Landing) : EndsWithin top r r
  /-- The walk ends at a place inside where nothing stood before. -/
  | reaches {l : Location} (hin : IsInside top l) :
      EndsWithin top (.ok (.free l)) (.ok (.occupied l))
  /-- A file stands in the way where nothing stood before. -/
  | blocked : EndsWithin top (.error .notFound) (.error .notDirectory)

/-- Files written inside a directory are noticed by a walk only if it comes to one of them. -/
theorem endsWithin_walk (h : Fills top d d') :
    EndsWithin top (d.walk followLast n l names) (d'.walk followLast n l names) := by
  have hends : EndsGrown d d' (d.walk followLast n l names) (d'.walk followLast n l names) :=
    endsGrown_walk h.grows
  generalize d.walk followLast n l names = r at hends
  generalize d'.walk followLast n l names = r' at hends
  cases hends with
  | same => exact .same r
  | reaches hold hnew => exact .reaches (h.isInside_of_new hold hnew)
  | blocked hold hnew => exact .blocked

/-! ## What stands at a path -/

/-- What stands at a path after files have been written inside a directory, seen from what stood
there before. -/
inductive SeenWithin (top : Location) (path : Text) :
    Except AccessFault (Location × Entry) → Except AccessFault (Location × Entry) → Prop
  /-- The same is seen at the path. -/
  | same (r : Except AccessFault (Location × Entry)) : SeenWithin top path r r
  /-- A file inside was written anew. -/
  | rewritten {l : Location} {bytes bytes' : List UInt8} (hin : IsInside top l) :
      SeenWithin top path (.ok (l, .file bytes)) (.ok (l, .file bytes'))
  /-- A file inside is seen where nothing was seen before. -/
  | written {l : Location} {bytes : List UInt8} (hin : IsInside top l) :
      SeenWithin top path (.error (.system .notFound path)) (.ok (l, .file bytes))
  /-- A file stands in the way where nothing stood before. -/
  | blocked :
      SeenWithin top path (.error (.system .notFound path)) (.error (.system .notDirectory path))

/-- What is seen at a place to which a path is located on both disks. -/
theorem seenWithin_of_occupied (h : Fills top d d') {path : Text}
    (hold : d.locate followLast path = .ok (.occupied l))
    (hnew : d'.locate followLast path = .ok (.occupied l)) :
    SeenWithin top path (d.statusBy followLast path) (d'.statusBy followLast path) := by
  unfold statusBy
  rw [hold, hnew]
  dsimp only
  cases he' : d'.entry? l with
  | none =>
    cases he : d.entry? l with
    | none => exact .same _
    | some e =>
      -- Files stay, and so does what lies outside.
      by_cases hin : IsInside top l
      · obtain ⟨e', hkept⟩ := (h.kept l e hin he).2
        cases he'.symm.trans hkept
      · rw [h.entry l hin, he] at he'
        cases he'
  | some e' =>
    cases he : d.entry? l with
    | none =>
      obtain ⟨bytes, rfl⟩ := h.grows.exists_bytes_of_new he he'
      exact .written (h.isInside_of_new he he')
    | some e =>
      by_cases hin : IsInside top l
      · obtain ⟨bytes, rfl⟩ := exists_bytes (h.kept l e hin he).1
        obtain ⟨bytes', rfl⟩ := exists_bytes (h.file l e' hin he')
        exact .rewritten hin
      · rw [h.entry l hin, he] at he'
        cases he'
        exact .same _

/-- Files written inside a directory are seen at a path only if it leads to one of them or one of
them stands in its way. -/
theorem seenWithin_statusBy (h : Fills top d d') (followLast : Bool) (path : Text) :
    SeenWithin top path (d.statusBy followLast path) (d'.statusBy followLast path) := by
  cases hstart : d.start path with
  | error fault =>
    have hstart' : d'.start path = .error fault := (start_congr h.here path).trans hstart
    unfold statusBy
    rw [locate_eq, locate_eq, hstart, hstart']
    exact .same _
  | ok here =>
    have hstart' : d'.start path = .ok here := (start_congr h.here path).trans hstart
    -- The walks on both disks start at the same place, so they can be compared.
    have hlocate : ∀ disk : Disk, disk.start path = .ok here → disk.locate followLast path =
        (disk.walk followLast linkLimit here (steps path)).mapError (.system · path) := by
      intro disk hdisk
      rw [locate_eq, hdisk]
      rfl
    have hends : EndsWithin top (d.walk followLast linkLimit here (steps path))
        (d'.walk followLast linkLimit here (steps path)) := h.endsWithin_walk
    have hold := hlocate d hstart
    have hnew := hlocate d' hstart'
    generalize d.walk followLast linkLimit here (steps path) = r at hends hold
    generalize d'.walk followLast linkLimit here (steps path) = r' at hends hnew
    cases hends with
    | same r =>
      cases r with
      | error f =>
        unfold statusBy
        rw [hold, hnew]
        exact .same _
      | ok landing =>
        cases landing with
        | occupied l => exact h.seenWithin_of_occupied hold hnew
        | free l =>
          unfold statusBy
          rw [hold, hnew]
          exact .same _
    | @reaches l hin =>
      unfold statusBy
      rw [hold, hnew]
      dsimp only [Except.mapError]
      cases he' : d'.entry? l with
      | none => exact .same _
      | some e =>
        obtain ⟨bytes, rfl⟩ := exists_bytes (h.file l e hin he')
        exact .written hin
    | blocked =>
      unfold statusBy
      rw [hold, hnew]
      exact .blocked

end Fills

/-- The path leads to something inside the directory. -/
def LeadsInside (d : Disk) (top : Location) (path : Path) : Prop :=
  ∃ l e, d.status path.toText = .ok (l, e) ∧ IsInside top l

/-- A file stands in the way of the path. -/
def IsBlocked (d : Disk) (path : Path) : Prop :=
  d.status path.toText = .error (.system .notDirectory path.toText)

namespace Fills

variable {path : Path}

/-- The same is seen at a path that does not lead inside, unless a file newly stands in its way. -/
theorem status_eq (h : Fills top d d') (hout : ¬d'.LeadsInside top path)
    (hblocked : d'.IsBlocked path → d.IsBlocked path) :
    d'.status path.toText = d.status path.toText := by
  have hseen := h.seenWithin_statusBy true path.toText
  unfold IsBlocked at hblocked
  unfold LeadsInside at hout
  simp only [status] at hblocked hout ⊢
  generalize d.statusBy true path.toText = r at hseen hblocked
  generalize d'.statusBy true path.toText = r' at hseen hblocked hout
  cases hseen with
  | same => rfl
  | rewritten hin => exact absurd ⟨_, _, rfl, hin⟩ hout
  | written hin => exact absurd ⟨_, _, rfl, hin⟩ hout
  | blocked => exact (hblocked rfl).symm

/-- A path that leads inside leads to a file. -/
theorem holdsFile_of_leadsInside (h : Fills top d d') (hin : d'.LeadsInside top path) :
    d'.holdsFile path := by
  obtain ⟨l, e, hstatus, hl⟩ := hin
  exact holds_eq_true_iff.mpr
    ⟨l, e, hstatus, h.file l e hl (status_eq_ok_of_locate.mp hstatus).2⟩

/-- Whether a directory is seen at a path stays the same. -/
theorem isDirectory_eq (h : Fills top d d') (path : Path) :
    d'.isDirectory path = d.isDirectory path := by
  have hseen := h.seenWithin_statusBy true path.toText
  unfold isDirectory isAt status
  generalize d.statusBy true path.toText = r at hseen ⊢
  generalize d'.statusBy true path.toText = r' at hseen ⊢
  cases hseen <;> rfl

/-- Whether a file is seen at a path that does not lead inside stays the same. -/
theorem holdsFile_eq (h : Fills top d d') (hout : ¬d'.LeadsInside top path) :
    d'.holdsFile path = d.holdsFile path := by
  have hseen := h.seenWithin_statusBy true path.toText
  unfold LeadsInside at hout
  unfold holdsFile holds
  simp only [status] at hout ⊢
  generalize d.statusBy true path.toText = r at hseen ⊢
  generalize d'.statusBy true path.toText = r' at hseen hout ⊢
  cases hseen with
  | same => rfl
  | rewritten hin => rfl
  | written hin => exact absurd ⟨_, _, rfl, hin⟩ hout
  | blocked => rfl

end Fills

end Disk

end StyleImport
