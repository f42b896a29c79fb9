import StyleImport.Proofs.Disk.Leads
import StyleImport.Proofs.Effect

/-!
# What paths name

A proper path that can be handed to the system and is not too long names the place to which its
names lead. The absolute form of a path names the same place, unless it is too long.

## Main definitions

- `Disk.holds`, `Disk.holdsFile`, `Disk.holdsDirectory`: what is seen at a path.
- `Disk.IsTooLong`: the paths that the system refuses.

## Main statements

- `Disk.status_eq_ok_iff`: what stands at a proper path.
- `Disk.walk_absolute`: where the absolute form of a path leads.
- `Disk.locate_grows`: writing files does not change which place a path names.
-/

namespace StyleImport

namespace Disk

variable {d d' : Disk} {p q : Path} {l : Location} {e : Entry}

/-- The working directory is a directory. -/
def HasHere (d : Disk) : Prop := ∀ l ∈ d.workingDirectory, d.entry? l = some .directory

theorem HasHere.keeps (h : d.HasHere) (hk : d.Keeps d') : d'.HasHere := by
  intro l hl
  rw [hk.here] at hl
  exact hk.directory l (h l hl)

/-! ## Where a walk starts -/

/-- The place from which the walk along a path starts, or why there is no walk. -/
def start (d : Disk) (path : Text) : Except AccessFault Location :=
  match unspeakable? path with
  | some fault => .error fault
  | none =>
    if path = [] then .error (.system .notFound path)
    else if pathLimit < byteCount path then .error (.system .nameTooLong path)
    else if path.head? = some (.scalar '/') then .ok []
    else match d.workingDirectory with
      | none => .error (.system .notFound path)
      | some here => .ok here

/-- Where a walk starts depends on the working directory only. -/
theorem start_congr (h : d'.workingDirectory = d.workingDirectory) (path : Text) :
    d'.start path = d.start path := by
  unfold start
  rw [h]

theorem isSpeakable_of_start {path : Text} (h : d.start path = .ok here) : IsSpeakable path := by
  unfold start at h
  split at h
  · cases h
  · next hspeak => exact unspeakable?_eq_none_iff.mp hspeak

/-- A path is located by a walk along its names. -/
theorem locate_eq (d : Disk) (followLast : Bool) (path : Text) :
    d.locate followLast path = (d.start path).bind fun here =>
      (d.walk followLast linkLimit here (steps path)).mapError (.system · path) := by
  unfold locate start
  cases unspeakable? path with
  | some fault => rfl
  | none =>
    dsimp only
    split
    · rfl
    · split
      · rfl
      · split
        · rfl
        · cases d.workingDirectory <;> rfl

theorem locate_eq_ok_iff {followLast : Bool} {path : Text} {landing : Landing} :
    d.locate followLast path = .ok landing ↔
      ∃ here, d.start path = .ok here ∧
        d.walk followLast linkLimit here (steps path) = .ok landing := by
  rw [locate_eq, bind_eq_ok_iff]
  simp only [mapError_eq_ok_iff]

/-- Nothing stands at a free place. -/
theorem entry?_of_locate_free {followLast : Bool} {path : Text}
    (h : d.locate followLast path = .ok (.free l)) : d.entry? l = none := by
  obtain ⟨here, -, hwalk⟩ := locate_eq_ok_iff.mp h
  exact entry?_of_walk_free hwalk

theorem entry?_start (hd : d.HasHere) {path : Text} {here : Location}
    (h : d.start path = .ok here) : d.entry? here = some .directory := by
  unfold start at h
  split at h
  · cases h
  · split at h
    · cases h
    · split at h
      · cases h
      · split at h
        · cases h
          exact entry?_nil d
        · split at h
          · cases h
          · next hhere =>
            cases h
            exact hd here hhere

/-- The place that the names of a path are seen from. -/
def origin? (d : Disk) (p : Path) : Option Location :=
  if p.isAbsolute then some [] else d.workingDirectory

theorem entry?_origin (hd : d.HasHere) {here : Location} (h : d.origin? p = some here) :
    d.entry? here = some .directory := by
  unfold origin? at h
  split at h
  · cases h
    exact entry?_nil d
  · exact hd here h

/-- There is a walk along a proper path if it can be handed to the system, is not too long and is
seen from some place. -/
theorem start_eq_ok_iff (hp : p.IsProper) {here : Location} :
    d.start p.toText = .ok here ↔
      IsSpeakable p.toText ∧ byteCount p.toText ≤ pathLimit ∧ d.origin? p = some here := by
  unfold start origin?
  rw [if_neg (Path.toText_ne_nil p), ← unspeakable?_eq_none_iff]
  simp only [Path.head?_toText hp]
  cases hspeak : unspeakable? p.toText with
  | some fault => simp
  | none =>
    by_cases hlong : pathLimit < byteCount p.toText
    · simp [hlong, Nat.not_le.mpr hlong]
    · by_cases habs : p.isAbsolute
      · simp [hlong, Nat.not_lt.mp hlong, habs]
      · cases hhere : d.workingDirectory <;> simp [hlong, Nat.not_lt.mp hlong, habs]

/-- The walk along a proper path is a walk along its names. -/
theorem walk_steps_toText {followLast : Bool} (hp : p.IsProper) {here : Location}
    (hdir : d.entry? here = some .directory) :
    d.walk followLast linkLimit here (steps p.toText) =
      d.walk followLast linkLimit here p.parts := by
  obtain ⟨blanks, hblanks, hsplit⟩ := Path.split_toText hp
  rw [steps, hsplit]
  exact walk_blanks hdir hblanks

/-! ## What stands at a path -/

/-- What stands at a path is what stands at the place to which the path is located. -/
theorem statusBy_eq_ok_iff {followLast : Bool} {path : Text} :
    d.statusBy followLast path = .ok (l, e) ↔
      d.locate followLast path = .ok (.occupied l) ∧ d.entry? l = some e := by
  unfold statusBy
  constructor
  · intro h
    split at h
    · cases h
    · cases h
    · next l' hlocate =>
      split at h
      · cases h
      · next he =>
        cases h
        exact ⟨hlocate, he⟩
  · rintro ⟨hlocate, he⟩
    rw [hlocate]
    simp only [he]

theorem status_eq_ok_of_locate {path : Text} :
    d.status path = .ok (l, e) ↔ d.locate true path = .ok (.occupied l) ∧ d.entry? l = some e :=
  statusBy_eq_ok_iff

/-- What stands at a proper path is what stands at the place to which its names lead. -/
theorem status_eq_ok_iff (hd : d.HasHere) (hp : p.IsProper) :
    d.status p.toText = .ok (l, e) ↔
      IsSpeakable p.toText ∧ byteCount p.toText ≤ pathLimit ∧
        ∃ here m, d.origin? p = some here ∧ d.Leads linkLimit here p.parts m l ∧
          d.entry? l = some e := by
  rw [status_eq_ok_of_locate, locate_eq_ok_iff]
  simp only [start_eq_ok_iff hp]
  constructor
  · rintro ⟨⟨here, ⟨hspeak, hsize, hhere⟩, hwalk⟩, he⟩
    rw [walk_steps_toText hp (entry?_origin hd hhere), walk_eq_occupied_iff] at hwalk
    obtain ⟨m, hleads⟩ := hwalk
    exact ⟨hspeak, hsize, here, m, hhere, hleads, he⟩
  · rintro ⟨hspeak, hsize, here, m, hhere, hleads, he⟩
    refine ⟨⟨here, ⟨hspeak, hsize, hhere⟩, ?_⟩, he⟩
    rw [walk_steps_toText hp (entry?_origin hd hhere)]
    exact hleads.walk_eq

/-! ## Paths at which nothing can be found -/

theorem isUnspeakable_of_unspeakable? {path : Text} {fault : AccessFault}
    (h : unspeakable? path = some fault) : fault.isUnspeakable := by
  unfold unspeakable? at h
  split at h
  · cases h
    rfl
  · split at h
    · cases h
      rfl
    · cases h

theorem statusBy_of_unspeakable? {followLast : Bool} {path : Text} {fault : AccessFault}
    (h : unspeakable? path = some fault) : d.statusBy followLast path = .error fault := by
  unfold statusBy locate
  simp only [h]

/-- A walk fails where nothing or no directory stands, at a name that is too long or at one link
too many. -/
theorem fault_of_walk {followLast : Bool} {n : Nat} {names : List Text} {f : SystemFault}
    (h : d.walk followLast n l names = .error f) :
    f = .notFound ∨ f = .notDirectory ∨ f = .tooManyLinks ∨ f = .nameTooLong := by
  fun_induction walk d followLast n l names with
  | case1 => cases h
  | case2 | case3 | case4 | case7 | case9 | case11 =>
    cases h
    simp
  | case5 _ _ _ _ _ _ ih | case6 _ _ _ _ _ ih => exact ih h
  | case8 => cases h
  | case10 => cases h
  | case12 _ _ _ _ _ _ _ _ _ _ _ ih | case13 _ _ _ _ _ _ _ _ _ _ _ ih => exact ih h

/-- No walk is started along a path that cannot be handed to the system, is empty or is too long, or
that is seen from no place. -/
theorem fault_of_start {path : Text} {fault : AccessFault} (h : d.start path = .error fault) :
    unspeakable? path = some fault ∨ fault = .system .notFound path ∨
      fault = .system .nameTooLong path := by
  unfold start at h
  split at h
  · next hspeak =>
    cases h
    exact .inl hspeak
  · split at h
    · cases h
      exact .inr (.inl rfl)
    · split at h
      · cases h
        exact .inr (.inr rfl)
      · split at h
        · cases h
        · split at h
          · cases h
            exact .inr (.inl rfl)
          · cases h

/-- A path that can be handed to the system is not located because it leads nowhere or because it is
too long. -/
theorem fault_of_locate {followLast : Bool} {path : Text} {fault : AccessFault}
    (h : d.locate followLast path = .error fault) :
    unspeakable? path = some fault ∨ ∃ f, fault = .system f path ∧
      (f = .notFound ∨ f = .notDirectory ∨ f = .tooManyLinks ∨ f = .nameTooLong) := by
  rw [locate_eq, bind_eq_error_iff] at h
  rcases h with hstart | ⟨here, -, hwalk⟩
  · rcases fault_of_start hstart with hspeak | rfl | rfl
    · exact .inl hspeak
    · exact .inr ⟨_, rfl, by simp⟩
    · exact .inr ⟨_, rfl, by simp⟩
  · obtain ⟨f, hf, rfl⟩ := mapError_eq_error_iff.mp hwalk
    exact .inr ⟨f, rfl, fault_of_walk hf⟩

theorem fault_of_statusBy {followLast : Bool} {path : Text} {fault : AccessFault}
    (h : d.statusBy followLast path = .error fault) :
    unspeakable? path = some fault ∨ ∃ f, fault = .system f path ∧
      (f = .notFound ∨ f = .notDirectory ∨ f = .tooManyLinks ∨ f = .nameTooLong) := by
  unfold statusBy at h
  split at h
  · next hlocate =>
    cases h
    exact fault_of_locate hlocate
  · cases h
    exact .inr ⟨_, rfl, by simp⟩
  · split at h
    · cases h
      exact .inr ⟨_, rfl, by simp⟩
    · cases h

/-- A path at which nothing is found for another reason than that nothing stands there is not
located for this reason. -/
theorem locate_of_status_error {path path' : Text} {f : SystemFault} (hf : f ≠ .notFound)
    (h : d.status path = .error (.system f path')) :
    d.locate true path = .error (.system f path') := by
  unfold status statusBy at h
  split at h
  · next hfault => rw [hfault, Except.error.inj h]
  · cases h
    exact absurd rfl hf
  · split at h
    · cases h
      exact absurd rfl hf
    · cases h

/-- The system gives the reason why nothing is found at a path that can be handed to it. -/
theorem system_of_statusBy {followLast : Bool} {path : Text} {fault : AccessFault}
    (hspeak : IsSpeakable path) (h : d.statusBy followLast path = .error fault) :
    ∃ f, fault = .system f path := by
  rcases fault_of_statusBy h with hnot | ⟨f, hf, -⟩
  · rw [unspeakable?_eq_none_iff.mpr hspeak] at hnot
    cases hnot
  · exact ⟨f, hf⟩

/-- Nothing is found at a path because it leads nowhere or because it is too long. -/
theorem fault_of_status {path : Text} {fault : AccessFault} (h : d.status path = .error fault) :
    meansNothing fault ∨ fault = .system .nameTooLong path := by
  rcases fault_of_statusBy h with hnot | ⟨f, rfl, hf⟩
  · have hunspeakable := isUnspeakable_of_unspeakable? hnot
    cases fault with
    | nullCharacter => exact .inl rfl
    | unencodable f => exact .inl rfl
    | _ => cases hunspeakable
  · rcases hf with rfl | rfl | rfl | rfl
    · exact .inl rfl
    · exact .inl rfl
    · exact .inl rfl
    · exact .inr rfl

/-- What stands at a path stands there under a text that can be handed to the system. -/
theorem isSpeakable_of_status {path : Text} (h : d.status path = .ok (l, e)) :
    IsSpeakable path := by
  cases hspeak : unspeakable? path with
  | none => exact unspeakable?_eq_none_iff.mp hspeak
  | some fault =>
    rw [status, statusBy_of_unspeakable? hspeak] at h
    cases h

/-- What is read from a path depends on what stands there only. -/
theorem readBytes_congr {path : Path} (h : d'.status path.toText = d.status path.toText) :
    d'.readBytes path = d.readBytes path := by
  unfold readBytes
  rw [h]

/-! ## What is seen at a path -/

section Seen

variable {path : Path} {test : Entry → Bool}

/-- Tells whether an entry that passes a test is seen at a path. -/
def holds (d : Disk) (test : Entry → Bool) (path : Path) : Bool :=
  match d.status path.toText with
  | .ok (_, e) => test e
  | .error _ => false

/-- Tells whether a regular file is seen at a path. -/
def holdsFile (d : Disk) (path : Path) : Bool := d.holds Entry.isFile path

theorem holds_eq_true_iff :
    d.holds test path ↔ ∃ l e, d.status path.toText = .ok (l, e) ∧ test e := by
  unfold holds
  split
  · next l e hstatus => simp [hstatus]
  · next hstatus => simp [hstatus]

theorem isSpeakable_of_holds (h : d.holds test path) :
    IsSpeakable path.toText := by
  obtain ⟨l, e, hstatus, -⟩ := holds_eq_true_iff.mp h
  exact isSpeakable_of_status hstatus

/-- Tells whether a directory is seen at a path. -/
def holdsDirectory (d : Disk) (path : Path) : Bool := d.holds Entry.isDirectory path

/-- The system refuses a path because it, or a name on it, is too long. -/
def IsTooLong (d : Disk) (path : Path) : Prop :=
  d.status path.toText = .error (.system .nameTooLong path.toText)

instance (d : Disk) (path : Path) : Decidable (d.IsTooLong path) :=
  inferInstanceAs (Decidable (d.status path.toText = _))

theorem isAt_of_isTooLong (h : d.IsTooLong path) :
    d.isAt test path = .error (.system .nameTooLong path.toText) := by
  unfold isAt
  rw [h]
  rfl

/-- Whether something of a kind stands at a path is known unless the path is too long. -/
theorem isAt_of_not_isTooLong (h : ¬d.IsTooLong path) :
    d.isAt test path = .ok (d.holds test path) := by
  unfold isAt holds
  cases hstatus : d.status path.toText with
  | ok x => rfl
  | error fault =>
    rcases fault_of_status hstatus with hfault | hfault
    · exact if_pos hfault
    · rw [hfault] at hstatus
      exact absurd hstatus h

theorem not_isTooLong_of_holds (h : d.holds test path) : ¬d.IsTooLong path := by
  obtain ⟨l, e, hstatus, -⟩ := holds_eq_true_iff.mp h
  intro hlong
  rw [hlong] at hstatus
  cases hstatus

theorem isDirectory_of_holdsDirectory (h : d.holdsDirectory path) :
    d.isDirectory path = .ok true := by
  rw [isDirectory, isAt_of_not_isTooLong (not_isTooLong_of_holds h)]
  exact congrArg Except.ok h

theorem holdsDirectory_of_isDirectory (h : d.isDirectory path = .ok true) :
    d.holdsDirectory path := by
  by_cases hlong : d.IsTooLong path
  · rw [isDirectory, isAt_of_isTooLong hlong] at h
    cases h
  · rw [isDirectory, isAt_of_not_isTooLong hlong] at h
    exact Except.ok.inj h

/-- No regular file is seen at the path of a directory. -/
theorem not_holdsFile_of_holdsDirectory (h : d.holdsDirectory path) : ¬d.holdsFile path := by
  intro hfile
  obtain ⟨l, entry, hstatus, hdirectory⟩ := holds_eq_true_iff.mp h
  obtain ⟨l', entry', hstatus', hfile⟩ := holds_eq_true_iff.mp hfile
  cases hstatus.symm.trans hstatus'
  cases entry <;> simp_all [Entry.isFile, Entry.isDirectory]

/-- Nothing is seen below the path of a regular file. -/
theorem not_holds_below_file (hd : d.HasHere) (hp : path.IsProper) (hfile : d.holdsFile path)
    {name : Text} (hname : Path.IsName name) : ¬d.holds test (path.child name) := by
  intro hholds
  obtain ⟨l, entry, hstatus, hentry⟩ := holds_eq_true_iff.mp hfile
  obtain ⟨l', entry', hstatus', -⟩ := holds_eq_true_iff.mp hholds
  obtain ⟨-, -, here, m, hhere, hleads, he⟩ := (status_eq_ok_iff hd hp).mp hstatus
  obtain ⟨-, -, here', m', hhere', hleads', -⟩ :=
    (status_eq_ok_iff hd (Path.child_isProper hp name)).mp hstatus'
  rw [Path.child_of_isName hname] at hhere' hleads'
  obtain rfl : here = here' := Option.some.inj (hhere.symm.trans hhere')
  -- Both walks come to the file, from which no name leads on.
  obtain ⟨k, mid, hfront, hback⟩ := hleads'.split
  obtain ⟨-, rfl⟩ := hfront.unique hleads
  cases he.symm.trans hback.entry?_of_cons
  cases hentry

end Seen

/-! ## Absolute paths -/

/-- The absolute form of a path depends on the working directory only. -/
theorem absolute_congr (h : d'.workingDirectory = d.workingDirectory) :
    d'.absolute p = d.absolute p := by
  unfold absolute cwd
  rw [h]

/-- The absolute form of a path starts at the root, behind the names of the place that the path is
seen from. -/
theorem absolute_eq_ok (h : d.absolute p = .ok q) :
    q.isAbsolute ∧ ∃ here, d.origin? p = some here ∧ q.parts = here ++ p.parts := by
  unfold absolute at h
  split at h
  · next habs =>
    cases h
    exact ⟨habs, [], if_pos habs, rfl⟩
  · next habs =>
    unfold cwd at h
    cases hhere : d.workingDirectory with
    | none =>
      rw [hhere] at h
      cases h
    | some here =>
      rw [hhere] at h
      have hrel : p.anchor = .relative := by simpa [Path.isAbsolute] using habs
      have hq : (Location.path here).join p = q := by simpa [Except.map] using h
      rw [Path.join, hrel] at hq
      rw [← hq]
      exact ⟨rfl, here, (if_neg habs).trans hhere, rfl⟩

/-- A proper path that leads somewhere is seen from some place. -/
theorem absolute_of_locate {followLast : Bool} {landing : Landing} (hp : p.IsProper)
    (h : d.locate followLast p.toText = .ok landing) : ∃ q, d.absolute p = .ok q := by
  obtain ⟨here, hstart, -⟩ := locate_eq_ok_iff.mp h
  obtain ⟨-, -, horigin⟩ := (start_eq_ok_iff hp).mp hstart
  unfold origin? at horigin
  unfold absolute
  by_cases habs : p.isAbsolute
  · exact ⟨p, if_pos habs⟩
  · rw [if_neg habs] at horigin
    rw [if_neg habs, cwd, horigin]
    exact ⟨_, rfl⟩

theorem absolute_isProper (hd : d.IsTree) (hp : p.IsProper) (h : d.absolute p = .ok q) :
    q.IsProper := by
  obtain ⟨-, here, hhere, hparts⟩ := absolute_eq_ok h
  intro name hname
  rw [hparts] at hname
  rcases List.mem_append.mp hname with hname | hname
  · exact (hd.isEntryName (entry?_origin hd.here hhere) name hname).1
  · exact hp name hname

theorem isSpeakable_absolute (hd : d.IsTree) (hp : p.IsProper) (h : d.absolute p = .ok q)
    (hspeak : IsSpeakable p.toText) : IsSpeakable q.toText := by
  obtain ⟨-, here, hhere, hparts⟩ := absolute_eq_ok h
  rw [isSpeakable_toText (absolute_isProper hd hp h)]
  rw [isSpeakable_toText hp] at hspeak
  intro name hname
  rw [hparts] at hname
  rcases List.mem_append.mp hname with hname | hname
  · exact (hd.isEntryName (entry?_origin hd.here hhere) name hname).2.2.2
  · exact hspeak name hname

/-- A walk along the names of the absolute form of a path comes to where a walk along the names of
the path comes. -/
theorem walk_absolute (hd : d.IsTree) (h : d.absolute p = .ok q) {here : Location}
    (hhere : d.origin? p = some here) :
    d.walk true linkLimit [] q.parts = d.walk true linkLimit here p.parts := by
  obtain ⟨-, here', hhere', hparts⟩ := absolute_eq_ok h
  have hsame : here' = here := Option.some.inj (hhere'.symm.trans hhere)
  have hleads : d.Leads linkLimit [] here linkLimit ([] ++ here) :=
    hd.leads_directory (entry?_origin hd.here hhere)
  rw [hparts, hsame, hleads.walk_append (.inr rfl), List.nil_append]

theorem entry?_of_locate_occupied (hd : d.IsTree) {path : Text}
    (h : d.locate true path = .ok (.occupied l)) : ∃ e, d.entry? l = some e := by
  obtain ⟨here, hstart, hwalk⟩ := locate_eq_ok_iff.mp h
  obtain ⟨m, hleads⟩ := walk_eq_occupied_iff.mp hwalk
  exact hleads.exists_entry hd ⟨_, entry?_start hd.here hstart⟩

/-! ## Paths after files are written -/

/-- Writing files does not change which place a path names. -/
theorem locate_grows (hg : d.Grows d') (path : Text) :
    EndsLike d' (d.locate true path) (d'.locate true path) := by
  rw [locate_eq, locate_eq, start_congr hg.here]
  cases d.start path with
  | error fault => exact ⟨fault, rfl⟩
  | ok here => exact (walk_grows hg).mapError _

/-- The place that a path names, whether something stands there or not. -/
def place? (d : Disk) (path : Text) : Option Location :=
  match d.locate true path with
  | .ok (.occupied l) => some l
  | .ok (.free l) => some l
  | .error _ => none

/-- After files have been written, a file stands at a path just if it stands at the place that the
path named before. -/
theorem status_eq_ok_iff_of_grows (hg : d.Grows d') {path : Text} {bytes : List UInt8} :
    d'.status path = .ok (l, .file bytes) ↔
      d.place? path = some l ∧ d'.entry? l = some (.file bytes) := by
  have hends := locate_grows hg path
  rw [status_eq_ok_of_locate]
  refine and_congr_left fun hfile => ?_
  unfold place?
  generalize d.locate true path = r at hends ⊢
  rcases r with fault | l' | l'
  · obtain ⟨fault', hfault⟩ := hends
    simp [hfault]
  · rw [show d'.locate true path = .ok (.occupied l') from hends]
    simp
  · rcases hends with hfree | ⟨hoccupied, -⟩
    · rw [hfree]
      refine iff_of_false (by simp) fun hl => ?_
      have hnone := entry?_of_locate_free hfree
      rw [Option.some.inj hl, hfile] at hnone
      cases hnone
    · rw [hoccupied]
      simp

theorem place?_eq_some_iff {path : Text} :
    d.place? path = some l ↔ ∃ here, d.start path = .ok here ∧
      (d.walk true linkLimit here (steps path) = .ok (.occupied l) ∨
        d.walk true linkLimit here (steps path) = .ok (.free l)) := by
  have hlocate : d.place? path = some l ↔
      d.locate true path = .ok (.occupied l) ∨ d.locate true path = .ok (.free l) := by
    unfold place?
    split <;> simp [*]
  rw [hlocate, locate_eq_ok_iff, locate_eq_ok_iff, ← exists_or]
  simp only [and_or_left]

/-- The absolute form of a path names the same place, unless it is too long. -/
theorem place?_absolute (hd : d.IsTree) (hp : p.IsProper) (h : d.absolute p = .ok q) {l' : Location}
    (hl : d.place? p.toText = some l) :
    d.place? q.toText = some l' ↔ byteCount q.toText ≤ pathLimit ∧ l = l' := by
  obtain ⟨here, hstart, hwalk⟩ := place?_eq_some_iff.mp hl
  obtain ⟨hspeak, -, hhere⟩ := (start_eq_ok_iff hp).mp hstart
  rw [walk_steps_toText hp (entry?_origin hd.here hhere), ← walk_absolute hd h hhere] at hwalk
  have hq := absolute_isProper hd hp h
  have hroot : d.origin? q = some [] := if_pos (absolute_eq_ok h).1
  rw [place?_eq_some_iff]
  constructor
  · rintro ⟨here', hstart', hwalk'⟩
    obtain ⟨-, hsize, hhere'⟩ := (start_eq_ok_iff hq).mp hstart'
    cases hroot.symm.trans hhere'
    rw [walk_steps_toText hq (entry?_nil d)] at hwalk'
    refine ⟨hsize, ?_⟩
    rcases hwalk with hwalk | hwalk
    · rcases hwalk' with hwalk' | hwalk' <;> cases hwalk.symm.trans hwalk'
      rfl
    · rcases hwalk' with hwalk' | hwalk' <;> cases hwalk.symm.trans hwalk'
      rfl
  · rintro ⟨hsize, rfl⟩
    refine ⟨[], (start_eq_ok_iff hq).mpr ⟨isSpeakable_absolute hd hp h hspeak, hsize, hroot⟩, ?_⟩
    rwa [walk_steps_toText hq (entry?_nil d)]

/-- A directory that is seen at a path is still seen there after files have been written. -/
theorem holdsDirectory_grows (hg : d.Grows d') (h : d.holdsDirectory p) : d'.holdsDirectory p := by
  obtain ⟨l, e, hstatus, he⟩ := holds_eq_true_iff.mp h
  obtain ⟨hlocate, hentry⟩ := status_eq_ok_of_locate.mp hstatus
  have hends := locate_grows hg p.toText
  rw [hlocate] at hends
  cases e with
  | file bytes => cases he
  | link target => cases he
  | directory =>
    exact holds_eq_true_iff.mpr ⟨l, .directory,
      status_eq_ok_of_locate.mpr ⟨hends, hg.directory l hentry⟩, rfl⟩

end Disk

end StyleImport
