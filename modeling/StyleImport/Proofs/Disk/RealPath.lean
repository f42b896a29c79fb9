import StyleImport.Disk.RealPath
import StyleImport.Proofs.Disk.Status

/-!
# Real paths

What holds for the names on a path, in the targets of links and on the way to the working directory
holds for the names on its real path. Working out a path that can be handed to the system never
meets one that cannot, so it has a real path unless links lead in a circle or there is nowhere to
see it from. A real path starts at the root.

## Main definitions

- `Disk.Trail.Forall`: what all paths of a trail satisfy.
- `Disk.beforeNames`: where the working out of a path starts.

## Main statements

- `Disk.follow_keeps`: what every name keeps is kept when names are worked out.
- `Disk.workOut_eq`: a path is worked out name by name.
- `Disk.workOut_forall`: what holds for the names on a path holds for those on its real path.
- `Disk.isUnspeakable_of_workOut`: how working out a path fails.
- `Disk.realPath_isProper`: real paths of proper paths are proper.
- `Disk.anchor_of_realPath`: real paths start at the root.
- `Disk.realPath_cases`: why a path has no real path.
-/

namespace StyleImport

namespace Disk

variable {d : Disk} {P : Text → Prop} {Q : Path → Prop}

/-- All paths of a trail satisfy a condition. -/
structure Trail.Forall (Q : Path → Prop) (trail : Trail) : Prop where
  /-- The real path. -/
  path : Q trail.path
  /-- The real paths of links. -/
  met : ∀ x ∈ trail.met, ∀ known, x.2 = some known → Q known

/-- All paths met by a working out satisfy a condition, up to where it fails. -/
def KeepsPaths (Q : Path → Prop) : Except AccessFault Trail → Prop
  | .ok trail => trail.Forall Q
  | .error fault => fault.isUnspeakable → ∃ p : Path, Q p ∧ ¬IsSpeakable p.toText

theorem stepTo_forall {path : Path} {name : Text} (hpath : ∀ n ∈ path.parts, P n) (hname : P name) :
    ∀ n ∈ (stepTo path name).parts, P n := by
  intro n hn
  have hfold : n ∈ [name].foldl (Path.pushNormal path.isAbsolute) path.parts.reverse :=
    List.mem_reverse.mp hn
  rcases Path.mem_foldl_pushNormal hfold with h | h
  · rw [List.mem_singleton.mp h]
    exact hname
  · exact hpath n (List.mem_reverse.mp h)

theorem linkStatus_of_linkAt {strict : Bool} {path : Path} {target : Text}
    (h : d.linkAt strict path = .ok (some target)) :
    ∃ l, d.entry? l = some (.link target) := by
  unfold linkAt at h
  split at h
  · next l target' hstatus =>
    cases h
    unfold linkStatus statusBy at hstatus
    split at hstatus
    · cases hstatus
    · cases hstatus
    · split at hstatus
      · cases hstatus
      · next he =>
        cases hstatus
        exact ⟨l, he⟩
  · cases h
  · split at h <;> cases h

theorem not_isSpeakable_of_linkAt {strict : Bool} {path : Path} {fault : AccessFault}
    (h : d.linkAt strict path = .error fault) (hfault : fault.isUnspeakable) :
    ¬IsSpeakable path.toText := by
  intro hspeak
  unfold linkAt at h
  split at h
  · cases h
  · cases h
  · next hstatus =>
    obtain ⟨f, rfl⟩ := system_of_statusBy hspeak hstatus
    split at h
    · cases h
      cases hfault
    · cases h

/-- The trail at the start of the target of a link. -/
theorem Trail.Forall.enter {trail : Trail} (hroot : Q ⟨.root, []⟩) (h : trail.Forall Q)
    (next : Path) (target : Text) :
    Trail.Forall Q ⟨if (Path.ofText target).isAbsolute then ⟨.root, []⟩ else trail.path,
      (next, none) :: trail.met, false⟩ := by
  refine ⟨?_, List.forall_mem_cons.mpr ⟨by simp, h.met⟩⟩
  dsimp only
  split
  · exact hroot
  · exact h.path

/-- What holds for the path of the root and is kept by every name that is put behind a path, holds
for all paths that are met. -/
theorem follow_keeps (hroot : Q ⟨.root, []⟩)
    (hstep : ∀ path name, Q path → P name → Q (stepTo path name))
    (htargets : ∀ l target, d.entry? l = some (.link target) →
      ∀ name ∈ Path.partsOf target, P name)
    {strict : Bool} {depth : Nat} {trail : Trail} {names : List Text}
    (htrail : trail.Forall Q) (hnames : ∀ name ∈ names, P name) :
    KeepsPaths Q (d.follow strict depth trail names) := by
  fun_induction follow d strict depth trail names with
  | case1 depth trail => exact htrail
  | case2 depth trail name rest next hskip ih =>
    rw [List.forall_mem_cons] at hnames
    exact ih ⟨hstep _ _ htrail.path hnames.1, htrail.met⟩ hnames.2
  | case3 depth trail name rest next hskip fault hlink =>
    rw [List.forall_mem_cons] at hnames
    intro hfault
    exact ⟨next, hstep _ _ htrail.path hnames.1, not_isSpeakable_of_linkAt hlink hfault⟩
  | case4 depth trail name rest next hskip hlink ih =>
    rw [List.forall_mem_cons] at hnames
    exact ih ⟨hstep _ _ htrail.path hnames.1, htrail.met⟩ hnames.2
  | case5 trail name rest next hskip target hlink known depth hknown ih =>
    -- A link that was met before has its real path in the trail.
    rw [List.forall_mem_cons] at hnames
    obtain ⟨x, hfind, hx⟩ := Option.map_eq_some_iff.mp hknown
    exact ih ⟨htrail.met x (List.mem_of_find?_eq_some hfind) known hx, htrail.met⟩ hnames.2
  | case6 trail name rest next hskip target hlink depth hunknown start fault hinner ih =>
    rw [hinner] at ih
    obtain ⟨l, htarget⟩ := linkStatus_of_linkAt hlink
    exact ih (htrail.enter hroot next target) (htargets l target htarget)
  | case7 trail name rest next hskip target hlink depth hunknown start inner hinner met ihInner
      ih =>
    rw [List.forall_mem_cons] at hnames
    -- The target is followed first, and the names behind the link go on from there.
    rw [hinner] at ihInner
    obtain ⟨l, htarget⟩ := linkStatus_of_linkAt hlink
    have hfound : inner.Forall Q :=
      ihInner (htrail.enter hroot next target) (htargets l target htarget)
    refine ih ⟨hfound.path, List.forall_mem_cons.mpr ⟨?_, hfound.met⟩⟩ hnames.2
    rintro known ⟨⟩
    exact hfound.path
  | case8 => exact fun hfault => by cases hfault
  | case9 trail name rest next hskip target hlink depth hstrict hknown hunknown ih =>
    rw [List.forall_mem_cons] at hnames
    exact ih ⟨hstep _ _ htrail.path hnames.1, htrail.met⟩ hnames.2

/-! ## Working out a path -/

/-- The path before any of its names. -/
def beforeNames (p : Path) : Path := if p.isAbsolute then ⟨.root, []⟩ else ⟨.relative, []⟩

/-- A path is worked out name by name, and what comes out is seen from the root. -/
theorem workOut_eq (d : Disk) (strict : Bool) (p : Path) :
    d.workOut strict p =
      (d.follow strict nestingLimit ⟨beforeNames p, [], false⟩ p.parts).bind fun trail =>
        (d.absolute trail.path).map Path.normal := by
  unfold workOut beforeNames
  dsimp only
  split
  · next hfollow => rw [hfollow]; rfl
  · next hfollow => rw [hfollow]; rfl

theorem workOut_eq_ok_iff {strict : Bool} {p q : Path} :
    d.workOut strict p = .ok q ↔ ∃ trail full,
      d.follow strict nestingLimit ⟨beforeNames p, [], false⟩ p.parts = .ok trail ∧
        d.absolute trail.path = .ok full ∧ full.normal = q := by
  rw [workOut_eq, bind_eq_ok_iff]
  refine exists_congr fun trail => ?_
  cases d.absolute trail.path <;> simp [Except.map]

theorem workOut_eq_error_iff {strict : Bool} {p : Path} {fault : AccessFault} :
    d.workOut strict p = .error fault ↔
      d.follow strict nestingLimit ⟨beforeNames p, [], false⟩ p.parts = .error fault ∨
        ∃ trail, d.follow strict nestingLimit ⟨beforeNames p, [], false⟩ p.parts = .ok trail ∧
          d.absolute trail.path = .error fault := by
  rw [workOut_eq, bind_eq_error_iff]
  refine or_congr_right (exists_congr fun trail => ?_)
  cases d.absolute trail.path <;> simp [Except.map]

/-- The trail before any name. -/
theorem forall_start {p : Path} (hroot : Q ⟨.root, []⟩)
    (hrelative : p.isAbsolute = false → Q ⟨.relative, []⟩) :
    Trail.Forall Q ⟨beforeNames p, [], false⟩ := by
  refine ⟨?_, by simp⟩
  unfold beforeNames
  dsimp only
  split
  · exact hroot
  · next hnot => exact hrelative (Bool.eq_false_of_not_eq_true hnot)

/-- What holds for all names that are met holds for the names on the paths. -/
theorem follow_keepsNames
    (htargets : ∀ l target, d.entry? l = some (.link target) →
      ∀ name ∈ Path.partsOf target, P name)
    {strict : Bool} {p : Path} (hp : ∀ name ∈ p.parts, P name) :
    KeepsPaths (fun path => ∀ name ∈ path.parts, P name)
      (d.follow strict nestingLimit ⟨beforeNames p, [], false⟩ p.parts) :=
  follow_keeps (by simp) (fun _ _ hpath hname => stepTo_forall hpath hname) htargets
    (forall_start (by simp) (by simp)) hp

/-- What holds for the names on a path, in the targets of links and on the way to the working
directory holds for the names on the real path. -/
theorem workOut_forall {strict : Bool} {p q : Path}
    (htargets : ∀ l target, d.entry? l = some (.link target) →
      ∀ name ∈ Path.partsOf target, P name)
    (hhere : ∀ l ∈ d.workingDirectory, ∀ name ∈ l, P name)
    (hp : ∀ name ∈ p.parts, P name) (h : d.workOut strict p = .ok q) :
    ∀ name ∈ q.parts, P name := by
  obtain ⟨trail, full, htrail, habs, rfl⟩ := workOut_eq_ok_iff.mp h
  have hkeeps : KeepsPaths (fun path => ∀ name ∈ path.parts, P name) (.ok trail) :=
    htrail ▸ follow_keepsNames htargets hp
  obtain ⟨-, here, hhere', hparts⟩ := absolute_eq_ok habs
  intro name hname
  have hmem := Path.mem_normal_parts hname
  rw [hparts] at hmem
  rcases List.mem_append.mp hmem with hmem | hmem
  · -- An absolute path is seen from the root, to which no names lead.
    unfold origin? at hhere'
    split at hhere'
    · cases hhere'
      cases hmem
    · exact hhere here hhere' name hmem
  · exact hkeeps.path name hmem

/-- The absolute form of a path is known unless the path is relative and the working directory has
been removed. -/
theorem absolute_eq_error {q : Path} {fault : AccessFault} (h : d.absolute q = .error fault) :
    ¬q.isAbsolute ∧ d.workingDirectory = none ∧ fault.isUnspeakable = false := by
  unfold absolute at h
  split at h
  · cases h
  · next hrelative =>
    unfold cwd at h
    split at h
    · cases h
    · next hhere =>
      cases h
      exact ⟨hrelative, hhere, rfl⟩

/-- Working out a path that can be handed to the system fails only for reasons that the system
gives. -/
theorem isUnspeakable_of_workOut (hd : d.IsTree) {strict : Bool} {p : Path} {fault : AccessFault}
    (hp : ∀ name ∈ p.parts, IsSpeakable name) (h : d.workOut strict p = .error fault) :
    fault.isUnspeakable = false := by
  rcases workOut_eq_error_iff.mp h with hfollow | ⟨trail, -, habs⟩
  · have hkeeps : KeepsPaths (fun path => ∀ name ∈ path.parts, IsSpeakable name)
        (.error fault) :=
      hfollow ▸ follow_keepsNames
        (fun _ _ htarget => isSpeakable_partsOf (hd.isSpeakable_target htarget)) hp
    by_contra hfault
    obtain ⟨q, hq, hnot⟩ := hkeeps (by simpa using hfault)
    exact hnot (isSpeakable_toText_of_forall hq)
  · exact (absolute_eq_error habs).2.2

theorem workOut_of_realPath {p q : Path} (h : d.realPath p = .ok q) :
    d.workOut false p = .ok q := by
  unfold realPath at h
  split at h
  · cases h
  · next real hreal =>
    split at h
    · cases h
    · cases h
      exact hreal

/-- The real path of a proper path is proper. -/
theorem realPath_isProper (hd : d.IsTree) {p q : Path} (hp : p.IsProper)
    (h : d.realPath p = .ok q) : q.IsProper := by
  refine workOut_forall (fun _ target _ => Path.ofText_isProper target) ?_ hp
    (workOut_of_realPath h)
  intro l hl name hname
  exact (hd.isEntryName (hd.here l hl) name hname).1

/-! ## Where real paths start -/

/-- A real path starts at the root. -/
theorem anchor_of_workOut {strict : Bool} {p q : Path} (h : d.workOut strict p = .ok q) :
    q.anchor = .root := by
  obtain ⟨trail, full, htrail, habs, rfl⟩ := workOut_eq_ok_iff.mp h
  have hkeeps : KeepsPaths (fun path => path.anchor ≠ .doubleRoot) (.ok trail) :=
    htrail ▸ follow_keeps (P := fun _ => True) (by simp) (fun _ _ hpath _ => hpath)
      (fun _ _ _ _ _ => trivial) (forall_start (by simp) (by simp)) (fun _ _ => trivial)
  have hanchor : trail.path.anchor ≠ .doubleRoot := hkeeps.path
  unfold absolute cwd at habs
  split at habs
  · next habsolute =>
    cases habs
    show trail.path.anchor = .root
    cases hcases : trail.path.anchor with
    | relative => simp [Path.isAbsolute, hcases] at habsolute
    | root => rfl
    | doubleRoot => exact absurd hcases hanchor
  · next hrelative =>
    have hanchor : trail.path.anchor = .relative := by simpa [Path.isAbsolute] using hrelative
    split at habs
    · cases habs
      simp [Path.normal, Path.join, hanchor, Location.path]
    · cases habs

theorem anchor_of_realPath {p q : Path} (h : d.realPath p = .ok q) : q.anchor = .root :=
  anchor_of_workOut (workOut_of_realPath h)

/-! ## Paths without a real path -/

/-- Lenient working out fails only where a path cannot be handed to the system. -/
theorem isUnspeakable_of_follow {depth : Nat} {trail : Trail} {names : List Text}
    {fault : AccessFault} (h : d.follow false depth trail names = .error fault) :
    fault.isUnspeakable := by
  fun_induction follow d false depth trail names with
  | case1 => cases h
  | case2 depth trail name rest next hskip ih => exact ih h
  | case3 depth trail name rest next hskip fault' hlink =>
    cases h
    unfold linkAt at hlink
    split at hlink
    · cases hlink
    · cases hlink
    · split at hlink
      · next hfault =>
        cases hlink
        simpa using hfault
      · cases hlink
  | case4 depth trail name rest next hskip hlink ih => exact ih h
  | case5 trail name rest next hskip target hlink known depth hknown ih => exact ih h
  | case6 trail name rest next hskip target hlink depth hunknown start fault' hinner ih =>
    cases h
    exact ih hinner
  | case7 trail name rest next hskip target hlink depth hunknown start inner hinner met _ ih =>
    exact ih h
  | case8 trail name rest next hskip target hlink depth hstrict => cases hstrict
  | case9 trail name rest next hskip target hlink depth hstrict _ _ ih => exact ih h

/-- An absolute path is worked out as an absolute one. -/
theorem isAbsolute_of_follow {strict : Bool} {p : Path} {trail : Trail} (hp : p.isAbsolute)
    (h : d.follow strict nestingLimit ⟨beforeNames p, [], false⟩ p.parts = .ok trail) :
    trail.path.isAbsolute := by
  have hkeeps : KeepsPaths (fun path => path.isAbsolute) (.ok trail) := by
    rw [← h]
    exact follow_keeps (P := fun _ => True) (by decide) (fun _ _ hpath _ => hpath)
      (fun _ _ _ _ _ => trivial)
      (forall_start (by decide) fun hnot => absurd (hp.symm.trans hnot) (by decide))
      (fun _ _ => trivial)
  exact hkeeps.path

/-- A path has a real path unless links lead in a circle, a name on it cannot be handed to the
system, or it is relative and the working directory has been removed. -/
theorem realPath_cases (hd : d.IsTree) (p : Path) :
    (∃ real, d.realPath p = .ok real) ∨ (∃ path, d.realPath p = .error (.circle path)) ∨
      (∃ name ∈ p.parts, ¬IsSpeakable name) ∨
      p.isAbsolute = false ∧ d.workingDirectory = none := by
  cases hwork : d.workOut false p with
  | ok real =>
    unfold realPath
    rw [hwork]
    dsimp only
    split
    · exact .inr (.inl ⟨_, rfl⟩)
    · exact .inl ⟨real, rfl⟩
  | error fault =>
    by_cases hspeak : ∀ name ∈ p.parts, IsSpeakable name
    · have hfault := isUnspeakable_of_workOut hd hspeak hwork
      rcases workOut_eq_error_iff.mp hwork with hfollow | ⟨trail, hfollow, habs⟩
      · rw [isUnspeakable_of_follow hfollow] at hfault
        cases hfault
      · -- Only the working directory can be missing then.
        obtain ⟨hrelative, hhere, -⟩ := absolute_eq_error habs
        refine .inr (.inr (.inr ⟨Bool.eq_false_of_not_eq_true fun hp => ?_, hhere⟩))
        exact hrelative (isAbsolute_of_follow hp hfollow)
    · obtain ⟨name, hname, hnot⟩ : ∃ name ∈ p.parts, ¬IsSpeakable name := by
        simpa using hspeak
      exact .inr (.inr (.inl ⟨name, hname, hnot⟩))

end Disk

end StyleImport
