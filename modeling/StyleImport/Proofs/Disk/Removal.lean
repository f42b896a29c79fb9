import StyleImport.Proofs.Disk.Change

/-!
# Removing and making anew

A directory is removed with all below it, and then nothing is seen at its path, unless the path
ends with a double dot. A directory that is made where none was is empty. For a path without double
dots this is so too if directories above it have to be made first, because each of them is empty
when the next one is made in it. Nothing else changes.

## Main definitions

- `Disk.HoldsEmpty`: an empty directory is seen at a path.
- `Disk.MadeUpTo`: nothing is new but directories on the way to a place.
- `Disk.MadeAnew`: an empty directory has been made at a path.

## Main statements

- `Disk.isTree_removeTree`: a tree stays one when a directory is removed.
- `Disk.removeTree_eq`: what is removed.
- `Disk.not_holds_of_removeTree`: nothing is seen where a directory was removed.
- `Disk.madeAnew_of_makeDirectories`: what is made where no directory was.
-/

namespace StyleImport

namespace Disk

variable {d d' : Disk} {n : Nat} {here l : Location} {names : List Text} {path : Path}

/-! ## Places that are removed -/

theorem eraseTree_eq_restrict (d : Disk) (top : Location) :
    d.eraseTree top = d.restrict fun l => !within top l := rfl

theorem eraseBelow_eq_restrict (d : Disk) (top : Location) :
    d.eraseBelow top = d.restrict fun l => l = top || !within top l := rfl

/-- What lies above a place outside a directory lies outside it too. -/
theorem within_dropLast {top l : Location} (h : within top l.dropLast) : within top l := by
  unfold within at h ⊢
  rw [List.isPrefixOf_iff_prefix] at h ⊢
  exact h.trans (List.dropLast_prefix l)

theorem within_self (l : Location) : within l l := List.isPrefixOf_iff_prefix.mpr List.prefix_rfl

/-- What stands at a place after a tree has been erased. -/
theorem entry?_eraseTree (d : Disk) {top : Location} (htop : top ≠ []) (l : Location) :
    entry? (d.eraseTree top) l = if within top l then none else d.entry? l := by
  by_cases hl : l = []
  · have hnot : ¬within top l := by
      rw [hl]
      exact fun h => htop (List.prefix_nil.mp (List.isPrefixOf_iff_prefix.mp h))
    rw [if_neg hnot, hl, entry?_nil, entry?_nil]
  · rw [eraseTree_eq_restrict, entry?_restrict d _ hl]
    cases within top l <;> rfl

/-- What stands at a place after a directory has been emptied. -/
theorem entry?_eraseBelow (d : Disk) (top l : Location) :
    entry? (d.eraseBelow top) l = if l = top ∨ ¬within top l then d.entry? l else none := by
  by_cases hl : l = []
  · have hkept : l = top ∨ ¬within top l := by
      rw [hl, or_iff_not_imp_right, not_not]
      exact fun h => (List.prefix_nil.mp (List.isPrefixOf_iff_prefix.mp h)).symm
    rw [if_pos hkept, hl, entry?_nil, entry?_nil]
  · rw [eraseBelow_eq_restrict, entry?_restrict d _ hl]
    simp only [Bool.or_eq_true, decide_eq_true_eq, Bool.not_eq_true', Bool.not_eq_true]

/-- Erasing the tree at a place that has been emptied is erasing the tree. -/
theorem eraseTree_eraseBelow (d : Disk) (top : Location) :
    (d.eraseBelow top).eraseTree top = d.eraseTree top := by
  have hkeep : ∀ l, ((decide (l = top) || !within top l) && !within top l) = !within top l := by
    intro l
    cases within top l <;> simp
  unfold eraseTree eraseBelow
  simp only [List.filter_filter, Option.filter_filter, Bool.and_comm (!within top _), hkeep]

theorem isTree_eraseTree (hd : d.IsTree) (top : Location) : (d.eraseTree top).IsTree := by
  rw [eraseTree_eq_restrict]
  refine hd.restrict fun l hl _ => ?_
  cases hwithin : within top l.dropLast with
  | false => rfl
  | true => simp [within_dropLast hwithin] at hl

theorem isTree_eraseBelow (hd : d.IsTree) (top : Location) : (d.eraseBelow top).IsTree := by
  rw [eraseBelow_eq_restrict]
  refine hd.restrict fun l hl hne => ?_
  cases hwithin : within top l.dropLast with
  | false => simp
  | true =>
    have htop : l = top := by simpa [within_dropLast hwithin] using hl
    subst htop
    have hlength := (List.isPrefixOf_iff_prefix.mp hwithin).length_le
    rw [List.length_dropLast] at hlength
    have hnil : l = [] := List.length_eq_zero_iff.mp (by omega)
    rw [hnil] at hne
    exact absurd rfl hne

/-! ## Removing -/

/-- Removing a directory either changes nothing or erases the place with all below it. -/
theorem removeDirectory_cases (d : Disk) (path : Path) :
    (∃ fault, d.removeDirectory path = ⟨some fault, d⟩) ∨
      ∃ l e last, d.linkStatus path.toText = .ok (l, e) ∧ path.parts.getLast? = some last ∧
        last ≠ ".." ∧ d.removeDirectory path = ⟨none, d.eraseTree l⟩ := by
  unfold removeDirectory
  cases hstatus : d.linkStatus path.toText with
  | error fault => exact .inl ⟨fault, rfl⟩
  | ok x =>
    cases hlast : path.parts.getLast? with
    | none => exact .inl ⟨_, rfl⟩
    | some last =>
      by_cases hdots : last = ".."
      · exact .inl ⟨_, if_pos hdots⟩
      · exact .inr ⟨x.1, x.2, last, rfl, rfl, hdots, if_neg hdots⟩

/-- Removing a tree either changes nothing or empties the directory and removes it then. -/
theorem removeTree_cases (d : Disk) (path : Path) :
    (∃ fault, d.removeTree path = ⟨some fault, d⟩) ∨
      ∃ l, d.linkStatus path.toText = .ok (l, .directory) ∧
        d.removeTree path = (d.eraseBelow l).removeDirectory path := by
  unfold removeTree
  cases hstatus : d.linkStatus path.toText with
  | error fault => exact .inl ⟨fault, rfl⟩
  | ok x =>
    obtain ⟨l, e⟩ := x
    cases e with
    | file bytes => exact .inl ⟨_, rfl⟩
    | link target => exact .inl ⟨_, rfl⟩
    | directory => exact .inr ⟨l, rfl, rfl⟩

/-- A tree stays one when a directory is removed, also if this fails half-way. -/
theorem isTree_removeTree (hd : d.IsTree) (path : Path) : (d.removeTree path).disk.IsTree := by
  rcases removeTree_cases d path with ⟨fault, hfails⟩ | ⟨l, -, hbelow⟩
  · rw [hfails]
    exact hd
  · have hemptied := isTree_eraseBelow hd l
    rw [hbelow]
    rcases removeDirectory_cases (d.eraseBelow l) path with
      ⟨fault, hfails⟩ | ⟨l', e, last, -, -, -, hremoved⟩
    · rw [hfails]
      exact hemptied
    · rw [hremoved]
      exact isTree_eraseTree hemptied l'

/-- The last name of a path leads on from where the names before it lead. -/
theorem exists_leads_parent {followLast : Bool} {ps : List Text} {last : Text}
    {landing : Landing} (hd : d.HasHere) (hp : path.IsProper) (hparts : path.parts = ps ++ [last])
    (h : d.locate followLast path.toText = .ok landing) :
    ∃ here k mid, d.origin? path = some here ∧ d.Leads linkLimit here ps k mid ∧
      d.walk followLast k mid [last] = .ok landing := by
  obtain ⟨here, hstart, hwalk⟩ := locate_eq_ok_iff.mp h
  obtain ⟨-, -, hhere⟩ := (start_eq_ok_iff hp).mp hstart
  rw [walk_steps_toText hp (entry?_start hd hstart), hparts] at hwalk
  obtain ⟨k, mid, hleads, hlast⟩ := walk_split (by simp) hwalk
  exact ⟨here, k, mid, hhere, hleads, hlast⟩

/-- What is seen at a path stands in the directory to which the names before the last one lead. -/
theorem exists_leads_of_holds {test : Entry → Bool} {ps : List Text} {last : Text}
    (hd : d.HasHere) (hp : path.IsProper) (hparts : path.parts = ps ++ [last]) (hdots : last ≠ "..")
    (h : d.holds test path) :
    ∃ here k mid e, d.origin? path = some here ∧ d.Leads linkLimit here ps k mid ∧
      IsStep last ∧ d.entry? (mid ++ [last]) = some e := by
  obtain ⟨l, e, hstatus, -⟩ := holds_eq_true_iff.mp h
  obtain ⟨hlocate, -⟩ := statusBy_eq_ok_iff.mp hstatus
  obtain ⟨here, k, mid, hhere, hleads, hend⟩ := exists_leads_parent hd hp hparts hlocate
  obtain ⟨m, hsingle⟩ := exists_leads_of_walk hend
  obtain ⟨hstep, e', he'⟩ := hsingle.of_single (hp last (by simp [hparts])) hdots
  exact ⟨here, k, mid, e', hhere, hleads, hstep, he'⟩

theorem origin?_of_restrict {keep : Location → Bool}
    (h : (d.restrict keep).origin? path = some here) : d.origin? path = some here := by
  unfold origin? at h ⊢
  split at h
  · next habs => exact (if_pos habs).trans h
  · next habs => exact (if_neg habs).trans (Option.mem_filter_iff.mp h).1

/-- Nothing is seen where a directory was removed. -/
theorem not_holds_of_removeDirectory {test : Entry → Bool} (hd : d.IsTree) (hp : path.IsProper)
    (h : (d.removeDirectory path).fault = none) :
    ¬(d.removeDirectory path).disk.holds test path := by
  rcases removeDirectory_cases d path with
    ⟨fault, hfails⟩ | ⟨top, e, last, hstatus, hlast, hdots, hremoved⟩
  · rw [hfails] at h
    cases h
  · obtain ⟨ps, hparts⟩ := List.getLast?_eq_some_iff.mp hlast
    obtain ⟨hlocate, -⟩ := statusBy_eq_ok_iff.mp hstatus
    obtain ⟨here, k, mid, hhere, hleads, hend⟩ := exists_leads_parent hd.here hp hparts hlocate
    rw [hremoved]
    intro hholds
    obtain ⟨here', k', mid', e', hhere', hleads', hstep, he'⟩ :=
      exists_leads_of_holds (isTree_eraseTree hd top).here hp hparts hdots hholds
    -- Before and after, the names lead to the same directory, and there the place is erased.
    rw [eraseTree_eq_restrict] at hhere' hleads' he'
    cases hhere.symm.trans (origin?_of_restrict hhere')
    have hmid : mid' = mid := hleads'.of_restrict.unique hleads
    have htop : top = mid ++ [last] := walk_single hstep hend
    rw [hmid, ← htop, entry?_restrict d _ (by simp [htop])] at he'
    simp [within_self] at he'

/-- A path that leads somewhere on a part of the disk leads to the same place on the whole of it, if
the link at its end is not followed. -/
theorem place_of_restrict {keep : Location → Bool} {l' : Location} {ps : List Text} {last : Text}
    (hd : d.HasHere) (hd' : (d.restrict keep).HasHere) (hp : path.IsProper)
    (hparts : path.parts = ps ++ [last]) (hdots : last ≠ "..")
    (h : d.locate false path.toText = .ok (.occupied l))
    (h' : (d.restrict keep).locate false path.toText = .ok (.occupied l')) :
    l ≠ [] ∧ l' = l := by
  obtain ⟨here, k, mid, hhere, hleads, hend⟩ := exists_leads_parent hd hp hparts h
  obtain ⟨here', k', mid', hhere', hleads', hend'⟩ := exists_leads_parent hd' hp hparts h'
  cases hhere.symm.trans (origin?_of_restrict hhere')
  have hmid : mid' = mid := hleads'.of_restrict.unique hleads
  have hstep : IsStep last := isStep_of_walk_single (hp last (by simp [hparts])) hdots hend
  have hl : l = mid ++ [last] := walk_single hstep hend
  exact ⟨by simp [hl], (walk_single hstep hend').trans (by rw [hmid, hl])⟩

/-- A tree that is removed is the one at the place of its path. When it has been emptied, its path
still leads there. -/
theorem removeTree_eq (hd : d.IsTree) (hp : path.IsProper)
    (h : (d.removeTree path).fault = none) :
    ∃ top, top ≠ [] ∧ d.linkStatus path.toText = .ok (top, .directory) ∧
      (d.eraseBelow top).linkStatus path.toText = .ok (top, .directory) ∧
      (d.removeTree path).disk = d.eraseTree top := by
  rcases removeTree_cases d path with ⟨fault, hfails⟩ | ⟨top, hstatus, hbelow⟩
  · rw [hfails] at h
    cases h
  · rw [hbelow] at h ⊢
    rcases removeDirectory_cases (d.eraseBelow top) path with
      ⟨fault, hfails⟩ | ⟨l, e, last, hstatus', hlast, hdots, hremoved⟩
    · rw [hfails] at h
      cases h
    · obtain ⟨ps, hparts⟩ := List.getLast?_eq_some_iff.mp hlast
      -- Emptying a directory does not change where its path leads.
      obtain ⟨hlocate, he⟩ := statusBy_eq_ok_iff.mp hstatus
      obtain ⟨hlocate', he'⟩ := statusBy_eq_ok_iff.mp hstatus'
      obtain ⟨htop, hl⟩ := place_of_restrict hd.here (isTree_eraseBelow hd top).here hp hparts hdots
        hlocate hlocate'
      subst hl
      have hkept : entry? (d.eraseBelow l) l = d.entry? l := by
        rw [entry?_eraseBelow, if_pos (.inl rfl)]
      refine ⟨l, htop, hstatus, ?_, ?_⟩
      · exact statusBy_eq_ok_iff.mpr ⟨hlocate', hkept.trans he⟩
      · rw [hremoved, eraseTree_eraseBelow]

/-- Nothing is seen where a tree was removed. -/
theorem not_holds_of_removeTree {test : Entry → Bool} (hd : d.IsTree) (hp : path.IsProper)
    (h : (d.removeTree path).fault = none) : ¬(d.removeTree path).disk.holds test path := by
  rcases removeTree_cases d path with ⟨fault, hfails⟩ | ⟨l, -, hbelow⟩
  · rw [hfails] at h
    cases h
  · rw [hbelow] at h ⊢
    exact not_holds_of_removeDirectory (isTree_eraseBelow hd l) hp h

/-! ## Making anew -/

/-- An empty directory is seen at a path. -/
def HoldsEmpty (d : Disk) (path : Path) : Prop :=
  ∃ l, d.status path.toText = .ok (l, .directory) ∧ ∀ name, d.entry? (l ++ [name]) = none

/-- Nothing stands in a directory that is put where nothing stood. -/
theorem entry?_put_below (hd : d.IsTree) (h : d.entry? l = none) (name : Text) :
    entry? (d.put l .directory) (l ++ [name]) = none := by
  rw [entry?_put d l _ (by simp), if_neg (by simp)]
  cases he : d.entry? (l ++ [name]) with
  | none => rfl
  | some e =>
    have hdir := hd.entry?_dropLast he
    rw [List.dropLast_concat, h] at hdir
    cases hdir

/-- Nothing is seen in an empty directory. -/
theorem not_holds_of_parent {test : Entry → Bool} (hd : d.HasHere) (hp : path.IsProper)
    {last : Text} (hlast : path.parts.getLast? = some last) (hdots : last ≠ "..")
    (h : d.HoldsEmpty path.parent) : ¬d.holds test path := by
  obtain ⟨ps, hparts⟩ := List.getLast?_eq_some_iff.mp hlast
  have hparent : path.parent.parts = ps := by
    rw [Path.parent, hparts, List.dropLast_concat]
  obtain ⟨l, hstatus, hempty⟩ := h
  obtain ⟨-, -, here, m, hhere, hleads, -⟩ :=
    (status_eq_ok_iff hd (Path.parent_isProper hp)).mp hstatus
  rw [hparent] at hleads
  intro hholds
  obtain ⟨here', k', mid', e', hhere', hleads', -, he'⟩ :=
    exists_leads_of_holds hd hp hparts hdots hholds
  cases (show d.origin? path = some here from hhere).symm.trans hhere'
  rw [hleads'.unique hleads, hempty last] at he'
  cases he'

theorem makeDirectory_disk_of_fault (h : (d.makeDirectory path).fault ≠ none) :
    (d.makeDirectory path).disk = d := by
  unfold makeDirectory at h ⊢
  split
  · rfl
  · rfl
  · next l hlocate => simp [hlocate] at h

/-- A directory that was not there and is there after its making, where failing is forgiven, has
been made. -/
theorem makeDirectory_of_forgiveDirectory (hnot : ¬d.holdsDirectory path)
    (h : (forgiveDirectory path (d.makeDirectory path)).fault = none) :
    (d.makeDirectory path).fault = none := by
  by_contra hfault
  have hholds := (of_forgiveDirectory h).resolve_left hfault
  rw [makeDirectory_disk_of_fault hfault] at hholds
  exact hnot hholds

/-- From one disk to another one nothing is new but directories on the way to a place. -/
structure MadeUpTo (top : Location) (d d' : Disk) : Prop where
  /-- The working directory is the same. -/
  here : d'.workingDirectory = d.workingDirectory
  /-- What is new at a place is a directory on the way. -/
  entry : ∀ l, d'.entry? l = d.entry? l ∨
    l <+: top ∧ d.entry? l = none ∧ d'.entry? l = some .directory

theorem MadeUpTo.refl (top : Location) (d : Disk) : MadeUpTo top d d := ⟨rfl, fun _ => .inl rfl⟩

/-- One more directory is made further on the way. -/
theorem MadeUpTo.put {top : Location} (h : MadeUpTo top d d') (htop : top <+: l)
    (hnone : d'.entry? l = none) : MadeUpTo l d (d'.put l .directory) := by
  refine ⟨h.here, fun m => ?_⟩
  by_cases hm : m = []
  · rw [hm]
    exact .inl ((entry?_nil _).trans (entry?_nil d).symm)
  rw [entry?_put d' l _ hm]
  by_cases hsame : m = l
  · subst hsame
    rcases h.entry m with hold | ⟨-, -, hnew⟩
    · exact .inr ⟨List.prefix_rfl, hold.symm.trans hnone, if_pos rfl⟩
    · cases hnone.symm.trans hnew
  · rw [if_neg hsame]
    exact (h.entry m).imp_right fun ⟨hway, hold, hnew⟩ => ⟨hway.trans htop, hold, hnew⟩

/-- A directory made below another one stands directly in it. -/
theorem place_of_makeDirectory {top : Location} {last : Text} (hd : d.HasHere) (hp : path.IsProper)
    (hlast : path.parts.getLast? = some last) (hdots : last ≠ "..")
    (hparent : d.status path.parent.toText = .ok (top, .directory))
    (h : d.locate false path.toText = .ok (.free l)) : l = top ++ [last] := by
  obtain ⟨ps, hparts⟩ := List.getLast?_eq_some_iff.mp hlast
  obtain ⟨here, k, mid, hhere, hleads, hend⟩ := exists_leads_parent hd hp hparts h
  obtain ⟨-, -, here', m, hhere', hleads', -⟩ :=
    (status_eq_ok_iff hd (Path.parent_isProper hp)).mp hparent
  have hps : path.parent.parts = ps := by
    rw [Path.parent, hparts, List.dropLast_concat]
  rw [hps] at hleads'
  cases (show d.origin? path = some here' from hhere').symm.trans hhere
  rw [walk_single_free (isStep_of_walk_single (hp last (by simp [hparts])) hdots hend) hend,
    hleads'.unique hleads]

/-- From one disk to another one an empty directory has been made at a path, and nothing else is new
but directories on the way to it. -/
def MadeAnew (path : Path) (d d' : Disk) : Prop :=
  ∃ top, d'.status path.toText = .ok (top, .directory) ∧
    (∀ name, d'.entry? (top ++ [name]) = none) ∧ MadeUpTo top d d'

theorem MadeAnew.holdsEmpty (h : MadeAnew path d d') : d'.HoldsEmpty path := by
  obtain ⟨top, hstatus, hempty, -⟩ := h
  exact ⟨top, hstatus, hempty⟩

/-- One more directory is made further on the way. -/
theorem MadeUpTo.madeAnew {top : Location} (h : MadeUpTo top d d') (hd' : d'.IsTree)
    (hlocate : d'.locate false path.toText = .ok (.free l)) (htop : top <+: l) :
    MadeAnew path d (d'.put l .directory) := by
  have hnone := entry?_of_locate_free hlocate
  exact ⟨l, status_put_directory hlocate, entry?_put_below hd' hnone, h.put htop hnone⟩

/-- A directory that is made where none was is empty. -/
theorem madeAnew_of_forgiveDirectory (hd : d.IsTree) (hnot : ¬d.holdsDirectory path)
    (h : (forgiveDirectory path (d.makeDirectory path)).fault = none) :
    MadeAnew path d (d.makeDirectory path).disk := by
  obtain ⟨l, hlocate, hdisk⟩ :=
    exists_free_of_makeDirectory (makeDirectory_of_forgiveDirectory hnot h)
  rw [hdisk]
  exact (MadeUpTo.refl l d).madeAnew hd hlocate List.prefix_rfl

/-- One directory is made below another one that had to be made first. -/
theorem MadeAnew.makeDirectory {last : Text} (h : MadeAnew path.parent d d') (hd' : d'.IsTree)
    (hp : path.IsProper) (hlast : path.parts.getLast? = some last) (hdots : last ≠ "..")
    (hmade : (forgiveDirectory path (d'.makeDirectory path)).fault = none) :
    MadeAnew path d (d'.makeDirectory path).disk := by
  have hnot : ¬d'.holdsDirectory path :=
    not_holds_of_parent hd'.here hp hlast hdots h.holdsEmpty
  obtain ⟨l, hlocate, hdisk⟩ :=
    exists_free_of_makeDirectory (makeDirectory_of_forgiveDirectory hnot hmade)
  obtain ⟨top, hstatus, -, hmadeUpTo⟩ := h
  rw [hdisk]
  refine hmadeUpTo.madeAnew hd' hlocate ?_
  rw [place_of_makeDirectory hd'.here hp hlast hdots hstatus hlocate]
  exact List.prefix_append top [last]

/-- A directory that had to be made is empty, and nothing else is new but the directories above it
that had to be made first. -/
theorem madeAnew_of_makeDirectoriesFrom (hd : d.IsTree) {above : Nat} (hp : path.IsProper)
    (hdots : ∀ name ∈ path.parts, name ≠ "..") (habove : path.parts.length = above)
    (hnot : ¬d.holdsDirectory path) (h : (d.makeDirectoriesFrom path above).fault = none) :
    MadeAnew path d (d.makeDirectoriesFrom path above).disk := by
  -- The induction is on the number of names, as the directories above are made one name up.
  induction above generalizing path with
  | zero =>
    obtain ⟨d₁, rfl | ⟨above', habove', -⟩, hlast, hdisk⟩ := of_makeDirectoriesFrom h
    · rw [hdisk]
      exact madeAnew_of_forgiveDirectory hd hnot hlast
    · cases habove'
  | succ above ih =>
    obtain ⟨d₁, rfl | ⟨above', habove', hmissing, hparents, hdisk₁, hsecond⟩, hlast, hdisk⟩ :=
      of_makeDirectoriesFrom h
    · rw [hdisk]
      exact madeAnew_of_forgiveDirectory hd hnot hlast
    · cases habove'
      by_cases hparent : d.holdsDirectory path.parent
      · -- The directory above was there, and then the second attempt is the first one again.
        rw [makeDirectoriesFrom_of_holdsDirectory hparent] at hdisk₁
        rw [hdisk₁] at hsecond
        exact absurd hmissing hsecond
      · obtain ⟨name, hname⟩ : ∃ name, path.parts.getLast? = some name := by
          cases hparts : path.parts.getLast? with
          | none => simp [List.getLast?_eq_none_iff.mp hparts] at habove
          | some name => exact ⟨name, rfl⟩
        have hanew := ih (Path.parent_isProper hp)
          (fun name hname => hdots name (List.dropLast_subset _ hname))
          (by simp [Path.parent, habove]) hparent hparents
        have hd₁ : d₁.IsTree := by
          rw [hdisk₁]
          exact isTree_makeDirectoriesFrom hd path.parent above
        rw [← hdisk₁] at hanew
        rw [hdisk]
        exact hanew.makeDirectory hd₁ hp hname (hdots name (List.mem_of_getLast? hname)) hlast

theorem madeAnew_of_makeDirectories (hd : d.IsTree) (hp : path.IsProper)
    (hdots : ∀ name ∈ path.parts, name ≠ "..") (hnot : ¬d.holdsDirectory path)
    (h : (d.makeDirectories path).fault = none) : MadeAnew path d (d.makeDirectories path).disk :=
  madeAnew_of_makeDirectoriesFrom hd hp hdots rfl hnot h

end Disk

end StyleImport
