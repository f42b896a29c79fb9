import StyleImport.Proofs.Config.Discovery
import StyleImport.Proofs.Disk.Limits
import StyleImport.Proofs.Disk.Resolves
import StyleImport.Proofs.Package

/-!
# The way up from a project

The directories for packages of a project lie in its real directory and in those above it. They are
reached by a climb that ends at the root, where the directory above is the directory itself.

## Main definitions

- `Package.Climbs`: the directories on the way up.
- `Package.IsSearched`: which directories are searched for the packages of a project, and how.

## Main statements

- `Package.climbs_upwards`: every climb comes to its end.
- `Package.package_nearest`: a package is found in the nearest directory that has it.
-/

namespace StyleImport

namespace Package

open Disk

variable {d : Disk} {project real p : Path} {given ancestors ancestors' dirs : List Path}
  {name : Text}

/-! ## Climbing -/

/-- The directories on the way up from a directory: itself, and those on the way up from the
directory above it unless that is the same one. -/
inductive Climbs : Path → List Path → Prop
  /-- The directory above the topmost one is the topmost one. -/
  | top {p : Path} (h : p.parent = p) : Climbs p [p]
  /-- From any other directory the way goes on. -/
  | up {p : Path} {ancestors : List Path} (h : p.parent ≠ p) (hs : Climbs p.parent ancestors) :
      Climbs p (p :: ancestors)

theorem parent_eq_self_iff : p.parent = p ↔ p.parts = [] := by
  constructor
  · intro h
    have hlength := congrArg (fun q : Path => q.parts.length) h
    simp only [Path.parent, List.length_dropLast] at hlength
    exact List.length_eq_zero_iff.mp (by omega)
  · intro h
    unfold Path.parent
    rw [h, List.dropLast_nil, ← h]

/-- There is only one way up. -/
theorem Climbs.unique (h : Climbs p ancestors) (h' : Climbs p ancestors') :
    ancestors = ancestors' := by
  induction h generalizing ancestors' with
  | top htop =>
    cases h' with
    | top _ => rfl
    | up hne _ => exact absurd htop hne
  | up hne _ ih =>
    cases h' with
    | top htop => exact absurd htop hne
    | up _ hs => rw [ih hs]

/-- Every climb comes to its end, since each directory has one name less than the one before. -/
theorem climbs_upwards (p : Path) : Climbs p (Config.upwards p) := by
  induction hlength : p.parts.length generalizing p with
  | zero =>
    have hroot : p.parts = [] := List.length_eq_zero_iff.mp hlength
    rw [Config.upwards_eq_cons, if_pos hroot]
    exact .top (parent_eq_self_iff.mpr hroot)
  | succ n ih =>
    have hne : p.parts ≠ [] := fun hroot => by simp [hroot] at hlength
    rw [Config.upwards_eq_cons, if_neg hne]
    refine .up (mt parent_eq_self_iff.mp hne) (ih p.parent ?_)
    rw [Path.parent, List.length_dropLast, hlength, Nat.add_sub_cancel]

/-- The directories for packages lie in the directories on the way up. -/
theorem dirsAbove_eq (l : Path) : dirsAbove l = (Config.upwards l).map (·.child directoryName) := by
  unfold dirsAbove Config.upwards
  rw [List.map_map]
  rfl

theorem child_directoryName (p : Path) :
    p.child directoryName = ⟨p.anchor, p.parts ++ [directoryName]⟩ :=
  Path.child_of_isName (by decide)

/-- No directory for packages is met twice. -/
theorem nodup_dirsAbove (l : Path) : (dirsAbove l).Nodup := by
  unfold dirsAbove
  refine List.nodup_range.map_on fun n hn m hm heq => ?_
  rw [List.mem_range] at hn hm
  rw [child_directoryName, child_directoryName] at heq
  have hlength := congrArg (fun q : Path => q.parts.length) heq
  simp only [List.length_append, List.length_take, List.length_singleton] at hlength
  omega

/-! ## Searching -/

/-- A regular file does not stop a search. -/
theorem firstDir_of_holdsFile {front back : List Path} {dir : Path}
    (h : d.holdsFile (dir.child name)) :
    firstDir d name (front ++ dir :: back) = firstDir d name (front ++ back) := by
  have hmissing : d.isDirectory (dir.child name) = .ok false := by
    rw [isDirectory, isAt_of_not_isTooLong (not_isTooLong_of_holds h)]
    refine congrArg Except.ok (Bool.eq_false_of_not_eq_true fun hdir => ?_)
    exact not_holdsFile_of_holdsDirectory hdir h
  rw [firstDir_append, firstDir_append, firstDir, hmissing]

/-- Which directories are searched for the packages of a project with a real path, and what is found
in them. -/
structure IsSearched (d : Disk) (project : Path) (given : List Path) (real : Path)
    (ancestors dirs : List Path) : Prop where
  /-- The real path starts at the root. -/
  anchor : real.anchor = .root
  /-- The directories of the project are those on the way up from the real path. -/
  climbs : Climbs real ancestors
  /-- These are all in which the real path lies, the root among them. -/
  above : ∀ dir : Path, dir ∈ ancestors ↔ dir.anchor = .root ∧ dir.parts <+: real.parts
  /-- Their directories for packages come behind the given ones. -/
  behind : dirs = given ++ ancestors.map (·.child directoryName)
  /-- None of them is met twice. -/
  once : (ancestors.map (·.child directoryName)).Nodup
  /-- These are the directories that are searched. -/
  searched : searchDirs d project given = .ok dirs
  /-- The result is the first of them that has a directory of the name, and none if there is no such
  one. There is a result just if nothing that is looked at is too long for the system. -/
  found : ∀ name found, findDir d project given name = .ok found ↔
    (dirs.map (·.child name)).find? d.holdsDirectory = found ∧
      ∀ place ∈ triedPlaces d (dirs.map (·.child name)), ¬d.IsTooLong place
  /-- So there always is one within the limits of the system. -/
  short : ∀ name, d.HasShortLinks → (∀ dir ∈ dirs, IsShort (dir.child name)) →
    findDir d project given name = .ok ((dirs.map (·.child name)).find? d.holdsDirectory)
  /-- A regular file of the name is passed over. -/
  files : ∀ name front dir back, dirs = front ++ dir :: back → d.holdsFile (dir.child name) →
    findDir d project given name = firstDir d name (front ++ back)

/-- The directories in which a package is searched. -/
theorem isSearched_of_realPath (hd : d.IsTree) (hproject : project.IsProper)
    (hgiven : ∀ dir ∈ given, dir.IsProper) (hreal : d.realPath project = .ok real) :
    ∃ ancestors dirs, IsSearched d project given real ancestors dirs := by
  have hanchor := anchor_of_realPath hreal
  have hdirs : realProjectDirs d project = (Config.upwards real).map (·.child directoryName) := by
    unfold realProjectDirs
    rw [hreal, ← dirsAbove_eq]
  -- With a real path the whole search is one search through the given and the climbed directories.
  have hfind : ∀ name, findDir d project given name =
      firstDir d name (given ++ (Config.upwards real).map (·.child directoryName)) := by
    intro name
    rw [findDir_of_real hreal, hdirs]
  have hproper : ∀ dir ∈ given ++ (Config.upwards real).map (·.child directoryName),
      dir.IsProper := by
    intro dir hdir
    rcases List.mem_append.mp hdir with hdir | hdir
    · exact hgiven dir hdir
    · rw [← dirsAbove_eq] at hdir
      exact dirsAbove_isProper (realPath_isProper hd hproject hreal) dir hdir
  refine ⟨Config.upwards real, _, hanchor, climbs_upwards real, fun dir => ?_, rfl, ?_, ?_,
    fun name found => ?_, fun name hlinks hshort => ?_, fun name front dir back hsplit hfile => ?_⟩
  · rw [Config.mem_upwards_iff, hanchor]
  · rw [← dirsAbove_eq]
    exact nodup_dirsAbove real
  · unfold searchDirs projectDirs
    rw [hreal, ← dirsAbove_eq]
    rfl
  · rw [hfind, firstDir_eq_ok_iff]
  · rw [hfind, firstDir_eq_ok_iff]
    refine ⟨rfl, fun place hplace => ?_⟩
    obtain ⟨dir, hdir, rfl⟩ := List.mem_map.mp ((List.takeWhile_prefix _).subset hplace)
    exact not_isTooLong_of_isShort hd hlinks (Path.child_isProper (hproper dir hdir) name)
      (hshort dir hdir)
  · rw [hfind, hsplit, firstDir_of_holdsFile hfile]

/-- A project on whose path the links come to an end has a real path, unless a name cannot be handed
to the system or there is no working directory to see the path from. Its packages are searched in
the given directories and then in those for packages on the way up from the real path to the root,
the nearest one first, and the first directory of the name is found. -/
theorem package_nearest (hd : d.IsTree) (hproject : project.IsProper)
    (hgiven : ∀ dir ∈ given, dir.IsProper) :
    ((∃ real, d.realPath project = .ok real) ∨
      ((∃ path, d.realPath project = .error (.circle path)) ∧ ¬d.LinksEnd project) ∨
      (∃ name ∈ project.parts, ¬IsSpeakable name) ∨
      project.isAbsolute = false ∧ d.workingDirectory = none) ∧
    ∀ real, d.realPath project = .ok real →
      ∃ ancestors dirs, IsSearched d project given real ancestors dirs :=
  ⟨realPath_or_circle hd hproject, fun _ hreal => isSearched_of_realPath hd hproject hgiven hreal⟩

/-- A disk with a project behind a link. A file is in the way of the package in the project itself,
and it is installed at the root. -/
def nestedDisk : Disk where
  entries := [(["p"], .directory), (["p", "q"], .directory),
    (["p", "q", "node_modules"], .directory), (["p", "q", "node_modules", "k"], .file []),
    (["node_modules"], .directory), (["node_modules", "k"], .directory), (["l"], .link "p/q")]
  workingDirectory := some []

theorem nestedDisk_isTree : nestedDisk.IsTree := ⟨by decide, by decide, by decide, by decide⟩

/-- The link on the path of the project comes to its end. -/
theorem nestedDisk_linksEnd : nestedDisk.LinksEnd (.ofText "l") := by
  have hlink : nestedDisk.linkAt false ⟨.relative, ["l"]⟩ = .ok (some "p/q") := by cbv
  refine ⟨⟨.relative, ["p", "q"]⟩, .link (by decide) hlink ?_ .done, by decide⟩
  exact .plain (by decide) (by cbv) (.plain (by decide) (by cbv) .done)

/-- The search goes from the given directory over those of the project to the root. -/
theorem package_nearest_nestedDisk :
    let project : Path := .ofText "l"
    let given : List Path := [.ofText "/x"]
    let places : List Path := [.ofText "/x/k", .ofText "/p/q/node_modules/k",
      .ofText "/p/node_modules/k", .ofText "/node_modules/k"]
    nestedDisk.IsTree ∧ project.IsProper ∧ (∀ dir ∈ given, dir.IsProper) ∧
      nestedDisk.LinksEnd project ∧ nestedDisk.realPath project = .ok (.ofText "/p/q") ∧
      findDir nestedDisk project given "k" = .ok (places.find? nestedDisk.holdsDirectory) ∧
      places.find? nestedDisk.holdsDirectory = some (.ofText "/node_modules/k") := by
  intro project given places
  have hproject : project.IsProper := by decide
  have hgiven : ∀ dir ∈ given, dir.IsProper := by decide
  have hreal : nestedDisk.realPath project = .ok (.ofText "/p/q") := by cbv
  obtain ⟨-, hsearched⟩ := package_nearest nestedDisk_isTree hproject hgiven
  obtain ⟨ancestors, dirs, h⟩ := hsearched _ hreal
  have hancestors : ancestors = [.ofText "/p/q", .ofText "/p", .ofText "/"] :=
    h.climbs.unique (climbs_upwards _)
  have hdirs := h.behind
  subst hancestors hdirs
  have hplaces : (given ++ [Path.ofText "/p/q", .ofText "/p", .ofText "/"].map
      (·.child directoryName)).map (·.child "k") = places := by decide
  have hfound := h.short "k" (by decide) (by decide)
  rw [hplaces] at hfound
  exact ⟨nestedDisk_isTree, hproject, hgiven, nestedDisk_linksEnd, hreal, hfound, by cbv⟩

end Package

end StyleImport
