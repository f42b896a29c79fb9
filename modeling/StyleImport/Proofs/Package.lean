import StyleImport.Package
import StyleImport.Proofs.Disk.RealPath
import StyleImport.Proofs.Manifest.Loading
import StyleImport.Proofs.Probe

/-!
# Installed packages

A package is installed at the first of its places that holds a directory. The search fails just if
it comes to a place whose path is too long, or has to look at a project that has no real path. The
names that are tried inside a package are read off the text fields of its description.

## Main definitions

- `Package.places`, `Package.install?`: where a package may be installed, and where it is.
- `Package.fields?`: the fields of the description of a package.
- `Package.entryNames`: the names that are tried inside a package.

## Main statements

- `Package.findDir_eq_ok_iff`: the result of the search for a package.
- `Package.entryPaths_eq_ok_iff`: the names that are tried inside a package.
-/

namespace StyleImport

namespace Package

open Disk

variable {d d' : Disk} {project : Path} {given : List Path} {name : Text}

/-! ## The directory of a package -/

theorem firstDir_append (d : Disk) (name : Text) (front back : List Path) :
    firstDir d name (front ++ back) = (firstDir d name front).bind fun found =>
      match found with
      | some dir => .ok (some dir)
      | none => firstDir d name back := by
  induction front with
  | nil => rfl
  | cons dir front ih =>
    rw [List.cons_append, firstDir, firstDir, ih]
    cases d.isDirectory (dir.child name) with
    | error fault => rfl
    | ok found => cases found <;> rfl

/-- The places of a list that are looked at before the first one that holds a directory. -/
def triedPlaces (d : Disk) (places : List Path) : List Path :=
  places.takeWhile fun place => !d.holdsDirectory place

/-- A search has the first directory as its result just if no place before this directory is too
long, and no result otherwise. -/
theorem firstDir_eq_ok_iff {dirs : List Path} {found : Option Path} :
    firstDir d name dirs = .ok found ↔
      (dirs.map (·.child name)).find? d.holdsDirectory = found ∧
        ∀ place ∈ triedPlaces d (dirs.map (·.child name)), ¬d.IsTooLong place := by
  unfold triedPlaces
  induction dirs with
  | nil => simp [firstDir]
  | cons dir rest ih =>
    rw [firstDir, List.map_cons, List.find?_cons, List.takeWhile_cons]
    by_cases hdir : d.holdsDirectory (dir.child name)
    · rw [isDirectory_of_holdsDirectory hdir, hdir]
      simp
    · rw [Bool.not_eq_true] at hdir
      rw [hdir]
      simp only [Bool.not_false, if_true, List.forall_mem_cons]
      -- A path that is too long ends the search, and no directory is seen at it.
      by_cases hlong : d.IsTooLong (dir.child name)
      · rw [isDirectory, isAt_of_isTooLong hlong]
        exact iff_of_false (by simp) fun h => h.2.1 hlong
      · have hmissing : d.isDirectory (dir.child name) = .ok false := by
          rw [isDirectory, isAt_of_not_isTooLong hlong]
          exact congrArg Except.ok hdir
        rw [hmissing]
        simpa [hlong] using ih

/-- The directories for packages in the real directory of a project and above it, if there is such
a directory. -/
def realProjectDirs (d : Disk) (project : Path) : List Path :=
  match d.realPath project with
  | .ok real => dirsAbove real
  | .error _ => []

/-- The places at which a package may be installed: in the given directories first, and then in
those that belong to the project. -/
def places (d : Disk) (project : Path) (given : List Path) (name : Text) : List Path :=
  (given ++ realProjectDirs d project).map (·.child name)

/-- The place at which a package is installed. -/
def install? (d : Disk) (project : Path) (given : List Path) (name : Text) : Option Path :=
  (places d project given name).find? d.holdsDirectory

theorem dirsAbove_isProper {l : Path} (hl : l.IsProper) : ∀ dir ∈ dirsAbove l, dir.IsProper := by
  intro dir hdir
  obtain ⟨n, -, rfl⟩ := List.mem_map.mp hdir
  exact Path.child_isProper (fun name hname => hl name (List.mem_of_mem_take hname)) _

/-- A package is installed at a proper path if the given directories and the project have proper
paths. -/
theorem install?_isProper (hd : d.IsTree) (hproject : project.IsProper)
    (hgiven : ∀ dir ∈ given, dir.IsProper) {directory : Path}
    (h : install? d project given name = some directory) : directory.IsProper := by
  obtain ⟨dir, hdir, rfl⟩ := List.mem_map.mp (List.mem_of_find?_eq_some h)
  refine Path.child_isProper ?_ name
  rcases List.mem_append.mp hdir with hdir | hdir
  · exact hgiven dir hdir
  · unfold realProjectDirs at hdir
    split at hdir
    · next real hreal => exact dirsAbove_isProper (realPath_isProper hd hproject hreal) dir hdir
    · cases hdir

/-- Nothing hinders the search for a package: no place before that of the package is too long, and
the project has a real path unless the given directories hold the package. -/
structure IsSearchable (d : Disk) (project : Path) (given : List Path) (name : Text) : Prop where
  /-- No place before that of the package is too long. -/
  short : ∀ place ∈ triedPlaces d (places d project given name), ¬d.IsTooLong place
  /-- The project has a real path, unless it is not looked at. -/
  real : (∃ path, d.realPath project = .ok path) ∨
    ∃ dir ∈ given, d.holdsDirectory (dir.child name)

theorem findDir_eq_bind (d : Disk) (project : Path) (given : List Path) (name : Text) :
    findDir d project given name = (firstDir d name given).bind fun found =>
      match found with
      | some dir => .ok (some dir)
      | none => (projectDirs d project).bind (firstDir d name) := by
  unfold findDir
  cases firstDir d name given with
  | error failure => rfl
  | ok found => cases found <;> rfl

/-- The first directory of a list depends on where directories are seen only. -/
theorem firstDir_congr (h : ∀ path, d'.isDirectory path = d.isDirectory path) (dirs : List Path) :
    firstDir d' name dirs = firstDir d name dirs := by
  induction dirs with
  | nil => rfl
  | cons dir rest ih => rw [firstDir, firstDir, h, ih]

/-- A package is found alike on disks on which directories are seen alike and the project has the
same real path. -/
theorem findDir_congr (h : ∀ path, d'.isDirectory path = d.isDirectory path)
    (hreal : d'.realPath project = d.realPath project) :
    findDir d' project given name = findDir d project given name := by
  have hproject : projectDirs d' project = projectDirs d project := by
    unfold projectDirs
    rw [hreal]
  rw [findDir_eq_bind, findDir_eq_bind, firstDir_congr h, hproject]
  congr 1
  funext found
  cases found with
  | some dir => rfl
  | none =>
    dsimp only
    congr 1
    funext dirs
    exact firstDir_congr h dirs

/-- In a project with a real path one list of directories is searched. -/
theorem findDir_of_real {real : Path} (hreal : d.realPath project = .ok real) :
    findDir d project given name = firstDir d name (given ++ realProjectDirs d project) := by
  have hprojectDirs : projectDirs d project = .ok (realProjectDirs d project) := by
    unfold projectDirs realProjectDirs
    rw [hreal]
  rw [findDir_eq_bind, hprojectDirs, firstDir_append]
  rfl

/-- Without a real path of the project, the package is in a given directory or the search fails. -/
theorem findDir_of_not_real {fault : RealFault} (hreal : d.realPath project = .error fault)
    {found : Option Path} :
    findDir d project given name = .ok found ↔
      firstDir d name given = .ok found ∧ found ≠ none := by
  have hprojectDirs : projectDirs d project = .error (.ofRealFault fault) := by
    unfold projectDirs
    rw [hreal]
  rw [findDir_eq_bind, hprojectDirs]
  cases firstDir d name given with
  | error failure => simp [Except.bind]
  | ok found' =>
    cases found' with
    | none => simpa [Except.bind] using fun h => h.symm
    | some dir =>
      simp only [Except.bind, Except.ok.injEq, iff_self_and]
      rintro rfl
      simp

/-- The search for a package has its directory as the result just if nothing hinders it, and no
result otherwise. -/
theorem findDir_eq_ok_iff {found : Option Path} :
    findDir d project given name = .ok found ↔
      install? d project given name = found ∧ IsSearchable d project given name := by
  cases hreal : d.realPath project with
  | ok real =>
    rw [findDir_of_real hreal, firstDir_eq_ok_iff]
    refine and_congr_right fun _ => ?_
    exact ⟨fun h => ⟨h, .inl ⟨real, hreal⟩⟩, fun h => h.short⟩
  | error fault =>
    have hplaces : places d project given name = given.map (·.child name) := by
      unfold places realProjectDirs
      rw [hreal, List.append_nil]
    rw [findDir_of_not_real hreal, firstDir_eq_ok_iff, install?, hplaces, and_assoc]
    refine and_congr_right fun hfind => ⟨?_, ?_⟩
    · -- The search never came to the project, so a given directory holds the package.
      rintro ⟨hshort, hne⟩
      refine ⟨by rwa [hplaces], .inr ?_⟩
      obtain ⟨place, rfl⟩ := Option.ne_none_iff_exists'.mp hne
      obtain ⟨dir, hdir, rfl⟩ := List.mem_map.mp (List.mem_of_find?_eq_some hfind)
      exact ⟨dir, hdir, List.find?_some hfind⟩
    · rintro ⟨hshort, ⟨path, hpath⟩ | ⟨dir, hdir, hholds⟩⟩
      · rw [hreal] at hpath
        cases hpath
      · refine ⟨by rwa [hplaces] at hshort, ?_⟩
        rintro rfl
        exact List.find?_eq_none.mp hfind _ (List.mem_map_of_mem hdir) hholds

/-! ## The names inside a package -/

/-- The fields of the description of the package in a directory, if it can be read. A package
without a description has none. -/
def fields? (d : Disk) (directory : Path) : Option (List (Text × Json)) :=
  match Manifest.readJson d (directory.child Description.fileName) with
  | .error (.access (.system .notFound _)) => some []
  | .ok (.object fields) => some fields
  | _ => none

/-- The text to which the names of fields lead in a document. -/
def textAt? : Json → List Text → Option Text
  | .text t, [] => some t
  | .object fields, name :: names => (Json.field? name fields).bind (textAt? · names)
  | _, _ => none

/-- Where the fields of a description name entry points, in the order in which they are tried. -/
def entryFields : List (List Text) := [["main"], ["style"], ["sass"], ["eyeglass", "sassDir"]]

/-- The entry points that the fields of a description name. -/
def entryPointsOf (fields : List (Text × Json)) : List Text :=
  entryFields.filterMap (textAt? (.object fields))

/-- The names that are tried inside a package: the path inside the package, or else the entry
points of its description and the package itself. -/
def entryNames (d : Disk) (directory : Path) (subpath : Text) : List Text :=
  if subpath ≠ [] then [subpath] else entryPointsOf ((fields? d directory).getD []) ++ [[]]

theorem textField_eq_textAt? (name : Text) (fields : List (Text × Json)) :
    Description.textField name fields = textAt? (.object fields) [name] := by
  unfold Description.textField
  rw [textAt?]
  cases Json.field? name fields with
  | none => rfl
  | some v => cases v <;> rfl

theorem entryPoints_ofFields (fields : List (Text × Json)) :
    (Description.ofFields fields).entryPoints = entryPointsOf fields ++ [[]] := by
  have hsassDir : (Description.ofFields fields).sassDir =
      textAt? (.object fields) ["eyeglass", "sassDir"] := by
    unfold Description.ofFields
    dsimp only
    rw [textAt?]
    cases Json.field? "eyeglass" fields with
    | none => rfl
    | some v =>
      cases v with
      | object inner => exact textField_eq_textAt? "sassDir" inner
      | _ => rfl
  unfold Description.entryPoints entryPointsOf entryFields
  rw [hsassDir]
  show [Description.textField "main" fields, Description.textField "style" fields,
    Description.textField "sass" fields, _].filterMap id ++ _ = _
  simp only [textField_eq_textAt?, List.filterMap_cons, id]
  rfl

/-- What the description of a package says, or that it cannot be read. -/
theorem read_eq (d : Disk) (directory : Path) :
    (∃ fields, fields? d directory = some fields ∧
        Description.read d directory = .ok (Description.ofFields fields)) ∨
      fields? d directory = none ∧ ∃ failure, Description.read d directory = .error failure := by
  unfold Description.read fields?
  dsimp only
  cases Manifest.readJson d (directory.child Description.fileName) with
  | ok v =>
    cases v with
    | object fields => exact .inl ⟨fields, rfl, rfl⟩
    | _ => exact .inr ⟨rfl, _, rfl⟩
  | error failure =>
    by_cases hmissing : ∃ path, failure = .access (.system .notFound path)
    · obtain ⟨path, rfl⟩ := hmissing
      exact .inl ⟨[], rfl, rfl⟩
    · refine .inr ⟨?_, failure, ?_⟩
      · split
        · next path hfailure => exact absurd ⟨path, Except.error.inj hfailure⟩ hmissing
        · next hfields => cases hfields
        · rfl
      · split
        · next path hfailure => exact absurd ⟨path, Except.error.inj hfailure⟩ hmissing
        · next hfailure => rw [Except.error.inj hfailure]
        · next hfields => cases hfields
        · next hfields => cases hfields

/-- The names that are tried are known just if the description can be read or is not needed. -/
theorem entryPaths_eq_ok_iff {directory : Path} {subpath : Text} {names : List Text} :
    entryPaths d directory subpath = .ok names ↔
      entryNames d directory subpath = names ∧ (subpath = [] → (fields? d directory).isSome) := by
  unfold entryPaths entryNames
  by_cases hsub : subpath = []
  · rw [if_neg (not_not.mpr hsub), if_neg (not_not.mpr hsub)]
    rcases read_eq d directory with ⟨fields, hfields, hread⟩ | ⟨hfields, failure, hread⟩
    · rw [hfields, hread]
      simp [Except.map, entryPoints_ofFields]
    · rw [hfields, hread]
      simp [Except.map, hsub]
  · rw [if_pos hsub, if_pos hsub]
    simp [hsub]

/-- The names that are tried depend on the description of the package only, and on nothing if the
description is not needed. -/
theorem entryPaths_congr {directory : Path} {subpath : Text}
    (h : subpath = [] → d'.status (directory.child Description.fileName).toText =
      d.status (directory.child Description.fileName).toText) :
    entryPaths d' directory subpath = entryPaths d directory subpath := by
  unfold entryPaths
  by_cases hsub : subpath = []
  · rw [if_neg (not_not.mpr hsub), if_neg (not_not.mpr hsub)]
    unfold Description.read
    dsimp only
    rw [Manifest.readJson_congr (h hsub)]
  · rw [if_pos hsub, if_pos hsub]

end Package

end StyleImport
