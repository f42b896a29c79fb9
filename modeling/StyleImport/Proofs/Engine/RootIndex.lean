import StyleImport.Proofs.Engine.Scripts

/-!
# Packages without entry points

A package whose description names no entry point is looked up by the empty name. This is meant to
lead to the index file of the package, but the empty name is spelled before the index file is: with
the usual marks and endings five file names consist of a mark and an ending only, and a file with
one of them is taken first.

## Main definitions

- `Engine.indexNames`: the names of an index file.
- `Engine.strayNames`: the names that consist of a mark and an ending.

## Main statements

- `Engine.namedPaths_nil`: the paths for the empty name.
- `Engine.find_bare`: what a reference to a package without entry points means.
- `Engine.bare_index_iff`: when it means the index file of the package.
-/

namespace StyleImport

namespace Engine

open Disk

variable {e : Engine} {d : Disk} {reference : Reference} {file : Text} {directory : Path}
  {fields : List (Text × Json)} {dep : Dependency}

/-- The names of an index file, in the order in which they are tried. -/
def indexNames : List Text :=
  ["index.scss", "index.css", "index", "_index.scss", "_index.css", "_index"]

/-- The names that consist of a mark and an ending, in the order in which they are tried. -/
def strayNames : List Text := [".scss", ".css", "_.scss", "_.css", "_"]

theorem isName_of_mem_names {name : Text} (h : name ∈ strayNames ++ indexNames) :
    Path.IsName name := by
  have hall : ∀ name ∈ strayNames ++ indexNames, Path.IsName name := by decide
  exact hall name h

/-- The paths for the empty name are those of the files spelled like it and of the index files. -/
theorem namedPaths_nil (he : e.probe = .standard) (directory : Path) :
    e.namedPaths directory [] =
      (Probe.standard.fileNames [] ++ indexNames).map directory.child := by
  have hindex : Probe.standard.fileNames indexName = indexNames := by decide
  rw [namedPaths, he, ← Probe.candidates_eq_spellings, ← Probe.candidates_eq_spellings,
    Probe.candidates_of_plain _ _ (by decide), Probe.candidates_of_plain _ _ (by decide), hindex,
    Path.child_nil, List.map_append]

/-- The first file for the empty name is the first one with a stray name or else the index file. No
file is at the path of the directory itself, which is tried as well. -/
theorem find?_namedPaths_nil (he : e.probe = .standard) (hdir : d.holdsDirectory directory) :
    (e.namedPaths directory []).find? d.holdsFile =
      ((strayNames ++ indexNames).map directory.child).find? d.holdsFile := by
  have hnames : Probe.standard.fileNames [] =
      ([".scss", ".css", "", "_.scss", "_.css", "_"] : List Text) := by decide
  have hself : d.holdsFile (directory.child (Text.ofString "")) = false :=
    (congrArg d.holdsFile (Path.child_nil directory)).trans
      (Bool.eq_false_iff.mpr (not_holdsFile_of_holdsDirectory hdir))
  rw [namedPaths_nil he, hnames]
  simp only [strayNames, List.cons_append, List.nil_append, List.map_cons, List.find?_cons, hself]

/-- Nothing hinders the lookup of a package without entry points. -/
theorem isUnhindered_of_bare (hd : d.IsTree) (he : e.IsProper) (hprobe : e.probe = .standard)
    (hdep : Dependency.parse? reference = some dep) (hsub : dep.subpath = [])
    (hdir : Package.findDir d e.projectRoot e.packageDirs dep.package = .ok (some directory))
    (hfields : Package.fields? d directory = some fields)
    (hnone : Package.entryPointsOf fields = []) :
    e.IsUnhindered d reference file ∧
      e.lookupPaths d reference file = e.namedPaths directory [] := by
  obtain ⟨hinstall, hsearch⟩ := Package.findDir_eq_ok_iff.mp hdir
  -- Without entry points the empty name is tried alone, which means the package itself.
  have hnames : Package.entryNames d directory dep.subpath = [[]] := by
    rw [Package.entryNames, if_neg (not_not.mpr hsub), hfields, Option.getD_some, hnone,
      List.nil_append]
  have hpaths : e.lookupPaths d reference file = e.namedPaths directory [] := by
    rw [lookupPaths_of_installed hdep hinstall, hnames,
      List.filter_cons_of_pos (by decide), List.filter_nil, List.flatMap_singleton]
  have hproper := Package.install?_isProper hd he.projectRoot he.packageDirs hinstall
  have hspeak : ∀ part ∈ directory.parts, IsSpeakable part :=
    (isSpeakable_toText hproper).mp (isSpeakable_of_holds (List.find?_some hinstall))
  refine ⟨(isUnhindered_iff_of_installed hdep hinstall).mpr ⟨hsearch, ?_, fun path hpath => ?_⟩,
    hpaths⟩
  · exact fun _ => hfields ▸ rfl
  · have hmem : path ∈ e.namedPaths directory [] := hpaths ▸ List.takeWhile_subset _ hpath
    exact isSpeakable_namedPaths (hprobe ▸ by decide) (hprobe ▸ by decide) hspeak
      (fun _ hc => by cases hc) path hmem

/-- A reference to a package without entry points means the first file of the package with a stray
name or else its index file. -/
theorem find_bare (hd : d.IsTree) (he : e.IsProper) (hprobe : e.probe = .standard)
    (hdep : Dependency.parse? reference = some dep) (hsub : dep.subpath = [])
    (hdir : Package.findDir d e.projectRoot e.packageDirs dep.package = .ok (some directory))
    (hfields : Package.fields? d directory = some fields)
    (hnone : Package.entryPointsOf fields = []) :
    (e.find d reference file).result =
      .ok (((strayNames ++ indexNames).map directory.child).find? d.holdsFile) := by
  obtain ⟨hclear, hpaths⟩ : e.IsUnhindered d reference file ∧
      e.lookupPaths d reference file = e.namedPaths directory [] :=
    isUnhindered_of_bare hd he hprobe hdep hsub hdir hfields hnone
  have hholds : d.holdsDirectory directory :=
    List.find?_some (Package.findDir_eq_ok_iff.mp hdir).1
  rw [find, if_pos (isDependency_of_parse? hdep)]
  exact (findDependency_eq_ok_iff hdep).mpr
    ⟨hpaths ▸ find?_namedPaths_nil hprobe hholds, hclear⟩

/-- Paths with different names in one directory are different. -/
theorem child_injective_of_isName {name name' : Text} (h : Path.IsName name)
    (h' : Path.IsName name') (heq : directory.child name = directory.child name') :
    name = name' := by
  rw [Path.child_of_isName h, Path.child_of_isName h'] at heq
  exact (List.cons.inj (List.append_cancel_left (congrArg Path.parts heq))).1

/-- The first file with a stray name or else the index file is the index file just if no file has a
stray name. -/
theorem find?_stray_eq_iff :
    ((strayNames ++ indexNames).map directory.child).find? d.holdsFile =
        (indexNames.map directory.child).find? d.holdsFile ↔
      ∀ name ∈ strayNames, ¬d.holdsFile (directory.child name) := by
  rw [List.map_append, List.find?_append]
  constructor
  · intro heq name hname hfile
    have hsome : ((strayNames.map directory.child).find? d.holdsFile).isSome :=
      List.find?_isSome.mpr ⟨_, List.mem_map_of_mem hname, hfile⟩
    obtain ⟨path, hpath⟩ := Option.isSome_iff_exists.mp hsome
    rw [hpath, Option.some_or] at heq
    obtain ⟨stray, hstray, rfl⟩ := List.mem_map.mp (List.mem_of_find?_eq_some hpath)
    obtain ⟨index, hindex, hsame⟩ := List.mem_map.mp (List.mem_of_find?_eq_some heq.symm)
    -- No name is both stray and that of an index file.
    have hnames := child_injective_of_isName (isName_of_mem_names (List.mem_append_right _ hindex))
      (isName_of_mem_names (List.mem_append_left _ hstray)) hsame
    have hdisjoint : ∀ name ∈ indexNames, name ∉ strayNames := by decide
    exact hdisjoint index hindex (hnames ▸ hstray)
  · intro h
    rw [List.find?_eq_none.mpr (List.forall_mem_map.mpr h), Option.none_or]

/-- A reference to a package without entry points means the first file of the package with a stray
name, and otherwise the index file of the package. So it means the index file just if the package
holds no file with a stray name. -/
theorem bare_index_iff (hd : d.IsTree) (he : e.IsProper) (hprobe : e.probe = .standard)
    (hdep : Dependency.parse? reference = some dep) (hsub : dep.subpath = [])
    (hdir : Package.findDir d e.projectRoot e.packageDirs dep.package = .ok (some directory))
    (hfields : Package.fields? d directory = some fields)
    (hnone : Package.entryPointsOf fields = []) :
    (e.find d reference file).result =
        .ok (((strayNames ++ indexNames).map directory.child).find? d.holdsFile) ∧
      ((e.find d reference file).result =
          .ok ((indexNames.map directory.child).find? d.holdsFile) ↔
        ∀ name ∈ strayNames, ¬d.holdsFile (directory.child name)) := by
  have hfind : (e.find d reference file).result =
      .ok (((strayNames ++ indexNames).map directory.child).find? d.holdsFile) :=
    find_bare hd he hprobe hdep hsub hdir hfields hnone
  refine ⟨hfind, ?_⟩
  rw [hfind, Except.ok.injEq]
  exact find?_stray_eq_iff

example : (strayNames ++ indexNames).find? (· = Text.ofString "index.css") =
    some (Text.ofString "index.css") := by cbv

/-! ## A style sheet whose name is a mark -/

/-- A disk with a package that has an index file and a style sheet whose name is a mark and an
ending. -/
def strayDisk : Disk where
  entries := [(["node_modules"], .directory), (["node_modules", "k"], .directory),
    (["node_modules", "k", "_.scss"], .file []), (["node_modules", "k", "index.scss"], .file [])]
  workingDirectory := some []

theorem strayDisk_isTree : strayDisk.IsTree := ⟨by decide, by decide, by decide, by decide⟩

theorem findDir_strayDisk : Package.findDir strayDisk rootEngine.projectRoot
    rootEngine.packageDirs "k" = .ok (some (.ofText "/node_modules/k")) := by
  cbv

theorem fields?_strayDisk :
    Package.fields? strayDisk (.ofText "/node_modules/k") = some [] := by
  cbv

theorem bare_index_strayDisk :
    strayDisk.IsTree ∧ rootEngine.IsProper ∧ rootEngine.probe = .standard ∧
      Package.findDir strayDisk rootEngine.projectRoot rootEngine.packageDirs "k" =
        .ok (some (.ofText "/node_modules/k")) ∧
      (rootEngine.find strayDisk "~k" "/m.scss").result =
        .ok (((strayNames ++ indexNames).map (Path.ofText "/node_modules/k").child).find?
          strayDisk.holdsFile) ∧
      ((rootEngine.find strayDisk "~k" "/m.scss").result =
          .ok ((indexNames.map (Path.ofText "/node_modules/k").child).find? strayDisk.holdsFile) ↔
        ∀ name ∈ strayNames,
          ¬strayDisk.holdsFile ((Path.ofText "/node_modules/k").child name)) :=
  ⟨strayDisk_isTree, rootEngine_isProper, rfl, findDir_strayDisk,
    bare_index_iff strayDisk_isTree rootEngine_isProper rfl parse?_bare rfl findDir_strayDisk
      fields?_strayDisk rfl⟩

/-- The package has no description and holds an index file, but the other style sheet is found. -/
theorem bare_index_shadowed :
    Package.entryPaths strayDisk (.ofText "/node_modules/k") [] = .ok [[]] ∧
      (indexNames.map (Path.ofText "/node_modules/k").child).find? strayDisk.holdsFile =
        some (.ofText "/node_modules/k/index.scss") ∧
      (rootEngine.find strayDisk "~k" "/m.scss").result =
        .ok (some (.ofText "/node_modules/k/_.scss")) := by
  refine ⟨by cbv, by cbv, ?_⟩
  rw [find_bare strayDisk_isTree rootEngine_isProper rfl parse?_bare rfl findDir_strayDisk
    fields?_strayDisk rfl]
  cbv

end Engine

end StyleImport
