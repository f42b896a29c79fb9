import StyleImport.Engine
import StyleImport.Proofs.Package

/-!
# Lookups

Finding the file that a reference means is one search for the first file of a list of paths. The
loops over entry points, over the name and the index file, and over marks and endings only put this
list together. The search has the first file of the list as its result unless something hinders it
before it comes to this file.

## Main definitions

- `Engine.lookupPaths`: the paths at which the file for a reference is looked for.
- `Engine.searchedPaths`: these paths as a lookup works them out, or why it does not.
- `Engine.IsUnhindered`: nothing hinders a lookup.

## Main statements

- `Engine.result_findEntry`: the search inside a package is a search through one list.
- `Engine.result_find`: a lookup works out its paths and goes through them.
- `Engine.isUnhindered_of_isSpeakable`: lookups among texts that can be handed to the system.
- `Engine.find_eq_ok_iff`: the result of a lookup.
-/

namespace StyleImport

namespace Engine

open Disk

variable {e : Engine} {d : Disk} {reference file : Text} {found : Path}

/-! ## The directory of the importing file -/

theorem mem_squeeze {p : CodePoint → Bool} {by_ c : CodePoint} {t : Text}
    (h : c ∈ Text.squeeze p by_ t) : c = by_ ∨ c ∈ t := by
  fun_induction Text.squeeze p by_ t with
  | case1 => cases h
  | case2 b hb => exact .inl (List.mem_singleton.mp h)
  | case3 b hb => exact .inr h
  | case4 b b' t hb hb' ih => exact (ih h).imp_right (List.mem_cons_of_mem b)
  | case5 b b' t hb hb' ih =>
    rcases List.mem_cons.mp h with rfl | h
    · exact .inl rfl
    · exact (ih h).imp_right (List.mem_cons_of_mem b)
  | case6 b b' t hb ih =>
    rcases List.mem_cons.mp h with rfl | h
    · exact .inr List.mem_cons_self
    · exact (ih h).imp_right (List.mem_cons_of_mem b)

theorem isSpeakable_unifySeparators {t : Text} (h : IsSpeakable t) :
    IsSpeakable (unifySeparators t) := by
  intro c hc
  rcases mem_squeeze hc with rfl | hc
  · decide
  · exact h c hc

theorem isSpeakable_parentText (h : IsSpeakable file) : IsSpeakable (parentText file) := by
  unfold parentText
  rw [Text.splitLast_eq]
  by_cases hslash : CodePoint.scalar '/' ∈ unifySeparators file
  · rw [if_pos hslash]
    refine isSpeakable_join fun piece hpiece => ?_
    have hmem := List.dropLast_subset _ hpiece
    exact (isSpeakable_unifySeparators h).subset fun c hc => Text.mem_of_mem_split hmem hc
  · rw [if_neg hslash]
    exact fun c hc => by cases hc

/-- A text that can be handed to the system is normalized to such a text. -/
theorem normalize_eq_ok (hd : d.IsTree) {t : Text} (h : IsSpeakable t) :
    ∃ t', normalize d t = .ok t' ∧ IsSpeakable t' := by
  have hparts : ∀ name ∈ (Path.ofText t).parts, IsSpeakable name := isSpeakable_partsOf h
  unfold normalize
  cases hreal : d.existingPath (.ofText t) with
  | ok real =>
    refine ⟨_, rfl, isSpeakable_unifySeparators (isSpeakable_toText_of_forall ?_)⟩
    refine workOut_forall (fun l target htarget => ?_) (fun l hl name hname => ?_) hparts hreal
    · exact isSpeakable_partsOf (hd.isSpeakable_target htarget)
    · exact (hd.isEntryName (hd.here l hl) name hname).2.2.2
  | error fault =>
    have hfault := isUnspeakable_of_workOut hd hparts hreal
    exact ⟨_, if_neg (by simp [hfault]), isSpeakable_unifySeparators h⟩

/-- The directory of an importing file that can be handed to the system is always known. -/
theorem parentDirectory_eq_ok (hd : d.IsTree) (hfile : IsSpeakable file) :
    ∃ directory, parentDirectory d file = .ok directory ∧ IsSpeakable directory := by
  unfold parentDirectory
  dsimp only
  split
  · exact normalize_eq_ok hd (isSpeakable_parentText hfile)
  · split
    · exact normalize_eq_ok hd (by decide)
    · exact normalize_eq_ok hd (by decide)

/-- The path that is worked out to find the directory of an importing file. -/
def importerPath (file : Text) : Text :=
  if parentText file ≠ [] then parentText file
  else if file.head?.any isSeparator then "/" else "."

theorem parentDirectory_eq (d : Disk) (file : Text) :
    parentDirectory d file = normalize d (importerPath file) := by
  unfold parentDirectory importerPath
  dsimp only
  split
  · rfl
  · split <;> rfl

/-! ## One list of paths -/

/-- The paths at which a name is looked for in a directory: all spellings of the name, and behind
them all spellings of the index file of the directory with this name. -/
def namedPaths (e : Engine) (directory : Path) (name : Text) : List Path :=
  e.probe.spellings directory name ++ e.probe.spellings (directory.child name) indexName

theorem result_findClassic (e : Engine) (d : Disk) (directory : Path) (name : Text) :
    (e.findClassic d directory name).result =
      (Probe.firstFile d (e.namedPaths directory name)).result := by
  unfold findClassic namedPaths Probe.find
  rw [Traced.result_bind, Probe.result_firstFile_append, Probe.candidates_eq_spellings]
  congr 1
  funext found
  cases found with
  | some path => rfl
  | none =>
    dsimp only
    rw [Traced.result_note_bind, Probe.candidates_eq_spellings]

/-- The search inside a package is a search through the paths for all names that may be style
sheets. -/
theorem result_findEntry (e : Engine) (d : Disk) (package : Text) (directory : Path)
    (names : List Text) :
    (e.findEntry d package directory names).result =
      (Probe.firstFile d
        ((names.filter Package.isStyleCandidate).flatMap (e.namedPaths directory))).result := by
  induction names with
  | nil => rfl
  | cons name rest ih =>
    rw [findEntry]
    by_cases hstyle : Package.isStyleCandidate name
    · rw [List.filter_cons_of_pos hstyle, List.flatMap_cons, Probe.result_firstFile_append,
        ← result_findClassic, ← ih]
      simp only [hstyle, Bool.not_true, Bool.false_eq_true, if_false]
      rw [Traced.result_bind]
      congr 1
      funext found
      cases found <;> rfl
    · rw [List.filter_cons_of_neg hstyle, ← ih]
      simp only [hstyle, Bool.not_false, if_true]
      exact Traced.result_note_bind _ _

/-- The paths at which the file for a reference in a file is looked for. A reference to a package
means the names tried inside the package, less those that are scripts, and any other reference is a
name seen from the directory of the importing file. -/
def lookupPaths (e : Engine) (d : Disk) (reference : Reference) (file : Text) : List Path :=
  if reference.isDependency then
    match Dependency.parse? reference with
    | none => []
    | some dep =>
      match Package.install? d e.projectRoot e.packageDirs dep.package with
      | none => []
      | some directory =>
        ((Package.entryNames d directory dep.subpath).filter Package.isStyleCandidate).flatMap
          (e.namedPaths directory)
  else match parentDirectory d file with
    | .ok directory => e.namedPaths (.ofText directory) reference
    | .error _ => []

/-- Nothing hinders a lookup before it comes to the first file. -/
structure IsUnhindered (e : Engine) (d : Disk) (reference : Reference) (file : Text) : Prop where
  /-- Nothing hinders the search for the package. -/
  package : ∀ dep, Dependency.parse? reference = some dep →
    Package.IsSearchable d e.projectRoot e.packageDirs dep.package
  /-- The description of the package, if it is needed, can be read. -/
  description : ∀ dep directory, Dependency.parse? reference = some dep →
    Package.install? d e.projectRoot e.packageDirs dep.package = some directory →
      dep.subpath = [] → (Package.fields? d directory).isSome
  /-- All paths before the first file can be handed to the system. -/
  speakable : ∀ path ∈ Probe.triedPaths d (e.lookupPaths d reference file),
    IsSpeakable path.toText

theorem isDependency_of_parse? {dep : Dependency} (h : Dependency.parse? reference = some dep) :
    Reference.isDependency reference := by
  unfold Dependency.parse? at h
  split at h
  · assumption
  · cases h

theorem lookupPaths_of_missing {dep : Dependency} (hdep : Dependency.parse? reference = some dep)
    (h : Package.install? d e.projectRoot e.packageDirs dep.package = none) :
    e.lookupPaths d reference file = [] := by
  unfold lookupPaths
  rw [if_pos (isDependency_of_parse? hdep), hdep]
  simp only [h]

theorem lookupPaths_of_installed {dep : Dependency} {directory : Path}
    (hdep : Dependency.parse? reference = some dep)
    (h : Package.install? d e.projectRoot e.packageDirs dep.package = some directory) :
    e.lookupPaths d reference file =
      ((Package.entryNames d directory dep.subpath).filter Package.isStyleCandidate).flatMap
        (e.namedPaths directory) := by
  unfold lookupPaths
  rw [if_pos (isDependency_of_parse? hdep), hdep]
  simp only [h]

/-- The lookup of a package goes from its directory to the names tried inside it. -/
theorem result_findDependency {dep : Dependency} (hdep : Dependency.parse? reference = some dep) :
    (e.findDependency d reference).result =
      (Package.findDir d e.projectRoot e.packageDirs dep.package).bind fun directory? =>
        match directory? with
        | none => .ok none
        | some directory => (Package.entryPaths d directory dep.subpath).bind fun names =>
          (e.findEntry d dep.package directory names).result := by
  unfold findDependency
  rw [hdep]
  dsimp only
  rw [Traced.result_ofExcept_bind]
  congr 1
  funext directory?
  cases directory? with
  | none => rfl
  | some directory => exact Traced.result_ofExcept_bind _ _

/-- The paths that a lookup goes through, or why it does not come to going through any. -/
def searchedPaths (e : Engine) (d : Disk) (reference : Reference) (file : Text) :
    Except Failure (List Path) :=
  if reference.isDependency then
    match Dependency.parse? reference with
    | none => .ok []
    | some dep =>
      (Package.findDir d e.projectRoot e.packageDirs dep.package).bind fun directory? =>
        match directory? with
        | none => .ok []
        | some directory => (Package.entryPaths d directory dep.subpath).bind fun names =>
          .ok ((names.filter Package.isStyleCandidate).flatMap (e.namedPaths directory))
  else (parentDirectory d file).bind fun directory =>
    .ok (e.namedPaths (.ofText directory) reference)

/-- A lookup has the first file of the paths that it goes through as its result. -/
theorem result_find (e : Engine) (d : Disk) (reference : Reference) (file : Text) :
    (e.find d reference file).result =
      (e.searchedPaths d reference file).bind fun paths => (Probe.firstFile d paths).result := by
  unfold find searchedPaths
  by_cases hpackage : Reference.isDependency reference
  · rw [if_pos hpackage, if_pos hpackage]
    cases hdep : Dependency.parse? reference with
    | none =>
      unfold findDependency
      rw [hdep]
      rfl
    | some dep =>
      rw [result_findDependency hdep]
      dsimp only
      cases Package.findDir d e.projectRoot e.packageDirs dep.package with
      | error failure => rfl
      | ok directory? =>
        cases directory? with
        | none => rfl
        | some directory =>
          dsimp only [Except.bind]
          cases Package.entryPaths d directory dep.subpath with
          | error failure => rfl
          | ok names => exact result_findEntry e d dep.package directory names
  · rw [if_neg hpackage, if_neg hpackage, Traced.result_ofExcept_bind]
    cases parentDirectory d file with
    | error failure => rfl
    | ok directory => exact result_findClassic e d _ reference

/-- Lookups on two disks go through the same paths if the importing file lies in the same directory
on both, the same packages are there and their descriptions say the same. -/
theorem searchedPaths_congr {d' : Disk}
    (hclassic : ¬Reference.isDependency reference →
      parentDirectory d' file = parentDirectory d file)
    (hpackage : ∀ dep, Dependency.parse? reference = some dep →
      Package.findDir d' e.projectRoot e.packageDirs dep.package =
        Package.findDir d e.projectRoot e.packageDirs dep.package)
    (hentries : ∀ dep directory, Dependency.parse? reference = some dep →
      Package.findDir d e.projectRoot e.packageDirs dep.package = .ok (some directory) →
        Package.entryPaths d' directory dep.subpath = Package.entryPaths d directory dep.subpath) :
    e.searchedPaths d' reference file = e.searchedPaths d reference file := by
  unfold searchedPaths
  by_cases hdependency : Reference.isDependency reference
  · rw [if_pos hdependency, if_pos hdependency]
    cases hdep : Dependency.parse? reference with
    | none => rfl
    | some dep =>
      dsimp only
      rw [hpackage dep hdep]
      cases hdir : Package.findDir d e.projectRoot e.packageDirs dep.package with
      | error failure => rfl
      | ok directory? =>
        cases directory? with
        | none => rfl
        | some directory =>
          dsimp only [Except.bind]
          rw [hentries dep directory hdep hdir]
  · rw [if_neg hdependency, if_neg hdependency, hclassic hdependency]

/-! ## Paths that can be handed to the system -/

/-- The paths of an engine are paths that texts write. -/
structure IsProper (e : Engine) : Prop where
  /-- The path of the temp area. -/
  tempRoot : e.tempArea.root.IsProper
  /-- The path of the project. -/
  projectRoot : e.projectRoot.IsProper
  /-- The directories in which packages are searched before. -/
  packageDirs : ∀ dir ∈ e.packageDirs, dir.IsProper

/-- All paths at which a file is looked for are proper. -/
theorem lookupPaths_isProper (hd : d.IsTree) (he : e.IsProper) :
    ∀ path ∈ e.lookupPaths d reference file, path.IsProper := by
  have hnamed : ∀ {directory : Path} {name : Text}, directory.IsProper →
      ∀ path ∈ e.namedPaths directory name, path.IsProper := by
    intro directory name hdir path hpath
    rcases List.mem_append.mp hpath with h | h
    · exact Probe.spellings_isProper hdir path h
    · exact Probe.spellings_isProper (Path.child_isProper hdir name) path h
  intro path hpath
  unfold lookupPaths at hpath
  split at hpath
  · split at hpath
    · cases hpath
    · split at hpath
      · cases hpath
      · next directory hinstall =>
        obtain ⟨name, -, hpath⟩ := List.mem_flatMap.mp hpath
        have hdir := Package.install?_isProper hd he.projectRoot he.packageDirs hinstall
        exact hnamed hdir path hpath
  · split at hpath
    · exact hnamed (Path.ofText_isProper _) path hpath
    · cases hpath

theorem isSpeakable_namedPaths (hmarks : ∀ mark ∈ e.probe.marks, IsSpeakable mark)
    (hendings : ∀ ending ∈ e.probe.endings, IsSpeakable ending) {directory : Path} {name : Text}
    (hdir : ∀ part ∈ directory.parts, IsSpeakable part) (hname : IsSpeakable name) :
    ∀ path ∈ e.namedPaths directory name, IsSpeakable path.toText := by
  intro path hpath
  rcases List.mem_append.mp hpath with h | h
  · exact Probe.isSpeakable_spellings hmarks hendings hdir hname path h
  · exact Probe.isSpeakable_spellings hmarks hendings
      (Path.forall_child hdir (isSpeakable_partsOf hname)) (by decide) path h

theorem isSpeakable_subpath {dep : Dependency} (hdep : Dependency.parse? reference = some dep)
    (h : IsSpeakable reference) : IsSpeakable dep.subpath := by
  have hpieces : ∀ piece ∈ Text.split (.scalar '/') (List.drop 1 reference), IsSpeakable piece :=
    fun piece hpiece => h.subset fun c hc =>
      List.mem_of_mem_drop (Text.mem_of_mem_split hpiece hc)
  unfold Dependency.parse? at hdep
  split at hdep
  · dsimp only at hdep
    split at hdep
    · split at hdep
      · next scope name rest hsegments =>
        rw [hsegments] at hpieces
        split at hdep
        · cases hdep
        · cases hdep
          exact isSpeakable_join fun piece hpiece => hpieces piece (by simp [hpiece])
      · cases hdep
    · split at hdep
      · cases hdep
      · next name rest hsegments =>
        rw [hsegments] at hpieces
        split at hdep
        · cases hdep
        · cases hdep
          exact isSpeakable_join fun piece hpiece => hpieces piece (by simp [hpiece])
  · cases hdep

/-- The names that are tried inside a package can be handed to the system if the path of the
reference can, and so can the entry points where the description is needed. -/
theorem isSpeakable_entryNames {directory : Path} {subpath : Text} (hsubpath : IsSpeakable subpath)
    (hentries : subpath = [] → ∃ fields, Package.fields? d directory = some fields ∧
      ∀ entry ∈ Package.entryPointsOf fields, IsSpeakable entry) :
    ∀ name ∈ Package.entryNames d directory subpath, IsSpeakable name := by
  intro name hname
  unfold Package.entryNames at hname
  split at hname
  · rwa [List.mem_singleton.mp hname]
  · next hsub =>
    obtain ⟨fields, hfields, hentry⟩ := hentries (not_not.mp hsub)
    rw [hfields] at hname
    rcases List.mem_append.mp hname with h | h
    · exact hentry name h
    · rw [List.mem_singleton.mp h]
      exact fun c hc => by cases hc

/-- All paths of a lookup among texts that can be handed to the system can be handed to it. -/
theorem isSpeakable_lookupPaths (hd : d.IsTree) (he : e.IsProper) (hfile : IsSpeakable file)
    (hreference : IsSpeakable reference) (hmarks : ∀ mark ∈ e.probe.marks, IsSpeakable mark)
    (hendings : ∀ ending ∈ e.probe.endings, IsSpeakable ending)
    (hentries : ∀ dep directory, Dependency.parse? reference = some dep →
      Package.install? d e.projectRoot e.packageDirs dep.package = some directory →
        dep.subpath = [] → ∃ fields, Package.fields? d directory = some fields ∧
          ∀ entry ∈ Package.entryPointsOf fields, IsSpeakable entry) :
    ∀ path ∈ e.lookupPaths d reference file, IsSpeakable path.toText := by
  intro path hpath
  unfold lookupPaths at hpath
  split at hpath
  · split at hpath
    · cases hpath
    · next dep hdep =>
      split at hpath
      · cases hpath
      · next directory hinstall =>
        obtain ⟨name, hname, hpath⟩ := List.mem_flatMap.mp hpath
        have hproper := Package.install?_isProper hd he.projectRoot he.packageDirs hinstall
        have hdir : ∀ part ∈ directory.parts, IsSpeakable part :=
          (isSpeakable_toText hproper).mp (isSpeakable_of_holds (List.find?_some hinstall))
        have hspeak : IsSpeakable name :=
          isSpeakable_entryNames (isSpeakable_subpath hdep hreference)
            (hentries dep directory hdep hinstall) name (List.mem_filter.mp hname).1
        exact isSpeakable_namedPaths hmarks hendings hdir hspeak path hpath
  · obtain ⟨directory, hdir, hspeak⟩ := parentDirectory_eq_ok hd hfile
    rw [hdir] at hpath
    exact isSpeakable_namedPaths hmarks hendings (isSpeakable_partsOf hspeak) hreference path hpath

/-- Nothing hinders a lookup among texts that can be handed to the system, if the package can be
searched and its description can be read. -/
theorem isUnhindered_of_isSpeakable (hd : d.IsTree) (he : e.IsProper) (hfile : IsSpeakable file)
    (hreference : IsSpeakable reference) (hmarks : ∀ mark ∈ e.probe.marks, IsSpeakable mark)
    (hendings : ∀ ending ∈ e.probe.endings, IsSpeakable ending)
    (hpackage : ∀ dep, Dependency.parse? reference = some dep →
      Package.IsSearchable d e.projectRoot e.packageDirs dep.package)
    (hentries : ∀ dep directory, Dependency.parse? reference = some dep →
      Package.install? d e.projectRoot e.packageDirs dep.package = some directory →
        dep.subpath = [] → ∃ fields, Package.fields? d directory = some fields ∧
          ∀ entry ∈ Package.entryPointsOf fields, IsSpeakable entry) :
    e.IsUnhindered d reference file := by
  have hpaths := isSpeakable_lookupPaths hd he hfile hreference hmarks hendings hentries
  refine ⟨hpackage, fun dep directory hdep hinstall hsub => ?_, fun path hpath => ?_⟩
  · obtain ⟨fields, hfields, -⟩ := hentries dep directory hdep hinstall hsub
    simp [hfields]
  · exact hpaths path (List.takeWhile_subset _ hpath)

/-! ## The result of a lookup -/

/-- Only the search itself can hinder the lookup of a package that is not installed. -/
theorem isUnhindered_iff_of_missing {dep : Dependency}
    (hdep : Dependency.parse? reference = some dep)
    (h : Package.install? d e.projectRoot e.packageDirs dep.package = none) :
    e.IsUnhindered d reference file ↔
      Package.IsSearchable d e.projectRoot e.packageDirs dep.package := by
  refine ⟨fun hclear => hclear.package dep hdep, fun hsearch => ⟨?_, ?_, ?_⟩⟩
  · intro dep' hdep'
    cases hdep.symm.trans hdep'
    exact hsearch
  · intro dep' directory hdep' hinstall
    cases hdep.symm.trans hdep'
    cases h.symm.trans hinstall
  · rw [lookupPaths_of_missing hdep h]
    exact fun path hpath => by cases hpath

/-- What may hinder the lookup of an installed package, stage by stage. -/
theorem isUnhindered_iff_of_installed {dep : Dependency} {directory : Path}
    (hdep : Dependency.parse? reference = some dep)
    (h : Package.install? d e.projectRoot e.packageDirs dep.package = some directory) :
    e.IsUnhindered d reference file ↔
      Package.IsSearchable d e.projectRoot e.packageDirs dep.package ∧
        (dep.subpath = [] → (Package.fields? d directory).isSome) ∧
        ∀ path ∈ Probe.triedPaths d (e.lookupPaths d reference file), IsSpeakable path.toText := by
  constructor
  · intro hclear
    exact ⟨hclear.package dep hdep, hclear.description dep directory hdep h, hclear.speakable⟩
  · rintro ⟨hsearch, hfields, hspeak⟩
    refine ⟨?_, ?_, hspeak⟩
    · intro dep' hdep'
      cases hdep.symm.trans hdep'
      exact hsearch
    · intro dep' directory' hdep' hinstall
      cases hdep.symm.trans hdep'
      cases h.symm.trans hinstall
      exact hfields

/-- A lookup inside a package has the first file of the list as its result just if nothing hinders
it, and no result otherwise. -/
theorem findDependency_eq_ok_iff {dep : Dependency} {found : Option Path}
    (hdep : Dependency.parse? reference = some dep) :
    (e.findDependency d reference).result = .ok found ↔
      (e.lookupPaths d reference file).find? d.holdsFile = found ∧
        e.IsUnhindered d reference file := by
  rw [result_findDependency hdep, bind_eq_ok_iff]
  simp only [Package.findDir_eq_ok_iff]
  cases hinstall : Package.install? d e.projectRoot e.packageDirs dep.package with
  | none =>
    rw [isUnhindered_iff_of_missing hdep hinstall, lookupPaths_of_missing hdep hinstall]
    constructor
    · rintro ⟨directory?, ⟨rfl, hsearch⟩, hrest⟩
      exact ⟨Except.ok.inj hrest, hsearch⟩
    · rintro ⟨rfl, hsearch⟩
      exact ⟨none, ⟨rfl, hsearch⟩, rfl⟩
  | some directory =>
    rw [isUnhindered_iff_of_installed hdep hinstall]
    -- The names are tried just if the description can be read where it is needed.
    constructor
    · rintro ⟨directory?, ⟨rfl, hsearch⟩, hrest⟩
      obtain ⟨names, hnames, hentry⟩ := bind_eq_ok_iff.mp hrest
      obtain ⟨rfl, hfields⟩ := Package.entryPaths_eq_ok_iff.mp hnames
      rw [result_findEntry, Probe.firstFile_eq_ok_iff, ← lookupPaths_of_installed hdep hinstall]
        at hentry
      exact ⟨hentry.1, hsearch, hfields, hentry.2⟩
    · rintro ⟨hfound, hsearch, hfields, hspeak⟩
      refine ⟨some directory, ⟨rfl, hsearch⟩, bind_eq_ok_iff.mpr
        ⟨_, Package.entryPaths_eq_ok_iff.mpr ⟨rfl, hfields⟩, ?_⟩⟩
      rw [result_findEntry, Probe.firstFile_eq_ok_iff, ← lookupPaths_of_installed hdep hinstall]
      exact ⟨hfound, hspeak⟩

/-- A lookup next to the importing file has the first file of the list as its result just if all
paths before this file can be handed to the system, and no result otherwise. -/
theorem findClassic_eq_ok_iff {directory : Text} {found : Option Path}
    (hclassic : ¬Reference.isDependency reference)
    (hdir : parentDirectory d file = .ok directory) :
    (e.findClassic d (.ofText directory) reference).result = .ok found ↔
      (e.lookupPaths d reference file).find? d.holdsFile = found ∧
        ∀ path ∈ Probe.triedPaths d (e.lookupPaths d reference file),
          IsSpeakable path.toText := by
  have hpaths : e.lookupPaths d reference file = e.namedPaths (.ofText directory) reference := by
    unfold lookupPaths
    rw [if_neg hclassic, hdir]
  rw [result_findClassic, Probe.firstFile_eq_ok_iff, ← hpaths]

theorem parse?_of_classic (hclassic : ¬Reference.isDependency reference) :
    Dependency.parse? reference = none := if_neg hclassic

theorem lookupPaths_of_malformed (hpackage : Reference.isDependency reference)
    (hdep : Dependency.parse? reference = none) : e.lookupPaths d reference file = [] := by
  unfold lookupPaths
  rw [if_pos hpackage, hdep]

/-- What is found is a regular file at one of the paths of the list. -/
theorem holdsFile_of_find (h : (e.find d reference file).result = .ok (some found)) :
    found ∈ e.lookupPaths d reference file ∧ d.holdsFile found := by
  have hfirst : (e.lookupPaths d reference file).find? d.holdsFile = some found := by
    unfold find at h
    by_cases hpackage : Reference.isDependency reference
    · rw [if_pos hpackage] at h
      cases hdep : Dependency.parse? reference with
      | some dep => exact ((findDependency_eq_ok_iff hdep).mp h).1
      | none =>
        unfold findDependency at h
        rw [hdep] at h
        cases h
    · rw [if_neg hpackage, Traced.result_ofExcept_bind] at h
      obtain ⟨directory, hdir, h⟩ := bind_eq_ok_iff.mp h
      exact ((findClassic_eq_ok_iff hpackage hdir).mp h).1
  exact ⟨List.mem_of_find?_eq_some hfirst, List.find?_some hfirst⟩

/-- A lookup has the first file of the list as its result just if nothing hinders it, and no result
otherwise. -/
theorem find_eq_ok_iff (hd : d.IsTree) (hfile : IsSpeakable file) {found : Option Path} :
    (e.find d reference file).result = .ok found ↔
      (e.lookupPaths d reference file).find? d.holdsFile = found ∧
        e.IsUnhindered d reference file := by
  unfold find
  by_cases hpackage : Reference.isDependency reference
  · rw [if_pos hpackage]
    cases hdep : Dependency.parse? reference with
    | some dep => exact findDependency_eq_ok_iff hdep
    | none =>
      have hpaths : e.lookupPaths d reference file = [] := lookupPaths_of_malformed hpackage hdep
      have hclear : e.IsUnhindered d reference file :=
        ⟨by simp [hdep], by simp [hdep], by simp [hpaths, Probe.triedPaths]⟩
      unfold findDependency
      rw [hdep, hpaths]
      simp [hclear]
  · obtain ⟨directory, hdir, -⟩ := parentDirectory_eq_ok hd hfile
    have hdep := parse?_of_classic hpackage
    rw [if_neg hpackage, Traced.result_ofExcept_bind, hdir]
    refine (findClassic_eq_ok_iff hpackage hdir).trans (and_congr_right fun _ => ?_)
    exact ⟨fun h => ⟨by simp [hdep], by simp [hdep], h⟩, fun h => h.speakable⟩

/-! ## A description that names a null character -/

/-- The document `{"main": "a\u0000b"}`. -/
def nullDescription : List UInt8 :=
  [123, 34, 109, 97, 105, 110, 34, 58, 32, 34, 97, 92, 117, 48, 48, 48, 48, 98, 34, 125]

/-- The main entry point in this document. -/
def nullName : Text := [.scalar 'a', .scalar '\x00', .scalar 'b']

/-- A disk with one package, whose main entry point holds a null character. -/
def nullDisk : Disk where
  entries := [(["node_modules"], .directory), (["node_modules", "k"], .directory),
    (["node_modules", "k", "package.json"], .file nullDescription),
    (["node_modules", "k", "index.scss"], .file [])]
  workingDirectory := some []

/-- An engine for the project at the root. -/
def rootEngine : Engine where
  tempArea := ⟨.ofText "/node_modules/.tmp/scss-importer"⟩
  projectRoot := .ofText "/"
  packageDirs := []
  probe := .standard

theorem nullDisk_isTree : nullDisk.IsTree := ⟨by decide, by decide, by decide, by decide⟩

theorem rootEngine_isProper : rootEngine.IsProper := ⟨by decide, by decide, by decide⟩

theorem findDir_nullDisk : Package.findDir nullDisk rootEngine.projectRoot rootEngine.packageDirs
    "k" = .ok (some (.ofText "/node_modules/k")) := by
  cbv

/-- The lookup fails at the main entry point and does not come to the index file, although the
description is an object. -/
theorem find_nullDisk_fails :
    nullDisk.IsTree ∧ rootEngine.IsProper ∧ IsSpeakable "~k" ∧ IsSpeakable "/m.scss" ∧
      (Package.fields? nullDisk (.ofText "/node_modules/k")).isSome ∧
      (rootEngine.lookupPaths nullDisk "~k" "/m.scss").find? nullDisk.holdsFile =
        some (.ofText "/node_modules/k/index.scss") ∧
      (rootEngine.find nullDisk "~k" "/m.scss").result = .error (.access .nullCharacter) := by
  have hdep : Dependency.parse? "~k" = some ⟨"k", [], none⟩ := by cbv
  have hinstall := (Package.findDir_eq_ok_iff.mp findDir_nullDisk).1
  have hnames : Package.entryPaths nullDisk (.ofText "/node_modules/k") [] =
      .ok [nullName, []] := by cbv
  obtain ⟨hentries, hfields⟩ := Package.entryPaths_eq_ok_iff.mp hnames
  refine ⟨nullDisk_isTree, rootEngine_isProper, by decide, by decide, hfields rfl, ?_, ?_⟩
  · rw [lookupPaths_of_installed hdep hinstall, hentries]
    cbv
  · have hhead : (([nullName, []].filter Package.isStyleCandidate).flatMap
        (rootEngine.namedPaths (.ofText "/node_modules/k"))).head? =
          some ((Path.ofText "/node_modules/k").child (nullName ++ ".scss")) := by cbv
    show (rootEngine.findDependency nullDisk "~k").result = _
    rw [result_findDependency hdep, findDir_nullDisk]
    simp only [Except.bind, hnames]
    rw [result_findEntry]
    exact Probe.result_firstFile_of_head? hhead (by cbv)

/-- A path inside the package is found without its description. -/
theorem find_nullDisk_index : nullDisk.IsTree ∧ IsSpeakable "/m.scss" ∧
    (rootEngine.find nullDisk "~k/index" "/m.scss").result =
      .ok (some (.ofText "/node_modules/k/index.scss")) := by
  have hdep : Dependency.parse? "~k/index" = some ⟨"k", "index", none⟩ := by cbv
  obtain ⟨hinstall, hsearch⟩ := Package.findDir_eq_ok_iff.mp findDir_nullDisk
  refine ⟨nullDisk_isTree, by decide,
    (find_eq_ok_iff nullDisk_isTree (by decide)).mpr ⟨?_, ?_⟩⟩
  · rw [lookupPaths_of_installed hdep hinstall]
    cbv
  · refine isUnhindered_of_isSpeakable nullDisk_isTree rootEngine_isProper (by decide) (by decide)
      (by decide) (by decide) (fun dep hdep' => ?_) (fun dep directory hdep' _ hsub => ?_)
    · cases hdep.symm.trans hdep'
      exact hsearch
    · cases hdep.symm.trans hdep'
      cases hsub

end Engine

end StyleImport
