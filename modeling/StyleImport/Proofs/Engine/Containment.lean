import StyleImport.Proofs.Engine.Lookup

/-!
# Paths that stay below a package

The file for a path inside a package is looked for at paths seen from the directory of the package.
Such a path leads out of this directory just if it starts at the root, as some do when the path
inside the package starts with a slash, or climbs with two dots.

## Main definitions

- `Path.IsBelow`: a path goes on from a directory and does not climb.
- `Path.IsDownward`: a path neither starts at the root nor climbs.
- `Probe.IsPlain`: spelling a name adds neither slashes nor double dots.

## Main statements

- `Path.isBelow_join_iff`: when a path seen from a directory is below this directory.
- `Engine.namedPaths_join`: the paths for a name are seen from the directory of the lookup.
- `Engine.namedPaths_isDownward`: none of them climbs, if the name does not.
- `Engine.subpath_below_iff`: when the file for a path inside a package is below the package.
-/

namespace StyleImport

/-! ## Paths below a directory -/

namespace Path

variable {p q : Path} {t : Text}

/-- The path that makes no step. -/
def here : Path := ⟨.relative, []⟩

/-- A path goes on from a directory by names of which none is a double dot. -/
def IsBelow (p directory : Path) : Prop :=
  p.anchor = directory.anchor ∧
    ∃ names : List Text, names ≠ [] ∧ (∀ name ∈ names, name ≠ "..") ∧
      p.parts = directory.parts ++ names

/-- A path does not start at the root, and no name on it is a double dot. -/
def IsDownward (p : Path) : Prop := p.anchor = .relative ∧ ∀ name ∈ p.parts, name ≠ ".."

theorem join_here (p : Path) : p.join here = p := child_nil p

/-- A path seen from a directory is below this directory just if it is not the directory itself and
does not climb. A path that starts at the root stands for itself. -/
theorem isBelow_join_iff (hne : p.join q ≠ p) :
    (p.join q).IsBelow p ↔ if q.isAbsolute then q.IsBelow p else ∀ name ∈ q.parts, name ≠ ".." := by
  obtain ⟨anchor, parts⟩ := q
  cases anchor with
  | relative =>
    have hparts : parts ≠ [] := by
      rintro rfl
      exact hne (join_here p)
    refine (?_ : _ ↔ ∀ name ∈ parts, name ≠ "..")
    constructor
    · rintro ⟨-, names, -, hdots, heq⟩
      obtain rfl : parts = names := List.append_cancel_left heq
      exact hdots
    · exact fun hdots => ⟨rfl, parts, hparts, hdots, rfl⟩
  | root => exact Iff.rfl
  | doubleRoot => exact Iff.rfl

/-- A text writes a path that leads down if it neither starts with a slash nor holds a double dot
between slashes. -/
theorem isDownward_ofText (hhead : t.head? ≠ some (.scalar '/'))
    (hdots : ∀ name ∈ Text.split (.scalar '/') t, name ≠ "..") : (ofText t).IsDownward :=
  ⟨anchorOf_eq_relative_iff.mpr hhead, fun name hname => hdots name (List.mem_of_mem_filter hname)⟩

theorem IsDownward.join (hp : p.IsDownward) (hq : q.IsDownward) : (p.join q).IsDownward := by
  obtain ⟨anchor, parts⟩ := q
  obtain ⟨rfl, hdots⟩ := hq
  exact ⟨hp.1, List.forall_mem_append.mpr ⟨hp.2, hdots⟩⟩

end Path

/-! ## Spellings that stay below a directory -/

namespace Probe

variable {p : Probe} {name : Text}

/-- Spelling a name adds neither slashes nor double dots to it. -/
structure IsPlain (p : Probe) : Prop where
  /-- No mark holds a slash. -/
  marks : ∀ mark ∈ p.marks, .scalar '/' ∉ mark
  /-- No ending holds a slash. -/
  endings : ∀ ending ∈ p.endings, .scalar '/' ∉ ending
  /-- Only the name that is a double dot is spelled as one. -/
  dots : ∀ mark ∈ p.marks, ∀ ending ∈ p.endings, ∀ stem : Text,
    mark ++ stem ++ ending = ".." → stem = ".."

theorem standard_isPlain : standard.IsPlain := by
  refine ⟨by decide, by decide, fun mark hmark ending hending stem h => ?_⟩
  simp only [standard, List.mem_cons, List.not_mem_nil, or_false] at hmark hending
  rcases hmark with rfl | rfl
  · -- A longer ending does not fit into two characters.
    have hlength := congrArg List.length h
    rcases hending with rfl | rfl | rfl
    · simp [Text.ofString, Text.ofChars] at hlength
    · simp [Text.ofString, Text.ofChars] at hlength
    · exact (List.append_nil stem).symm.trans h
  · cases h

/-- The spellings of a name are seen from the directory in which it is looked up. -/
theorem spellings_join (p : Probe) (directory q : Path) (name : Text) :
    p.spellings (directory.join q) name = (p.spellings q name).map directory.join := by
  unfold spellings
  simp only [List.map_flatMap, List.map_map, Function.comp_def, Path.child_join]

/-- A spelling of a name is a spelling of its last piece, seen from the directory to which the
pieces before it lead. -/
theorem mem_spellings_iff {directory path : Path} {front : List Text} {last : Text}
    (hpieces : Text.split (.scalar '/') name = front ++ [last]) :
    path ∈ p.spellings directory name ↔ ∃ mark ∈ p.marks, ∃ ending ∈ p.endings,
      (directory.child (Text.join "/" front)).child (mark ++ last ++ ending) = path := by
  unfold spellings
  dsimp only
  rw [hpieces, List.dropLast_concat, List.getLastD_concat]
  simp only [List.mem_flatMap, List.mem_map]

/-- No slash stands in a spelling of a piece. -/
theorem IsPlain.notMem_spelling (hp : p.IsPlain) {mark ending last : Text} {front : List Text}
    (hmark : mark ∈ p.marks) (hending : ending ∈ p.endings)
    (hpieces : Text.split (.scalar '/') name = front ++ [last]) :
    .scalar '/' ∉ mark ++ last ++ ending := by
  have hlast : .scalar '/' ∉ last :=
    Text.notMem_of_mem_split (hpieces ▸ List.mem_append_right front List.mem_cons_self)
  exact List.not_mem_append (List.not_mem_append (hp.marks mark hmark) hlast)
    (hp.endings ending hending)

theorem spellings_isDownward (hp : p.IsPlain) {q : Path} (hq : q.IsDownward)
    (hhead : name.head? ≠ some (.scalar '/'))
    (hdots : ∀ piece ∈ Text.split (.scalar '/') name, piece ≠ "..") :
    ∀ path ∈ p.spellings q name, path.IsDownward := by
  obtain ⟨front, last, hpieces, -, hname⟩ := Text.exists_split_eq_concat (.scalar '/') name
  rw [hpieces, List.forall_mem_append] at hdots
  -- The pieces before the last one are a text that starts like the name.
  have hfront : (Path.ofText (Text.join "/" front)).IsDownward := by
    rcases hname with ⟨rfl, -⟩ | ⟨hne, hname⟩
    · exact ⟨rfl, List.forall_mem_nil _⟩
    · refine Path.isDownward_ofText (fun h => hhead ?_) ?_
      · obtain ⟨rest, hrest⟩ := List.head?_eq_some_iff.mp h
        rw [hname, show Text.join [.scalar '/'] front = .scalar '/' :: rest from hrest]
        rfl
      · have hslash : ∀ piece ∈ front, .scalar '/' ∉ piece := fun piece hpiece =>
          Text.notMem_of_mem_split (hpieces ▸ List.mem_append_left [last] hpiece)
        rw [show Text.split (.scalar '/') (Text.join "/" front) = front from
          Text.split_join hslash hne]
        exact hdots.1
  intro path hpath
  obtain ⟨mark, hmark, ending, hending, rfl⟩ := (mem_spellings_iff hpieces).mp hpath
  have hslash := hp.notMem_spelling hmark hending hpieces
  refine (hq.join hfront).join (Path.isDownward_ofText (fun h => ?_) fun piece hpiece heq => ?_)
  · exact hslash (List.mem_of_mem_head? h)
  · rw [Text.split_of_notMem hslash, List.mem_singleton] at hpiece
    exact hdots.2 last List.mem_cons_self (hp.dots mark hmark ending hending last (hpiece ▸ heq))

end Probe

namespace Engine

open Disk

variable {e : Engine} {d : Disk} {reference : Reference} {found : Path} {name : Text}

/-- The paths for a name are seen from the directory in which it is looked up. -/
theorem namedPaths_join (e : Engine) (directory q : Path) (name : Text) :
    e.namedPaths (directory.join q) name = (e.namedPaths q name).map directory.join := by
  unfold namedPaths
  rw [List.map_append, Probe.spellings_join, Path.child_join, Probe.spellings_join]

/-- The paths for a name lead down if the name neither starts with a slash nor holds a double dot
between slashes. -/
theorem namedPaths_isDownward (he : e.probe.IsPlain) (hhead : name.head? ≠ some (.scalar '/'))
    (hdots : ∀ piece ∈ Text.split (.scalar '/') name, piece ≠ "..") :
    ∀ path ∈ e.namedPaths .here name, path.IsDownward := by
  have hhere : Path.here.IsDownward := ⟨rfl, List.forall_mem_nil _⟩
  intro path hpath
  rcases List.mem_append.mp hpath with h | h
  · exact Probe.spellings_isDownward he hhere hhead hdots path h
  · exact Probe.spellings_isDownward he (hhere.join (Path.isDownward_ofText hhead hdots))
      (by decide) (by decide) path h

/-- A path inside an installed package means the first file among the paths for it. -/
theorem findDependency_subpath {dep : Dependency} {directory : Path} (hd : d.IsTree)
    (he : e.IsProper) (hmarks : ∀ mark ∈ e.probe.marks, IsSpeakable mark)
    (hendings : ∀ ending ∈ e.probe.endings, IsSpeakable ending) (hreference : IsSpeakable reference)
    (hdep : Dependency.parse? reference = some dep)
    (hdir : Package.findDir d e.projectRoot e.packageDirs dep.package = .ok (some directory))
    (hsub : dep.subpath ≠ []) (hstyle : Package.isStyleCandidate dep.subpath) :
    (e.findDependency d reference).result =
      .ok ((e.namedPaths directory dep.subpath).find? d.holdsFile) := by
  obtain ⟨hinstall, hsearch⟩ := Package.findDir_eq_ok_iff.mp hdir
  refine (@findDependency_eq_ok_iff e d reference [] dep _ hdep).mpr ⟨?_, ?_⟩
  · rw [lookupPaths_of_installed hdep hinstall, Package.entryNames, if_pos hsub,
      List.filter_cons_of_pos hstyle, List.filter_nil, List.flatMap_singleton]
  · refine isUnhindered_of_isSpeakable hd he (fun _ hc => by cases hc) hreference hmarks hendings
      (fun dep' hdep' => ?_) (fun dep' directory' hdep' _ hsub' => ?_)
    · cases hdep.symm.trans hdep'
      exact hsearch
    · cases hdep.symm.trans hdep'
      exact absurd hsub' hsub

/-- The file for a path inside a package is at a path seen from the directory of the package, and
below this directory just if the seen path leads there. With spellings that add neither slashes nor
double dots it is below the directory if the path inside the package does not start with a slash. -/
theorem subpath_below_iff {dep : Dependency} (hdep : Dependency.parse? reference = some dep)
    (hsub : dep.subpath ≠ [])
    (hdots : ∀ piece ∈ Text.split (.scalar '/') dep.subpath, piece ≠ "..")
    (h : (e.findDependency d reference).result = .ok (some found)) :
    ∃ directory seen,
      Package.findDir d e.projectRoot e.packageDirs dep.package = .ok (some directory) ∧
      seen ∈ e.namedPaths .here dep.subpath ∧ found = directory.join seen ∧
      (found.IsBelow directory ↔
        if seen.isAbsolute then seen.IsBelow directory else ∀ name ∈ seen.parts, name ≠ "..") ∧
      (e.probe.IsPlain → dep.subpath.head? ≠ some (.scalar '/') → found.IsBelow directory) := by
  obtain ⟨hfirst, hclear⟩ := (@findDependency_eq_ok_iff e d reference [] dep _ hdep).mp h
  cases hinstall : Package.install? d e.projectRoot e.packageDirs dep.package with
  | none =>
    rw [lookupPaths_of_missing hdep hinstall] at hfirst
    cases hfirst
  | some directory =>
    have hdir : Package.findDir d e.projectRoot e.packageDirs dep.package = .ok (some directory) :=
      Package.findDir_eq_ok_iff.mpr ⟨hinstall, hclear.package dep hdep⟩
    have hmem : found ∈ e.namedPaths directory dep.subpath := by
      have hfound := List.mem_of_find?_eq_some hfirst
      rw [lookupPaths_of_installed hdep hinstall, Package.entryNames, if_pos hsub] at hfound
      obtain ⟨name, hname, hfound⟩ := List.mem_flatMap.mp hfound
      rwa [List.mem_singleton.mp (List.mem_of_mem_filter hname)] at hfound
    rw [← Path.join_here directory, namedPaths_join] at hmem
    obtain ⟨seen, hseen, rfl⟩ := List.mem_map.mp hmem
    -- A regular file is not at the path of a directory.
    have hne : directory.join seen ≠ directory := fun heq =>
      not_holdsFile_of_holdsDirectory (List.find?_some hinstall) (heq ▸ List.find?_some hfirst)
    have hbelow := Path.isBelow_join_iff hne
    refine ⟨directory, seen, hdir, hseen, rfl, hbelow, fun hplain hhead => ?_⟩
    obtain ⟨hanchor, hseenDots⟩ := namedPaths_isDownward hplain hhead hdots seen hseen
    rw [hbelow, if_neg (by simp [Path.isAbsolute, hanchor])]
    exact hseenDots

/-! ## A path that starts with a slash -/

/-- A disk with a package and with a directory at the root that looks like one in the package. -/
def twofoldDisk : Disk where
  entries := [(["node_modules"], .directory), (["node_modules", "k"], .directory),
    (["node_modules", "k", "x"], .directory), (["node_modules", "k", "x", "o.scss"], .file []),
    (["x"], .directory), (["x", "o.scss"], .file [])]
  workingDirectory := some []

theorem twofoldDisk_isTree : twofoldDisk.IsTree := ⟨by decide, by decide, by decide, by decide⟩

theorem findDir_twofoldDisk : Package.findDir twofoldDisk rootEngine.projectRoot
    rootEngine.packageDirs "k" = .ok (some (.ofText "/node_modules/k")) := by
  cbv

theorem parse?_twofold : Dependency.parse? "~k/x/o" = some ⟨"k", "x/o", none⟩ := by decide

theorem findDependency_twofoldDisk :
    (rootEngine.findDependency twofoldDisk "~k/x/o").result =
      .ok (some (.ofText "/node_modules/k/x/o.scss")) := by
  rw [findDependency_subpath twofoldDisk_isTree rootEngine_isProper (by decide) (by decide)
    (by decide) parse?_twofold findDir_twofoldDisk (by decide) (by decide)]
  cbv

theorem subpath_below_twofoldDisk :
    ∃ directory seen,
      Package.findDir twofoldDisk rootEngine.projectRoot rootEngine.packageDirs "k" =
        .ok (some directory) ∧
      seen ∈ rootEngine.namedPaths .here "x/o" ∧
      Path.ofText "/node_modules/k/x/o.scss" = directory.join seen ∧
      ((Path.ofText "/node_modules/k/x/o.scss").IsBelow directory ↔
        if seen.isAbsolute then seen.IsBelow directory else ∀ name ∈ seen.parts, name ≠ "..") ∧
      (rootEngine.probe.IsPlain → (Text.ofString "x/o").head? ≠ some (.scalar '/') →
        (Path.ofText "/node_modules/k/x/o.scss").IsBelow directory) :=
  subpath_below_iff parse?_twofold (by decide) (by decide) findDependency_twofoldDisk

/-- With one more slash in the reference the file is not below the package. -/
theorem subpath_escapes :
    Dependency.parse? "~k//x/o" = some ⟨"k", "/x/o", none⟩ ∧
      (∀ piece ∈ Text.split (.scalar '/') "/x/o", piece ≠ "..") ∧
      Package.findDir twofoldDisk rootEngine.projectRoot rootEngine.packageDirs "k" =
        .ok (some (.ofText "/node_modules/k")) ∧
      (rootEngine.findDependency twofoldDisk "~k//x/o").result =
        .ok (some (.ofText "/x/o.scss")) ∧
      ¬(Path.ofText "/x/o.scss").IsBelow (.ofText "/node_modules/k") := by
  have hdep : Dependency.parse? "~k//x/o" = some ⟨"k", "/x/o", none⟩ := by decide
  refine ⟨hdep, by decide, findDir_twofoldDisk, ?_, ?_⟩
  · rw [findDependency_subpath twofoldDisk_isTree rootEngine_isProper (by decide) (by decide)
      (by decide) hdep findDir_twofoldDisk (by decide) (by decide)]
    cbv
  · rintro ⟨-, names, -, -, hparts⟩
    exact absurd (List.cons.inj hparts).1 (by decide)

end Engine

end StyleImport
