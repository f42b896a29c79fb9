import StyleImport.Proofs.Engine.Containment

/-!
# Scripts among the entry points of a package

An entry point that ends like a script is passed over, and with the usual spellings no name is
spelled like a script that does not end like one. Still a script can be found: behind its name an
entry point may go on with a slash, and perhaps a single dot, which its end shows but its path does
not.

## Main definitions

- `Probe.IsUsual`: the spellings that add no script.
- `Engine.entryFile?`: the file that an entry point means.
- `Engine.Trips`: an entry point leads to a script although it does not end like one.

## Main statements

- `Package.isStyleCandidate_eq_false_iff`: the entry points that are passed over.
- `Engine.exists_front_of_script`: which entry points mean a script.
- `Engine.find?_of_front`: an entry point that goes on behind the name of a file means this file.
- `Engine.script_found_iff`: when a script is found in a package.
-/

namespace StyleImport

/-! ## Names of scripts -/

namespace Package

variable {s t : Text}

/-- The entry points that are passed over are those that end like a script. -/
theorem isStyleCandidate_eq_false_iff :
    isStyleCandidate t = false ↔ ∃ suffix ∈ scriptSuffixes, suffix <:+ t := by
  -- No text ends both like a script and like a style sheet.
  have hapart : ∀ script ∈ scriptSuffixes, ∀ style ∈ stylesheetSuffixes,
      ¬script <:+ style ∧ ¬style <:+ script := by decide
  have hstyle : (∃ suffix ∈ scriptSuffixes, suffix <:+ t) →
      ∀ style ∈ stylesheetSuffixes, ¬style <:+ t := by
    rintro ⟨script, hscript, hend⟩ style hmem hend'
    obtain ⟨hnot, hnot'⟩ := hapart script hscript style hmem
    exact (List.suffix_or_suffix_of_suffix hend hend').elim hnot hnot'
  simp only [isStyleCandidate, Bool.or_eq_false_iff, Bool.not_eq_false', List.any_eq_true,
    List.any_eq_false, List.isSuffixOf_iff_suffix]
  exact ⟨fun h => h.2, fun h => ⟨hstyle h, h⟩⟩

/-- A text that goes on otherwise than any script ends does not end like a script. -/
theorem isStyleCandidate_append (front : Text)
    (h : ∀ script ∈ scriptSuffixes, ¬script <:+ t ∧ ¬t <:+ script) :
    isStyleCandidate (front ++ t) := by
  rw [← Bool.not_eq_false, isStyleCandidate_eq_false_iff]
  rintro ⟨script, hscript, hend⟩
  obtain ⟨hnot, hnot'⟩ := h script hscript
  exact (List.suffix_or_suffix_of_suffix hend (List.suffix_append front t)).elim hnot hnot'

theorem isStyleCandidate_of_isSuffix (h : s <:+ t) (hs : isStyleCandidate s = false) :
    isStyleCandidate t = false := by
  obtain ⟨script, hscript, hend⟩ := isStyleCandidate_eq_false_iff.mp hs
  exact isStyleCandidate_eq_false_iff.mpr ⟨script, hscript, hend.trans h⟩

/-- What has the ending of a script ends like one. -/
theorem isStyleCandidate_of_suffixOf (h : scriptSuffixes.contains (Path.suffixOf t)) :
    isStyleCandidate t = false :=
  isStyleCandidate_eq_false_iff.mpr ⟨_, List.contains_iff_mem.mp h, Path.suffixOf_isSuffix t⟩

end Package

/-- The spellings that add no script: the name is tried as it is, and it is spelled like a script
only if it ends like one. -/
structure Probe.IsUsual (p : Probe) : Prop extends p.IsPlain where
  /-- A name is tried without a mark. -/
  bareMark : [] ∈ p.marks
  /-- A name is tried without an ending. -/
  bareEnding : [] ∈ p.endings
  /-- Only a name that ends like a script is spelled like one. -/
  scripts : ∀ mark ∈ p.marks, ∀ ending ∈ p.endings, ∀ stem : Text,
    scriptSuffixes.contains (Path.suffixOf (mark ++ stem ++ ending)) →
      Package.isStyleCandidate stem = false

theorem Probe.standard_isUsual : Probe.standard.IsUsual := by
  refine ⟨Probe.standard_isPlain, by decide, by decide, fun mark hmark ending hending stem h => ?_⟩
  have hspelling := Package.isStyleCandidate_of_suffixOf h
  simp only [Probe.standard, List.mem_cons, List.not_mem_nil, or_false] at hmark hending
  rcases hending with rfl | rfl | rfl
  · rw [Package.isStyleCandidate_append (mark ++ stem) (by decide)] at hspelling
    cases hspelling
  · rw [Package.isStyleCandidate_append (mark ++ stem) (by decide)] at hspelling
    cases hspelling
  · rw [show mark ++ stem ++ Text.ofString "" = mark ++ stem from List.append_nil _] at hspelling
    rcases hmark with rfl | rfl
    · exact hspelling
    · -- No ending of a script starts with the mark.
      obtain ⟨script, hscript, hend⟩ := Package.isStyleCandidate_eq_false_iff.mp hspelling
      have hmarks : ∀ script ∈ scriptSuffixes, script.head? ≠ some (.scalar '_') := by decide
      refine Package.isStyleCandidate_eq_false_iff.mpr ⟨script, hscript, ?_⟩
      rcases List.suffix_cons_iff.mp hend with rfl | hend
      · exact absurd rfl (hmarks _ hscript)
      · exact hend

/-- A spelling leads to a script only if the name ends like one, or if neither the spelling nor the
name makes a step. -/
theorem Probe.IsUsual.of_script {p : Probe} (hp : p.IsUsual) {mark ending stem : Text} {base : Path}
    (hmark : mark ∈ p.marks) (hending : ending ∈ p.endings)
    (hslash : .scalar '/' ∉ mark ++ stem ++ ending)
    (h : scriptSuffixes.contains (base.child (mark ++ stem ++ ending)).suffix) :
    Path.IsBlank (mark ++ stem ++ ending) ∧ Path.IsBlank stem ∨
      Package.isStyleCandidate stem = false := by
  by_cases hblank : Path.IsBlank (mark ++ stem ++ ending)
  · have hpart : stem.Sublist (mark ++ stem ++ ending) :=
      (List.sublist_append_right mark stem).trans (List.sublist_append_left _ ending)
    refine .inl ⟨hblank, ?_⟩
    rcases hblank with hnil | hdot
    · exact .inl (List.sublist_nil.mp (hnil ▸ hpart))
    · exact List.sublist_singleton.mp (hdot ▸ hpart)
  · have hname : Path.IsName (mark ++ stem ++ ending) :=
      ⟨fun h => hblank (.inl h), fun h => hblank (.inr h), hslash⟩
    rw [Path.suffix_child_of_isName hname] at h
    exact .inr (hp.scripts mark hmark ending hending stem h)

namespace Engine

open Disk

variable {e : Engine} {d : Disk} {reference : Reference} {directory : Path} {entry : Text}

/-! ## The files that entry points mean -/

/-- The file that an entry point of the package in a directory means. One that ends like a script
means none. -/
def entryFile? (e : Engine) (d : Disk) (directory : Path) (entry : Text) : Option Path :=
  if Package.isStyleCandidate entry then (e.namedPaths directory entry).find? d.holdsFile else none

/-- The first file among the paths for entry points is that of the first one that means a file. -/
theorem find?_entryPaths (e : Engine) (d : Disk) (directory : Path) (names : List Text) :
    ((names.filter Package.isStyleCandidate).flatMap (e.namedPaths directory)).find? d.holdsFile =
      names.findSome? (e.entryFile? d directory) := by
  induction names with
  | nil => rfl
  | cons name rest ih =>
    rw [List.findSome?_cons, ← ih, entryFile?]
    by_cases hstyle : Package.isStyleCandidate name
    · rw [List.filter_cons_of_pos hstyle, List.flatMap_cons, List.find?_append, if_pos hstyle]
      cases (e.namedPaths directory name).find? d.holdsFile <;> rfl
    · rw [List.filter_cons_of_neg hstyle, if_neg hstyle]

/-- A file whose name ends like a script is meant only by an entry point that goes on behind this
name with a slash, and perhaps a single dot. -/
theorem exists_front_of_script (hprobe : e.probe.IsUsual) (hdir : d.holdsDirectory directory)
    (hstyle : Package.isStyleCandidate entry) {path : Path}
    (hpath : path ∈ e.namedPaths directory entry) (hfile : d.holdsFile path)
    (hscript : scriptSuffixes.contains path.suffix) :
    ∃ front tail, entry = front ++ tail ∧ (tail = "/" ∨ tail = "/.") ∧
      path = directory.child front := by
  rcases List.mem_append.mp hpath with hpath | hpath
  · obtain ⟨front, last, hpieces, -, hentry⟩ := Text.exists_split_eq_concat (.scalar '/') entry
    obtain ⟨mark, hmark, ending, hending, rfl⟩ := (Probe.mem_spellings_iff hpieces).mp hpath
    have hslash := hprobe.notMem_spelling hmark hending hpieces
    rcases hprobe.of_script hmark hending hslash hscript with ⟨hblank, hlast⟩ | hscript
    · rw [Path.child_of_isBlank hblank] at hfile ⊢
      rcases hentry with ⟨rfl, -⟩ | ⟨-, hentry⟩
      · -- The path is that of the package itself, which is no regular file.
        rw [Text.join_nil, Path.child_nil] at hfile
        exact absurd hfile (not_holdsFile_of_holdsDirectory hdir)
      · exact ⟨_, _, hentry, hlast.imp (congrArg _) (congrArg _), rfl⟩
    · have hend : last <:+ entry := by
        rcases hentry with ⟨-, rfl⟩ | ⟨-, rfl⟩
        · exact List.suffix_refl _
        · exact (List.suffix_cons _ _).trans (List.suffix_append _ _)
      rw [Package.isStyleCandidate_of_isSuffix hend hscript] at hstyle
      cases hstyle
  · -- The index file is spelled like no script.
    have hpieces : Text.split (.scalar '/') indexName = [] ++ [indexName] := by decide
    obtain ⟨mark, hmark, ending, hending, rfl⟩ := (Probe.mem_spellings_iff hpieces).mp hpath
    have hslash := hprobe.notMem_spelling hmark hending hpieces
    rcases hprobe.of_script hmark hending hslash hscript with ⟨-, hindex⟩ | hscript
    · exact absurd hindex (Path.IsName.not_isBlank (by decide))
    · exact absurd hscript (by decide)

/-- An entry point that goes on behind the name of a file with a slash, and perhaps a single dot,
means this file: nothing is seen below it. -/
theorem find?_of_front (hprobe : e.probe.IsUsual) (hd : d.HasHere) (hproper : directory.IsProper)
    {front tail : Text} (htail : tail = "/" ∨ tail = "/.")
    (hfile : d.holdsFile (directory.child front)) :
    (e.namedPaths directory (front ++ tail)).find? d.holdsFile = some (directory.child front) := by
  obtain ⟨last, rfl, hblank, hslash⟩ :
      ∃ last, tail = .scalar '/' :: last ∧ Path.IsBlank last ∧ .scalar '/' ∉ last := by
    rcases htail with rfl | rfl
    · exact ⟨[], rfl, .inl rfl, by decide⟩
    · exact ⟨[.scalar '.'], rfl, .inr rfl, by decide⟩
  have hpieces := Text.split_append_concat front hslash
  have hfront : Text.join "/" (Text.split (.scalar '/') front) = front := Text.join_split _ front
  have hmem : directory.child front ∈
      e.probe.spellings directory (front ++ .scalar '/' :: last) := by
    refine (Probe.mem_spellings_iff hpieces).mpr ⟨_, hprobe.bareMark, _, hprobe.bareEnding, ?_⟩
    rw [hfront, List.nil_append, List.append_nil, Path.child_of_isBlank hblank]
  -- Every other spelling would be a name below the file itself.
  have honly : ∀ path ∈ e.probe.spellings directory (front ++ .scalar '/' :: last),
      d.holdsFile path → path = directory.child front := by
    intro path hpath hholds
    obtain ⟨mark, hmark, ending, hending, rfl⟩ := (Probe.mem_spellings_iff hpieces).mp hpath
    rw [hfront] at hholds ⊢
    by_cases hspelling : Path.IsBlank (mark ++ last ++ ending)
    · exact Path.child_of_isBlank hspelling
    · have hname : Path.IsName (mark ++ last ++ ending) :=
        ⟨fun h => hspelling (.inl h), fun h => hspelling (.inr h),
          hprobe.notMem_spelling hmark hending hpieces⟩
      exact absurd hholds
        (not_holds_below_file hd (Path.child_isProper hproper front) hfile hname)
  rw [namedPaths, List.find?_append]
  cases hfound : (e.probe.spellings directory (front ++ .scalar '/' :: last)).find? d.holdsFile with
  | none => exact absurd hfile (List.find?_eq_none.mp hfound _ hmem)
  | some path =>
    rw [honly path (List.mem_of_find?_eq_some hfound) (List.find?_some hfound)]
    rfl

/-! ## What is found in a package -/

/-- The first entry point that means a file goes on behind the name of a script with a slash, and
perhaps a single dot. -/
def Trips (e : Engine) (d : Disk) (directory : Path) (names : List Text) : Prop :=
  ∃ (earlier : List Text) (front tail : Text) (later : List Text),
    names = earlier ++ (front ++ tail) :: later ∧
    (tail = "/" ∨ tail = "/.") ∧ d.holdsFile (directory.child front) ∧
      scriptSuffixes.contains (directory.child front).suffix ∧
        ∀ entry ∈ earlier, e.entryFile? d directory entry = none

theorem isStyleCandidate_of_tail (front : Text) {tail : Text} (htail : tail = "/" ∨ tail = "/.") :
    Package.isStyleCandidate (front ++ tail) := by
  rcases htail with rfl | rfl
  · exact Package.isStyleCandidate_append front (by decide)
  · exact Package.isStyleCandidate_append front (by decide)

/-- Unless something hinders the search, its result is the file of the first entry point that means
one. -/
theorem findDependency_eq_findSome? {dep : Dependency}
    (hdep : Dependency.parse? reference = some dep)
    (hinstall : Package.install? d e.projectRoot e.packageDirs dep.package = some directory)
    (hclear : e.IsUnhindered d reference []) :
    (e.findDependency d reference).result =
      .ok ((Package.entryNames d directory dep.subpath).findSome? (e.entryFile? d directory)) := by
  refine (findDependency_eq_ok_iff hdep).mpr ⟨?_, hclear⟩
  rw [lookupPaths_of_installed hdep hinstall, find?_entryPaths]

/-- The file of the first entry point that means one is found, unless something hinders the search.
It is a script just if this entry point goes on behind the name of the script. -/
theorem script_found_iff (hd : d.IsTree) (he : e.IsProper) (hprobe : e.probe.IsUsual)
    {dep : Dependency} (hdep : Dependency.parse? reference = some dep)
    (hinstall : Package.install? d e.projectRoot e.packageDirs dep.package = some directory)
    (hclear : e.IsUnhindered d reference []) :
    ∃ found?, (e.findDependency d reference).result = .ok found? ∧
      found? = (Package.entryNames d directory dep.subpath).findSome? (e.entryFile? d directory) ∧
      ((∃ found ∈ found?, scriptSuffixes.contains found.suffix) ↔
        e.Trips d directory (Package.entryNames d directory dep.subpath)) ∧
      ((∃ entry ∈ Package.entryNames d directory dep.subpath, Package.isStyleCandidate entry ∧
        ∃ path ∈ e.namedPaths directory entry, d.holdsFile path) → found?.isSome) := by
  have hdir : d.holdsDirectory directory := List.find?_some hinstall
  have hproper := Package.install?_isProper hd he.projectRoot he.packageDirs hinstall
  refine ⟨_, findDependency_eq_findSome? hdep hinstall hclear, rfl, ⟨?_, ?_⟩, ?_⟩
  · -- The entry point that gave the script is the first one that gave any file.
    rintro ⟨found, hfound, hscript⟩
    obtain ⟨earlier, entry, later, hnames, hentry, hearlier⟩ := List.findSome?_eq_some_iff.mp hfound
    unfold entryFile? at hentry
    split at hentry
    · next hstyle =>
      obtain ⟨front, tail, rfl, htail, rfl⟩ := exists_front_of_script hprobe hdir hstyle
        (List.mem_of_find?_eq_some hentry) (List.find?_some hentry) hscript
      exact ⟨earlier, front, tail, later, hnames, htail, List.find?_some hentry, hscript, hearlier⟩
    · cases hentry
  · rintro ⟨earlier, front, tail, later, hnames, htail, hfile, hscript, hearlier⟩
    refine ⟨directory.child front, List.findSome?_eq_some_iff.mpr ?_, hscript⟩
    refine ⟨earlier, _, later, hnames, ?_, hearlier⟩
    rw [entryFile?, if_pos (isStyleCandidate_of_tail front htail)]
    exact find?_of_front hprobe hd.here hproper htail hfile
  · rintro ⟨entry, hmem, hstyle, path, hpath, hfile⟩
    rw [List.findSome?_isSome_iff]
    refine ⟨entry, hmem, ?_⟩
    rw [entryFile?, if_pos hstyle, List.find?_isSome]
    exact ⟨path, hpath, hfile⟩

/-! ## A main entry point that ends in a slash -/

/-- The document `\x7b"main":"a.js/","sass":"s"\x7d`. -/
def scriptDescription : List UInt8 :=
  [123, 34, 109, 97, 105, 110, 34, 58, 34, 97, 46, 106, 115, 47, 34, 44, 34, 115, 97, 115, 115, 34,
    58, 34, 115, 34, 125]

/-- A disk with a package whose main entry point is a script with a slash behind its name, and whose
next one is a style sheet. -/
def scriptDisk : Disk where
  entries := [(["node_modules"], .directory), (["node_modules", "k"], .directory),
    (["node_modules", "k", "package.json"], .file scriptDescription),
    (["node_modules", "k", "a.js"], .file []), (["node_modules", "k", "s.scss"], .file [])]
  workingDirectory := some []

theorem scriptDisk_isTree : scriptDisk.IsTree := ⟨by decide, by decide, by decide, by decide⟩

theorem findDir_scriptDisk : Package.findDir scriptDisk rootEngine.projectRoot
    rootEngine.packageDirs "k" = .ok (some (.ofText "/node_modules/k")) := by
  cbv

theorem entryPaths_scriptDisk : Package.entryPaths scriptDisk (.ofText "/node_modules/k") [] =
    .ok ["a.js/", "s", []] := by
  cbv

theorem parse?_bare : Dependency.parse? "~k" = some ⟨"k", [], none⟩ := by decide

theorem isUnhindered_scriptDisk : rootEngine.IsUnhindered scriptDisk "~k" [] := by
  obtain ⟨hinstall, hsearch⟩ := Package.findDir_eq_ok_iff.mp findDir_scriptDisk
  obtain ⟨hnames, hfields⟩ := Package.entryPaths_eq_ok_iff.mp entryPaths_scriptDisk
  obtain ⟨fields, hfields⟩ := Option.isSome_iff_exists.mp (hfields rfl)
  refine isUnhindered_of_isSpeakable scriptDisk_isTree rootEngine_isProper (by decide) (by decide)
    (by decide) (by decide) (fun dep hdep => ?_) (fun dep directory hdep hdir _ => ?_)
  · cases parse?_bare.symm.trans hdep
    exact hsearch
  · cases parse?_bare.symm.trans hdep
    cases hinstall.symm.trans hdir
    refine ⟨fields, hfields, fun entry hentry => ?_⟩
    rw [Package.entryNames, if_neg (by simp), hfields, Option.getD_some] at hnames
    have hspeakable : ∀ name ∈ [Text.ofString "a.js/", Text.ofString "s", []],
        IsSpeakable name := by decide
    exact hspeakable entry (hnames ▸ List.mem_append_left _ hentry)

theorem holdsFile_scriptDisk :
    scriptDisk.holdsFile ((Path.ofText "/node_modules/k").child "a.js") := by
  cbv

/-- The script is found, although the package has a style sheet for its next entry point. -/
theorem script_found_before_style :
    scriptDisk.IsTree ∧ rootEngine.IsProper ∧ rootEngine.probe = .standard ∧
      Dependency.parse? "~k" = some ⟨"k", [], none⟩ ∧
      Package.findDir scriptDisk rootEngine.projectRoot rootEngine.packageDirs "k" =
        .ok (some (.ofText "/node_modules/k")) ∧
      Package.entryPaths scriptDisk (.ofText "/node_modules/k") [] = .ok ["a.js/", "s", []] ∧
      scriptDisk.holdsFile (.ofText "/node_modules/k/s.scss") ∧
      (rootEngine.findDependency scriptDisk "~k").result =
        .ok (some (.ofText "/node_modules/k/a.js")) ∧
      scriptSuffixes.contains (Path.ofText "/node_modules/k/a.js").suffix := by
  refine ⟨scriptDisk_isTree, rootEngine_isProper, rfl, parse?_bare, findDir_scriptDisk,
    entryPaths_scriptDisk, by cbv, ?_, by decide⟩
  have hinstall := (Package.findDir_eq_ok_iff.mp findDir_scriptDisk).1
  have hnames := (Package.entryPaths_eq_ok_iff.mp entryPaths_scriptDisk).1
  have hmain : rootEngine.entryFile? scriptDisk (.ofText "/node_modules/k") "a.js/" =
      some ((Path.ofText "/node_modules/k").child "a.js") := by
    have hfront := find?_of_front (e := rootEngine) Probe.standard_isUsual scriptDisk_isTree.here
      (by decide) (.inl rfl) holdsFile_scriptDisk
    rw [entryFile?, if_pos (by decide)]
    exact hfront
  rw [findDependency_eq_findSome? parse?_bare hinstall isUnhindered_scriptDisk, hnames,
    List.findSome?_cons, hmain]
  rfl

/-- The main entry point of this package goes on behind the name of the script. -/
theorem script_found_in_scriptDisk :
    scriptDisk.IsTree ∧ rootEngine.IsProper ∧ rootEngine.probe.IsUsual ∧
      rootEngine.IsUnhindered scriptDisk "~k" [] ∧
      ∃ found?, (rootEngine.findDependency scriptDisk "~k").result = .ok found? ∧
        found? = (Package.entryNames scriptDisk (.ofText "/node_modules/k") []).findSome?
          (rootEngine.entryFile? scriptDisk (.ofText "/node_modules/k")) ∧
        ((∃ found ∈ found?, scriptSuffixes.contains found.suffix) ↔
          rootEngine.Trips scriptDisk (.ofText "/node_modules/k")
            (Package.entryNames scriptDisk (.ofText "/node_modules/k") [])) ∧
        ((∃ entry ∈ Package.entryNames scriptDisk (.ofText "/node_modules/k") [],
          Package.isStyleCandidate entry ∧
            ∃ path ∈ rootEngine.namedPaths (.ofText "/node_modules/k") entry,
              scriptDisk.holdsFile path) → found?.isSome) :=
  ⟨scriptDisk_isTree, rootEngine_isProper, Probe.standard_isUsual, isUnhindered_scriptDisk,
    script_found_iff scriptDisk_isTree rootEngine_isProper Probe.standard_isUsual parse?_bare
      (Package.findDir_eq_ok_iff.mp findDir_scriptDisk).1 isUnhindered_scriptDisk⟩

end Engine

end StyleImport
