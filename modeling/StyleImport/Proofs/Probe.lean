import StyleImport.Probe
import StyleImport.Proofs.Disk.Status
import StyleImport.Proofs.Effect

/-!
# First files

Probing takes the first regular file of a list of paths. It looks at the paths before this file,
and at the file itself, and fails just if one of those cannot be handed to the system.

## Main definitions

- `Probe.spellings`: all spellings of a name, piece by piece.
- `Probe.fileNames`: the names that a file may have for the last piece of a name.

## Main statements

- `Probe.firstFile_eq_ok_iff`: the result of a search through a list of paths.
- `Probe.result_firstFile_append`: first files in lists that are put together.
- `Probe.candidates_eq_spellings`: the paths that are tried for a name.
-/

namespace StyleImport

namespace Probe

open Disk

variable {d d' : Disk} {path : Path} {paths : List Path}

/-! ## One path -/

theorem result_isFile (hspeak : IsSpeakable path.toText) :
    (isFile d path).result = .ok (d.holdsFile path) := by
  unfold isFile holdsFile holds
  cases hstatus : d.status path.toText with
  | ok x => rfl
  | error fault =>
    obtain ⟨f, rfl⟩ := system_of_statusBy hspeak hstatus
    cases f <;> rfl

theorem result_isFile_of_unspeakable? {fault : AccessFault}
    (h : unspeakable? path.toText = some fault) :
    (isFile d path).result = .error (.access fault) := by
  have hstatus : d.status path.toText = .error fault := statusBy_of_unspeakable? h
  have hunspeakable := isUnspeakable_of_unspeakable? h
  unfold isFile
  rw [hstatus]
  cases fault with
  | system f text => cases hunspeakable
  | _ => rfl

/-! ## The first of several paths -/

theorem result_firstFile_cons (d : Disk) (path : Path) (rest : List Path) :
    (firstFile d (path :: rest)).result = (isFile d path).result.bind fun found =>
      if found then .ok (some path) else (firstFile d rest).result := by
  rw [firstFile, Traced.result_bind]
  congr 1
  funext found
  cases found <;> rfl

/-- The first file of a list depends on where files are seen only. -/
theorem firstFile_congr (h : ∀ path, isFile d' path = isFile d path) (paths : List Path) :
    firstFile d' paths = firstFile d paths := by
  induction paths with
  | nil => rfl
  | cons path rest ih => rw [firstFile, firstFile, h, ih]

/-- The first file of two lists is the first one of the second list if the first list has none. -/
theorem result_firstFile_append (d : Disk) (front back : List Path) :
    (firstFile d (front ++ back)).result = (firstFile d front).result.bind fun found =>
      match found with
      | some path => .ok (some path)
      | none => (firstFile d back).result := by
  induction front with
  | nil => rfl
  | cons path front ih =>
    rw [List.cons_append, result_firstFile_cons, result_firstFile_cons, ih]
    cases (isFile d path).result with
    | error failure => rfl
    | ok found => cases found <;> rfl

/-- A search fails at once if its first path cannot be handed to the system. -/
theorem result_firstFile_of_head? {fault : AccessFault} (hhead : paths.head? = some path)
    (h : unspeakable? path.toText = some fault) :
    (firstFile d paths).result = .error (.access fault) := by
  obtain ⟨rest, rfl⟩ := List.head?_eq_some_iff.mp hhead
  rw [result_firstFile_cons, result_isFile_of_unspeakable? h]
  rfl

/-- The paths of a list that are tried before its first file. -/
def triedPaths (d : Disk) (paths : List Path) : List Path :=
  paths.takeWhile fun path => !d.holdsFile path

/-- A search through a list has its first file as the result just if all paths before this file can
be handed to the system, and no result otherwise. -/
theorem firstFile_eq_ok_iff {found : Option Path} :
    (firstFile d paths).result = .ok found ↔
      paths.find? d.holdsFile = found ∧ ∀ path ∈ triedPaths d paths, IsSpeakable path.toText := by
  unfold triedPaths
  induction paths with
  | nil => simp [firstFile]
  | cons path rest ih =>
    rw [result_firstFile_cons, List.find?_cons, List.takeWhile_cons]
    by_cases hfile : d.holdsFile path
    · rw [result_isFile (isSpeakable_of_holds hfile), hfile]
      simp [Except.bind]
    · rw [Bool.not_eq_true] at hfile
      rw [hfile]
      simp only [Bool.not_false, if_true, List.forall_mem_cons]
      -- A path that cannot be handed to the system ends the search, and no file is seen at it.
      cases hspeak : unspeakable? path.toText with
      | none =>
        have hspeakable := unspeakable?_eq_none_iff.mp hspeak
        rw [result_isFile hspeakable, hfile]
        simpa [Except.bind, hspeakable] using ih
      | some fault =>
        rw [result_isFile_of_unspeakable? hspeak]
        refine iff_of_false (by simp [Except.bind]) ?_
        rintro ⟨-, hspeakable, -⟩
        rw [unspeakable?_eq_none_iff.mpr hspeakable] at hspeak
        cases hspeak

/-! ## Spellings -/

/-- All spellings of a name in a directory. The pieces of the name before the last one lead to the
directory in which the last one is looked up. -/
def spellings (p : Probe) (directory : Path) (name : Text) : List Path :=
  let pieces := Text.split (.scalar '/') name
  let base := directory.child (Text.join "/" pieces.dropLast)
  p.marks.flatMap fun mark => p.endings.map fun ending =>
    base.child (mark ++ pieces.getLastD [] ++ ending)

theorem candidates_eq_spellings (p : Probe) (directory : Path) (name : Text) :
    p.candidates directory name = p.spellings directory name := by
  have hsplit : split directory name =
      (directory.child (Text.join "/" (Text.split (.scalar '/') name).dropLast),
        (Text.split (.scalar '/') name).getLastD []) := by
    unfold split
    rw [Text.splitLast_eq]
    by_cases hslash : CodePoint.scalar '/' ∈ name
    · rw [if_pos hslash]
      rfl
    · rw [if_neg hslash, Text.split_of_notMem hslash]
      exact congrArg (·, name) (Path.child_nil directory).symm
  unfold candidates spellings
  rw [hsplit]

/-- The names that a file may have for the last piece of a name, in the order in which they are
tried. -/
def fileNames (p : Probe) (stem : Text) : List Text :=
  p.marks.flatMap fun mark => p.endings.map fun ending => mark ++ stem ++ ending

/-- A name without a slash is looked up in the directory itself. -/
theorem candidates_of_plain (p : Probe) (directory : Path) {stem : Text}
    (h : .scalar '/' ∉ stem) :
    p.candidates directory stem = (p.fileNames stem).map directory.child := by
  unfold candidates split fileNames
  rw [Text.splitLast_of_notMem h]
  simp only [List.map_flatMap, List.map_map, Function.comp_def]

theorem spellings_isProper {p : Probe} {directory : Path} {name : Text}
    (hdir : directory.IsProper) : ∀ path ∈ p.spellings directory name, path.IsProper := by
  intro path hpath
  obtain ⟨mark, -, hpath⟩ := List.mem_flatMap.mp hpath
  obtain ⟨ending, -, rfl⟩ := List.mem_map.mp hpath
  exact Path.child_isProper (Path.child_isProper hdir _) _

/-- All spellings can be handed to the system if their parts can. -/
theorem isSpeakable_spellings {p : Probe} {directory : Path} {name : Text}
    (hmarks : ∀ mark ∈ p.marks, IsSpeakable mark)
    (hendings : ∀ ending ∈ p.endings, IsSpeakable ending)
    (hdir : ∀ part ∈ directory.parts, IsSpeakable part) (hname : IsSpeakable name) :
    ∀ path ∈ p.spellings directory name, IsSpeakable path.toText := by
  have hpieces : ∀ piece ∈ Text.split (.scalar '/') name, IsSpeakable piece :=
    fun piece hpiece => hname.subset fun c hc => Text.mem_of_mem_split hpiece hc
  have hfront : IsSpeakable (Text.join "/" (Text.split (.scalar '/') name).dropLast) :=
    isSpeakable_join fun piece hpiece => hpieces piece (List.dropLast_subset _ hpiece)
  have hlast : IsSpeakable ((Text.split (.scalar '/') name).getLastD []) := by
    rw [List.getLastD_eq_getLast?, List.getLast?_eq_some_getLast (Text.split_ne_nil _ _)]
    exact hpieces _ (List.getLast_mem _)
  intro path hpath
  obtain ⟨mark, hmark, hpath⟩ := List.mem_flatMap.mp hpath
  obtain ⟨ending, hending, rfl⟩ := List.mem_map.mp hpath
  have hstem : IsSpeakable (mark ++ (Text.split (.scalar '/') name).getLastD [] ++ ending) :=
    isSpeakable_append.mpr ⟨isSpeakable_append.mpr ⟨hmarks mark hmark, hlast⟩,
      hendings ending hending⟩
  exact isSpeakable_toText_of_forall
    (Path.forall_child (Path.forall_child hdir (isSpeakable_partsOf hfront))
      (isSpeakable_partsOf hstem))

end Probe

end StyleImport
