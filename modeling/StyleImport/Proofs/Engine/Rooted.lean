import StyleImport.Proofs.Engine.Lookup

/-!
# Names that start at the root

A name that starts with a slash is meant to be looked up below the root, wherever the importing file
is. The pieces of the name before its last slash lead to the directory of the lookup. If the slash
at the start is the only one, there are no such pieces, and the name is looked up like the one
without this slash, next to the importing file; only the index file is looked for below the root.

## Main definitions

- `Probe.RootsAll`: every spelling of a name starts with a slash.

## Main statements

- `Path.child_of_rooted`: a text that starts with a slash stands for itself, seen from anywhere.
- `Probe.candidates_of_single`, `Probe.candidates_of_further`: the paths for a name that starts with
  its only slash and for one with a further slash.
- `Probe.candidates_congr_iff`: when the paths for a name are the same for all directories.
- `Engine.rooted_unaffected_iff`: when the importing file does not matter.
-/

namespace StyleImport

namespace Path

variable {p : Path} {t : Text}

/-- A text that starts with a slash stands for itself, seen from anywhere. -/
theorem child_of_rooted (h : t.head? = some (.scalar '/')) : p.child t = ofText t := by
  have hanchor : anchorOf t ≠ .relative := fun heq => anchorOf_eq_relative_iff.mp heq h
  unfold child join ofText
  cases hcase : anchorOf t with
  | relative => exact absurd hcase hanchor
  | root => rfl
  | doubleRoot => rfl

theorem isAbsolute_ofText (h : t.head? = some (.scalar '/')) : (ofText t).isAbsolute :=
  decide_eq_true fun heq => anchorOf_eq_relative_iff.mp heq h

/-- A text is seen at the root just if it is seen from there or starts with a slash. -/
theorem isAbsolute_child_iff :
    (p.child t).isAbsolute ↔ p.isAbsolute ∨ t.head? = some (.scalar '/') := by
  by_cases h : t.head? = some (.scalar '/')
  · rw [child_of_rooted h]
    exact iff_of_true (isAbsolute_ofText h) (.inr h)
  · have hanchor : (p.child t).anchor = p.anchor := by
      unfold child join ofText
      rw [anchorOf_eq_relative_iff.mpr h]
    simp [isAbsolute, hanchor, h]

/-- The names of a text are those before its last slash and the one behind it. -/
theorem partsOf_append_cons (s : Text) {t : Text} (h : .scalar '/' ∉ t) :
    partsOf (s ++ .scalar '/' :: t) = partsOf s ++ partsOf t := by
  unfold partsOf
  rw [Text.split_append_concat s h, Text.split_of_notMem h, List.filter_append]

end Path

namespace Probe

variable {p : Probe} {directory : Path} {rest stem : Text}

/-- Every spelling of a name starts with a slash. -/
def RootsAll (p : Probe) (stem : Text) : Prop :=
  ∀ name ∈ p.fileNames stem, name.head? = some (.scalar '/')

/-- One of the usual spellings starts with a mark. -/
theorem not_rootsAll_standard (stem : Text) : ¬standard.RootsAll stem := by
  have hmem : "_" ++ stem ++ ".scss" ∈ standard.fileNames stem :=
    List.mem_flatMap.mpr ⟨"_", by decide, List.mem_map.mpr ⟨".scss", by decide, rfl⟩⟩
  intro h
  exact absurd (h _ hmem) (by simp [Text.ofString, Text.ofChars])

/-! ## The directory of the lookup -/

/-- What stands before the last slash of a name leads to the directory of the lookup. -/
theorem candidates_of_slash (p : Probe) (directory : Path) (before : Text)
    (h : .scalar '/' ∉ stem) :
    p.candidates directory (before ++ .scalar '/' :: stem) =
      p.candidates (directory.child before) stem := by
  unfold candidates split
  rw [Text.splitLast_append_cons before h, Text.splitLast_of_notMem h]

/-- With no slash but the one at its start a name is looked up like the name without it. -/
theorem candidates_of_single (p : Probe) (directory : Path) (h : .scalar '/' ∉ rest) :
    p.candidates directory (.scalar '/' :: rest) = p.candidates directory rest := by
  have hslash := candidates_of_slash p directory [] h
  rwa [Path.child_nil] at hslash

/-- With a further slash a name is looked up in a directory that starts at the root, whose names
are those of the name before the last one. -/
theorem candidates_of_further (h : .scalar '/' ∈ rest) :
    ∃ base stem, base.isAbsolute ∧
      (Path.ofText (.scalar '/' :: rest)).parts = base.parts ++ Path.partsOf stem ∧
      ∀ (p : Probe) (directory : Path),
        p.candidates directory (.scalar '/' :: rest) = p.candidates base stem := by
  obtain ⟨front, last, -, hlast, ⟨-, rfl⟩ | ⟨-, rfl⟩⟩ :=
    Text.exists_split_eq_concat (.scalar '/') rest
  · exact absurd h hlast
  · refine ⟨.ofText (.scalar '/' :: Text.join "/" front), last, Path.isAbsolute_ofText rfl,
      Path.partsOf_append_cons (.scalar '/' :: Text.join "/" front) hlast, fun p directory => ?_⟩
    rw [← Path.child_of_rooted (p := directory) rfl]
    exact candidates_of_slash p directory (.scalar '/' :: Text.join "/" front) hlast

/-- The paths for a name that starts with a slash are the same for all directories just if the name
has a further slash or all its spellings start with one. -/
theorem candidates_congr_iff (p : Probe) (rest : Text) :
    (∀ directory directory' : Path, p.candidates directory (.scalar '/' :: rest) =
        p.candidates directory' (.scalar '/' :: rest)) ↔
      .scalar '/' ∈ rest ∨ p.RootsAll rest := by
  by_cases hslash : .scalar '/' ∈ rest
  · obtain ⟨base, stem, -, -, hcandidates⟩ := candidates_of_further hslash
    refine iff_of_true (fun directory directory' => ?_) (.inl hslash)
    rw [hcandidates, hcandidates]
  · simp only [hslash, false_or, candidates_of_single p _ hslash, candidates_of_plain p _ hslash]
    constructor
    · -- Seen from a relative directory, only the spellings that start with a slash are absolute.
      intro h name hname
      have hmem : (Path.mk .relative []).child name ∈
          (p.fileNames rest).map (Path.mk .relative []).child := List.mem_map_of_mem hname
      rw [h ⟨.relative, []⟩ ⟨.root, []⟩] at hmem
      obtain ⟨name', -, heq⟩ := List.mem_map.mp hmem
      have habsolute : ((Path.mk .relative []).child name).isAbsolute :=
        heq ▸ Path.isAbsolute_child_iff.mpr (.inl rfl)
      rcases Path.isAbsolute_child_iff.mp habsolute with hrelative | hrooted
      · cases hrelative
      · exact hrooted
    · intro h directory directory'
      refine List.map_congr_left fun name hname => ?_
      rw [Path.child_of_rooted (h name hname), Path.child_of_rooted (h name hname)]

end Probe

namespace Engine

variable {e : Engine} {d : Disk} {rest : Text}

/-- The index files for a name that starts with a slash are looked for below the root. -/
theorem findClassic_congr (directory directory' : Path)
    (h : e.probe.candidates directory (.scalar '/' :: rest) =
      e.probe.candidates directory' (.scalar '/' :: rest)) :
    e.findClassic d directory (.scalar '/' :: rest) =
      e.findClassic d directory' (.scalar '/' :: rest) := by
  unfold findClassic Probe.find
  rw [h, Path.child_of_rooted rfl, Path.child_of_rooted (p := directory') rfl]

/-- A name that starts with a slash is looked up next to the importing file, wherever this
directory is known. -/
theorem find_of_rooted {file directory : Text} (h : parentDirectory d file = .ok directory) :
    e.find d (.scalar '/' :: rest) file =
      e.findClassic d (.ofText directory) (.scalar '/' :: rest) := by
  have hclassic : ¬Reference.isDependency (.scalar '/' :: rest) := by
    simp [Reference.isDependency]
  unfold find
  rw [if_neg hclassic, h]
  rfl

/-- The file that a name with a slash at its start means is the same for all directories just if the
name has a further slash or all its spellings start with one, which none does with the usual
spellings. Then the importing file does not matter, and with a further slash the name and its index
file are looked for in directories that start at the root, the second one named like the first one
with the last piece of the name behind it. Otherwise the name is looked for like the one without its
slash, in the directory itself, and only the index file below the root. -/
theorem rooted_unaffected_iff (e : Engine) (rest : Text) :
    ((∀ directory directory' : Path,
        e.probe.candidates directory (.scalar '/' :: rest) =
            e.probe.candidates directory' (.scalar '/' :: rest) ∧
          ∀ d, e.findClassic d directory (.scalar '/' :: rest) =
            e.findClassic d directory' (.scalar '/' :: rest)) ↔
      .scalar '/' ∈ rest ∨ e.probe.RootsAll rest) ∧
    ¬Probe.standard.RootsAll rest ∧
    (.scalar '/' ∈ rest ∨ e.probe.RootsAll rest → ∀ d file file' directory directory',
      parentDirectory d file = .ok directory → parentDirectory d file' = .ok directory' →
        e.find d (.scalar '/' :: rest) file = e.find d (.scalar '/' :: rest) file') ∧
    (.scalar '/' ∈ rest → ∃ base inner stem, base.isAbsolute ∧ inner.isAbsolute ∧
      inner.parts = base.parts ++ Path.partsOf stem ∧ ∀ directory d,
        e.probe.candidates directory (.scalar '/' :: rest) = e.probe.candidates base stem ∧
        (e.findClassic d directory (.scalar '/' :: rest)).result =
          (Probe.firstFile d (e.probe.candidates base stem ++
            e.probe.candidates inner indexName)).result) ∧
    (.scalar '/' ∉ rest → ∀ directory d,
      e.probe.candidates directory (.scalar '/' :: rest) = e.probe.candidates directory rest ∧
      (e.findClassic d directory (.scalar '/' :: rest)).result =
        (Probe.firstFile d (e.probe.candidates directory rest ++
          e.probe.candidates (.ofText (.scalar '/' :: rest)) indexName)).result) := by
  -- The paths for the index file are the same for all directories; only those before them differ.
  have hresult (d : Disk) (directory : Path) :
      (e.findClassic d directory (.scalar '/' :: rest)).result =
        (Probe.firstFile d (e.probe.candidates directory (.scalar '/' :: rest) ++
          e.probe.candidates (.ofText (.scalar '/' :: rest)) indexName)).result := by
    rw [result_findClassic, namedPaths, Path.child_of_rooted rfl, Probe.candidates_eq_spellings,
      Probe.candidates_eq_spellings]
  refine ⟨⟨fun h => ?_, fun h => ?_⟩, Probe.not_rootsAll_standard rest, fun h => ?_, fun h => ?_,
    fun h directory d => ?_⟩
  · exact (Probe.candidates_congr_iff e.probe rest).mp fun directory directory' =>
      (h directory directory').1
  · intro directory directory'
    have hcandidates := (Probe.candidates_congr_iff e.probe rest).mpr h directory directory'
    exact ⟨hcandidates, fun d => findClassic_congr directory directory' hcandidates⟩
  · intro d file file' directory directory' hfile hfile'
    rw [find_of_rooted hfile, find_of_rooted hfile']
    exact findClassic_congr _ _ ((Probe.candidates_congr_iff e.probe rest).mpr h _ _)
  · obtain ⟨base, stem, hbase, hparts, hcandidates⟩ := Probe.candidates_of_further h
    refine ⟨base, .ofText (.scalar '/' :: rest), stem, hbase, Path.isAbsolute_ofText rfl, hparts,
      fun directory d => ⟨hcandidates e.probe directory, ?_⟩⟩
    rw [hresult, hcandidates]
  · have hcandidates := Probe.candidates_of_single e.probe directory h
    exact ⟨hcandidates, by rw [hresult, hcandidates]⟩

/-! ## A single slash -/

/-- A disk with two directories, one of which holds a style sheet. -/
def neighbourDisk : Disk where
  entries := [(["p"], .directory), (["p", "o.scss"], .file []), (["q"], .directory)]
  workingDirectory := some []

/-- Two directories disagree about a name whose only slash is at its start: it means the file in the
first one. The index file is looked for below the root from both. -/
theorem rooted_depends_on_directory :
    rootEngine.probe.candidates (.ofText "/p") "/o" ≠
        rootEngine.probe.candidates (.ofText "/q") "/o" ∧
      (rootEngine.findClassic neighbourDisk (.ofText "/p") "/o").result =
        .ok (some (.ofText "/p/o.scss")) ∧
      (rootEngine.findClassic neighbourDisk (.ofText "/q") "/o").result = .ok none ∧
      (Path.ofText "/p").child "/o" = .ofText "/o" ∧
      (Path.ofText "/q").child "/o" = .ofText "/o" := by
  refine ⟨by decide, ?_, ?_, by decide, by decide⟩
  · cbv
  · cbv

end Engine

end StyleImport
