import StyleImport.Proofs.Engine.Source
import StyleImport.Proofs.Text.Runs

/-!
# The importing file

Of an importing file only the directory matters in which it lies, and a reference to a package does
not even ask for that. How the separators in the path of the file are written makes no difference:
a run of slashes and backslashes is as good as one slash.

## Main statements

- `Engine.importerPath_congr`: what is worked out for an importing file.
- `Engine.resolve_eq_of_importer`: when two importing files make no difference.
-/

namespace StyleImport

namespace Engine

variable {e : Engine} {d : Disk} {reference : Reference} {file file' : Text}

/-- The path without superfluous separators starts with one just if the path does. -/
theorem head?_unifySeparators (file : Text) :
    (unifySeparators file).head? = some (.scalar '/') ↔ file.head?.any isSeparator := by
  unfold unifySeparators
  fun_induction Text.squeeze isSeparator (.scalar '/') file with
  | case1 => simp
  | case2 c hc => simp [hc]
  | case3 c hc =>
    refine iff_of_false ?_ (by simpa using hc)
    rintro ⟨⟩
    exact hc rfl
  | case4 c c' t hc hc' ih => simpa [hc, hc'] using ih
  | case5 c c' t hc hc' ih => simp [hc]
  | case6 c c' t hc ih =>
    refine iff_of_false ?_ (by simpa using hc)
    rintro ⟨⟩
    exact hc rfl

/-- The path that is worked out for an importing file depends on its path without superfluous
separators only. -/
theorem importerPath_congr (h : unifySeparators file' = unifySeparators file) :
    importerPath file' = importerPath file := by
  have hhead : file'.head?.any isSeparator ↔ file.head?.any isSeparator := by
    rw [← head?_unifySeparators, ← head?_unifySeparators, h]
  have hparent : parentText file' = parentText file := by
    unfold parentText
    rw [h]
  unfold importerPath
  rw [hparent]
  simp only [hhead]

/-- A lookup asks for nothing but the directory of the importing file. -/
theorem find_eq_of_parentDirectory
    (h : Reference.isDependency reference = false →
      parentDirectory d file' = parentDirectory d file) :
    e.find d reference file' = e.find d reference file := by
  unfold find
  cases hdependency : Reference.isDependency reference with
  | true => rfl
  | false => rw [h hdependency]

/-- Resolving asks for nothing but the file that is found. -/
theorem resolve_eq_of_find (h : e.find d reference file' = e.find d reference file) :
    e.resolve reference file' d = e.resolve reference file d := by
  unfold resolve
  exact Action.note_bind_congr (Action.lookup_bind_congr h _) _

/-- Two importing files make no difference, neither to what a reference is resolved to nor to the
disk, if they lie in the same directory, so in particular if their paths are the same but for how
separators are written; and no two files do if the reference is one to a package. -/
theorem resolve_eq_of_importer (e : Engine) (d : Disk) (reference : Reference) (file file' : Text) :
    (Text.replaceRuns isSeparator (.scalar '/') file' =
        Text.replaceRuns isSeparator (.scalar '/') file →
      e.resolve reference file' d = e.resolve reference file d) ∧
    (parentDirectory d file' = parentDirectory d file →
      e.resolve reference file' d = e.resolve reference file d) ∧
    (Reference.isDependency reference = true →
      e.resolve reference file' d = e.resolve reference file d) := by
  have hdirectory : parentDirectory d file' = parentDirectory d file →
      e.resolve reference file' d = e.resolve reference file d :=
    fun h => resolve_eq_of_find (find_eq_of_parentDirectory fun _ => h)
  refine ⟨fun hruns => hdirectory ?_, hdirectory, fun hdependency => ?_⟩
  · rw [← Text.squeeze_eq_replaceRuns, ← Text.squeeze_eq_replaceRuns] at hruns
    rw [parentDirectory_eq, parentDirectory_eq, importerPath_congr hruns]
  · refine resolve_eq_of_find (find_eq_of_parentDirectory fun hnot => ?_)
    rw [hdependency] at hnot
    cases hnot

/-- Two spellings of one file, two files in one directory with a link on the way to it, and two
files that have nothing in common. -/
theorem resolve_spellings_eq :
    (Text.replaceRuns isSeparator (.scalar '/') "\\p\\/m.scss" =
        Text.replaceRuns isSeparator (.scalar '/') "/p//m.scss" ∧
      rootEngine.resolve "m" "\\p\\/m.scss" linkDisk =
        rootEngine.resolve "m" "/p//m.scss" linkDisk) ∧
    (parentDirectory linkDisk "/p/l/m.scss" = parentDirectory linkDisk "/q/r/n.scss" ∧
      rootEngine.resolve "y" "/p/l/m.scss" linkDisk =
        rootEngine.resolve "y" "/q/r/n.scss" linkDisk) ∧
    (Reference.isDependency "~k" = true ∧
      rootEngine.resolve "~k" "" linkDisk = rootEngine.resolve "~k" "/p/m.scss" linkDisk) := by
  have hspelling : Text.replaceRuns isSeparator (.scalar '/') "\\p\\/m.scss" =
      Text.replaceRuns isSeparator (.scalar '/') "/p//m.scss" := by decide
  have hdirectory : parentDirectory linkDisk "/p/l/m.scss" =
      parentDirectory linkDisk "/q/r/n.scss" := by cbv
  refine ⟨⟨hspelling, ?_⟩, ⟨hdirectory, ?_⟩, by decide, ?_⟩
  · exact (resolve_eq_of_importer rootEngine linkDisk "m" _ _).1 hspelling
  · exact (resolve_eq_of_importer rootEngine linkDisk "y" _ _).2.1 hdirectory
  · exact (resolve_eq_of_importer rootEngine linkDisk "~k" _ _).2.2 (by decide)

end Engine

end StyleImport
