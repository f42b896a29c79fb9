import StyleImport.Proofs.Manifest.Reports

/-!
# Manifests that are missing

Nothing stands at the path of a manifest for one of several reasons: a name on the path is missing,
a regular file stands in place of a directory, links lead nowhere, or the path cannot be handed to
the system. Making declarations reports a missing file for the first reason only, and never for a
script: a script is looked up at its absolute path, worked out by its text, and all that goes wrong
with it is reported as a fault of the manifest.

## Main definitions

- `Report.SaysNotFound`: the reports of a missing file.

## Main statements

- `Manifest.load_of_missing`: why a document that is missing is not loaded.
- `Operation.renderDeclarations_of_missing`: what making declarations gives then.
- `Operation.missing_reported_iff`: which missing manifests are reported as missing files.
-/

namespace StyleImport

/-- The report says that a file is missing. -/
def Report.SaysNotFound (r : Report) : Prop :=
  r.ok = false ∧ ∃ t ∈ r.error, t.code = "NOT_FOUND"

/-! ## Loading -/

namespace Manifest

variable {d : Disk} {path : Path} {format : Format} {fault : AccessFault}

/-- A document that is missing is not loaded for the reason why nothing stands at its path. -/
theorem load_of_missing (hformat : Format.ofSuffix? path.suffix = some format)
    (hscript : format ≠ .script) (h : d.status path.toText = .error fault) :
    load d path = .error (.access fault) := by
  have htext : readText d path = .error (.access fault) := by
    unfold readText Disk.readBytes
    rw [h]
  rw [load_eq, export_, hformat]
  cases format with
  | json =>
    dsimp only
    rw [readJson_eq, htext]
    rfl
  | yaml =>
    dsimp only
    rw [readYaml_eq, htext]
    rfl
  | script => exact absurd rfl hscript

/-- The fault of a lookup is none of a script, whatever stands at its path. -/
theorem declarations_ne_access (hformat : Format.ofSuffix? path.suffix = some .script) :
    declarations d path ≠ .error (.access fault) := by
  rw [declarations_eq, ne_eq, bind_eq_error_iff, bind_eq_error_iff]
  rintro ((hexport | ⟨v, -, hentries⟩) | ⟨entries, -, hrender⟩)
  · rw [export_, hformat] at hexport
    obtain ⟨reason, -, hreason⟩ := mapError_eq_error_iff.mp hexport
    cases hreason
  · rcases entriesOf_cases path v with ⟨entries, hv⟩ | ⟨reason, hv⟩ <;>
      cases hentries.symm.trans hv
  · obtain ⟨literal, -, hliteral⟩ := mapError_eq_error_iff.mp hrender
    cases hliteral

/-- A script is not run if nothing stands at its path or at its absolute path, worked out by its
text. -/
theorem load_of_missing_script (hformat : Format.ofSuffix? path.suffix = some .script)
    (h : d.status path.toText = .error fault)
    (hnormal : ∀ full, d.absolute path = .ok full →
      ∃ fault, d.status full.normal.toText = .error fault) :
    ∃ reason, load d path = .error (.manifest path.toText reason) := by
  -- A directory at the path itself counts before the absolute path is worked out.
  have hdirectory : d.isDirectory path ≠ .ok true := by
    intro hdirectory
    have hholds := Disk.holdsDirectory_of_isDirectory hdirectory
    obtain ⟨l, e, hstatus, -⟩ := Disk.holds_eq_true_iff.mp hholds
    cases h.symm.trans hstatus
  obtain ⟨reason, hbytes⟩ : ∃ reason, readScriptBytes d path = .error reason := by
    unfold readScriptBytes
    split
    · exact ⟨_, rfl⟩
    · next htrue => exact absurd htrue hdirectory
    · cases hfull : d.absolute path with
      | error fault => exact ⟨_, rfl⟩
      | ok full =>
        obtain ⟨fault', hstatus⟩ := hnormal full hfull
        have hbytes : d.readBytes full.normal = .error fault' := by
          unfold Disk.readBytes
          rw [hstatus]
        dsimp only
        rw [hbytes]
        exact ⟨_, rfl⟩
  refine ⟨reason, ?_⟩
  rw [load_eq, export_, hformat]
  dsimp only
  rw [runScript_eq, hbytes]
  rfl

end Manifest

/-! ## Making declarations -/

namespace Operation

variable {d : Disk} {path : Path} {format : Manifest.Format} {fault : AccessFault}

/-- A file is reported as missing just if its path could not be looked up for want of a name. -/
theorem saysNotFound_iff :
    (∃ r, renderDeclarations path d = .ok r ∧ r.SaysNotFound) ↔
      ∃ p, Manifest.declarations d path = .error (.access (.system .notFound p)) := by
  have hcodes : Text.ofString "INVALID_MANIFEST" ≠ Text.ofString "NOT_FOUND" := by decide
  unfold renderDeclarations
  dsimp only
  split
  · next text htext =>
    refine iff_of_false ?_ ?_
    · rintro ⟨r, ⟨⟩, hok, -⟩
      cases hok
    · rintro ⟨p, h⟩
      cases htext.symm.trans h
  · next p reason hdeclarations =>
    refine iff_of_false ?_ ?_
    · rintro ⟨r, ⟨⟩, -, t, ⟨⟩, hcode⟩
      exact hcodes hcode
    · rintro ⟨p, h⟩
      cases hdeclarations.symm.trans h
  · next p hdeclarations =>
    exact iff_of_true ⟨_, rfl, rfl, _, rfl, rfl⟩ ⟨p, hdeclarations⟩
  · next failure _ hother hdeclarations =>
    refine iff_of_false ?_ ?_
    · rintro ⟨r, hr, -⟩
      cases hr
    · rintro ⟨p, h⟩
      cases hdeclarations.symm.trans h
      exact hother p rfl

/-- A fault of the lookup other than a missing name is not reported. -/
theorem renderDeclarations_of_access (hfault : ∀ p, fault ≠ .system .notFound p)
    (h : Manifest.declarations d path = .error (.access fault)) :
    renderDeclarations path d = .error (.access fault) := by
  unfold renderDeclarations
  rw [h]
  dsimp only
  split
  · next h => cases h
  · next h => cases h
  · next p h =>
    cases h
    exact absurd rfl (hfault p)
  · next h =>
    cases h
    rfl

/-- If nothing stands at the path of a manifest, this is reported as a missing file just if the
manifest is a document and a name on its path is missing. For every other reason a document is not
reported at all, and a script is reported as a faulty manifest unless one stands at its absolute
path, worked out by its text. -/
theorem missing_reported_iff (hformat : Manifest.Format.ofSuffix? path.suffix = some format)
    (h : d.status path.toText = .error fault) :
    ((∃ r, renderDeclarations path d = .ok r ∧ r.SaysNotFound) ↔
      format ≠ .script ∧ ∃ p, fault = .system .notFound p) ∧
    (format ≠ .script → (∀ p, fault ≠ .system .notFound p) →
      renderDeclarations path d = .error (.access fault)) ∧
    (format = .script → (∀ full, d.absolute path = .ok full →
        ∃ fault, d.status full.normal.toText = .error fault) →
      ∃ reason, renderDeclarations path d =
        .ok (invalidManifest "declarations" path.toText reason)) := by
  have hdocument (hscript : format ≠ .script) :
      Manifest.declarations d path = .error (.access fault) :=
    Manifest.declarations_of_load (Manifest.load_of_missing hformat hscript h)
  refine ⟨?_, fun hscript hfault => renderDeclarations_of_access hfault (hdocument hscript), ?_⟩
  · rw [saysNotFound_iff]
    by_cases hscript : format = .script
    · subst hscript
      exact iff_of_false (fun ⟨p, hp⟩ => Manifest.declarations_ne_access hformat hp)
        fun hnot => hnot.1 rfl
    · simp only [hdocument hscript, ne_eq, hscript, not_false_eq_true, true_and, Except.error.injEq,
        Failure.access.injEq]
  · rintro rfl hnormal
    obtain ⟨reason, hload⟩ := Manifest.load_of_missing_script hformat h hnormal
    exact ⟨reason, renderDeclarations_of_load hload⟩

/-! ## A missing script, and a document below a file -/

/-- A disk with one regular file. -/
def fileDisk : Disk where
  entries := [(["f"], .file [])]
  workingDirectory := some []

/-- A document whose name is missing is reported as a missing file. -/
theorem missing_document_reported :
    Manifest.Format.ofSuffix? (Path.ofText "/t.json").suffix = some .json ∧
      fileDisk.status (Path.ofText "/t.json").toText = .error (.system .notFound "/t.json") ∧
      ∃ r, renderDeclarations (.ofText "/t.json") fileDisk = .ok r ∧ r.SaysNotFound := by
  have hformat : Manifest.Format.ofSuffix? (Path.ofText "/t.json").suffix = some .json := by decide
  have hstatus : fileDisk.status (Path.ofText "/t.json").toText =
      .error (.system .notFound "/t.json") := by cbv
  have hscript : Manifest.Format.json ≠ .script := by decide
  exact ⟨hformat, hstatus, (missing_reported_iff hformat hstatus).1.mpr ⟨hscript, _, rfl⟩⟩

/-- A script whose name is missing is not, and a document below a regular file is not reported at
all. -/
theorem missing_not_reported :
    (fileDisk.status (Path.ofText "/t.py").toText = .error (.system .notFound "/t.py") ∧
      ¬∃ r, renderDeclarations (.ofText "/t.py") fileDisk = .ok r ∧ r.SaysNotFound) ∧
    fileDisk.status (Path.ofText "/f/t.json").toText =
        .error (.system .notDirectory "/f/t.json") ∧
      renderDeclarations (.ofText "/f/t.json") fileDisk =
        .error (.access (.system .notDirectory "/f/t.json")) := by
  have hscript : fileDisk.status (Path.ofText "/t.py").toText =
      .error (.system .notFound "/t.py") := by cbv
  have hformat : Manifest.Format.ofSuffix? (Path.ofText "/f/t.json").suffix = some .json := by
    decide
  have hdocument : fileDisk.status (Path.ofText "/f/t.json").toText =
      .error (.system .notDirectory "/f/t.json") := by cbv
  refine ⟨⟨hscript, ?_⟩, hdocument, ?_⟩
  · rw [saysNotFound_iff]
    rintro ⟨p, h⟩
    exact Manifest.declarations_ne_access (by decide) h
  · refine renderDeclarations_of_access (fun p h => by cases h) (Manifest.declarations_of_load ?_)
    exact Manifest.load_of_missing hformat (by decide) hdocument

end Operation

end StyleImport
