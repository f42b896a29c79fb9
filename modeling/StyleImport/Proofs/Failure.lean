import StyleImport.Proofs.Effect

/-!
# Failures that are not about a manifest

Users of the library are told about manifests that cannot be used; every other failure of a lookup
or of loading goes past them. Where a computation goes on, such a failure comes from its first part,
or from the second part after the first one had a result.

## Main definitions

- `Failure.IsManifest`: the failures that are about a manifest.
- `Escapes`: a result is a failure of another kind.

## Main statements

- `not_escapes_iff`: the results that do not escape.
- `escapes_bind_iff`: where a failure comes from.
-/

namespace StyleImport

/-- A failure that is about a manifest. -/
def Failure.IsManifest (f : Failure) : Prop := ∃ path reason, f = .manifest path reason

/-- A result is a failure that is not about a manifest. -/
def Escapes {α : Type} (r : Except Failure α) : Prop := ∃ f, r = .error f ∧ ¬f.IsManifest

section

variable {α β : Type} {r : Except Failure α} {f : Failure}

@[simp] theorem isManifest_manifest (path : Text) (reason : Manifest.Reason) :
    (Failure.manifest path reason).IsManifest := ⟨path, reason, rfl⟩

theorem not_isManifest_access (fault : AccessFault) : ¬(Failure.access fault).IsManifest := by
  rintro ⟨path, reason, h⟩
  cases h

@[simp] theorem not_escapes_ok (a : α) : ¬Escapes (.ok a : Except Failure α) := by
  rintro ⟨f, h, -⟩
  cases h

@[simp] theorem escapes_error_iff : Escapes (.error f : Except Failure α) ↔ ¬f.IsManifest := by
  constructor
  · rintro ⟨f', h, hf⟩
    cases h
    exact hf
  · intro hf
    exact ⟨f, rfl, hf⟩

/-- A result that does not escape is there, or else says which manifest cannot be used. -/
theorem not_escapes_iff :
    ¬Escapes r ↔ (∃ a, r = .ok a) ∨ ∃ path reason, r = .error (.manifest path reason) := by
  cases r with
  | ok a => simp
  | error f => simp [Failure.IsManifest]

/-- If no failure of a computation is about a manifest, each of them escapes. -/
theorem escapes_iff_of_forall (h : ∀ f, r = .error f → ¬f.IsManifest) :
    Escapes r ↔ ¬∃ a, r = .ok a := by
  cases r with
  | ok a => simp
  | error f => simpa using h f rfl

/-- A failure of a computation that goes on comes from one of its two parts. -/
theorem escapes_bind_iff {next : α → Except Failure β} :
    Escapes (r.bind next) ↔ Escapes r ∨ ∃ a, r = .ok a ∧ Escapes (next a) := by
  cases r with
  | ok a => simp [Except.bind]
  | error f => simp [Except.bind]

theorem escapes_map_iff {g : α → β} : Escapes (r.map g) ↔ Escapes r := by
  cases r with
  | ok a => simp [Except.map]
  | error f => simp [Except.map]

end

end StyleImport
