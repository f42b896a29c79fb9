import StyleImport.Engine
import StyleImport.Proofs.TempArea

/-!
# What resolving does

Resolving a reference either leaves the disk as it is, or writes the declarations made from one
manifest to the temp area. A target says which file was found and what was written for it.

## Main definitions

- `Engine.persisted?`: the source and the declarations that resolving a reference writes.
- `Engine.persist`: writing them.

## Main statements

- `Engine.result_resolve`, `Engine.result_classify`: the result for a reference, and for the file
  that was found for it.
- `Engine.gives_resolve`: what a target says.
- `Engine.disk_resolve`: the disk that resolving leaves behind.
-/

namespace StyleImport

namespace Engine

open Disk

variable {e : Engine} {d d' : Disk} {reference file : Text} {found : Path} {t : Target}

/-- The source and the declarations that are written when a file was found. -/
def persistedOf? (d : Disk) (found : Path) : Option (Text × Text) :=
  if TargetKind.ofSuffix found.suffix = .manifestData then
    match sourcePath d found, Manifest.declarations d found with
    | .ok source, .ok contents => some (source, contents)
    | _, _ => none
  else none

/-- The source and the declarations that resolving a reference in a file writes, if it comes to
writing any. -/
def persisted? (e : Engine) (d : Disk) (reference : Reference) (file : Text) :
    Option (Text × Text) :=
  match (e.find d reference file).result with
  | .ok (some found) => persistedOf? d found
  | _ => none

/-- The source of a file depends on the working directory only. -/
theorem sourcePath_congr (h : d'.workingDirectory = d.workingDirectory) (found : Path) :
    sourcePath d' found = sourcePath d found := by
  unfold sourcePath
  rw [absolute_congr h]

/-- Scripts are no manifests. -/
theorem ofSuffix_of_script {suffix : Text} (h : scriptSuffixes.contains suffix) :
    TargetKind.ofSuffix suffix = .rawStatic := by
  rw [List.contains_iff_mem] at h
  simp only [scriptSuffixes, List.mem_cons, List.not_mem_nil, or_false] at h
  rcases h with rfl | rfl | rfl <;> decide

/-- Writes the declarations made from a source to the temp area and names the target for them. -/
def persist (e : Engine) (source contents : Text) : Action (Option Target) := do
  let written ← e.tempArea.write source contents
  let full ← .lookup fun d => .ofAccess (d.absolute written)
  return some ⟨full.toText, .manifestData, some contents, source⟩

theorem gives_persist_iff {source contents : Text} {t? : Option Target} :
    (e.persist source contents).Gives d t? d' ↔ ∃ written full,
      (e.tempArea.write source contents).Gives d written d' ∧ d'.absolute written = .ok full ∧
        t? = some ⟨full.toText, .manifestData, some contents, source⟩ := by
  unfold persist
  rw [Action.gives_bind]
  refine exists_congr fun written => ?_
  constructor
  · rintro ⟨d₁, hwrite, h⟩
    obtain ⟨full, hfull, h⟩ := Action.gives_lookup_bind.mp h
    rw [Traced.result_ofAccess, mapError_eq_ok_iff] at hfull
    obtain ⟨ht, rfl⟩ := Action.gives_pure.mp h
    exact ⟨full, hwrite, hfull, ht.symm⟩
  · rintro ⟨full, hwrite, hfull, rfl⟩
    have hlookup : (Traced.ofAccess (d'.absolute written)).result = .ok full := by
      rw [Traced.result_ofAccess, hfull]
      rfl
    exact ⟨d', hwrite,
      Action.gives_lookup_bind.mpr ⟨full, hlookup, Action.gives_pure.mpr ⟨rfl, rfl⟩⟩⟩

theorem result_persist (e : Engine) (source contents : Text) (d : Disk) :
    (e.persist source contents d).1.result =
      (e.tempArea.write source contents d).1.result.bind fun written =>
        (((e.tempArea.write source contents d).2.absolute written).mapError .access).bind
          fun full => .ok (some ⟨full.toText, .manifestData, some contents, source⟩) := by
  unfold persist
  rw [Action.result_bind]
  congr 1
  funext written
  rw [Action.result_lookup_bind, Traced.result_ofAccess]
  rfl

/-- Nothing is written after the declarations. -/
theorem disk_persist (e : Engine) (source contents : Text) (d : Disk) :
    (e.persist source contents d).2 = (e.tempArea.write source contents d).2 := by
  unfold persist
  rw [Action.disk_bind]
  cases (e.tempArea.write source contents d).1.result with
  | error failure => rfl
  | ok written =>
    dsimp only
    rw [Action.disk_lookup_bind]
    split <;> rfl

/-- The result for a file that was found is decided by its suffix. -/
theorem result_classify (e : Engine) (found : Path) (d : Disk) :
    (e.classify found d).1.result = (sourcePath d found).bind fun source =>
      if scriptSuffixes.contains found.suffix then .ok none
      else match TargetKind.ofSuffix found.suffix with
        | .stylesheet => .ok (some ⟨source, .stylesheet, none, source⟩)
        | .manifestData => (Manifest.declarations d found).bind fun contents =>
          (e.persist source contents d).1.result
        | .rawStatic => (staticText d found).bind fun contents =>
          .ok (some ⟨source, .rawStatic, some contents, source⟩) := by
  unfold classify noteSource
  rw [Action.result_lookup_bind, Traced.result_ofExcept]
  congr 1
  funext source
  split
  · rfl
  · cases TargetKind.ofSuffix found.suffix with
    | stylesheet => rfl
    | manifestData =>
      dsimp only
      rw [Action.result_note_bind, Action.result_lookup_bind, Traced.result_ofExcept]
      rfl
    | rawStatic =>
      dsimp only
      rw [Action.result_note_bind, Action.result_lookup_bind, Traced.result_ofExcept]
      rfl

/-- Resolving has the result for the file that was found, if one was found. -/
theorem result_resolve (e : Engine) (reference : Reference) (file : Text) (d : Disk) :
    (e.resolve reference file d).1.result =
      (e.find d reference file).result.bind fun found? =>
        match found? with
        | none => .ok none
        | some found => (e.classify found d).1.result := by
  unfold resolve
  rw [Action.result_note_bind, Action.result_lookup_bind]
  congr 1
  funext found?
  cases found? <;> rfl

/-- What a target for a file that was found is made from. -/
theorem gives_classify_iff :
    (e.classify found).Gives d (some t) d' ↔
      ∃ source, sourcePath d found = .ok source ∧ ¬scriptSuffixes.contains found.suffix ∧
        match TargetKind.ofSuffix found.suffix with
        | .stylesheet => t = ⟨source, .stylesheet, none, source⟩ ∧ d' = d
        | .manifestData => ∃ contents written full,
            Manifest.declarations d found = .ok contents ∧
            (e.tempArea.write source contents).Gives d written d' ∧
            d'.absolute written = .ok full ∧
            t = ⟨full.toText, .manifestData, some contents, source⟩
        | .rawStatic => ∃ contents, staticText d found = .ok contents ∧
            t = ⟨source, .rawStatic, some contents, source⟩ ∧ d' = d := by
  unfold classify noteSource
  rw [Action.gives_lookup_bind]
  refine exists_congr fun source => and_congr_right fun _ => ?_
  by_cases hscript : scriptSuffixes.contains found.suffix
  · rw [if_pos hscript, Action.gives_note_bind, Action.gives_pure]
    exact iff_of_false (by simp) fun h => h.1 hscript
  · rw [if_neg hscript]
    refine Iff.trans ?_ (and_iff_right hscript).symm
    cases TargetKind.ofSuffix found.suffix with
    | stylesheet =>
      dsimp only
      rw [Action.gives_note_bind, Action.gives_pure, Option.some.injEq, eq_comm, @eq_comm _ d]
    | manifestData =>
      dsimp only
      rw [Action.gives_note_bind, Action.gives_lookup_bind]
      constructor
      · rintro ⟨contents, hcontents, h⟩
        obtain ⟨written, full, hwrite, hfull, ht⟩ := gives_persist_iff.mp h
        exact ⟨contents, written, full, hcontents, hwrite, hfull, Option.some.inj ht⟩
      · rintro ⟨contents, written, full, hcontents, hwrite, hfull, rfl⟩
        exact ⟨contents, hcontents, gives_persist_iff.mpr ⟨written, full, hwrite, hfull, rfl⟩⟩
    | rawStatic =>
      dsimp only
      rw [Action.gives_note_bind, Action.gives_lookup_bind]
      refine exists_congr fun contents => and_congr_right fun _ => ?_
      rw [Action.gives_pure, Option.some.injEq, eq_comm, @eq_comm _ d]

/-- What a target for a file that was found says: its source is the path of this file, and for a
manifest its declarations are written to the temp area. -/
theorem gives_classify (h : (e.classify found).Gives d (some t) d') :
    sourcePath d found = .ok t.source ∧
      (t.kind ≠ .manifestData ∧ d' = d ∨
        t.kind = .manifestData ∧ ∃ contents written full, t.contents = some contents ∧
          persistedOf? d found = some (t.source, contents) ∧
          (e.tempArea.write t.source contents).Gives d written d' ∧
          d'.absolute written = .ok full ∧ t.file = full.toText) := by
  obtain ⟨source, hsource, -, h⟩ := gives_classify_iff.mp h
  cases hkind : TargetKind.ofSuffix found.suffix with
  | stylesheet =>
    rw [hkind] at h
    obtain ⟨rfl, rfl⟩ := h
    exact ⟨hsource, .inl ⟨by simp, rfl⟩⟩
  | manifestData =>
    rw [hkind] at h
    obtain ⟨contents, written, full, hcontents, hwrite, hfull, rfl⟩ := h
    refine ⟨hsource, .inr ⟨rfl, contents, written, full, rfl, ?_, hwrite, hfull, rfl⟩⟩
    unfold persistedOf?
    rw [if_pos hkind, hsource, hcontents]
  | rawStatic =>
    rw [hkind] at h
    obtain ⟨contents, -, rfl, rfl⟩ := h
    exact ⟨hsource, .inl ⟨by simp, rfl⟩⟩

/-- A reference has a target just if a file is found that has this target. -/
theorem gives_resolve_iff :
    (e.resolve reference file).Gives d (some t) d' ↔
      ∃ found, (e.find d reference file).result = .ok (some found) ∧
        (e.classify found).Gives d (some t) d' := by
  unfold resolve
  rw [Action.gives_note_bind, Action.gives_lookup_bind]
  constructor
  · rintro ⟨found?, hfind, h⟩
    cases found? with
    | none =>
      rw [Action.gives_note_bind, Action.gives_pure] at h
      cases h.1
    | some found => exact ⟨found, hfind, h⟩
  · rintro ⟨found, hfind, h⟩
    exact ⟨some found, hfind, h⟩

/-- What a target says about the file that was found for it. -/
theorem gives_resolve (h : (e.resolve reference file).Gives d (some t) d') :
    ∃ found, (e.find d reference file).result = .ok (some found) ∧
      (e.classify found).Gives d (some t) d' :=
  gives_resolve_iff.mp h

/-- The target for a manifest whose declarations have been written. -/
theorem gives_resolve_of_manifest {source contents : Text} {written full : Path}
    (hfind : (e.find d reference file).result = .ok (some found))
    (hsource : sourcePath d found = .ok source)
    (hkind : TargetKind.ofSuffix found.suffix = .manifestData)
    (hcontents : Manifest.declarations d found = .ok contents)
    (hwrite : (e.tempArea.write source contents).Gives d written d')
    (hfull : d'.absolute written = .ok full) :
    (e.resolve reference file).Gives d
      (some ⟨full.toText, .manifestData, some contents, source⟩) d' := by
  have hscript : ¬scriptSuffixes.contains found.suffix := by
    intro h
    rw [ofSuffix_of_script h] at hkind
    cases hkind
  refine gives_resolve_iff.mpr ⟨found, hfind, gives_classify_iff.mpr ⟨source, hsource, hscript, ?_⟩⟩
  rw [hkind]
  exact ⟨contents, written, full, hcontents, hwrite, hfull, rfl⟩

/-- Resolving a manifest that was found makes its declarations and writes them. -/
theorem result_resolve_manifest {source : Text}
    (hfind : (e.find d reference file).result = .ok (some found))
    (hsource : sourcePath d found = .ok source)
    (hkind : TargetKind.ofSuffix found.suffix = .manifestData) :
    (e.resolve reference file d).1.result =
      (Manifest.declarations d found).bind fun contents =>
        (e.persist source contents d).1.result := by
  have hscript : ¬scriptSuffixes.contains found.suffix := by
    intro h
    rw [ofSuffix_of_script h] at hkind
    cases hkind
  rw [result_resolve, hfind]
  dsimp only [Except.bind]
  rw [result_classify, hsource]
  dsimp only [Except.bind]
  rw [if_neg hscript, hkind]

/-- Resolving fails where the declarations of the manifest that was found cannot be made. -/
theorem result_resolve_of_declarations {source : Text} {failure : Failure}
    (hfind : (e.find d reference file).result = .ok (some found))
    (hsource : sourcePath d found = .ok source)
    (hkind : TargetKind.ofSuffix found.suffix = .manifestData)
    (hcontents : Manifest.declarations d found = .error failure) :
    (e.resolve reference file d).1.result = .error failure := by
  rw [result_resolve_manifest hfind hsource hkind, hcontents]
  rfl

/-! ## The disk that is left behind -/

theorem disk_classify (e : Engine) (found : Path) (d : Disk) :
    (e.classify found d).2 =
      match persistedOf? d found with
      | none => d
      | some (source, contents) => (e.tempArea.write source contents d).2 := by
  unfold classify noteSource persistedOf?
  rw [Action.disk_lookup_bind, Traced.result_ofExcept]
  cases sourcePath d found with
  | error failure =>
    dsimp only
    rw [ite_self]
  | ok source =>
    dsimp only
    split
    · next hscript =>
      rw [ofSuffix_of_script hscript]
      rfl
    · cases TargetKind.ofSuffix found.suffix with
      | stylesheet => rfl
      | manifestData =>
        dsimp only
        rw [Action.disk_note_bind, Action.disk_lookup_bind, Traced.result_ofExcept]
        rw [if_pos rfl]
        cases Manifest.declarations d found with
        | error failure => rfl
        | ok contents => exact disk_persist e source contents d
      | rawStatic =>
        dsimp only
        rw [Action.disk_note_bind, Action.disk_lookup_bind]
        split <;> rfl

/-- The disk that resolving leaves behind, whether it fails or not. -/
theorem disk_resolve (e : Engine) (reference : Reference) (file : Text) (d : Disk) :
    (e.resolve reference file d).2 =
      match e.persisted? d reference file with
      | none => d
      | some (source, contents) => (e.tempArea.write source contents d).2 := by
  unfold resolve persisted?
  rw [Action.disk_note_bind, Action.disk_lookup_bind]
  cases (e.find d reference file).result with
  | error failure => rfl
  | ok found? =>
    cases found? with
    | none => rfl
    | some found => exact disk_classify e found d

/-- Resolving keeps what is on the disk. -/
theorem keeps_resolve (e : Engine) (reference : Reference) (file : Text) (d : Disk) :
    d.Keeps (e.resolve reference file d).2 := by
  rw [disk_resolve]
  split
  · exact .refl d
  · exact e.tempArea.keeps_write _ _ d

/-- Resolving keeps a disk a tree. -/
theorem isTree_resolve (hd : d.IsTree) (e : Engine) (reference : Reference) (file : Text) :
    (e.resolve reference file d).2.IsTree := by
  rw [disk_resolve]
  split
  · exact hd
  · exact TempArea.isTree_write hd _ _ _

end Engine

end StyleImport
