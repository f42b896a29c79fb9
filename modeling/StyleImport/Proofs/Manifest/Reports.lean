import StyleImport.Operation
import StyleImport.Proofs.Engine.Source
import StyleImport.Proofs.Json.Digits
import StyleImport.Proofs.Manifest.Loading
import StyleImport.Proofs.Yaml.Faults

/-!
# Reports on manifests

A manifest that cannot be used is reported by the commands that resolve an import and that make
declarations. What loading does not report comes from an integer with too many digits, or from a
scalar, a key or a mark of a YAML document, and stays a failure.

## Main definitions

- `Yaml.StrayCause`: the faults of YAML documents that are not reported.

## Main statements

- `Manifest.hasLongNumeral_of_holdsOverlongInteger`, `Manifest.strayCause_of_holdsStrayValue`: why a
  manifest is not reported.
- `Operation.renderDeclarations_of_load`, `Operation.result_resolve_of_load`: manifests that are
  reported.
- `Manifest.load_reported_iff`: which manifests are reported.
-/

namespace StyleImport

/-! ## Manifests that are not reported -/

/-- Why a YAML document has a fault that is not reported. -/
inductive Yaml.StrayCause (cs : List Char) : Fault → Prop
  /-- A mark of the text names a code point or version that is not known. -/
  | mark {fault : Fault} (h : compose cs = .error fault) : StrayCause cs fault
  /-- A part of the document contains itself. -/
  | circular : StrayCause cs .circular
  /-- A key is unfit. -/
  | key {fault : Fault} (h : fault.ConcernsKeys) : StrayCause cs fault
  /-- The text of a scalar gives no truth value, number or date, of which kind a node is. -/
  | scalar {fault : Fault} {g : Graph} {root id leaf : NodeId} {schema : Schema} {t : Text}
    (hcompose : compose cs = .ok (g, root, schema)) (hleaf : (g.node leaf).content = .scalar t)
    (htag : g.tag id = .bool ∨ g.tag id = .int ∨ g.tag id = .double ∨ g.tag id = .timestamp)
    (h : Scalar.value (schema = .older) (g.tag id) t = .error fault) : StrayCause cs fault

theorem Yaml.strayCause_of_read {cs : List Char} {fault : Fault} (h : read cs = .error fault)
    (hfault : fault ≠ .malformed) : StrayCause cs fault := by
  rcases fault_of_read h with hcompose | ⟨g, root, schema, hcompose, hfail⟩
  · exact .mark hcompose
  · cases hfail with
    | malformed => exact absurd rfl hfault
    | circular => exact .circular
    | key hkey => exact .key hkey
    | scalar hscalar =>
      obtain ⟨id, leaf, t, hleaf, hvalue⟩ := hscalar
      exact .scalar hcompose hleaf (Scalar.tag_of_value hvalue hfault) hvalue

namespace Manifest

variable {d : Disk} {path : Path} {l : Location} {bytes : List UInt8} {reason : Reason}

/-- An integer that is not read has its digits in the text. -/
theorem hasLongNumeral_of_holdsOverlongInteger (h : HoldsOverlongInteger bytes) :
    ∃ cs, ReadsAs bytes cs ∧ Json.HasLongNumeral cs := by
  obtain ⟨cs, fault, hcs, hread⟩ := h
  exact ⟨cs, hcs, Json.hasLongNumeral_of_read hread⟩

theorem strayCause_of_holdsStrayValue (h : HoldsStrayValue bytes) :
    ∃ cs fault, ReadsAs bytes cs ∧ Yaml.StrayCause cs fault := by
  obtain ⟨cs, fault, hcs, hread, hfault⟩ := h
  exact ⟨cs, fault, hcs, Yaml.strayCause_of_read hread hfault⟩

theorem declarations_of_load {failure : Failure} (h : load d path = .error failure) :
    declarations d path = .error failure := by
  show (load d path).bind _ = _
  rw [h]
  rfl

end Manifest

/-! ## Manifests that are reported -/

namespace Operation

variable {e : Engine} {d : Disk} {reference file p : Text} {path : Path} {reason : Manifest.Reason}

/-- Making declarations reports a manifest that cannot be used. -/
theorem renderDeclarations_of_load (h : Manifest.load d path = .error (.manifest p reason)) :
    renderDeclarations path d = .ok (invalidManifest "declarations" p reason) := by
  unfold renderDeclarations
  rw [Manifest.declarations_of_load h]

/-- Resolving an import reports a manifest that was found and cannot be used. -/
theorem result_resolve_of_load (hd : d.IsTree) (he : e.IsProper)
    (hfind : (e.find d reference file).result = .ok (some path))
    (hkind : TargetKind.ofSuffix path.suffix = .manifestData)
    (h : Manifest.load d path = .error (.manifest p reason)) :
    (resolve e reference file d).1.result = .ok (invalidManifest "resolve" p reason) := by
  obtain ⟨source, hsource⟩ := Engine.exists_sourcePath hd he hfind
  have hresult : (e.resolve reference file d).1.result = .error (.manifest p reason) :=
    Engine.result_resolve_of_declarations hfind hsource hkind (Manifest.declarations_of_load h)
  unfold resolve
  rcases hrun : e.resolve reference file d with ⟨⟨log, result⟩, d'⟩
  rw [hrun] at hresult
  dsimp only at hresult
  subst hresult
  rfl

end Operation

namespace Manifest

variable {d : Disk} {path : Path} {l : Location} {bytes : List UInt8}

/-- Loading a manifest from a file that is there gives its entries or reports it under its own path
just if it is no JSON document with an integer that has too many digits, and no YAML document with a
fault that is none of the grammar. A manifest that is reported is reported by the commands too. -/
theorem load_reported_iff (h : d.status path.toText = .ok (l, .file bytes)) :
    (((∃ entries, load d path = .ok entries) ∨
        ∃ reason, load d path = .error (.manifest path.toText reason)) ↔
      ¬(path.suffix = ".json" ∧ HoldsOverlongInteger bytes) ∧
        ¬((path.suffix = ".yaml" ∨ path.suffix = ".yml") ∧ HoldsStrayValue bytes)) ∧
    (HoldsOverlongInteger bytes → ∃ cs, ReadsAs bytes cs ∧ Json.HasLongNumeral cs) ∧
    (HoldsStrayValue bytes → ∃ cs fault, ReadsAs bytes cs ∧ Yaml.StrayCause cs fault) ∧
    ∀ reason, load d path = .error (.manifest path.toText reason) →
      Operation.renderDeclarations path d =
          .ok (Operation.invalidManifest "declarations" path.toText reason) ∧
        ∀ (e : Engine) (reference file : Text), d.IsTree → e.IsProper →
          (e.find d reference file).result = .ok (some path) →
            TargetKind.ofSuffix path.suffix = .manifestData →
              (Operation.resolve e reference file d).1.result =
                .ok (Operation.invalidManifest "resolve" path.toText reason) := by
  refine ⟨?_, hasLongNumeral_of_holdsOverlongInteger, strayCause_of_holdsStrayValue,
    fun reason hload => ⟨Operation.renderDeclarations_of_load hload,
      fun e reference file hd he hfind hkind =>
        Operation.result_resolve_of_load hd he hfind hkind hload⟩⟩
  have hreported : ((∃ entries, load d path = .ok entries) ∨
      ∃ reason, load d path = .error (.manifest path.toText reason)) ↔ ¬Escapes (load d path) := by
    rw [not_escapes_iff]
    refine or_congr_right ⟨fun ⟨reason, hload⟩ => ⟨_, reason, hload⟩, ?_⟩
    rintro ⟨p, reason, hload⟩
    have hp := path_of_load h hload
    exact ⟨reason, hp ▸ hload⟩
  rw [hreported, escapes_load_iff h, not_or]

/-! ## A date with a month that there is none of -/

/-- A disk with two manifests. The first one is `a: 2001-13-01`, and the second one breaks off. -/
def monthDisk : Disk where
  entries := [(["t.yaml"], .file [97, 58, 32, 50, 48, 48, 49, 45, 49, 51, 45, 48, 49, 10]),
    (["u.json"], .file [91])]
  workingDirectory := some []

/-- The text of the first manifest. -/
def monthText : List Char := "a: 2001-13-01\n".toList

theorem read_monthText : Yaml.read monthText = .error (.moment .month) := by
  have hfault : (match Yaml.read monthText with
      | .error fault => decide (fault = .moment .month)
      | .ok _ => false) = true := by decide +kernel
  split at hfault
  · next fault hread => rw [hread, of_decide_eq_true hfault]
  · cases hfault

/-- The month is not reported, although the file is there. -/
theorem load_monthDisk_escapes :
    monthDisk.status (Path.ofText "/t.yaml").toText =
        .ok (["t.yaml"], .file [97, 58, 32, 50, 48, 48, 49, 45, 49, 51, 45, 48, 49, 10]) ∧
      load monthDisk (.ofText "/t.yaml") = .error (.scalar (.moment .month)) := by
  have htext : readText monthDisk (.ofText "/t.yaml") = .ok monthText := by cbv
  have hformat : Format.ofSuffix? (Path.ofText "/t.yaml").suffix = some .yaml := by decide
  refine ⟨by cbv, ?_⟩
  rw [load_eq, export_, hformat]
  dsimp only
  rw [readYaml_eq, htext]
  simp only [Except.bind, yamlOf, read_monthText]

/-- The manifest that breaks off is reported. -/
theorem load_monthDisk_reported :
    monthDisk.status (Path.ofText "/u.json").toText = .ok (["u.json"], .file [91]) ∧
      Operation.renderDeclarations (.ofText "/u.json") monthDisk =
        .ok (Operation.invalidManifest "declarations" "/u.json"
          (.json (.grammar .value 1 2 1))) := by
  have hstatus : monthDisk.status (Path.ofText "/u.json").toText =
      .ok (["u.json"], .file [91]) := by cbv
  have hload : load monthDisk (.ofText "/u.json") =
      .error (.manifest (Path.ofText "/u.json").toText (.json (.grammar .value 1 2 1))) := by cbv
  exact ⟨hstatus, ((load_reported_iff hstatus).2.2.2 _ hload).1⟩

end Manifest

end StyleImport
