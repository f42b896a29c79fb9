import StyleImport.Manifest
import StyleImport.Proofs.Disk.Status
import StyleImport.Proofs.Failure

/-!
# Loading manifests from files

A file that is there can always be read, so what loading gives depends on its bytes alone. Bytes
that are no text, and texts that break the grammar of their format, are reported as what is wrong
with the manifest. So is everything that is wrong with a script. Two faults are not: an integer of a
JSON document that has too many digits, and a fault of a YAML document that is none of its grammar.

## Main definitions

- `Manifest.ReadsAs`: the characters that bytes are read as.
- `Manifest.IsBrokenJson`: what is wrong with the bytes of a JSON document.
- `Manifest.HoldsOverlongInteger`: JSON documents with an integer that is not read.
- `Manifest.HoldsStrayValue`: YAML documents with a fault that is none of their grammar.
- `Manifest.declarationsOf`: the declarations made from bytes.

## Main statements

- `Manifest.escapes_readJson_iff`, `Manifest.escapes_readYaml_iff`: which files are not reported.
- `Manifest.escapes_load_iff`: which manifests are not reported.
- `Manifest.path_of_load`: a manifest is reported under its own path.
- `Manifest.declarations_of_file`: the declarations made from a file are those made from its bytes.
-/

namespace StyleImport

namespace Manifest

variable {d d' : Disk} {path : Path} {l : Location} {bytes : List UInt8} {cs : List Char}

/-! ## Texts -/

theorem readText_congr (h : d'.status path.toText = d.status path.toText) :
    readText d' path = readText d path := by
  unfold readText
  rw [Disk.readBytes_congr h]

theorem readJson_congr (h : d'.status path.toText = d.status path.toText) :
    readJson d' path = readJson d path := by
  unfold readJson
  rw [readText_congr h]

/-- The characters that bytes are read as, with all line ends read as line feeds. -/
def ReadsAs (bytes : List UInt8) (cs : List Char) : Prop :=
  ∃ raw, Utf8.decode bytes = .ok raw ∧ Utf8.unifyLineEnds raw = cs

/-! ## JSON documents -/

/-- The bytes are a JSON text up to an integer that has too many digits. -/
def HoldsOverlongInteger (bytes : List UInt8) : Prop :=
  ∃ cs fault, ReadsAs bytes cs ∧ Json.read cs = .error (.number fault)

/-- What is wrong with the bytes of a JSON document. -/
inductive IsBrokenJson (bytes : List UInt8) : Reason → Prop
  /-- The bytes are no text. -/
  | bytes {fault : Utf8.DecodeFault} (h : Utf8.decode bytes = .error fault) :
    IsBrokenJson bytes (.bytes fault)
  /-- The text breaks the grammar. -/
  | grammar {cs : List Char} {kind : Json.FaultKind} {line column index : Nat}
    (hcs : ReadsAs bytes cs) (h : Json.read cs = .error (.grammar kind line column index)) :
    IsBrokenJson bytes (.json (.grammar kind line column index))

/-- What the text of a JSON document gives. -/
def jsonOf (path : Path) (cs : List Char) : Except Failure Json :=
  match Json.read cs with
  | .ok v => .ok v
  | .error (.number fault) => .error (.number fault)
  | .error fault => .error (.manifest path.toText (.json fault))

theorem readJson_eq (d : Disk) (path : Path) :
    readJson d path = (readText d path).bind (jsonOf path) := rfl

theorem escapes_jsonOf_iff :
    Escapes (jsonOf path cs) ↔ ∃ fault, Json.read cs = .error (.number fault) := by
  unfold jsonOf
  cases Json.read cs with
  | ok v => simp
  | error fault =>
    cases fault with
    | grammar kind line column index => simp
    | number fault => simp [Failure.IsManifest]

theorem jsonOf_eq_ok_iff {v : Json} : jsonOf path cs = .ok v ↔ Json.read cs = .ok v := by
  unfold jsonOf
  cases Json.read cs with
  | ok v => simp
  | error fault => cases fault <;> simp

theorem jsonOf_ne_access (fault : AccessFault) : jsonOf path cs ≠ .error (.access fault) := by
  unfold jsonOf
  cases Json.read cs with
  | ok v => simp
  | error fault => cases fault <;> simp

theorem jsonOf_eq_manifest_iff {p : Text} {reason : Reason} :
    jsonOf path cs = .error (.manifest p reason) ↔
      p = path.toText ∧ ∃ kind line column index,
        Json.read cs = .error (.grammar kind line column index) ∧
          reason = .json (.grammar kind line column index) := by
  unfold jsonOf
  cases Json.read cs with
  | ok v => simp
  | error fault =>
    cases fault with
    | number fault => simp
    | grammar kind line column index =>
      constructor
      · intro h
        cases h
        exact ⟨rfl, _, _, _, _, rfl, rfl⟩
      · rintro ⟨rfl, _, _, _, _, h, rfl⟩
        cases h
        rfl

/-! ## YAML documents -/

/-- The bytes are a YAML text with a fault that is none of its grammar. -/
def HoldsStrayValue (bytes : List UInt8) : Prop :=
  ∃ cs fault, ReadsAs bytes cs ∧ Yaml.read cs = .error fault ∧ fault ≠ .malformed

/-- What the text of a YAML document gives. -/
def yamlOf (path : Path) (cs : List Char) : Except Failure Value :=
  match Yaml.read cs with
  | .ok v => .ok v
  | .error .malformed => .error (.manifest path.toText .yaml)
  | .error fault => .error (.scalar fault)

theorem readYaml_eq (d : Disk) (path : Path) :
    readYaml d path = (readText d path).bind (yamlOf path) := rfl

theorem escapes_yamlOf_iff :
    Escapes (yamlOf path cs) ↔ ∃ fault, Yaml.read cs = .error fault ∧ fault ≠ .malformed := by
  unfold yamlOf
  cases Yaml.read cs with
  | ok v => simp
  | error fault =>
    cases fault with
    | malformed => simp
    | _ => simp [Failure.IsManifest]

theorem path_of_yamlOf {p : Text} {reason : Reason}
    (h : yamlOf path cs = .error (.manifest p reason)) : p = path.toText := by
  unfold yamlOf at h
  split at h
  · cases h
  · cases h
    rfl
  · cases h

/-! ## Manifests of all formats -/

/-- What the bytes of a script export. -/
def scriptOf (path : Path) (bytes : List UInt8) : Except Reason Value :=
  match Script.lookup exportName bytes with
  | .error fault => .error (.script path.name fault)
  | .ok none => .error (.noExport exportName)
  | .ok (some v) => .ok v

theorem runScript_eq (d : Disk) (path : Path) :
    runScript d path = (readScriptBytes d path).bind (scriptOf path) := rfl

/-- Everything that is wrong with a script is reported. -/
theorem not_escapes_script (d : Disk) (path : Path) :
    ¬Escapes ((runScript d path).mapError (.manifest path.toText)) := by
  rintro ⟨failure, hfailure, hmanifest⟩
  obtain ⟨reason, -, rfl⟩ := mapError_eq_error_iff.mp hfailure
  exact hmanifest (isManifest_manifest _ _)

/-- The entries that a value exports. -/
def entriesOf (path : Path) : Value → Except Failure (List (Value × Value))
  | .null => .ok []
  | .map entries => .ok entries
  | v => .error (.manifest path.toText (.notMapping v.kindName))

theorem load_eq (d : Disk) (path : Path) :
    load d path = (export_ d path).bind (entriesOf path) := by
  unfold load entriesOf
  rfl

theorem entriesOf_cases (path : Path) (v : Value) :
    (∃ entries, entriesOf path v = .ok entries) ∨
      ∃ reason, entriesOf path v = .error (.manifest path.toText reason) := by
  cases v with
  | null => exact .inl ⟨_, rfl⟩
  | map entries => exact .inl ⟨_, rfl⟩
  | _ => exact .inr ⟨_, rfl⟩

theorem not_escapes_entriesOf (path : Path) (v : Value) : ¬Escapes (entriesOf path v) := by
  rcases entriesOf_cases path v with ⟨entries, h⟩ | ⟨reason, h⟩
  · simp [h]
  · simp [h]

/-- The failures of loading that are not reported are those of reading the document. -/
theorem escapes_load_iff_export : Escapes (load d path) ↔ Escapes (export_ d path) := by
  rw [load_eq, escapes_bind_iff]
  simp [not_escapes_entriesOf]

theorem ofSuffix?_cases (suffix : Text) :
    (suffix = ".json" ∧ Format.ofSuffix? suffix = some .json) ∨
      ((suffix = ".yaml" ∨ suffix = ".yml") ∧ Format.ofSuffix? suffix = some .yaml) ∨
      (suffix ≠ ".json" ∧ suffix ≠ ".yaml" ∧ suffix ≠ ".yml" ∧
        (Format.ofSuffix? suffix = some .script ∨ Format.ofSuffix? suffix = none)) := by
  unfold Format.ofSuffix?
  split_ifs <;> simp_all

/-! ## Declarations made from bytes -/

/-- The text that the bytes of a document are. -/
def textOf (path : Path) (bytes : List UInt8) : Except Failure (List Char) :=
  match Utf8.decode bytes with
  | .error fault => .error (.manifest path.toText (.bytes fault))
  | .ok raw => .ok (Utf8.unifyLineEnds raw)

/-- What a manifest with these bytes exports. The ending of its name decides how they are read. -/
def exportOf (path : Path) (bytes : List UInt8) : Except Failure Value :=
  match Format.ofSuffix? path.suffix with
  | none => .error (.manifest path.toText (.unsupported path.suffix))
  | some .json => ((textOf path bytes).bind (jsonOf path)).map Json.toValue
  | some .yaml => (textOf path bytes).bind (yamlOf path)
  | some .script => (scriptOf path bytes).mapError (.manifest path.toText)

/-- The declarations made from a manifest with these bytes. -/
def declarationsOf (path : Path) (bytes : List UInt8) : Except Failure Text :=
  ((exportOf path bytes).bind (entriesOf path)).bind fun entries =>
    (Declarations.render entries).mapError .literal

theorem declarations_eq (d : Disk) (path : Path) :
    declarations d path = ((export_ d path).bind (entriesOf path)).bind fun entries =>
      (Declarations.render entries).mapError .literal := by
  rw [← load_eq]
  rfl

theorem declarations_of_export (h : export_ d path = exportOf path bytes) :
    declarations d path = declarationsOf path bytes := by
  rw [declarations_eq, h]
  rfl

/-- A script exports what the bytes read for it do. -/
theorem export_of_script (hformat : Format.ofSuffix? path.suffix = some .script)
    (hread : readScriptBytes d path = .ok bytes) : export_ d path = exportOf path bytes := by
  unfold export_ exportOf
  rw [hformat]
  dsimp only
  rw [runScript_eq, hread]
  rfl

/-! ## Files that are there -/

section Files

variable (h : d.status path.toText = .ok (l, .file bytes))

include h

/-- The text of a file that is there is that of its bytes. -/
theorem readText_of_file :
    readText d path =
      match Utf8.decode bytes with
      | .error fault => .error (.manifest path.toText (.bytes fault))
      | .ok raw => .ok (Utf8.unifyLineEnds raw) := by
  have hbytes : d.readBytes path = .ok bytes := by
    unfold Disk.readBytes
    rw [h]
  unfold readText
  rewrite [hbytes]
  rfl

theorem readText_eq_ok_iff : readText d path = .ok cs ↔ ReadsAs bytes cs := by
  rw [readText_of_file h]
  unfold ReadsAs
  cases Utf8.decode bytes with
  | error fault => simp
  | ok raw => simp

theorem readText_eq_error_iff {failure : Failure} :
    readText d path = .error failure ↔
      ∃ fault, Utf8.decode bytes = .error fault ∧
        failure = .manifest path.toText (.bytes fault) := by
  rw [readText_of_file h]
  cases Utf8.decode bytes with
  | error fault => simp [eq_comm]
  | ok raw => simp

theorem not_escapes_readText : ¬Escapes (readText d path) := by
  rintro ⟨failure, hfailure, hmanifest⟩
  obtain ⟨fault, -, rfl⟩ := (readText_eq_error_iff h).mp hfailure
  exact hmanifest (isManifest_manifest _ _)

/-- Reading a JSON document from a file that is there is not reported just if an integer of it has
too many digits. -/
theorem escapes_readJson_iff : Escapes (readJson d path) ↔ HoldsOverlongInteger bytes := by
  rw [readJson_eq, escapes_bind_iff]
  simp only [not_escapes_readText h, false_or, readText_eq_ok_iff h, escapes_jsonOf_iff]
  unfold HoldsOverlongInteger
  simp only [exists_and_left]

/-- Reading a JSON document from a file that is there is reported just if the file is broken. -/
theorem readJson_eq_manifest_iff {p : Text} {reason : Reason} :
    readJson d path = .error (.manifest p reason) ↔
      p = path.toText ∧ IsBrokenJson bytes reason := by
  rw [readJson_eq, bind_eq_error_iff]
  simp only [readText_eq_ok_iff h, readText_eq_error_iff h, jsonOf_eq_manifest_iff]
  constructor
  · rintro (⟨fault, hdecode, hfailure⟩ | ⟨cs, hcs, rfl, kind, line, column, index, hread, rfl⟩)
    · cases hfailure
      exact ⟨rfl, .bytes hdecode⟩
    · exact ⟨rfl, .grammar hcs hread⟩
  · rintro ⟨rfl, hbroken⟩
    cases hbroken with
    | bytes hdecode => exact .inl ⟨_, hdecode, rfl⟩
    | grammar hcs hread => exact .inr ⟨_, hcs, rfl, _, _, _, _, hread, rfl⟩

theorem readJson_eq_ok_iff {v : Json} :
    readJson d path = .ok v ↔ ∃ cs, ReadsAs bytes cs ∧ Json.read cs = .ok v := by
  rw [readJson_eq, bind_eq_ok_iff]
  simp only [readText_eq_ok_iff h, jsonOf_eq_ok_iff]

/-- The disk does not refuse to give the JSON document in a file that is there. -/
theorem readJson_ne_access (fault : AccessFault) : readJson d path ≠ .error (.access fault) := by
  rw [readJson_eq, ne_eq, bind_eq_error_iff]
  rintro (htext | ⟨cs, -, hjson⟩)
  · obtain ⟨fault', -, hfailure⟩ := (readText_eq_error_iff h).mp htext
    cases hfailure
  · exact jsonOf_ne_access fault hjson

/-- Reading a YAML document from a file that is there is not reported just if its fault is none of
the grammar. -/
theorem escapes_readYaml_iff : Escapes (readYaml d path) ↔ HoldsStrayValue bytes := by
  rw [readYaml_eq, escapes_bind_iff]
  simp only [not_escapes_readText h, false_or, readText_eq_ok_iff h, escapes_yamlOf_iff]
  unfold HoldsStrayValue
  simp only [exists_and_left]

theorem path_of_readYaml {p : Text} {reason : Reason}
    (hyaml : readYaml d path = .error (.manifest p reason)) : p = path.toText := by
  rw [readYaml_eq, bind_eq_error_iff] at hyaml
  rcases hyaml with htext | ⟨cs, -, hyaml⟩
  · obtain ⟨fault, -, hfailure⟩ := (readText_eq_error_iff h).mp htext
    cases hfailure
    rfl
  · exact path_of_yamlOf hyaml

/-- Loading a manifest that is there is not reported just if it is a JSON document with an integer
that has too many digits, or a YAML document with a fault that is none of the grammar. -/
theorem escapes_load_iff :
    Escapes (load d path) ↔
      path.suffix = ".json" ∧ HoldsOverlongInteger bytes ∨
        (path.suffix = ".yaml" ∨ path.suffix = ".yml") ∧ HoldsStrayValue bytes := by
  rw [escapes_load_iff_export]
  unfold export_
  -- The suffix decides which reader is asked, and no suffix belongs to two formats.
  rcases ofSuffix?_cases path.suffix with ⟨hjson, hformat⟩ | ⟨hyaml, hformat⟩ |
    ⟨hjson, hyaml, hyml, hformat | hformat⟩
  · have hyaml : ¬(path.suffix = ".yaml" ∨ path.suffix = ".yml") := by
      rw [hjson]
      decide
    rw [hformat]
    dsimp only
    rw [escapes_map_iff, escapes_readJson_iff h]
    constructor
    · exact fun hlong => .inl ⟨hjson, hlong⟩
    · rintro (⟨-, hlong⟩ | ⟨hother, -⟩)
      · exact hlong
      · exact absurd hother hyaml
  · have hjson : path.suffix ≠ ".json" := by
      rcases hyaml with hyaml | hyaml <;> rw [hyaml] <;> decide
    rw [hformat]
    dsimp only
    rw [escapes_readYaml_iff h]
    constructor
    · exact fun hstray => .inr ⟨hyaml, hstray⟩
    · rintro (⟨hother, -⟩ | ⟨-, hstray⟩)
      · exact absurd hother hjson
      · exact hstray
  · rw [hformat]
    dsimp only
    simp [not_escapes_script, hjson, hyaml, hyml]
  · rw [hformat]
    dsimp only
    simp [hjson, hyaml, hyml]

/-- A manifest that is there is reported under its own path. -/
theorem path_of_load {p : Text} {reason : Reason}
    (hload : load d path = .error (.manifest p reason)) : p = path.toText := by
  rw [load_eq, bind_eq_error_iff] at hload
  rcases hload with hexport | ⟨v, -, hentries⟩
  · unfold export_ at hexport
    split at hexport
    · cases hexport
      rfl
    · cases hjson : readJson d path with
      | ok v => simp [hjson, Except.map] at hexport
      | error failure =>
        rw [hjson] at hexport
        cases hexport
        exact ((readJson_eq_manifest_iff h).mp hjson).1
    · exact path_of_readYaml h hexport
    · obtain ⟨reason', -, hreason⟩ := mapError_eq_error_iff.mp hexport
      cases hreason
      rfl
  · rcases entriesOf_cases path v with ⟨entries, hv⟩ | ⟨reason', hv⟩
    · cases hentries.symm.trans hv
    · cases hentries.symm.trans hv
      rfl

/-- The bytes of a script are those at the textual normal form of its path. -/
theorem readScriptBytes_of_file {full : Path} {l' : Location} {bytes' : List UInt8}
    (hfull : d.absolute path = .ok full)
    (hnormal : d.status full.normal.toText = .ok (l', .file bytes')) :
    readScriptBytes d path = .ok bytes' := by
  have hspeak : Disk.unspeakable? path.toText = none :=
    Disk.unspeakable?_eq_none_iff.mpr (Disk.isSpeakable_of_status h)
  have hdirectory : d.isDirectory path = .ok false := by
    unfold Disk.isDirectory Disk.isAt
    rw [h]
    rfl
  have hbytes : d.readBytes full.normal = .ok bytes' := by
    unfold Disk.readBytes
    rw [hnormal]
  unfold readScriptBytes
  rw [hspeak, hdirectory, hfull]
  dsimp only
  rw [hbytes]
  rfl

/-- The declarations made from a file are made from its bytes, if those of a script stand at the
textual normal form of its path too. -/
theorem declarations_of_file
    (hscript : Format.ofSuffix? path.suffix = some .script → ∃ full l',
      d.absolute path = .ok full ∧ d.status full.normal.toText = .ok (l', .file bytes)) :
    declarations d path = declarationsOf path bytes := by
  have htext : readText d path = textOf path bytes := readText_of_file h
  refine declarations_of_export ?_
  cases hformat : Format.ofSuffix? path.suffix with
  | none =>
    unfold export_ exportOf
    rw [hformat]
  | some format =>
    cases format with
    | json =>
      unfold export_ exportOf
      rw [hformat]
      dsimp only
      rw [readJson_eq, htext]
    | yaml =>
      unfold export_ exportOf
      rw [hformat]
      dsimp only
      rw [readYaml_eq, htext]
    | script =>
      obtain ⟨full, l', hfull, hnormal⟩ := hscript hformat
      exact export_of_script hformat (readScriptBytes_of_file h hfull hnormal)

end Files

end Manifest

end StyleImport
