import StyleImport.Proofs.Engine.Source
import StyleImport.Proofs.Text.Lenient

/-!
# The text of other files

A file that is neither a style sheet nor a manifest nor a script is handed over with its text,
whatever its bytes are. Bytes that are no text are replaced, and nothing but them: text before,
between and behind them is handed over as it was written, unless it has carriage returns.

## Main definitions

- `Engine.rawText`: the text that bytes are handed over as.

## Main statements

- `Engine.resolve_rawText`: other files have targets, and text in them stays text.
-/

namespace StyleImport

namespace Engine

open Disk

variable {e : Engine} {d : Disk} {reference file t : Text} {found : Path}
  {bytes : List UInt8}

/-- The text that the bytes of a file are handed over as. -/
def rawText (bytes : List UInt8) : Text :=
  .ofChars (Utf8.unifyLineEnds (Utf8.decodeLenient bytes))

/-- Without carriage returns bytes are handed over as they are read. -/
theorem rawText_of_notMem (h : 0x0D ∉ bytes) :
    rawText bytes = .ofChars (Utf8.decodeLenient bytes) := by
  unfold rawText
  rw [Utf8.unifyLineEnds_of_notMem (Utf8.notMem_decodeLenient h)]

/-- A file that is no script, style sheet or manifest has a target with its text. -/
theorem gives_resolve_static (hd : d.IsTree) (he : e.IsProper)
    (hfind : (e.find d reference file).result = .ok (some found))
    (hscript : found.suffix ∉ scriptSuffixes)
    (hkind : TargetKind.ofSuffix found.suffix = .rawStatic) :
    ∃ place bytes source, d.status found.toText = .ok (place, .file bytes) ∧
      (e.resolve reference file).Gives d
        (some ⟨source, .rawStatic, some (rawText bytes), source⟩) d := by
  obtain ⟨place, entry, hstatus, hentry⟩ := holds_eq_true_iff.mp (holdsFile_of_find hfind).2
  obtain ⟨source, hsource⟩ := exists_sourcePath hd he hfind
  cases entry with
  | directory => cases hentry
  | link target => cases hentry
  | file bytes =>
    have htext : staticText d found = .ok (rawText bytes) := by
      unfold staticText readBytes
      rw [hstatus]
      rfl
    refine ⟨place, bytes, source, hstatus, gives_resolve_iff.mpr ⟨found, hfind,
      gives_classify_iff.mpr ⟨source, hsource, fun h => hscript (List.contains_iff_mem.mp h), ?_⟩⟩⟩
    rw [hkind]
    exact ⟨_, htext, rfl, rfl⟩

/-- Text without carriage returns is handed over as it was written, and so is text among other
bytes, which are handed over as they are without it. -/
theorem rawText_encode? (hencode : Utf8.encode? t = .ok bytes) (ht : .scalar '\r' ∉ t) :
    rawText bytes = t ∧
      (t ≠ [] → ∀ before rest, 0x0D ∉ before → 0x0D ∉ rest →
        rawText (before ++ bytes ++ rest) = rawText before ++ t ++ rawText rest) := by
  obtain ⟨htext, rfl⟩ := Utf8.eq_encodeChars_of_encode? hencode
  generalize t.chars = cs at htext
  subst htext
  have hcs : '\r' ∉ cs := fun hmem => ht (List.mem_map_of_mem hmem)
  constructor
  · have hread := Utf8.decodeLenient_encodeChars_append cs []
    rw [List.append_nil, Utf8.decodeLenient, List.append_nil] at hread
    rw [rawText, hread, Utf8.unifyLineEnds_of_notMem hcs]
  · intro hne before rest hbefore hrest
    have hne : cs ≠ [] := fun hnil => hne (congrArg Text.ofChars hnil)
    have hread := Utf8.decodeLenient_around hne before rest
    have hnot : '\r' ∉ Utf8.decodeLenient before ++ cs ++ Utf8.decodeLenient rest := by
      simp only [List.mem_append, not_or]
      exact ⟨⟨Utf8.notMem_decodeLenient hbefore, hcs⟩, Utf8.notMem_decodeLenient hrest⟩
    rw [rawText_of_notMem hbefore, rawText_of_notMem hrest, rawText, hread,
      Utf8.unifyLineEnds_of_notMem hnot]
    simp only [Text.ofChars, List.map_append]

/-- A file that is no script, style sheet or manifest has a target, whatever its bytes are, and
bytes that are no text damage nothing but themselves: text in the file stays what it is, and what
stands before and behind it is read as if it were alone. -/
theorem resolve_rawText :
    (∀ (e : Engine) (d : Disk) (reference file : Text) (found : Path), d.IsTree → e.IsProper →
      (e.find d reference file).result = .ok (some found) → found.suffix ∉ scriptSuffixes →
      TargetKind.ofSuffix found.suffix = .rawStatic →
      ∃ place bytes source, d.status found.toText = .ok (place, .file bytes) ∧
        (e.resolve reference file).Gives d
          (some ⟨source, .rawStatic, some (rawText bytes), source⟩) d) ∧
    (∀ t : Text, t.IsWhole → .scalar '\r' ∉ t →
      ∃ bytes, Utf8.encode? t = .ok bytes ∧ rawText bytes = t ∧
        (t ≠ [] → ∀ before rest, 0x0D ∉ before → 0x0D ∉ rest →
          rawText (before ++ bytes ++ rest) = rawText before ++ t ++ rawText rest)) := by
  constructor
  · intro e d reference file found hd he hfind hscript hkind
    exact gives_resolve_static hd he hfind hscript hkind
  · intro t hwhole ht
    obtain ⟨bytes, hencode⟩ := Utf8.exists_encode? hwhole
    exact ⟨bytes, hencode, rawText_encode? hencode ht⟩

/-- A disk with a file in which a letter stands between a character that is broken off and a byte
that starts none. -/
def garbledDisk : Disk where
  entries := [(["n.txt"], .file [0xE2, 0x82, 0xC3, 0xA9, 0xFF])]
  workingDirectory := some []

theorem garbledDisk_isTree : garbledDisk.IsTree := ⟨by decide, by decide, by decide, by decide⟩

/-- The letter is handed over between two replacement characters. -/
theorem resolve_garbledDisk :
    Text.IsWhole "é" ∧ Utf8.encode? "é" = .ok [0xC3, 0xA9] ∧
      rawText [0xE2, 0x82, 0xC3, 0xA9, 0xFF] = rawText [0xE2, 0x82] ++ "é" ++ rawText [0xFF] ∧
      rawText [0xE2, 0x82] = "\uFFFD" ∧ rawText [0xFF] = "\uFFFD" ∧
      garbledDisk.IsTree ∧ rootEngine.IsProper ∧
      (rootEngine.find garbledDisk "n.txt" "/m.scss").result = .ok (some (.ofText "/n.txt")) ∧
      ∃ source, (rootEngine.resolve "n.txt" "/m.scss").Gives garbledDisk
        (some ⟨source, .rawStatic, some "\uFFFDé\uFFFD", source⟩) garbledDisk := by
  have hwhole : Text.IsWhole "é" := Text.isWhole_ofString _
  have hencode : Utf8.encode? "é" = .ok [0xC3, 0xA9] := by rfl
  obtain ⟨htargets, htexts⟩ := resolve_rawText
  obtain ⟨bytes, hbytes, -, haround⟩ := htexts "é" hwhole (by decide)
  cases hencode.symm.trans hbytes
  have hlaw := haround (by decide) [0xE2, 0x82] [0xFF] (by decide) (by decide)
  have hfind : (rootEngine.find garbledDisk "n.txt" "/m.scss").result =
      .ok (some (.ofText "/n.txt")) := by cbv
  have hplace : garbledDisk.status (Path.ofText "/n.txt").toText =
      .ok (["n.txt"], .file [0xE2, 0x82, 0xC3, 0xA9, 0xFF]) := by cbv
  have hbefore : rawText [0xE2, 0x82] = "\uFFFD" := by cbv
  have hrest : rawText [0xFF] = "\uFFFD" := by cbv
  refine ⟨hwhole, hencode, hlaw, hbefore, hrest, garbledDisk_isTree, rootEngine_isProper, hfind, ?_⟩
  obtain ⟨place, bytes, source, hstatus, hgives⟩ := htargets _ _ _ _ _ garbledDisk_isTree
    rootEngine_isProper hfind (by decide) (by decide)
  cases hplace.symm.trans hstatus
  have htext : rawText [0xE2, 0x82, 0xC3, 0xA9, 0xFF] = "\uFFFDé\uFFFD" := by
    refine hlaw.trans ?_
    rw [hbefore, hrest]
    rfl
  rw [htext] at hgives
  exact ⟨source, hgives⟩

end Engine

end StyleImport
