import StyleImport.CommandLine
import StyleImport.Proofs.Json.RoundTrip
import StyleImport.Proofs.Json.Written

/-!
# Reports as documents

A run that was asked for JSON documents shows its report as one document, on the standard output for
a success and on the error output for a failure. Only if a surrogate stands alone in the document
does the run end without it.

## Main definitions

- `Outcome.Shows`, `Outcome.Refuses`: a run shows a document.
- `Outcome.Breaks`: a run ends with a failure.

## Main statements

- `Report.surrogates?_toJson_iff`: what keeps the document of a report from being shown.
- `Report.isReadable_toJson`: when it can be read again.
- `Invocation.conclude_of_whole`: a report is shown as a document.
-/

namespace StyleImport

/-! ## Documents of reports -/

namespace Report

open Json (surrogates? surrogatesOfFields? surrogatesOfItems? IsReadable ItemsReadable)

theorem surrogatesOfItems?_texts_iff {ts : List Text} :
    surrogatesOfItems? (ts.map .text) = none ↔ ∀ t ∈ ts, t.IsWhole := by
  induction ts with
  | nil => simp [surrogatesOfItems?]
  | cons t ts ih =>
    rw [List.map_cons, surrogatesOfItems?, Option.orElse_eq_none, ih, surrogates?,
      Utf8.firstSurrogates_eq_none_iff, List.forall_mem_cons]

/-- No surrogate stands alone in the document of a report just if none does in its parts. -/
theorem surrogates?_toJson_iff (r : Report) :
    r.toJson.surrogates? = none ↔ r.op.IsWhole ∧ surrogatesOfFields? r.data = none ∧
      (∀ t ∈ r.warnings, t.IsWhole) ∧ (troubleJson r.error).surrogates? = none := by
  simp only [toJson, surrogates?, surrogatesOfFields?, Utf8.firstSurrogates_ofString,
    Option.orElse_eq_none, Utf8.firstSurrogates_eq_none_iff, surrogatesOfItems?_texts_iff,
    true_and, and_true]

theorem itemsReadable_texts {ts : List Text} (h : ∀ t ∈ ts, t.IsWhole) :
    ItemsReadable (ts.map .text) := by
  induction ts with
  | nil => trivial
  | cons t ts ih =>
    obtain ⟨ht, hts⟩ := List.forall_mem_cons.mp h
    exact ⟨ht, ih hts⟩

/-- The document of a report can be read again if its parts can. -/
theorem isReadable_toJson {r : Report} (hop : r.op.IsWhole) (hdata : IsReadable (.object r.data))
    (hwarnings : ∀ t ∈ r.warnings, t.IsWhole) (herror : IsReadable (troubleJson r.error)) :
    IsReadable r.toJson :=
  have hnames : (["ok", "op", "data", "warnings", "error"].map Text.ofString).Nodup := by decide
  ⟨hnames, Text.isWhole_ofString _, trivial, Text.isWhole_ofString _, hop, Text.isWhole_ofString _,
    hdata, Text.isWhole_ofString _, itemsReadable_texts hwarnings, Text.isWhole_ofString _, herror,
    trivial⟩

/-- No surrogate stands alone in the document of a failure just if none does in its parts. -/
theorem surrogates?_failure_iff {op code message : Text} {detail : List (Text × Json)} :
    (failure op code message detail).toJson.surrogates? = none ↔
      op.IsWhole ∧ code.IsWhole ∧ message.IsWhole ∧ surrogatesOfFields? detail = none := by
  rw [surrogates?_toJson_iff]
  simp [failure, troubleJson, surrogates?, surrogatesOfFields?, Utf8.firstSurrogates_ofString,
    Utf8.firstSurrogates_eq_none_iff]

/-- The document of a failure can be read again if its parts can. -/
theorem isReadable_failure {op code message : Text} {detail : List (Text × Json)}
    (hop : op.IsWhole) (hcode : code.IsWhole) (hmessage : message.IsWhole)
    (hdetail : IsReadable (.object detail)) :
    IsReadable (failure op code message detail).toJson := by
  have hnames : (["code", "message", "detail"].map Text.ofString).Nodup := by decide
  exact isReadable_toJson hop ⟨List.nodup_nil, trivial⟩ (List.forall_mem_nil _)
    ⟨hnames, Text.isWhole_ofString _, hcode, Text.isWhole_ofString _, hmessage,
      Text.isWhole_ofString _, hdetail, trivial⟩

end Report

/-! ## What runs show -/

namespace Outcome

/-- A run succeeds and shows a document on the standard output, in which no surrogate stands
alone. -/
def Shows (o : Outcome) (doc : Json) : Prop :=
  o.exit = 0 ∧ o.escaped = none ∧ o.out = Json.write doc ++ "\n" ∧ o.out.IsWhole

/-- A run fails and shows a document on the error output, behind its log records. -/
def Refuses (o : Outcome) (doc : Json) : Prop :=
  o.exit = 1 ∧ o.escaped = none ∧ o.out = [] ∧
    (Json.write doc ++ "\n" : Text) <:+ o.err

/-- A run ends with a failure that the program has no words for. -/
def Breaks (o : Outcome) (f : Failure) : Prop := o.exit = 1 ∧ o.out = [] ∧ o.escaped = some f

theorem Breaks.not_shows {o : Outcome} {f : Failure} (h : o.Breaks f) (doc : Json) :
    ¬o.Shows doc := by
  rintro ⟨-, hescaped, -⟩
  cases hescaped.symm.trans h.2.2

theorem Breaks.not_refuses {o : Outcome} {f : Failure} (h : o.Breaks f) (doc : Json) :
    ¬o.Refuses doc := by
  rintro ⟨-, hescaped, -⟩
  cases hescaped.symm.trans h.2.2

end Outcome

namespace Invocation

variable {s : Settings} {t : Traced Report} {r : Report}

/-- The text of a document is shown as it is. -/
theorem dropSequences_document (doc : Json) :
    (Json.write doc ++ "\n").dropSequences = Json.write doc ++ "\n" :=
  Text.dropSequences_of_notMem (List.not_mem_append (Json.notMem_writeAt 0 doc) (by decide))

/-- The text of a document with the line feed behind it is read as the document. -/
theorem read_document {doc : Json} (h : doc.IsReadable) :
    Json.read (Text.chars (Json.write doc ++ "\n")) = .ok doc := by
  rw [Text.chars_append]
  exact Json.read_write h (List.forall_mem_singleton.mpr rfl)

/-- A failure ends a run. -/
theorem conclude_of_error (i : Invocation) {f : Failure} (h : t.result = .error f) :
    (i.conclude s t).Breaks f := by
  unfold conclude
  rw [h]
  exact ⟨rfl, rfl, rfl⟩

/-- A report whose document holds a lone surrogate ends a run. -/
theorem conclude_of_surrogates (i : Invocation) {fault : Utf8.EncodeFault} (hjson : s.jsonOutput)
    (hr : t.result = .ok r) (hfault : r.toJson.surrogates? = some fault) :
    (i.conclude s t).Breaks (.report fault) := by
  have hrender : r.fault? ⟨s.jsonOutput, s.verbose⟩ = some (.report fault) := by
    rw [Report.fault?, if_pos hjson, hfault]
    rfl
  unfold conclude
  simp only [hr, hrender]
  exact ⟨rfl, rfl, rfl⟩

/-- Any other report is shown as a document. -/
theorem conclude_of_whole (i : Invocation) (hjson : s.jsonOutput) (hr : t.result = .ok r)
    (hwhole : r.toJson.surrogates? = none) :
    if r.ok then (i.conclude s t).Shows r.toJson else (i.conclude s t).Refuses r.toJson := by
  have hrender : r.fault? ⟨s.jsonOutput, s.verbose⟩ = none := by
    rw [Report.fault?, if_pos hjson, hwhole]
    rfl
  have htext : r.render ⟨s.jsonOutput, s.verbose⟩ = Json.write r.toJson := by
    rw [Report.render, if_pos hjson]
  -- A whole text without escapes is shown unchanged on both outputs.
  have hdocument : (Json.write r.toJson ++ "\n").IsWhole :=
    Text.isWhole_append_iff.mpr ⟨(Json.isWhole_writeAt_iff 0 _).mpr hwhole, Text.isWhole_ofString _⟩
  unfold conclude
  simp only [hr, hrender, htext, dropSequences_document,
    Utf8.firstSurrogates_eq_none_iff.mpr hdocument, Text.spelled_of_isWhole hdocument]
  split
  · exact ⟨rfl, rfl, rfl, hdocument⟩
  · exact ⟨rfl, rfl, rfl, List.suffix_append _ _⟩

end Invocation

end StyleImport
