import StyleImport.Proofs.CommandLine.Documents

/-!
# Reading rendered reports

A report that is shown as a document can be read again: the text holds each of its parts, and the
fields of its data and of its detail in their order. So two reports that can be read again never
have the same text.

## Main definitions

- `Report.IsReadable`: the reports that can be read again.
- `Report.nestedReport`: one of them.

## Main statements

- `Report.ofJson?_toJson`: a report is known from its document.
- `Report.IsReadable.fault?_eq_none`: nothing keeps such a report from being rendered.
- `Report.read_render`: it is read from its text.
-/

namespace StyleImport

/-! ## Documents without lone surrogates -/

namespace Json

mutual

/-- No surrogate stands alone in a document that can be read again. -/
theorem surrogates?_of_isReadable {v : Json} (h : IsReadable v) : surrogates? v = none := by
  match v with
  | null => rfl
  | bool _ => rfl
  | int _ => rfl
  | double _ => exact h.elim
  | text _ => exact Utf8.firstSurrogates_eq_none_iff.mpr h
  | array items => exact surrogatesOfItems?_of_itemsReadable h
  | object fields => exact surrogatesOfFields?_of_fieldsReadable h.2

theorem surrogatesOfItems?_of_itemsReadable {items : List Json} (h : ItemsReadable items) :
    surrogatesOfItems? items = none := by
  match items with
  | [] => rfl
  | v :: vs =>
    rw [surrogatesOfItems?, surrogates?_of_isReadable h.1, surrogatesOfItems?_of_itemsReadable h.2]
    rfl

theorem surrogatesOfFields?_of_fieldsReadable {fields : List (Text × Json)}
    (h : FieldsReadable fields) : surrogatesOfFields? fields = none := by
  match fields with
  | [] => rfl
  | (name, v) :: rest =>
    rw [surrogatesOfFields?, Utf8.firstSurrogates_eq_none_iff.mpr h.1,
      surrogates?_of_isReadable h.2.1, surrogatesOfFields?_of_fieldsReadable h.2.2]
    rfl

end

/-- The text of a document that can be read again is one of characters, from which it is read. -/
theorem read_toChars?_write {v : Json} (h : IsReadable v) :
    ∃ cs, (write v).toChars? = some cs ∧ read cs = .ok v := by
  have hwhole : (write v).IsWhole :=
    (isWhole_writeAt_iff 0 v).mpr (surrogates?_of_isReadable h)
  refine ⟨Text.chars (write v), Text.toChars?_of_isWhole hwhole, ?_⟩
  rw [← List.append_nil (Text.chars (write v))]
  exact read_write h (List.forall_mem_nil _)

end Json

namespace Report

variable {r : Report} {style : Style}

/-! ## Reports and their documents -/

theorem mapM_text? (ts : List Text) : (ts.map Json.text).mapM text? = some ts := by
  induction ts with
  | nil => rfl
  | cons t ts ih =>
    rw [List.map_cons, List.mapM_cons, ih]
    rfl

theorem trouble?_troubleJson (error : Option Trouble) :
    trouble? (some (troubleJson error)) = some error := by
  cases error with
  | none => rfl
  | some t => rfl

/-- A report is known from its document. -/
theorem ofJson?_toJson (r : Report) : ofJson? r.toJson = some r := by
  have hwarnings : texts? (some (.array (r.warnings.map .text))) = some r.warnings :=
    mapM_text? r.warnings
  have herror : trouble? (some (troubleJson r.error)) = some r.error :=
    trouble?_troubleJson r.error
  have hfields : ofJson? r.toJson = (do
      let warnings ← texts? (some (.array (r.warnings.map .text)))
      let error ← trouble? (some (troubleJson r.error))
      return ⟨r.ok, r.op, r.data, warnings, error⟩) := rfl
  rw [hfields, hwarnings, herror]
  rfl

theorem toJson_injective : Function.Injective toJson := by
  intro r s h
  have hread : some r = some s := by rw [← ofJson?_toJson r, ← ofJson?_toJson s, h]
  exact Option.some.inj hread

/-! ## Reports that can be read again -/

/-- A report can be read again: no surrogate stands alone in its texts, its data and its detail hold
no floating-point numbers and no integer of too many digits, and the fields of an object have
distinct names. -/
structure IsReadable (r : Report) : Prop where
  /-- The name of the command. -/
  op : r.op.IsWhole
  /-- What the command found. -/
  data : Json.IsReadable (.object r.data)
  /-- What the user should know besides. -/
  warnings : ∀ t ∈ r.warnings, t.IsWhole
  /-- Why the command failed. -/
  error : ∀ t ∈ r.error, t.code.IsWhole ∧ t.message.IsWhole ∧ Json.IsReadable (.object t.detail)

theorem isReadable_troubleJson {error : Option Trouble}
    (h : ∀ t ∈ error, t.code.IsWhole ∧ t.message.IsWhole ∧ Json.IsReadable (.object t.detail)) :
    Json.IsReadable (troubleJson error) := by
  cases error with
  | none => trivial
  | some t =>
    obtain ⟨hcode, hmessage, hdetail⟩ := h t rfl
    have hnames : (["code", "message", "detail"].map Text.ofString).Nodup := by decide
    exact ⟨hnames, Text.isWhole_ofString _, hcode, Text.isWhole_ofString _, hmessage,
      Text.isWhole_ofString _, hdetail, trivial⟩

/-- So can its document. -/
theorem IsReadable.toJson (h : r.IsReadable) : Json.IsReadable r.toJson :=
  isReadable_toJson h.op h.data h.warnings (isReadable_troubleJson h.error)

/-- Nothing keeps a report from being rendered that can be read again. -/
theorem IsReadable.fault?_eq_none (h : r.IsReadable) (style : Style) : r.fault? style = none := by
  unfold fault?
  split
  · rw [Json.surrogates?_of_isReadable h.toJson]
    rfl
  · rfl

/-- A report that is rendered as a document is read from its text, and all its parts are known from
the document. So no other report is rendered as this text. -/
theorem read_render (hjson : style.json) (h : r.IsReadable) :
    r.fault? style = none ∧
      (∃ cs, (r.render style).toChars? = some cs ∧ Json.read cs = .ok r.toJson) ∧
      ofJson? r.toJson = some r ∧
      ∀ s : Report, s.IsReadable → s.render style = r.render style → s = r := by
  have hrender (s : Report) : s.render style = Json.write s.toJson := if_pos hjson
  obtain ⟨cs, hcs, hread⟩ := Json.read_toChars?_write h.toJson
  refine ⟨h.fault?_eq_none style, ⟨cs, by rw [hrender, hcs], hread⟩, ofJson?_toJson r, ?_⟩
  intro s hs hsame
  rw [hrender, hrender] at hsame
  -- The other report is read from the same characters.
  obtain ⟨ds, hds, hreadOther⟩ := Json.read_toChars?_write hs.toJson
  obtain rfl : ds = cs := Option.some.inj (by rw [← hds, hsame, hcs])
  exact toJson_injective (Except.ok.inj (by rw [← hreadOther, hread]))

/-- The report of a failure that found nested things under names with a quote and a line end. -/
def nestedReport : Report where
  ok := false
  op := "resolve"
  data := [("b", .array [.int (-5), .object [], .array [], .null]),
    ("a", .object [("\u00e9\"\n", .bool true)])]
  warnings := ["\\"]
  error := some ⟨"ERROR", "message", [("path", .text "/a")]⟩

theorem nestedReport_isReadable : nestedReport.IsReadable := by
  have hfive : (-5 : Int).natAbs < 10 ^ Numeral.digitLimit :=
    (by decide : (-5 : Int).natAbs < 10).trans_le (Nat.le_self_pow (by decide) 10)
  have hempty : Json.IsReadable (.object []) := ⟨List.nodup_nil, trivial⟩
  have htrue : Json.IsReadable (.object [("\u00e9\"\n", .bool true)]) :=
    ⟨by decide, Text.isWhole_ofString _, trivial, trivial⟩
  constructor
  · exact Text.isWhole_ofString _
  · exact ⟨by decide, Text.isWhole_ofString _, ⟨hfive, hempty, trivial, trivial, trivial⟩,
      Text.isWhole_ofString _, htrue, trivial⟩
  · exact List.forall_mem_singleton.mpr (Text.isWhole_ofString _)
  · rintro _ ⟨⟩
    exact ⟨Text.isWhole_ofString _, Text.isWhole_ofString _, by decide, Text.isWhole_ofString _,
      Text.isWhole_ofString _, trivial⟩

theorem read_render_nestedReport :
    nestedReport.IsReadable ∧ nestedReport.fault? ⟨true, false⟩ = none ∧
      (∃ cs, (nestedReport.render ⟨true, false⟩).toChars? = some cs ∧
        Json.read cs = .ok nestedReport.toJson) ∧
      ofJson? nestedReport.toJson = some nestedReport ∧
      ∀ s : Report, s.IsReadable →
        s.render ⟨true, false⟩ = nestedReport.render ⟨true, false⟩ → s = nestedReport :=
  ⟨nestedReport_isReadable, read_render rfl nestedReport_isReadable⟩

end Report

end StyleImport
