import StyleImport.Operation
import StyleImport.Proofs.Declarations.Tree
import StyleImport.Proofs.Effect
import StyleImport.Proofs.Text.Lines

/-!
# The number of declarations

The report on declarations counts the lines of their text. Each declaration starts a new line, but a
text is written as it stands, so a line boundary in it starts a further line. Numbers, dates, bytes
and sets are written without line boundaries.

## Main definitions

- `Declarations.writesOneLine`: the values that are written on one line.

## Main statements

- `Declarations.isOneLine_literal`: the literals without line boundaries.
- `Declarations.lineCount_ofEntries_eq_iff`: when each declaration is one line.
- `Operation.count_eq_iff`: when the count in a report is the number of declarations.
-/

namespace StyleImport

open Text (isOneLine isOneLine_append isOneLine_cons isOneLine_ofNat isOneLine_ofInt
  isOneLine_ofNatPadded isOneLine_join)

/-! ## Forms of values -/

namespace Declarations

theorem isOneLine_ofChars {cs : List Char} (h : ∀ c ∈ cs, inNumeral c) :
    isOneLine (Text.ofChars cs) := by
  have hall : ∀ n ∈ lineBoundaryNumbers, ¬inNumeral (Char.ofNat n) := by decide
  rw [Text.isOneLine_iff]
  rintro _ hc hends
  obtain ⟨c, hmem, rfl⟩ := List.mem_map.mp hc
  refine hall c.toNat (List.contains_iff_mem.mp hends) ?_
  rw [Char.ofNat_toNat]
  exact h c hmem

theorem isOneLine_double (x : Double) : isOneLine x.toText := by
  cases x with
  | nan => decide
  | infinite negative => cases negative <;> decide
  | finite negative mantissa exponent =>
    -- The sign is put before the size, which is zero or the shortest decimal.
    have hsize : ∀ size : Text, isOneLine size →
        isOneLine (if negative then CodePoint.scalar '-' :: size else size) := by
      intro size h
      cases negative with
      | true =>
        rw [if_pos rfl, isOneLine_cons, h]
        rfl
      | false => exact h
    apply hsize
    split
    · decide
    · obtain ⟨cs, htext, -, hcs⟩ := decimal_toText (Double.shortest mantissa exponent)
      rw [htext]
      exact isOneLine_ofChars hcs

end Declarations

namespace Moment

theorem isOneLine_dateText (d : Date) : isOneLine (dateText d) := by
  simp only [dateText, isOneLine_append, isOneLine_ofNatPadded, Bool.true_and, Bool.and_true]
  decide

theorem isOneLine_timeText (t : Time) : isOneLine (timeText t) := by
  unfold timeText
  split_ifs <;>
    simp only [isOneLine_append, isOneLine_cons, isOneLine_ofNatPadded, Bool.true_and,
      Bool.and_true] <;> decide

theorem isOneLine_offsetText (offset : Int) : isOneLine (offsetText offset) := by
  unfold offsetText
  dsimp only
  split_ifs <;>
    simp only [isOneLine_append, isOneLine_cons, isOneLine_ofNatPadded, Bool.and_true] <;> decide

/-- The text of a date or time ends no line. -/
theorem isOneLine_toText (m : Moment) : isOneLine m.toText := by
  have hblank : isOneLine " " := by decide
  rcases m with d | t | ⟨d, t, - | offset⟩
  · exact isOneLine_dateText d
  · exact isOneLine_timeText t
  · simp [toText, isOneLine_dateText, isOneLine_timeText, hblank]
  · simp [toText, isOneLine_dateText, isOneLine_timeText, isOneLine_offsetText, hblank]

theorem isOneLine_numbers (ns : List Nat) : isOneLine (Text.join ", " (ns.map Text.ofNat)) := by
  have hsep : isOneLine ", " := by decide
  simp [isOneLine_join hsep, isOneLine_ofNat]

theorem isOneLine_spanText (seconds : Int) : isOneLine (spanText seconds) := by
  have hsep : isOneLine ", " := by decide
  have hdays : isOneLine "days=" := by decide
  have hseconds : isOneLine "seconds=" := by decide
  have hparts : isOneLine "datetime.timedelta(" ∧ isOneLine "0" ∧ isOneLine ")" := by decide
  unfold spanText
  dsimp only
  split_ifs <;> simp [isOneLine_join hsep, hdays, hseconds, hparts, isOneLine_ofInt]

theorem isOneLine_quotedOffset (offset : Offset) : isOneLine (quotedOffset offset) := by
  have hparts : isOneLine "datetime.timezone(" ∧ isOneLine ", " ∧ isOneLine ")" := by decide
  unfold quotedOffset
  split
  · simp [hparts, isOneLine_spanText, Text.isOneLine_quoted]
  · split_ifs
    · decide
    · simp [hparts, isOneLine_spanText]

theorem isOneLine_quoted (m : Moment) : isOneLine m.quoted := by
  have hparts : isOneLine "datetime.date(" ∧ isOneLine "datetime.time(" ∧
      isOneLine "datetime.datetime(" ∧ isOneLine ", tzinfo=" ∧ isOneLine ")" := by decide
  have hempty : isOneLine "" := rfl
  rcases m with d | t | ⟨d, t, - | offset⟩ <;>
    simp only [quoted, isOneLine_append, isOneLine_numbers, isOneLine_quotedOffset, hparts, hempty,
      Bool.and_true]

end Moment

namespace Value

theorem isOneLine_quotedBytes (bs : List UInt8) : isOneLine (quotedBytes bs) := by
  have hmark : ¬CodePoint.isLineBoundary (.scalar 'b') := by decide
  unfold quotedBytes
  dsimp only
  -- Which quote is taken depends on the bytes, but none of them ends a line.
  generalize bs.map (fun b => CodePoint.scalar (Char.ofNat b.toNat)) = chars
  have hquote := Text.not_isLineBoundary_quoteMark chars
  have hpoints : isOneLine (chars.flatMap fun c =>
      if c.toNat < 0x7f then c.quotedBetween (Text.quoteMark chars) else c.numericEscape) := by
    refine Text.isOneLine_flatMap (fun c => ?_) chars
    split
    · exact Text.isOneLine_quotedBetween hquote c
    · exact Text.isOneLine_numericEscape c
  simp [hmark, hquote, hpoints]

mutual

/-- The form of a value inside another one ends no line: texts are quoted. -/
theorem isOneLine_quoted (v : Value) : isOneLine v.quoted := by
  have hsep : isOneLine ", " := by decide
  match v with
  | null => decide
  | bool true => decide
  | bool false => decide
  | int n => exact isOneLine_ofInt n
  | double x => exact Declarations.isOneLine_double x
  | text t => exact Text.isOneLine_quoted t
  | moment m => exact m.isOneLine_quoted
  | bytes bs => exact isOneLine_quotedBytes bs
  | list items =>
    have hmarks : isOneLine "[" ∧ isOneLine "]" := by decide
    simp [quoted, isOneLine_join hsep, allOneLine_quotedItems items, hmarks]
  | tuple [] => decide
  | tuple [item] =>
    have hmarks : isOneLine "(" ∧ isOneLine ",)" := by decide
    simp [quoted, isOneLine_quoted item, hmarks]
  | tuple (first :: second :: rest) =>
    have hmarks : isOneLine "(" ∧ isOneLine ")" := by decide
    simp [quoted, isOneLine_join hsep, allOneLine_quotedItems (first :: second :: rest), hmarks]
  | set [] => decide
  | set (item :: rest) =>
    have hmarks : isOneLine "\x7b" ∧ isOneLine "\x7d" := by decide
    simp [quoted, isOneLine_join hsep, allOneLine_quotedItems (item :: rest), hmarks]
  | map entries =>
    have hmarks : isOneLine "\x7b" ∧ isOneLine "\x7d" := by decide
    simp [quoted, isOneLine_join hsep, allOneLine_quotedEntries entries, hmarks]
  | circle => decide

theorem allOneLine_quotedItems (items : List Value) : (quotedItems items).all isOneLine := by
  match items with
  | [] => rfl
  | v :: vs =>
    rw [quotedItems, List.all_cons, isOneLine_quoted v, allOneLine_quotedItems vs]
    rfl

theorem allOneLine_quotedEntries (entries : List (Value × Value)) :
    (quotedEntries entries).all isOneLine := by
  have hsep : isOneLine ": " := by decide
  match entries with
  | [] => rfl
  | (key, v) :: rest =>
    rw [quotedEntries, List.all_cons, isOneLine_append, isOneLine_append, isOneLine_quoted key,
      isOneLine_quoted v, hsep, allOneLine_quotedEntries rest]
    rfl

end

/-- What is displayed ends no line, unless it is a text. -/
theorem isOneLine_display {v : Value} (h : ∀ t, v ≠ .text t) : isOneLine v.display := by
  cases v with
  | text t => exact absurd rfl (h t)
  | moment m => exact m.isOneLine_toText
  | _ => exact isOneLine_quoted _

end Value

/-! ## Literals -/

namespace Declarations

variable {entries : List (Value × Value)}

/-- Tells whether a key is displayed on one line. -/
def keyOneLine : Value → Bool
  | .text t => isOneLine t
  | _ => true

mutual

/-- Tells whether a value is written on one line: no text and no text key of it that is written
holds a line boundary. -/
def writesOneLine : Value → Bool
  | .text t => isOneLine t
  | .list items => itemsWriteOneLine items
  | .tuple items => itemsWriteOneLine items
  | .map entries => entriesWriteOneLine entries
  | _ => true

/-- Tells whether all items of a list are written on one line. -/
def itemsWriteOneLine : List Value → Bool
  | [] => true
  | v :: vs => writesOneLine v && itemsWriteOneLine vs

/-- Tells whether all entries of a mapping that are written are written on one line. -/
def entriesWriteOneLine : List (Value × Value) → Bool
  | [] => true
  | (key, v) :: rest =>
    (!keyAllowed key || keyOneLine key && writesOneLine v) && entriesWriteOneLine rest

end

theorem isOneLine_display (key : Value) : isOneLine key.display = keyOneLine key := by
  cases key with
  | text t => rfl
  | _ => exact Value.isOneLine_display nofun

theorem isOneLine_scalarLiteral {v : Value}
    (hscalar : ¬v matches .list _ | .tuple _ | .map _) :
    isOneLine (scalarLiteral v) = writesOneLine v := by
  cases v with
  | null => rfl
  | bool b => cases b <;> rfl
  | double x =>
    simp only [scalarLiteral]
    split
    · exact isOneLine_ofInt _
    · exact isOneLine_double x
  | text t => cases t <;> rfl
  | int n => exact isOneLine_ofInt n
  | moment m => exact m.isOneLine_toText
  | bytes bs => exact Value.isOneLine_quotedBytes bs
  | set items => exact Value.isOneLine_quoted (.set items)
  | circle => rfl
  | list items => exact absurd rfl hscalar
  | tuple items => exact absurd rfl hscalar
  | map entries => exact absurd rfl hscalar

mutual

/-- A literal ends no line just if its value is written on one line. -/
theorem isOneLine_literal (v : Value) : isOneLine (literal v) = writesOneLine v := by
  have hsep : isOneLine "," := by decide
  have hmarks : isOneLine "(" ∧ isOneLine ")" := by decide
  match v with
  | .list items =>
    simp [literal, writesOneLine, isOneLine_join hsep, hmarks, all_itemLiterals items]
  | .tuple items =>
    simp [literal, writesOneLine, isOneLine_join hsep, hmarks, all_itemLiterals items]
  | .map entries =>
    simp [literal, writesOneLine, isOneLine_join hsep, hmarks, all_entryLiterals entries]
  | .null | .bool _ | .int _ | .double _ | .text _ | .moment _ | .bytes _ | .set _ | .circle =>
    rw [literal, isOneLine_scalarLiteral] <;> nofun

theorem all_itemLiterals (items : List Value) :
    (itemLiterals items).all isOneLine = itemsWriteOneLine items := by
  match items with
  | [] => rfl
  | v :: vs =>
    rw [itemLiterals, itemsWriteOneLine, List.all_cons, isOneLine_literal v, all_itemLiterals vs]

theorem all_entryLiterals (entries : List (Value × Value)) :
    (entryLiterals entries).all isOneLine = entriesWriteOneLine entries := by
  have hsep : isOneLine ": " := by decide
  match entries with
  | [] => rfl
  | (key, v) :: rest =>
    rw [entryLiterals, entriesWriteOneLine, ← all_entryLiterals rest]
    by_cases hkey : keyAllowed key
    · rw [if_pos hkey, List.all_cons, isOneLine_append, isOneLine_append, isOneLine_display,
        isOneLine_literal v, hsep, hkey]
      simp
    · rw [if_neg hkey]
      simp [hkey]

end

/-! ## Counting declarations -/

/-- Tells whether the declaration of an entry is one line. -/
def declaresOneLine (entry : Value × Value) : Bool :=
  keyOneLine entry.1 && writesOneLine entry.2

/-- A declaration ends in a semicolon, and what stands before it ends no line just if key and value
are written on one line. -/
theorem exists_declaration_eq (entry : Value × Value) :
    ∃ p, declaration entry = p ++ [.scalar ';'] ∧ isOneLine p = declaresOneLine entry := by
  have hparts : isOneLine ": " ∧ ¬CodePoint.isLineBoundary (.scalar '$') := by decide
  refine ⟨.scalar '$' :: entry.1.display ++ ": " ++ literal entry.2, rfl, ?_⟩
  simp [declaresOneLine, isOneLine_display, isOneLine_literal, hparts]

theorem not_isLineBoundary_semicolon : ¬CodePoint.isLineBoundary (.scalar ';') := by decide

theorem one_le_lineCount_declaration (entry : Value × Value) :
    1 ≤ (declaration entry).lineCount := Text.one_le_lineCount (by simp [declaration])

theorem lineCount_declaration_eq_one_iff (entry : Value × Value) :
    (declaration entry).lineCount = 1 ↔ declaresOneLine entry := by
  obtain ⟨p, heq, hp⟩ := exists_declaration_eq entry
  rw [heq, Text.lineCount_concat_eq_one_iff not_isLineBoundary_semicolon, hp]

/-- The lines of the declarations of a root mapping are those of each of them. -/
theorem lineCount_ofEntries (entries : List (Value × Value)) :
    (ofEntries entries).lineCount =
      ((entries.filter emitted).map fun e => (declaration e).lineCount).sum := by
  have hends : ∀ piece ∈ (entries.filter emitted).map declaration,
      ∃ p last, piece = p ++ [last] ∧ ¬last.isLineBoundary := by
    refine List.forall_mem_map.mpr fun e _ => ?_
    obtain ⟨p, heq, -⟩ := exists_declaration_eq e
    exact ⟨p, _, heq, not_isLineBoundary_semicolon⟩
  rw [ofEntries, Text.lineCount_join hends, List.map_map]
  rfl

/-- Numbers of which each is one at least add up to as many as they are just if each is one. -/
theorem sum_eq_length_iff {α : Type} {f : α → Nat} (h : ∀ x, 1 ≤ f x) (xs : List α) :
    xs.length ≤ (xs.map f).sum ∧ ((xs.map f).sum = xs.length ↔ ∀ x ∈ xs, f x = 1) := by
  induction xs with
  | nil => simp
  | cons x rest ih =>
    have hx := h x
    obtain ⟨hle, hiff⟩ := ih
    rw [List.map_cons, List.sum_cons, List.length_cons, List.forall_mem_cons, ← hiff]
    omega

/-- The declarations of a root mapping have as many lines as there are declarations just if each
key and each value is written on one line. They never have fewer. -/
theorem lineCount_ofEntries_eq_iff (entries : List (Value × Value)) :
    (entries.filter emitted).length ≤ (ofEntries entries).lineCount ∧
      ((ofEntries entries).lineCount = (entries.filter emitted).length ↔
        ∀ e ∈ entries, emitted e → declaresOneLine e) := by
  obtain ⟨hle, hiff⟩ := sum_eq_length_iff one_le_lineCount_declaration (entries.filter emitted)
  rw [lineCount_ofEntries]
  refine ⟨hle, hiff.trans ?_⟩
  simp only [lineCount_declaration_eq_one_iff, List.mem_filter, and_imp]

theorem ofEntries_of_render {text : Text} (h : render entries = .ok text) :
    text = ofEntries entries := by
  unfold render at h
  split at h
  · cases h
    rfl
  · cases h

end Declarations

/-! ## The report -/

namespace Operation

variable {d : Disk} {path : Path} {r : Report}

/-- A report of a success gives the number of lines of the declarations of a manifest. -/
theorem exists_entries_of_ok (h : renderDeclarations path d = .ok r) (hok : r.ok) :
    ∃ entries, Manifest.load d path = .ok entries ∧
      Json.field? "count" r.data = some (.int (Declarations.ofEntries entries).lineCount) := by
  unfold renderDeclarations at h
  dsimp only at h
  split at h
  · next text htext =>
    cases h
    obtain ⟨entries, hload, hrender⟩ := bind_eq_ok_iff.mp
      (show (Manifest.load d path).bind _ = .ok text from htext)
    obtain rfl := Declarations.ofEntries_of_render (mapError_eq_ok_iff.mp hrender)
    exact ⟨entries, hload, rfl⟩
  · cases h
    cases hok
  · cases h
    cases hok
  · cases h

/-- The count in a report of a success is never less than the number of declarations. It is this
number just if no line boundary stands in a key or a text that is written, at whatever depth. -/
theorem count_eq_iff (h : renderDeclarations path d = .ok r) (hok : r.ok) :
    ∃ (entries : List (Value × Value)) (count : Nat),
      Manifest.load d path = .ok entries ∧ Json.field? "count" r.data = some (.int count) ∧
      (entries.filter Declarations.emitted).length ≤ count ∧
      (count = (entries.filter Declarations.emitted).length ↔
        ∀ e ∈ entries, Declarations.emitted e →
          Declarations.keyOneLine e.1 ∧ Declarations.writesOneLine e.2) := by
  obtain ⟨entries, hload, hcount⟩ := exists_entries_of_ok h hok
  obtain ⟨hle, hiff⟩ := Declarations.lineCount_ofEntries_eq_iff entries
  refine ⟨entries, _, hload, hcount, hle, hiff.trans ?_⟩
  simp only [Declarations.declaresOneLine, Bool.and_eq_true]

/-! ## A text of two lines -/

/-- A disk with two manifests, `{"a":"b"}` and, with an escaped line feed, `{"a":"x\ny"}`. -/
def linesDisk : Disk where
  entries := [(["t.json"], .file [123, 34, 97, 34, 58, 34, 98, 34, 125]),
    (["u.json"], .file [123, 34, 97, 34, 58, 34, 120, 92, 110, 121, 34, 125])]
  workingDirectory := some []

/-- The report on declarations that have so many lines. -/
def linesReport (manifest declarations : Text) (count : Nat) : Report :=
  .success "declarations"
    [("manifest", .text manifest), ("count", .int count), ("declarations", .text declarations)] []

/-- One declaration on one line is counted as one. -/
theorem count_single_line :
    renderDeclarations (.ofText "/t.json") linesDisk =
        .ok (linesReport "/t.json" "$a: b;" 1) ∧
      (linesReport "/t.json" "$a: b;" 1).ok ∧
      ∃ (entries : List (Value × Value)) (count : Nat),
        Manifest.load linesDisk (.ofText "/t.json") = .ok entries ∧
        Json.field? "count" (linesReport "/t.json" "$a: b;" 1).data = some (.int count) ∧
        count = (entries.filter Declarations.emitted).length := by
  have hreport : renderDeclarations (.ofText "/t.json") linesDisk =
      .ok (linesReport "/t.json" "$a: b;" 1) := by cbv
  have hload : Manifest.load linesDisk (.ofText "/t.json") =
      .ok [(.text "a", .text "b")] := by cbv
  obtain ⟨entries, count, hentries, hcount, -, hiff⟩ := count_eq_iff hreport rfl
  refine ⟨hreport, rfl, entries, count, hentries, hcount, hiff.mpr ?_⟩
  cases hload.symm.trans hentries
  decide

/-- One declaration on two lines is counted as two. -/
theorem count_two_lines :
    renderDeclarations (.ofText "/u.json") linesDisk =
        .ok (linesReport "/u.json" "$a: x\ny;" 2) ∧
      Manifest.load linesDisk (.ofText "/u.json") = .ok [(.text "a", .text "x\ny")] ∧
      ([(.text "a", .text "x\ny")].filter Declarations.emitted).length = 1 ∧
      Json.field? "count" (linesReport "/u.json" "$a: x\ny;" 2).data = some (.int 2) :=
  ⟨by cbv, by cbv, rfl, rfl⟩

end Operation

end StyleImport
