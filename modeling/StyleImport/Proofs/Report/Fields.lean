import StyleImport.Proofs.Report.Verbatim

/-!
# Fields of a report

What a report tells besides its blocks: the outcome, and what was found or what is wrong. All of it
is shown in lines of the width of a report, and nothing else is, as long as no word of it starts
with a joiner or a selector. Where one does, a character that fits can still be cut off.

## Main definitions

- `Report.paragraphs`: the texts that are broken into lines.
- `Report.told`: what a report tells, without the layout.
- `Report.ShowsTold`: a report shows what it tells.

## Main statements

- `Report.render_shows_told`: a report whose words do not start in this way shows what it tells.
- `Report.fullReference_not_shown`: a report with such a word need not.
-/

namespace StyleImport

namespace Report

variable {style : Style} {r : Report}

/-- What a report says is wrong. -/
def message (r : Report) : Text :=
  match r.error with
  | some t => t.message
  | none => "Unknown error"

/-- What belongs to what is wrong. -/
def detail (r : Report) : List (Text × Json) :=
  match r.error with
  | some t => t.detail
  | none => []

/-- Tells whether one of the things found has a line of its own. -/
def hasLine (field : Text × Json) : Bool := !blockNames.contains field.1 && !isNull field.2

/-- The line for a name and a value, with blanks before it. -/
def entryLine (indent : Text) (field : Text × Json) : Text :=
  indent ++ field.1 ++ ": " ++ shown field.2

/-- The texts of a report that are broken into lines. -/
def paragraphs (style : Style) (r : Report) : List Text :=
  if r.ok then ("OK   " ++ r.op) :: (r.data.filter hasLine).map (entryLine "  ")
  else
    ("ERROR   " ++ r.op ++ " :  " ++ r.message) ::
      if style.verbose ∧ r.detail ≠ [] then "  detail:" :: r.detail.map (entryLine "    ") else []

/-- The blocks that a report shows. -/
def blocks (style : Style) (r : Report) : Text :=
  if r.ok then blockNames.flatMap (block style r.data) else []

/-- A name and a value. -/
def entry (field : Text × Json) : Text := field.1 ++ ":" ++ shown field.2

/-- What a report tells besides its blocks, without the layout. -/
def told (style : Style) (r : Report) : Text :=
  if r.ok then "OK" ++ r.op ++ (r.data.filter hasLine).flatMap entry
  else
    "ERROR" ++ r.op ++ ":" ++ r.message ++
      if style.verbose ∧ r.detail ≠ [] then "detail:" ++ r.detail.flatMap entry else []

/-! ## The text of the paragraphs -/

theorem fieldLine_eq (field : Text × Json) :
    fieldLine field = if hasLine field then paragraph (entryLine "  " field) else [] := by
  rw [fieldLine]
  by_cases hnone : blockNames.contains field.1 ∨ isNull field.2
  · have hline : ¬hasLine field := by
      rw [hasLine, Bool.and_eq_true, not_and_or]
      simpa using hnone
    rw [if_pos hnone, if_neg hline]
  · have hline : hasLine field := by
      rw [hasLine, Bool.and_eq_true]
      simpa using hnone
    rw [if_neg hnone, if_pos hline]
    rfl

theorem flatMap_fieldLine (data : List (Text × Json)) :
    data.flatMap fieldLine = ((data.filter hasLine).map (entryLine "  ")).flatMap paragraph := by
  induction data with
  | nil => rfl
  | cons field data ih =>
    rw [List.flatMap_cons, ih, fieldLine_eq]
    by_cases hline : hasLine field
    · rw [if_pos hline, List.filter_cons_of_pos hline, List.map_cons, List.flatMap_cons]
    · rw [if_neg hline, List.filter_cons_of_neg hline, List.nil_append]

theorem successText_eq (h : r.ok) :
    successText style r = (r.paragraphs style).flatMap paragraph ++ r.blocks style := by
  rw [paragraphs, blocks, if_pos h, if_pos h, successText, flatMap_fieldLine, List.flatMap_cons]

theorem failureText_eq (h : ¬r.ok) :
    failureText style r = (r.paragraphs style).flatMap paragraph ++ r.blocks style := by
  rw [paragraphs, blocks, if_neg h, if_neg h, List.append_nil, List.flatMap_cons]
  show paragraph ("ERROR   " ++ r.op ++ " :  " ++ r.message) ++
    (if style.verbose ∧ r.detail ≠ [] then paragraph "  detail:" ++ r.detail.flatMap detailLine
      else []) = _
  split
  · rw [List.flatMap_cons, List.flatMap_map]
    rfl
  · rfl

/-- A report for a reader is its paragraphs and its blocks, without the line feeds at the end. -/
theorem render_eq_paragraphs (hjson : style.json = false) :
    r.render style = Text.dropEndWhile (· = .scalar '\n')
      ((r.paragraphs style).flatMap paragraph ++ r.blocks style) := by
  rw [render, if_neg (by simp [hjson])]
  by_cases hok : r.ok
  · rw [if_pos hok, successText_eq hok]
  · rw [if_neg hok, failureText_eq hok]

theorem visible_entryLine {indent : Text} (h : Text.visible indent = []) (field : Text × Json) :
    Text.visible (entryLine indent field) = Text.visible (entry field) := by
  have hcolon : Text.visible ": " = Text.visible ":" := by decide
  simp only [entryLine, entry, Text.visible_append, h, hcolon, List.nil_append]

theorem visible_flatten_entryLine {indent : Text} (h : Text.visible indent = [])
    (fields : List (Text × Json)) :
    Text.visible (fields.map (entryLine indent)).flatten = Text.visible (fields.flatMap entry) := by
  induction fields with
  | nil => rfl
  | cons field fields ih =>
    rw [List.map_cons, List.flatten_cons, List.flatMap_cons, Text.visible_append,
      Text.visible_append, ih, visible_entryLine h]

/-- The paragraphs tell what the report tells. -/
theorem visible_paragraphs (style : Style) (r : Report) :
    Text.visible (r.paragraphs style).flatten = Text.visible (r.told style) := by
  have hok : Text.visible "OK   " = Text.visible "OK" := by decide
  have herror : Text.visible "ERROR   " = Text.visible "ERROR" := by decide
  have hcolon : Text.visible " :  " = Text.visible ":" := by decide
  have hdetail : Text.visible "  detail:" = Text.visible "detail:" := by decide
  rw [paragraphs, told]
  split
  · rw [List.flatten_cons, Text.visible_append, visible_flatten_entryLine (by decide)]
    simp only [Text.visible_append, hok]
  · split
    · have hentries : Text.visible (r.detail.map (entryLine "    ")).flatten =
          Text.visible (r.detail.flatMap entry) := visible_flatten_entryLine (by decide) _
      simp only [List.flatten_cons, Text.visible_append, hentries, herror, hcolon, hdetail,
        List.append_assoc]
    · simp only [List.flatten_cons, Text.visible_append, herror, hcolon, List.flatten_nil]

theorem visible_flatMap_paragraph_sublist (ps : List Text) :
    (Text.visible (ps.flatMap paragraph)).Sublist (Text.visible ps.flatten) := by
  induction ps with
  | nil => exact List.Sublist.refl _
  | cons p ps ih =>
    rw [List.flatMap_cons, List.flatten_cons, Text.visible_append, Text.visible_append, paragraph,
      Text.visible_append_of_isBlank _ (by decide)]
    exact (Text.visible_wrap_sublist width p).append ih

theorem visible_flatMap_paragraph {ps : List Text} (h : ∀ p ∈ ps, p.IsSteady) :
    Text.visible (ps.flatMap paragraph) = Text.visible ps.flatten := by
  induction ps with
  | nil => rfl
  | cons p ps ih =>
    rw [List.forall_mem_cons] at h
    rw [List.flatMap_cons, List.flatten_cons, Text.visible_append, Text.visible_append, paragraph,
      Text.visible_append_of_isBlank _ (by decide), Text.visible_wrap (by decide) h.1, ih h.2]

/-- Behind each paragraph a new line starts. -/
theorem split_flatMap_paragraph (ps : List Text) :
    Text.split (.scalar '\n') (ps.flatMap paragraph) =
      ps.flatMap (fun p => Text.split (.scalar '\n') (Text.wrap width p)) ++ [[]] := by
  induction ps with
  | nil => rfl
  | cons p ps ih =>
    have hparagraph : paragraph p = Text.wrap width p ++ [.scalar '\n'] := rfl
    rw [List.flatMap_cons, List.flatMap_cons, hparagraph, List.append_assoc, List.singleton_append,
      Text.split_append_sep, ih, List.append_assoc]

theorem cellWidth_le_of_mem_split {ps : List Text} (h : ∀ p ∈ ps, p.IsSteady) :
    ∀ line ∈ Text.split (.scalar '\n') (ps.flatMap paragraph), line.cellWidth ≤ width := by
  rw [split_flatMap_paragraph]
  intro line hline
  obtain hline | hline := List.mem_append.mp hline
  · obtain ⟨p, hp, hline⟩ := List.mem_flatMap.mp hline
    exact Text.cellWidth_le_of_isSteady (by decide) (h p hp) line hline
  · rw [List.mem_singleton.mp hline]
    exact Nat.zero_le _

/-! ## What is shown -/

/-- Before the blocks stand the paragraphs. Only if the blocks are nothing but line feeds, the line
feeds at the end of the paragraphs are taken away. -/
theorem exists_render_eq (hjson : style.json = false) :
    ∃ part feeds, r.render style = part ++ Text.dropEndWhile (· = .scalar '\n') (r.blocks style) ∧
      (r.paragraphs style).flatMap paragraph = part ++ feeds ∧ ∀ c ∈ feeds, c = .scalar '\n' := by
  rw [render_eq_paragraphs hjson]
  generalize (r.paragraphs style).flatMap paragraph = t
  by_cases hfeeds : ∀ c ∈ r.blocks style, c = .scalar '\n'
  · have hall : ∀ c ∈ r.blocks style, decide (c = .scalar '\n') :=
      fun c hc => decide_eq_true (hfeeds c hc)
    have hnil : Text.dropEndWhile (· = .scalar '\n') (r.blocks style) = [] :=
      List.rdropWhile_eq_nil_iff.mpr hall
    refine ⟨Text.dropEndWhile (· = .scalar '\n') t, t.rtakeWhile (· = .scalar '\n'), ?_, ?_, ?_⟩
    · rw [hnil, List.append_nil, Text.dropEndWhile_append_of_forall t hall]
    · exact List.rdropWhile_append_rtakeWhile.symm
    · intro c hc
      have hfeed := List.mem_rtakeWhile_imp hc
      exact of_decide_eq_true hfeed
  · simp only [not_forall, exists_prop] at hfeeds
    obtain ⟨c, hc, hne⟩ := hfeeds
    refine ⟨t, [], Text.dropEndWhile_append_of_exists t ⟨c, hc, by simpa using hne⟩, ?_, nofun⟩
    rw [List.append_nil]

/-- A part of a text that only line feeds stand behind has lines of the text only. -/
theorem mem_split_append {part feeds line : Text} (h : ∀ c ∈ feeds, c = .scalar '\n')
    (hline : line ∈ Text.split (.scalar '\n') part) :
    line ∈ Text.split (.scalar '\n') (part ++ feeds) := by
  cases feeds with
  | nil => rwa [List.append_nil]
  | cons c feeds =>
    rw [h c List.mem_cons_self, Text.split_append_sep]
    exact List.mem_append_left _ hline

/-- The text of a report is the blocks behind a part that shows what the report tells, all of it and
nothing else, in lines of the width of a report. Line feeds at the end of the text are taken
away. -/
def ShowsTold (style : Style) (r : Report) : Prop :=
  ∃ part, r.render style = part ++ Text.dropEndWhile (· = .scalar '\n') (r.blocks style) ∧
    (∀ line ∈ Text.split (.scalar '\n') part, line.cellWidth ≤ width) ∧
      Text.visible part = Text.visible (r.told style)

/-- A report for a reader shows what it tells if no word of it starts with a joiner or a selector.
Whatever the words are, what stands before the blocks is told by the report. -/
theorem render_shows_told (hjson : style.json = false) :
    (∃ part, r.render style = part ++ Text.dropEndWhile (· = .scalar '\n') (r.blocks style) ∧
      (Text.visible part).Sublist (Text.visible (r.told style))) ∧
    ((∀ p ∈ r.paragraphs style, p.IsSteady) → r.ShowsTold style) := by
  obtain ⟨part, feeds, hrender, hparagraphs, hfeeds⟩ := exists_render_eq (r := r) hjson
  have hblank : ∀ c ∈ feeds, c.isBlank := by
    intro c hc
    rw [hfeeds c hc]
    decide
  have hvisible : Text.visible part = Text.visible ((r.paragraphs style).flatMap paragraph) := by
    rw [hparagraphs, Text.visible_append_of_isBlank part hblank]
  constructor
  · refine ⟨part, hrender, ?_⟩
    rw [hvisible, ← visible_paragraphs]
    exact visible_flatMap_paragraph_sublist _
  · intro hsteady
    refine ⟨part, hrender, fun line hline => ?_, ?_⟩
    · refine cellWidth_le_of_mem_split hsteady line ?_
      rw [hparagraphs]
      exact mem_split_append hfeeds hline
    · rw [hvisible, visible_flatMap_paragraph hsteady, visible_paragraphs]

/-- The report of what a reference leads to. -/
def referenceReport (reference : Text) : Report :=
  .success "resolve" [("reference", .text reference), ("target", .null)] []

/-- A reference with joined pictures, wide characters, a tab, a line feed and a long word. -/
def mixedReference : Text :=
  Text.ofString "👩‍💻 ❤️ 日本語\tone\ntwo\x07 " ++ List.replicate 300 (.scalar '語')

theorem mixedReference_shown : usual.json = false ∧
    (∀ p ∈ (referenceReport mixedReference).paragraphs usual, p.IsSteady) ∧
    (referenceReport mixedReference).ShowsTold usual := by
  have hsteady : ∀ p ∈ (referenceReport mixedReference).paragraphs usual, p.IsSteady := by
    decide +kernel
  exact ⟨rfl, hsteady, (render_shows_told rfl).2 hsteady⟩

/-- A reference that leaves its line just full: a heart, a blank that fills no cell, a selector, and
as many letters as there is room for. -/
def fullReference : Text := Text.ofString "❤\x1c\ufe0f" ++ List.replicate 106 (.scalar 'a')

/-- The selector starts a word, so the word is measured without the heart. In the line it widens the
heart, and the last letter is cut off. -/
theorem fullReference_not_shown :
    usual.json = false ∧ ¬(referenceReport fullReference).ShowsTold usual := by
  have hblocks : Text.dropEndWhile (· = .scalar '\n')
      ((referenceReport fullReference).blocks usual) = [] := by
    decide +kernel
  refine ⟨rfl, ?_⟩
  rintro ⟨part, hrender, -, hvisible⟩
  rw [hblocks, List.append_nil] at hrender
  rw [← hrender] at hvisible
  exact absurd (congrArg List.length hvisible) (by decide +kernel)

end Report

end StyleImport
