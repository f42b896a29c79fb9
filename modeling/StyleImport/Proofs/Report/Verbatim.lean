import StyleImport.Proofs.Text.Wrap
import StyleImport.Report.Render

/-!
# Blocks of a report as they are

Declarations and the text of a file stand in a report so that they can be copied from it. They are
not broken into lines, but the control characters that the terminal acts on do not get through: tabs
become spaces and some others are left out. So a report shows its blocks as they are just if they
hold none of these.

## Main definitions

- `Text.isAltered`: the code points that are not shown as they are.
- `Report.blockText?`: the text of a block.
- `Report.verbatim`: a report with its blocks as they are.

## Main statements

- `Text.unwrapped_eq_self_iff`: which texts are shown as they are.
- `Report.render_eq_verbatim_iff`: which reports show their blocks as they are.
-/

namespace StyleImport

/-! ## Characters that do not get through -/

namespace Text

variable {t : Text}

/-- Tells whether a code point is not shown as it is: a tab, or a control character that is left
out. -/
def isAltered (c : CodePoint) : Bool := c = .scalar '\t' || leftOut.contains c

theorem dropControls_of_forall (h : ∀ c ∈ t, ¬isAltered c) : dropControls t = t := by
  refine List.filter_eq_self.mpr fun c hc => ?_
  have hkept : c ∉ leftOut := fun hmem => h c hc (by simp [isAltered, hmem])
  simpa using hkept

theorem expandTabs_of_notMem (h : .scalar '\t' ∉ t) : expandTabs t = t := by
  rw [expandTabs, split_of_notMem h, expandPieces, List.flatten_singleton]

theorem unwrapped_of_forall (h : ∀ c ∈ t, ¬isAltered c) : unwrapped t = t := by
  have hlines : ∀ line ∈ split (.scalar '\n') t, expandTabs line = id line := fun line hline =>
    expandTabs_of_notMem fun htab => h _ (mem_of_mem_split hline htab) (by decide)
  rw [unwrapped, dropControls_of_forall h, List.map_congr_left hlines, List.map_id]
  exact join_split (.scalar '\n') t

theorem not_isAltered_of_mem_expandPieces (used : Nat) {pieces : List Text}
    (h : ∀ piece ∈ pieces, ∀ c ∈ piece, ¬isAltered c) {c : CodePoint}
    (hc : c ∈ (expandPieces used pieces).flatten) : ¬isAltered c := by
  have hspace : ¬isAltered (.scalar ' ') := by decide
  fun_induction expandPieces used pieces with
  | case1 => simp at hc
  | case2 used piece => exact h piece List.mem_cons_self c (by simpa using hc)
  | case3 used piece rest hrest spaced size missing ih =>
    rw [List.flatten_cons, List.mem_append, List.mem_append, List.mem_append] at hc
    rcases hc with ((hpiece | hend) | hfill) | hbehind
    · exact h piece List.mem_cons_self c hpiece
    · exact List.mem_singleton.mp hend ▸ hspace
    · exact List.eq_of_mem_replicate hfill ▸ hspace
    · exact ih (fun piece hpiece => h piece (List.mem_cons_of_mem _ hpiece)) hbehind

theorem not_isAltered_of_mem_expandTabs (h : ∀ c ∈ t, c ∉ leftOut) {c : CodePoint}
    (hc : c ∈ expandTabs t) : ¬isAltered c := by
  refine not_isAltered_of_mem_expandPieces 0 (fun piece hpiece c hc haltered => ?_) hc
  rcases Bool.or_eq_true_iff.mp haltered with htab | hleft
  · exact notMem_of_mem_split hpiece (of_decide_eq_true htab ▸ hc)
  · exact h c (mem_of_mem_split hpiece hc) (List.contains_iff_mem.mp hleft)

/-- What is shown of a text holds no code point that is not shown as it is. -/
theorem not_isAltered_of_mem_unwrapped {c : CodePoint} (hc : c ∈ unwrapped t) : ¬isAltered c := by
  intro haltered
  refine notMem_join (fun hend => ?_) (fun line hline hmem => ?_) hc
  · exact absurd haltered (List.mem_singleton.mp hend ▸ by decide)
  · obtain ⟨line, hpiece, rfl⟩ := List.mem_map.mp hline
    refine not_isAltered_of_mem_expandTabs (fun c hc => ?_) hmem haltered
    have hkept := (List.mem_filter.mp (mem_of_mem_split hpiece hc)).2
    simpa using hkept

/-- A text is shown as it is just if it holds no tab and no control character that is left out. -/
theorem unwrapped_eq_self_iff : unwrapped t = t ↔ ∀ c ∈ t, ¬isAltered c :=
  ⟨fun h _ hc => not_isAltered_of_mem_unwrapped (h.symm ▸ hc), unwrapped_of_forall⟩

/-- Taking away an ending of code points that are shown as they are keeps the others. -/
theorem countP_dropEndWhile {p : CodePoint → Bool} (hp : ∀ c, p c → ¬isAltered c) (t : Text) :
    (dropEndWhile p t).countP isAltered = t.countP isAltered := by
  have hdropped : (t.reverse.takeWhile p).countP isAltered = 0 :=
    List.countP_eq_zero.mpr fun c hc => hp c (List.mem_takeWhile_imp hc)
  calc (dropEndWhile p t).countP isAltered
      = (t.reverse.takeWhile p).countP isAltered + (t.reverse.dropWhile p).countP isAltered := by
        rw [dropEndWhile, List.countP_reverse, hdropped, Nat.zero_add]
    _ = t.countP isAltered := by
        rw [← List.countP_append, List.takeWhile_append_dropWhile, List.countP_reverse]

end Text

/-! ## Reports with their blocks as they are -/

namespace Report

variable {style : Style} {r : Report}

/-- The text of a block, if the report shows one for this name. -/
def blockText? (style : Style) (data : List (Text × Json)) (name : Text) : Option Text :=
  match Json.field? name data with
  | none => none
  | some v => if isNull v ∨ (name = "contents" ∧ !style.verbose) then none else some (shown v)

/-- A block with its text as it is, below an empty line. -/
def verbatimBlock (style : Style) (data : List (Text × Json)) (name : Text) : Text :=
  match blockText? style data name with
  | none => []
  | some t => "\n" ++ t ++ "\n"

/-- The lines for a success that stand before the blocks. -/
def head (r : Report) : Text := paragraph ("OK   " ++ r.op) ++ r.data.flatMap fieldLine

/-- The text for a success with the blocks as they are. Line feeds at its end are taken away. -/
def verbatim (style : Style) (r : Report) : Text :=
  Text.dropEndWhile (· = .scalar '\n') (r.head ++ blockNames.flatMap (verbatimBlock style r.data))

theorem block_eq (style : Style) (data : List (Text × Json)) (name : Text) :
    block style data name = match blockText? style data name with
      | none => []
      | some t => "\n" ++ Text.unwrapped t ++ "\n" := by
  unfold block blockText?
  cases Json.field? name data with
  | none => rfl
  | some v =>
    dsimp only
    split <;> rfl

theorem countP_framed (t : Text) :
    (Text.ofString "\n" ++ t ++ Text.ofString "\n").countP Text.isAltered =
      t.countP Text.isAltered := by
  have hend : (Text.ofString "\n").countP Text.isAltered = 0 := by decide
  rw [List.countP_append, List.countP_append, hend, Nat.zero_add, Nat.add_zero]

theorem countP_block (style : Style) (data : List (Text × Json)) (name : Text) :
    (block style data name).countP Text.isAltered = 0 := by
  rw [block_eq]
  cases blockText? style data name with
  | none => rfl
  | some t =>
    exact (countP_framed _).trans
      (List.countP_eq_zero.mpr fun c hc => Text.not_isAltered_of_mem_unwrapped hc)

theorem countP_verbatimBlock_eq_zero_iff {data : List (Text × Json)} {name : Text} :
    (verbatimBlock style data name).countP Text.isAltered = 0 ↔
      ∀ t ∈ blockText? style data name, ∀ c ∈ t, ¬Text.isAltered c := by
  unfold verbatimBlock
  cases blockText? style data name with
  | none => exact iff_of_true rfl nofun
  | some t =>
    dsimp only
    rw [countP_framed, List.countP_eq_zero]
    exact ⟨fun h t' ht => Option.some.inj ht ▸ h, fun h => h t rfl⟩

theorem block_eq_verbatimBlock {data : List (Text × Json)} {name : Text}
    (h : ∀ t ∈ blockText? style data name, ∀ c ∈ t, ¬Text.isAltered c) :
    block style data name = verbatimBlock style data name := by
  rw [block_eq, verbatimBlock]
  cases htext : blockText? style data name with
  | none => rfl
  | some t => exact congrArg (Text.ofString "\n" ++ · ++ _) (Text.unwrapped_of_forall (h t htext))

theorem render_of_ok (hjson : style.json = false) (hok : r.ok) :
    r.render style = Text.dropEndWhile (· = .scalar '\n')
      (r.head ++ blockNames.flatMap (block style r.data)) := by
  rw [render, if_neg (by simp [hjson]), if_pos hok, successText, head]

/-- Blocks that are shown as they are hold no tab and no control character that is left out: the
rendered blocks hold none, and the rest of the text is the same. -/
theorem not_isAltered_of_render_eq (hjson : style.json = false) (hok : r.ok)
    (h : r.render style = r.verbatim style) {name : Text} (hname : name ∈ blockNames) :
    ∀ t ∈ blockText? style r.data name, ∀ c ∈ t, ¬Text.isAltered c := by
  have hfeed : ∀ c : CodePoint, decide (c = .scalar '\n') → ¬Text.isAltered c := by
    intro c hc
    rw [of_decide_eq_true hc]
    decide
  have hblocks : (blockNames.flatMap (block style r.data)).countP Text.isAltered = 0 := by
    rw [List.countP_flatMap]
    simp [blockNames, countP_block]
  -- The lines before the blocks are on both sides, whatever they hold, so they are counted and not
  -- looked at.
  have hcount := congrArg (List.countP Text.isAltered) ((render_of_ok hjson hok).symm.trans h)
  rw [verbatim, Text.countP_dropEndWhile hfeed, Text.countP_dropEndWhile hfeed, List.countP_append,
    List.countP_append, hblocks, Nat.add_left_cancel_iff, List.countP_flatMap, eq_comm,
    List.sum_eq_zero_iff] at hcount
  exact countP_verbatimBlock_eq_zero_iff.mp (hcount _ (List.mem_map_of_mem hname))

/-- The text for a success shows the blocks as they are, behind the lines for the things found and
an empty line each, just if no block holds a tab or a control character that is left out. Only line
feeds at the end are taken away. -/
theorem render_eq_verbatim_iff (hjson : style.json = false) (hok : r.ok) :
    r.render style = r.verbatim style ↔
      ∀ name ∈ blockNames, ∀ t ∈ blockText? style r.data name, ∀ c ∈ t, ¬Text.isAltered c := by
  refine ⟨fun h name hname => not_isAltered_of_render_eq hjson hok h hname, fun h => ?_⟩
  rw [render_of_ok hjson hok, verbatim,
    List.flatMap_congr fun name hname => block_eq_verbatimBlock (h name hname)]

/-! ## Declarations with a tab -/

/-- The style of a report for a reader who asks for no more than the usual. -/
def usual : Style := ⟨false, false⟩

/-- The report of declarations. -/
def declarationsReport (declarations : Text) : Report :=
  .success "declarations" [("declarations", .text declarations)] []

/-- Brackets and line feeds are shown as they are. -/
theorem brackets_shown : usual.json = false ∧ (declarationsReport "$a: [b]x[/b]\n;").ok ∧
    (declarationsReport "$a: [b]x[/b]\n;").render usual =
      (declarationsReport "$a: [b]x[/b]\n;").verbatim usual :=
  ⟨rfl, rfl, (render_eq_verbatim_iff rfl rfl).mpr (by decide)⟩

/-- A tab is not. -/
theorem tab_not_shown : (declarationsReport "$a: x\ty;").ok ∧
    blockText? usual (declarationsReport "$a: x\ty;").data "declarations" =
      some (.ofString "$a: x\ty;") ∧
    (declarationsReport "$a: x\ty;").render usual ≠
      (declarationsReport "$a: x\ty;").verbatim usual := by
  have hblock : blockText? usual (declarationsReport "$a: x\ty;").data "declarations" =
      some (.ofString "$a: x\ty;") := by decide
  have hname : Text.ofString "declarations" ∈ blockNames := by decide
  refine ⟨rfl, hblock, fun h => ?_⟩
  exact not_isAltered_of_render_eq rfl rfl h hname _ hblock (.scalar '\t') (by decide) (by decide)

end Report

end StyleImport
