import StyleImport.Proofs.Text.Cut

/-!
# Wrapped lines

Wrapping keeps the visible characters of a text, in their order, and each line that it makes fits
into the width. Neither holds of every text: words are measured one by one, but a line is measured
again when it is cut, and a joiner or a selector at the start of a word counts there for the word
before it. Texts whose words do not start in this way are steady. What holds of all texts is that
wrapping makes no visible characters up and does not change their order.

## Main definitions

- `Text.IsSteady`: no word of a text starts with a joiner or a selector.
- `Text.Filling.Fits`: lines fit into a width as far as they are filled.

## Main statements

- `Text.split_wrap`: the lines of a wrapped text.
- `Text.isSteady_of_notMem`: a text without joiners and selectors is steady.
- `Text.visible_wrap_sublist`: a wrapped text shows visible characters of the text only.
- `Text.visible_wrap`: it shows all those of a steady text.
- `Text.cellWidth_le_of_isSteady`: the lines of a steady text fit into the width.
-/

namespace StyleImport

namespace Text

variable {width n : Nat} {b t x y : Text} {c : CodePoint}

/-! ## Words -/

theorem not_isBlank_of_mem_head?_dropWhile (hc : c ∈ (t.dropWhile (·.isBlank)).head?) :
    ¬c.isBlank := by
  induction t with
  | nil => cases hc
  | cons d t ih =>
    by_cases hd : d.isBlank
    · rw [List.dropWhile_cons_of_pos hd] at hc
      exact ih hc
    · rw [List.dropWhile_cons_of_neg hd] at hc
      cases hc
      exact hd

/-- A line is blank and has no words, or its first word is a start of it that is not blank, and the
other words are those of the rest, which does not start with a blank. -/
theorem words_cases (t : Text) :
    (∀ c ∈ t, c.isBlank) ∧ words t = [] ∨
      ∃ w u, t = w ++ u ∧ (∃ c ∈ w, ¬c.isBlank) ∧ (∀ c ∈ u.head?, ¬c.isBlank) ∧
        words t = w :: words u := by
  rw [words]
  split
  · next hcore =>
    refine .inl ⟨List.dropWhile_eq_nil_iff.mp ?_, rfl⟩
    cases hrest : t.dropWhile (·.isBlank) with
    | nil => rfl
    | cons c u =>
      have hc : ¬c.isBlank := not_isBlank_of_mem_head?_dropWhile (t := t) (by rw [hrest]; rfl)
      rw [hrest, List.takeWhile_cons_of_pos (by simp [hc])] at hcore
      cases hcore
  · next hcore =>
    refine .inr ⟨_, _, ?_, ?_, fun _ => not_isBlank_of_mem_head?_dropWhile, rfl⟩
    · rw [List.append_assoc, List.takeWhile_append_dropWhile, List.append_assoc,
        List.takeWhile_append_dropWhile, List.takeWhile_append_dropWhile]
    · obtain ⟨c, core, hc⟩ := List.exists_cons_of_ne_nil hcore
      have hmem := hc ▸ List.mem_cons_self
      refine ⟨c, List.mem_append_left _ (List.mem_append_right _ hmem), ?_⟩
      simpa using List.mem_takeWhile_imp hmem

/-- What holds of blank lines, and of a line if it holds of the rest behind its first word, holds of
all lines. -/
theorem words_induction {motive : Text → Prop}
    (hblank : ∀ t, (∀ c ∈ t, c.isBlank) → words t = [] → motive t)
    (hword : ∀ w u, (∃ c ∈ w, ¬c.isBlank) → (∀ c ∈ u.head?, ¬c.isBlank) →
      words (w ++ u) = w :: words u → motive u → motive (w ++ u)) (t : Text) : motive t := by
  induction hlength : t.length using Nat.strong_induction_on generalizing t with
  | h n ih =>
    obtain ⟨h, hnil⟩ | ⟨w, u, rfl, hw, hu, hwords⟩ := words_cases t
    · exact hblank t h hnil
    · refine hword w u hw hu hwords (ih u.length ?_ u rfl)
      obtain ⟨c, hc, -⟩ := hw
      have hpos := List.length_pos_of_mem hc
      rw [List.length_append] at hlength
      omega

/-- The words of a line are the line, unless it is blank. -/
theorem flatten_words (t : Text) :
    (∀ c ∈ t, c.isBlank) ∧ words t = [] ∨ (words t).flatten = t := by
  induction t using words_induction with
  | hblank t h hnil => exact .inl ⟨h, hnil⟩
  | hword w u hw hu hwords ih =>
    have hrest : (words u).flatten = u := by
      obtain ⟨hblank, hnil⟩ | hflatten := ih
      · cases u with
        | nil => rw [hnil, List.flatten_nil]
        | cons d u => exact absurd (hblank d List.mem_cons_self) (hu d rfl)
      · exact hflatten
    exact .inr (by rw [hwords, List.flatten_cons, hrest])

theorem exists_of_mem_words {w : Text} (hw : w ∈ words t) : ∃ c ∈ w, ¬c.isBlank := by
  induction t using words_induction with
  | hblank t h hnil =>
    rw [hnil] at hw
    cases hw
  | hword v u hv hu hwords ih =>
    rw [hwords] at hw
    obtain rfl | hw := List.mem_cons.mp hw
    · exact hv
    · exact ih hw

theorem mem_of_mem_words {w : Text} (hw : w ∈ words t) (hc : c ∈ w) : c ∈ t := by
  obtain ⟨-, hnil⟩ | hflatten := flatten_words t
  · rw [hnil] at hw
    cases hw
  · rw [← hflatten]
    exact List.mem_flatten_of_mem hw hc

/-! ## Pieces of long words -/

/-- The pieces of a word are the word. -/
theorem flatten_chop (width : Nat) (piece : Text) (used : Nat) (cs : List Cluster) :
    (chop width piece used cs).flatten = piece ++ partText cs := by
  fun_induction chop width piece used cs with
  | case1 piece => rw [List.flatten_singleton, partText, List.flatMap_nil, List.append_nil]
  | case2 piece used k cs h ih => rw [List.flatten_cons, ih, partText_cons]
  | case3 piece used k cs h ih => rw [ih, partText_cons, List.append_assoc]

theorem chop_ne_nil (width : Nat) (piece : Text) (used : Nat) (cs : List Cluster) :
    chop width piece used cs ≠ [] := by
  fun_induction chop width piece used cs with
  | case1 piece => exact List.cons_ne_nil _ _
  | case2 piece used k cs h ih => exact List.cons_ne_nil _ _
  | case3 piece used k cs h ih => exact ih

/-- The pieces are clusters that follow on one another and fit into the width together. -/
theorem exists_parts_chop {cs : List Cluster} (done : List Cluster) (hdone : partWidth done ≤ width)
    (hcs : ∀ k ∈ cs, k.width ≤ width) :
    ∃ parts : List (List Cluster),
      chop width (partText done) (partWidth done) cs = parts.map partText ∧
        parts.flatten = done ++ cs ∧ ∀ part ∈ parts, partWidth part ≤ width := by
  induction cs generalizing done with
  | nil => exact ⟨[done], rfl, by simp, List.forall_mem_singleton.mpr hdone⟩
  | cons k cs ih =>
    obtain ⟨hk, hcs⟩ := List.forall_mem_cons.mp hcs
    rw [chop]
    -- A cluster that does not fit ends the piece before it and starts the next one.
    by_cases hlong : width < partWidth done + k.width
    · obtain ⟨parts, hchop, hflatten, hwidth⟩ := ih [k] hk hcs
      rw [partText_singleton] at hchop
      refine ⟨done :: parts, ?_, ?_, List.forall_mem_cons.mpr ⟨hdone, hwidth⟩⟩
      · rw [if_pos hlong, List.map_cons, ← hchop]
        rfl
      · rw [List.flatten_cons, hflatten]
        rfl
    · have hmore : partWidth (done ++ [k]) = partWidth done + k.width := partWidth_append done [k]
      obtain ⟨parts, hchop, hflatten, hwidth⟩ := ih (done ++ [k]) (by omega) hcs
      rw [hmore, partText_append, partText_singleton] at hchop
      refine ⟨parts, ?_, ?_, hwidth⟩
      · rw [if_neg hlong, hchop]
      · rw [hflatten, List.append_assoc]
        rfl

theorem isLed_partText {part : List Cluster} (h : ∀ k ∈ part, k.IsProper) :
    IsLed (partText part) := by
  cases part with
  | nil => exact fun _ hc => absurd hc (Option.not_mem_none _)
  | cons k part =>
    exact ((h k List.mem_cons_self).append (partText part) (Nat.zero_le 3)).isLed

/-- The pieces of a word fit into a width of at least three cells. -/
theorem mem_chop {p : Text} (hwidth : 3 ≤ width) (hled : IsLed t)
    (hp : p ∈ chop width [] 0 (clusters t)) : IsLed p ∧ cellWidth p ≤ width := by
  have hproper : ∀ k ∈ clusters t, k.IsProper := fun _ => Cluster.isProper_of_mem_clusters hled
  obtain ⟨parts, hchop, hflatten, hparts⟩ := exists_parts_chop [] (Nat.zero_le width)
    fun k hk => (hproper k hk).width_le.trans hwidth
  rw [List.nil_append] at hflatten
  have hp' : p ∈ parts.map partText := hchop ▸ hp
  obtain ⟨part, hpart, rfl⟩ := List.mem_map.mp hp'
  have hrow : part <:+: clusters t := hflatten ▸ List.infix_of_mem_flatten hpart
  refine ⟨isLed_partText fun k hk => hproper k (hrow.subset hk), ?_⟩
  rw [cellWidth_of_infix_clusters hled hrow]
  exact hparts part hpart

/-! ## Lines that are filled -/

/-- A line starts with a character of its own, and fits into the width without the blanks at its
end. -/
def LineFits (width : Nat) (t : Text) : Prop := IsLed t ∧ cellWidth (trimEnd t) ≤ width

theorem lineFits_of_le (hled : IsLed t) (h : cellWidth t ≤ width) : LineFits width t :=
  ⟨hled, (cellWidth_le_of_start (trimEnd_start t)).trans h⟩

theorem LineFits.append (h : LineFits width x) (hanchored : isAnchored y)
    (hy : ∃ c ∈ y, ¬c.isBlank) (hfits : cellWidth x + cellWidth (trimEnd y) ≤ width) :
    LineFits width (x ++ y) := by
  constructor
  · cases x with
    | nil => exact isLed_of_isAnchored hanchored
    | cons c x => exact h.1
  · obtain ⟨b, hb⟩ := trimEnd_start y
    rw [← hb] at hanchored
    rw [trimEnd, dropEndWhile_append_of_exists x hy, ← trimEnd]
    exact (cellWidth_append_le x (isAnchored_of_append hanchored)).trans hfits

theorem lineFits_of_isBlank (h : ∀ c ∈ t, c.isBlank) : LineFits width t := by
  have hnil : trimEnd t = [] := List.rdropWhile_eq_nil_iff.mpr h
  refine ⟨fun c hc => CodePoint.ne_of_isBlank (h c (List.mem_of_mem_head? hc)), ?_⟩
  rw [hnil]
  exact Nat.zero_le _

namespace Filling

variable {f : Filling} {word : Text}

/-- The lines from the first one on. -/
def lines (f : Filling) : List Text := (f.line :: f.done).reverse

theorem lines_eq (f : Filling) : f.lines = f.done.reverse ++ [f.line] := List.reverse_cons

theorem lines_startLine (f : Filling) (t : Text) : (f.startLine t).lines = f.lines ++ [t] :=
  List.reverse_cons

theorem lines_foldl_startLine (f : Filling) (ts : List Text) :
    (ts.foldl startLine f).lines = f.lines ++ ts := by
  induction ts generalizing f with
  | nil => rw [List.foldl_nil, List.append_nil]
  | cons t ts ih =>
    rw [List.foldl_cons, ih, lines_startLine, List.append_assoc, List.singleton_append]

/-- Puts a text on a new line, or on the first one if that is still empty. -/
def IsStartedBy (f g : Filling) (t : Text) : Prop :=
  g = f.startLine t ∨ f.lines = [[]] ∧ g = ⟨[], t, t.cellWidth⟩

/-- A word goes behind the last line, or it is chopped into lines of its own, or it starts a
line. -/
theorem addWord_cases (width : Nat) (f : Filling) (word : Text) :
    f.used + cellWidth (trimEnd word) ≤ width ∧
        f.addWord width word = ⟨f.done, f.line ++ word, f.used + word.cellWidth⟩ ∨
      (∃ g first rest, chop width [] 0 word.clusters = first :: rest ∧ IsStartedBy f g first ∧
        f.addWord width word = rest.foldl startLine g) ∨
      cellWidth (trimEnd word) ≤ width ∧ f.addWord width word = f.startLine word := by
  rw [Filling.addWord]
  dsimp only
  rw [← trimEnd]
  by_cases hfits : f.used + cellWidth (trimEnd word) ≤ width
  · exact .inl ⟨hfits, if_pos hfits⟩
  · rw [if_neg hfits]
    by_cases hlong : width < cellWidth (trimEnd word)
    · obtain ⟨first, rest, hchop⟩ :=
        List.exists_cons_of_ne_nil (chop_ne_nil width [] 0 word.clusters)
      rw [if_pos hlong, hchop]
      refine .inr (.inl ⟨_, first, rest, rfl, ?_, rfl⟩)
      by_cases hempty : f.line = [] ∧ f.done = []
      · rw [if_pos hempty]
        exact .inr ⟨by rw [lines_eq, hempty.1, hempty.2]; rfl, rfl⟩
      · rw [if_neg hempty]
        exact .inl rfl
    · rw [if_neg hlong]
      exact .inr (.inr ⟨Nat.le_of_not_lt hlong, rfl⟩)

/-- A word is added behind what the lines hold. -/
theorem flatten_lines_addWord (width : Nat) (f : Filling) (word : Text) :
    (f.addWord width word).lines.flatten = f.lines.flatten ++ word := by
  obtain ⟨-, h⟩ | ⟨g, first, rest, hchop, hg, h⟩ | ⟨-, h⟩ := addWord_cases width f word
  · rw [h, lines_eq, lines_eq, List.flatten_append, List.flatten_append, List.flatten_singleton,
      List.flatten_singleton, List.append_assoc]
  · have hword : first ++ rest.flatten = word := by
      rw [← List.flatten_cons, ← hchop, flatten_chop, partText_clusters, List.nil_append]
    have hstart : g.lines.flatten = f.lines.flatten ++ first := by
      obtain rfl | ⟨hempty, rfl⟩ := hg
      · rw [lines_startLine, List.flatten_append, List.flatten_singleton]
      · rw [hempty, lines_eq]
        simp
    rw [h, lines_foldl_startLine, List.flatten_append, hstart, List.append_assoc, hword]
  · rw [h, lines_startLine, List.flatten_append, List.flatten_singleton]

/-- Lines that are being filled fit, and the last of them fills no more cells than are counted. -/
structure Fits (width : Nat) (f : Filling) : Prop where
  lines : ∀ l ∈ f.lines, LineFits width l
  used : cellWidth f.line ≤ f.used

theorem Fits.startLine (h : f.Fits width) (ht : LineFits width t) : (f.startLine t).Fits width := by
  refine ⟨?_, Nat.le_refl _⟩
  rw [lines_startLine]
  exact List.forall_mem_append.mpr ⟨h.lines, List.forall_mem_singleton.mpr ht⟩

theorem Fits.foldl_startLine {ts : List Text} (h : f.Fits width)
    (hts : ∀ t ∈ ts, LineFits width t) :
    (ts.foldl Filling.startLine f).Fits width := by
  induction ts generalizing f with
  | nil => exact h
  | cons t ts ih =>
    rw [List.forall_mem_cons] at hts
    exact ih (h.startLine hts.1) hts.2

theorem Fits.isStartedBy {g : Filling} (h : f.Fits width) (hg : IsStartedBy f g t)
    (ht : LineFits width t) : g.Fits width := by
  obtain rfl | ⟨-, rfl⟩ := hg
  · exact h.startLine ht
  · exact ⟨List.forall_mem_singleton.mpr ht, Nat.le_refl _⟩

/-- Adding a word that starts with a character of its own keeps all lines within the width. -/
theorem Fits.addWord (hwidth : 3 ≤ width) (h : f.Fits width) (hanchored : isAnchored word)
    (hword : ∃ c ∈ word, ¬c.isBlank) : (f.addWord width word).Fits width := by
  have hled : IsLed word := isLed_of_isAnchored hanchored
  obtain ⟨hfits, heq⟩ | ⟨g, first, rest, hchop, hg, heq⟩ | ⟨hfits, heq⟩ :=
    addWord_cases width f word
  · rw [heq]
    have hlines := h.lines
    have hused := h.used
    rw [lines_eq, List.forall_mem_append] at hlines
    have hline : LineFits width (f.line ++ word) :=
      (hlines.2 f.line List.mem_cons_self).append hanchored hword
        ((Nat.add_le_add_right hused _).trans hfits)
    refine ⟨?_, (cellWidth_append_le f.line hanchored).trans (Nat.add_le_add_right hused _)⟩
    rw [lines_eq]
    exact List.forall_mem_append.mpr ⟨hlines.1, List.forall_mem_singleton.mpr hline⟩
  · have hpieces : ∀ p ∈ first :: rest, LineFits width p := by
      intro p hp
      obtain ⟨hp, hle⟩ := mem_chop hwidth hled (hchop ▸ hp)
      exact lineFits_of_le hp hle
    rw [List.forall_mem_cons] at hpieces
    rw [heq]
    exact (h.isStartedBy hg hpieces.1).foldl_startLine hpieces.2
  · rw [heq]
    exact h.startLine ⟨hled, hfits⟩

theorem flatten_lines_foldl_addWord (width : Nat) (f : Filling) (ws : List Text) :
    (ws.foldl (Filling.addWord width) f).lines.flatten = f.lines.flatten ++ ws.flatten := by
  induction ws generalizing f with
  | nil => rw [List.foldl_nil, List.flatten_nil, List.append_nil]
  | cons w ws ih =>
    rw [List.foldl_cons, ih, flatten_lines_addWord, List.flatten_cons, List.append_assoc]

theorem Fits.foldl_addWord {ws : List Text} (hwidth : 3 ≤ width) (h : f.Fits width)
    (hws : ∀ w ∈ ws, isAnchored w ∧ ∃ c ∈ w, ¬c.isBlank) :
    (ws.foldl (Filling.addWord width) f).Fits width := by
  induction ws generalizing f with
  | nil => exact h
  | cons w ws ih =>
    rw [List.forall_mem_cons] at hws
    exact ih (h.addWord hwidth hws.1.1 hws.1.2) hws.2

end Filling

/-! ## Lines of a text -/

/-- A line is broken into lines that are cut to the width. Before they are cut they are the line,
and they fit if no word of the line starts with a joiner or a selector. -/
theorem exists_wrapLine (width : Nat) (t : Text) :
    ∃ ls : List Text, wrapLine width t = ls.map (cut width) ∧ ls ≠ [] ∧ ls.flatten = t ∧
      (3 ≤ width → (∀ w ∈ words t, isAnchored w) → ∀ l ∈ ls, LineFits width l) := by
  rw [wrapLine]
  have hwords := flatten_words t
  have hfilled := fun w hw => exists_of_mem_words (t := t) (w := w) hw
  -- A line of blanks has no words and stays as it is, whatever its width.
  cases hws : words t with
  | nil =>
    have hblank : ∀ c ∈ t, c.isBlank := by
      obtain ⟨hblank, -⟩ | hflatten := hwords
      · exact hblank
      · rw [← hflatten, hws]
        exact List.forall_mem_nil _
    exact ⟨[t], rfl, List.cons_ne_nil _ _, List.flatten_singleton,
      fun _ _ => List.forall_mem_singleton.mpr (lineFits_of_isBlank hblank)⟩
  | cons w ws =>
    have hflatten : (words t).flatten = t := by
      obtain ⟨-, hnil⟩ | hflatten := hwords
      · rw [hnil] at hws
        cases hws
      · exact hflatten
    rw [hws] at hflatten hfilled
    refine ⟨((w :: ws).foldl (Filling.addWord width) ⟨[], [], 0⟩).lines, rfl, ?_, ?_, ?_⟩
    · rw [Filling.lines_eq]
      exact List.concat_ne_nil _ _
    · rw [Filling.flatten_lines_foldl_addWord, hflatten]
      rfl
    · intro hwidth hanchored
      have hempty : Filling.Fits width ⟨[], [], 0⟩ :=
        ⟨List.forall_mem_singleton.mpr (lineFits_of_isBlank nofun), Nat.le_refl 0⟩
      exact (hempty.foldl_addWord hwidth fun v hv => ⟨hanchored v hv, hfilled v hv⟩).lines

theorem visible_flatten_map_cut_sublist (width : Nat) (ls : List Text) :
    (visible (ls.map (cut width)).flatten).Sublist (visible ls.flatten) := by
  induction ls with
  | nil => exact List.Sublist.refl _
  | cons l ls ih =>
    rw [List.map_cons, List.flatten_cons, List.flatten_cons, visible_append, visible_append]
    exact (visible_cut_sublist width l).append ih

theorem visible_wrapLine_sublist (width : Nat) (t : Text) :
    (visible (wrapLine width t).flatten).Sublist (visible t) := by
  obtain ⟨ls, hwrap, -, hflatten, -⟩ := exists_wrapLine width t
  have hcut := visible_flatten_map_cut_sublist width ls
  rwa [hflatten, ← hwrap] at hcut

/-- A line with no word that starts with a joiner or a selector is shown within the width, with all
its visible characters. -/
theorem wrapLine_of_isAnchored (hwidth : 3 ≤ width) (h : ∀ w ∈ words t, isAnchored w) :
    (∀ l ∈ wrapLine width t, cellWidth l ≤ width) ∧
      visible (wrapLine width t).flatten = visible t := by
  obtain ⟨ls, hwrap, -, hflatten, hfits⟩ := exists_wrapLine width t
  have hcut : ∀ l ∈ ls, cellWidth (cut width l) ≤ width ∧ visible (cut width l) = visible l :=
    fun l hl => cut_of_isLed (by omega) (hfits hwidth h l hl).1 (hfits hwidth h l hl).2
  rw [hwrap]
  constructor
  · exact List.forall_mem_map.mpr fun l hl => (hcut l hl).1
  · rw [visible_flatten, List.flatMap_map, List.flatMap_congr fun l hl => (hcut l hl).2,
      ← visible_flatten, hflatten]

theorem wrapLine_ne_nil (width : Nat) (t : Text) : wrapLine width t ≠ [] := by
  obtain ⟨ls, hwrap, hne, -, -⟩ := exists_wrapLine width t
  rw [hwrap]
  exact mt List.map_eq_nil_iff.mp hne

theorem mem_of_mem_wrapLine {l : Text} (hl : l ∈ wrapLine width t) (hc : c ∈ l) :
    c ∈ t ∨ c = .scalar ' ' := by
  obtain ⟨ls, hwrap, -, hflatten, -⟩ := exists_wrapLine width t
  rw [hwrap] at hl
  obtain ⟨k, hk, rfl⟩ := List.mem_map.mp hl
  refine (mem_of_mem_cut hc).imp_left fun hc => ?_
  rw [← hflatten]
  exact List.mem_flatten_of_mem hk hc

/-! ## Tabs and control characters -/

theorem visible_expandPieces (used : Nat) (pieces : List Text) :
    visible (expandPieces used pieces).flatten = visible pieces.flatten := by
  have hspaces (n : Nat) : ∀ c ∈ List.replicate n (CodePoint.scalar ' '), c.isBlank := by
    intro c hc
    rw [List.eq_of_mem_replicate hc]
    decide
  fun_induction expandPieces used pieces with
  | case1 => rfl
  | case2 used piece => rfl
  | case3 used piece rest hrest spaced size missing ih =>
    have hspaced : visible spaced = visible piece := visible_append_of_isBlank piece (hspaces 1)
    rw [List.flatten_cons, visible_append, visible_append_of_isBlank _ (hspaces missing), ih,
      hspaced, ← visible_append]
    rfl

theorem mem_of_mem_expandPieces {used : Nat} {pieces : List Text}
    (hc : c ∈ (expandPieces used pieces).flatten) : c ∈ pieces.flatten ∨ c = .scalar ' ' := by
  fun_induction expandPieces used pieces with
  | case1 => cases hc
  | case2 used piece => exact .inl hc
  | case3 used piece rest hrest spaced size missing ih =>
    rw [List.flatten_cons, List.mem_append, List.mem_append, List.mem_append] at hc
    rw [List.flatten_cons, List.mem_append]
    obtain ((hpiece | hend) | hfill) | hbehind := hc
    · exact .inl (.inl hpiece)
    · exact .inr (List.mem_singleton.mp hend)
    · exact .inr (List.eq_of_mem_replicate hfill)
    · exact (ih hbehind).imp_left .inr

theorem visible_flatten_split {sep : CodePoint} (hsep : sep.isBlank) (t : Text) :
    visible (split sep t).flatten = visible t := by
  have hblank : ∀ c ∈ [sep], c.isBlank := List.forall_mem_singleton.mpr hsep
  rw [← visible_join hblank, join_split]

theorem visible_expandTabs (t : Text) : visible (expandTabs t) = visible t := by
  rw [expandTabs, visible_expandPieces, visible_flatten_split (by decide)]

theorem mem_of_mem_expandTabs (hc : c ∈ expandTabs t) : c ∈ t ∨ c = .scalar ' ' := by
  refine (mem_of_mem_expandPieces hc).imp_left fun hc => ?_
  obtain ⟨piece, hpiece, hc⟩ := List.mem_flatten.mp hc
  exact mem_of_mem_split hpiece hc

theorem visible_dropControls (t : Text) : visible (dropControls t) = visible t := by
  rw [visible, dropControls, List.filter_filter]
  refine List.filter_congr fun c _ => ?_
  rw [Bool.and_assoc, Bool.and_self]

/-- The lines of a text, before they are broken. -/
def rawLines (t : Text) : List Text :=
  (split (.scalar '\n') (dropControls t)).map expandTabs

theorem visible_rawLines (t : Text) : visible (rawLines t).flatten = visible t := by
  rw [rawLines, visible_flatten, List.flatMap_map,
    List.flatMap_congr fun line _ => visible_expandTabs line, ← visible_flatten,
    visible_flatten_split (by decide), visible_dropControls]

theorem notMem_of_mem_rawLines {line : Text} (h : line ∈ rawLines t) : .scalar '\n' ∉ line := by
  obtain ⟨piece, hpiece, rfl⟩ := List.mem_map.mp h
  intro hc
  obtain hc | hc := mem_of_mem_expandTabs hc
  · exact notMem_of_mem_split hpiece hc
  · exact absurd hc (by decide)

/-- The lines of a wrapped text. -/
theorem split_wrap (width : Nat) (t : Text) :
    split (.scalar '\n') (wrap width t) = (rawLines t).flatMap (wrapLine width) := by
  have hwrap : wrap width t = join [.scalar '\n'] ((rawLines t).flatMap (wrapLine width)) := by
    rw [rawLines, List.flatMap_map]
    rfl
  rw [hwrap]
  refine split_join (fun l hl hc => ?_) ?_
  · obtain ⟨line, hline, hl⟩ := List.mem_flatMap.mp hl
    obtain hc | hc := mem_of_mem_wrapLine hl hc
    · exact notMem_of_mem_rawLines hline hc
    · exact absurd hc (by decide)
  · obtain ⟨line, lines, hlines⟩ := List.exists_cons_of_ne_nil
      (mt List.map_eq_nil_iff.mp (split_ne_nil (.scalar '\n') (dropControls t)) : rawLines t ≠ [])
    rw [hlines, List.flatMap_cons]
    exact List.append_ne_nil_of_left_ne_nil (wrapLine_ne_nil width line) _

theorem visible_wrap_eq (width : Nat) (t : Text) :
    visible (wrap width t) = visible ((rawLines t).flatMap (wrapLine width)).flatten := by
  rw [← split_wrap, visible_flatten_split (by decide)]

/-- No word of a text starts with a joiner or a selector: a character that fills cells comes before
them. -/
def IsSteady (t : Text) : Prop := ∀ line ∈ rawLines t, ∀ w ∈ words line, isAnchored w

instance (t : Text) : Decidable (IsSteady t) :=
  inferInstanceAs (Decidable (∀ line ∈ rawLines t, ∀ w ∈ words line, isAnchored w))

/-- A text without joiners and selectors is steady. -/
theorem isSteady_of_notMem (hjoiner : .joiner ∉ t) (hselector : .pictureSelector ∉ t) :
    IsSteady t := by
  intro line hline w hw
  have hmem (c : CodePoint) (hspace : c ≠ .scalar ' ') (hc : c ∈ w) : c ∈ t := by
    obtain ⟨piece, hpiece, rfl⟩ := List.mem_map.mp hline
    obtain hc | hc := mem_of_mem_expandTabs (mem_of_mem_words hw hc)
    · exact List.mem_of_mem_filter (mem_of_mem_split hpiece hc)
    · exact absurd hc hspace
  exact isAnchored_of_notMem (mt (hmem _ (by decide)) hjoiner) (mt (hmem _ (by decide)) hselector)

/-- A wrapped text shows visible characters of the text only, in their order. -/
theorem visible_wrap_sublist (width : Nat) (t : Text) :
    (visible (wrap width t)).Sublist (visible t) := by
  rw [visible_wrap_eq, ← visible_rawLines t]
  induction rawLines t with
  | nil => exact List.Sublist.refl _
  | cons line lines ih =>
    rw [List.flatMap_cons, List.flatten_append, List.flatten_cons, visible_append, visible_append]
    exact (visible_wrapLine_sublist width line).append ih

/-- A wrapped text shows all visible characters of a steady text. -/
theorem visible_wrap (hwidth : 3 ≤ width) (h : IsSteady t) :
    visible (wrap width t) = visible t := by
  have hlines : ∀ line ∈ rawLines t, visible (wrapLine width line).flatten = visible line :=
    fun line hline => (wrapLine_of_isAnchored hwidth (h line hline)).2
  rw [visible_wrap_eq, ← visible_rawLines t]
  generalize rawLines t = lines at hlines
  induction lines with
  | nil => rfl
  | cons line lines ih =>
    rw [List.forall_mem_cons] at hlines
    rw [List.flatMap_cons, List.flatten_append, List.flatten_cons, visible_append, visible_append,
      hlines.1, ih hlines.2]

/-- The lines of a steady text fit into the width. -/
theorem cellWidth_le_of_isSteady (hwidth : 3 ≤ width) (h : IsSteady t) :
    ∀ l ∈ split (.scalar '\n') (wrap width t), cellWidth l ≤ width := by
  rw [split_wrap]
  intro l hl
  obtain ⟨line, hline, hl⟩ := List.mem_flatMap.mp hl
  exact (wrapLine_of_isAnchored hwidth (h line hline)).1 l hl

end Text

end StyleImport
