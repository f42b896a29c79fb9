import Mathlib.Data.List.DropRight
import StyleImport.Proofs.Text.CellWidth
import StyleImport.Proofs.Text.Pieces
import StyleImport.Text.Wrap

/-!
# Lines that are cut off

A line is cut to a width by its clusters, after some of the blanks at its end are cropped. Where the
line fits without the blanks at its end, nothing visible is cut off, since the clusters of the part
that fits are those that fit. Whatever the line is, a start of it is left, or a space more.

## Main definitions

- `Text.visible`: the visible characters of a text.
- `Text.trimEnd`: a text without the blanks at its end.

## Main statements

- `Text.cut_of_isLed`: a line that fits without the blanks at its end shows all that is visible.
- `Text.visible_cut_sublist`: a line that is cut shows no others.
-/

namespace StyleImport

theorem CodePoint.ne_of_isBlank {c : CodePoint} (h : c.isBlank) :
    c ≠ .joiner ∧ c ≠ .pictureSelector := by
  constructor <;> rintro rfl <;> exact absurd h (by decide)

namespace Text

variable {width n : Nat} {b t x y : Text} {c : CodePoint}

/-! ## Visible characters -/

/-- The visible characters of a text: all but blanks and the control characters that are left
out. -/
def visible (t : Text) : Text := t.filter fun c => !c.isBlank && !leftOut.contains c

@[simp] theorem visible_append (x y : Text) : visible (x ++ y) = visible x ++ visible y :=
  List.filter_append _ _

theorem visible_of_isBlank (h : ∀ c ∈ t, c.isBlank) : visible t = [] :=
  List.filter_eq_nil_iff.mpr fun c hc => by simp [h c hc]

theorem visible_append_of_isBlank (x : Text) (h : ∀ c ∈ b, c.isBlank) :
    visible (x ++ b) = visible x := by
  rw [visible_append, visible_of_isBlank h, List.append_nil]

theorem visible_flatten (ts : List Text) : visible ts.flatten = ts.flatMap visible := by
  rw [visible, List.filter_flatten, List.flatMap_def]
  rfl

theorem visible_join {sep : Text} (hsep : ∀ c ∈ sep, c.isBlank) (ts : List Text) :
    visible (join sep ts) = visible ts.flatten := by
  induction ts with
  | nil => rfl
  | cons t ts ih =>
    cases ts with
    | nil => simp
    | cons u ts =>
      rw [join_cons_cons, visible_append, visible_append_of_isBlank t hsep, ih, ← visible_append]
      rfl

/-! ## Blanks at the end -/

/-- A text without the blanks at its end. -/
def trimEnd (t : Text) : Text := dropEndWhile (·.isBlank) t

theorem trimEnd_start (t : Text) : trimEnd t <+: t := List.rdropWhile_prefix _ t

theorem exists_trimEnd_append (t : Text) : ∃ b, (∀ c ∈ b, c.isBlank) ∧ t = trimEnd t ++ b :=
  ⟨_, fun _ => List.mem_rtakeWhile_imp, List.rdropWhile_append_rtakeWhile.symm⟩

theorem isBlank_of_trimEnd_append (h : trimEnd t ++ b <+: t) : ∀ c ∈ b, c.isBlank := by
  obtain ⟨d, hd, ht⟩ := exists_trimEnd_append t
  have hbd : trimEnd t ++ b <+: trimEnd t ++ d := ht ▸ h
  exact fun c hc => hd c (((List.prefix_append_right_inj _).mp hbd).subset hc)

theorem visible_trimEnd (t : Text) : visible (trimEnd t) = visible t := by
  obtain ⟨b, hb, ht⟩ := exists_trimEnd_append t
  have hvisible := congrArg visible ht
  rw [visible_append_of_isBlank _ hb] at hvisible
  exact hvisible.symm

/-- What is cut off behind the last visible character does not matter. -/
theorem visible_of_trimEnd_start (hx : trimEnd t <+: x) (hxt : x <+: t) :
    visible x = visible t := by
  have hstart : visible (trimEnd t) <+: visible x := hx.filter _
  have hend : visible x <+: visible t := hxt.filter _
  rw [visible_trimEnd] at hstart
  exact (hend.eq_of_length_le hstart.length_le)

/-- Blanks that are cropped stand at the end. -/
theorem cropBlanks_between (n : Nat) (t : Text) :
    trimEnd t <+: cropBlanks n t ∧ cropBlanks n t <+: t := by
  have hlength : (trimEnd t).length + (t.reverse.takeWhile (·.isBlank)).length = t.length := by
    rw [trimEnd, dropEndWhile, List.length_reverse, Nat.add_comm, ← List.length_append,
      List.takeWhile_append_dropWhile, List.length_reverse]
  refine ⟨List.prefix_take_iff.mpr ⟨trimEnd_start t, ?_⟩, List.take_prefix _ _⟩
  omega

theorem dropEndWhile_append_of_exists {p : CodePoint → Bool} (x : Text) (h : ∃ c ∈ y, ¬p c) :
    dropEndWhile p (x ++ y) = x ++ dropEndWhile p y := by
  obtain ⟨c, hc, hpc⟩ := h
  have hne : (y.reverse.dropWhile p).isEmpty = false := by
    rw [List.isEmpty_eq_false_iff]
    intro hnil
    exact hpc (List.dropWhile_eq_nil_iff.mp hnil c (List.mem_reverse.mpr hc))
  rw [dropEndWhile, List.reverse_append, List.dropWhile_append, hne, if_neg Bool.false_ne_true,
    List.reverse_append, List.reverse_reverse]
  rfl

theorem dropEndWhile_append_of_forall {p : CodePoint → Bool} (x : Text) (h : ∀ c ∈ y, p c) :
    dropEndWhile p (x ++ y) = dropEndWhile p x := by
  have hnil : y.reverse.dropWhile p = [] :=
    List.dropWhile_eq_nil_iff.mpr fun c hc => h c (List.mem_reverse.mp hc)
  rw [dropEndWhile, List.reverse_append, List.dropWhile_append, hnil]
  rfl

/-! ## Lines that are cut off -/

/-- What is cut of clusters is some of them from the first one on, or one space more. -/
theorem exists_cutClusters (n : Nat) (cs : List Cluster) :
    ∃ part, part <+: cs ∧ (cutClusters n cs = partText part ∧ partWidth part ≤ n ∨
      cutClusters n cs = partText part ++ [.scalar ' '] ∧ partWidth part < n) := by
  fun_induction cutClusters n cs with
  | case1 n => exact ⟨[], List.prefix_rfl, .inl ⟨rfl, Nat.zero_le _⟩⟩
  | case2 c cs => exact ⟨[], List.nil_prefix, .inl ⟨rfl, Nat.zero_le _⟩⟩
  | case3 n c cs hn hc ih =>
    obtain ⟨part, hpart, ⟨htext, hwidth⟩ | ⟨htext, hwidth⟩⟩ := ih
    · refine ⟨c :: part, List.cons_prefix_cons.mpr ⟨rfl, hpart⟩, .inl ⟨?_, ?_⟩⟩
      · rw [htext, partText_cons]
      · rw [partWidth_cons]
        omega
    · refine ⟨c :: part, List.cons_prefix_cons.mpr ⟨rfl, hpart⟩, .inr ⟨?_, ?_⟩⟩
      · rw [htext, partText_cons, List.append_assoc]
      · rw [partWidth_cons]
        omega
  | case4 n c cs hn hc =>
    exact ⟨[], List.nil_prefix, .inr ⟨rfl, Nat.pos_of_ne_zero hn⟩⟩

theorem cellWidth_cutClusters_le (n : Nat) (h : IsLed t) :
    cellWidth (cutClusters n (clusters t)) ≤ n := by
  obtain ⟨part, hpart, ⟨htext, hwidth⟩ | ⟨htext, hwidth⟩⟩ := exists_cutClusters n (clusters t)
  · rw [htext, cellWidth_of_infix_clusters h hpart.isInfix]
    exact hwidth
  · have hspace : cellWidth [.scalar ' '] = 1 := by decide +kernel
    have hmore := cellWidth_append_le (partText part) (y := [.scalar ' ']) (by decide +kernel)
    rw [cellWidth_of_infix_clusters h hpart.isInfix, hspace] at hmore
    rw [htext]
    omega

theorem mem_cutClusters {cs : List Cluster} (hc : c ∈ cutClusters n cs) :
    c ∈ partText cs ∨ c = .scalar ' ' := by
  obtain ⟨part, ⟨rest, rfl⟩, ⟨htext, -⟩ | ⟨htext, -⟩⟩ := exists_cutClusters n cs
  · rw [htext] at hc
    rw [partText_append]
    exact .inl (List.mem_append_left _ hc)
  · rw [htext, List.mem_append, List.mem_singleton] at hc
    rw [partText_append]
    exact hc.imp_left (List.mem_append_left _)

theorem cutClusters_cons {k : Cluster} {ks : List Cluster} (hn : 0 < n) (hk : k.width ≤ n) :
    cutClusters n (k :: ks) = k.text ++ cutClusters (n - k.width) ks := by
  rw [cutClusters, if_neg (Nat.ne_of_gt hn), if_pos hk]

/-- Nothing but blanks is cut off behind a cluster that fits, if only blanks are behind it. -/
theorem cutClusters_of_isBlank {k : Cluster} (before : Option CodePoint)
    (hb : ∀ c ∈ b, c.isBlank) (hn : 0 < n) (hk : k.width ≤ n) :
    ∃ d, (∀ c ∈ d, c.isBlank) ∧ cutClusters n (clustersFrom k before b) = k.text ++ d := by
  induction b generalizing k with
  | nil => exact ⟨[], List.forall_mem_nil _, cutClusters_cons hn hk⟩
  | cons c b ih =>
    obtain ⟨hj, hs⟩ := CodePoint.ne_of_isBlank (hb c List.mem_cons_self)
    have htail := fun d hd => hb d (List.mem_cons_of_mem c hd)
    by_cases hc : c.cellWidth = 0
    · obtain ⟨d, hd, htext⟩ := ih htail (k := ⟨k.text ++ [c], k.width⟩) hk
      refine ⟨c :: d, List.forall_mem_cons.mpr ⟨hb c List.mem_cons_self, hd⟩, ?_⟩
      rw [clustersFrom_zero_cons hj hs hc, htext, List.append_assoc]
      rfl
    · rw [clustersFrom_wide_cons hj hs hc, cutClusters_cons hn hk]
      refine ⟨_, fun d hd => ?_, rfl⟩
      obtain hd | rfl := mem_cutClusters hd
      · rw [partText_clustersFrom] at hd
        exact hb d hd
      · decide

/-- Nothing but blanks is cut off behind a text that fits. -/
theorem cutClusters_clustersFrom_append {k : Cluster} {before : Option CodePoint}
    (hb : ∀ c ∈ b, c.isBlank) (hn : 0 < n) (h : k.width + cellWidthAfter before x ≤ n) :
    ∃ d, (∀ c ∈ d, c.isBlank) ∧
      cutClusters n (clustersFrom k before (x ++ b)) = k.text ++ (x ++ d) := by
  -- The induction follows the measuring of `x`. A character of its own closes the cluster before
  -- it, which takes its cells from the room that is left.
  fun_induction cellWidthAfter before x generalizing k n with
  | case1 before => exact cutClusters_of_isBlank before hb hn h
  | case2 before =>
    -- The joiner takes the first blank to its cluster.
    cases b with
    | nil =>
      have hlast : cutClusters n [⟨k.text ++ [.joiner], k.width⟩] =
          k.text ++ [.joiner] ++ cutClusters (n - k.width) [] := cutClusters_cons hn h
      refine ⟨[], List.forall_mem_nil _, hlast.trans ?_⟩
      rw [cutClusters, List.append_nil, List.append_nil]
    | cons c b =>
      obtain ⟨d, hd, htext⟩ := cutClusters_of_isBlank before
        (k := ⟨k.text ++ [.joiner, c], k.width⟩) (fun d hd => hb d (List.mem_cons_of_mem c hd)) hn h
      refine ⟨c :: d, List.forall_mem_cons.mpr ⟨hb c List.mem_cons_self, hd⟩, ?_⟩
      rw [List.singleton_append, clustersFrom_joiner_cons, htext, List.append_assoc]
      rfl
  | case3 before c x ih =>
    obtain ⟨d, hd, htext⟩ := ih (k := ⟨k.text ++ [.joiner, c], k.width⟩) hn h
    refine ⟨d, hd, ?_⟩
    rw [List.cons_append, List.cons_append, clustersFrom_joiner_cons, htext, List.append_assoc]
    rfl
  | case4 before x _ ih =>
    rw [← Nat.add_assoc] at h
    obtain ⟨d, hd, htext⟩ := ih (k := ⟨k.text ++ [.pictureSelector], _⟩) hn h
    refine ⟨d, hd, ?_⟩
    rw [List.cons_append, clustersFrom_selector_cons, htext, List.append_assoc]
    rfl
  | case5 before c x hj hs hc ih =>
    obtain ⟨d, hd, htext⟩ := ih (k := ⟨k.text ++ [c], k.width⟩) hn h
    refine ⟨d, hd, ?_⟩
    rw [List.cons_append, clustersFrom_zero_cons hj hs hc, htext, List.append_assoc]
    rfl
  | case6 before c x hj hs hc ih =>
    obtain ⟨d, hd, htext⟩ := ih (k := ⟨[c], c.cellWidth⟩) (n := n - k.width) (by omega)
      (by dsimp only; omega)
    refine ⟨d, hd, ?_⟩
    rw [List.cons_append, clustersFrom_wide_cons hj hs hc, cutClusters_cons hn (by omega), htext]
    rfl

theorem visible_cutClusters (hb : ∀ c ∈ b, c.isBlank) (hn : 0 < n) (hled : IsLed (x ++ b))
    (h : cellWidth x ≤ n) : visible (cutClusters n (clusters (x ++ b))) = visible x := by
  cases x with
  | nil =>
    refine visible_of_isBlank fun c hc => ?_
    obtain hc | rfl := mem_cutClusters hc
    · rw [partText_clusters] at hc
      exact hb c hc
    · decide
  | cons c x =>
    rw [cellWidth_cons (hled.of_start (List.prefix_append _ b))] at h
    obtain ⟨d, hd, htext⟩ := cutClusters_clustersFrom_append (k := ⟨[c], c.cellWidth⟩) hb hn h
    have hcut : cutClusters n (clusters (c :: x ++ b)) = c :: x ++ d := htext
    rw [hcut, visible_append_of_isBlank _ hd]

/-- A line that fits without the blanks at its end is cut to the width, and shows all visible
characters then. -/
theorem cut_of_isLed (hpos : 0 < width) (hled : IsLed t) (hfits : cellWidth (trimEnd t) ≤ width) :
    cellWidth (cut width t) ≤ width ∧ visible (cut width t) = visible t := by
  obtain ⟨hstart, hend⟩ := cropBlanks_between width t
  rw [cut]
  by_cases hcropped : (cropBlanks width t).cellWidth ≤ width
  · rw [if_pos hcropped]
    exact ⟨hcropped, visible_of_trimEnd_start hstart hend⟩
  · rw [if_neg hcropped]
    have hled' : IsLed (cropBlanks width t) := hled.of_start hend
    refine ⟨cellWidth_cutClusters_le width hled', ?_⟩
    obtain ⟨b, hb⟩ := hstart
    have hblank : ∀ c ∈ b, c.isBlank := isBlank_of_trimEnd_append (hb ▸ hend)
    rw [← hb] at hled' ⊢
    rw [visible_cutClusters hblank hpos hled' hfits, visible_trimEnd]

/-- What a line is cut to is a start of it, or one space more. -/
theorem exists_cut (width : Nat) (t : Text) :
    ∃ x, x <+: t ∧ (cut width t = x ∨ cut width t = x ++ [.scalar ' ']) := by
  obtain ⟨-, hend⟩ := cropBlanks_between width t
  rw [cut]
  split
  · exact ⟨_, hend, .inl rfl⟩
  · obtain ⟨part, ⟨rest, hpart⟩, htext⟩ := exists_cutClusters width (cropBlanks width t).clusters
    have hfirst : partText part <+: cropBlanks width t := by
      rw [← partText_clusters (cropBlanks width t), ← hpart, partText_append]
      exact List.prefix_append _ _
    exact ⟨_, hfirst.trans hend, htext.imp And.left And.left⟩

theorem visible_cut_sublist (width : Nat) (t : Text) :
    (visible (cut width t)).Sublist (visible t) := by
  obtain ⟨x, hx, hcut | hcut⟩ := exists_cut width t
  · rw [hcut]
    exact (hx.filter _).sublist
  · rw [hcut, visible_append_of_isBlank x (by decide)]
    exact (hx.filter _).sublist

theorem mem_of_mem_cut (hc : c ∈ cut width t) : c ∈ t ∨ c = .scalar ' ' := by
  obtain ⟨x, hx, hcut | hcut⟩ := exists_cut width t
  · rw [hcut] at hc
    exact .inl (hx.subset hc)
  · rw [hcut, List.mem_append, List.mem_singleton] at hc
    exact hc.imp_left fun hc => hx.subset hc

end Text

end StyleImport
