import Mathlib
import StyleImport.Text.CellWidth

/-!
# Cells of a text and of its parts

The number of cells of a text is not the sum over its characters, since a joiner takes the character
behind it away and a selector widens the one before it. What holds is that a text does not become
wider than the sum of two parts where the second part starts with a character of its own, and that
the clusters of a text have the cells that they are said to have, alone and in a row.

## Main definitions

- `Text.isAnchored`: a character that fills cells stands before all joiners and selectors.
- `Text.IsLed`: a text starts with neither a joiner nor a selector.

## Main statements

- `Text.cellWidth_append_le`: the cells of two parts.
- `Text.flatMap_clusters`: the clusters of a text are the text.
- `Text.cellWidth_of_infix_clusters`: the cells of clusters in a row.
-/

namespace StyleImport

theorem CodePoint.cellWidth_le_two (c : CodePoint) : c.cellWidth ≤ 2 := by
  unfold CodePoint.cellWidth
  dsimp only
  split
  · decide
  · split
    · decide
    · split <;> decide

namespace Text

variable {s : Option CodePoint} {c : CodePoint} {t u x y : Text}

/-! ## Texts behind others -/

/-- A character that fills cells stands before all joiners and selectors of a text. -/
def isAnchored : Text → Bool
  | [] => true
  | c :: t =>
    if c = .joiner ∨ c = .pictureSelector then false
    else if c.cellWidth = 0 then isAnchored t
    else true

theorem isAnchored_cons_iff :
    isAnchored (c :: t) ↔
      c ≠ .joiner ∧ c ≠ .pictureSelector ∧ (c.cellWidth = 0 → isAnchored t) := by
  rw [isAnchored]
  by_cases hc : c = .joiner ∨ c = .pictureSelector
  · rw [if_pos hc]
    exact iff_of_false Bool.false_ne_true fun h => hc.elim h.1 h.2.1
  · rw [if_neg hc]
    rw [not_or] at hc
    split
    · next hzero => exact ⟨fun h => ⟨hc.1, hc.2, fun _ => h⟩, fun h => h.2.2 hzero⟩
    · next hwide => exact iff_of_true rfl ⟨hc.1, hc.2, fun h => absurd h hwide⟩

theorem isAnchored_of_append (h : isAnchored (x ++ y)) : isAnchored x := by
  induction x with
  | nil => rfl
  | cons c x ih =>
    rw [List.cons_append, isAnchored_cons_iff] at h
    exact isAnchored_cons_iff.mpr ⟨h.1, h.2.1, fun hzero => ih (h.2.2 hzero)⟩

theorem isAnchored_of_notMem (hjoiner : .joiner ∉ t) (hselector : .pictureSelector ∉ t) :
    isAnchored t := by
  induction t with
  | nil => rfl
  | cons c t ih =>
    rw [List.mem_cons, not_or] at hjoiner hselector
    exact isAnchored_cons_iff.mpr
      ⟨Ne.symm hjoiner.1, Ne.symm hselector.1, fun _ => ih hjoiner.2 hselector.2⟩

theorem cellWidthAfter_joiner_cons (s : Option CodePoint) (c : CodePoint) (t : Text) :
    cellWidthAfter s (.joiner :: c :: t) = cellWidthAfter s t := by
  rw [cellWidthAfter, if_pos rfl]

theorem cellWidthAfter_selector_cons (s : Option CodePoint) (t : Text) :
    cellWidthAfter s (.pictureSelector :: t) =
      (s.any (·.widens)).toNat + cellWidthAfter none t := by
  rw [cellWidthAfter.eq_def]
  exact (if_neg (by decide)).trans (if_pos rfl)

theorem cellWidthAfter_zero_cons (hj : c ≠ .joiner) (hs : c ≠ .pictureSelector)
    (hc : c.cellWidth = 0) : cellWidthAfter s (c :: t) = cellWidthAfter s t := by
  rw [cellWidthAfter.eq_def]
  exact (if_neg hj).trans ((if_neg hs).trans (if_pos hc))

theorem cellWidthAfter_wide_cons (hj : c ≠ .joiner) (hs : c ≠ .pictureSelector)
    (hc : c.cellWidth ≠ 0) :
    cellWidthAfter s (c :: t) = c.cellWidth + cellWidthAfter (some c) t := by
  rw [cellWidthAfter.eq_def]
  exact (if_neg hj).trans ((if_neg hs).trans (if_neg hc))

/-- The character before a text makes it wider by one cell at most. -/
theorem cellWidthAfter_le_succ (s : Option CodePoint) (t : Text) :
    cellWidth t ≤ cellWidthAfter s t ∧ cellWidthAfter s t ≤ cellWidth t + 1 := by
  unfold cellWidth
  fun_induction cellWidthAfter s t with
  | case1 => exact ⟨Nat.le_refl 0, Nat.zero_le _⟩
  | case2 => exact ⟨Nat.le_refl 0, Nat.zero_le _⟩
  | case3 s c t ih => rwa [cellWidthAfter_joiner_cons]
  | case4 s t _ ih =>
    have hone : (s.any (·.widens)).toNat ≤ 1 := Bool.toNat_le _
    rw [cellWidthAfter_selector_cons, Option.any_none, Bool.toNat_false]
    omega
  | case5 s c t hj hs hc ih => rwa [cellWidthAfter_zero_cons hj hs hc]
  | case6 s c t hj hs hc ih =>
    rw [cellWidthAfter_wide_cons hj hs hc]
    exact ⟨Nat.le_refl _, Nat.le_succ _⟩

/-- The character before an anchored text does not make it wider. -/
theorem cellWidthAfter_of_isAnchored (h : isAnchored t) : cellWidthAfter s t = cellWidth t := by
  unfold cellWidth
  induction t with
  | nil => rfl
  | cons c t ih =>
    obtain ⟨hj, hs, htail⟩ := isAnchored_cons_iff.mp h
    by_cases hc : c.cellWidth = 0
    · rw [cellWidthAfter_zero_cons hj hs hc, cellWidthAfter_zero_cons hj hs hc, ih (htail hc)]
    · rw [cellWidthAfter_wide_cons hj hs hc, cellWidthAfter_wide_cons hj hs hc]

/-- What a joiner leaves of an anchored text is not wider than the text. -/
theorem cellWidthAfter_joiner_cons_le (s : Option CodePoint) (h : isAnchored t) :
    cellWidthAfter s (.joiner :: t) ≤ cellWidth t := by
  cases t with
  | nil => exact Nat.zero_le _
  | cons c t =>
    obtain ⟨hj, hs, htail⟩ := isAnchored_cons_iff.mp h
    rw [cellWidthAfter_joiner_cons, cellWidth]
    by_cases hc : c.cellWidth = 0
    · rw [cellWidthAfter_zero_cons hj hs hc, cellWidthAfter_of_isAnchored (htail hc), cellWidth]
    · -- The cell of the character that is joined makes up for the one that `s` may gain.
      have hbefore := (cellWidthAfter_le_succ s t).2
      have hbehind := (cellWidthAfter_le_succ (some c) t).1
      rw [cellWidthAfter_wide_cons hj hs hc]
      omega

/-- An anchored text behind another one adds its own cells at most. -/
theorem cellWidthAfter_append_le (s : Option CodePoint) (x : Text) (hy : isAnchored y) :
    cellWidthAfter s (x ++ y) ≤ cellWidthAfter s x + cellWidth y := by
  fun_induction cellWidthAfter s x with
  | case1 s =>
    rw [List.nil_append, cellWidthAfter_of_isAnchored hy]
    exact Nat.le_add_left _ _
  | case2 s =>
    rw [Nat.zero_add]
    exact cellWidthAfter_joiner_cons_le s hy
  | case3 s c x ih => rwa [List.cons_append, List.cons_append, cellWidthAfter_joiner_cons]
  | case4 s x _ ih =>
    rw [List.cons_append, cellWidthAfter_selector_cons]
    omega
  | case5 s c x hj hs hc ih => rwa [List.cons_append, cellWidthAfter_zero_cons hj hs hc]
  | case6 s c x hj hs hc ih =>
    rw [List.cons_append, cellWidthAfter_wide_cons hj hs hc]
    omega

theorem cellWidth_append_le (x : Text) (hy : isAnchored y) :
    cellWidth (x ++ y) ≤ cellWidth x + cellWidth y :=
  cellWidthAfter_append_le none x hy

/-- A start of a text is not wider than the text. -/
theorem cellWidthAfter_le_append (s : Option CodePoint) (x y : Text) :
    cellWidthAfter s x ≤ cellWidthAfter s (x ++ y) := by
  fun_induction cellWidthAfter s x with
  | case1 => exact Nat.zero_le _
  | case2 => exact Nat.zero_le _
  | case3 s c x ih => rwa [List.cons_append, List.cons_append, cellWidthAfter_joiner_cons]
  | case4 s x _ ih =>
    rw [List.cons_append, cellWidthAfter_selector_cons]
    omega
  | case5 s c x hj hs hc ih => rwa [List.cons_append, cellWidthAfter_zero_cons hj hs hc]
  | case6 s c x hj hs hc ih =>
    rw [List.cons_append, cellWidthAfter_wide_cons hj hs hc]
    omega

theorem cellWidth_le_of_start (h : x <+: y) : cellWidth x ≤ cellWidth y := by
  obtain ⟨z, rfl⟩ := h
  exact cellWidthAfter_le_append none x z

/-! ## Clusters in a row -/

variable {k : Cluster} {before : Option CodePoint} {part : List Cluster}

/-- The text of clusters in a row. -/
def partText (part : List Cluster) : Text := part.flatMap Cluster.text

/-- The number of cells that clusters in a row fill. -/
def partWidth (part : List Cluster) : Nat := (part.map Cluster.width).sum

theorem partText_cons (k : Cluster) (part : List Cluster) :
    partText (k :: part) = k.text ++ partText part := List.flatMap_cons

theorem partText_singleton (k : Cluster) : partText [k] = k.text := List.append_nil _

theorem partText_append (p q : List Cluster) : partText (p ++ q) = partText p ++ partText q :=
  List.flatMap_append

theorem partWidth_cons (k : Cluster) (part : List Cluster) :
    partWidth (k :: part) = k.width + partWidth part := List.sum_cons

theorem partWidth_append (p q : List Cluster) : partWidth (p ++ q) = partWidth p + partWidth q := by
  rw [partWidth, List.map_append, List.sum_append_nat, partWidth, partWidth]

theorem clustersFrom_joiner_cons (k : Cluster) (before : Option CodePoint) (c : CodePoint)
    (t : Text) :
    clustersFrom k before (.joiner :: c :: t) =
      clustersFrom ⟨k.text ++ [.joiner, c], k.width⟩ before t := by
  rw [clustersFrom, if_pos rfl]

theorem clustersFrom_selector_cons (k : Cluster) (before : Option CodePoint) (t : Text) :
    clustersFrom k before (.pictureSelector :: t) =
      clustersFrom ⟨k.text ++ [.pictureSelector], k.width + (before.any (·.widens)).toNat⟩ none
        t := by
  rw [clustersFrom.eq_def]
  exact (if_neg (by decide)).trans (if_pos rfl)

theorem clustersFrom_zero_cons (hj : c ≠ .joiner) (hs : c ≠ .pictureSelector)
    (hc : c.cellWidth = 0) :
    clustersFrom k before (c :: t) = clustersFrom ⟨k.text ++ [c], k.width⟩ before t := by
  rw [clustersFrom.eq_def]
  exact (if_neg hj).trans ((if_neg hs).trans (if_pos hc))

theorem clustersFrom_wide_cons (hj : c ≠ .joiner) (hs : c ≠ .pictureSelector)
    (hc : c.cellWidth ≠ 0) :
    clustersFrom k before (c :: t) = k :: clustersFrom ⟨[c], c.cellWidth⟩ (some c) t := by
  rw [clustersFrom.eq_def]
  exact (if_neg hj).trans ((if_neg hs).trans (if_neg hc))

theorem partText_clustersFrom (k : Cluster) (before : Option CodePoint) (t : Text) :
    partText (clustersFrom k before t) = k.text ++ t := by
  unfold partText
  fun_induction clustersFrom k before t <;> simp_all

/-- The clusters of a text are the text. -/
theorem partText_clusters (t : Text) : partText (clusters t) = t := by
  cases t with
  | nil => rfl
  | cons c t => exact partText_clustersFrom _ _ t

/-- Behind `s` a cluster fills its cells, and leaves `before` to be widened by what follows. -/
def Cluster.Leaves (k : Cluster) (s before : Option CodePoint) : Prop :=
  ∀ u, cellWidthAfter s (k.text ++ u) = k.width + cellWidthAfter before u

theorem Cluster.Leaves.joined (h : k.Leaves s before) (c : CodePoint) :
    Cluster.Leaves ⟨k.text ++ [.joiner, c], k.width⟩ s before := by
  intro u
  rw [List.append_assoc, h, List.cons_append, List.singleton_append, cellWidthAfter_joiner_cons]

theorem Cluster.Leaves.selected (h : k.Leaves s before) :
    Cluster.Leaves ⟨k.text ++ [.pictureSelector], k.width + (before.any (·.widens)).toNat⟩ s
      none := by
  intro u
  rw [List.append_assoc, h, List.singleton_append, cellWidthAfter_selector_cons, Nat.add_assoc]

theorem Cluster.Leaves.combined (h : k.Leaves s before) (hj : c ≠ .joiner)
    (hs : c ≠ .pictureSelector) (hc : c.cellWidth = 0) :
    Cluster.Leaves ⟨k.text ++ [c], k.width⟩ s before := by
  intro u
  rw [List.append_assoc, h, List.singleton_append, cellWidthAfter_zero_cons hj hs hc]

theorem Cluster.leaves_wide (hj : c ≠ .joiner) (hs : c ≠ .pictureSelector)
    (hc : c.cellWidth ≠ 0) : Cluster.Leaves ⟨[c], c.cellWidth⟩ s (some c) :=
  fun _ => cellWidthAfter_wide_cons hj hs hc

theorem cellWidthAfter_of_first_singleton (h : cellWidthAfter s k.text = k.width)
    (hpart : part <+: [k]) : cellWidthAfter s (partText part) = partWidth part := by
  obtain rfl | ⟨rest, rfl, hrest⟩ := List.prefix_cons_iff.mp hpart
  · rfl
  · rw [List.prefix_nil.mp hrest, partText_singleton]
    exact h

/-- The first clusters in a row fill the cells that they fill one by one. -/
theorem cellWidthAfter_of_first (h : k.Leaves s before)
    (hpart : part <+: clustersFrom k before t) :
    cellWidthAfter s (partText part) = partWidth part := by
  fun_induction clustersFrom k before t generalizing s part with
  | case1 k before =>
    have hk := h []
    rw [List.append_nil] at hk
    exact cellWidthAfter_of_first_singleton hk hpart
  | case2 k before => exact cellWidthAfter_of_first_singleton (h [.joiner]) hpart
  | case3 k before c t ih => exact ih (h.joined c) hpart
  | case4 k before t _ ih => exact ih h.selected hpart
  | case5 k before c t hj hs hc ih => exact ih (h.combined hj hs hc) hpart
  | case6 k before c t hj hs hc ih =>
    obtain rfl | ⟨rest, rfl, hrest⟩ := List.prefix_cons_iff.mp hpart
    · rfl
    · have hwidth := ih (s := before) (Cluster.leaves_wide hj hs hc) hrest
      rw [partText_cons, partWidth_cons, h, hwidth]

/-- So do clusters that follow on one another, since each of them but the first one starts with a
character of its own. -/
theorem cellWidth_of_infix_clustersFrom (h : k.Leaves none before)
    (hpart : part <:+: clustersFrom k before t) : cellWidth (partText part) = partWidth part := by
  have hsingle (k : Cluster) (hk : cellWidth k.text = k.width) (hpart : part <:+: [k]) :
      cellWidth (partText part) = partWidth part := by
    obtain hfirst | hnil := List.infix_cons_iff.mp hpart
    · exact cellWidthAfter_of_first_singleton hk hfirst
    · rw [List.infix_nil.mp hnil]
      rfl
  fun_induction clustersFrom k before t with
  | case1 k before =>
    have hk := h []
    rw [List.append_nil] at hk
    exact hsingle k hk hpart
  | case2 k before => exact hsingle ⟨k.text ++ [CodePoint.joiner], k.width⟩ (h [.joiner]) hpart
  | case3 k before c t ih => exact ih (h.joined c) hpart
  | case4 k before t _ ih => exact ih h.selected hpart
  | case5 k before c t hj hs hc ih => exact ih (h.combined hj hs hc) hpart
  | case6 k before c t hj hs hc ih =>
    obtain hfirst | hlater := List.infix_cons_iff.mp hpart
    · rw [← clustersFrom_wide_cons hj hs hc] at hfirst
      exact cellWidthAfter_of_first h hfirst
    · exact ih (Cluster.leaves_wide hj hs hc) hlater

/-- A text starts with neither a joiner nor a selector. -/
def IsLed (t : Text) : Prop := ∀ c ∈ t.head?, c ≠ .joiner ∧ c ≠ .pictureSelector

theorem isLed_cons_iff : IsLed (c :: t) ↔ c ≠ .joiner ∧ c ≠ .pictureSelector := by
  refine ⟨fun h => h c rfl, ?_⟩
  rintro h d ⟨⟩
  exact h

theorem IsLed.of_start (h : IsLed y) (hxy : x <+: y) : IsLed x := by
  cases x with
  | nil => exact fun _ hc => absurd hc (Option.not_mem_none _)
  | cons c x =>
    obtain ⟨z, rfl⟩ := hxy
    exact h

theorem isLed_of_isAnchored (h : isAnchored t) : IsLed t := by
  cases t with
  | nil => exact fun _ hc => absurd hc (Option.not_mem_none _)
  | cons c t =>
    obtain ⟨hj, hs, -⟩ := isAnchored_cons_iff.mp h
    exact isLed_cons_iff.mpr ⟨hj, hs⟩

/-- A character at the start of a text opens the first cluster. -/
theorem cellWidth_cons (h : IsLed (c :: t)) :
    cellWidth (c :: t) =
      c.cellWidth + cellWidthAfter (if c.cellWidth = 0 then none else some c) t := by
  obtain ⟨hj, hs⟩ := isLed_cons_iff.mp h
  by_cases hc : c.cellWidth = 0
  · rw [if_pos hc, hc, Nat.zero_add]
    exact cellWidthAfter_zero_cons hj hs hc
  · rw [if_neg hc]
    exact cellWidthAfter_wide_cons hj hs hc

/-- Clusters that follow on one another fill the cells that they fill one by one. -/
theorem cellWidth_of_infix_clusters (h : IsLed t) (hpart : part <:+: clusters t) :
    cellWidth (partText part) = partWidth part := by
  cases t with
  | nil =>
    rw [List.infix_nil.mp hpart]
    rfl
  | cons c t =>
    refine cellWidth_of_infix_clustersFrom (fun u => ?_) hpart
    exact cellWidth_cons (t := u) h

/-- A cluster starts with a character of its own and fills three cells at most: two of its
character, and one more if that becomes a picture. -/
structure Cluster.IsProper (k : Cluster) : Prop where
  ne_nil : k.text ≠ []
  isLed : IsLed k.text
  width_le : k.width ≤ 3

theorem Cluster.IsProper.append (h : k.IsProper) (t : Text) {n : Nat} (hn : n ≤ 3) :
    Cluster.IsProper ⟨k.text ++ t, n⟩ := by
  obtain ⟨c, u, hcu⟩ := List.exists_cons_of_ne_nil h.ne_nil
  refine ⟨List.append_ne_nil_of_left_ne_nil h.ne_nil t, ?_, hn⟩
  dsimp only
  rw [hcu, List.cons_append, isLed_cons_iff, ← isLed_cons_iff (t := u), ← hcu]
  exact h.isLed

theorem Cluster.isProper_of_mem_clustersFrom {d : Cluster} (h : k.IsProper)
    (hwidth : k.width + before.isSome.toNat ≤ 3) (hd : d ∈ clustersFrom k before t) :
    d.IsProper := by
  fun_induction clustersFrom k before t with
  | case1 k before => exact List.mem_singleton.mp hd ▸ h
  | case2 k before => exact List.mem_singleton.mp hd ▸ h.append [.joiner] h.width_le
  | case3 k before c t ih => exact ih (h.append [.joiner, c] h.width_le) hwidth hd
  | case4 k before t _ ih =>
    -- A selector widens the character before it at most once, which the spare cell allows for.
    have hone : (before.any (·.widens)).toNat ≤ before.isSome.toNat := by
      cases before with
      | none => exact Nat.le_refl 0
      | some c => exact Bool.toNat_le _
    refine ih (h.append [.pictureSelector] (by omega)) ?_ hd
    rw [Option.isSome_none, Bool.toNat_false]
    dsimp only
    omega
  | case5 k before c t hj hs hc ih => exact ih (h.append [c] h.width_le) hwidth hd
  | case6 k before c t hj hs hc ih =>
    -- A character of its own starts a cluster with the spare cell unused.
    have htwo := c.cellWidth_le_two
    obtain rfl | hd := List.mem_cons.mp hd
    · exact h
    · refine ih ⟨List.cons_ne_nil _ _, isLed_cons_iff.mpr ⟨hj, hs⟩, ?_⟩ ?_ hd
      · dsimp only
        omega
      · rw [Option.isSome_some, Bool.toNat_true]
        dsimp only
        omega

theorem Cluster.isProper_of_mem_clusters {d : Cluster} (h : IsLed t) (hd : d ∈ clusters t) :
    d.IsProper := by
  cases t with
  | nil => cases hd
  | cons c t =>
    have htwo := c.cellWidth_le_two
    refine isProper_of_mem_clustersFrom ⟨List.cons_ne_nil _ _, isLed_cons_iff.mpr ?_, ?_⟩ ?_ hd
    · exact isLed_cons_iff.mp h
    · dsimp only
      omega
    · have hone := Bool.toNat_le (if c.cellWidth = 0 then none else some c).isSome
      dsimp only
      omega

end Text

end StyleImport
