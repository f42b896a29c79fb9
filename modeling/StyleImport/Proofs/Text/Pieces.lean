import Mathlib
import StyleImport.Text

/-!
# Pieces of a text

Splitting a text at a separator and joining the pieces again undo each other. The last separator
divides a text into the pieces before the last one, joined again, and the last piece.
-/

namespace StyleImport

namespace Text

variable {sep : CodePoint}

/-- Splitting is the splitting of lists at an element. -/
theorem split_eq_splitOn (sep : CodePoint) (t : Text) : split sep t = t.splitOn sep := by
  induction t with
  | nil => rfl
  | cons c t ih =>
    rw [List.splitOn_cons_eq_if_modifyHead, ← ih]
    simp only [split, beq_iff_eq]
    split
    · rfl
    · cases hs : split sep t with
      | nil => exact absurd (ih.symm.trans hs) (List.splitOn_ne_nil sep t)
      | cons piece pieces => rfl

theorem split_ne_nil (sep : CodePoint) (t : Text) : split sep t ≠ [] := by
  rw [split_eq_splitOn]
  exact List.splitOn_ne_nil sep t

theorem join_split (sep : CodePoint) (t : Text) : join [sep] (split sep t) = t := by
  rw [split_eq_splitOn]
  exact List.intercalate_splitOn sep

/-- Pieces without the separator are found again in what they are joined to. -/
theorem split_join {pieces : List Text} (h : ∀ p ∈ pieces, sep ∉ p) (hne : pieces ≠ []) :
    split sep (join [sep] pieces) = pieces := by
  rw [split_eq_splitOn]
  exact List.splitOn_intercalate sep h hne

theorem split_cons_self (t : Text) : split sep (sep :: t) = [] :: split sep t := by
  rw [split, if_pos rfl]

theorem split_of_notMem {t : Text} (h : sep ∉ t) : split sep t = [t] := by
  rw [split_eq_splitOn]
  exact List.splitOn_eq_singleton h

/-- No piece holds the separator. -/
theorem notMem_of_mem_split {t p : Text} (h : p ∈ split sep t) : sep ∉ p := by
  induction t generalizing p with
  | nil =>
    rw [split, List.mem_singleton] at h
    simp [h]
  | cons c t ih =>
    rw [split] at h
    split at h
    · rcases List.mem_cons.mp h with rfl | hp
      · simp
      · exact ih hp
    · next hc =>
      cases hs : split sep t with
      | nil => exact absurd hs (split_ne_nil sep t)
      | cons piece pieces =>
        rw [hs] at h ih
        rcases List.mem_cons.mp h with rfl | hp
        · have := ih List.mem_cons_self
          simp [this, Ne.symm hc]
        · exact ih (List.mem_cons_of_mem piece hp)

/-- What stands in a piece stands in the text. -/
theorem mem_of_mem_split {t p : Text} {c : CodePoint} (h : p ∈ split sep t) (hc : c ∈ p) :
    c ∈ t := by
  induction t generalizing p with
  | nil =>
    rw [split, List.mem_singleton] at h
    simp [h] at hc
  | cons d t ih =>
    rw [split] at h
    split at h
    · rcases List.mem_cons.mp h with rfl | hp
      · cases hc
      · exact List.mem_cons_of_mem d (ih hp hc)
    · cases hs : split sep t with
      | nil => exact absurd hs (split_ne_nil sep t)
      | cons piece pieces =>
        rw [hs] at h ih
        rcases List.mem_cons.mp h with rfl | hp
        · rcases List.mem_cons.mp hc with rfl | hc
          · exact List.mem_cons_self
          · exact List.mem_cons_of_mem d (ih List.mem_cons_self hc)
        · exact List.mem_cons_of_mem d (ih (List.mem_cons_of_mem piece hp) hc)

@[simp] theorem join_nil (sep : Text) : join sep [] = [] := rfl

@[simp] theorem join_singleton (sep p : Text) : join sep [p] = p := List.intercalate_singleton

theorem join_cons_cons (sep p q : Text) (rest : List Text) :
    join sep (p :: q :: rest) = p ++ sep ++ join sep (q :: rest) := List.intercalate_cons_cons

/-- The text before the first separator is the first piece. -/
theorem split_append_cons {p : Text} (h : sep ∉ p) (t : Text) :
    split sep (p ++ sep :: t) = p :: split sep t := by
  obtain ⟨q, rest, hpieces⟩ := List.exists_cons_of_ne_nil (split_ne_nil sep t)
  have hjoin : p ++ sep :: t = join [sep] (p :: split sep t) := by
    rw [hpieces, join_cons_cons, ← hpieces, join_split, List.append_assoc, List.singleton_append]
  rw [hjoin]
  exact split_join (List.forall_mem_cons.mpr ⟨h, fun _ => notMem_of_mem_split⟩)
    (List.cons_ne_nil _ _)

/-- What stands before a separator and what stands behind it are split apart from each other. -/
theorem split_append_sep (s t : Text) : split sep (s ++ sep :: t) = split sep s ++ split sep t := by
  induction s with
  | nil => exact split_cons_self t
  | cons c s ih =>
    rw [List.cons_append, split, split, ih]
    split
    · rfl
    · cases hs : split sep s with
      | nil => exact absurd hs (split_ne_nil sep s)
      | cons piece pieces => rfl

/-- Joined pieces are the first piece, or start with it and the separator. -/
theorem join_cons_eq (sep : CodePoint) (p : Text) (pieces : List Text) :
    pieces = [] ∧ join [sep] (p :: pieces) = p ∨
      join [sep] (p :: pieces) = p ++ sep :: join [sep] pieces := by
  cases pieces with
  | nil => exact .inl ⟨rfl, join_singleton _ _⟩
  | cons q rest =>
    refine .inr ?_
    rw [join_cons_cons, List.append_assoc, List.singleton_append]

/-- What stands neither in a piece nor in the separator does not stand in the joined text. -/
theorem notMem_join {sep : Text} {c : CodePoint} {pieces : List Text} (hsep : c ∉ sep)
    (h : ∀ p ∈ pieces, c ∉ p) : c ∉ join sep pieces := by
  induction pieces with
  | nil => simp
  | cons p rest ih =>
    cases rest with
    | nil =>
      rw [join_singleton]
      exact h p List.mem_cons_self
    | cons q rest =>
      have htail := ih fun r hr => h r (List.mem_cons_of_mem p hr)
      rw [join_cons_cons, List.mem_append, List.mem_append]
      rintro ((hc | hc) | hc)
      · exact h p List.mem_cons_self hc
      · exact hsep hc
      · exact htail hc

/-- Lists of nonempty pieces without the separator are told apart by what they are joined to. -/
theorem join_injective {ps qs : List Text} (hp : ∀ p ∈ ps, p ≠ [] ∧ sep ∉ p)
    (hq : ∀ q ∈ qs, q ≠ [] ∧ sep ∉ q) (h : join [sep] ps = join [sep] qs) : ps = qs := by
  have hnil : ∀ rs : List Text, (∀ r ∈ rs, r ≠ [] ∧ sep ∉ r) → join [sep] rs = [] → rs = [] := by
    intro rs hr hj
    cases rs with
    | nil => rfl
    | cons r rest =>
      have hs := split_join (fun p hp => (hr p hp).2) (List.cons_ne_nil r rest)
      rw [hj] at hs
      have hrnil : r = [] := by
        have := (List.cons.inj hs).1
        exact this.symm
      exact absurd hrnil (hr r List.mem_cons_self).1
  by_cases hps : ps = []
  · rw [hps] at h ⊢
    exact (hnil qs hq h.symm).symm
  · by_cases hqs : qs = []
    · rw [hqs] at h ⊢
      exact hnil ps hp h
    · rw [← split_join (fun p hm => (hp p hm).2) hps, h,
        split_join (fun q hm => (hq q hm).2) hqs]

/-! ## Pieces put together -/

/-- Joined pieces that are not empty are not empty. -/
theorem join_ne_nil (sep : Text) {pieces : List Text} (h : ∀ p ∈ pieces, p ≠ [])
    (hne : pieces ≠ []) : join sep pieces ≠ [] := by
  obtain ⟨p, rest, rfl⟩ := List.exists_cons_of_ne_nil hne
  have hp : p ≠ [] := h p List.mem_cons_self
  cases rest with
  | nil =>
    rw [join_singleton]
    exact hp
  | cons q rest =>
    rw [join_cons_cons, List.append_assoc]
    exact List.append_ne_nil_of_left_ne_nil hp _

theorem join_append (sep : Text) {ps qs : List Text} (hp : ps ≠ []) (hq : qs ≠ []) :
    join sep (ps ++ qs) = join sep ps ++ sep ++ join sep qs := by
  induction ps with
  | nil => exact absurd rfl hp
  | cons p rest ih =>
    cases rest with
    | nil =>
      obtain ⟨q, qs, rfl⟩ := List.exists_cons_of_ne_nil hq
      rw [List.singleton_append, join_cons_cons, join_singleton]
    | cons p' rest =>
      have htail := ih (List.cons_ne_nil p' rest)
      rw [List.cons_append, List.cons_append, join_cons_cons, ← List.cons_append, htail,
        join_cons_cons]
      simp only [List.append_assoc]

/-- Pieces that are not empty are joined part by part: the separator stands between the two parts
unless one of them is empty. -/
theorem join_append_eq_join (sep : Text) {ps qs : List Text} (hp : ∀ p ∈ ps, p ≠ [])
    (hq : ∀ q ∈ qs, q ≠ []) :
    join sep (ps ++ qs) = join sep ([join sep ps, join sep qs].filter (· ≠ [])) := by
  by_cases hps : ps = []
  · by_cases hqs : qs = []
    · simp [hps, hqs]
    · have hne := join_ne_nil sep hq hqs
      simp [hps, hne]
  · have hne := join_ne_nil sep hp hps
    by_cases hqs : qs = []
    · simp [hqs, hne]
    · have hne' := join_ne_nil sep hq hqs
      simp [hne, hne', join_append sep hps hqs, join_cons_cons]

/-- A piece stands between texts that do not depend on it. -/
theorem exists_join_insert (sep : Text) (ps qs : List Text) :
    ∃ before after : Text, ∀ p, join sep (ps ++ p :: qs) = before ++ p ++ after := by
  have hback : ∃ after : Text, ∀ p, join sep (p :: qs) = p ++ after := by
    cases qs with
    | nil => exact ⟨[], fun p => by simp⟩
    | cons q qs => exact ⟨_, fun p => by rw [join_cons_cons, List.append_assoc]⟩
  obtain ⟨after, hafter⟩ := hback
  by_cases hps : ps = []
  · exact ⟨[], after, fun p => by rw [hps, List.nil_append, hafter, List.nil_append]⟩
  · refine ⟨join sep ps ++ sep, after, fun p => ?_⟩
    rw [join_append sep hps (List.cons_ne_nil _ _), hafter]
    simp only [List.append_assoc]

/-! ## The last piece -/

theorem join_concat {sep : Text} {pieces : List Text} (last : Text) (hne : pieces ≠ []) :
    join sep (pieces ++ [last]) = join sep pieces ++ sep ++ last := by
  rw [join_append sep hne (List.cons_ne_nil _ _), join_singleton]

/-- A text is its last piece, or the pieces before it, joined again, with the separator and the last
piece behind them. -/
theorem exists_split_eq_concat (sep : CodePoint) (t : Text) :
    ∃ front last, split sep t = front ++ [last] ∧ sep ∉ last ∧
      (front = [] ∧ t = last ∨ front ≠ [] ∧ t = join [sep] front ++ sep :: last) := by
  obtain ⟨front, last, hpieces⟩ : ∃ front last, split sep t = front ++ [last] :=
    ⟨_, _, (List.dropLast_concat_getLast (split_ne_nil sep t)).symm⟩
  have hlast : sep ∉ last :=
    notMem_of_mem_split (hpieces ▸ List.mem_append_right front List.mem_cons_self)
  refine ⟨front, last, hpieces, hlast, ?_⟩
  rw [← join_split sep t, hpieces]
  by_cases hfront : front = []
  · exact .inl ⟨hfront, by rw [hfront, List.nil_append, join_singleton]⟩
  · refine .inr ⟨hfront, ?_⟩
    rw [join_concat last hfront, List.append_assoc, List.singleton_append]

/-- The text behind the last separator is the last piece. -/
theorem split_append_concat (s : Text) {t : Text} (h : sep ∉ t) :
    split sep (s ++ sep :: t) = split sep s ++ [t] := by
  have hjoin : s ++ sep :: t = join [sep] (split sep s ++ [t]) := by
    rw [join_concat t (split_ne_nil sep s), join_split, List.append_assoc, List.singleton_append]
  rw [hjoin]
  refine split_join (List.forall_mem_append.mpr ⟨fun _ => notMem_of_mem_split, ?_⟩)
    (List.concat_ne_nil _ _)
  exact List.forall_mem_singleton.mpr h

theorem splitLast_of_notMem {t : Text} (h : sep ∉ t) : splitLast sep t = none := by
  unfold splitLast
  simp [h]

theorem splitLast_append_cons (s : Text) {t : Text} (h : sep ∉ t) :
    splitLast sep (s ++ sep :: t) = some (s, t) := by
  have htail : (s ++ sep :: t).reverse.takeWhile (· ≠ sep) = t.reverse := by
    rw [List.reverse_append, List.reverse_cons, List.append_assoc, List.singleton_append,
      List.takeWhile_append_of_pos]
    · simp
    · intro c hc
      have hne : c ≠ sep := fun heq => h (heq ▸ List.mem_reverse.mp hc)
      simpa using hne
  have hlength : (s ++ sep :: t).length - t.length - 1 = s.length := by
    simp only [List.length_append, List.length_cons]
    omega
  unfold splitLast
  simp only [htail, List.reverse_reverse, hlength]
  simp

/-- The last separator stands between the pieces before the last one, joined again, and the last
piece. -/
theorem splitLast_eq (sep : CodePoint) (t : Text) :
    splitLast sep t =
      if sep ∈ t then some (join [sep] (split sep t).dropLast, (split sep t).getLastD [])
      else none := by
  obtain ⟨front, last, hpieces, hlast, ⟨rfl, rfl⟩ | ⟨hfront, ht⟩⟩ := exists_split_eq_concat sep t
  · rw [if_neg hlast, splitLast_of_notMem hlast]
  · have hmem : sep ∈ t := by
      rw [ht]
      exact List.mem_append_right _ List.mem_cons_self
    rw [if_pos hmem, hpieces, List.dropLast_concat, List.getLastD_concat, ht,
      splitLast_append_cons _ hlast]

/-- What the last separator divides a text into. -/
theorem eq_of_splitLast {t s u : Text} (h : splitLast sep t = some (s, u)) :
    t = s ++ sep :: u ∧ sep ∉ u := by
  obtain ⟨front, last, -, hlast, ⟨-, rfl⟩ | ⟨-, rfl⟩⟩ := exists_split_eq_concat sep t
  · rw [splitLast_of_notMem hlast] at h
    cases h
  · rw [splitLast_append_cons _ hlast] at h
    cases h
    exact ⟨rfl, hlast⟩

end Text

end StyleImport
