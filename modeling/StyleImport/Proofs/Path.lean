import StyleImport.Path
import StyleImport.Proofs.Text.Pieces

/-!
# Proper paths

The paths that texts write have no empty names, no single dots and no slashes inside of names.
Such a path is told apart from its text only by what the text starts with, and all operations on
paths keep paths proper.

## Main definitions

- `Path.IsName`, `Path.IsProper`: the names and paths that texts write.
- `Path.IsBlank`: the names that make no step.

## Main statements

- `Path.ofText_isProper`, `Path.child_isProper`, `Path.normal_isProper`: paths are proper.
- `Path.split_toText`: the names in the text of a proper path.
-/

namespace StyleImport

namespace Path

/-- The names that stand between the slashes of a text and are not dropped. -/
def IsName (name : Text) : Prop := name ≠ [] ∧ name ≠ [.scalar '.'] ∧ CodePoint.scalar '/' ∉ name

/-- Tells whether a name makes no step of its own. -/
def IsBlank (name : Text) : Prop := name = [] ∨ name = [.scalar '.']

theorem IsName.not_isBlank {name : Text} (h : IsName name) : ¬IsBlank name :=
  fun hblank => hblank.elim h.1 h.2.1

/-- The paths that texts write. -/
def IsProper (p : Path) : Prop := ∀ name ∈ p.parts, IsName name

instance (name : Text) : Decidable (IsName name) := inferInstanceAs (Decidable (_ ∧ _ ∧ _))

instance (p : Path) : Decidable p.IsProper := inferInstanceAs (Decidable (∀ name ∈ p.parts, _))

theorem ofText_isProper (t : Text) : (ofText t).IsProper := by
  intro name hname
  simp only [ofText, partsOf, List.mem_filter, decide_eq_true_eq] at hname
  exact ⟨hname.2.1, hname.2.2, Text.notMem_of_mem_split hname.1⟩

theorem join_isProper {p q : Path} (hp : p.IsProper) (hq : q.IsProper) : (p.join q).IsProper := by
  unfold join
  split
  · intro name hname
    rcases List.mem_append.mp hname with h | h
    · exact hp name h
    · exact hq name h
  · exact hq

theorem child_isProper {p : Path} (hp : p.IsProper) (t : Text) : (p.child t).IsProper :=
  join_isProper hp (ofText_isProper t)

theorem parent_isProper {p : Path} (hp : p.IsProper) : p.parent.IsProper :=
  fun name hname => hp name (List.dropLast_subset _ hname)

/-- What holds for the names on two paths holds for those on the second one seen from the first. -/
theorem forall_child {P : Text → Prop} {p : Path} {t : Text} (hp : ∀ name ∈ p.parts, P name)
    (ht : ∀ name ∈ partsOf t, P name) : ∀ name ∈ (p.child t).parts, P name := by
  intro name hname
  unfold child join at hname
  split at hname
  · rcases List.mem_append.mp hname with h | h
    · exact hp name h
    · exact ht name h
  · exact ht name hname

theorem join_assoc (p q r : Path) : (p.join q).join r = p.join (q.join r) := by
  obtain ⟨anchor, parts⟩ := r
  obtain ⟨anchor', parts'⟩ := q
  cases anchor <;> cases anchor' <;> simp [join]

theorem child_join (p q : Path) (t : Text) : (p.join q).child t = p.join (q.child t) :=
  join_assoc p q (ofText t)

theorem child_nil (p : Path) : p.child [] = p := by
  show (⟨p.anchor, p.parts ++ []⟩ : Path) = p
  rw [List.append_nil]

/-- A text starts at the root just if it starts with a slash. -/
theorem anchorOf_eq_relative_iff {t : Text} :
    anchorOf t = .relative ↔ t.head? ≠ some (.scalar '/') := by
  cases t with
  | nil => simp [anchorOf]
  | cons c t =>
    by_cases hc : c = .scalar '/'
    · simp only [anchorOf, hc, List.takeWhile_cons_of_pos, List.length_cons, decide_true]
      split <;> simp_all
    · simp [anchorOf, hc]

/-- A name that makes no step leads to the same path. -/
theorem child_of_isBlank {p : Path} {t : Text} (h : IsBlank t) : p.child t = p := by
  rcases h with rfl | rfl
  · exact child_nil p
  · exact child_nil p

/-- A name is put behind the names of a path. -/
theorem child_of_isName {p : Path} {t : Text} (h : IsName t) :
    p.child t = ⟨p.anchor, p.parts ++ [t]⟩ := by
  obtain ⟨hne, hdot, hslash⟩ := h
  have hanchor : anchorOf t = .relative :=
    anchorOf_eq_relative_iff.mpr fun hhead => hslash (List.mem_of_mem_head? hhead)
  have hparts : partsOf t = [t] := by
    unfold partsOf
    rw [Text.split_of_notMem hslash]
    simp [hne, hdot]
  unfold child join ofText
  simp only [hanchor, hparts]

/-- The ending of a path is that of the name that was put behind it last. -/
theorem suffix_child_of_isName {p : Path} {t : Text} (h : IsName t) :
    (p.child t).suffix = suffixOf t := by
  rw [child_of_isName h, suffix, name, List.getLast?_concat, Option.getD_some]

theorem suffixOf_isSuffix (t : Text) : suffixOf t <:+ t := by
  unfold suffixOf
  split
  · next before after h =>
    obtain ⟨rfl, -⟩ := Text.eq_of_splitLast h
    split
    · exact List.suffix_append _ _
    · exact List.nil_suffix
  · exact List.nil_suffix

/-- Working out double dots only drops names. -/
theorem mem_foldl_pushNormal {absolute : Bool} {parts done : List Text} {name : Text}
    (h : name ∈ parts.foldl (pushNormal absolute) done) : name ∈ parts ∨ name ∈ done := by
  induction parts generalizing done with
  | nil => exact .inr h
  | cons part rest ih =>
    rcases ih h with hrest | hdone
    · exact .inl (List.mem_cons_of_mem part hrest)
    · have hpush : name = part ∨ name ∈ done := by
        unfold pushNormal at hdone
        split at hdone
        · split at hdone
          · split at hdone
            · cases hdone
            · exact .inl (List.mem_singleton.mp hdone)
          · split at hdone
            · exact List.mem_cons.mp hdone
            · exact .inr (List.mem_cons_of_mem _ hdone)
        · exact List.mem_cons.mp hdone
      rcases hpush with rfl | hdone
      · exact .inl List.mem_cons_self
      · exact .inr hdone

theorem mem_normal_parts {p : Path} {name : Text} (h : name ∈ p.normal.parts) : name ∈ p.parts := by
  simp only [normal, List.mem_reverse] at h
  rcases mem_foldl_pushNormal h with h | h
  · exact h
  · cases h

theorem normal_isProper {p : Path} (hp : p.IsProper) : p.normal.IsProper :=
  fun name hname => hp name (mem_normal_parts hname)

/-! ## The text of a path -/

theorem toText_ne_nil (p : Path) : p.toText ≠ [] := by
  unfold toText
  dsimp only
  split
  · exact List.cons_ne_nil _ _
  · next h => exact h

/-- The first character of a joined text of names is no slash. -/
theorem head?_join_ne_slash {parts : List Text} (h : ∀ name ∈ parts, IsName name) :
    (Text.join "/" parts).head? ≠ some (.scalar '/') := by
  cases parts with
  | nil => simp
  | cons name rest =>
    obtain ⟨hne, -, hslash⟩ := h name List.mem_cons_self
    cases name with
    | nil => exact absurd rfl hne
    | cons c name =>
      have hc : c ≠ .scalar '/' := fun hc => hslash (by rw [hc]; exact List.mem_cons_self)
      cases rest with
      | nil => simpa using hc
      | cons second rest => simpa [Text.join_cons_cons] using hc

theorem join_ne_nil {parts : List Text} (h : ∀ name ∈ parts, IsName name) (hne : parts ≠ []) :
    Text.join "/" parts ≠ [] := by
  intro hnil
  have hsplit := Text.split_join (fun name hname => (h name hname).2.2) hne
  rw [show Text.join [.scalar '/'] parts = [] from hnil] at hsplit
  have hmem : [] ∈ parts := by
    rw [← hsplit]
    exact List.mem_singleton_self []
  exact (h [] hmem).1 rfl

theorem toText_relative {parts : List Text} (h : ∀ name ∈ parts, IsName name) (hne : parts ≠ []) :
    toText ⟨.relative, parts⟩ = Text.join "/" parts :=
  if_neg (join_ne_nil h hne)

theorem toText_root (parts : List Text) :
    toText ⟨.root, parts⟩ = .scalar '/' :: Text.join "/" parts := rfl

theorem toText_doubleRoot (parts : List Text) :
    toText ⟨.doubleRoot, parts⟩ = .scalar '/' :: .scalar '/' :: Text.join "/" parts := rfl

/-- The text of a proper path starts with a slash just if the path starts at the root. -/
theorem head?_toText {p : Path} (hp : p.IsProper) :
    p.toText.head? = some (.scalar '/') ↔ p.isAbsolute := by
  obtain ⟨anchor, parts⟩ := p
  cases anchor with
  | relative =>
    have hhead : (toText ⟨.relative, parts⟩).head? ≠ some (.scalar '/') := by
      by_cases hne : parts = []
      · rw [hne]
        decide
      · rw [toText_relative hp hne]
        exact head?_join_ne_slash hp
    exact iff_of_false hhead (by simp [isAbsolute])
  | root => exact iff_of_true rfl rfl
  | doubleRoot => exact iff_of_true rfl rfl

/-- Between the slashes in the text of a proper path stand its names, behind names that make no
step of their own. -/
theorem split_toText {p : Path} (hp : p.IsProper) :
    ∃ blanks : List Text, (∀ name ∈ blanks, IsBlank name) ∧
      Text.split (.scalar '/') p.toText = blanks ++ p.parts := by
  obtain ⟨anchor, parts⟩ := p
  by_cases hne : parts = []
  · rw [hne]
    cases anchor with
    | relative => exact ⟨[[.scalar '.']], by simp [IsBlank], rfl⟩
    | root => exact ⟨[[], []], by simp [IsBlank], rfl⟩
    | doubleRoot => exact ⟨[[], [], []], by simp [IsBlank], rfl⟩
  · have hjoin : Text.split (.scalar '/') (Text.join "/" parts) = parts :=
      Text.split_join (fun name hname => (hp name hname).2.2) hne
    cases anchor with
    | relative =>
      rw [toText_relative hp hne, hjoin]
      exact ⟨[], by simp, rfl⟩
    | root =>
      rw [toText_root, Text.split_cons_self, hjoin]
      exact ⟨[[]], by simp [IsBlank], rfl⟩
    | doubleRoot =>
      rw [toText_doubleRoot, Text.split_cons_self, Text.split_cons_self, hjoin]
      exact ⟨[[], []], by simp [IsBlank], rfl⟩

end Path

end StyleImport
