import StyleImport.Proofs.Disk.Status

/-!
# Double dots worked out by the text

The normal form of a path takes a name away for each double dot, while the system goes one step up
from where the names lead. Both come to the same place as long as no name that is taken away is the
name of a link. The normal form follows no more links than the path.

## Main definitions

- `Disk.KeepsWay`: the normal form of a path leads to where the path leads.
- `Disk.TakesNoLinkBack`: no double dot on a path takes the name of a link away.

## Main statements

- `Disk.exists_leads_normal`: a path that takes no link back leads where its normal form leads.
-/

namespace StyleImport

namespace Disk

variable {d d' : Disk} {n m k : Nat} {l l' mid : Location} {name : Text} {names : List Text}

/-- The normal form of a path from the root leads to where the path leads. -/
def KeepsWay (d : Disk) (p : Path) : Prop :=
  d.walk true linkLimit [] p.normal.parts = d.walk true linkLimit [] p.parts

/-- No double dot on a path from the root takes the name of a link away: whatever stands in front
of a double dot, its normal form does not lead to a link. -/
def TakesNoLinkBack (d : Disk) (p : Path) : Prop :=
  ∀ front back, p.parts = front ++ Text.ofString ".." :: back → ∀ l target,
    d.walk false linkLimit [] (Path.normal ⟨p.anchor, front⟩).parts = .ok (.occupied l) →
      d.entry? l ≠ some (.link target)

/-! ## Steps -/

/-- With more links left, names lead to the same place. -/
theorem Leads.add (h : d.Leads n l names m l') (j : Nat) :
    d.Leads (n + j) l names (m + j) l' := by
  induction h with
  | done => exact .done
  | stay hdir hname _ ih => exact .stay hdir hname ih
  | up hdir _ ih => exact .up hdir ih
  | enter hdir hname he hlink _ ih => exact .enter hdir hname he hlink ih
  | follow hdir hname he _ ih =>
    rw [Nat.add_right_comm]
    exact .follow hdir hname he ih

theorem leads_nil_iff : d.Leads n l [] m l' ↔ n = m ∧ l = l' := by
  constructor
  · rintro ⟨⟩
    exact ⟨rfl, rfl⟩
  · rintro ⟨rfl, rfl⟩
    exact .done

/-- A double dot leads one step up. -/
theorem of_leads_dots (h : d.Leads n l [".."] m l') : n = m ∧ l.dropLast = l' := by
  cases h with
  | stay hdir hblank h => exact absurd hblank (by simp [Path.IsBlank]; decide)
  | up hdir h => exact leads_nil_iff.mp h
  | enter hdir hname he hlink h => exact absurd rfl hname.2.1
  | follow hdir hname he h => exact absurd rfl hname.2.1

/-- A name leads to what has this name, unless this is a link. -/
theorem of_leads_name (hname : Path.IsName name) (hdots : name ≠ "..")
    (h : d.Leads n l [name] m l') :
    n = m ∧ l ++ [name] = l' ∨ ∃ target, d.entry? (l ++ [name]) = some (.link target) ∧
      d.walk false n l [name] = .ok (.occupied (l ++ [name])) := by
  cases h with
  | stay hdir hblank h => exact absurd hblank hname.not_isBlank
  | up hdir h => exact absurd rfl hdots
  | enter hdir hstep he hlink h => exact .inl (leads_nil_iff.mp h)
  | @follow _ _ _ _ _ target _ hdir hstep he h =>
    refine .inr ⟨target, he, ?_⟩
    rw [walk_step hdir hstep, he]
    exact if_pos ⟨rfl, rfl⟩

/-! ## Names that are taken away -/

/-- The names that are left when double dots are worked out, the last one first. -/
def stackOf (names : List Text) : List Text := names.foldl (Path.pushNormal true) []

theorem normal_parts {anchor : Anchor} (habs : anchor ≠ .relative) (names : List Text) :
    (Path.normal ⟨anchor, names⟩).parts = (stackOf names).reverse := by
  unfold Path.normal stackOf Path.isAbsolute
  simp [habs]

theorem stackOf_concat (names : List Text) (name : Text) :
    stackOf (names ++ [name]) = Path.pushNormal true (stackOf names) name := by
  simp [stackOf]

/-- No double dots are left. -/
theorem dots_notMem_stackOf (names : List Text) : Text.ofString ".." ∉ stackOf names := by
  induction names using List.reverseRecOn with
  | nil => simp [stackOf]
  | append_singleton names name ih =>
    rw [stackOf_concat]
    unfold Path.pushNormal
    split
    · split
      · simp
      · next last rest hstack =>
        rw [hstack, List.mem_cons, not_or] at ih
        rw [if_neg (Ne.symm ih.1)]
        exact ih.2
    · next hname =>
      rw [List.mem_cons, not_or]
      exact ⟨Ne.symm hname, ih⟩

/-- A double dot takes the last name away, if there is one. -/
theorem stackOf_concat_dots (names : List Text) :
    stackOf (names ++ [Text.ofString ".."]) = (stackOf names).tail := by
  have hdots := dots_notMem_stackOf names
  rw [stackOf_concat]
  unfold Path.pushNormal
  rw [if_pos rfl]
  cases hstack : stackOf names with
  | nil => rfl
  | cons last rest =>
    rw [hstack, List.mem_cons, not_or] at hdots
    exact if_neg (Ne.symm hdots.1)

/-- Other names are added one after the other. -/
theorem stackOf_append_of_notMem (xs : List Text) (h : Text.ofString ".." ∉ names) :
    stackOf (xs ++ names) = names.reverse ++ stackOf xs := by
  induction names using List.reverseRecOn with
  | nil => rw [List.append_nil, List.reverse_nil, List.nil_append]
  | append_singleton names name ih =>
    rw [List.mem_append, List.mem_singleton, not_or] at h
    rw [← List.append_assoc, stackOf_concat, ih h.1, List.reverse_concat]
    exact if_neg (Ne.symm h.2)

/-- A path without double dots is its own normal form. -/
theorem normal_of_notMem {p : Path} (habs : p.isAbsolute) (h : Text.ofString ".." ∉ p.parts) :
    p.normal = p := by
  have hanchor : p.anchor ≠ .relative := by simpa [Path.isAbsolute] using habs
  have hstack : stackOf p.parts = p.parts.reverse :=
    (stackOf_append_of_notMem [] h).trans (List.append_nil _)
  have hparts : p.normal.parts = p.parts := by
    rw [normal_parts hanchor, hstack, List.reverse_reverse]
  exact congrArg (Path.mk p.anchor) hparts

theorem isName_of_mem_stackOf (hnames : ∀ x ∈ names, Path.IsName x) :
    ∀ x ∈ stackOf names, Path.IsName x := by
  intro x hx
  rcases Path.mem_foldl_pushNormal hx with h | h
  · exact hnames x h
  · cases h

theorem TakesNoLinkBack.front {anchor : Anchor} {back : List Text}
    (h : d.TakesNoLinkBack ⟨anchor, names ++ back⟩) : d.TakesNoLinkBack ⟨anchor, names⟩ := by
  intro front rest hparts
  refine h front (rest ++ back) ?_
  show names ++ back = _
  rw [show names = front ++ Text.ofString ".." :: rest from hparts]
  simp

/-- A path that takes no link back leads where its normal form leads. -/
theorem exists_leads_normal {anchor : Anchor} (habs : anchor ≠ .relative)
    (hnames : ∀ x ∈ names, Path.IsName x) (hno : d.TakesNoLinkBack ⟨anchor, names⟩)
    (h : d.Leads linkLimit [] names k l) :
    ∃ j, d.Leads linkLimit [] (Path.normal ⟨anchor, names⟩).parts (k + j) l := by
  induction names using List.reverseRecOn generalizing k l with
  | nil =>
    obtain ⟨rfl, rfl⟩ := leads_nil_iff.mp h
    exact ⟨0, h⟩
  | append_singleton names name ih =>
    obtain ⟨k', mid, hfront, hlast⟩ := h.split
    rw [List.forall_mem_append] at hnames
    obtain ⟨j, hnormal⟩ := ih hnames.1 hno.front hfront
    rw [normal_parts habs] at hnormal
    rw [normal_parts habs, stackOf_concat]
    unfold Path.pushNormal
    by_cases hdots : name = ".."
    · rw [if_pos hdots]
      rw [hdots] at hlast
      obtain ⟨rfl, rfl⟩ := of_leads_dots hlast
      cases hstack : stackOf names with
      | nil =>
        -- At the root a double dot leads nowhere else.
        rw [hstack] at hnormal
        obtain ⟨hcount, rfl⟩ := leads_nil_iff.mp hnormal
        exact ⟨j, leads_nil_iff.mpr ⟨hcount, rfl⟩⟩
      | cons last rest =>
        have hlastName := isName_of_mem_stackOf hnames.1 last (by simp [hstack])
        have hlastDots : last ≠ ".." := by
          rintro rfl
          exact dots_notMem_stackOf names (by simp [hstack])
        rw [hstack, List.reverse_cons] at hnormal
        obtain ⟨k₂, mid', hrest, hend⟩ := hnormal.split
        dsimp only
        rw [if_neg hlastDots]
        rcases of_leads_name hlastName hlastDots hend with ⟨rfl, rfl⟩ | ⟨target, htarget, hwalk⟩
        · rw [List.dropLast_concat]
          exact ⟨j, hrest⟩
        · refine absurd htarget (hno names [] (by simp [hdots]) _ target ?_)
          rw [normal_parts habs, hstack, List.reverse_cons, hrest.walk_append (.inl (by simp))]
          exact hwalk
    · rw [if_neg hdots, List.reverse_cons]
      exact ⟨j, hnormal.append (hlast.add j)⟩

/-- A path that takes no link back is as good as its normal form, also after changes that keep what
is there. -/
theorem keepsWay_of_takesNoLinkBack {p : Path} (habs : p.isAbsolute) (hp : p.IsProper)
    (hno : d.TakesNoLinkBack p) (h : d.Leads linkLimit [] p.parts m l) (hk : d.Keeps d') :
    d'.KeepsWay p := by
  have hanchor : p.anchor ≠ .relative := by simpa [Path.isAbsolute] using habs
  obtain ⟨j, hnormal⟩ := exists_leads_normal hanchor hp hno h
  exact (hnormal.keeps hk).walk_eq.trans (h.keeps hk).walk_eq.symm

end Disk

end StyleImport
