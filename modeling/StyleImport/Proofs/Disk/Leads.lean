import StyleImport.Proofs.Disk.Tree

/-!
# Where names lead

A walk that follows all links is a chain of steps: it stays, goes up, enters what stands in the
directory or goes on with the target of a link. Seen as a relation, walks along two lists of names
are put together and taken apart, and where a walk leads stays the same as long as everything on
the disk stays what it is.

## Main definitions

- `Disk.Leads`: names lead from one place to another one, all links followed.
- `Disk.EndsLike`: how a walk ends after files have been written.

## Main statements

- `Disk.walk_eq_occupied_iff`: a walk ends at a place just if the names lead there.
- `Disk.Leads.append`, `Disk.Leads.split`: names lead through the place where the first of them
  lead.
- `Disk.exists_directory_of_walk_free`: a free place lies in a directory.
- `Disk.walk_grows`: how a walk ends after files have been written.
-/

namespace StyleImport

namespace Disk

/-- The names that lead into a directory. -/
def IsStep (name : Text) : Prop :=
  ¬Path.IsBlank name ∧ name ≠ ".." ∧ byteCount name ≤ nameLimit

/-- Names lead from one place to another one: `Leads d n l names m l'` says that a walk along
`names` from `l` comes to `l'`, and that of `n` links that may be followed `m` are left. -/
inductive Leads (d : Disk) : Nat → Location → List Text → Nat → Location → Prop
  /-- Without names a walk is at its end. -/
  | done {n : Nat} {l : Location} : Leads d n l [] n l
  /-- An empty name or a single dot stays in the directory. -/
  | stay {n m : Nat} {l l' : Location} {name : Text} {rest : List Text}
      (hdir : d.entry? l = some .directory) (hname : Path.IsBlank name)
      (h : Leads d n l rest m l') : Leads d n l (name :: rest) m l'
  /-- A double dot leads out of the directory. -/
  | up {n m : Nat} {l l' : Location} {rest : List Text}
      (hdir : d.entry? l = some .directory)
      (h : Leads d n l.dropLast rest m l') : Leads d n l (".." :: rest) m l'
  /-- A name leads to the file or directory of this name. -/
  | enter {n m : Nat} {l l' : Location} {name : Text} {rest : List Text} {e : Entry}
      (hdir : d.entry? l = some .directory) (hname : IsStep name)
      (he : d.entry? (l ++ [name]) = some e) (hlink : ∀ target, e ≠ .link target)
      (h : Leads d n (l ++ [name]) rest m l') : Leads d n l (name :: rest) m l'
  /-- The name of a link leads to where its target leads. -/
  | follow {n m : Nat} {l l' : Location} {name target : Text} {rest : List Text}
      (hdir : d.entry? l = some .directory) (hname : IsStep name)
      (he : d.entry? (l ++ [name]) = some (.link target))
      (h : Leads d n (startOf l target) (steps target ++ rest) m l') :
      Leads d (n + 1) l (name :: rest) m l'

variable {d d' : Disk} {n m k : Nat} {l l' mid : Location} {names xs ys : List Text}

theorem Leads.entry?_of_cons {name : Text} (h : d.Leads n l (name :: names) m l') :
    d.entry? l = some .directory := by
  cases h <;> assumption

/-! ## Walks and steps -/

theorem walk_stay {followLast : Bool} {name : Text} (hdir : d.entry? l = some .directory)
    (hname : Path.IsBlank name) :
    d.walk followLast n l (name :: names) = d.walk followLast n l names := by
  rw [walk]
  simp only [hdir]
  exact if_pos hname

theorem walk_up {followLast : Bool} (hdir : d.entry? l = some .directory) :
    d.walk followLast n l (".." :: names) = d.walk followLast n l.dropLast names := by
  rw [walk]
  simp only [hdir]
  exact (if_neg (by decide)).trans (if_pos trivial)

/-- A name that leads into a directory goes on with what stands there under this name. -/
theorem walk_step {followLast : Bool} {name : Text} (hdir : d.entry? l = some .directory)
    (hname : IsStep name) :
    d.walk followLast n l (name :: names) =
      match d.entry? (l ++ [name]) with
      | none => if names = [] then .ok (.free (l ++ [name])) else .error .notFound
      | some (.link target) =>
        if names = [] ∧ !followLast then .ok (.occupied (l ++ [name]))
        else match n with
          | 0 => .error .tooManyLinks
          | n + 1 => d.walk followLast n (startOf l target) (steps target ++ names)
      | some _ => d.walk followLast n (l ++ [name]) names := by
  rw [walk]
  simp only [hdir]
  refine (if_neg hname.1).trans ((if_neg hname.2.1).trans ?_)
  exact if_neg (Nat.not_lt.mpr hname.2.2)

theorem walk_missing {followLast : Bool} {name : Text} (hdir : d.entry? l = some .directory)
    (hname : IsStep name) (he : d.entry? (l ++ [name]) = none) :
    d.walk followLast n l (name :: names) =
      if names = [] then .ok (.free (l ++ [name])) else .error .notFound := by
  rw [walk_step hdir hname, he]

theorem walk_enter {followLast : Bool} {name : Text} {e : Entry}
    (hdir : d.entry? l = some .directory) (hname : IsStep name)
    (he : d.entry? (l ++ [name]) = some e) (hlink : ∀ target, e ≠ .link target) :
    d.walk followLast n l (name :: names) = d.walk followLast n (l ++ [name]) names := by
  rw [walk_step hdir hname, he]
  cases e with
  | file bytes => rfl
  | directory => rfl
  | link target => exact absurd rfl (hlink target)

/-- A link is followed unless it stands at the end of the path and is not to be followed there. -/
theorem walk_follow {followLast : Bool} {name target : Text} (hdir : d.entry? l = some .directory)
    (hname : IsStep name) (he : d.entry? (l ++ [name]) = some (.link target))
    (hon : names ≠ [] ∨ followLast = true) :
    d.walk followLast (n + 1) l (name :: names) =
      d.walk followLast n (startOf l target) (steps target ++ names) := by
  rw [walk_step hdir hname, he]
  refine if_neg ?_
  rintro ⟨hnil, hlast⟩
  rcases hon with hne | rfl
  · exact hne hnil
  · cases hlast

theorem walk_long {followLast : Bool} {name : Text} (hdir : d.entry? l = some .directory)
    (hblank : ¬Path.IsBlank name) (hdots : name ≠ "..") (hlong : nameLimit < byteCount name) :
    d.walk followLast n l (name :: names) = .error .nameTooLong := by
  rw [walk]
  simp only [hdir]
  refine (if_neg hblank).trans ((if_neg hdots).trans ?_)
  exact if_pos hlong

/-- Nothing stands at a free place. -/
theorem entry?_of_walk_free {followLast : Bool}
    (h : d.walk followLast n l names = .ok (.free l')) : d.entry? l' = none := by
  fun_induction walk d followLast n l names with
  | case8 n l name hdir hblank hdots hlong he =>
    cases h
    exact he
  | case5 _ _ _ _ _ _ ih | case6 _ _ _ _ _ ih => exact ih h
  | case12 _ _ _ _ _ _ _ _ _ _ _ ih | case13 _ _ _ _ _ _ _ _ _ _ _ ih => exact ih h
  | _ => cases h

theorem exists_leads_of_walk (h : d.walk true n l names = .ok (.occupied l')) :
    ∃ m, d.Leads n l names m l' := by
  fun_induction walk d true n l names with
  | case1 n l =>
    cases h
    exact ⟨n, .done⟩
  | case5 n l name rest hdir hblank ih =>
    obtain ⟨m, hm⟩ := ih h
    exact ⟨m, .stay hdir hblank hm⟩
  | case6 n l rest hdir hblank ih =>
    obtain ⟨m, hm⟩ := ih h
    exact ⟨m, .up hdir hm⟩
  | case12 l name rest hdir hblank hdots hlong target he hlast n ih =>
    obtain ⟨m, hm⟩ := ih h
    exact ⟨m, .follow hdir ⟨hblank, hdots, Nat.not_lt.mp hlong⟩ he hm⟩
  | case13 n l name rest hdir hblank hdots hlong e hlink he ih =>
    obtain ⟨m, hm⟩ := ih h
    exact ⟨m, .enter hdir ⟨hblank, hdots, Nat.not_lt.mp hlong⟩ he hlink hm⟩
  | case10 n l name rest hdir hblank hdots hlong target he hlast => simp at hlast
  | _ => cases h

/-- A walk goes on from where its first names lead. -/
theorem Leads.walk_append {followLast : Bool} (h : d.Leads n l xs k mid)
    (hon : ys ≠ [] ∨ followLast = true) :
    d.walk followLast n l (xs ++ ys) = d.walk followLast k mid ys := by
  induction h with
  | done => rfl
  | stay hdir hname _ ih => rw [List.cons_append, walk_stay hdir hname, ih]
  | up hdir _ ih => rw [List.cons_append, walk_up hdir, ih]
  | enter hdir hname he hlink _ ih =>
    rw [List.cons_append, walk_enter hdir hname he hlink, ih]
  | @follow _ _ _ _ _ _ rest hdir hname he _ ih =>
    have hrest := hon.imp_left (List.append_ne_nil_of_right_ne_nil rest)
    rw [List.cons_append, walk_follow hdir hname he hrest, ← List.append_assoc, ih]

theorem Leads.walk_eq (h : d.Leads n l names m l') :
    d.walk true n l names = .ok (.occupied l') := by
  rw [← List.append_nil names, h.walk_append (.inr rfl), walk]

/-- A walk ends at a place just if the names lead there. -/
theorem walk_eq_occupied_iff :
    d.walk true n l names = .ok (.occupied l') ↔ ∃ m, d.Leads n l names m l' :=
  ⟨exists_leads_of_walk, fun ⟨_, h⟩ => h.walk_eq⟩

/-! ## Walks put together -/

theorem Leads.append (h : d.Leads n l xs k mid) (h' : d.Leads k mid ys m l') :
    d.Leads n l (xs ++ ys) m l' := by
  induction h with
  | done => exact h'
  | stay hdir hname _ ih => exact .stay hdir hname (ih h')
  | up hdir _ ih => exact .up hdir (ih h')
  | enter hdir hname he hlink _ ih => exact .enter hdir hname he hlink (ih h')
  | follow hdir hname he _ ih =>
    have hrest := ih h'
    rw [List.append_assoc] at hrest
    exact .follow hdir hname he hrest

theorem Leads.split (h : d.Leads n l (xs ++ ys) m l') :
    ∃ k mid, d.Leads n l xs k mid ∧ d.Leads k mid ys m l' := by
  -- The induction is on the walk and not on `xs`, because a link puts its target in front of it.
  generalize hnames : xs ++ ys = names at h
  induction h generalizing xs with
  | done =>
    obtain ⟨rfl, rfl⟩ := List.append_eq_nil_iff.mp hnames
    exact ⟨_, _, .done, .done⟩
  | stay hdir hname h ih =>
    obtain ⟨rfl, rfl⟩ | ⟨xs, rfl, hrest⟩ := List.append_eq_cons_iff.mp hnames
    · exact ⟨_, _, .done, .stay hdir hname h⟩
    · obtain ⟨k, mid, hfirst, hsecond⟩ := ih hrest.symm
      exact ⟨k, mid, .stay hdir hname hfirst, hsecond⟩
  | up hdir h ih =>
    obtain ⟨rfl, rfl⟩ | ⟨xs, rfl, hrest⟩ := List.append_eq_cons_iff.mp hnames
    · exact ⟨_, _, .done, .up hdir h⟩
    · obtain ⟨k, mid, hfirst, hsecond⟩ := ih hrest.symm
      exact ⟨k, mid, .up hdir hfirst, hsecond⟩
  | enter hdir hname he hlink h ih =>
    obtain ⟨rfl, rfl⟩ | ⟨xs, rfl, hrest⟩ := List.append_eq_cons_iff.mp hnames
    · exact ⟨_, _, .done, .enter hdir hname he hlink h⟩
    · obtain ⟨k, mid, hfirst, hsecond⟩ := ih hrest.symm
      exact ⟨k, mid, .enter hdir hname he hlink hfirst, hsecond⟩
  | @follow _ _ _ _ _ target _ hdir hname he h ih =>
    obtain ⟨rfl, rfl⟩ | ⟨xs, rfl, hrest⟩ := List.append_eq_cons_iff.mp hnames
    · exact ⟨_, _, .done, .follow hdir hname he h⟩
    · have htarget : (steps target ++ xs) ++ ys = steps target ++ _ :=
        (List.append_assoc _ _ _).trans (congrArg (steps target ++ ·) hrest.symm)
      obtain ⟨k, mid, hfirst, hsecond⟩ := ih htarget
      exact ⟨k, mid, .follow hdir hname he hfirst, hsecond⟩

/-- The first names of a walk that comes to its end lead somewhere. -/
theorem exists_leads_of_walk_append {followLast : Bool} {landing : Landing} {xs ys : List Text}
    (hys : ys ≠ []) (h : d.walk followLast n here (xs ++ ys) = .ok landing) :
    ∃ k mid, d.Leads n here xs k mid := by
  generalize hnames : xs ++ ys = names at h
  fun_induction walk d followLast n here names generalizing xs with
  | case5 n here name rest hdir hblank ih =>
    obtain ⟨rfl, -⟩ | ⟨xs, rfl, hrest⟩ := List.append_eq_cons_iff.mp hnames
    · exact ⟨_, _, .done⟩
    · obtain ⟨k, mid, hleads⟩ := ih hrest.symm h
      exact ⟨k, mid, .stay hdir hblank hleads⟩
  | case6 n here rest hdir hblank ih =>
    obtain ⟨rfl, -⟩ | ⟨xs, rfl, hrest⟩ := List.append_eq_cons_iff.mp hnames
    · exact ⟨_, _, .done⟩
    · obtain ⟨k, mid, hleads⟩ := ih hrest.symm h
      exact ⟨k, mid, .up hdir hleads⟩
  | case8 n here name hdir hblank hdots hlong hnone =>
    -- A walk that stops at its last name has none of the first names left.
    obtain ⟨rfl, -⟩ | ⟨xs, rfl, hrest⟩ := List.append_eq_cons_iff.mp hnames
    · exact ⟨_, _, .done⟩
    · exact absurd (List.append_eq_nil_iff.mp hrest.symm).2 hys
  | case10 n here name rest hdir hblank hdots hlong target he hlast =>
    obtain ⟨rfl, -⟩ | ⟨xs, rfl, hrest⟩ := List.append_eq_cons_iff.mp hnames
    · exact ⟨_, _, .done⟩
    · exact absurd (List.append_eq_nil_iff.mp (hrest.symm.trans hlast.1)).2 hys
  | case12 here name rest hdir hblank hdots hlong target he hlast n ih =>
    obtain ⟨rfl, -⟩ | ⟨xs, rfl, hrest⟩ := List.append_eq_cons_iff.mp hnames
    · exact ⟨_, _, .done⟩
    · have htarget : (steps target ++ xs) ++ ys = steps target ++ rest :=
        (List.append_assoc _ _ _).trans (congrArg (steps target ++ ·) hrest.symm)
      obtain ⟨k, mid, hleads⟩ := ih htarget h
      exact ⟨k, mid, .follow hdir ⟨hblank, hdots, Nat.not_lt.mp hlong⟩ he hleads⟩
  | case13 n here name rest hdir hblank hdots hlong e hlink he ih =>
    obtain ⟨rfl, -⟩ | ⟨xs, rfl, hrest⟩ := List.append_eq_cons_iff.mp hnames
    · exact ⟨_, _, .done⟩
    · obtain ⟨k, mid, hleads⟩ := ih hrest.symm h
      exact ⟨k, mid, .enter hdir ⟨hblank, hdots, Nat.not_lt.mp hlong⟩ he hlink hleads⟩
  | case1 n here => exact absurd (List.append_eq_nil_iff.mp hnames).2 hys
  | _ => cases h

/-- A walk that comes to its end goes on from where its first names lead. -/
theorem walk_split {followLast : Bool} {landing : Landing} {xs ys : List Text} (hys : ys ≠ [])
    (h : d.walk followLast n here (xs ++ ys) = .ok landing) :
    ∃ k mid, d.Leads n here xs k mid ∧ d.walk followLast k mid ys = .ok landing := by
  obtain ⟨k, mid, hleads⟩ := exists_leads_of_walk_append hys h
  rw [hleads.walk_append (.inl hys)] at h
  exact ⟨k, mid, hleads, h⟩

/-- Names lead to one place only. -/
theorem Leads.unique {m₁ m₂ : Nat} {l₁ l₂ : Location} (h₁ : d.Leads n l names m₁ l₁)
    (h₂ : d.Leads n l names m₂ l₂) : l₁ = l₂ := by
  have h := h₁.walk_eq.symm.trans h₂.walk_eq
  cases h
  rfl

theorem not_isBlank_dots : ¬Path.IsBlank ".." := by
  unfold Path.IsBlank
  decide

/-- Names that lead somewhere on two disks lead to the same place, if the same stands on both
wherever something stands on both. -/
theorem Leads.unique_of_agree {m₁ m₂ : Nat} {l₁ l₂ : Location}
    (hagree : ∀ l e e', d.entry? l = some e → d'.entry? l = some e' → e' = e)
    (h₁ : d.Leads n l names m₁ l₁) (h₂ : d'.Leads n l names m₂ l₂) : l₁ = l₂ := by
  -- The first walk is followed step by step; on the second disk no other kind of step is possible.
  induction h₁ with
  | done =>
    cases h₂
    rfl
  | stay hdir hname _ ih =>
    cases h₂ with
    | stay _ _ h => exact ih h
    | up _ _ => exact absurd hname not_isBlank_dots
    | enter _ hstep _ _ _ => exact absurd hname hstep.1
    | follow _ hstep _ _ => exact absurd hname hstep.1
  | up hdir _ ih =>
    cases h₂ with
    | stay _ hname _ => exact absurd hname not_isBlank_dots
    | up _ h => exact ih h
    | enter _ hstep _ _ _ => exact absurd rfl hstep.2.1
    | follow _ hstep _ _ => exact absurd rfl hstep.2.1
  | enter hdir hstep he hlink _ ih =>
    cases h₂ with
    | stay _ hname _ => exact absurd hname hstep.1
    | up _ _ => exact absurd rfl hstep.2.1
    | enter _ _ _ _ h => exact ih h
    | follow _ _ he' _ => exact absurd (hagree _ _ _ he he').symm (hlink _)
  | follow hdir hstep he _ ih =>
    cases h₂ with
    | stay _ hname _ => exact absurd hname hstep.1
    | up _ _ => exact absurd rfl hstep.2.1
    | enter _ _ he' hlink' _ => exact absurd (hagree _ _ _ he he') (hlink' _)
    | follow _ _ he' h =>
      cases hagree _ _ _ he he'
      exact ih h

/-- Names that make no step of their own in front of other names lead nowhere else. -/
theorem walk_blanks {followLast : Bool} {blanks : List Text} (hdir : d.entry? l = some .directory)
    (h : ∀ name ∈ blanks, Path.IsBlank name) :
    d.walk followLast n l (blanks ++ names) = d.walk followLast n l names := by
  induction blanks with
  | nil => rfl
  | cons name blanks ih =>
    rw [List.forall_mem_cons] at h
    rw [List.cons_append, walk_stay hdir h.1, ih h.2]

/-! ## Walks to the places of a tree -/

theorem isStep_of_isEntryName {name : Text} (h : IsEntryName name) : IsStep name :=
  ⟨h.1.not_isBlank, h.2.1, h.2.2.1⟩

/-- On a tree the names on the way to a place below a directory lead there, without any link. -/
theorem IsTree.leads_directory (hd : d.IsTree) (hdir : d.entry? (l ++ names) = some .directory) :
    d.Leads n l names n (l ++ names) := by
  induction names using List.reverseRecOn with
  | nil =>
    rw [List.append_nil]
    exact .done
  | append_singleton names name ih =>
    rw [← List.append_assoc] at hdir ⊢
    have hparent : d.entry? (l ++ names) = some .directory := by
      have := hd.entry?_dropLast hdir
      rwa [List.dropLast_concat] at this
    have hname := hd.isEntryName hdir name (by simp)
    exact (ih hparent).append
      (.enter hparent (isStep_of_isEntryName hname) hdir (by simp) .done)

/-- On a tree names lead to places where something stands. -/
theorem Leads.exists_entry (h : d.Leads n l names m l') (hd : d.IsTree)
    (hl : ∃ e, d.entry? l = some e) : ∃ e, d.entry? l' = some e := by
  induction h with
  | done => exact hl
  | stay _ _ _ ih => exact ih hl
  | up hdir _ ih => exact ih ⟨_, hd.entry?_dropLast hdir⟩
  | enter _ _ he _ _ ih => exact ih ⟨_, he⟩
  | follow hdir _ _ _ ih =>
    refine ih ?_
    unfold startOf
    split
    · exact ⟨_, entry?_nil d⟩
    · exact ⟨_, hdir⟩

/-! ## Walks after changes -/

/-- Names lead to the same place on every disk that has the same directories and links there, and
files where files were. -/
theorem Leads.transfer (h : d.Leads n l names m l')
    (hdirectory : ∀ l, d.entry? l = some .directory → d'.entry? l = some .directory)
    (hlinks : ∀ l target, d.entry? l = some (.link target) → d'.entry? l = some (.link target))
    (hfiles : ∀ l bytes, d.entry? l = some (.file bytes) →
      ∃ bytes', d'.entry? l = some (.file bytes')) :
    d'.Leads n l names m l' := by
  induction h with
  | done => exact .done
  | stay hdir hname _ ih => exact .stay (hdirectory _ hdir) hname ih
  | up hdir _ ih => exact .up (hdirectory _ hdir) ih
  | @enter _ _ _ _ _ _ e hdir hname he hlink _ ih =>
    cases e with
    | file bytes =>
      obtain ⟨bytes', he'⟩ := hfiles _ bytes he
      exact .enter (hdirectory _ hdir) hname he' (by simp) ih
    | directory => exact .enter (hdirectory _ hdir) hname (hdirectory _ he) (by simp) ih
    | link target => exact absurd rfl (hlink target)
  | follow hdir hname he _ ih => exact .follow (hdirectory _ hdir) hname (hlinks _ _ he) ih

theorem Leads.keeps (h : d.Leads n l names m l') (hk : d.Keeps d') : d'.Leads n l names m l' :=
  h.transfer hk.directory hk.link hk.file

/-- What leads somewhere on a part of a disk does so on the whole disk. -/
theorem Leads.of_restrict {keep : Location → Bool} (h : (d.restrict keep).Leads n l names m l') :
    d.Leads n l names m l' := by
  have hentry : ∀ l e, entry? (d.restrict keep) l = some e → d.entry? l = some e := by
    intro l e he
    by_cases hl : l = []
    · subst hl
      rwa [entry?_nil] at he ⊢
    · rw [entry?_restrict d keep hl] at he
      split at he
      · exact he
      · cases he
  exact h.transfer (fun l => hentry l _) (fun l _ => hentry l _)
    fun l bytes he => ⟨bytes, hentry l _ he⟩

/-- How a walk ends after files have been written, seen from how it ended before: where nothing
stood, a file may stand now. -/
def EndsLike {ε : Type} (d' : Disk) : Except ε Landing → Except ε Landing → Prop
  | .ok (.free l), r =>
    r = .ok (.free l) ∨ r = .ok (.occupied l) ∧ ∃ bytes, d'.entry? l = some (.file bytes)
  | .ok (.occupied l), r => r = .ok (.occupied l)
  | .error _, r => ∃ fault, r = .error fault

theorem EndsLike.refl {ε : Type} (d' : Disk) (r : Except ε Landing) : EndsLike d' r r := by
  rcases r with fault | l | l
  · exact ⟨fault, rfl⟩
  · rfl
  · exact .inl rfl

theorem EndsLike.mapError {ε ε' : Type} {r r' : Except ε Landing} (f : ε → ε')
    (h : EndsLike d' r r') : EndsLike d' (r.mapError f) (r'.mapError f) := by
  rcases r with fault | l | l
  · obtain ⟨fault', rfl⟩ := h
    exact ⟨f fault', rfl⟩
  · exact congrArg (Except.mapError f) h
  · rcases h with rfl | ⟨rfl, hfile⟩
    · exact .inl rfl
    · exact .inr ⟨rfl, hfile⟩

/-- A walk fails that starts with a name where no directory stands. -/
theorem walk_of_not_directory {followLast : Bool} {name : Text}
    (h : d.entry? l ≠ some .directory) :
    ∃ fault, d.walk followLast n l (name :: names) = .error fault := by
  rw [walk]
  split
  · exact ⟨_, rfl⟩
  · exact ⟨_, rfl⟩
  · exact ⟨_, rfl⟩
  · next hdir => exact absurd hdir h

/-- How a walk ends after files have been written, seen from how it ended before: it ends alike
unless it comes to a file where nothing stood. -/
inductive EndsGrown (d d' : Disk) : Except SystemFault Landing → Except SystemFault Landing → Prop
  /-- The walk ends as before. -/
  | same (r : Except SystemFault Landing) : EndsGrown d d' r r
  /-- The walk ends at a new file. -/
  | reaches {l : Location} {bytes : List UInt8} (hold : d.entry? l = none)
      (hnew : d'.entry? l = some (.file bytes)) :
      EndsGrown d d' (.ok (.free l)) (.ok (.occupied l))
  /-- A new file stands in the way. -/
  | blocked {l : Location} {bytes : List UInt8} (hold : d.entry? l = none)
      (hnew : d'.entry? l = some (.file bytes)) :
      EndsGrown d d' (.error .notFound) (.error .notDirectory)

/-- Files that have been written are noticed by a walk only if it comes to one of the new ones. -/
theorem endsGrown_walk {followLast : Bool} (hg : d.Grows d') :
    EndsGrown d d' (d.walk followLast n l names) (d'.walk followLast n l names) := by
  fun_induction walk d followLast n l names with
  | case1 n l =>
    rw [walk]
    exact .same _
  | case2 n l name rest he =>
    rw [walk]
    cases he' : d'.entry? l with
    | none => exact .same _
    | some e =>
      obtain ⟨bytes, rfl⟩ := hg.exists_bytes_of_new he he'
      exact .blocked he he'
  | case3 n l name rest bytes he =>
    obtain ⟨bytes', he'⟩ := hg.file l bytes he
    rw [walk, he']
    exact .same _
  | case4 n l name rest target he =>
    rw [walk, hg.link l target he]
    exact .same _
  | case5 n l name rest hdir hblank ih => rwa [walk_stay (hg.directory l hdir) hblank]
  | case6 n l rest hdir hblank ih => rwa [walk_up (hg.directory l hdir)]
  | case7 n l name rest hdir hblank hdots hlong =>
    rw [walk_long (hg.directory l hdir) hblank hdots hlong]
    exact .same _
  | case8 n l name hdir hblank hdots hlong he =>
    -- Nothing stood at the end of the path: only a file can have been written there.
    have hname : IsStep name := ⟨hblank, hdots, Nat.not_lt.mp hlong⟩
    cases he' : d'.entry? (l ++ [name]) with
    | none =>
      rw [walk_missing (hg.directory l hdir) hname he', if_pos rfl]
      exact .same _
    | some e =>
      obtain ⟨bytes, rfl⟩ := hg.exists_bytes_of_new he he'
      rw [walk_enter (hg.directory l hdir) hname he' (by simp), walk]
      exact .reaches he he'
  | case9 n l name rest hdir hblank hdots hlong he hrest =>
    -- Nothing stood on the way: a file that has been written there is no directory either.
    have hname : IsStep name := ⟨hblank, hdots, Nat.not_lt.mp hlong⟩
    cases he' : d'.entry? (l ++ [name]) with
    | none =>
      rw [walk_missing (hg.directory l hdir) hname he', if_neg hrest]
      exact .same _
    | some e =>
      obtain ⟨bytes, rfl⟩ := hg.exists_bytes_of_new he he'
      obtain ⟨second, rest, rfl⟩ := List.exists_cons_of_ne_nil hrest
      rw [walk_enter (hg.directory l hdir) hname he' (by simp), walk, he']
      exact .blocked he he'
  | case10 n l name rest hdir hblank hdots hlong target he hlast =>
    have hname : IsStep name := ⟨hblank, hdots, Nat.not_lt.mp hlong⟩
    rw [walk_step (hg.directory l hdir) hname, hg.link _ target he]
    simp only [if_pos hlast]
    exact .same _
  | case11 l name rest hdir hblank hdots hlong target he hlast =>
    have hname : IsStep name := ⟨hblank, hdots, Nat.not_lt.mp hlong⟩
    rw [walk_step (hg.directory l hdir) hname, hg.link _ target he]
    simp only [if_neg hlast]
    exact .same _
  | case12 l name rest hdir hblank hdots hlong target he hlast n ih =>
    have hname : IsStep name := ⟨hblank, hdots, Nat.not_lt.mp hlong⟩
    rw [walk_step (hg.directory l hdir) hname, hg.link _ target he]
    simp only [if_neg hlast]
    exact ih
  | case13 n l name rest hdir hblank hdots hlong e hlink he ih =>
    have hname : IsStep name := ⟨hblank, hdots, Nat.not_lt.mp hlong⟩
    cases e with
    | file bytes =>
      obtain ⟨bytes', he'⟩ := hg.file _ bytes he
      rwa [walk_enter (hg.directory l hdir) hname he' (by simp)]
    | directory => rwa [walk_enter (hg.directory l hdir) hname (hg.directory _ he) (by simp)]
    | link target => exact absurd rfl (hlink target)

/-- Writing files does not change where a walk ends. -/
theorem walk_grows (hg : d.Grows d') :
    EndsLike d' (d.walk true n l names) (d'.walk true n l names) := by
  have hends : EndsGrown d d' (d.walk true n l names) (d'.walk true n l names) :=
    endsGrown_walk hg
  generalize d.walk true n l names = r at hends
  generalize d'.walk true n l names = r' at hends
  cases hends with
  | same => exact .refl d' r
  | reaches hold hnew => exact .inr ⟨rfl, _, hnew⟩
  | blocked hold hnew => exact ⟨_, rfl⟩

/-! ## Free places -/

/-- The names that entries may get: they can be handed to the system and hold no slash. -/
def IsPiece (name : Text) : Prop := .scalar '/' ∉ name ∧ IsSpeakable name

theorem isPiece_steps {path : Text} (h : IsSpeakable path) : ∀ name ∈ steps path, IsPiece name := by
  intro name hname
  exact ⟨Text.notMem_of_mem_split hname, h.subset fun c hc => Text.mem_of_mem_split hname hc⟩

/-- A free place lies in a directory, and its name is the name of an entry. -/
theorem exists_directory_of_walk_free {followLast : Bool} (hd : d.IsTree)
    (hnames : ∀ name ∈ names, IsPiece name)
    (h : d.walk followLast n here names = .ok (.free l)) :
    ∃ dir name, l = dir ++ [name] ∧ d.entry? dir = some .directory ∧ IsEntryName name := by
  fun_induction walk d followLast n here names with
  | case5 n here name rest hdir hblank ih =>
    exact ih (List.forall_mem_cons.mp hnames).2 h
  | case6 n here rest hdir hblank ih =>
    exact ih (List.forall_mem_cons.mp hnames).2 h
  | case8 n here name hdir hblank hdots hlong hnone =>
    cases h
    obtain ⟨hslash, hspeak⟩ := (List.forall_mem_cons.mp hnames).1
    have hname : Path.IsName name :=
      ⟨fun hnil => hblank (.inl hnil), fun hdot => hblank (.inr hdot), hslash⟩
    exact ⟨here, name, rfl, hdir, hname, hdots, Nat.not_lt.mp hlong, hspeak⟩
  | case12 here name rest hdir hblank hdots hlong target he hlast n ih =>
    refine ih ?_ h
    rw [List.forall_mem_append]
    exact ⟨isPiece_steps (hd.isSpeakable_target he), (List.forall_mem_cons.mp hnames).2⟩
  | case13 n here name rest hdir hblank hdots hlong e hlink he ih =>
    exact ih (List.forall_mem_cons.mp hnames).2 h
  | _ => cases h

/-! ## The last name of a path -/

/-- A walk along a name that comes to an end starts in a directory. -/
theorem directory_of_walk_cons {followLast : Bool} {name : Text} {landing : Landing}
    (h : d.walk followLast n l (name :: names) = .ok landing) : d.entry? l = some .directory := by
  by_contra hdir
  have hfails : ∃ fault, d.walk followLast n l (name :: names) = .error fault :=
    walk_of_not_directory hdir
  obtain ⟨fault, hfault⟩ := hfails
  rw [hfault] at h
  cases h

/-- A walk along one name that does not follow it comes to the place of this name. -/
theorem walk_single {name : Text} (hname : IsStep name)
    (h : d.walk false n l [name] = .ok (.occupied l')) : l' = l ++ [name] := by
  rw [walk_step (directory_of_walk_cons h) hname] at h
  split at h
  · simp at h
  · simpa using h.symm
  · simpa [walk] using h.symm

/-- A free place to which one name leads is the place of this name. -/
theorem walk_single_free {name : Text} (hname : IsStep name)
    (h : d.walk false n l [name] = .ok (.free l')) : l' = l ++ [name] := by
  rw [walk_step (directory_of_walk_cons h) hname] at h
  split at h
  · simpa using h.symm
  · simp at h
  · simp [walk] at h

/-- A walk along one name comes to an end only if this name is not too long. -/
theorem isStep_of_walk_single {followLast : Bool} {name : Text} {landing : Landing}
    (hname : Path.IsName name) (hdots : name ≠ "..")
    (h : d.walk followLast n l [name] = .ok landing) : IsStep name := by
  refine ⟨hname.not_isBlank, hdots, Nat.not_lt.mp fun hlong => ?_⟩
  rw [walk_long (directory_of_walk_cons h) hname.not_isBlank hdots hlong] at h
  cases h

/-- A name that leads somewhere is the name of something. -/
theorem Leads.of_single {name : Text} (h : d.Leads n l [name] m l') (hname : Path.IsName name)
    (hdots : name ≠ "..") : IsStep name ∧ ∃ e, d.entry? (l ++ [name]) = some e := by
  cases h with
  | stay _ hblank _ => exact absurd hblank hname.not_isBlank
  | up _ _ => exact absurd rfl hdots
  | enter _ hstep he _ _ => exact ⟨hstep, _, he⟩
  | follow _ hstep he _ => exact ⟨hstep, _, he⟩

end Disk

end StyleImport
