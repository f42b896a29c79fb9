import StyleImport.Proofs.Disk.Asked
import StyleImport.Proofs.Disk.Missing
import StyleImport.Proofs.Disk.Normal

/-!
# Links that come to an end

Working out the real path of a path remembers the links that it meets, gives up at a link that it
meets inside itself, and bounds how many links are worked out inside each other. If all links on the
way come to an end within this bound, none of this is seen: every name is replaced by what it stands
for, nothing is left on the result that could be worked out, and the system finds no circle there.

## Main definitions

- `Disk.Resolves`: the path that names stand for.
- `Disk.IsWorkedOut`: paths on which nothing is left to be worked out.
- `Disk.LinksEnd`: the links on the way along a path come to an end.

## Main statements

- `Disk.follow_of_resolves`: working out names comes to the path that they stand for.
- `Disk.Resolves.isWorkedOut`: nothing is left on it.
- `Disk.realPath_of_resolves`: it is the real path.
- `Disk.realPath_or_circle`: a path on which the links come to an end has a real path.
-/

namespace StyleImport

namespace Disk

variable {d : Disk} {n m depth : Nat} {p q q' mid real full link : Path} {names rest : List Text}
  {name target : Text} {trail trail' inner : Trail}

/-- The path from which the target of a link in a directory is seen. -/
def seenFrom (directory : Path) (target : Text) : Path :=
  if (Path.ofText target).isAbsolute then ⟨.root, []⟩ else directory

/-- The path that names stand for: `Resolves d n p names q` says that `names`, seen from `p`, stand
for `q`, and that at most `n` links are worked out inside each other for this. -/
inductive Resolves (d : Disk) : Nat → Path → List Text → Path → Prop
  /-- Without names a path stands for itself. -/
  | done {n : Nat} {p : Path} : Resolves d n p [] p
  /-- A double dot takes a name away. -/
  | up {n : Nat} {p q : Path} {rest : List Text} (h : Resolves d n (stepTo p "..") rest q) :
      Resolves d n p (".." :: rest) q
  /-- A name under which there is no link stands for itself. -/
  | plain {n : Nat} {p q : Path} {name : Text} {rest : List Text} (hname : name ≠ "..")
      (hlink : d.linkAt false (stepTo p name) = .ok none)
      (h : Resolves d n (stepTo p name) rest q) : Resolves d n p (name :: rest) q
  /-- The name of a link stands for what its target stands for. -/
  | link {n : Nat} {p mid q : Path} {name target : Text} {rest : List Text} (hname : name ≠ "..")
      (hlink : d.linkAt false (stepTo p name) = .ok (some target))
      (htarget : Resolves d n (seenFrom p target) (Path.partsOf target) mid)
      (h : Resolves d (n + 1) mid rest q) : Resolves d (n + 1) p (name :: rest) q

/-- The path that a link stands for, which is seen from the directory of the link. -/
def LinkResolves (d : Disk) (n : Nat) (link real : Path) : Prop :=
  ∃ target, d.linkAt false link = .ok (some target) ∧
    d.Resolves n (seenFrom link.parent target) (Path.partsOf target) real

/-- Names stand for one path only. -/
theorem Resolves.unique (h : d.Resolves n p names q) (h' : d.Resolves m p names q') : q = q' := by
  induction h generalizing m q' with
  | done =>
    cases h'
    rfl
  | up _ ih =>
    cases h' with
    | up h' => exact ih h'
    | plain hname _ _ => exact absurd rfl hname
    | link hname _ _ _ => exact absurd rfl hname
  | plain hname hlink _ ih =>
    cases h' with
    | up _ => exact absurd rfl hname
    | plain _ _ h' => exact ih h'
    | link _ hlink' _ _ => cases hlink.symm.trans hlink'
  | link hname hlink _ _ ihTarget ih =>
    cases h' with
    | up _ => exact absurd rfl hname
    | plain _ hlink' _ => cases hlink.symm.trans hlink'
    | link _ hlink' htarget' h' =>
      cases hlink.symm.trans hlink'
      cases ihTarget htarget'
      exact ih h'

theorem LinkResolves.unique (h : d.LinkResolves n link q) (h' : d.LinkResolves m link q') :
    q = q' := by
  obtain ⟨target, hlink, hresolves⟩ := h
  obtain ⟨target', hlink', hresolves'⟩ := h'
  cases hlink.symm.trans hlink'
  exact hresolves.unique hresolves'

/-! ## Steps to a name -/

theorem stepTo_of_ne (hname : name ≠ "..") : stepTo p name = ⟨p.anchor, p.parts ++ [name]⟩ := by
  unfold stepTo Path.pushNormal
  rw [if_neg hname, List.reverse_cons, List.reverse_reverse]

theorem parent_stepTo (hname : name ≠ "..") : (stepTo p name).parent = p := by
  rw [stepTo_of_ne hname, Path.parent, List.dropLast_concat]

/-- A link that is met is a link of the directory in which it is met. -/
theorem linkResolves_stepTo (hname : name ≠ "..")
    (hlink : d.linkAt false (stepTo p name) = .ok (some target))
    (h : d.Resolves n (seenFrom p target) (Path.partsOf target) mid) :
    d.LinkResolves n (stepTo p name) mid := by
  refine ⟨target, hlink, ?_⟩
  rwa [parent_stepTo hname]

/-- A link that can be worked out can be so with as few links inside each other as possible. -/
theorem LinkResolves.exists_least (h : d.LinkResolves n link real) :
    ∃ k ≤ n, d.LinkResolves k link real ∧ ∀ j < k, ∀ real, ¬d.LinkResolves j link real := by
  induction n using Nat.strongRecOn generalizing real with
  | ind n ih =>
    by_cases hleast : ∃ j < n, ∃ real, d.LinkResolves j link real
    · obtain ⟨j, hj, real', hshorter⟩ := hleast
      obtain ⟨k, hk, hresolves, hnone⟩ := ih j hj hshorter
      cases h.unique hresolves
      exact ⟨k, Nat.le_of_lt (Nat.lt_of_le_of_lt hk hj), hresolves, hnone⟩
    · exact ⟨n, Nat.le_refl n, h, fun j hj real hreal => hleast ⟨j, hj, real, hreal⟩⟩

/-! ## What is remembered -/

/-- The real paths that are remembered are those of the links. -/
def Trail.IsSound (d : Disk) (trail : Trail) : Prop :=
  ∀ link real, trail.known? link = some (some real) → ∃ n, d.LinkResolves n link real

/-- A trail has come to a path: it has met no circle, and it remembers what is right. -/
structure Trail.StandsAt (d : Disk) (n : Nat) (p : Path) (trail : Trail) : Prop where
  /-- The path has been reached. -/
  path : trail.path = p
  /-- No circle has been met. -/
  circular : trail.circular = false
  /-- What is remembered is right. -/
  sound : trail.IsSound d
  /-- Links that are being worked out cannot be so with less than `n` links inside each other. -/
  unfinished : ∀ link, trail.known? link = some none → ∀ m < n, ∀ real, ¬d.LinkResolves m link real

/-- A working out has come from one trail to another one at a path: it has met no circle, and it has
finished all links that it has begun to work out. -/
structure ComesTo (d : Disk) (trail trail' : Trail) (real : Path) : Prop where
  /-- The path has been reached. -/
  path : trail'.path = real
  /-- No circle has been met. -/
  circular : trail'.circular = false
  /-- What is remembered is right. -/
  sound : trail'.IsSound d
  /-- All links that are being worked out were so before. -/
  closed : ∀ link, trail'.known? link = some none → trail.known? link = some none

theorem ComesTo.standsAt (h : ComesTo d trail trail' q) (htrail : trail.StandsAt d n p) :
    trail'.StandsAt d n q :=
  ⟨h.path, h.circular, h.sound, fun link hopen => htrail.unfinished link (h.closed link hopen)⟩

theorem ComesTo.trans (h : ComesTo d trail inner mid) (h' : ComesTo d inner trail' real) :
    ComesTo d trail trail' real :=
  ⟨h'.path, h'.circular, h'.sound, fun link hopen => h.closed link (h'.closed link hopen)⟩

/-- A step to another path changes nothing that is remembered. -/
theorem Trail.StandsAt.step (h : trail.StandsAt d n p) (q : Path) :
    ComesTo d trail { trail with path := q } q :=
  ⟨rfl, h.circular, h.sound, fun _ hopen => hopen⟩

theorem known?_enter (trail : Trail) (next : Path) (target : Text) (link : Path) :
    (trail.enter next target).known? link =
      if next = link then some none else trail.known? link := by
  unfold Trail.known? Trail.enter
  rw [List.find?_cons]
  by_cases h : next = link <;> simp [h]

theorem known?_leave (inner : Trail) (next link : Path) :
    (inner.leave next).known? link =
      if next = link then some (some inner.path) else inner.known? link := by
  unfold Trail.known? Trail.leave
  rw [List.find?_cons]
  by_cases h : next = link <;> simp [h]

/-- The target of a link is entered when the link cannot be worked out in a shorter way. -/
theorem Trail.StandsAt.enter (h : trail.StandsAt d m p) (hle : n ≤ m) (next : Path) (target : Text)
    (hleast : ∀ k < n, ∀ real, ¬d.LinkResolves k next real) :
    (trail.enter next target).StandsAt d n (seenFrom p target) := by
  refine ⟨by rw [← h.path]; rfl, rfl, fun link real hknown => ?_, fun link hopen k hk real => ?_⟩
  · rw [known?_enter] at hknown
    split at hknown
    · cases hknown
    · exact h.sound link real hknown
  · rw [known?_enter] at hopen
    split at hopen
    · next hnext =>
      rw [← hnext]
      exact hleast k hk real
    · exact h.unfinished link hopen k (Nat.lt_of_lt_of_le hk hle) real

/-- Behind its target a link is finished. -/
theorem ComesTo.leave {next : Path} (h : ComesTo d (trail.enter next target) inner real)
    (hnext : d.LinkResolves n next real) : ComesTo d trail (inner.leave next) real := by
  refine ⟨h.path, h.circular, fun link known hknown => ?_, fun link hopen => ?_⟩
  · rw [known?_leave] at hknown
    split at hknown
    · next hlink =>
      cases hknown
      rw [← hlink, h.path]
      exact ⟨n, hnext⟩
    · exact h.sound link known hknown
  · rw [known?_leave] at hopen
    split at hopen
    · cases hopen
    · next hne =>
      have hbefore := h.closed link hopen
      rwa [known?_enter, if_neg hne] at hbefore

/-! ## Working out -/

/-- Working out names comes to the path that they stand for. What is remembered makes no
difference, and no link is met inside itself. -/
theorem follow_of_resolves (h : d.Resolves n p names real) (hdepth : n ≤ depth)
    (htrail : trail.StandsAt d n p) :
    ∃ trail', d.follow false depth trail names = .ok trail' ∧ ComesTo d trail trail' real := by
  -- The outer induction is on the number of links inside each other, because a link is worked out
  -- in the shortest way and not in the given one; the inner one is on the names.
  induction n using Nat.strongRecOn generalizing p names real depth trail with
  | ind n ihLinks =>
    induction h generalizing depth trail with
    | done => exact ⟨trail, by rw [follow], htrail.path, htrail.circular, htrail.sound, fun _ => id⟩
    | up h ih =>
      have hstep := htrail.step (stepTo trail.path "..")
      rw [follow_skip (by simp)]
      rw [← htrail.path] at ih
      obtain ⟨trail', hfollow, hcomes⟩ := ih ihLinks hdepth (hstep.standsAt htrail)
      exact ⟨trail', hfollow, hstep.trans hcomes⟩
    | @plain n p q name rest hname hlink h ih =>
      have hstep := htrail.step (stepTo trail.path name)
      rw [← htrail.path] at ih hlink
      rw [follow_plain (by simp [htrail.circular, hname]) hlink]
      obtain ⟨trail', hfollow, hcomes⟩ := ih ihLinks hdepth (hstep.standsAt htrail)
      exact ⟨trail', hfollow, hstep.trans hcomes⟩
    | @link n p mid q name target rest hname hlink htarget h _ ih =>
      have hresolves := linkResolves_stepTo hname hlink htarget
      obtain rfl := htrail.path
      have hskip : ¬(trail.circular || name = "..") := by simp [htrail.circular, hname]
      cases hknown : trail.known? (stepTo trail.path name) with
      | some known? =>
        cases known? with
        | none => exact absurd hresolves (htrail.unfinished _ hknown n (Nat.lt_succ_self n) mid)
        | some known =>
          -- The link has been met before.
          obtain ⟨k, hk⟩ := htrail.sound _ known hknown
          obtain rfl := hk.unique hresolves
          have hstep := htrail.step known
          rw [follow_known hskip hlink hknown]
          obtain ⟨trail', hfollow, hcomes⟩ := ih ihLinks hdepth (hstep.standsAt htrail)
          exact ⟨trail', hfollow, hstep.trans hcomes⟩
      | none =>
        obtain ⟨depth, rfl⟩ : ∃ depth', depth = depth' + 1 := ⟨depth - 1, by omega⟩
        obtain ⟨k, hk, ⟨target', hlink', htarget'⟩, hleast⟩ := hresolves.exists_least
        obtain rfl := Option.some.inj (Except.ok.inj (hlink.symm.trans hlink'))
        rw [parent_stepTo hname] at htarget'
        have henter := htrail.enter (Nat.le_succ_of_le hk) (stepTo trail.path name) target hleast
        have hroom : k ≤ depth := Nat.le_trans hk (Nat.le_of_succ_le_succ hdepth)
        obtain ⟨inner, hinner, hcomesInner⟩ :=
          ihLinks k (Nat.lt_succ_of_le hk) htarget' hroom henter
        have hleave := hcomesInner.leave hresolves
        obtain ⟨trail', hfollow, hcomes⟩ := ih ihLinks hdepth (hleave.standsAt htrail)
        rw [follow_link hskip hlink hknown, hinner]
        exact ⟨trail', hfollow, hleave.trans hcomes⟩

/-! ## Paths that are worked out -/

/-- Nothing is left to be worked out on a path: all double dots stand at its start, where they lead
out of the place that the path is seen from, and no name on it is that of a link. -/
structure IsWorkedOut (d : Disk) (p : Path) : Prop where
  /-- The names can stand on a path. -/
  proper : p.IsProper
  /-- All double dots stand at the start, and none on a path from the root. -/
  dots : ∃ (k : Nat) (names : List Text), p.parts = List.replicate k (Text.ofString "..") ++ names ∧
    Text.ofString ".." ∉ names ∧ (p.isAbsolute → k = 0)
  /-- No name is that of a link. -/
  plain : ∀ (front : List Text) (name : Text), front ++ [name] <+: p.parts → name ≠ ".." →
    d.linkAt false ⟨p.anchor, front ++ [name]⟩ = .ok none

theorem isWorkedOut_nil (anchor : Anchor) : d.IsWorkedOut ⟨anchor, []⟩ := by
  refine ⟨by simp [Path.IsProper], ⟨0, [], rfl, by simp, fun _ => rfl⟩, ?_⟩
  intro front name hfront
  simp at hfront

theorem stepTo_dots_of_concat {front : List Text} (hname : name ≠ "..")
    (hparts : p.parts = front ++ [name]) : stepTo p ".." = ⟨p.anchor, front⟩ := by
  unfold stepTo Path.pushNormal
  rw [if_pos rfl, hparts, List.reverse_concat]
  dsimp only
  rw [if_neg hname, List.reverse_reverse]

/-- At the root a double dot leads nowhere else. -/
theorem stepTo_dots_of_root (habs : p.isAbsolute) (hparts : p.parts = []) : stepTo p ".." = p := by
  obtain ⟨anchor, parts⟩ := p
  subst hparts
  unfold stepTo Path.pushNormal
  rw [habs]
  rfl

theorem stepTo_dots_of_dots {k : Nat} (hrelative : p.isAbsolute = false)
    (hparts : p.parts = List.replicate k (Text.ofString "..")) :
    stepTo p ".." = ⟨p.anchor, List.replicate (k + 1) (Text.ofString "..")⟩ := by
  unfold stepTo Path.pushNormal
  rw [if_pos rfl, hparts, List.reverse_replicate, hrelative]
  cases k with
  | zero => rfl
  | succ k =>
    show (⟨p.anchor, (Text.ofString ".." :: List.replicate (k + 1) _).reverse⟩ : Path) = _
    rw [← List.replicate_succ, List.reverse_replicate]

/-- A double dot takes the last name away, or stands behind double dots. -/
theorem IsWorkedOut.up (h : d.IsWorkedOut p) : d.IsWorkedOut (stepTo p "..") := by
  obtain ⟨k, names, hparts, hdots, habs⟩ := h.dots
  rcases List.eq_nil_or_concat' names with rfl | ⟨front, last, rfl⟩
  · rw [List.append_nil] at hparts
    by_cases hroot : p.isAbsolute
    · rw [stepTo_dots_of_root hroot (by rw [hparts, habs hroot]; rfl)]
      exact h
    · have hrelative := Bool.eq_false_of_not_eq_true hroot
      rw [stepTo_dots_of_dots hrelative hparts, List.replicate_succ', ← hparts]
      refine ⟨?_, ⟨k + 1, [], ?_, by simp, fun h => absurd h hroot⟩,
        fun front last hfront hlast => ?_⟩
      · exact List.forall_mem_append.mpr ⟨h.proper, List.forall_mem_singleton.mpr (by decide)⟩
      · rw [hparts, List.append_nil, List.replicate_succ']
      · rcases List.prefix_concat_iff.mp hfront with heq | hbefore
        · exact absurd (List.singleton_inj.mp (List.append_inj_right' heq rfl)) hlast
        · exact h.plain front last hbefore hlast
  · rw [← List.append_assoc] at hparts
    rw [List.mem_append, List.mem_singleton, not_or] at hdots
    have hbefore : List.replicate k (Text.ofString "..") ++ front <+: p.parts :=
      ⟨[last], hparts.symm⟩
    rw [stepTo_dots_of_concat (Ne.symm hdots.2) hparts]
    refine ⟨fun name hname => h.proper name (hbefore.subset hname), ⟨k, front, rfl, hdots.1, habs⟩,
      fun front last hfront hlast => h.plain front last (hfront.trans hbefore) hlast⟩

theorem IsWorkedOut.step (h : d.IsWorkedOut p) (hname : Path.IsName name) (hdots : name ≠ "..")
    (hlink : d.linkAt false (stepTo p name) = .ok none) : d.IsWorkedOut (stepTo p name) := by
  rw [stepTo_of_ne hdots] at hlink ⊢
  obtain ⟨k, names, hparts, hnames, habs⟩ := h.dots
  refine ⟨?_, ⟨k, names ++ [name], ?_, ?_, habs⟩, fun front last hfront hlast => ?_⟩
  · exact List.forall_mem_append.mpr ⟨h.proper, List.forall_mem_singleton.mpr hname⟩
  · rw [hparts, List.append_assoc]
  · rw [List.mem_append, List.mem_singleton]
    exact not_or.mpr ⟨hnames, Ne.symm hdots⟩
  · rcases List.prefix_concat_iff.mp hfront with heq | hbefore
    · rw [show front ++ [last] = p.parts ++ [name] from heq]
      exact hlink
    · exact h.plain front last hbefore hlast

/-- Nothing is left to be worked out on the path that names stand for. -/
theorem Resolves.isWorkedOut (h : d.Resolves n p names q) (hp : d.IsWorkedOut p)
    (hnames : ∀ name ∈ names, Path.IsName name) : d.IsWorkedOut q := by
  induction h with
  | done => exact hp
  | up _ ih => exact ih hp.up (List.forall_mem_cons.mp hnames).2
  | plain hname hlink _ ih =>
    rw [List.forall_mem_cons] at hnames
    exact ih (hp.step hnames.1 hname hlink) hnames.2
  | @link n p mid q name target rest hname hlink _ _ ihTarget ih =>
    have hstart : d.IsWorkedOut (seenFrom p target) := by
      unfold seenFrom
      split
      · exact isWorkedOut_nil _
      · exact hp
    exact ih (ihTarget hstart (Path.ofText_isProper target)) (List.forall_mem_cons.mp hnames).2

/-! ## Circles seen by the system -/

section Walks

variable {l here : Location}

/-- A walk along names follows too many links only where it meets a link, and up to the first one
the names lead to their own places. -/
theorem exists_link_of_walk (hnames : ∀ name ∈ names, Path.IsName name)
    (hdots : Text.ofString ".." ∉ names)
    (h : d.walk true n l names = .error .tooManyLinks) :
    ∃ front name back target, names = front ++ name :: back ∧
      d.Leads n l front n (l ++ front) ∧ d.entry? (l ++ front) = some .directory ∧ IsStep name ∧
      d.entry? (l ++ front ++ [name]) = some (.link target) := by
  induction names generalizing l with
  | nil => simp [walk] at h
  | cons name rest ih =>
    rw [List.forall_mem_cons] at hnames
    rw [List.mem_cons, not_or] at hdots
    have hdir : d.entry? l = some .directory := by
      by_contra hdir
      rw [walk] at h
      split at h <;> simp_all
    by_cases hlong : nameLimit < byteCount name
    · rw [walk_long hdir hnames.1.not_isBlank (Ne.symm hdots.1) hlong] at h
      cases h
    · have hstep : IsStep name := ⟨hnames.1.not_isBlank, Ne.symm hdots.1, Nat.not_lt.mp hlong⟩
      cases he : d.entry? (l ++ [name]) with
      | none =>
        rw [walk_missing hdir hstep he] at h
        split at h <;> cases h
      | some e =>
        -- The first link is the one that is looked for; behind anything else the walk goes on.
        by_cases hlink : ∃ target, e = .link target
        · obtain ⟨target, rfl⟩ := hlink
          refine ⟨[], name, rest, target, rfl, ?_, ?_, hstep, ?_⟩
          · rw [List.append_nil]
            exact .done
          · rwa [List.append_nil]
          · rwa [List.append_nil]
        · have hlink : ∀ target, e ≠ .link target := fun target ht => hlink ⟨target, ht⟩
          rw [walk_enter hdir hstep he hlink] at h
          obtain ⟨front, last, back, target, rfl, hleads, hbelow, hlast, htarget⟩ :=
            ih hnames.2 hdots.2 h
          refine ⟨name :: front, last, back, target, rfl, ?_, ?_, hlast, ?_⟩
          · rw [List.append_cons l name front]
            exact .enter hdir hstep he hlink hleads
          · rwa [List.append_cons l name front]
          · rwa [List.append_cons l name front]

/-- Double dots lead out of a directory, to where they lead by the text alone. -/
theorem exists_leads_dots (hd : d.IsTree) (hhere : d.entry? here = some .directory) (k : Nat) :
    ∃ base, d.entry? base = some .directory ∧
      stackOf (here ++ List.replicate k (Text.ofString "..")) = base.reverse ∧
      d.Leads n here (List.replicate k (Text.ofString "..")) n base := by
  induction k with
  | zero =>
    have hnames : Text.ofString ".." ∉ here := fun h => (hd.isEntryName hhere _ h).2.1 rfl
    refine ⟨here, hhere, ?_, .done⟩
    rw [List.replicate_zero, List.append_nil]
    exact (stackOf_append_of_notMem [] hnames).trans (List.append_nil _)
  | succ k ih =>
    obtain ⟨base, hdir, hstack, hleads⟩ := ih
    refine ⟨base.dropLast, hd.entry?_dropLast hdir, ?_, ?_⟩
    · rw [List.replicate_succ', ← List.append_assoc, stackOf_concat_dots, hstack, List.tail_reverse]
    · rw [List.replicate_succ']
      exact hleads.append (.up hdir .done)

/-- A name that leads to a link is seen to be that of a link. -/
theorem linkAt_of_leads {anchor : Anchor} {front : List Text} (hd : d.IsTree)
    (hproper : Path.IsProper ⟨anchor, front ++ [name]⟩)
    (hstart : d.start (⟨anchor, front ++ [name]⟩ : Path).toText = .ok here)
    (hleads : d.Leads linkLimit here front n l) (hdir : d.entry? l = some .directory)
    (hstep : IsStep name) (he : d.entry? (l ++ [name]) = some (.link target)) :
    d.linkAt false ⟨anchor, front ++ [name]⟩ = .ok (some target) := by
  have hwalk : d.walk false linkLimit here (front ++ [name]) = .ok (.occupied (l ++ [name])) := by
    rw [hleads.walk_append (.inl (by simp)), walk_step hdir hstep, he]
    exact if_pos ⟨rfl, rfl⟩
  have hstatus : d.linkStatus (⟨anchor, front ++ [name]⟩ : Path).toText =
      .ok (l ++ [name], .link target) := by
    rw [linkStatus, statusBy_eq_ok_iff, locate_eq_ok_iff]
    refine ⟨⟨here, hstart, ?_⟩, he⟩
    rwa [walk_steps_toText hproper (entry?_start hd.here hstart)]
  unfold linkAt
  rw [hstatus]

/-- Whether a link stands at a path can be told only if the path can be handed to the system. -/
theorem isSpeakable_of_linkAt {o : Option Text} (h : d.linkAt false p = .ok o) :
    IsSpeakable p.toText := by
  rw [← unspeakable?_eq_none_iff]
  cases hspeak : unspeakable? p.toText with
  | none => rfl
  | some fault =>
    unfold linkAt linkStatus at h
    rw [statusBy_of_unspeakable? hspeak] at h
    simp [isUnspeakable_of_unspeakable? hspeak] at h

/-- The system finds too many links on a path only on the walk along its names. -/
theorem walk_of_tooManyLinks (hd : d.IsTree) (hp : p.IsProper) {path : Text}
    (h : d.status p.toText = .error (.system .tooManyLinks path)) :
    ∃ here, d.start p.toText = .ok here ∧
      d.walk true linkLimit here p.parts = .error .tooManyLinks := by
  have hlocate := locate_of_status_error (by simp) h
  rw [locate_eq, bind_eq_error_iff] at hlocate
  rcases hlocate with hstart | ⟨here, hstart, hwalk⟩
  · rcases fault_of_start hstart with hspeak | hfault | hfault
    · have hunspeakable := isUnspeakable_of_unspeakable? hspeak
      cases hunspeakable
    · cases hfault
    · cases hfault
  · obtain ⟨f, hf, hfault⟩ := mapError_eq_error_iff.mp hwalk
    cases hfault
    rw [walk_steps_toText hp (entry?_start hd.here hstart)] at hf
    exact ⟨here, hstart, hf⟩

end Walks

/-- A path is not longer than its absolute form unless double dots lead out of the working
directory. -/
theorem byteCount_le_absolute (hd : d.IsTree) (habs : d.absolute q = .ok full)
    (hdots : Text.ofString ".." ∉ q.parts) :
    byteCount q.toText ≤ byteCount full.normal.toText := by
  obtain ⟨hfull, here, hhere, hparts⟩ := absolute_eq_ok habs
  have hnone : Text.ofString ".." ∉ full.parts := by
    rw [hparts, List.mem_append, not_or]
    exact ⟨fun hmem => (hd.isEntryName (entry?_origin hd.here hhere) _ hmem).2.1 rfl, hdots⟩
  rw [normal_of_notMem hfull hnone]
  obtain ⟨anchor, parts⟩ := q
  cases anchor with
  | relative =>
    obtain ⟨anchor', parts'⟩ := full
    subst hparts
    exact byteCount_back_le anchor' here parts
  | root =>
    cases habs
    exact Nat.le_refl _
  | doubleRoot =>
    cases habs
    exact Nat.le_refl _

/-- The names of the real path of a path that is worked out: double dots lead out of the place that
the path is seen from, and the other names lead on from there. -/
theorem IsWorkedOut.exists_base (h : d.IsWorkedOut q) (hd : d.IsTree)
    (habs : d.absolute q = .ok full) :
    ∃ here dots base names, d.origin? q = some here ∧ q.parts = dots ++ names ∧
      Text.ofString ".." ∉ names ∧ full.normal.parts = base ++ names ∧
      d.entry? base = some .directory ∧ d.Leads linkLimit here dots linkLimit base := by
  obtain ⟨hfull, here, hhere, hparts⟩ := absolute_eq_ok habs
  obtain ⟨k, names, hq, hnames, -⟩ := h.dots
  obtain ⟨base, hbase, hstack, hleads⟩ :=
    exists_leads_dots (n := linkLimit) hd (entry?_origin hd.here hhere) k
  have hanchor : full.anchor ≠ .relative := by simpa [Path.isAbsolute] using hfull
  refine ⟨here, _, base, names, hhere, hq, hnames, ?_, hbase, hleads⟩
  rw [normal_parts hanchor full.parts, hparts, hq, ← List.append_assoc,
    stackOf_append_of_notMem _ hnames, hstack, List.reverse_append, List.reverse_reverse,
    List.reverse_reverse]

/-- The system finds no circle at the real path of a path that is worked out. -/
theorem IsWorkedOut.status_ne (h : d.IsWorkedOut q) (hd : d.IsTree) (habs : d.absolute q = .ok full)
    (hshort : Text.ofString ".." ∈ q.parts → byteCount q.toText ≤ pathLimit) (path : Text) :
    d.status full.normal.toText ≠ .error (.system .tooManyLinks path) := by
  intro hstatus
  obtain ⟨here, dots, base, names, hhere, hq, hnames, hnormal, hbase, hdots⟩ :=
    h.exists_base hd habs
  have hproper := Path.normal_isProper (absolute_isProper hd h.proper habs)
  obtain ⟨top, hstart, hwalk⟩ := walk_of_tooManyLinks hd hproper hstatus
  obtain ⟨-, hsize, htop⟩ := (start_eq_ok_iff hproper).mp hstart
  -- The walk along the real path starts at the root and comes to the base.
  have hroot : full.normal.isAbsolute := (absolute_eq_ok habs).1
  cases (if_pos hroot).symm.trans htop
  have hdown : d.Leads linkLimit [] base linkLimit ([] ++ base) := hd.leads_directory hbase
  rw [hnormal, hdown.walk_append (.inr rfl), List.nil_append] at hwalk
  obtain ⟨front, name, back, target, rfl, hfront, hdir, hstep, hlink⟩ :=
    exists_link_of_walk (fun x hx => h.proper x (by rw [hq]; exact List.mem_append_right _ hx))
      hnames hwalk
  have hparts : q.parts = dots ++ front ++ [name] ++ back := by simp [hq]
  have hplain := h.plain (dots ++ front) name ⟨back, hparts.symm⟩ hstep.2.1
  -- The path up to the link is short enough for the system to see the link.
  have hlong : byteCount q.toText ≤ pathLimit := by
    by_cases hmem : Text.ofString ".." ∈ q.parts
    · exact hshort hmem
    · exact Nat.le_trans (byteCount_le_absolute hd habs hmem) hsize
  have hle := byteCount_front_le q.anchor (dots ++ front ++ [name]) back
  rw [← hparts] at hle
  have hproper' : Path.IsProper ⟨q.anchor, dots ++ front ++ [name]⟩ := fun x hx =>
    h.proper x (by rw [hparts]; exact List.mem_append_left _ hx)
  have hseen := linkAt_of_leads hd hproper'
    ((start_eq_ok_iff hproper').mpr ⟨isSpeakable_of_linkAt hplain, Nat.le_trans hle hlong, hhere⟩)
    (hdots.append hfront) hdir hstep hlink
  cases hplain.symm.trans hseen

/-! ## Real paths -/

/-- What is worked out is the path that the names stand for, seen from the root. -/
theorem workOut_of_resolves (h : d.Resolves nestingLimit (beforeNames p) p.parts q) :
    d.workOut false p = (d.absolute q).map Path.normal := by
  have htrail : Trail.StandsAt d nestingLimit (beforeNames p) ⟨beforeNames p, [], false⟩ := by
    refine ⟨rfl, rfl, fun link real hknown => ?_, fun link hopen => ?_⟩
    · cases hknown
    · cases hopen
  obtain ⟨trail, hfollow, hcomes⟩ := follow_of_resolves h (Nat.le_refl _) htrail
  rw [workOut_eq, hfollow, ← hcomes.path]
  rfl

/-- The real path of a path is the path that its names stand for, seen from the root. -/
theorem realPath_of_resolves (hd : d.IsTree) (hp : p.IsProper)
    (h : d.Resolves nestingLimit (beforeNames p) p.parts q) (habs : d.absolute q = .ok full)
    (hshort : Text.ofString ".." ∈ q.parts → byteCount q.toText ≤ pathLimit) :
    d.realPath p = .ok full.normal := by
  have hbefore : d.IsWorkedOut (beforeNames p) := by
    unfold beforeNames
    split <;> exact isWorkedOut_nil _
  have hwork := workOut_of_resolves h
  rw [habs] at hwork
  unfold realPath
  rw [hwork]
  dsimp only [Except.map]
  split
  · next hstatus => exact absurd hstatus ((h.isWorkedOut hbefore hp).status_ne hd habs hshort _)
  · rfl

/-- The links on the way along a path come to an end, and not too many are worked out inside each
other. If double dots lead out of the place that the path is seen from, what the names stand for is
not too long for the system. -/
def LinksEnd (d : Disk) (p : Path) : Prop :=
  ∃ q, d.Resolves nestingLimit (beforeNames p) p.parts q ∧
    (Text.ofString ".." ∈ q.parts → byteCount q.toText ≤ pathLimit)

/-- A path has a real path if the links on it come to an end. Apart from circles there is none only
for a name that cannot be handed to the system, or if the working directory has been removed. -/
theorem realPath_or_circle (hd : d.IsTree) (hp : p.IsProper) :
    (∃ real, d.realPath p = .ok real) ∨
      ((∃ path, d.realPath p = .error (.circle path)) ∧ ¬d.LinksEnd p) ∨
      (∃ name ∈ p.parts, ¬IsSpeakable name) ∨
      p.isAbsolute = false ∧ d.workingDirectory = none := by
  rcases realPath_cases hd p with hreal | hcircle | hspeak | hhere
  · exact .inl hreal
  · refine .inr (.inl ⟨hcircle, fun ⟨q, hresolves, hshort⟩ => ?_⟩)
    obtain ⟨path, hcircle⟩ := hcircle
    cases habs : d.absolute q with
    | ok full => cases hcircle.symm.trans (realPath_of_resolves hd hp hresolves habs hshort)
    | error fault =>
      unfold realPath at hcircle
      rw [workOut_of_resolves hresolves, habs] at hcircle
      cases hcircle
  · exact .inr (.inr (.inl hspeak))
  · exact .inr (.inr (.inr hhere))

end Disk

end StyleImport
