import StyleImport.Proofs.Disk.Inside
import StyleImport.Proofs.Disk.RealPath

/-!
# What working out a path asks for

Working out the real path of a path asks at one path after the other whether a link stands there,
and learns nothing else about the disk. Files written inside a directory make no difference to a
lenient working out, for which a file is as good as nothing, and none to a strict one that does not
ask for any of these files.

## Main definitions

- `Disk.asked`: the paths at which links are looked for.

## Main statements

- `Disk.agrees_follow`: names are worked out alike on disks that give the same answers.
- `Disk.Fills.realPath_eq`: real paths stay the same when files are written inside a directory.
- `Disk.Fills.agrees_existingPath`: so do those of paths at which something stands.
-/

namespace StyleImport

namespace Disk

variable {d d' : Disk} {top : Location} {strict : Bool}

/-! ## The paths that are asked for -/

/-- What is known about a link, if it has been met. -/
def Trail.known? (trail : Trail) (next : Path) : Option (Option Path) :=
  (trail.met.find? (·.1 = next)).map (·.2)

/-- The trail at the start of the target of a link. -/
def Trail.enter (trail : Trail) (next : Path) (target : Text) : Trail :=
  ⟨if (Path.ofText target).isAbsolute then ⟨.root, []⟩ else trail.path,
    (next, none) :: trail.met, false⟩

/-- The trail behind a link, from the trail at the end of its target. -/
def Trail.leave (inner : Trail) (next : Path) : Trail :=
  ⟨inner.path, (next, some inner.path) :: inner.met, inner.circular⟩

/-- The paths at which links are looked for when names are worked out one after the other. -/
def asked (d : Disk) (strict : Bool) (depth : Nat) (trail : Trail) : List Text → List Path
  | [] => []
  | name :: rest =>
    let next := stepTo trail.path name
    if trail.circular || name = ".." then asked d strict depth { trail with path := next } rest
    else next :: match d.linkAt strict next with
      | .error _ => []
      | .ok none => asked d strict depth { trail with path := next } rest
      | .ok (some target) =>
        match trail.known? next, depth with
        | some (some known), depth => asked d strict depth { trail with path := known } rest
        | none, depth + 1 =>
          asked d strict depth (trail.enter next target) (Path.partsOf target) ++
          match follow d strict depth (trail.enter next target) (Path.partsOf target) with
          | .error _ => []
          | .ok inner => asked d strict (depth + 1) (inner.leave next) rest
        | _, depth =>
          if strict then []
          else asked d strict depth { trail with path := next, circular := true } rest
termination_by names => (depth, names.length)

/-- The paths at which links are looked for when a path is worked out. -/
def askedFor (d : Disk) (strict : Bool) (path : Path) : List Path :=
  let start : Path := if path.isAbsolute then ⟨.root, []⟩ else ⟨.relative, []⟩
  d.asked strict nestingLimit ⟨start, [], false⟩ path.parts

/-! ## Steps of a working out -/

section Steps

variable {depth : Nat} {trail : Trail} {name target : Text} {rest : List Text}

/-- No link is looked for at a double dot, or once links have led in a circle. -/
theorem follow_skip (hskip : trail.circular || name = "..") :
    d.follow strict depth trail (name :: rest) =
      d.follow strict depth { trail with path := stepTo trail.path name } rest := by
  rw [follow]
  exact if_pos hskip

theorem asked_skip (hskip : trail.circular || name = "..") :
    d.asked strict depth trail (name :: rest) =
      d.asked strict depth { trail with path := stepTo trail.path name } rest := by
  rw [asked]
  exact if_pos hskip

variable (hskip : ¬(trail.circular || name = ".."))
include hskip

/-- Otherwise the path up to the name is asked for. -/
theorem mem_asked : stepTo trail.path name ∈ d.asked strict depth trail (name :: rest) := by
  rw [asked, if_neg hskip]
  exact List.mem_cons_self

theorem follow_fault {fault : AccessFault}
    (hlink : d.linkAt strict (stepTo trail.path name) = .error fault) :
    d.follow strict depth trail (name :: rest) = .error fault := by
  rw [follow]
  refine (if_neg hskip).trans ?_
  rw [hlink]

/-- The working out goes on behind a name that is none of a link. -/
theorem follow_plain (hlink : d.linkAt strict (stepTo trail.path name) = .ok none) :
    d.follow strict depth trail (name :: rest) =
      d.follow strict depth { trail with path := stepTo trail.path name } rest := by
  rw [follow]
  refine (if_neg hskip).trans ?_
  rw [hlink]

theorem asked_plain (hlink : d.linkAt strict (stepTo trail.path name) = .ok none) :
    d.asked strict depth trail (name :: rest) = stepTo trail.path name ::
      d.asked strict depth { trail with path := stepTo trail.path name } rest := by
  rw [asked]
  refine (if_neg hskip).trans ?_
  rw [hlink]

/-- The working out goes on at the real path of a link that was met before. -/
theorem follow_known {known : Path}
    (hlink : d.linkAt strict (stepTo trail.path name) = .ok (some target))
    (hknown : trail.known? (stepTo trail.path name) = some (some known)) :
    d.follow strict depth trail (name :: rest) =
      d.follow strict depth { trail with path := known } rest := by
  unfold Trail.known? at hknown
  rw [follow]
  refine (if_neg hskip).trans ?_
  rw [hlink]
  simp only [hknown]

theorem asked_known {known : Path}
    (hlink : d.linkAt strict (stepTo trail.path name) = .ok (some target))
    (hknown : trail.known? (stepTo trail.path name) = some (some known)) :
    d.asked strict depth trail (name :: rest) = stepTo trail.path name ::
      d.asked strict depth { trail with path := known } rest := by
  rw [asked]
  refine (if_neg hskip).trans ?_
  rw [hlink]
  simp only [hknown]

/-- The working out goes through the target of a link that was not met before. -/
theorem follow_link (hlink : d.linkAt strict (stepTo trail.path name) = .ok (some target))
    (hunknown : trail.known? (stepTo trail.path name) = none) :
    d.follow strict (depth + 1) trail (name :: rest) =
      (d.follow strict depth (trail.enter (stepTo trail.path name) target)
        (Path.partsOf target)).bind fun inner =>
          d.follow strict (depth + 1) (inner.leave (stepTo trail.path name)) rest := by
  unfold Trail.known? at hunknown
  rw [follow]
  refine (if_neg hskip).trans ?_
  rw [hlink]
  simp only [hunknown]
  unfold Trail.enter
  cases d.follow strict depth _ (Path.partsOf target) <;> rfl

theorem asked_link (hlink : d.linkAt strict (stepTo trail.path name) = .ok (some target))
    (hunknown : trail.known? (stepTo trail.path name) = none) :
    d.asked strict (depth + 1) trail (name :: rest) = stepTo trail.path name ::
      (d.asked strict depth (trail.enter (stepTo trail.path name) target)
          (Path.partsOf target) ++
        match d.follow strict depth (trail.enter (stepTo trail.path name) target)
            (Path.partsOf target) with
        | .error _ => []
        | .ok inner => d.asked strict (depth + 1) (inner.leave (stepTo trail.path name)) rest) := by
  rw [asked]
  refine (if_neg hskip).trans ?_
  rw [hlink]
  simp only [hunknown]

/-- A link that is met inside itself, or too deep inside others, leads in a circle. -/
theorem follow_circle (hlink : d.linkAt strict (stepTo trail.path name) = .ok (some target))
    (hcircle : trail.known? (stepTo trail.path name) = some none ∨
      trail.known? (stepTo trail.path name) = none ∧ depth = 0) :
    d.follow strict depth trail (name :: rest) =
      if strict then .error (.system .tooManyLinks (stepTo trail.path name).toText)
      else d.follow strict depth
        { trail with path := stepTo trail.path name, circular := true } rest := by
  unfold Trail.known? at hcircle
  rw [follow]
  refine (if_neg hskip).trans ?_
  rw [hlink]
  rcases hcircle with hcircle | ⟨hcircle, rfl⟩ <;> simp only [hcircle]

theorem asked_circle (hlink : d.linkAt strict (stepTo trail.path name) = .ok (some target))
    (hcircle : trail.known? (stepTo trail.path name) = some none ∨
      trail.known? (stepTo trail.path name) = none ∧ depth = 0) :
    d.asked strict depth trail (name :: rest) = stepTo trail.path name ::
      if strict then [] else d.asked strict depth
        { trail with path := stepTo trail.path name, circular := true } rest := by
  rw [asked]
  refine (if_neg hskip).trans ?_
  rw [hlink]
  rcases hcircle with hcircle | ⟨hcircle, rfl⟩ <;> simp only [hcircle]

end Steps

/-! ## Working out on two disks -/

/-- Two outcomes are the same, or both are failures for reasons that are alike. -/
inductive Agrees (Alike : AccessFault → AccessFault → Prop) {α : Type} :
    Except AccessFault α → Except AccessFault α → Prop
  /-- The outcomes are the same. -/
  | same (r : Except AccessFault α) : Agrees Alike r r
  /-- Both are failures. -/
  | fail {fault fault' : AccessFault} (h : Alike fault fault') :
      Agrees Alike (.error fault) (.error fault')

section Agree

variable {Alike : AccessFault → AccessFault → Prop} {α β : Type} {r r' : Except AccessFault α}

theorem Agrees.eq_of_ok {a : α} (h : Agrees Alike r r') (hr : r = .ok a) : r' = .ok a := by
  cases h with
  | same => exact hr
  | fail => cases hr

theorem Agrees.bind {f g : α → Except AccessFault β} (h : Agrees Alike r r')
    (hf : ∀ a, r = .ok a → Agrees Alike (f a) (g a)) :
    Agrees Alike (r.bind f) (r'.bind g) := by
  cases h with
  | same =>
    cases r with
    | error fault => exact .same _
    | ok a => exact hf a rfl
  | fail hfault => exact .fail hfault

/-- If no two failures are alike, the outcomes are the same. -/
theorem Agrees.eq (h : Agrees (fun _ _ => False) r r') : r = r' := by
  cases h with
  | same => rfl
  | fail hfault => cases hfault

/-- A link of which no real path is known, and which is not worked out any more, leads in a
circle. -/
theorem circle_of_not_known {depth : Nat} {known? : Option (Option Path)}
    (hknown : ∀ known, known? = some (some known) → False)
    (hunknown : ∀ depth', known? = none → depth = depth' + 1 → False) :
    known? = some none ∨ known? = none ∧ depth = 0 := by
  cases known? with
  | none =>
    cases depth with
    | zero => exact .inr ⟨rfl, rfl⟩
    | succ depth => exact (hunknown depth rfl rfl).elim
  | some known =>
    cases known with
    | none => exact .inl rfl
    | some known => exact (hknown known rfl).elim

/-- Names are worked out alike on two disks if the answers at all paths that are asked for agree. -/
theorem agrees_follow {depth : Nat} {trail : Trail} {names : List Text}
    (h : ∀ path ∈ d.asked strict depth trail names,
      Agrees Alike (d.linkAt strict path) (d'.linkAt strict path)) :
    Agrees Alike (d.follow strict depth trail names) (d'.follow strict depth trail names) := by
  fun_induction follow d strict depth trail names with
  | case1 depth trail =>
    rw [follow]
    exact .same _
  | case2 depth trail name rest next hskip ih =>
    rw [asked_skip hskip] at h
    rw [follow_skip hskip]
    exact ih h
  | case3 depth trail name rest next hskip fault hlink =>
    have hnext := h next (mem_asked hskip)
    rw [hlink] at hnext
    generalize hlink' : d'.linkAt strict next = r at hnext
    cases hnext with
    | same =>
      rw [follow_fault hskip hlink']
      exact .same _
    | fail hfault =>
      rw [follow_fault hskip hlink']
      exact .fail hfault
  | case4 depth trail name rest next hskip hlink ih =>
    rw [asked_plain hskip hlink, List.forall_mem_cons] at h
    rw [follow_plain hskip (h.1.eq_of_ok hlink)]
    exact ih h.2
  | case5 trail name rest next hskip target hlink known depth hknown ih =>
    rw [asked_known hskip hlink hknown, List.forall_mem_cons] at h
    rw [follow_known hskip (h.1.eq_of_ok hlink) hknown]
    exact ih h.2
  | case6 trail name rest next hskip target hlink depth hunknown start fault hinner ih =>
    rw [asked_link hskip hlink hunknown, List.forall_mem_cons, List.forall_mem_append] at h
    rw [follow_link hskip (h.1.eq_of_ok hlink) hunknown]
    have hagrees : Agrees Alike (.error fault)
        (d'.follow strict depth (trail.enter next target) (Path.partsOf target)) := by
      rw [← hinner]
      exact ih h.2.1
    exact hagrees.bind (f := fun _ => .error fault) (by simp)
  | case7 trail name rest next hskip target hlink depth hunknown start inner hinner met ihInner
      ih =>
    -- The target is worked out alike, and the names behind the link go on from there.
    have hreaches : d.follow strict depth (trail.enter next target) (Path.partsOf target) =
      .ok inner := hinner
    rw [asked_link hskip hlink hunknown, hreaches, List.forall_mem_cons,
      List.forall_mem_append] at h
    have hreaches' : d'.follow strict depth (trail.enter next target) (Path.partsOf target) =
      .ok inner := (ihInner h.2.1).eq_of_ok hinner
    rw [follow_link hskip (h.1.eq_of_ok hlink) hunknown, hreaches']
    exact ih h.2.2
  | case8 trail name rest next hskip target hlink depth hstrict hknown hunknown =>
    have hcircle := circle_of_not_known hknown hunknown
    rw [asked_circle hskip hlink hcircle, List.forall_mem_cons] at h
    rw [follow_circle hskip (h.1.eq_of_ok hlink) hcircle, if_pos hstrict]
    exact .same _
  | case9 trail name rest next hskip target hlink depth hstrict hknown hunknown ih =>
    have hcircle := circle_of_not_known hknown hunknown
    rw [asked_circle hskip hlink hcircle, List.forall_mem_cons, if_neg hstrict] at h
    rw [follow_circle hskip (h.1.eq_of_ok hlink) hcircle, if_neg hstrict]
    exact ih h.2

/-- A path is worked out alike on two disks if the answers at all paths that are asked for agree. -/
theorem agrees_workOut {path : Path} (hhere : d'.workingDirectory = d.workingDirectory)
    (h : ∀ p ∈ d.askedFor strict path, Agrees Alike (d.linkAt strict p) (d'.linkAt strict p)) :
    Agrees Alike (d.workOut strict path) (d'.workOut strict path) := by
  have hfollow : Agrees Alike
      (d.follow strict nestingLimit ⟨beforeNames path, [], false⟩ path.parts)
      (d'.follow strict nestingLimit ⟨beforeNames path, [], false⟩ path.parts) := agrees_follow h
  rw [workOut_eq, workOut_eq]
  refine hfollow.bind fun trail _ => ?_
  rw [absolute_congr hhere]
  exact .same _

/-- A path is worked out alike on two disks on which links are seen alike. -/
theorem workOut_congr (hhere : d'.workingDirectory = d.workingDirectory)
    (h : ∀ p, d'.linkAt strict p = d.linkAt strict p) (path : Path) :
    d'.workOut strict path = d.workOut strict path := by
  refine (agrees_workOut hhere.symm fun p _ => ?_).eq
  rw [h p]
  exact .same _

end Agree

/-! ## Files written inside a directory -/

/-- Both failures concern the disk and not the path itself. -/
def BothRefused (fault fault' : AccessFault) : Prop :=
  fault.isUnspeakable = false ∧ fault'.isUnspeakable = false

/-- The path names something inside the directory, a link at its end not followed. -/
def NamesInside (d : Disk) (top : Location) (path : Path) : Prop :=
  ∃ l e, d.linkStatus path.toText = .ok (l, e) ∧ IsInside top l

namespace Fills

/-- To a lenient working out a file is as good as nothing. -/
theorem linkAt_eq (h : Fills top d d') (path : Path) :
    d'.linkAt false path = d.linkAt false path := by
  have hseen := h.seenWithin_statusBy false path.toText
  unfold linkAt linkStatus
  generalize d.statusBy false path.toText = r at hseen ⊢
  generalize d'.statusBy false path.toText = r' at hseen ⊢
  cases hseen <;> rfl

/-- A strict working out gets another answer only where it comes to something inside. -/
theorem agrees_linkAt (h : Fills top d d') {path : Path} (hout : ¬d'.NamesInside top path) :
    Agrees BothRefused (d'.linkAt true path) (d.linkAt true path) := by
  have hseen := h.seenWithin_statusBy false path.toText
  unfold NamesInside at hout
  unfold linkAt
  simp only [linkStatus] at hout ⊢
  generalize d.statusBy false path.toText = r at hseen ⊢
  generalize d'.statusBy false path.toText = r' at hseen hout ⊢
  cases hseen with
  | same => exact .same _
  | rewritten hin => exact absurd ⟨_, _, rfl, hin⟩ hout
  | written hin => exact absurd ⟨_, _, rfl, hin⟩ hout
  | blocked => exact .fail ⟨rfl, rfl⟩

/-- The strict working out of a path stays the same, up to why it fails, if it asks for nothing
inside. -/
theorem agrees_existingPath (h : Fills top d d') {path : Path}
    (hasked : ∀ p ∈ d'.askedFor true path, ¬d'.NamesInside top p) :
    Agrees BothRefused (d'.existingPath path) (d.existingPath path) :=
  agrees_workOut h.here.symm fun p hp => h.agrees_linkAt (hasked p hp)

/-- The real path of a path stays the same. -/
theorem realPath_eq (h : Fills top d d') (path : Path) : d'.realPath path = d.realPath path := by
  unfold realPath
  rw [workOut_congr h.here h.linkAt_eq]
  cases d.workOut false path with
  | error fault => rfl
  | ok real =>
    -- Only links that lead in a circle are told apart, and these are not inside.
    have hseen := h.seenWithin_statusBy true real.toText
    unfold status
    dsimp only
    generalize d.statusBy true real.toText = r at hseen ⊢
    generalize d'.statusBy true real.toText = r' at hseen ⊢
    cases hseen <;> rfl

end Fills

end Disk

end StyleImport
