import StyleImport.Proofs.TempArea.Contents

/-!
# Emptying and clearing

Emptying the temp area and clearing it touch nothing but the area, whatever links lie in it or lead
to it. Only directories above it that are missing are made on the way. Neither goes through a link
that stands at the path of the area itself.

## Main definitions

- `TempArea.IsEmptied`: what emptying leaves behind.
- `TempArea.IsCleared`: what clearing leaves behind.
- `TempArea.IsRefused`: an operation fails and leaves the disk as it is.

## Main statements

- `TempArea.emptied_and_cleared`: what emptying and clearing change, and when they are refused.
-/

namespace StyleImport

namespace TempArea

open Disk

variable {a : TempArea} {d d' : Disk} {path : Path} {top top₀ l : Location} {e : Entry}

/-! ## Removing and making anew -/

/-- A directory that is removed and made anew has the same place as before. -/
theorem place_of_madeUpTo (hd : d.IsTree) (hd' : d'.IsTree) (hp : path.IsProper)
    (hemptied : (d.eraseBelow top₀).linkStatus path.toText = .ok (top₀, .directory))
    (htop₀ : top₀ ≠ []) (hmade : MadeUpTo top (d.eraseTree top₀) d')
    (hstatus : d'.status path.toText = .ok (top, .directory)) : top₀ = top := by
  have hbefore := status_of_linkStatus hemptied (by simp)
  obtain ⟨-, -, here, m, hhere, hleads, hdir⟩ :=
    (status_eq_ok_iff (isTree_eraseBelow hd top₀).here hp).mp hbefore
  obtain ⟨-, -, here', m', hhere', hleads', -⟩ := (status_eq_ok_iff hd'.here hp).mp hstatus
  have hsame : here = here' := by
    have horigin : (d.eraseTree top₀).origin? path = some here' := by
      unfold origin? at hhere' ⊢
      rwa [← hmade.here]
    exact Option.some.inj ((origin?_of_restrict hhere).symm.trans (origin?_of_restrict horigin))
  subst hsame
  -- The place itself is a directory before and after, and elsewhere nothing but directories is new.
  refine hleads.unique_of_agree (fun l e e' he he' => ?_) hleads'
  have hkept : l = top₀ ∨ ¬within top₀ l := by
    by_contra hgone
    rw [entry?_eraseBelow, if_neg hgone] at he
    cases he
  rcases hmade.entry l with hold | ⟨-, hnone, hnew⟩
  · rw [entry?_eraseTree d htop₀] at hold
    by_cases hwithin : within top₀ l
    · rw [if_pos hwithin, he'] at hold
      cases hold
    · rw [if_neg hwithin] at hold
      rw [entry?_eraseBelow, if_pos hkept, ← hold, he'] at he
      exact Option.some.inj he
  · rcases hkept with rfl | hout
    · exact Option.some.inj (he'.symm.trans (hnew.trans (hdir.symm.trans he)))
    · rw [entry?_eraseTree d htop₀, if_neg hout] at hnone
      rw [entry?_eraseBelow, if_pos (.inr hout), hnone] at he
      cases he

/-! ## Emptying -/

/-- What emptying leaves behind at the place of the temp area: an empty directory. All else stays as
it is, but directories are made where nothing stood above the area. -/
structure IsEmptied (a : TempArea) (d d' : Disk) (top : Location) : Prop where
  /-- A directory is seen at the path. -/
  there : d'.status a.root.toText = .ok (top, .directory)
  /-- If anything was seen there before, it was a directory at the same place. -/
  before : ∀ l e, d.status a.root.toText = .ok (l, e) → l = top ∧ e = .directory
  /-- Nothing stands inside. -/
  inside : ∀ l, IsInside top l → d'.entry? l = none
  /-- Outside nothing changes but for missing directories above. -/
  outside : ∀ l, ¬within top l → d'.entry? l = d.entry? l ∨
    l <+: top ∧ d.entry? l = none ∧ d'.entry? l = some .directory

theorem isEmptied_of_reset (hd : d.IsTree) (ha : a.root.IsProper)
    (hdots : ∀ name ∈ a.root.parts, name ≠ "..") (h : a.reset.Gives d () d') :
    ∃ top, IsEmptied a d d' top := by
  have hd' := isTree_of_reset hd h
  obtain ⟨d₁, hd₁, top, hstatus, hempty, hmade⟩ := madeAnew_of_reset hd ha hdots h
  have hinside : ∀ l, IsInside top l → d'.entry? l = none := fun l hin =>
    hd'.entry?_of_isInside hempty hin
  rcases hd₁ with ⟨rfl, hnothing⟩ | ⟨hremoved, rfl⟩
  · -- Nothing was seen at the path.
    refine ⟨top, hstatus, fun l e hbefore => ?_, hinside, fun l _ => hmade.entry l⟩
    have hseen : d₁.holds (fun _ => true) a.root := holds_eq_true_iff.mpr ⟨l, e, hbefore, rfl⟩
    rw [hnothing] at hseen
    cases hseen
  · -- The directory was removed, and it is made again at the same place.
    obtain ⟨top₀, htop₀, hlink, hemptied, herased⟩ := removeTree_eq hd ha hremoved
    rw [herased] at hmade
    have hsame := place_of_madeUpTo hd hd' ha hemptied htop₀ hmade hstatus
    subst hsame
    refine ⟨top₀, hstatus, fun l e hbefore => ?_, hinside, fun l hout => ?_⟩
    · cases (status_of_linkStatus hlink (by simp)).symm.trans hbefore
      exact ⟨rfl, rfl⟩
    · have hkept := entry?_eraseTree d htop₀ l
      rw [if_neg hout] at hkept
      rw [← hkept]
      exact hmade.entry l

/-! ## Clearing -/

/-- What clearing leaves behind: nothing is seen at the path of the temp area, and all else stays as
it is. The answer tells whether anything was seen there before. -/
structure IsCleared (a : TempArea) (d d' : Disk) (there : Bool) : Prop where
  /-- The answer tells what was seen. -/
  before : there = d.holds (fun _ => true) a.root
  /-- Nothing is seen any more. -/
  gone : ¬d'.holds (fun _ => true) a.root
  /-- Without anything there nothing changes. -/
  missing : there = false → d' = d
  /-- Otherwise a directory is erased with all below it, and nothing else. -/
  erased : there = true → ∃ top, d.status a.root.toText = .ok (top, .directory) ∧
    ∀ l, d'.entry? l = if within top l then none else d.entry? l

theorem isCleared_of_clear {there : Bool} (hd : d.IsTree) (ha : a.root.IsProper)
    (h : a.clear.Gives d there d') : IsCleared a d d' there := by
  obtain ⟨hthere, hcases⟩ := gives_clear h
  rcases hcases with ⟨rfl, rfl⟩ | ⟨rfl, hremoved, rfl⟩
  · refine ⟨hthere, ?_, fun _ => rfl, nofun⟩
    rw [← hthere]
    exact Bool.false_ne_true
  · refine ⟨hthere, not_holds_of_removeTree hd ha hremoved, nofun, fun _ => ?_⟩
    obtain ⟨top, htop, hlink, -, hdisk⟩ := removeTree_eq hd ha hremoved
    refine ⟨top, status_of_linkStatus hlink (by simp), fun l => ?_⟩
    rw [hdisk]
    exact entry?_eraseTree d htop l

/-! ## Refusals -/

/-- The operation fails and leaves the disk as it is. -/
def IsRefused {α : Type} (x : Action α) (d : Disk) : Prop :=
  (∃ failure, (x d).1.result = .error failure) ∧ (x d).2 = d

/-- An action is refused if its first part is. -/
theorem IsRefused.bind {α β : Type} {x : Action α} (h : IsRefused x d) (f : α → Action β) :
    IsRefused (x >>= f) d := by
  obtain ⟨⟨failure, hresult⟩, hdisk⟩ := h
  constructor
  · rw [Action.result_bind, hresult]
    exact ⟨failure, rfl⟩
  · rw [Action.disk_bind, hresult]
    exact hdisk

/-- An action is refused if what follows on a lookup is. -/
theorem isRefused_lookup_bind {α β : Type} {g : Disk → Traced α} {there : α} {f : α → Action β}
    (hthere : (g d).result = .ok there) (h : IsRefused (f there) d) :
    IsRefused (.lookup g >>= f) d := by
  constructor
  · rw [Action.result_lookup_bind, hthere]
    exact h.1
  · rw [Action.disk_lookup_bind, hthere]
    exact h.2

/-- No tree is removed where something else than a directory stands. -/
theorem isRefused_removeTree (hstatus : d.linkStatus path.toText = .ok (l, e))
    (he : e ≠ .directory) : IsRefused (.change (·.removeTree path)) d := by
  obtain ⟨fault, hremove⟩ : ∃ fault, d.removeTree path = ⟨some fault, d⟩ := by
    rcases removeTree_cases d path with hfails | ⟨l', hdirectory, -⟩
    · exact hfails
    · cases hstatus.symm.trans hdirectory
      exact absurd rfl he
  constructor
  · rw [Action.result_change, hremove]
    exact ⟨.access fault, rfl⟩
  · rw [Action.disk_change, hremove]

theorem isRefused_of_linkStatus (hstatus : d.linkStatus a.root.toText = .ok (l, e))
    (he : e ≠ .directory) (hseen : d.holds (fun _ => true) a.root) :
    IsRefused a.reset d ∧ IsRefused a.clear d := by
  have hthere : (Traced.ofAccess (d.occupiedAt a.root)).result = .ok true := by
    obtain ⟨l', e', hstatus', -⟩ := holds_eq_true_iff.mp hseen
    rw [Traced.result_ofAccess, mapError_eq_ok_iff, occupiedAt, isAt, hstatus']
  have hremove := isRefused_removeTree hstatus he
  exact ⟨isRefused_lookup_bind hthere (hremove.bind _),
    isRefused_lookup_bind hthere (hremove.bind _)⟩

/-- Emptying and clearing touch nothing but the temp area, and emptying makes the directories above
it that are missing. Both are refused where a file stands at the path of the area or a link that
leads somewhere, and then nothing changes. -/
theorem emptied_and_cleared (hd : d.IsTree) (ha : a.root.IsProper)
    (hdots : ∀ name ∈ a.root.parts, name ≠ "..") :
    (∀ d', a.reset.Gives d () d' → ∃ top, IsEmptied a d d' top) ∧
    (∀ there d', a.clear.Gives d there d' → IsCleared a d d' there) ∧
    (∀ l e, d.linkStatus a.root.toText = .ok (l, e) →
      (∃ bytes, e = .file bytes) ∨
        (∃ target, e = .link target) ∧ d.holds (fun _ => true) a.root →
      IsRefused a.reset d ∧ IsRefused a.clear d) := by
  refine ⟨fun d' h => isEmptied_of_reset hd ha hdots h,
    fun there d' h => isCleared_of_clear hd ha h, fun l e hstatus hkind => ?_⟩
  rcases hkind with ⟨bytes, rfl⟩ | ⟨⟨target, rfl⟩, hseen⟩
  · have hseen : d.holds (fun _ => true) a.root :=
      holds_eq_true_iff.mpr ⟨l, _, status_of_linkStatus hstatus (by simp), rfl⟩
    exact isRefused_of_linkStatus hstatus (by simp) hseen
  · exact isRefused_of_linkStatus hstatus (by simp) hseen

/-- A disk with a temp area in which a link leads out of it, and with a link to a directory. -/
def linkedDisk : Disk where
  entries := [(["o"], .directory), (["o", "x"], .file [120]), (["t"], .directory),
    (["t", "a"], .directory), (["t", "a", "f"], .file []), (["t", "l"], .link "/o"),
    (["k"], .link "/o")]
  workingDirectory := some []

theorem linkedDisk_isTree : linkedDisk.IsTree := ⟨by decide, by decide, by decide, by decide⟩

/-- The directory behind the links stays what it is. Through a link to it nothing is removed. -/
theorem linkedDisk_emptied_and_cleared :
    let a : TempArea := ⟨.ofText "/t"⟩
    let b : TempArea := ⟨.ofText "/k"⟩
    let bare : Disk := ⟨[(["o"], .directory), (["o", "x"], .file [120]), (["k"], .link "/o")],
      some []⟩
    linkedDisk.IsTree ∧ a.root.IsProper ∧ (∀ name ∈ a.root.parts, name ≠ "..") ∧
      b.root.IsProper ∧ (∀ name ∈ b.root.parts, name ≠ "..") ∧
      a.reset.Gives linkedDisk () (bare.put ["t"] .directory) ∧
      (∃ top, IsEmptied a linkedDisk (bare.put ["t"] .directory) top) ∧
      a.clear.Gives linkedDisk true bare ∧ IsCleared a linkedDisk bare true ∧
      IsRefused b.reset linkedDisk ∧ IsRefused b.clear linkedDisk := by
  intro a b bare
  have ha : a.root.IsProper := by decide
  have hdots : ∀ name ∈ a.root.parts, name ≠ ".." := by decide
  have hb : b.root.IsProper := by decide
  have hdots' : ∀ name ∈ b.root.parts, name ≠ ".." := by decide
  have hreset : a.reset.Gives linkedDisk () (bare.put ["t"] .directory) := ⟨by cbv, by cbv⟩
  have hclear : a.clear.Gives linkedDisk true bare := ⟨by cbv, by cbv⟩
  have hlink : linkedDisk.linkStatus b.root.toText = .ok (["k"], .link "/o") := by cbv
  have hseen : linkedDisk.holds (fun _ => true) b.root := by cbv
  obtain ⟨hemptied, hcleared, -⟩ := emptied_and_cleared linkedDisk_isTree ha hdots
  obtain ⟨-, -, hrefused⟩ := emptied_and_cleared linkedDisk_isTree hb hdots'
  exact ⟨linkedDisk_isTree, ha, hdots, hb, hdots', hreset, hemptied _ hreset, hclear,
    hcleared _ _ hclear, hrefused _ _ hlink (.inr ⟨⟨_, rfl⟩, hseen⟩)⟩

end TempArea

end StyleImport
