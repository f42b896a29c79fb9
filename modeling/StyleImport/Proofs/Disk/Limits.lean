import StyleImport.Proofs.Disk.Status

/-!
# The limits of the system

The system refuses a path for its length only if the path itself, a name on it or a name in the
target of a link exceeds a limit.

## Main definitions

- `Disk.IsShort`: paths that exceed no limit.
- `Disk.HasShortLinks`: no name in the target of a link exceeds the limit.

## Main statements

- `Disk.not_isTooLong_of_isShort`: such paths are never refused for their length.
-/

namespace StyleImport

namespace Disk

variable {d : Disk} {n : Nat} {here : Location} {names : List Text} {path : Path}

/-- Neither the path nor a name on it is longer than the system allows. -/
def IsShort (path : Path) : Prop :=
  byteCount path.toText ≤ pathLimit ∧ ∀ name ∈ path.parts, byteCount name ≤ nameLimit

instance (path : Path) : Decidable (IsShort path) := inferInstanceAs (Decidable (_ ∧ _))

/-- No name in the target of a link, if this is one, is longer than the system allows. -/
def HasShortTarget : Entry → Prop
  | .link target => ∀ name ∈ steps target, byteCount name ≤ nameLimit
  | _ => True

instance : (e : Entry) → Decidable (HasShortTarget e)
  | .link target => inferInstanceAs (Decidable (∀ name ∈ steps target, byteCount name ≤ nameLimit))
  | .file _ => isTrue trivial
  | .directory => isTrue trivial

/-- No name in the target of a link on the disk is longer than the system allows. -/
def HasShortLinks (d : Disk) : Prop := ∀ x ∈ d.entries, HasShortTarget x.2

instance (d : Disk) : Decidable d.HasShortLinks := inferInstanceAs (Decidable (∀ x ∈ d.entries, _))

theorem HasShortLinks.of_entry? (hd : d.HasShortLinks) {l : Location} {target : Text}
    (h : d.entry? l = some (.link target)) : ∀ name ∈ steps target, byteCount name ≤ nameLimit := by
  have hl : l ≠ [] := by
    rintro rfl
    cases (entry?_nil d).symm.trans h
  exact hd _ (mem_entries_of_entry?_eq hl h)

/-- A walk along short names meets no name that is too long. -/
theorem walk_ne_nameTooLong {followLast : Bool} (hd : d.HasShortLinks)
    (hnames : ∀ name ∈ names, byteCount name ≤ nameLimit) :
    d.walk followLast n here names ≠ .error .nameTooLong := by
  fun_induction walk d followLast n here names with
  | case5 n here name rest hdir hblank ih => exact ih (List.forall_mem_cons.mp hnames).2
  | case6 n here rest hdir hblank ih => exact ih (List.forall_mem_cons.mp hnames).2
  | case7 n here name rest hdir hblank hdots hlong =>
    exact absurd (List.forall_mem_cons.mp hnames).1 (Nat.not_le.mpr hlong)
  | case12 here name rest hdir hblank hdots hlong target he hlast n ih =>
    exact ih (List.forall_mem_append.mpr ⟨hd.of_entry? he, (List.forall_mem_cons.mp hnames).2⟩)
  | case13 n here name rest hdir hblank hdots hlong e hlink he ih =>
    exact ih (List.forall_mem_cons.mp hnames).2
  | _ =>
    intro h
    cases h

/-- A short path is not refused for its length. -/
theorem not_isTooLong_of_isShort (hd : d.IsTree) (hlinks : d.HasShortLinks) (hp : path.IsProper)
    (h : IsShort path) : ¬d.IsTooLong path := by
  intro hlong
  have hlocate := locate_of_status_error (by simp) hlong
  rw [locate_eq, bind_eq_error_iff] at hlocate
  rcases hlocate with hstart | ⟨here, hstart, hwalk⟩
  · unfold start at hstart
    split at hstart
    · next hspeak =>
      have hunspeakable := isUnspeakable_of_unspeakable? hspeak
      cases hstart
      cases hunspeakable
    · rw [if_neg (Path.toText_ne_nil path), if_neg (Nat.not_lt.mpr h.1)] at hstart
      split at hstart
      · cases hstart
      · split at hstart <;> cases hstart
  · obtain ⟨f, hf, hfault⟩ := mapError_eq_error_iff.mp hwalk
    cases hfault
    rw [walk_steps_toText hp (entry?_start hd.here hstart)] at hf
    exact walk_ne_nameTooLong hlinks h.2 hf

end Disk

end StyleImport
