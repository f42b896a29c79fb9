import Mathlib
import StyleImport.Effect

/-!
# Results of lookups and actions

A lookup that goes on with a result has a result just if both of its parts have one, and so has an
action. The records on the way do not matter.

## Main definitions

- `Action.Gives`: an action has a result and leaves a disk behind.

## Main statements

- `Traced.result_bind`: the result of a lookup that goes on.
- `Action.gives_bind`: what an action gives that goes on.
-/

namespace StyleImport

namespace Traced

variable {α β : Type}

theorem result_bind (t : Traced α) (f : α → Traced β) :
    (t >>= f).result = t.result.bind fun a => (f a).result := by
  show (Traced.bind t f).result = _
  unfold Traced.bind
  cases t.result <;> rfl

@[simp] theorem result_pure (a : α) : (pure a : Traced α).result = .ok a := rfl

@[simp] theorem result_ofExcept (r : Except Failure α) : (ofExcept r).result = r := rfl

theorem result_ofAccess (r : Except AccessFault α) : (ofAccess r).result = r.mapError .access := rfl

/-- Noting a record does not change the result. -/
@[simp] theorem result_note_bind (r : Record) (f : Unit → Traced β) :
    (note r >>= f).result = (f ()).result := rfl

/-- A result without records that goes on. -/
theorem result_ofExcept_bind (r : Except Failure α) (f : α → Traced β) :
    (ofExcept r >>= f).result = r.bind fun a => (f a).result :=
  result_bind _ f

end Traced

/-- A computation that goes on has a result just if both of its parts have one. -/
theorem bind_eq_ok_iff {ε α β : Type} {x : Except ε α} {f : α → Except ε β} {b : β} :
    x.bind f = .ok b ↔ ∃ a, x = .ok a ∧ f a = .ok b := by
  cases x <;> simp [Except.bind]

theorem mapError_eq_ok_iff {ε ε' α : Type} {x : Except ε α} {f : ε → ε'} {a : α} :
    x.mapError f = .ok a ↔ x = .ok a := by
  cases x <;> simp [Except.mapError]

theorem mapError_eq_error_iff {ε ε' α : Type} {x : Except ε α} {f : ε → ε'} {fault : ε'} :
    x.mapError f = .error fault ↔ ∃ a, x = .error a ∧ f a = fault := by
  cases x <;> simp [Except.mapError]

theorem bind_eq_error_iff {ε α β : Type} {x : Except ε α} {f : α → Except ε β} {fault : ε} :
    x.bind f = .error fault ↔ x = .error fault ∨ ∃ a, x = .ok a ∧ f a = .error fault := by
  cases x <;> simp [Except.bind]

namespace Action

variable {α β : Type} {d d' : Disk}

/-! ## The disk that is left behind -/

theorem disk_bind (x : Action α) (f : α → Action β) (d : Disk) :
    ((x >>= f) d).2 =
      match (x d).1.result with
      | .ok a => (f a (x d).2).2
      | .error _ => (x d).2 := by
  show (Action.bind x f d).2 = _
  unfold Action.bind
  rcases x d with ⟨⟨log, fault | a⟩, d₁⟩ <;> rfl

/-- The result of an action that goes on is that of its second part on the disk that the first part
leaves behind. -/
theorem result_bind (x : Action α) (f : α → Action β) (d : Disk) :
    ((x >>= f) d).1.result = (x d).1.result.bind fun a => (f a (x d).2).1.result := by
  show (Action.bind x f d).1.result = _
  unfold Action.bind
  rcases x d with ⟨⟨log, fault | a⟩, d₁⟩ <;> rfl

theorem result_note_bind (r : Record) (f : Unit → Action β) (d : Disk) :
    ((note r >>= f) d).1.result = (f () d).1.result := rfl

theorem result_lookup_bind (g : Disk → Traced α) (f : α → Action β) (d : Disk) :
    ((lookup g >>= f) d).1.result = (g d).result.bind fun a => (f a d).1.result :=
  result_bind _ f d

theorem disk_note_bind (r : Record) (f : Unit → Action β) (d : Disk) :
    ((note r >>= f) d).2 = (f () d).2 := rfl

theorem disk_lookup_bind (g : Disk → Traced α) (f : α → Action β) (d : Disk) :
    ((lookup g >>= f) d).2 =
      match (g d).result with
      | .ok a => (f a d).2
      | .error _ => d :=
  disk_bind _ f d

theorem disk_change (f : Disk → Disk.Change) (d : Disk) : (change f d).2 = (f d).disk := by
  unfold change
  dsimp only
  split <;> rfl

theorem result_change (f : Disk → Disk.Change) (d : Disk) :
    (change f d).1.result =
      match (f d).fault with
      | none => .ok ()
      | some fault => .error (.access fault) := by
  unfold change
  dsimp only
  cases (f d).fault <;> rfl

/-! ## Actions that depend on what they read -/

/-- An action that goes on with what is read from the disk depends on what is read only. -/
theorem lookup_bind_congr {f g : Disk → Traced α} {d : Disk} (h : f d = g d) (k : α → Action β) :
    (lookup f >>= k) d = (lookup g >>= k) d := by
  show Action.bind (lookup f) k d = Action.bind (lookup g) k d
  have hlookup : lookup f d = lookup g d := by
    unfold lookup
    rw [h]
  unfold Action.bind
  rw [hlookup]

theorem note_bind_congr {x y : Action β} {d : Disk} (h : x d = y d) (r : Record) :
    (note r >>= fun _ => x) d = (note r >>= fun _ => y) d := by
  show Action.bind (note r) (fun _ => x) d = Action.bind (note r) (fun _ => y) d
  unfold Action.bind note
  simp only [Traced.note, h]

/-! ## Results together with the disk -/

/-- The action has this result on the first disk and leaves the second one behind. -/
def Gives (x : Action α) (d : Disk) (a : α) (d' : Disk) : Prop :=
  (x d).1.result = .ok a ∧ (x d).2 = d'

/-- An action that goes on gives what its second part gives on the disk that the first part
leaves behind. -/
theorem gives_bind {x : Action α} {f : α → Action β} {b : β} :
    (x >>= f).Gives d b d' ↔ ∃ a d₁, x.Gives d a d₁ ∧ (f a).Gives d₁ b d' := by
  show (Action.bind x f).Gives d b d' ↔ _
  unfold Gives Action.bind
  rcases x d with ⟨⟨log, fault | a⟩, d₁⟩
  · simp
  · constructor
    · intro h
      exact ⟨a, d₁, ⟨rfl, rfl⟩, h⟩
    · rintro ⟨a', d₁', ⟨ha, rfl⟩, h⟩
      cases ha
      exact h

theorem gives_pure {a a' : α} : (pure a : Action α).Gives d a' d' ↔ a = a' ∧ d = d' := by
  show (Action.done a).Gives d a' d' ↔ _
  simp [Gives, Action.done]

theorem gives_lookup {f : Disk → Traced α} {a : α} :
    (lookup f).Gives d a d' ↔ (f d).result = .ok a ∧ d = d' := Iff.rfl

theorem gives_note_bind {r : Record} {f : Unit → Action β} {b : β} :
    (note r >>= f).Gives d b d' ↔ (f ()).Gives d b d' := by
  rw [gives_bind]
  constructor
  · rintro ⟨⟨⟩, d₁, ⟨-, rfl⟩, h⟩
    exact h
  · intro h
    exact ⟨(), d, ⟨rfl, rfl⟩, h⟩

/-- A lookup goes on with its result on the disk as it is. -/
theorem gives_lookup_bind {f : Disk → Traced α} {g : α → Action β} {b : β} :
    (lookup f >>= g).Gives d b d' ↔ ∃ a, (f d).result = .ok a ∧ (g a).Gives d b d' := by
  rw [gives_bind]
  constructor
  · rintro ⟨a, d₁, ⟨ha, rfl⟩, h⟩
    exact ⟨a, ha, h⟩
  · rintro ⟨a, ha, h⟩
    exact ⟨a, d, ⟨ha, rfl⟩, h⟩

theorem gives_change {f : Disk → Disk.Change} {a : Unit} :
    (change f).Gives d a d' ↔ (f d).fault = none ∧ (f d).disk = d' := by
  unfold Gives change
  dsimp only
  split
  · next hfault => simp [hfault]
  · next hfault => simp [hfault]

end Action

end StyleImport
