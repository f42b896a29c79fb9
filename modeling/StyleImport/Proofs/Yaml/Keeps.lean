import Mathlib
import StyleImport.Yaml.Fault

/-!
# Computations that keep a property

The nodes of a document are worked out by computations that change a state and may stop at a fault.
A computation keeps a property of the state if the property holds afterwards whenever it held
before; the faults at which it stops and the results that it gives are bounded along the way.

## Main definitions

- `Yaml.Keeps`: a computation keeps a property, with all its faults and results in given sets.

## Main statements

- `Yaml.Keeps.bind`: computations one after the other.
- `Yaml.Keeps.foldlM`, `Yaml.Keeps.mapM`, `Yaml.Keeps.forM`: computations along a list.
-/

namespace StyleImport

namespace Yaml

variable {σ α β : Type}

/-- A computation keeps the property `I` of the state. Where it stops its fault is in `E`, and where
it does not its result is in `Q`. -/
def Keeps (I : σ → Prop) (E : Fault → Prop) (x : StateT σ (Except Fault) α) (Q : α → Prop) : Prop :=
  ∀ s, I s → match x.run s with
    | .ok (a, s') => I s' ∧ Q a
    | .error fault => E fault

namespace Keeps

variable {I : σ → Prop} {E : Fault → Prop} {Q : α → Prop} {R : β → Prop} {fault : Fault}

theorem pure {a : α} (h : Q a) : Keeps I E (pure a) Q := fun _ hs => ⟨hs, h⟩

theorem throw (h : E fault) : Keeps I E (throw fault) Q := fun _ _ => h

theorem get : Keeps I E (get : StateT σ (Except Fault) σ) I := fun _ hs => ⟨hs, hs⟩

theorem set {s : σ} (h : I s) {Q : PUnit → Prop} (hQ : Q ⟨⟩) :
    Keeps I E (set s : StateT σ (Except Fault) PUnit) Q := fun _ _ => ⟨h, hQ⟩

theorem modify {f : σ → σ} (h : ∀ s, I s → I (f s)) {Q : PUnit → Prop} (hQ : Q ⟨⟩) :
    Keeps I E (modify f : StateT σ (Except Fault) PUnit) Q := fun s hs => ⟨h s hs, hQ⟩

/-- Computations one after the other keep what each of them keeps. -/
theorem bind {x : StateT σ (Except Fault) α} {f : α → StateT σ (Except Fault) β}
    (hx : Keeps I E x Q) (hf : ∀ a, Q a → Keeps I E (f a) R) : Keeps I E (x >>= f) R := by
  intro s hs
  have hfirst := hx s hs
  rw [StateT.run_bind]
  rcases hrun : x.run s with fault | ⟨a, s'⟩
  · rw [hrun] at hfirst
    exact hfirst
  · rw [hrun] at hfirst
    exact hf a hfirst.2 s' hfirst.1

/-- What stands behind a fault is not run. -/
theorem throw_bind {f : α → StateT σ (Except Fault) β} (h : E fault) :
    Keeps I E (MonadExcept.throw fault >>= f) R := fun _ _ => h

theorem mono {E' : Fault → Prop} {Q' : α → Prop} {x : StateT σ (Except Fault) α}
    (hx : Keeps I E x Q) (hE : ∀ fault, E fault → E' fault) (hQ : ∀ a, Q a → Q' a) :
    Keeps I E' x Q' := by
  intro s hs
  have hrun := hx s hs
  split at hrun
  · exact ⟨hrun.1, hQ _ hrun.2⟩
  · exact hE _ hrun

/-- Nothing need be known about the results of a computation. -/
theorem drop {x : StateT σ (Except Fault) α} (hx : Keeps I E x Q) :
    Keeps I E x fun _ => True :=
  hx.mono (fun _ h => h) fun _ _ => trivial

/-! ## Computations along a list -/

theorem foldlM {f : β → α → StateT σ (Except Fault) β}
    (hf : ∀ b a, Keeps I E (f b a) fun _ => True) (as : List α) (b : β) :
    Keeps I E (as.foldlM f b) fun _ => True := by
  induction as generalizing b with
  | nil => exact pure trivial
  | cons a as ih =>
    rw [List.foldlM_cons]
    exact (hf b a).bind fun b' _ => ih b'

theorem mapM {f : α → StateT σ (Except Fault) β} (hf : ∀ a, Keeps I E (f a) fun _ => True)
    (as : List α) : Keeps I E (as.mapM f) fun _ => True := by
  induction as with
  | nil => exact pure trivial
  | cons a as ih =>
    rw [List.mapM_cons]
    exact (hf a).bind fun b _ => ih.bind fun bs _ => pure trivial

theorem forM {f : α → StateT σ (Except Fault) PUnit} (hf : ∀ a, Keeps I E (f a) fun _ => True)
    (as : List α) : Keeps I E (as.forM f) fun _ => True := by
  induction as with
  | nil => exact pure trivial
  | cons a as ih =>
    show Keeps I E (f a >>= fun _ => as.forM f) _
    exact (hf a).bind fun _ _ => ih

end Keeps

end Yaml

end StyleImport
