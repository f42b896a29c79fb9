import StyleImport.Disk.Change
import StyleImport.Failure
import StyleImport.Log

/-!
# Lookups and actions

An operation of the library either has a result or fails, and notes records on its way; the records
stay when it fails. A lookup only reads the disk, which it is given. An action may change the disk,
and its changes stay when it fails.

## Main definitions

- `Traced`: the outcome of a lookup.
- `Action`: an operation that may change the disk.
- `Action.lookup`: a lookup as an action.
- `Action.change`: an operation of the disk as an action.
-/

namespace StyleImport

/-- The outcome of a lookup: a result or failure, and the records noted on the way. -/
structure Traced (α : Type) where
  /-- The records in their order. -/
  log : List Record
  /-- The result or failure. -/
  result : Except Failure α

namespace Traced

variable {α β : Type}

/-- A result without records. -/
def ofExcept (r : Except Failure α) : Traced α := ⟨[], r⟩

/-- A failure without records. -/
def fail (f : Failure) : Traced α := ⟨[], .error f⟩

/-- The outcome of reading the disk. -/
def ofAccess (r : Except AccessFault α) : Traced α := ⟨[], r.mapError .access⟩

/-- Notes a record. -/
def note (r : Record) : Traced Unit := ⟨[r], .ok ()⟩

/-- Goes on with a result. -/
def bind (t : Traced α) (f : α → Traced β) : Traced β :=
  match t.result with
  | .error e => ⟨t.log, .error e⟩
  | .ok a => ⟨t.log ++ (f a).log, (f a).result⟩

instance : Monad Traced where
  pure a := ⟨[], .ok a⟩
  bind := bind

end Traced

/-- An operation that may change the disk. -/
def Action (α : Type) : Type := Disk → Traced α × Disk

namespace Action

variable {α β : Type}

/-- An operation that does nothing. -/
def done (a : α) : Action α := fun d => (⟨[], .ok a⟩, d)

/-- Goes on with a result. -/
def bind (x : Action α) (f : α → Action β) : Action β := fun d =>
  match x d with
  | (⟨log, .error e⟩, d) => (⟨log, .error e⟩, d)
  | (⟨log, .ok a⟩, d) =>
    let (t, d) := f a d
    (⟨log ++ t.log, t.result⟩, d)

instance : Monad Action where
  pure := done
  bind := bind

/-- A lookup on the disk as it is. -/
def lookup (f : Disk → Traced α) : Action α := fun d => (f d, d)

/-- A failure. -/
def fail (f : Failure) : Action α := fun d => (.fail f, d)

/-- Notes a record. -/
def note (r : Record) : Action Unit := fun d => (.note r, d)

/-- An operation of the disk. -/
def change (f : Disk → Disk.Change) : Action Unit := fun d =>
  let c := f d
  match c.fault with
  | none => (⟨[], .ok ()⟩, c.disk)
  | some fault => (⟨[], .error (.access fault)⟩, c.disk)

end Action

end StyleImport
