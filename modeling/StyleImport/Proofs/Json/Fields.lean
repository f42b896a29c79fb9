import Mathlib.Data.List.Nodup
import StyleImport.Json.Reader
import StyleImport.Proofs.Config.Entries
import StyleImport.Proofs.Effect

/-!
# The fields of objects

No two fields of an object that was read have the same name, and so the entries that the object is
have distinct names.

## Main statements

- `Json.nodup_of_read`: the fields of a document have distinct names.
- `Json.nodup_names_of_read`: so have the entries of the value that a document is.
-/

namespace StyleImport

namespace Json

variable {name : Text} {v : Json} {fields : List (Text × Json)} {cs : List Char}

/-- The names of fields after one of them was given its value. -/
theorem map_fst_putField :
    (putField name v fields).map (·.1) =
      if name ∈ fields.map (·.1) then fields.map (·.1) else fields.map (·.1) ++ [name] := by
  induction fields with
  | nil => rfl
  | cons field fields ih =>
    obtain ⟨other, w⟩ := field
    simp only [putField, List.map_cons, List.mem_cons]
    by_cases hname : other = name
    · simp [hname]
    · simp only [hname, if_false, List.map_cons, ih, Ne.symm hname, false_or]
      split <;> rfl

theorem nodup_putField (h : (fields.map (·.1)).Nodup) :
    ((putField name v fields).map (·.1)).Nodup := by
  rw [map_fst_putField]
  split
  · exact h
  · next hnew => simpa using h.concat hnew

/-- Fields that are read behind fields with distinct names have distinct names again. -/
theorem nodup_of_readFields {fuel : Nat} {p q : Cursor} {read : List (Text × Json)}
    (h : readFields fuel fields p = .ok (read, q)) (hfields : (fields.map (·.1)).Nodup) :
    (read.map (·.1)).Nodup := by
  induction fuel generalizing fields p with
  | zero => cases h
  | succ fuel ih =>
    rw [readFields] at h
    split at h
    · split at h
      · cases h
      · dsimp only at h
        split at h
        · split at h
          · cases h
          · split at h
            · cases h
              exact nodup_putField hfields
            · exact ih h (nodup_putField hfields)
            · cases h
        · cases h
    · cases h

theorem readMagnitude_ne_object {negative : Bool} {size : Nat} :
    readMagnitude negative cs ≠ some (.ok (.object fields), size) := by
  intro h
  unfold readMagnitude at h
  dsimp only at h
  split at h
  · cases h
  · split at h
    · simp at h
    · split at h
      · split at h <;> simp at h
      · simp at h

/-- A value that is no string, array or object is no object. -/
theorem readAtom_ne_object {p q : Cursor} : readAtom p ≠ .ok (.object fields, q) := by
  intro h
  unfold readAtom at h
  split at h
  · next word v hfind =>
    have hword : (word, v) ∈ words := List.mem_of_find?_eq_some hfind
    obtain ⟨rfl, -⟩ := Prod.mk.inj (Except.ok.inj h)
    simp [words] at hword
  · dsimp only at h
    split at h
    · cases h
    · next result size hmagnitude =>
      cases result with
      | error stop => cases h
      | ok v =>
        obtain ⟨rfl, -⟩ := Prod.mk.inj (Except.ok.inj h)
        exact readMagnitude_ne_object hmagnitude

theorem nodup_of_readValue {fuel : Nat} {p q : Cursor}
    (h : readValue fuel p = .ok (.object fields, q)) : (fields.map (·.1)).Nodup := by
  cases fuel with
  | zero => cases h
  | succ fuel =>
    rw [readValue] at h
    split at h
    · next rest _ =>
      cases hr : readText p.index (p.index + 1) rest <;> rw [hr] at h <;> cases h
    · dsimp only at h
      split at h
      · cases h
      · next q' _ =>
        cases hr : readItems fuel _ <;> rw [hr] at h <;> cases h
    · dsimp only at h
      split at h
      · cases h
        exact List.nodup_nil
      · next q' _ =>
        cases hr : readFields fuel [] _ with
        | error stop => rw [hr] at h; cases h
        | ok r =>
          rw [hr] at h
          cases h
          exact nodup_of_readFields hr List.nodup_nil
    · exact absurd h readAtom_ne_object

/-- The fields of a document have distinct names. -/
theorem nodup_of_read (h : read cs = .ok (.object fields)) : (fields.map (·.1)).Nodup := by
  unfold read at h
  have hread := mapError_eq_ok_iff.mp h
  split at hread
  · cases hread
  · obtain ⟨⟨v, q⟩, hvalue, hend⟩ := bind_eq_ok_iff.mp hread
    dsimp only at hend
    split at hend
    · cases hend
    · cases hend
      exact nodup_of_readValue hvalue

theorem names_toEntries : Value.names (toEntries fields) = fields.map (·.1) := by
  induction fields with
  | nil => rfl
  | cons field fields ih =>
    rw [toEntries, Value.names_cons_text, ih]
    rfl

/-- The entries of the value that a document is have distinct names. -/
theorem nodup_names_of_read {es : List (Value × Value)} (h : read cs = .ok v)
    (hmap : v.toValue = .map es) : (Value.names es).Nodup := by
  cases v with
  | object fields =>
    rw [toValue, Value.map.injEq] at hmap
    rw [← hmap, names_toEntries]
    exact nodup_of_read h
  | _ => cases hmap

end Json

end StyleImport
