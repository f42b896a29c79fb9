import StyleImport.Text.ControlSequence
import StyleImport.Text.Quoted
import StyleImport.Text.Utf8

/-!
# Texts of characters

A text in which no surrogate stands alone is a list of characters. It can be written as bytes, and
nothing of it has to be written by its number.

## Main definitions

- `Text.IsWhole`: the texts in which no surrogate stands alone.
- `Text.chars`: the characters of a text.

## Main statements

- `Text.spelled_of_isWhole`: nothing of a whole text is written by its number.
- `Text.isWhole_quoted`: a whole text is whole between quotes.
- `Utf8.firstSurrogates_eq_none_iff`: a text has no stretch of surrogates just if it is whole.
- `Text.dropSequences_of_notMem`: without an escape there is no control sequence.
-/

namespace StyleImport

namespace Text

variable {s t : Text} {c : CodePoint} {cs : List Char}

/-- No surrogate stands alone in a text. -/
def IsWhole (t : Text) : Prop := ∀ c ∈ t, ¬c.isSurrogate

theorem isWhole_nil : IsWhole [] := nofun

theorem isWhole_cons_iff : IsWhole (c :: t) ↔ ¬c.isSurrogate ∧ IsWhole t := List.forall_mem_cons

theorem isWhole_append_iff : IsWhole (s ++ t) ↔ IsWhole s ∧ IsWhole t := List.forall_mem_append

theorem isWhole_ofChars (cs : List Char) : IsWhole (ofChars cs) := by
  intro c hc
  obtain ⟨d, -, rfl⟩ := List.mem_map.mp hc
  exact Bool.false_ne_true

theorem isWhole_ofString (s : String) : IsWhole (ofString s) := isWhole_ofChars s.toList

/-- The characters of a text. -/
def chars (t : Text) : List Char :=
  t.filterMap fun
    | .scalar c => some c
    | .surrogate _ => none

@[simp] theorem chars_append (s t : Text) : chars (s ++ t) = chars s ++ chars t :=
  List.filterMap_append

@[simp] theorem chars_ofChars (cs : List Char) : chars (ofChars cs) = cs := by
  induction cs with
  | nil => rfl
  | cons c cs ih => exact congrArg (c :: ·) ih

@[simp] theorem chars_ofString (s : String) : chars (ofString s) = s.toList := chars_ofChars _

@[simp] theorem chars_cons (c : Char) (t : Text) : chars (.scalar c :: t) = c :: chars t := rfl

/-- The characters of a whole text are all of it. -/
theorem toChars?_of_isWhole (h : IsWhole t) : t.toChars? = some (chars t) := by
  induction t with
  | nil => rfl
  | cons c t ih =>
    obtain ⟨hc, ht⟩ := isWhole_cons_iff.mp h
    cases c with
    | scalar c => rw [toChars?, ih ht, chars_cons, Option.map_some]
    | surrogate _ => exact absurd rfl hc

/-- Nothing of a whole text is written by its number. -/
theorem spelled_of_isWhole (h : IsWhole t) : t.spelled = t := by
  induction t with
  | nil => rfl
  | cons c t ih =>
    obtain ⟨hc, ht⟩ := isWhole_cons_iff.mp h
    rw [spelled, List.flatMap_cons, if_neg hc, ← spelled, ih ht]
    rfl

/-! ## Quotes -/

theorem isWhole_numericEscape (c : CodePoint) : c.numericEscape.IsWhole := by
  unfold CodePoint.numericEscape
  dsimp only
  split
  · exact isWhole_append_iff.mpr ⟨isWhole_ofString _, isWhole_ofChars _⟩
  · split <;> exact isWhole_append_iff.mpr ⟨isWhole_ofString _, isWhole_ofChars _⟩

theorem isWhole_quotedBetween {quote : Char} (h : ¬c.isSurrogate) :
    (c.quotedBetween quote).IsWhole := by
  unfold CodePoint.quotedBetween
  repeat' split
  · exact isWhole_cons_iff.mpr ⟨Bool.false_ne_true, isWhole_cons_iff.mpr ⟨h, isWhole_nil⟩⟩
  · exact isWhole_ofString _
  · exact isWhole_ofString _
  · exact isWhole_ofString _
  · exact isWhole_cons_iff.mpr ⟨h, isWhole_nil⟩
  · exact isWhole_numericEscape c

/-- A whole text is whole between quotes. -/
theorem isWhole_quoted (h : IsWhole t) : t.quoted.IsWhole := by
  have hquote (quote : Char) : IsWhole [.scalar quote] := isWhole_ofChars [quote]
  have hpoints (quote : Char) : IsWhole (t.flatMap (CodePoint.quotedBetween quote)) := by
    intro c hc
    obtain ⟨d, hd, hc⟩ := List.mem_flatMap.mp hc
    exact isWhole_quotedBetween (h d hd) c hc
  exact isWhole_append_iff.mpr
    ⟨isWhole_cons_iff.mpr ⟨Bool.false_ne_true, hpoints _⟩, hquote _⟩

/-! ## Control sequences -/

theorem sequenceLength_of_ne (h : c ≠ .scalar '\x1b') : sequenceLength (c :: t) = 0 := by
  unfold sequenceLength
  split
  · next heq => exact absurd (List.cons.inj heq).1 h
  · rfl

/-- A text without escapes has no control sequences. -/
theorem dropSequences_of_notMem (h : .scalar '\x1b' ∉ t) : t.dropSequences = t := by
  unfold dropSequences
  induction t with
  | nil => rfl
  | cons c t ih =>
    rw [List.mem_cons, not_or] at h
    simp only [dropSequencesFrom, sequenceLength_of_ne (Ne.symm h.1), ih h.2]

end Text

/-- A text has no stretch of surrogates just if it is whole. -/
theorem Utf8.firstSurrogates_eq_none_iff {t : Text} {i : Nat} :
    firstSurrogates i t = none ↔ t.IsWhole := by
  induction t generalizing i with
  | nil => simp [firstSurrogates, Text.isWhole_nil]
  | cons c t ih =>
    rw [firstSurrogates, Text.isWhole_cons_iff]
    by_cases hc : c.isSurrogate
    · simp [hc]
    · simp [hc, ih]

theorem Utf8.firstSurrogates_ofString (s : String) (i : Nat) :
    firstSurrogates i (Text.ofString s) = none :=
  firstSurrogates_eq_none_iff.mpr (Text.isWhole_ofString s)

/-- A whole text can be written as bytes. -/
theorem Utf8.exists_encode? {t : Text} (h : t.IsWhole) : ∃ bytes, encode? t = .ok bytes := by
  unfold encode?
  rw [firstSurrogates_eq_none_iff.mpr h]
  exact ⟨_, rfl⟩

end StyleImport
