import Mathlib.Algebra.Group.Nat.Defs
import Mathlib.Data.List.Basic
import StyleImport.Json.Reader
import StyleImport.Json.Writer
import StyleImport.Proofs.Text.Scalars

/-!
# Reading numbers and strings that were written

The digits of an integer are read up to their end, if they are few enough and what follows them does
not go on with a number. The escapes of a string are read as what they were written for.

## Main definitions

- `Json.EndsNumber`: what can follow a number.

## Main statements

- `Json.readAtom_ofInt`: integers are read back.
- `Json.readText_quotedText`: strings are read back.
-/

namespace StyleImport

namespace Json

open Text (chars)

variable {cs rest : List Char} {c : Char} {index : Nat}

/-! ## Numbers -/

theorem digitsValue_toDigits (n : Nat) : digitsValue (Nat.toDigits 10 n) = n := by
  rw [digitsValue]
  have hfold := Nat.ofDigitChars_toDigits (b := 10) (n := n) (by decide) (by decide)
  rw [Nat.ofDigitChars_eq_foldl] at hfold
  simpa only [Nat.mul_comm] using hfold

/-- The digits of a positive number do not start with a zero. -/
theorem head?_toDigits_ne_zero {n : Nat} (hn : 0 < n) : (Nat.toDigits 10 n).head? ≠ some '0' := by
  induction n using Nat.strongRecOn with
  | ind n ih =>
    by_cases hlt : n < 10
    · rw [Nat.toDigits_of_lt_base hlt]
      have hdigit : ∀ m < 10, 0 < m → [m.digitChar].head? ≠ some '0' := by decide
      exact hdigit n hlt hn
    · rw [Nat.toDigits_eq_if (by decide), if_neg hlt, List.head?_append]
      have hrec := ih (n / 10) (by omega) (by omega)
      have hne : Nat.toDigits 10 (n / 10) ≠ [] := Nat.toDigits_ne_nil
      cases hdigits : Nat.toDigits 10 (n / 10) with
      | nil => exact absurd hdigits hne
      | cons c cs => simpa [hdigits] using hrec

/-- What follows a number does not go on with it. -/
def EndsNumber (rest : List Char) : Prop :=
  ∀ c ∈ rest.head?, ¬c.isDigit ∧ c ≠ '.' ∧ c ≠ 'e' ∧ c ≠ 'E'

theorem endsNumber_cons (h : ¬c.isDigit ∧ c ≠ '.' ∧ c ≠ 'e' ∧ c ≠ 'E') :
    EndsNumber (c :: rest) := by
  rintro _ ⟨⟩
  exact h

theorem wholePart_toDigits (n : Nat) (h : EndsNumber rest) :
    wholePart (Nat.toDigits 10 n ++ rest) = Nat.toDigits 10 n := by
  have htake : (Nat.toDigits 10 n ++ rest).takeWhile Char.isDigit = Nat.toDigits 10 n := by
    rw [List.takeWhile_append_of_pos fun c hc =>
      Nat.isDigit_of_mem_toDigits (by decide) (by decide) hc]
    cases rest with
    | nil => simp
    | cons c rest => simp [(h c rfl).1]
  unfold wholePart
  split
  · next tail heq =>
    -- A zero at the start is the whole number by itself. No other number is written with one.
    rcases Nat.eq_zero_or_pos n with rfl | hn
    · rfl
    · have hhead := head?_toDigits_ne_zero hn
      cases hdigits : Nat.toDigits 10 n with
      | nil => exact absurd hdigits Nat.toDigits_ne_nil
      | cons c cs =>
        rw [hdigits] at heq hhead
        exact absurd (congrArg some (List.cons.inj heq).1) hhead
  · exact htake

theorem fractionPart_eq_nil (h : EndsNumber rest) : fractionPart rest = [] := by
  unfold fractionPart
  split
  · exact absurd rfl (h '.' rfl).2.1
  · rfl

theorem exponentPart_eq_none (h : EndsNumber rest) : exponentPart rest = none := by
  unfold exponentPart
  split
  · next c tail =>
    obtain ⟨-, -, hsmall, hcapital⟩ := h c rfl
    rw [if_neg (by simp [hsmall, hcapital])]
  · rfl

/-- The digits of a number are read back. -/
theorem readMagnitude_toDigits {n : Nat} (negative : Bool)
    (hn : (Nat.toDigits 10 n).length ≤ Numeral.digitLimit) (h : EndsNumber rest) :
    readMagnitude negative (Nat.toDigits 10 n ++ rest) =
      some (.ok (.int (if negative then -(n : Int) else n)), (Nat.toDigits 10 n).length) := by
  unfold readMagnitude
  rw [wholePart_toDigits n h]
  split
  · next hnil => exact absurd hnil Nat.toDigits_ne_nil
  · simp only [List.drop_left, fractionPart_eq_nil h, if_true, List.drop_zero,
      exponentPart_eq_none h, digitsValue_toDigits, if_neg (Nat.not_lt.mpr hn)]

theorem chars_ofNat (n : Nat) : chars (Text.ofNat n) = Nat.toDigits 10 n := Text.chars_ofChars _

/-- No word starts with a digit, and none with a digit behind a minus sign. -/
theorem find?_words_eq_none (h : c.isDigit) :
    words.find? (·.1.isPrefixOf (c :: cs)) = none ∧
      words.find? (·.1.isPrefixOf ('-' :: c :: cs)) = none := by
  have hword : ∀ word ∈ words, ∃ a tail, word.1 = a :: tail ∧ ¬a.isDigit ∧
      (a = '-' → ∃ b tail', tail = b :: tail' ∧ ¬b.isDigit) := by
    simp [words]
  simp only [List.find?_eq_none]
  constructor
  · intro word hmem hprefix
    obtain ⟨a, tail, hword, ha, -⟩ := hword word hmem
    rw [hword] at hprefix
    obtain rfl : a = c := by simpa using (Bool.and_eq_true_iff.mp hprefix).1
    exact ha h
  · intro word hmem hprefix
    obtain ⟨a, tail, hword, -, hminus⟩ := hword word hmem
    rw [hword] at hprefix
    obtain ⟨hfirst, hprefix⟩ := Bool.and_eq_true_iff.mp hprefix
    obtain ⟨b, tail', rfl, hb⟩ := hminus (by simpa using hfirst)
    obtain rfl : b = c := by simpa using (Bool.and_eq_true_iff.mp hprefix).1
    exact hb h

/-- A text that does not start with a minus sign has no sign. -/
theorem sign_of_ne {negative : Bool} {body : List Char} (hc : c ≠ '-')
    (h : (match c :: cs with
      | '-' :: t => (true, t)
      | t => (false, t)) = (negative, body)) : negative = false ∧ body = c :: cs := by
  split at h
  · next hsign => exact absurd (List.cons.inj hsign).1 hc
  · cases h
    exact ⟨rfl, rfl⟩

/-- A number without a sign is read up to its end. -/
theorem readAtom_of_isDigit {result : Except Stop Json} {size : Nat} (hc : c.isDigit)
    (h : readMagnitude false (c :: cs) = some (result, size)) :
    readAtom ⟨index, c :: cs⟩ =
      result.map fun v => (v, ⟨index + size, (c :: cs).drop size⟩) := by
  have hminus : c ≠ '-' := by rintro rfl; exact absurd hc (by decide)
  unfold readAtom
  split
  · next word v hword => cases (find?_words_eq_none hc).1.symm.trans hword
  · split
    next negative body hsign =>
    obtain ⟨rfl, rfl⟩ := sign_of_ne hminus hsign
    rw [h]
    rfl

/-- A number behind a minus sign is read up to its end. -/
theorem readAtom_of_minus {result : Except Stop Json} {size : Nat} (hc : c.isDigit)
    (h : readMagnitude true (c :: cs) = some (result, size)) :
    readAtom ⟨index, '-' :: c :: cs⟩ =
      result.map fun v => (v, ⟨index + (size + 1), (c :: cs).drop size⟩) := by
  unfold readAtom
  simp only [(find?_words_eq_none hc).2, h]
  rfl

/-- An integer is read back. -/
theorem readAtom_ofInt (n : Int) (hn : n.natAbs < 10 ^ Numeral.digitLimit) (h : EndsNumber rest) :
    ∃ j, readAtom ⟨index, chars (Text.ofInt n) ++ rest⟩ = .ok (.int n, ⟨j, rest⟩) := by
  -- A sign is taken off first, so both signs come down to the digits of a natural number.
  have hread (m : Nat) (hm : m < 10 ^ Numeral.digitLimit) (negative : Bool) :
      ∃ c cs, Nat.toDigits 10 m ++ rest = c :: cs ∧ c.isDigit ∧
        readMagnitude negative (c :: cs) = some (.ok (.int (if negative then -(m : Int) else m)),
          (Nat.toDigits 10 m).length) ∧ (c :: cs).drop (Nat.toDigits 10 m).length = rest := by
    have hlength : (Nat.toDigits 10 m).length ≤ Numeral.digitLimit :=
      (Nat.length_toDigits_le_iff (by decide) (by decide)).mpr hm
    obtain ⟨c, cs, hcs⟩ := List.exists_cons_of_ne_nil (Nat.toDigits_ne_nil (n := m) (b := 10))
    refine ⟨c, cs ++ rest, by rw [hcs, List.cons_append], ?_, ?_, ?_⟩
    · exact Nat.isDigit_of_mem_toDigits (b := 10) (n := m) (by decide) (by decide)
        (hcs ▸ List.mem_cons_self)
    · rw [← List.cons_append, ← hcs]
      exact readMagnitude_toDigits negative hlength h
    · rw [← List.cons_append, ← hcs, List.drop_left]
  cases n with
  | ofNat m =>
    obtain ⟨c, cs, hcs, hc, hmagnitude, hdrop⟩ := hread m hn false
    rw [Text.ofInt, chars_ofNat, hcs, readAtom_of_isDigit hc hmagnitude, hdrop]
    exact ⟨_, rfl⟩
  | negSucc m =>
    obtain ⟨c, cs, hcs, hc, hmagnitude, hdrop⟩ := hread (m + 1) hn true
    rw [Text.ofInt, Text.chars_cons, chars_ofNat, List.cons_append, hcs,
      readAtom_of_minus hc hmagnitude, hdrop]
    exact ⟨_, rfl⟩

/-! ## Strings -/

/-- An escape of one letter is read back. -/
theorem readText_letterEscape {start : Nat} {a : Char} (hu : a ≠ 'u')
    (ha : letterEscape? a = some c) :
    readText start index ('\\' :: a :: cs) =
      (readText start (index + 2) cs).map fun r => (.scalar c :: r.1, r.2) := by
  rw [readText, if_neg (by decide), if_pos rfl]
  have hescape : readEscape start index (a :: cs) = .ok (.scalar c, 1) := by
    unfold readEscape
    split
    · next heq => cases heq
    · next heq => exact absurd (List.cons.inj heq).1 hu
    · next heq =>
      obtain ⟨rfl, -⟩ := List.cons.inj heq
      rw [ha]
  rw [hescape]
  rfl

/-- The escape of a control character is read back. -/
theorem readText_controlEscape {start : Nat} (hc : c.toNat < 0x20) (hcs : cs ≠ []) :
    readText start index ('\\' :: 'u' :: (chars (Text.ofNatHex 4 c.toNat) ++ cs)) =
      (readText start (index + 6) cs).map fun r => (.scalar c :: r.1, r.2) := by
  -- Control characters are below the surrogates, so no second escape is joined with theirs.
  have hquads : ∀ n < 0x20, (chars (Text.ofNatHex 4 n)).length = 4 ∧
      hexQuad? (chars (Text.ofNatHex 4 n)) = some n ∧ quadPoint n = .scalar (Char.ofNat n) := by
    decide
  obtain ⟨hlength, hquad, hpoint⟩ := hquads c.toNat hc
  rw [Char.ofNat_toNat] at hpoint
  obtain ⟨w, x, y, z, hwxyz⟩ : ∃ w x y z, chars (Text.ofNatHex 4 c.toNat) = [w, x, y, z] :=
    List.length_eq_four.mp hlength
  rw [hwxyz] at hquad ⊢
  have hescape : readEscape start index ('u' :: ([w, x, y, z] ++ cs)) = .ok (.scalar c, 5) := by
    have hlong : ¬([w, x, y, z] ++ cs).length ≤ 4 := by
      have := List.length_pos_iff.mpr hcs
      simp only [List.length_append, List.length_cons, List.length_nil]
      omega
    have hquad' : hexQuad? ([w, x, y, z] ++ cs) = some c.toNat := hquad
    simp only [readEscape, if_neg hlong, hquad', hpoint]
    split
    · rw [if_neg (by omega)]
    · rfl
  rw [readText, if_neg (by decide), if_pos rfl, hescape]
  rfl

/-- The form of a character inside a string is read back. -/
theorem readText_quotedPoint {start : Nat} (hcs : cs ≠ []) :
    ∃ j, readText start index (chars (quotedPoint (.scalar c)) ++ cs) =
      (readText start j cs).map fun r => (.scalar c :: r.1, r.2) := by
  unfold quotedPoint
  dsimp only
  split
  · next t ht =>
    unfold namedEscape? at ht
    split at ht <;> cases ht <;> exact ⟨_, readText_letterEscape (by decide) rfl⟩
  · next hnone =>
    split
    · next hcontrol =>
      rw [Text.chars_append]
      exact ⟨_, readText_controlEscape hcontrol hcs⟩
    · next hplain =>
      have hquote : c ≠ '"' := by rintro rfl; cases hnone
      have hslash : c ≠ '\\' := by rintro rfl; cases hnone
      refine ⟨index + 1, ?_⟩
      rw [Text.chars_cons, List.cons_append, readText, if_neg hquote, if_neg hslash,
        if_neg hplain]
      rfl

/-- A string is read back. -/
theorem readText_quotedText {start : Nat} {t : Text} (ht : t.IsWhole) :
    ∃ j, readText start index (chars (t.flatMap quotedPoint) ++ '"' :: rest) =
      .ok (t, ⟨j, rest⟩) := by
  induction t generalizing index with
  | nil =>
    refine ⟨index + 1, ?_⟩
    rw [List.flatMap_nil]
    show readText start index ('"' :: rest) = _
    rw [readText, if_pos rfl]
  | cons c t ih =>
    obtain ⟨hc, htail⟩ := Text.isWhole_cons_iff.mp ht
    cases c with
    | surrogate i => exact absurd rfl hc
    | scalar c =>
      -- The closing quote is still to come, so the digits of an escape are not at the end.
      have hne : chars (t.flatMap quotedPoint) ++ '"' :: rest ≠ [] := by simp
      obtain ⟨j, hj⟩ := readText_quotedPoint hne
      obtain ⟨k, hk⟩ := ih htail
      rw [List.flatMap_cons, Text.chars_append, List.append_assoc, hj, hk]
      exact ⟨k, rfl⟩

end Json

end StyleImport
