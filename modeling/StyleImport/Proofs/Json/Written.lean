import Mathlib.Data.Option.Basic
import StyleImport.Json.Writer
import StyleImport.Proofs.Text.Scalars

/-!
# What written documents hold

The text of a document has no escape in it, and so no control sequences: strings show it by its
number. A surrogate that stands alone in a string stands alone in the text too.

## Main statements

- `Json.notMem_writeAt`: no escape stands in the text of a document.
- `Json.isWhole_writeAt_iff`: what keeps a document from being written as bytes.
-/

namespace StyleImport

namespace Json

variable {c : CodePoint} {t : Text} {depth : Nat}

/-- The code point that control sequences start with. -/
def escape : CodePoint := .scalar '\x1b'

/-! ## Escapes -/

theorem notMem_ofChars {cs : List Char} (h : '\x1b' ∉ cs) : escape ∉ Text.ofChars cs := by
  intro hmem
  obtain ⟨c, hc, heq⟩ := List.mem_map.mp hmem
  cases heq
  exact h hc

theorem notMem_toDigits (n : Nat) : '\x1b' ∉ Nat.toDigits 10 n := fun h =>
  absurd (Nat.isDigit_of_mem_toDigits (by decide) (by decide) h) (by decide)

theorem notMem_ofInt (n : Int) : escape ∉ Text.ofInt n := by
  cases n with
  | ofNat n => exact notMem_ofChars (notMem_toDigits n)
  | negSucc n =>
    rw [Text.ofInt, List.mem_cons, not_or]
    exact ⟨by decide, notMem_ofChars (notMem_toDigits (n + 1))⟩

theorem notMem_decimal (d : Double.Decimal) : escape ∉ d.toText := by
  have hdigits := notMem_toDigits d.digits
  have hsize := notMem_toDigits (d.point - 1).natAbs
  unfold Double.Decimal.toText
  refine notMem_ofChars ?_
  dsimp only
  -- What is written are pieces of two lists of digits and fixed marks between them.
  generalize Nat.toDigits 10 d.digits = digits at hdigits ⊢
  generalize Nat.toDigits 10 (d.point - 1).natAbs = size at hsize ⊢
  have htake (n : Nat) : '\x1b' ∉ digits.take n := fun h => hdigits (List.mem_of_mem_take h)
  have hdrop (n : Nat) : '\x1b' ∉ digits.drop n := fun h => hdigits (List.mem_of_mem_drop h)
  split
  · split
    · simp [hdigits]
    · split
      · simp [hdigits]
      · simp [htake, hdrop]
  · have hmark : '\x1b' ∉ if d.point - 1 < 0 then ['e', '-'] else ['e', '+'] := by
      split <;> decide
    have hpadded : '\x1b' ∉ if size.length < 2 then '0' :: size else size := by
      split <;> simp [hsize]
    refine List.not_mem_append (List.not_mem_append ?_ hmark) hpadded
    split
    · exact hdigits
    · simpa using hdigits
    · exact hdigits

theorem notMem_toText (x : Double) : escape ∉ x.toText := by
  cases x with
  | nan => decide
  | infinite negative => cases negative <;> decide
  | finite negative mantissa exponent =>
    have hsize : escape ∉ if mantissa = 0 then Text.ofString "0.0"
        else (Double.shortest mantissa exponent).toText := by
      split
      · decide
      · exact notMem_decimal _
    unfold Double.toText
    dsimp only
    split
    · exact List.not_mem_cons_of_ne_of_not_mem (by decide) hsize
    · exact hsize

theorem notMem_quotedPoint (c : CodePoint) : escape ∉ quotedPoint c := by
  cases c with
  | surrogate i => simp [quotedPoint, escape]
  | scalar c =>
    unfold quotedPoint
    dsimp only
    split
    · next t ht =>
      unfold namedEscape? at ht
      split at ht <;> cases ht <;> decide
    · split
      · next hc =>
        have hcontrol : ∀ n < 0x20, escape ∉ Text.ofString "\\u" ++ Text.ofNatHex 4 n := by decide
        exact hcontrol c.toNat hc
      · next hc =>
        rw [List.mem_singleton]
        rintro ⟨⟩
        exact hc (by decide)

theorem notMem_quotedText (t : Text) : escape ∉ quotedText t := by
  have hpoints : escape ∉ t.flatMap quotedPoint := by
    rw [List.mem_flatMap]
    rintro ⟨c, -, hc⟩
    exact notMem_quotedPoint c hc
  refine List.not_mem_append (List.not_mem_cons_of_ne_of_not_mem (by decide) hpoints) (by decide)

theorem notMem_newLine (depth : Nat) : escape ∉ newLine depth := by
  refine List.not_mem_cons_of_ne_of_not_mem (by decide) fun h => ?_
  exact absurd (List.eq_of_mem_replicate h) (by decide)

open List (not_mem_append) in
mutual

/-- No escape stands in the text of a document. -/
theorem notMem_writeAt (depth : Nat) (v : Json) : escape ∉ writeAt depth v := by
  match v with
  | null => exact notMem_ofChars (by decide)
  | bool true => exact notMem_ofChars (by decide)
  | bool false => exact notMem_ofChars (by decide)
  | int n => exact notMem_ofInt n
  | double x => exact notMem_toText x
  | text t => exact notMem_quotedText t
  | array [] => exact notMem_ofChars (by decide)
  | array (v :: vs) =>
    rw [writeAt]
    exact not_mem_append (not_mem_append (not_mem_append (by decide) (notMem_newLine _))
      (notMem_writeAt _ v)) (notMem_writeItems _ vs)
  | object [] => exact notMem_ofChars (by decide)
  | object ((name, v) :: rest) =>
    rw [writeAt]
    exact not_mem_append (not_mem_append (not_mem_append (not_mem_append (not_mem_append
      (by decide) (notMem_newLine _)) (notMem_quotedText name)) (by decide))
        (notMem_writeAt _ v)) (notMem_writeFields _ rest)

theorem notMem_writeItems (depth : Nat) (vs : List Json) : escape ∉ writeItems depth vs := by
  match vs with
  | [] => exact not_mem_append (notMem_newLine depth) (by decide)
  | v :: vs =>
    rw [writeItems]
    exact not_mem_append (not_mem_append (not_mem_append (by decide) (notMem_newLine _))
      (notMem_writeAt _ v)) (notMem_writeItems _ vs)

theorem notMem_writeFields (depth : Nat) (fields : List (Text × Json)) :
    escape ∉ writeFields depth fields := by
  match fields with
  | [] => exact not_mem_append (notMem_newLine depth) (by decide)
  | (name, v) :: rest =>
    rw [writeFields]
    exact not_mem_append (not_mem_append (not_mem_append (not_mem_append (not_mem_append
      (by decide) (notMem_newLine _)) (notMem_quotedText name)) (by decide))
        (notMem_writeAt _ v)) (notMem_writeFields _ rest)

end

/-! ## Surrogates -/

open Text (isWhole_append_iff isWhole_ofChars isWhole_ofString)

theorem isWhole_ofInt (n : Int) : (Text.ofInt n).IsWhole := by
  cases n with
  | ofNat n => exact isWhole_ofChars _
  | negSucc n => exact Text.isWhole_cons_iff.mpr ⟨by decide, isWhole_ofChars _⟩

theorem isWhole_toText (x : Double) : x.toText.IsWhole := by
  cases x with
  | nan => exact isWhole_ofString _
  | infinite negative => cases negative <;> exact isWhole_ofString _
  | finite negative mantissa exponent =>
    have hsize : (if mantissa = 0 then Text.ofString "0.0"
        else (Double.shortest mantissa exponent).toText).IsWhole := by
      split <;> exact isWhole_ofChars _
    unfold Double.toText
    dsimp only
    split
    · exact Text.isWhole_cons_iff.mpr ⟨by decide, hsize⟩
    · exact hsize

theorem isWhole_newLine (depth : Nat) : (newLine depth).IsWhole := by
  refine Text.isWhole_cons_iff.mpr ⟨by decide, fun c hc => ?_⟩
  rw [List.eq_of_mem_replicate hc]
  decide

theorem isWhole_quotedPoint_iff : (quotedPoint c).IsWhole ↔ ¬c.isSurrogate := by
  cases c with
  | surrogate i => simp [quotedPoint, Text.IsWhole]
  | scalar c =>
    refine iff_of_true ?_ Bool.false_ne_true
    unfold quotedPoint
    dsimp only
    split
    · next t ht =>
      unfold namedEscape? at ht
      split at ht <;> cases ht <;> exact isWhole_ofString _
    · split
      · exact isWhole_append_iff.mpr ⟨isWhole_ofString _, isWhole_ofChars _⟩
      · exact isWhole_ofChars [c]

theorem isWhole_quotedText_iff : (quotedText t).IsWhole ↔ t.IsWhole := by
  have hquote : Text.IsWhole [.scalar '"'] := isWhole_ofChars ['"']
  have hpoints : Text.IsWhole (t.flatMap quotedPoint) ↔ t.IsWhole := by
    induction t with
    | nil => exact Iff.rfl
    | cons c t ih =>
      rw [List.flatMap_cons, isWhole_append_iff, isWhole_quotedPoint_iff, ih,
        Text.isWhole_cons_iff]
  rw [quotedText, isWhole_append_iff, Text.isWhole_cons_iff, hpoints]
  exact ⟨fun h => h.1.2, fun h => ⟨⟨Bool.false_ne_true, h⟩, hquote⟩⟩

mutual

/-- The text of a document is whole just if all strings of the document are. -/
theorem isWhole_writeAt_iff (depth : Nat) (v : Json) :
    (writeAt depth v).IsWhole ↔ surrogates? v = none := by
  match v with
  | null => exact iff_of_true (isWhole_ofString _) rfl
  | bool true => exact iff_of_true (isWhole_ofString _) rfl
  | bool false => exact iff_of_true (isWhole_ofString _) rfl
  | int n => exact iff_of_true (isWhole_ofInt n) rfl
  | double x => exact iff_of_true (isWhole_toText x) rfl
  | text t =>
    rw [writeAt, isWhole_quotedText_iff, surrogates?, Utf8.firstSurrogates_eq_none_iff]
  | array [] => exact iff_of_true (isWhole_ofString _) rfl
  | array (v :: vs) =>
    simp only [writeAt, isWhole_append_iff, isWhole_ofString, isWhole_newLine, true_and,
      isWhole_writeAt_iff _ v, isWhole_writeItems_iff _ vs, surrogates?, surrogatesOfItems?,
      Option.orElse_eq_none]
  | object [] => exact iff_of_true (isWhole_ofString _) rfl
  | object ((name, v) :: rest) =>
    simp only [writeAt, isWhole_append_iff, isWhole_ofString, isWhole_newLine, true_and,
      isWhole_quotedText_iff, isWhole_writeAt_iff _ v, isWhole_writeFields_iff _ rest,
      surrogates?, surrogatesOfFields?, Option.orElse_eq_none, and_true,
      Utf8.firstSurrogates_eq_none_iff, and_assoc]

theorem isWhole_writeItems_iff (depth : Nat) (vs : List Json) :
    (writeItems depth vs).IsWhole ↔ surrogatesOfItems? vs = none := by
  match vs with
  | [] =>
    exact iff_of_true (isWhole_append_iff.mpr ⟨isWhole_newLine depth, isWhole_ofString _⟩) rfl
  | v :: vs =>
    simp only [writeItems, isWhole_append_iff, isWhole_ofString, isWhole_newLine, true_and,
      isWhole_writeAt_iff _ v, isWhole_writeItems_iff _ vs, surrogatesOfItems?,
      Option.orElse_eq_none]

theorem isWhole_writeFields_iff (depth : Nat) (fields : List (Text × Json)) :
    (writeFields depth fields).IsWhole ↔ surrogatesOfFields? fields = none := by
  match fields with
  | [] =>
    exact iff_of_true (isWhole_append_iff.mpr ⟨isWhole_newLine depth, isWhole_ofString _⟩) rfl
  | (name, v) :: rest =>
    simp only [writeFields, isWhole_append_iff, isWhole_ofString, isWhole_newLine, true_and,
      isWhole_quotedText_iff, isWhole_writeAt_iff _ v, isWhole_writeFields_iff _ rest,
      surrogatesOfFields?, Option.orElse_eq_none, and_true, Utf8.firstSurrogates_eq_none_iff,
      and_assoc]

end

end Json

end StyleImport
