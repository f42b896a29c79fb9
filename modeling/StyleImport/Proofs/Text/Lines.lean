import StyleImport.Proofs.Text.Pieces
import StyleImport.Text.Blank
import StyleImport.Text.Quoted

/-!
# Lines of texts

How the number of lines of a text comes from its pieces. A line feed behind a character that ends no
line starts a new line and nothing else, so texts that end in such characters keep their numbers of
lines when they are joined by line feeds. Numerals and quoted texts are always one line.

## Main definitions

- `Text.isOneLine`: the texts that hold no line boundary.

## Main statements

- `Text.lineCount_join`: the number of lines of texts joined by line feeds.
- `Text.lineCount_concat_eq_one_iff`: which texts are a single line.
- `Text.isOneLine_quoted`: a quoted text is.
-/

namespace StyleImport

namespace Text

variable {c d last : CodePoint} {p t : Text}

/-! ## Texts without line boundaries -/

/-- Tells whether a text holds no line boundary. -/
def isOneLine (t : Text) : Bool := t.all (!·.isLineBoundary)

theorem isOneLine_iff : t.isOneLine ↔ ∀ c ∈ t, ¬c.isLineBoundary := by
  simp [isOneLine]

@[simp] theorem isOneLine_nil : isOneLine [] = true := rfl

@[simp] theorem isOneLine_cons (c : CodePoint) (t : Text) :
    isOneLine (c :: t) = (!c.isLineBoundary && isOneLine t) := rfl

@[simp] theorem isOneLine_append (s t : Text) :
    isOneLine (s ++ t) = (isOneLine s && isOneLine t) := List.all_append

theorem isOneLine_join {sep : Text} (hsep : isOneLine sep) (pieces : List Text) :
    isOneLine (join sep pieces) = pieces.all isOneLine := by
  induction pieces with
  | nil => rfl
  | cons p rest ih =>
    cases rest with
    | nil => simp [join_singleton]
    | cons q rest =>
      rw [join_cons_cons, isOneLine_append, isOneLine_append, ih, hsep, Bool.and_true]
      rfl

theorem isOneLine_flatMap {f : CodePoint → Text} (h : ∀ c, isOneLine (f c)) (t : Text) :
    isOneLine (t.flatMap f) := by
  rw [isOneLine_iff]
  intro c hc
  obtain ⟨d, -, hmem⟩ := List.mem_flatMap.mp hc
  exact isOneLine_iff.mp (h d) c hmem

/-! ## The number of lines -/

/-- The number of lines that end between two neighbours in a text. -/
def endsBetween (c d : CodePoint) : Nat :=
  if c = .scalar '\r' ∧ d = .scalar '\n' then 0 else if c.isLineBoundary then 1 else 0

theorem lineCount_cons_cons (c d : CodePoint) (t : Text) :
    lineCount (c :: d :: t) = endsBetween c d + lineCount (d :: t) := by
  rw [lineCount, endsBetween]
  split
  · rw [Nat.zero_add]
  · split
    · rw [Nat.add_comm]
    · rw [Nat.zero_add]

/-- No line ends before a character that ends none, just if none ends with the character before. -/
theorem endsBetween_eq_zero_iff (hd : ¬d.isLineBoundary) :
    endsBetween c d = 0 ↔ ¬c.isLineBoundary := by
  have hfeed : CodePoint.isLineBoundary (.scalar '\n') := by decide
  have hne : d ≠ .scalar '\n' := fun h => hd (h ▸ hfeed)
  rw [endsBetween, if_neg fun h => hne h.2]
  cases c.isLineBoundary <;> simp

theorem one_le_lineCount (h : t ≠ []) : 1 ≤ lineCount t := by
  induction t with
  | nil => exact absurd rfl h
  | cons c t ih =>
    cases t with
    | nil => exact Nat.le_refl 1
    | cons d t =>
      rw [lineCount_cons_cons]
      exact Nat.le_add_left_of_le (ih (List.cons_ne_nil d t))

theorem lineCount_feed (t : Text) : lineCount (.scalar '\n' :: t) = 1 + lineCount t := by
  cases t with
  | nil => rfl
  | cons c t =>
    rw [lineCount_cons_cons]
    rfl

/-- A line feed behind a character that ends no line starts a new line. -/
theorem lineCount_append_feed (hlast : ¬last.isLineBoundary) (p t : Text) :
    lineCount (p ++ last :: .scalar '\n' :: t) = lineCount (p ++ [last]) + lineCount t := by
  induction p with
  | nil =>
    have hreturn : CodePoint.isLineBoundary (.scalar '\r') := by decide
    have hne : last ≠ .scalar '\r' := fun h => hlast (h ▸ hreturn)
    have hends : endsBetween last (.scalar '\n') = 0 := by
      rw [endsBetween, if_neg fun h => hne h.1, if_neg hlast]
    rw [List.nil_append, lineCount_cons_cons, hends, lineCount_feed, Nat.zero_add]
    rfl
  | cons c p ih =>
    -- Both texts go on with the same character, so a line ends behind the first one in both or in
    -- none.
    obtain ⟨d, s, s', hs, hs'⟩ : ∃ d s s',
        p ++ last :: .scalar '\n' :: t = d :: s ∧ p ++ [last] = d :: s' := by
      cases p with
      | nil => exact ⟨last, _, _, rfl, rfl⟩
      | cons d p => exact ⟨d, _, _, rfl, rfl⟩
    rw [hs, hs'] at ih
    rw [List.cons_append, List.cons_append, hs, hs', lineCount_cons_cons, lineCount_cons_cons, ih,
      Nat.add_assoc]

/-- A text whose last character ends no line is a single line just if no character before it ends
one. -/
theorem lineCount_concat_eq_one_iff (hlast : ¬last.isLineBoundary) (p : Text) :
    lineCount (p ++ [last]) = 1 ↔ isOneLine p := by
  induction p with
  | nil => exact iff_of_true rfl rfl
  | cons c p ih =>
    obtain ⟨d, s, hs, hd⟩ : ∃ d s, p ++ [last] = d :: s ∧ (isOneLine p → ¬d.isLineBoundary) := by
      cases p with
      | nil => exact ⟨last, [], rfl, fun _ => hlast⟩
      | cons d p => exact ⟨d, _, rfl, fun h => isOneLine_iff.mp h d List.mem_cons_self⟩
    have hone : 1 ≤ lineCount (d :: s) := one_le_lineCount (List.cons_ne_nil d s)
    rw [hs] at ih
    rw [List.cons_append, hs, lineCount_cons_cons, isOneLine_cons, Bool.and_eq_true, ← ih]
    constructor
    · intro h
      have hrest : lineCount (d :: s) = 1 := by omega
      have hends : endsBetween c d = 0 := by omega
      exact ⟨by simpa using (endsBetween_eq_zero_iff (hd (ih.mp hrest))).mp hends, hrest⟩
    · rintro ⟨hc, hrest⟩
      rw [(endsBetween_eq_zero_iff (hd (ih.mp hrest))).mpr (by simpa using hc), hrest]

/-- The number of lines of joined texts is the sum of their numbers of lines, if the last character
of each of them ends no line. -/
theorem lineCount_join {pieces : List Text}
    (h : ∀ piece ∈ pieces, ∃ p last, piece = p ++ [last] ∧ ¬last.isLineBoundary) :
    lineCount (join "\n" pieces) = (pieces.map lineCount).sum := by
  induction pieces with
  | nil => rfl
  | cons piece rest ih =>
    obtain ⟨⟨p, last, rfl, hlast⟩, hrest⟩ := List.forall_mem_cons.mp h
    cases rest with
    | nil => simp [join_singleton]
    | cons q rest =>
      have hpieces : join "\n" ((p ++ [last]) :: q :: rest) =
          p ++ last :: .scalar '\n' :: join "\n" (q :: rest) := by
        rw [join_cons_cons, List.append_assoc, List.append_assoc]
        rfl
      rw [hpieces, lineCount_append_feed hlast, ih hrest]
      rfl

/-! ## Numerals -/

/-- The digits of a number end no line. -/
theorem isOneLine_toDigits {base : Nat} (hbase : 1 < base) (hmost : base ≤ 16) (n : Nat) :
    isOneLine (ofChars (Nat.toDigits base n)) := by
  have hdigit : ∀ k < 16, isOneLine (ofChars [Nat.digitChar k]) := by decide
  induction n using Nat.strongRecOn with
  | ind n ih =>
    by_cases hn : n < base
    · rw [Nat.toDigits_of_lt_base hn]
      exact hdigit n (by omega)
    · have hfront : n / base < n := Nat.div_lt_self (by omega) hbase
      have hlast : n % base < base := Nat.mod_lt n (by omega)
      rw [Nat.toDigits_of_base_le hbase (by omega), ofChars, List.map_append, isOneLine_append,
        Bool.and_eq_true]
      exact ⟨ih _ hfront, hdigit _ (by omega)⟩

theorem isOneLine_ofNat (n : Nat) : isOneLine (ofNat n) :=
  isOneLine_toDigits (by decide) (by decide) n

theorem isOneLine_ofInt (n : Int) : isOneLine (ofInt n) := by
  cases n with
  | ofNat n => exact isOneLine_ofNat n
  | negSucc n =>
    rw [ofInt, isOneLine_cons, isOneLine_ofNat]
    rfl

/-- Digits that are filled with zeros end no line. -/
theorem isOneLine_padded {base : Nat} (hbase : 1 < base) (hmost : base ≤ 16) (zeros n : Nat) :
    isOneLine (ofChars (List.replicate zeros '0' ++ Nat.toDigits base n)) := by
  have hzero : ¬CodePoint.isLineBoundary (.scalar '0') := by decide
  rw [ofChars, List.map_append, isOneLine_append, Bool.and_eq_true]
  refine ⟨isOneLine_iff.mpr fun c hc => ?_, isOneLine_toDigits hbase hmost n⟩
  rw [List.map_replicate] at hc
  exact List.eq_of_mem_replicate hc ▸ hzero

theorem isOneLine_ofNatPadded (width n : Nat) : isOneLine (ofNatPadded width n) :=
  isOneLine_padded (by decide) (by decide) _ n

theorem isOneLine_ofNatHex (width n : Nat) : isOneLine (ofNatHex width n) :=
  isOneLine_padded (by decide) (by decide) _ n

end Text

/-! ## Quoted texts -/

/-- What a quoted text shows as it is ends no line. -/
theorem CodePoint.not_isLineBoundary_of_isPrintable {c : CodePoint} (h : c.isPrintable) :
    ¬c.isLineBoundary := by
  have hall : ∀ n ∈ lineBoundaryNumbers, ¬(if n < 0x7f then decide (0x20 ≤ n)
      else n ≠ 0x7f && !inRanges unprintableRanges n) := by decide +kernel
  intro hends
  cases c with
  | surrogate i => cases h
  | scalar c => exact hall c.toNat (List.contains_iff_mem.mp hends) h

namespace Text

theorem isOneLine_numericEscape (c : CodePoint) : isOneLine c.numericEscape := by
  unfold CodePoint.numericEscape
  dsimp only
  split_ifs <;> rw [isOneLine_append, isOneLine_ofNatHex] <;> rfl

/-- A code point between two quotes ends no line. -/
theorem isOneLine_quotedBetween {quote : Char}
    (hquote : ¬CodePoint.isLineBoundary (.scalar quote)) (c : CodePoint) :
    isOneLine (c.quotedBetween quote) := by
  have hslash : ¬CodePoint.isLineBoundary (.scalar '\\') := by decide
  unfold CodePoint.quotedBetween
  split_ifs with hmarked htab hfeed hreturn hprintable
  · rcases hmarked with rfl | rfl
    · simp [hslash, hquote]
    · simp [hslash]
  · decide
  · decide
  · decide
  · simpa using CodePoint.not_isLineBoundary_of_isPrintable hprintable
  · exact isOneLine_numericEscape c

theorem not_isLineBoundary_quoteMark (t : Text) :
    ¬CodePoint.isLineBoundary (.scalar t.quoteMark) := by
  unfold quoteMark
  split_ifs <;> decide

/-- A quoted text is a single line. -/
theorem isOneLine_quoted (t : Text) : isOneLine t.quoted := by
  have hquote := not_isLineBoundary_quoteMark t
  simp [quoted, hquote, isOneLine_flatMap (isOneLine_quotedBetween hquote)]

end Text

end StyleImport
