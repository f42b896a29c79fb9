import StyleImport.Text.LetterCase

/-!
# Small letters of names

A text in small letters holds no capital that has an ASCII letter as its small form. So a piece of
it that becomes an ASCII text when it is put in small letters was this text before.

## Main definitions

- `CodePoint.hasAsciiSmall`: the capitals whose small form is an ASCII letter.
- `CodePoint.asciiSmall`: the small form of an ASCII code point.

## Main statements

- `Text.hasAsciiSmall_of_mem_toLower`: no such capital is left in small letters.
- `Text.eq_of_toLower_eq`: a text without such capitals whose small letters are ASCII is in small
  letters itself.
- `Text.toLower_of_ascii`: the small letters of an ASCII text.
-/

namespace StyleImport

namespace CodePoint

/-- Tells whether a code point is a capital whose small form is an ASCII letter: one of the ASCII
capitals or the sign for the unit kelvin. -/
def hasAsciiSmall (c : CodePoint) : Bool :=
  (0x41 ≤ c.toNat && c.toNat ≤ 0x5a) || c.toNat = 0x212a

theorem toNat_of_ofNat? {n : Nat} {c : CodePoint} (h : ofNat? n = some c) : c.toNat = n := by
  unfold ofNat? at h
  split at h
  · obtain rfl := Option.some.inj h
    simp only [toNat]
    omega
  · split at h
    · next hsurrogate hlt =>
      obtain rfl := Option.some.inj h
      have hvalid : n.isValidChar := by simp only [Nat.isValidChar]; omega
      rw [toNat, Char.ofNat, dif_pos hvalid]
      rfl
    · cases h

theorem exists_of_lt {n : Nat} (h : n < 0x110000) : ∃ c, ofNat? n = some c := by
  unfold ofNat?
  split
  · exact ⟨_, rfl⟩
  · exact ⟨_, rfl⟩

/-- What holds of the small forms of every row of the capitals: they are code points, none of them
is a capital with an ASCII letter as its small form, and they are ASCII only where the capitals are
of this kind. -/
theorem capitalRows_spec : ∀ row ∈ capitalRows.toList,
    0 ≤ row.1 + row.2.2.2 ∧ row.2.1 + row.2.2.2 < 0x110000 ∧
      (row.2.1 + row.2.2.2 < 0x41 ∨ 0x5a < row.1 + row.2.2.2) ∧
      (row.2.1 + row.2.2.2 < 0x212a ∨ 0x212a < row.1 + row.2.2.2) ∧
      (0x80 ≤ row.1 + row.2.2.2 ∨ (0x41 ≤ row.1 ∧ row.2.1 ≤ 0x5a) ∨
        (row.1 = 0x212a ∧ row.2.1 = 0x212a)) := by
  decide +kernel

/-- The small form of a code point is the code point itself or stands in the row that it belongs
to. -/
theorem small_cases (c : CodePoint) :
    (c.small = c ∧ ¬(0x41 ≤ c.toNat ∧ c.toNat ≤ 0x5a) ∧ c.toNat ≠ 0x212a) ∨
      ∃ row ∈ capitalRows.toList, row.1 ≤ c.toNat ∧ c.toNat ≤ row.2.1 ∧
        (c.small.toNat : Int) = c.toNat + row.2.2.2 := by
  unfold small
  dsimp only
  split
  · next first last step offset hfind =>
    right
    have hmem := Array.mem_of_find?_eq_some hfind
    have hrow := Array.find?_some hfind
    simp only [Bool.and_eq_true, decide_eq_true_eq] at hrow
    obtain ⟨hpos, hlt, -⟩ := capitalRows_spec _ (Array.mem_toList_iff.mpr hmem)
    dsimp only at hpos hlt
    have hsmall : ((c.toNat : Int) + offset).toNat < 0x110000 := by omega
    obtain ⟨d, hd⟩ := exists_of_lt hsmall
    refine ⟨_, Array.mem_toList_iff.mpr hmem, hrow.1.1, hrow.1.2, ?_⟩
    rw [hd, Option.getD_some, toNat_of_ofNat? hd]
    exact Int.toNat_of_nonneg (by omega)
  · next hfind =>
    left
    rw [Array.find?_eq_none] at hfind
    -- The rows for the capital letters of ASCII and for the Kelvin sign are among those passed
    -- over.
    have hascii := hfind (0x41, 0x5a, 1, 32) (Array.mem_toList_iff.mp (by decide +kernel))
    have hkelvin := hfind (0x212a, 0x212a, 1, -8383) (Array.mem_toList_iff.mp (by decide +kernel))
    simp only [Bool.and_eq_true, decide_eq_true_eq, Nat.mod_one, and_true] at hascii hkelvin
    refine ⟨rfl, ?_, ?_⟩ <;> omega

/-- No small form is a capital with an ASCII letter as its small form. -/
theorem not_hasAsciiSmall_small (c : CodePoint) : c.small.hasAsciiSmall = false := by
  simp only [hasAsciiSmall, Bool.or_eq_false_iff, Bool.and_eq_false_iff, decide_eq_false_iff_not]
  rcases small_cases c with ⟨hsame, hascii, hkelvin⟩ | ⟨row, hrow, hfirst, hlast, hsmall⟩
  · rw [hsame]
    omega
  · obtain ⟨-, -, hascii, hkelvin, -⟩ := capitalRows_spec row hrow
    omega

/-- An ASCII small form belongs to itself or to one of these capitals. -/
theorem small_eq_self {c : CodePoint} (hcapital : c.hasAsciiSmall = false)
    (hascii : c.small.toNat < 0x80) : c.small = c := by
  rcases small_cases c with ⟨hsame, -, -⟩ | ⟨row, hrow, hfirst, hlast, hsmall⟩
  · exact hsame
  · obtain ⟨-, -, -, -, hkind⟩ := capitalRows_spec row hrow
    simp only [hasAsciiSmall, Bool.or_eq_false_iff, Bool.and_eq_false_iff,
      decide_eq_false_iff_not] at hcapital
    omega

/-! ## ASCII code points -/

/-- The small form of an ASCII code point. -/
def asciiSmall (c : CodePoint) : CodePoint :=
  if 0x41 ≤ c.toNat ∧ c.toNat ≤ 0x5a then (ofNat? (c.toNat + 32)).getD c else c

theorem ofNat?_of_ascii {c : CodePoint} (h : c.toNat < 0x80) : ofNat? c.toNat = some c := by
  cases c with
  | surrogate n =>
    simp only [toNat] at h
    omega
  | scalar c =>
    unfold ofNat?
    rw [dif_neg (by omega), if_pos (by omega), toNat, Char.ofNat_toNat]

theorem small_of_ascii {c : CodePoint} (h : c.toNat < 0x80) : c.small = c.asciiSmall := by
  have hall : ∀ n : Fin 0x80, ∀ c ∈ ofNat? n, c.small = c.asciiSmall := by decide +kernel
  exact hall ⟨c.toNat, h⟩ c (ofNat?_of_ascii h)

end CodePoint

namespace Text

/-- What one code point becomes in small letters. -/
theorem toLowerAfter_cons (before : Text) (c : CodePoint) (t : Text) :
    ∃ front : Text, toLowerAfter before (c :: t) = front ++ toLowerAfter (c :: before) t ∧
      (front = [c.small] ∨ ∃ d ∈ front, 0x80 ≤ d.toNat) ∧
      ∀ d ∈ front, d.hasAsciiSmall = false := by
  refine ⟨_, rfl, ?_⟩
  split
  · exact ⟨.inr (by decide), by decide⟩
  · split
    · split
      · exact ⟨.inr (by decide), by decide⟩
      · exact ⟨.inr (by decide), by decide⟩
    · refine ⟨.inl rfl, ?_⟩
      intro d hd
      rw [List.mem_singleton.mp hd]
      exact CodePoint.not_hasAsciiSmall_small c

theorem hasAsciiSmall_of_mem_toLowerAfter {before t : Text} {c : CodePoint}
    (h : c ∈ toLowerAfter before t) : c.hasAsciiSmall = false := by
  induction t generalizing before with
  | nil => cases h
  | cons d t ih =>
    obtain ⟨front, hfront, -, hsmall⟩ := toLowerAfter_cons before d t
    rw [hfront, List.mem_append] at h
    rcases h with h | h
    · exact hsmall c h
    · exact ih h

/-- No capital with an ASCII letter as its small form is left in small letters. -/
theorem hasAsciiSmall_of_mem_toLower {t : Text} {c : CodePoint} (h : c ∈ t.toLower) :
    c.hasAsciiSmall = false := hasAsciiSmall_of_mem_toLowerAfter h

theorem eq_of_toLowerAfter_eq {before t name : Text} (ht : ∀ c ∈ t, c.hasAsciiSmall = false)
    (hname : ∀ c ∈ name, c.toNat < 0x80) (h : toLowerAfter before t = name) : t = name := by
  induction t generalizing before name with
  | nil => exact h
  | cons c t ih =>
    obtain ⟨front, hfront, hkind, -⟩ := toLowerAfter_cons before c t
    rw [hfront] at h
    rcases hkind with rfl | ⟨d, hd, hbig⟩
    · obtain rfl := h
      have hself := CodePoint.small_eq_self (ht c List.mem_cons_self) (hname _ List.mem_cons_self)
      have hrest : t = toLowerAfter (c :: before) t :=
        ih (fun d hd => ht d (List.mem_cons_of_mem c hd))
          (fun d hd => hname d (List.mem_cons_of_mem _ hd)) rfl
      rw [hself, List.singleton_append, ← hrest]
    · have := hname d (h ▸ List.mem_append_left _ hd)
      omega

/-- A text that holds none of these capitals and whose small letters are ASCII is in small letters
itself. -/
theorem eq_of_toLower_eq {t name : Text} (ht : ∀ c ∈ t, c.hasAsciiSmall = false)
    (hname : ∀ c ∈ name, c.toNat < 0x80) (h : t.toLower = name) : t = name :=
  eq_of_toLowerAfter_eq ht hname h

theorem toLowerAfter_of_ascii {before t : Text} (h : ∀ c ∈ t, c.toNat < 0x80) :
    toLowerAfter before t = t.map CodePoint.asciiSmall := by
  induction t generalizing before with
  | nil => rfl
  | cons c t ih =>
    obtain ⟨hc, ht⟩ := List.forall_mem_cons.mp h
    have hdotted : c ≠ .dottedCapital := by
      rintro rfl
      exact absurd hc (by decide)
    have hsigma : c ≠ .capitalSigma := by
      rintro rfl
      exact absurd hc (by decide)
    rw [toLowerAfter, if_neg hdotted, if_neg hsigma, ih ht, CodePoint.small_of_ascii hc]
    rfl

/-- The small letters of an ASCII text are those of its code points. -/
theorem toLower_of_ascii {t : Text} (h : ∀ c ∈ t, c.toNat < 0x80) :
    t.toLower = t.map CodePoint.asciiSmall := toLowerAfter_of_ascii h

end Text

end StyleImport
