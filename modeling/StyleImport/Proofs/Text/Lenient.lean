import Mathlib.Data.Nat.Init
import Mathlib.Tactic.SplitIfs
import StyleImport.Proofs.Text.Scalars
import StyleImport.Text.Utf8

/-!
# Lenient reading

Lenient reading goes from one stretch of bytes to the next: a character, or a faulty stretch that
is shown as one replacement character. How far a stretch goes is decided by the bytes that continue
a character, and no character starts with such a byte. So what stands before a character is read as
if the bytes ended there.

## Main definitions

- `Utf8.IsTail`: the bytes that continue a character.
- `Utf8.Start.shown`: what is read for a stretch, and how many bytes follow its first one.

## Main statements

- `Utf8.take_encodeChar`: the bytes of a character are read as this character.
- `Utf8.shown_take_append`: a stretch ends before a byte that continues no character.
- `Utf8.decodeLenient_append`: bytes before such a byte are read on their own.
- `Utf8.decodeLenient_encodeChars_append`: text is read as it was written, whatever follows.
-/

namespace StyleImport

namespace Utf8

variable {b : UInt8} {bytes rest s tail : List UInt8} {bits more wanted n : Nat} {c : Char}
  {cs : List Char}

/-- The bytes that continue a character. -/
def IsTail (b : UInt8) : Prop := 0x80 ≤ b ∧ b ≤ 0xBF

instance (b : UInt8) : Decidable (IsTail b) := inferInstanceAs (Decidable (_ ∧ _))

/-- What is read for a stretch of bytes, and the number of its bytes less one. -/
def Start.shown : Start → Char × Nat
  | .char c more => (c, more)
  | .fault _ more => (replacement, more)

theorem decodeLenient_cons (b : UInt8) (rest : List UInt8) :
    decodeLenient (b :: rest) =
      (take b rest).shown.1 :: decodeLenient (rest.drop (take b rest).shown.2) := by
  rw [decodeLenient]
  cases take b rest <;> rfl

/-! ## Stretches of bytes -/

/-- Reading the bytes that continue a character stops before a byte that continues none. -/
theorem shown_takeTails_append (h : ∀ x ∈ s.head?, ¬IsTail x) :
    (takeTails bits more wanted (tail ++ s)).shown = (takeTails bits more wanted tail).shown := by
  fun_induction takeTails bits more wanted tail with
  | case1 bits more tail => rw [takeTails]
  | case2 bits more wanted =>
    cases s with
    | nil => rfl
    | cons x s =>
      have hx : ¬(0x80 ≤ x ∧ x ≤ 0xBF) := h x rfl
      rw [List.nil_append, takeTails, if_neg hx]
      rfl
  | case3 bits more wanted x tail hx ih =>
    rw [List.cons_append, takeTails, if_pos hx, ih]
  | case4 bits more wanted x tail hx =>
    rw [List.cons_append, takeTails, if_neg hx]

/-- The second byte of a character is one that continues characters. -/
theorem isTail_of_leadBounds {size : Nat} {low high : UInt8}
    (h : leadBounds b = some (size, low, high)) {x : UInt8} (hx : low ≤ x ∧ x ≤ high) :
    IsTail x := by
  have hbounds : 0x80 ≤ low ∧ high ≤ 0xBF := by
    unfold leadBounds at h
    split_ifs at h <;> cases h <;> decide
  exact ⟨UInt8.le_trans hbounds.1 hx.1, UInt8.le_trans hx.2 hbounds.2⟩

/-- A stretch of bytes ends before a byte that continues no character. -/
theorem shown_take_append (h : ∀ x ∈ s.head?, ¬IsTail x) :
    (take b (rest ++ s)).shown = (take b rest).shown := by
  unfold take
  split
  · rfl
  · cases hbounds : leadBounds b with
    | none => rfl
    | some bounds =>
      obtain ⟨size, low, high⟩ := bounds
      -- Only if nothing is left does the first byte of `s` come next, and it is no tail.
      cases rest with
      | nil =>
        cases s with
        | nil => rfl
        | cons x s =>
          have hx : ¬(low ≤ x ∧ x ≤ high) := fun hx => h x rfl (isTail_of_leadBounds hbounds hx)
          dsimp only [List.nil_append]
          rw [if_neg hx]
          rfl
      | cons x tail =>
        dsimp only [List.cons_append]
        split
        · exact shown_takeTails_append h
        · rfl

theorem shown_takeTails_le : (takeTails bits more wanted tail).shown.2 ≤ more + tail.length := by
  fun_induction takeTails bits more wanted tail with
  | case1 bits more tail => exact Nat.le_add_right _ _
  | case2 bits more wanted => exact Nat.le_add_right _ _
  | case3 bits more wanted x tail hx ih => rw [List.length_cons]; omega
  | case4 bits more wanted x tail hx => exact Nat.le_add_right _ _

/-- A stretch of bytes does not go beyond the end. -/
theorem shown_take_le : (take b rest).shown.2 ≤ rest.length := by
  unfold take
  split
  · exact Nat.zero_le _
  · split
    · exact Nat.zero_le _
    · split
      · exact Nat.zero_le _
      · split
        · rw [List.length_cons, Nat.add_comm]
          exact shown_takeTails_le
        · exact Nat.zero_le _

/-- Bytes before a byte that continues no character are read on their own. -/
theorem decodeLenient_append (bytes : List UInt8) (h : ∀ x ∈ s.head?, ¬IsTail x) :
    decodeLenient (bytes ++ s) = decodeLenient bytes ++ decodeLenient s := by
  -- The induction is on the number of bytes, since every stretch takes some of them away.
  induction hlength : bytes.length using Nat.strong_induction_on generalizing bytes with
  | _ n ih =>
    cases bytes with
    | nil => rw [List.nil_append, decodeLenient, List.nil_append]
    | cons b rest =>
      have hshown : (take b rest).shown.2 ≤ rest.length := shown_take_le
      have hdrop : (rest ++ s).drop (take b rest).shown.2 = rest.drop (take b rest).shown.2 ++ s :=
        List.drop_append_of_le_length hshown
      rw [List.cons_append, decodeLenient_cons, decodeLenient_cons, shown_take_append h, hdrop,
        List.cons_append, ih _ ?_ _ rfl]
      rw [← hlength, List.length_drop, List.length_cons]
      omega

/-! ## The bytes of characters -/

theorem toNat_toUInt8 {n : Nat} (h : n < 0x100) : n.toUInt8.toNat = n := by
  rw [Nat.toUInt8_eq, UInt8.toNat_ofNat', Nat.mod_eq_of_lt h]

theorem isTail_iff : IsTail b ↔ 0x80 ≤ b.toNat ∧ b.toNat ≤ 0xBF := by
  unfold IsTail
  simp only [UInt8.le_iff_toNat_le]
  rfl

/-- The first byte of a character of two bytes. -/
theorem leadBounds_two (h : 0xC2 ≤ b.toNat) (h' : b.toNat < 0xE0) :
    leadBounds b = some (2, 0x80, 0xBF) := by
  unfold leadBounds
  simp only [UInt8.lt_iff_toNat_lt, UInt8.reduceToNat]
  rw [if_neg (by omega), if_pos h']

/-- The first two bytes of a character of three bytes: it is neither written too long nor a
surrogate. -/
theorem leadBounds_three {x : UInt8} (h : 0xE0 ≤ b.toNat) (h' : b.toNat < 0xF0) (hx : IsTail x)
    (hlow : b.toNat = 0xE0 → 0xA0 ≤ x.toNat) (hhigh : b.toNat = 0xED → x.toNat ≤ 0x9F) :
    ∃ low high, leadBounds b = some (3, low, high) ∧ low ≤ x ∧ x ≤ high := by
  obtain ⟨hx, hx'⟩ := isTail_iff.mp hx
  unfold leadBounds
  simp only [UInt8.lt_iff_toNat_lt, UInt8.le_iff_toNat_le, ← UInt8.toNat_inj, UInt8.reduceToNat]
  rw [if_neg (by omega), if_neg (by omega)]
  split_ifs with hE0 hED
  · exact ⟨_, _, rfl, hlow hE0, hx'⟩
  · exact ⟨_, _, rfl, hx, hhigh hED⟩
  · exact ⟨_, _, rfl, hx, hx'⟩

/-- The first two bytes of a character of four bytes: it is neither written too long nor too
great. -/
theorem leadBounds_four {x : UInt8} (h : 0xF0 ≤ b.toNat) (h' : b.toNat ≤ 0xF4) (hx : IsTail x)
    (hlow : b.toNat = 0xF0 → 0x90 ≤ x.toNat) (hhigh : b.toNat = 0xF4 → x.toNat ≤ 0x8F) :
    ∃ low high, leadBounds b = some (4, low, high) ∧ low ≤ x ∧ x ≤ high := by
  obtain ⟨hx, hx'⟩ := isTail_iff.mp hx
  unfold leadBounds
  simp only [UInt8.lt_iff_toNat_lt, UInt8.le_iff_toNat_le, ← UInt8.toNat_inj, UInt8.reduceToNat]
  rw [if_neg (by omega), if_neg (by omega), if_neg (by omega), if_neg (by omega),
    if_neg (by omega)]
  split_ifs with hF0 hlt hF4
  · exact ⟨_, _, rfl, hlow hF0, hx'⟩
  · exact ⟨_, _, rfl, hx, hx'⟩
  · exact ⟨_, _, rfl, hx, hhigh hF4⟩
  · omega

/-- A character of several bytes goes on with the bits of its second byte. -/
theorem take_of_leadBounds {x low high : UInt8} {size : Nat} (hb : 0x80 ≤ b.toNat)
    (h : leadBounds b = some (size, low, high)) (hx : low ≤ x ∧ x ≤ high) :
    take b (x :: tail) =
      takeTails ((if size = 2 then b.toNat - 0xC0
        else if size = 3 then b.toNat - 0xE0 else b.toNat - 0xF0) * 0x40 + (x.toNat - 0x80))
        1 (size - 2) tail := by
  have hnot : ¬b < 0x80 := by
    rw [UInt8.lt_iff_toNat_lt]
    exact Nat.not_lt.mpr hb
  unfold take
  rw [if_neg hnot, h]
  exact if_pos hx

theorem takeTails_cons (hb : IsTail b) :
    takeTails bits more (wanted + 1) (b :: tail) =
      takeTails (bits * 0x40 + (b.toNat - 0x80)) (more + 1) wanted tail := by
  rw [takeTails]
  exact if_pos hb

theorem takeTails_zero : takeTails bits more 0 tail = .char (Char.ofNat bits) more := by
  rw [takeTails]

/-- The byte that holds six bits of a character. -/
theorem isTail_of_bits (k : Nat) : IsTail (0x80 + k % 0x40).toUInt8 := by
  rw [isTail_iff, toNat_toUInt8 (by omega)]
  omega

theorem toNat_of_bits (k : Nat) : (0x80 + k % 0x40).toUInt8.toNat = 0x80 + k % 0x40 :=
  toNat_toUInt8 (by omega)

theorem take_one (h : n < 0x80) : take n.toUInt8 rest = .char (Char.ofNat n) 0 := by
  have hn : n.toUInt8.toNat = n := toNat_toUInt8 (by omega)
  have hlt : n.toUInt8 < 0x80 := by
    rw [UInt8.lt_iff_toNat_lt, hn]
    exact h
  unfold take
  rw [if_pos hlt, hn]

theorem take_two (h : 0x80 ≤ n) (h' : n < 0x800) :
    take (0xC0 + n / 0x40).toUInt8 ((0x80 + n % 0x40).toUInt8 :: rest) =
      .char (Char.ofNat n) 1 := by
  have hlead : (0xC0 + n / 0x40).toUInt8.toNat = 0xC0 + n / 0x40 := toNat_toUInt8 (by omega)
  have hbounds := leadBounds_two (b := (0xC0 + n / 0x40).toUInt8) (by omega) (by omega)
  have hbits : (0xC0 + n / 0x40 - 0xC0) * 0x40 + (0x80 + n % 0x40 - 0x80) = n := by omega
  rw [take_of_leadBounds (by omega) hbounds (isTail_of_bits n), takeTails_zero, hlead,
    toNat_of_bits, if_pos rfl, hbits]

theorem take_three (h : 0x800 ≤ n) (h' : n < 0x10000) (hvalid : n < 0xD800 ∨ 0xDFFF < n) :
    take (0xE0 + n / 0x1000).toUInt8
        ((0x80 + n / 0x40 % 0x40).toUInt8 :: (0x80 + n % 0x40).toUInt8 :: rest) =
      .char (Char.ofNat n) 2 := by
  have hlead : (0xE0 + n / 0x1000).toUInt8.toNat = 0xE0 + n / 0x1000 := toNat_toUInt8 (by omega)
  have hsecond := toNat_of_bits (n / 0x40)
  obtain ⟨low, high, hbounds, hx⟩ := leadBounds_three (b := (0xE0 + n / 0x1000).toUInt8)
    (by omega) (by omega) (isTail_of_bits (n / 0x40)) (by omega) (by omega)
  have hbits : ((0xE0 + n / 0x1000 - 0xE0) * 0x40 + (0x80 + n / 0x40 % 0x40 - 0x80)) * 0x40 +
      (0x80 + n % 0x40 - 0x80) = n := by omega
  rw [take_of_leadBounds (by omega) hbounds hx, takeTails_cons (isTail_of_bits n), takeTails_zero,
    hlead, hsecond, toNat_of_bits, if_neg (by decide), if_pos rfl, hbits]

theorem take_four (h : 0x10000 ≤ n) (h' : n < 0x110000) :
    take (0xF0 + n / 0x40000).toUInt8
        ((0x80 + n / 0x1000 % 0x40).toUInt8 :: (0x80 + n / 0x40 % 0x40).toUInt8 ::
          (0x80 + n % 0x40).toUInt8 :: rest) =
      .char (Char.ofNat n) 3 := by
  have hlead : (0xF0 + n / 0x40000).toUInt8.toNat = 0xF0 + n / 0x40000 :=
    toNat_toUInt8 (by omega)
  have hsecond := toNat_of_bits (n / 0x1000)
  obtain ⟨low, high, hbounds, hx⟩ := leadBounds_four (b := (0xF0 + n / 0x40000).toUInt8)
    (by omega) (by omega) (isTail_of_bits (n / 0x1000)) (by omega) (by omega)
  have hbits : (((0xF0 + n / 0x40000 - 0xF0) * 0x40 + (0x80 + n / 0x1000 % 0x40 - 0x80)) * 0x40 +
      (0x80 + n / 0x40 % 0x40 - 0x80)) * 0x40 + (0x80 + n % 0x40 - 0x80) = n := by omega
  rw [take_of_leadBounds (by omega) hbounds hx, takeTails_cons (isTail_of_bits (n / 0x40)),
    takeTails_cons (isTail_of_bits n), takeTails_zero, hlead, hsecond, toNat_of_bits (n / 0x40),
    toNat_of_bits n, if_neg (by decide), if_neg (by decide), hbits]

/-- The bytes of a character are read as this character, whatever follows. -/
theorem take_encodeChar (c : Char) (rest : List UInt8) :
    ∃ b tail, encodeChar c = b :: tail ∧ ¬IsTail b ∧
      take b (tail ++ rest) = .char c tail.length := by
  have hc : Char.ofNat c.toNat = c := Char.ofNat_toNat c
  have hvalid : c.toNat < 0xD800 ∨ 0xDFFF < c.toNat ∧ c.toNat < 0x110000 := c.valid
  unfold encodeChar
  generalize c.toNat = n at hc hvalid ⊢
  subst hc
  dsimp only
  split_ifs with hone htwo hthree
  · refine ⟨_, _, rfl, ?_, take_one hone⟩
    rw [isTail_iff, toNat_toUInt8 (by omega)]
    omega
  · refine ⟨_, _, rfl, ?_, take_two (by omega) htwo⟩
    rw [isTail_iff, toNat_toUInt8 (by omega)]
    omega
  · refine ⟨_, _, rfl, ?_, take_three (by omega) hthree (by omega)⟩
    rw [isTail_iff, toNat_toUInt8 (by omega)]
    omega
  · refine ⟨_, _, rfl, ?_, take_four (by omega) (by omega)⟩
    rw [isTail_iff, toNat_toUInt8 (by omega)]
    omega

/-! ## Text among bytes -/

/-- No character starts with a byte that continues characters. -/
theorem not_isTail_of_mem_head? (hcs : cs ≠ []) :
    ∀ x ∈ (encodeChars cs ++ rest).head?, ¬IsTail x := by
  obtain ⟨c, cs, rfl⟩ := List.exists_cons_of_ne_nil hcs
  obtain ⟨b, tail, hc, hb, -⟩ := take_encodeChar c rest
  intro x hx
  rw [encodeChars, List.flatMap_cons, hc, List.cons_append, List.cons_append, List.head?_cons,
    Option.mem_some_iff] at hx
  exact hx ▸ hb

/-- Text is read as it was written, whatever follows. -/
theorem decodeLenient_encodeChars_append (cs : List Char) (rest : List UInt8) :
    decodeLenient (encodeChars cs ++ rest) = cs ++ decodeLenient rest := by
  induction cs with
  | nil => rfl
  | cons c cs ih =>
    obtain ⟨b, tail, hc, -, htake⟩ := take_encodeChar c (encodeChars cs ++ rest)
    rw [encodeChars, List.flatMap_cons, ← encodeChars, List.append_assoc, hc, List.cons_append,
      decodeLenient_cons, htake, Start.shown, List.drop_left, ih, List.cons_append]

/-- Text among other bytes is read as it was written, and the bytes around it as they are read
without it. -/
theorem decodeLenient_around (hcs : cs ≠ []) (bytes rest : List UInt8) :
    decodeLenient (bytes ++ encodeChars cs ++ rest) =
      decodeLenient bytes ++ cs ++ decodeLenient rest := by
  rw [List.append_assoc, decodeLenient_append bytes (not_isTail_of_mem_head? hcs),
    decodeLenient_encodeChars_append, List.append_assoc]

/-- A text that can be written as bytes is a list of characters. -/
theorem eq_encodeChars_of_encode? {t : Text} (h : encode? t = .ok bytes) :
    t = .ofChars t.chars ∧ bytes = encodeChars t.chars := by
  unfold encode? at h
  cases hfirst : firstSurrogates 0 t with
  | some fault => rw [hfirst] at h; cases h
  | none =>
    rw [hfirst] at h
    obtain rfl := Except.ok.inj h
    have hwhole := firstSurrogates_eq_none_iff.mp hfirst
    clear h hfirst
    induction t with
    | nil => exact ⟨rfl, rfl⟩
    | cons c t ih =>
      obtain ⟨hc, ht⟩ := Text.isWhole_cons_iff.mp hwhole
      cases c with
      | surrogate _ => exact absurd rfl hc
      | scalar c =>
        obtain ⟨htext, hbytes⟩ := ih ht
        rw [Text.chars_cons, encodeChars, List.flatMap_cons, List.flatMap_cons, hbytes]
        exact ⟨congrArg (.scalar c :: ·) htext, rfl⟩

/-! ## Line ends -/

theorem ofNat_ne_return (h : n ≠ 0x0D) : Char.ofNat n ≠ '\r' := by
  intro heq
  have htoNat : (Char.ofNat n).toNat = 0x0D := congrArg Char.toNat heq
  by_cases hvalid : n.isValidChar
  · have hn : Char.ofNat n = Char.ofNatAux n hvalid := dif_pos hvalid
    rw [hn] at htoNat
    exact h htoNat
  · have hn : Char.ofNat n = '\x00' := dif_neg hvalid
    rw [hn] at htoNat
    cases htoNat

theorem replacement_ne_return : replacement ≠ '\r' := by decide

theorem shown_takeTails_ne_return (h : 0x0D < bits) :
    (takeTails bits more wanted tail).shown.1 ≠ '\r' := by
  fun_induction takeTails bits more wanted tail with
  | case1 bits more tail => exact ofNat_ne_return (Nat.ne_of_gt h)
  | case2 bits more wanted => exact replacement_ne_return
  | case3 bits more wanted x tail hx ih => exact ih (by omega)
  | case4 bits more wanted x tail hx => exact replacement_ne_return

/-- The first two bytes of a longer character hold more than the bits of a carriage return. -/
theorem lt_bits_of_leadBounds {x low high : UInt8} {size : Nat}
    (h : leadBounds b = some (size, low, high)) (hx : low ≤ x) :
    0x0D < (if size = 2 then b.toNat - 0xC0
      else if size = 3 then b.toNat - 0xE0 else b.toNat - 0xF0) * 0x40 + (x.toNat - 0x80) := by
  unfold leadBounds at h
  simp only [UInt8.lt_iff_toNat_lt, ← UInt8.toNat_inj, UInt8.reduceToNat] at h
  rw [UInt8.le_iff_toNat_le] at hx
  split_ifs at h <;> cases h <;> simp at hx ⊢ <;> omega

/-- Only the byte of a carriage return is read as one. -/
theorem shown_take_ne_return (h : b ≠ 0x0D) : (take b rest).shown.1 ≠ '\r' := by
  have htoNat : b.toNat ≠ 0x0D := fun heq => h (UInt8.toNat_inj.mp heq)
  unfold take
  split
  · exact ofNat_ne_return htoNat
  · cases hbounds : leadBounds b with
    | none => exact replacement_ne_return
    | some bounds =>
      obtain ⟨size, low, high⟩ := bounds
      cases rest with
      | nil => exact replacement_ne_return
      | cons x tail =>
        dsimp only
        split
        · next hx => exact shown_takeTails_ne_return (lt_bits_of_leadBounds hbounds hx.1)
        · exact replacement_ne_return

/-- Bytes without a carriage return are read as characters without one. -/
theorem notMem_decodeLenient (h : 0x0D ∉ bytes) : '\r' ∉ decodeLenient bytes := by
  induction hlength : bytes.length using Nat.strong_induction_on generalizing bytes with
  | _ n ih =>
    cases bytes with
    | nil => rw [decodeLenient]; exact List.not_mem_nil
    | cons b rest =>
      rw [List.mem_cons, not_or] at h
      obtain ⟨hb, hrest⟩ := h
      have hdrop : 0x0D ∉ rest.drop (take b rest).shown.2 := fun hmem =>
        hrest (List.mem_of_mem_drop hmem)
      have hlt : (rest.drop (take b rest).shown.2).length < n := by
        rw [← hlength, List.length_drop, List.length_cons]
        omega
      rw [decodeLenient_cons, List.mem_cons, not_or]
      exact ⟨(shown_take_ne_return (Ne.symm hb)).symm, ih _ hlt hdrop rfl⟩

/-- Without carriage returns the line ends are what they are. -/
theorem unifyLineEnds_of_notMem (h : '\r' ∉ cs) : unifyLineEnds cs = cs := by
  fun_induction unifyLineEnds cs with
  | case1 => rfl
  | case2 t ih => exact absurd List.mem_cons_self h
  | case3 t hne ih => exact absurd List.mem_cons_self h
  | case4 c t hne hne' ih => rw [ih (List.not_mem_of_not_mem_cons h)]

end Utf8

end StyleImport
