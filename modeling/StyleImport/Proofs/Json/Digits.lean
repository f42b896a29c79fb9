import StyleImport.Json.Reader
import StyleImport.Proofs.Effect

/-!
# Integers with too many digits

A reading function of JSON text leaves an end of the text that it is given. If it stops at an
integer that has too many digits, then these digits stand one behind the other in that text.

## Main definitions

- `Json.HasLongNumeral`: the texts with a run of more digits than an integer may have.
- `Json.StaysIn`: what a reading function leaves of its text.

## Main statements

- `Json.staysIn_readAtom`: reading a number stays in its text.
- `Json.staysIn_readValue`: so does reading any value.
- `Json.hasLongNumeral_of_read`: where a document with an overlong integer has its digits.
-/

namespace StyleImport

namespace Json

variable {α β : Type} {cs cs' : List Char} {c : Char} {fuel index : Nat}

/-- A text holds more decimal digits in a row than an integer may have. -/
def HasLongNumeral (cs : List Char) : Prop :=
  ∃ run, run <:+: cs ∧ (∀ c ∈ run, c.isDigit) ∧ Numeral.digitLimit < run.length

theorem HasLongNumeral.of_suffix (h : HasLongNumeral cs) (hsuffix : cs <:+ cs') :
    HasLongNumeral cs' := by
  obtain ⟨run, hrun, hdigits, hlong⟩ := h
  exact ⟨run, hrun.trans hsuffix.isInfix, hdigits, hlong⟩

/-- What a reading function makes of its text: it leaves an end of the text, or it stops at a fault,
and where an integer has too many digits they stand in the text. -/
def StaysIn (cs : List Char) : Except Stop (α × Cursor) → Prop
  | .ok (_, q) => q.rest <:+ cs
  | .error (.number _) => HasLongNumeral cs
  | .error (.fault _ _) => True

theorem StaysIn.map {r : Except Stop (α × Cursor)} (h : StaysIn cs r) (f : α → β) :
    StaysIn cs (r.map fun a => (f a.1, a.2)) := by
  rcases r with (⟨kind, index⟩ | fault) | ⟨a, q⟩
  · trivial
  · exact h
  · exact h

/-- A reading function that stays in an end of a text stays in the text. -/
theorem StaysIn.of_suffix {r : Except Stop (α × Cursor)} (h : StaysIn cs r) (hsuffix : cs <:+ cs') :
    StaysIn cs' r := by
  rcases r with (⟨kind, index⟩ | fault) | ⟨a, q⟩
  · trivial
  · exact HasLongNumeral.of_suffix h hsuffix
  · exact List.IsSuffix.trans h hsuffix

/-- A reading function that stops where another one stops stays in the same text. -/
theorem StaysIn.error {r : Except Stop (α × Cursor)} {stop : Stop} (h : StaysIn cs r)
    (hr : r = .error stop) : StaysIn cs (.error stop : Except Stop (β × Cursor)) := by
  subst hr
  cases stop with
  | fault kind index => trivial
  | number fault => exact h

theorem StaysIn.suffix {r : Except Stop (α × Cursor)} {a : α} {q : Cursor} (h : StaysIn cs r)
    (hr : r = .ok (a, q)) : q.rest <:+ cs := by
  subst hr
  exact h

/-! ## White space -/

theorem suffix_skipSpace (p : Cursor) : p.skipSpace.rest <:+ p.rest := List.dropWhile_suffix _

/-- What stands behind the white space behind a character is an end of the text. -/
theorem suffix_skipSpace_cons (index : Nat) (c : Char) (cs : List Char) :
    (Cursor.skipSpace ⟨index, cs⟩).rest <:+ c :: cs :=
  (suffix_skipSpace ⟨index, cs⟩).trans (List.suffix_cons c cs)

/-! ## Strings -/

theorem readEscape_ne_number {start : Nat} (fault : Numeral.Fault) :
    readEscape start index cs ≠ .error (.number fault) := by
  fun_cases readEscape start index cs
  all_goals simp

theorem staysIn_readText (start index : Nat) (cs : List Char) :
    StaysIn cs (readText start index cs) := by
  fun_induction readText start index cs with
  | case1 => trivial
  | case2 index rest => exact List.suffix_cons _ rest
  | case3 index rest stop hescape =>
    cases stop with
    | fault kind index => trivial
    | number fault => exact absurd hescape (readEscape_ne_number fault)
  | case4 index rest point size hescape hquote ih =>
    refine (ih.of_suffix ?_).map _
    exact (List.drop_suffix size rest).trans (List.suffix_cons _ rest)
  | case5 => trivial
  | case6 index c rest hquote hescape hcontrol ih =>
    exact (ih.of_suffix (List.suffix_cons c rest)).map _

/-! ## Numbers -/

theorem isPrefix_wholePart (cs : List Char) : wholePart cs <+: cs := by
  unfold wholePart
  split
  · exact ⟨_, rfl⟩
  · exact List.takeWhile_prefix _

theorem isDigit_of_mem_wholePart (h : c ∈ wholePart cs) : c.isDigit := by
  unfold wholePart at h
  split at h
  · rw [List.mem_singleton.mp h]
    decide
  · exact List.mem_takeWhile_imp h

/-- Only digits before the point of a number stop its reading, if there are too many of them. -/
theorem hasLongNumeral_of_readMagnitude {negative : Bool} {stop : Stop} {size : Nat}
    (h : readMagnitude negative cs = some (.error stop, size)) : HasLongNumeral cs := by
  unfold readMagnitude at h
  split at h
  · cases h
  · dsimp only at h
    split at h
    · cases h
    · split at h
      · split at h
        · next hlong =>
          exact ⟨wholePart cs, (isPrefix_wholePart cs).isInfix, fun c => isDigit_of_mem_wholePart,
            hlong⟩
        · cases h
      · cases h

/-- The text behind a sign is an end of the text. -/
theorem suffix_of_sign {negative : Bool} {body : List Char}
    (h : (match cs with
      | '-' :: t => (true, t)
      | t => (false, t)) = (negative, body)) : body <:+ cs := by
  split at h
  · cases h
    exact List.suffix_cons _ _
  · cases h
    exact List.suffix_rfl

/-- Reading a value that is no string, array or object stays in its text. -/
theorem staysIn_readAtom (p : Cursor) : StaysIn p.rest (readAtom p) := by
  unfold readAtom
  split
  · exact List.drop_suffix _ _
  · split
    next negative body hsign =>
    split
    · trivial
    · next result size hnumber =>
      cases result with
      | error stop =>
        -- The digits stand behind the sign, which may be there or not.
        have hlong := (hasLongNumeral_of_readMagnitude hnumber).of_suffix (suffix_of_sign hsign)
        cases stop with
        | fault kind index => trivial
        | number fault => exact hlong
      | ok v => exact List.drop_suffix _ _

/-! ## Arrays and objects -/

/-- All reading functions with some fuel stay in their texts. -/
structure ReadsStayIn (fuel : Nat) : Prop where
  /-- Reading a value. -/
  value : ∀ p, StaysIn p.rest (readValue fuel p)
  /-- Reading the items of an array. -/
  items : ∀ p, StaysIn p.rest (readItems fuel p)
  /-- Reading the fields of an object. -/
  fields : ∀ fields p, StaysIn p.rest (readFields fuel fields p)

theorem staysIn_value_succ (h : ReadsStayIn fuel) (p : Cursor) :
    StaysIn p.rest (readValue (fuel + 1) p) := by
  rw [readValue]
  split
  · next rest hrest =>
    rw [hrest]
    exact ((staysIn_readText _ _ rest).of_suffix (List.suffix_cons _ rest)).map _
  · next rest hrest =>
    have hq := suffix_skipSpace_cons (p.index + 1) '[' rest
    rw [hrest]
    dsimp only
    split
    · next rest' hrest' =>
      rw [hrest'] at hq
      exact (List.suffix_cons _ rest').trans hq
    · exact ((h.items _).of_suffix hq).map _
  · next rest hrest =>
    have hq := suffix_skipSpace_cons (p.index + 1) '{' rest
    rw [hrest]
    dsimp only
    split
    · next rest' hrest' =>
      rw [hrest'] at hq
      exact (List.suffix_cons _ rest').trans hq
    · exact ((h.fields [] _).of_suffix hq).map _
  · exact staysIn_readAtom p

theorem staysIn_items_succ (h : ReadsStayIn fuel) (p : Cursor) :
    StaysIn p.rest (readItems (fuel + 1) p) := by
  rw [readItems]
  split
  · next stop hvalue => exact (h.value p).error hvalue
  · next v q hvalue =>
    have hq : q.skipSpace.rest <:+ p.rest :=
      (suffix_skipSpace q).trans ((h.value p).suffix hvalue)
    dsimp only
    split
    · next rest hrest =>
      rw [hrest] at hq
      exact (List.suffix_cons _ rest).trans hq
    · next rest hrest =>
      rw [hrest] at hq
      exact ((h.items _).of_suffix ((suffix_skipSpace_cons _ _ rest).trans hq)).map _
    · trivial

theorem staysIn_fields_succ (h : ReadsStayIn fuel) (fields : List (Text × Json)) (p : Cursor) :
    StaysIn p.rest (readFields (fuel + 1) fields p) := by
  rw [readFields]
  split
  · next rest hrest =>
    rw [hrest]
    -- The name, the value and the fields behind it are each read from an end of the text.
    have hname : StaysIn ('"' :: rest) (readText p.index (p.index + 1) rest) :=
      (staysIn_readText _ _ rest).of_suffix (List.suffix_cons '"' rest)
    split
    · next stop hstop => exact hname.error hstop
    · next name q hread =>
      have hq : q.skipSpace.rest <:+ '"' :: rest := (suffix_skipSpace q).trans (hname.suffix hread)
      dsimp only
      split
      · next rest₁ hcolon =>
        rw [hcolon] at hq
        have hvalue := (h.value (Cursor.skipSpace ⟨q.skipSpace.index + 1, rest₁⟩)).of_suffix
          ((suffix_skipSpace_cons _ _ rest₁).trans hq)
        split
        · next stop hstop => exact hvalue.error hstop
        · next v q₂ hread₂ =>
          have hq₂ : q₂.skipSpace.rest <:+ '"' :: rest :=
            (suffix_skipSpace q₂).trans (hvalue.suffix hread₂)
          split
          · next rest₂ hend =>
            rw [hend] at hq₂
            exact (List.suffix_cons _ rest₂).trans hq₂
          · next rest₂ hcomma =>
            rw [hcomma] at hq₂
            exact (h.fields _ _).of_suffix ((suffix_skipSpace_cons _ _ rest₂).trans hq₂)
          · trivial
      · trivial
  · trivial

/-- The reading functions stay in their texts with any fuel. -/
theorem readsStayIn (fuel : Nat) : ReadsStayIn fuel := by
  induction fuel with
  | zero => exact ⟨fun _ => trivial, fun _ => trivial, fun _ _ => trivial⟩
  | succ fuel ih => exact ⟨staysIn_value_succ ih, staysIn_items_succ ih, staysIn_fields_succ ih⟩

theorem staysIn_readValue (fuel : Nat) (p : Cursor) : StaysIn p.rest (readValue fuel p) :=
  (readsStayIn fuel).value p

/-! ## Documents -/

/-- A document with an integer that has too many digits holds them one behind the other. -/
theorem hasLongNumeral_of_read {fault : Numeral.Fault} (h : read cs = .error (.number fault)) :
    HasLongNumeral cs := by
  have hvalue := (staysIn_readValue (2 * cs.length + 2) (Cursor.skipSpace ⟨0, cs⟩)).of_suffix
    (suffix_skipSpace ⟨0, cs⟩)
  unfold read at h
  obtain ⟨stop, hstop, hlocate⟩ := mapError_eq_error_iff.mp h
  cases stop with
  | fault kind index => cases hlocate
  | number fault =>
    split at hstop
    · cases hstop
    · rcases bind_eq_error_iff.mp hstop with hread | ⟨⟨v, q⟩, -, hend⟩
      · rw [hread] at hvalue
        exact hvalue
      · dsimp only at hend
        split at hend
        · cases hend
        · cases hend

end Json

end StyleImport
