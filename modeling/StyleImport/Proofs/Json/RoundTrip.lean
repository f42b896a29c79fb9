import StyleImport.Proofs.Json.Atoms
import StyleImport.Proofs.Json.Fields

/-!
# Reading what was written

A document without floating-point numbers is read again from its text. What is asked of it is what
every document has that was read: its fields have distinct names and its integers are short enough.
Besides, no surrogate may stand alone in its strings, since what is read are characters.

## Main definitions

- `Json.IsReadable`: the documents that can be read again.
- `Json.ReadsBack`: a document is read from its text, whatever follows.

## Main statements

- `Json.readItems_writeItems`: the items of an array are read back.
- `Json.readFields_writeFields`: so are the fields of an object.
- `Json.read_write`: documents are read back.
-/

namespace StyleImport

namespace Json

open Text (chars)

variable {cs rest : List Char} {c : Char} {fuel index depth : Nat}

/-! ## White space -/

/-- A text does not start with white space. -/
def StartsPlainly (cs : List Char) : Prop := ∀ c ∈ cs.head?, isSpace c = false

theorem startsPlainly_cons (h : isSpace c = false) : StartsPlainly (c :: cs) := by
  rintro _ ⟨⟩
  exact h

theorem dropWhile_isSpace (h : StartsPlainly cs) : cs.dropWhile isSpace = cs := by
  cases cs with
  | nil => rfl
  | cons c cs => rw [List.dropWhile_cons_of_neg (by simp [h c rfl])]

/-- White space is skipped up to a text that does not start with any. -/
theorem skipSpace_append {ws : List Char} (hws : ∀ c ∈ ws, isSpace c) (h : StartsPlainly cs) :
    ∃ j, Cursor.skipSpace ⟨index, ws ++ cs⟩ = ⟨j, cs⟩ := by
  unfold Cursor.skipSpace
  rw [List.dropWhile_append_of_pos hws, dropWhile_isSpace h]
  exact ⟨_, rfl⟩

theorem skipSpace_of_startsPlainly (h : StartsPlainly cs) :
    ∃ j, Cursor.skipSpace ⟨index, cs⟩ = ⟨j, cs⟩ :=
  skipSpace_append (List.forall_mem_nil _) h

/-- There is no white space before a text that starts plainly. -/
theorem skipSpace_cons (hc : isSpace c = false) :
    Cursor.skipSpace ⟨index, c :: cs⟩ = ⟨index, c :: cs⟩ := by
  simp [Cursor.skipSpace, hc]

theorem isSpace_of_mem_newLine (hc : c ∈ chars (newLine depth)) : isSpace c := by
  obtain ⟨point, hpoint, heq⟩ := List.mem_filterMap.mp hc
  rcases List.mem_cons.mp hpoint with rfl | hpoint
  · cases heq
    rfl
  · cases List.eq_of_mem_replicate hpoint
    cases heq
    rfl

/-! ## Values -/

mutual

/-- The documents that can be read again. -/
def IsReadable : Json → Prop
  | null => True
  | bool _ => True
  | int n => n.natAbs < 10 ^ Numeral.digitLimit
  | double _ => False
  | text t => t.IsWhole
  | array items => ItemsReadable items
  | object fields => (fields.map (·.1)).Nodup ∧ FieldsReadable fields

/-- The items of such documents. -/
def ItemsReadable : List Json → Prop
  | [] => True
  | v :: vs => IsReadable v ∧ ItemsReadable vs

/-- The fields of such documents. -/
def FieldsReadable : List (Text × Json) → Prop
  | [] => True
  | (name, v) :: rest => name.IsWhole ∧ IsReadable v ∧ FieldsReadable rest

end

/-- A document is read from its text, whatever follows that does not go on with a number. Its text
starts with neither white space nor a closing bracket nor a byte order mark. -/
structure ReadsBack (v : Json) : Prop where
  /-- How the text starts. -/
  head : ∀ depth, ∃ c cs, chars (writeAt depth v) = c :: cs ∧ isSpace c = false ∧
    c ≠ ']' ∧ c ≠ '\uFEFF'
  /-- What is read from the text. -/
  read : ∀ depth fuel index rest, EndsNumber rest →
    2 * (chars (writeAt depth v)).length ≤ fuel →
      ∃ j, readValue fuel ⟨index, chars (writeAt depth v) ++ rest⟩ = .ok (v, ⟨j, rest⟩)

theorem ReadsBack.startsPlainly {v : Json} (h : ReadsBack v) (depth : Nat) :
    StartsPlainly (chars (writeAt depth v) ++ rest) := by
  obtain ⟨c, cs, hcs, hc, -⟩ := h.head depth
  rw [hcs]
  exact startsPlainly_cons hc

/-- Values that are no strings, arrays or objects. -/
theorem readsBack_of_readAtom {v : Json}
    (hhead : ∀ depth, ∃ c cs, chars (writeAt depth v) = c :: cs ∧ isSpace c = false ∧
      c ≠ ']' ∧ c ≠ '\uFEFF' ∧ c ≠ '"' ∧ c ≠ '[' ∧ c ≠ '{')
    (hread : ∀ depth index rest, EndsNumber rest →
      ∃ j, readAtom ⟨index, chars (writeAt depth v) ++ rest⟩ = .ok (v, ⟨j, rest⟩)) :
    ReadsBack v := by
  constructor
  · intro depth
    obtain ⟨c, cs, hcs, hspace, hbracket, hmark, -⟩ := hhead depth
    exact ⟨c, cs, hcs, hspace, hbracket, hmark⟩
  · intro depth fuel index rest hrest hfuel
    obtain ⟨c, cs, hcs, -, -, -, hquote, hbracket, hbrace⟩ := hhead depth
    obtain ⟨j, hj⟩ := hread depth index rest hrest
    rw [hcs] at hfuel hj ⊢
    obtain ⟨fuel, rfl⟩ : ∃ n, fuel = n + 1 := ⟨fuel - 1, by simp at hfuel; omega⟩
    refine ⟨j, ?_⟩
    rw [List.cons_append] at hj ⊢
    rw [readValue]
    split
    · next heq => exact absurd (List.cons.inj heq).1 hquote
    · next heq => exact absurd (List.cons.inj heq).1 hbracket
    · next heq => exact absurd (List.cons.inj heq).1 hbrace
    · exact hj

theorem readsBack_null : ReadsBack null :=
  readsBack_of_readAtom (fun _ => ⟨'n', ['u', 'l', 'l'], rfl, by decide⟩)
    fun _ _ _ _ => ⟨_, rfl⟩

theorem readsBack_bool (b : Bool) : ReadsBack (bool b) := by
  cases b with
  | false =>
    exact readsBack_of_readAtom (fun _ => ⟨'f', ['a', 'l', 's', 'e'], rfl, by decide⟩)
      fun _ _ _ _ => ⟨_, rfl⟩
  | true =>
    exact readsBack_of_readAtom (fun _ => ⟨'t', ['r', 'u', 'e'], rfl, by decide⟩)
      fun _ _ _ _ => ⟨_, rfl⟩

theorem readsBack_int {n : Int} (hn : n.natAbs < 10 ^ Numeral.digitLimit) :
    ReadsBack (int n) := by
  refine readsBack_of_readAtom (fun depth => ?_) fun depth index rest hrest => ?_
  · have hdigits (m : Nat) : ∃ c cs, Nat.toDigits 10 m = c :: cs ∧ c.isDigit := by
      obtain ⟨c, cs, hcs⟩ := List.exists_cons_of_ne_nil (Nat.toDigits_ne_nil (n := m) (b := 10))
      exact ⟨c, cs, hcs, Nat.isDigit_of_mem_toDigits (b := 10) (n := m) (by decide) (by decide)
        (hcs ▸ List.mem_cons_self)⟩
    rw [writeAt]
    cases n with
    | ofNat m =>
      obtain ⟨c, cs, hcs, hc⟩ := hdigits m
      have hne (d : Char) (hd : ¬d.isDigit) : c ≠ d := fun h => hd (h ▸ hc)
      refine ⟨c, cs, by rw [Text.ofInt, chars_ofNat, hcs], ?_, hne _ (by decide),
        hne _ (by decide), hne _ (by decide), hne _ (by decide), hne _ (by decide)⟩
      simp [isSpace, hne ' ' (by decide), hne '\t' (by decide), hne '\n' (by decide),
        hne '\r' (by decide)]
    | negSucc m =>
      exact ⟨'-', Nat.toDigits 10 (m + 1), by rw [Text.ofInt, Text.chars_cons, chars_ofNat],
        by decide⟩
  · rw [writeAt]
    exact readAtom_ofInt n hn hrest

theorem chars_quotedText (t : Text) :
    chars (quotedText t) = '"' :: (chars (t.flatMap quotedPoint) ++ ['"']) := by
  rw [quotedText, List.cons_append, Text.chars_cons, Text.chars_append]
  rfl

theorem readsBack_text {t : Text} (ht : t.IsWhole) : ReadsBack (text t) := by
  have hwrite (depth : Nat) : chars (writeAt depth (text t)) =
      '"' :: (chars (t.flatMap quotedPoint) ++ ['"']) := by
    rw [writeAt, chars_quotedText]
  constructor
  · exact fun depth => ⟨'"', _, hwrite depth, by decide⟩
  · intro depth fuel index rest hrest hfuel
    rw [hwrite] at hfuel ⊢
    obtain ⟨fuel, rfl⟩ : ∃ n, fuel = n + 1 := ⟨fuel - 1, by simp at hfuel; omega⟩
    obtain ⟨j, hj⟩ : ∃ j, readText index (index + 1)
        (chars (t.flatMap quotedPoint) ++ '"' :: rest) = .ok (t, ⟨j, rest⟩) :=
      readText_quotedText ht
    refine ⟨j, ?_⟩
    rw [List.cons_append, List.append_assoc, List.singleton_append]
    simp only [readValue, hj]
    rfl

/-! ## Arrays -/

theorem chars_writeItems_nil : chars (writeItems depth []) = chars (newLine depth) ++ [']'] := by
  rw [writeItems, Text.chars_append]
  rfl

theorem chars_writeItems_cons {v : Json} {vs : List Json} :
    chars (writeItems depth (v :: vs)) = ',' :: (chars (newLine (depth + 1)) ++
      (chars (writeAt (depth + 1) v) ++ chars (writeItems depth vs))) := by
  rw [writeItems, Text.chars_append, Text.chars_append, Text.chars_append, List.append_assoc,
    List.append_assoc]
  rfl

/-- What follows the first item of an array does not go on with a number, and is not empty. -/
theorem writeItems_start (depth : Nat) (vs : List Json) (rest : List Char) :
    EndsNumber (chars (writeItems depth vs) ++ rest) ∧
      0 < (chars (writeItems depth vs)).length := by
  cases vs with
  | nil =>
    rw [chars_writeItems_nil, newLine, Text.chars_cons]
    exact ⟨endsNumber_cons (by decide), Nat.succ_pos _⟩
  | cons v vs =>
    rw [chars_writeItems_cons]
    exact ⟨endsNumber_cons (by decide), Nat.succ_pos _⟩

/-- The items of an array are read back. -/
theorem readItems_writeItems {v : Json} {vs : List Json} (hv : ReadsBack v)
    (hvs : ∀ w ∈ vs, ReadsBack w)
    (hfuel : 2 * ((chars (writeAt (depth + 1) v)).length + (chars (writeItems depth vs)).length) ≤
      fuel) :
    ∃ j, readItems fuel
        ⟨index, chars (writeAt (depth + 1) v) ++ (chars (writeItems depth vs) ++ rest)⟩ =
      .ok (v :: vs, ⟨j, rest⟩) := by
  -- The induction is on the items behind the first one. One step takes one unit of fuel and at
  -- least one character, the bracket or comma behind the item.
  induction vs generalizing v fuel index with
  | nil =>
    obtain ⟨hends, hlength⟩ := writeItems_start depth [] rest
    obtain ⟨fuel, rfl⟩ : ∃ n, fuel = n + 1 := ⟨fuel - 1, by omega⟩
    obtain ⟨j, hj⟩ := hv.read (depth + 1) fuel index _ hends (by omega)
    rw [chars_writeItems_nil, List.append_assoc, List.singleton_append] at hj ⊢
    obtain ⟨k, hk⟩ : ∃ k, Cursor.skipSpace ⟨j, chars (newLine depth) ++ ']' :: rest⟩ =
        ⟨k, ']' :: rest⟩ :=
      skipSpace_append (fun _ => isSpace_of_mem_newLine) (startsPlainly_cons rfl)
    exact ⟨k + 1, by simp only [readItems, hj, hk]⟩
  | cons w vs ih =>
    obtain ⟨hends, hlength⟩ := writeItems_start depth (w :: vs) rest
    obtain ⟨fuel, rfl⟩ : ∃ n, fuel = n + 1 := ⟨fuel - 1, by omega⟩
    obtain ⟨j, hj⟩ := hv.read (depth + 1) fuel index _ hends (by omega)
    rw [chars_writeItems_cons] at hfuel
    rw [chars_writeItems_cons, List.cons_append, List.append_assoc, List.append_assoc] at hj ⊢
    have hw : ReadsBack w := hvs w List.mem_cons_self
    obtain ⟨k, hk⟩ : ∃ k, Cursor.skipSpace ⟨j + 1, chars (newLine (depth + 1)) ++
        (chars (writeAt (depth + 1) w) ++ (chars (writeItems depth vs) ++ rest))⟩ =
          ⟨k, chars (writeAt (depth + 1) w) ++ (chars (writeItems depth vs) ++ rest)⟩ :=
      skipSpace_append (fun _ => isSpace_of_mem_newLine) (hw.startsPlainly _)
    obtain ⟨l, hl⟩ : ∃ l, readItems fuel ⟨k, chars (writeAt (depth + 1) w) ++
        (chars (writeItems depth vs) ++ rest)⟩ = .ok (w :: vs, ⟨l, rest⟩) :=
      ih hw (fun u hu => hvs u (List.mem_cons_of_mem _ hu)) (by simp at hfuel; omega)
    refine ⟨l, ?_⟩
    simp only [readItems, hj, skipSpace_cons (c := ',') rfl, hk, hl]
    rfl

theorem chars_writeAt_array {v : Json} {vs : List Json} :
    chars (writeAt depth (array (v :: vs))) = '[' :: (chars (newLine (depth + 1)) ++
      (chars (writeAt (depth + 1) v) ++ chars (writeItems depth vs))) := by
  rw [writeAt, Text.chars_append, Text.chars_append, Text.chars_append, List.append_assoc,
    List.append_assoc]
  rfl

theorem readsBack_array {items : List Json} (h : ∀ v ∈ items, ReadsBack v) :
    ReadsBack (array items) := by
  cases items with
  | nil =>
    refine ⟨fun _ => ⟨'[', [']'], rfl, by decide⟩, fun _ fuel index rest _ hfuel => ?_⟩
    obtain ⟨fuel, rfl⟩ : ∃ n, fuel = n + 1 := ⟨fuel - 1, by simp [writeAt] at hfuel; omega⟩
    exact ⟨index + 1 + 1, rfl⟩
  | cons v vs =>
    have hv : ReadsBack v := h v List.mem_cons_self
    refine ⟨fun _ => ⟨'[', _, chars_writeAt_array, by decide⟩,
      fun depth fuel index rest _ hfuel => ?_⟩
    rw [chars_writeAt_array] at hfuel ⊢
    rw [List.cons_append, List.append_assoc, List.append_assoc]
    obtain ⟨fuel, rfl⟩ : ∃ n, fuel = n + 1 := ⟨fuel - 1, by simp at hfuel; omega⟩
    obtain ⟨k, hk⟩ : ∃ k, Cursor.skipSpace ⟨index + 1, chars (newLine (depth + 1)) ++
        (chars (writeAt (depth + 1) v) ++ (chars (writeItems depth vs) ++ rest))⟩ =
          ⟨k, chars (writeAt (depth + 1) v) ++ (chars (writeItems depth vs) ++ rest)⟩ :=
      skipSpace_append (fun _ => isSpace_of_mem_newLine) (hv.startsPlainly _)
    obtain ⟨l, hl⟩ : ∃ l, readItems fuel ⟨k, chars (writeAt (depth + 1) v) ++
        (chars (writeItems depth vs) ++ rest)⟩ = .ok (v :: vs, ⟨l, rest⟩) :=
      readItems_writeItems hv (fun w hw => h w (List.mem_cons_of_mem _ hw))
        (by simp at hfuel; omega)
    -- The first item starts with no closing bracket, so the array is not taken for an empty one.
    obtain ⟨c, cs, hcs, -, hbracket, -⟩ := hv.head (depth + 1)
    refine ⟨l, ?_⟩
    simp only [readValue, hk]
    split
    · next heq =>
      rw [hcs] at heq
      exact absurd (List.cons.inj heq).1 hbracket
    · rw [hl]
      rfl

/-! ## Objects -/

theorem chars_writeFields_nil :
    chars (writeFields depth []) = chars (newLine depth) ++ ['}'] := by
  rw [writeFields, Text.chars_append]
  rfl

/-- The text of a field. -/
theorem chars_field {name : Text} {v : Json} {t : Text} :
    chars (quotedText name ++ ": " ++ writeAt (depth + 1) v ++ t) =
      '"' :: (chars (name.flatMap quotedPoint) ++ '"' :: ':' :: ' ' ::
        (chars (writeAt (depth + 1) v) ++ chars t)) := by
  rw [Text.chars_append, Text.chars_append, Text.chars_append, chars_quotedText,
    Text.chars_ofString]
  simp

theorem chars_writeFields_cons {name : Text} {v : Json} {fields : List (Text × Json)} :
    chars (writeFields depth ((name, v) :: fields)) = ',' :: (chars (newLine (depth + 1)) ++
      chars (quotedText name ++ ": " ++ writeAt (depth + 1) v ++ writeFields depth fields)) := by
  rw [writeFields]
  simp only [Text.chars_append, List.append_assoc]
  rfl

/-- What follows the first field of an object does not go on with a number, and is not empty. -/
theorem writeFields_start (depth : Nat) (fields : List (Text × Json)) (rest : List Char) :
    EndsNumber (chars (writeFields depth fields) ++ rest) ∧
      0 < (chars (writeFields depth fields)).length := by
  cases fields with
  | nil =>
    rw [chars_writeFields_nil, newLine, Text.chars_cons]
    exact ⟨endsNumber_cons (by decide), Nat.succ_pos _⟩
  | cons field fields =>
    rw [chars_writeFields_cons]
    exact ⟨endsNumber_cons (by decide), Nat.succ_pos _⟩

/-- A field with a new name comes last. -/
theorem putField_of_notMem {name : Text} {v : Json} {fields : List (Text × Json)}
    (h : name ∉ fields.map (·.1)) : putField name v fields = fields ++ [(name, v)] := by
  induction fields with
  | nil => rfl
  | cons field fields ih =>
    obtain ⟨other, w⟩ := field
    rw [List.map_cons, List.mem_cons, not_or] at h
    rw [putField, if_neg (Ne.symm h.1), ih h.2]
    rfl

theorem putField_of_nodup {name : Text} {v : Json} {before fields : List (Text × Json)}
    (h : ((before ++ (name, v) :: fields).map (·.1)).Nodup) :
    putField name v before = before ++ [(name, v)] := by
  rw [List.map_append, List.nodup_append] at h
  exact putField_of_notMem fun hmem => h.2.2 name hmem name List.mem_cons_self rfl

/-- A field is read back; a closing bracket or a comma behind it decides what follows. -/
theorem readFields_field {name : Text} {v : Json} {before : List (Text × Json)}
    {tail : List Char} (hname : name.IsWhole) (hv : ReadsBack v) (hends : EndsNumber tail)
    (hfuel : 2 * (chars (writeAt depth v)).length ≤ fuel) :
    ∃ j, ∀ k rest,
      (Cursor.skipSpace ⟨j, tail⟩ = ⟨k, '}' :: rest⟩ →
        readFields (fuel + 1) before ⟨index, '"' :: (chars (name.flatMap quotedPoint) ++
          '"' :: ':' :: ' ' :: (chars (writeAt depth v) ++ tail))⟩ =
            .ok (putField name v before, ⟨k + 1, rest⟩)) ∧
      (Cursor.skipSpace ⟨j, tail⟩ = ⟨k, ',' :: rest⟩ →
        readFields (fuel + 1) before ⟨index, '"' :: (chars (name.flatMap quotedPoint) ++
          '"' :: ':' :: ' ' :: (chars (writeAt depth v) ++ tail))⟩ =
            readFields fuel (putField name v before) (Cursor.skipSpace ⟨k + 1, rest⟩)) := by
  obtain ⟨i, hi⟩ : ∃ i, readText index (index + 1) (chars (name.flatMap quotedPoint) ++
      '"' :: ':' :: ' ' :: (chars (writeAt depth v) ++ tail)) = .ok (name, ⟨i, _⟩) :=
    readText_quotedText hname
  obtain ⟨l, hl⟩ : ∃ l, Cursor.skipSpace ⟨i + 1, [' '] ++ (chars (writeAt depth v) ++ tail)⟩ =
      ⟨l, chars (writeAt depth v) ++ tail⟩ :=
    skipSpace_append (List.forall_mem_singleton.mpr rfl) (hv.startsPlainly _)
  rw [List.singleton_append] at hl
  obtain ⟨j, hj⟩ := hv.read depth fuel l tail hends hfuel
  refine ⟨j, fun k rest => ⟨fun hk => ?_, fun hk => ?_⟩⟩ <;>
    simp only [readFields, hi, skipSpace_cons (c := ':') rfl, hl, hj, hk]

/-- The fields of an object are read back behind those that were read before. -/
theorem readFields_writeFields {name : Text} {v : Json} {before fields : List (Text × Json)}
    (hname : name.IsWhole) (hv : ReadsBack v)
    (hfields : ∀ field ∈ fields, field.1.IsWhole ∧ ReadsBack field.2)
    (hnew : ((before ++ (name, v) :: fields).map (·.1)).Nodup)
    (hfuel : 2 * (chars (quotedText name ++ ": " ++ writeAt (depth + 1) v ++
      writeFields depth fields)).length ≤ fuel) :
    ∃ j, readFields fuel before ⟨index, chars (quotedText name ++ ": " ++ writeAt (depth + 1) v ++
        writeFields depth fields) ++ rest⟩ = .ok (before ++ (name, v) :: fields, ⟨j, rest⟩) := by
  -- The induction is on the fields behind the first one. The names stay distinct while fields move
  -- to those that were read, so each field is put behind them.
  induction fields generalizing name v before fuel index with
  | nil =>
    obtain ⟨hends, -⟩ := writeFields_start depth [] rest
    rw [chars_field] at hfuel ⊢
    obtain ⟨fuel, rfl⟩ : ∃ n, fuel = n + 1 := ⟨fuel - 1, by simp at hfuel; omega⟩
    have hvalue : 2 * (chars (writeAt (depth + 1) v)).length ≤ fuel := by simp at hfuel; omega
    simp only [List.cons_append, List.append_assoc]
    obtain ⟨j, hj⟩ := readFields_field hname hv hends hvalue
    obtain ⟨k, hk⟩ : ∃ k, Cursor.skipSpace ⟨j, chars (newLine depth) ++ '}' :: rest⟩ =
        ⟨k, '}' :: rest⟩ :=
      skipSpace_append (fun _ => isSpace_of_mem_newLine) (startsPlainly_cons rfl)
    refine ⟨k + 1, ?_⟩
    have hlast := (hj k rest).1 (by rw [chars_writeFields_nil, List.append_assoc]; exact hk)
    rw [hlast, putField_of_nodup hnew]
  | cons field fields ih =>
    obtain ⟨other, w⟩ := field
    obtain ⟨hother, hw⟩ := hfields _ List.mem_cons_self
    obtain ⟨hends, -⟩ := writeFields_start depth ((other, w) :: fields) rest
    rw [chars_field] at hfuel ⊢
    obtain ⟨fuel, rfl⟩ : ∃ n, fuel = n + 1 := ⟨fuel - 1, by simp at hfuel; omega⟩
    have hvalue : 2 * (chars (writeAt (depth + 1) v)).length ≤ fuel := by simp at hfuel; omega
    have hlater : (((before ++ [(name, v)]) ++ (other, w) :: fields).map (·.1)).Nodup := by
      rw [List.append_assoc]
      exact hnew
    have hrest : 2 * (chars (quotedText other ++ ": " ++ writeAt (depth + 1) w ++
        writeFields depth fields)).length ≤ fuel := by
      rw [chars_writeFields_cons] at hfuel
      simp only [List.length_cons, List.length_append] at hfuel
      omega
    obtain ⟨j, hj⟩ := readFields_field hname hv hends hvalue
    obtain ⟨k, hk⟩ : ∃ k, Cursor.skipSpace ⟨j + 1, chars (newLine (depth + 1)) ++
        (chars (quotedText other ++ ": " ++ writeAt (depth + 1) w ++ writeFields depth fields) ++
          rest)⟩ = ⟨k, chars (quotedText other ++ ": " ++ writeAt (depth + 1) w ++
            writeFields depth fields) ++ rest⟩ :=
      skipSpace_append (fun _ => isSpace_of_mem_newLine)
        (by rw [chars_field]; exact startsPlainly_cons rfl)
    obtain ⟨l, hl⟩ := ih hother hw (fun field h => hfields field (List.mem_cons_of_mem _ h))
      hlater hrest
    have hcomma := (hj j _).2 (by
      rw [chars_writeFields_cons, List.cons_append]
      exact skipSpace_cons rfl)
    refine ⟨l, ?_⟩
    simp only [List.cons_append, List.append_assoc]
    rw [hcomma, List.append_assoc, hk, putField_of_nodup hnew, hl, List.append_assoc]
    rfl

theorem chars_writeAt_object {name : Text} {v : Json} {fields : List (Text × Json)} :
    chars (writeAt depth (object ((name, v) :: fields))) =
      '{' :: (chars (newLine (depth + 1)) ++
        chars (quotedText name ++ ": " ++ writeAt (depth + 1) v ++ writeFields depth fields)) := by
  rw [writeAt]
  simp only [Text.chars_append, List.append_assoc]
  rfl

theorem readsBack_object {fields : List (Text × Json)} (hnew : (fields.map (·.1)).Nodup)
    (h : ∀ field ∈ fields, field.1.IsWhole ∧ ReadsBack field.2) : ReadsBack (object fields) := by
  cases fields with
  | nil =>
    refine ⟨fun _ => ⟨'{', ['}'], rfl, by decide⟩, fun _ fuel index rest _ hfuel => ?_⟩
    obtain ⟨fuel, rfl⟩ : ∃ n, fuel = n + 1 := ⟨fuel - 1, by simp [writeAt] at hfuel; omega⟩
    exact ⟨index + 1 + 1, rfl⟩
  | cons field fields =>
    obtain ⟨name, v⟩ := field
    obtain ⟨hname, hv⟩ := h _ List.mem_cons_self
    refine ⟨fun _ => ⟨'{', _, chars_writeAt_object, by decide⟩,
      fun depth fuel index rest _ hfuel => ?_⟩
    rw [chars_writeAt_object] at hfuel ⊢
    rw [List.cons_append, List.append_assoc]
    obtain ⟨fuel, rfl⟩ : ∃ n, fuel = n + 1 := ⟨fuel - 1, by simp at hfuel; omega⟩
    have hinner : 2 * (chars (quotedText name ++ ": " ++ writeAt (depth + 1) v ++
        writeFields depth fields)).length ≤ fuel := by
      simp only [List.length_cons, List.length_append] at hfuel
      omega
    obtain ⟨k, hk⟩ : ∃ k, Cursor.skipSpace ⟨index + 1, chars (newLine (depth + 1)) ++
        (chars (quotedText name ++ ": " ++ writeAt (depth + 1) v ++ writeFields depth fields) ++
          rest)⟩ = ⟨k, chars (quotedText name ++ ": " ++ writeAt (depth + 1) v ++
            writeFields depth fields) ++ rest⟩ :=
      skipSpace_append (fun _ => isSpace_of_mem_newLine)
        (by rw [chars_field]; exact startsPlainly_cons rfl)
    obtain ⟨l, hl⟩ : ∃ l, readFields fuel [] ⟨k, chars (quotedText name ++ ": " ++
        writeAt (depth + 1) v ++ writeFields depth fields) ++ rest⟩ =
          .ok ([] ++ (name, v) :: fields, ⟨l, rest⟩) :=
      readFields_writeFields hname hv (fun field hf => h field (List.mem_cons_of_mem _ hf)) hnew
        hinner
    refine ⟨l, ?_⟩
    simp only [readValue, hk]
    split
    · next heq =>
      rw [chars_field] at heq
      exact absurd (List.cons.inj heq).1 (by decide)
    · rw [hl]
      rfl

/-! ## Documents -/

mutual

theorem readsBack_of_isReadable {v : Json} (h : IsReadable v) : ReadsBack v := by
  match v with
  | null => exact readsBack_null
  | bool b => exact readsBack_bool b
  | int n => exact readsBack_int h
  | double x => exact h.elim
  | text t => exact readsBack_text h
  | array items => exact readsBack_array (readsBack_of_itemsReadable h)
  | object fields => exact readsBack_object h.1 (readsBack_of_fieldsReadable h.2)

theorem readsBack_of_itemsReadable {items : List Json} (h : ItemsReadable items) :
    ∀ v ∈ items, ReadsBack v := by
  match items with
  | [] => exact List.forall_mem_nil _
  | v :: vs =>
    exact List.forall_mem_cons.mpr ⟨readsBack_of_isReadable h.1, readsBack_of_itemsReadable h.2⟩

theorem readsBack_of_fieldsReadable {fields : List (Text × Json)} (h : FieldsReadable fields) :
    ∀ field ∈ fields, field.1.IsWhole ∧ ReadsBack field.2 := by
  match fields with
  | [] => exact List.forall_mem_nil _
  | (name, v) :: rest =>
    exact List.forall_mem_cons.mpr ⟨⟨h.1, readsBack_of_isReadable h.2.1⟩,
      readsBack_of_fieldsReadable h.2.2⟩

end

/-- A document is read from its text, whatever white space stands behind it. -/
theorem read_write {v : Json} {ws : List Char} (h : IsReadable v) (hws : ∀ c ∈ ws, isSpace c) :
    read (chars (write v) ++ ws) = .ok v := by
  have hv : ReadsBack v := readsBack_of_isReadable h
  -- Only white space follows the document, and it ends a number.
  have hends : EndsNumber ws := by
    intro c hc
    have hspace := hws c (List.mem_of_mem_head? hc)
    simp only [isSpace, Bool.or_eq_true, decide_eq_true_eq] at hspace
    rcases hspace with ((rfl | rfl) | rfl) | rfl <;> decide
  have hmark : (chars (write v) ++ ws).head? ≠ some '\uFEFF' := by
    obtain ⟨c, cs, hcs, -, -, hc⟩ := hv.head 0
    rw [write, hcs]
    exact fun heq => hc (Option.some.inj heq)
  obtain ⟨i, hi⟩ : ∃ i, Cursor.skipSpace ⟨0, chars (write v) ++ ws⟩ =
      ⟨i, chars (write v) ++ ws⟩ :=
    skipSpace_of_startsPlainly (hv.startsPlainly 0)
  obtain ⟨j, hj⟩ := hv.read 0 (2 * (chars (write v) ++ ws).length + 2) i ws hends
    (by rw [List.length_append, write]; omega)
  obtain ⟨k, hk⟩ : ∃ k, Cursor.skipSpace ⟨j, ws ++ []⟩ = ⟨k, []⟩ := skipSpace_append hws nofun
  rw [List.append_nil] at hk
  rw [← write] at hj
  simp only [read, if_neg hmark, hi, hj, bind, Except.bind, hk]
  rfl

end Json

end StyleImport
