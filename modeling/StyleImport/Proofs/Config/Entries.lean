import Mathlib.Data.List.Nodup
import StyleImport.Config.Settings

/-!
# Entries under names

What is found under a name after entries were put over others. Keys that are no texts never matter
for it. Where the same name stands twice among the upper entries both of them count, as mappings are
joined; so the upper entries are asked to have distinct names, as all entries have that were put one
after the other.

## Main definitions

- `Value.names`: the keys that are texts.
- `Settings.part?`: the value of a part of a section.

## Main statements

- `Settings.get?_overlay`: what is found under a name after entries were put over others.
- `Settings.part?_overlayValue`: the parts of a section are decided one by one.
-/

namespace StyleImport

namespace Value

variable {k v : Value} {name : Text} {es : List (Value × Value)}

/-- A text is the same key as nothing but itself. -/
theorem sameKey_text_iff : sameKey k (.text name) = true ↔ k = .text name := by
  cases k <;> simp [sameKey, asInt?]

/-- Keys that are the same one are the same text or no texts at all. -/
theorem eq_text_iff_of_sameKey {l : Value} (h : sameKey k l = true) :
    k = .text name ↔ l = .text name := by
  constructor
  · rintro rfl
    cases l <;> simp_all [sameKey, asInt?]
  · rintro rfl
    exact sameKey_text_iff.mp h

theorem eq_map_of_entries?_eq_some (h : v.entries? = some es) : v = .map es := by
  cases v with
  | map es' => exact congrArg _ (Option.some.inj h)
  | _ => cases h

theorem get?_nil : get? k [] = none := rfl

theorem get?_cons_self : get? (.text name) ((.text name, v) :: es) = some v := by
  simp [get?, sameKey_text_iff]

theorem get?_cons_of_ne (h : k ≠ .text name) :
    get? (.text name) ((k, v) :: es) = get? (.text name) es := by
  have hsame : sameKey k (.text name) = false := by
    rwa [← Bool.not_eq_true, sameKey_text_iff]
  simp [get?, hsame]

/-- An entry that was put is found. -/
theorem get?_put_self : get? (.text name) (put (.text name) v es) = some v := by
  induction es with
  | nil => exact get?_cons_self
  | cons e es ih =>
    obtain ⟨l, w⟩ := e
    simp only [put]
    split
    · next hsame =>
      obtain rfl := sameKey_text_iff.mp hsame
      exact get?_cons_self
    · next hsame =>
      rw [get?_cons_of_ne (mt sameKey_text_iff.mpr hsame)]
      exact ih

/-- Under other names nothing changes when an entry is put. -/
theorem get?_put_of_ne (h : k ≠ .text name) :
    get? (.text name) (put k v es) = get? (.text name) es := by
  induction es with
  | nil => exact get?_cons_of_ne h
  | cons e es ih =>
    obtain ⟨l, w⟩ := e
    simp only [put]
    split
    · next hsame =>
      have hl : l ≠ .text name := mt (eq_text_iff_of_sameKey hsame).mp h
      rw [get?_cons_of_ne hl, get?_cons_of_ne hl]
    · by_cases hl : l = .text name
      · subst hl
        rw [get?_cons_self, get?_cons_self]
      · rw [get?_cons_of_ne hl, get?_cons_of_ne hl, ih]

/-- The keys that are texts. -/
def names (es : List (Value × Value)) : List Text := es.filterMap fun e => e.1.text?

theorem names_cons_text : names ((.text name, v) :: es) = name :: names es := rfl

theorem names_cons_of_text?_eq_none (h : k.text? = none) : names ((k, v) :: es) = names es := by
  simp [names, h]

/-- An entry adds its own name at most. -/
theorem names_sublist_cons (e : Value × Value) : (names es).Sublist (names (e :: es)) :=
  (List.sublist_cons_self e es).filterMap _

theorem get?_eq_none_iff : get? (.text name) es = none ↔ name ∉ names es := by
  induction es with
  | nil => simp [get?, names]
  | cons e es ih =>
    obtain ⟨l, w⟩ := e
    cases l with
    | text other =>
      rw [names_cons_text, List.mem_cons, not_or, ← ih]
      by_cases hname : name = other
      · simp [hname, get?_cons_self]
      · rw [get?_cons_of_ne (by simpa using Ne.symm hname)]
        simp [hname]
    | _ => rw [get?_cons_of_ne (by simp), ih, names_cons_of_text?_eq_none rfl]

/-- The names after an entry was put: a new one comes last. -/
theorem names_put_text :
    names (put (.text name) v es) = if name ∈ names es then names es else names es ++ [name] := by
  induction es with
  | nil => rfl
  | cons e es ih =>
    obtain ⟨l, w⟩ := e
    simp only [put]
    split
    · next hsame =>
      obtain rfl := sameKey_text_iff.mp hsame
      simp [names_cons_text]
    · next hsame =>
      cases l with
      | text other =>
        have hne : name ≠ other := fun h => hsame (sameKey_text_iff.mpr (h ▸ rfl))
        simp only [names_cons_text, ih, List.mem_cons, hne, false_or]
        split <;> rfl
      | _ => exact ih

/-- Putting an entry whose key is no text leaves the names as they are. -/
theorem names_put_of_text?_eq_none (h : k.text? = none) : names (put k v es) = names es := by
  induction es with
  | nil => exact names_cons_of_text?_eq_none h
  | cons e es ih =>
    simp only [put]
    split
    · simp only [names, List.filterMap_cons]
    · simp only [names, List.filterMap_cons] at ih ⊢
      rw [ih]

/-- No other name comes up when an entry is put. -/
theorem mem_names_put {n : Text} (h : n ∈ names (put k v es)) : n ∈ names es ∨ k = .text n := by
  cases k with
  | text name =>
    rw [names_put_text] at h
    split at h
    · exact .inl h
    · simpa [eq_comm] using h
  | _ => exact .inl (by rwa [names_put_of_text?_eq_none rfl] at h)

/-- Distinct names stay distinct when an entry is put. -/
theorem nodup_names_put (h : (names es).Nodup) : (names (put k v es)).Nodup := by
  cases k with
  | text name =>
    rw [names_put_text]
    split
    · exact h
    · next hnew => simpa using h.concat hnew
  | _ => rwa [names_put_of_text?_eq_none rfl]

/-- Of entries with distinct names that are put one after the other each one is found. -/
theorem get?_putAll {new : List (Value × Value)} (h : (names new).Nodup) :
    get? (.text name) (putAll new es) = (get? (.text name) new).or (get? (.text name) es) := by
  unfold putAll
  induction new generalizing es with
  | nil => rfl
  | cons e new ih =>
    obtain ⟨l, w⟩ := e
    rw [List.foldl_cons, ih (h.sublist (names_sublist_cons _))]
    by_cases hl : l = .text name
    · subst hl
      -- The names are distinct, so no later entry is put in the place of this one.
      have hnew : get? (.text name) new = none :=
        get?_eq_none_iff.mpr (List.nodup_cons.mp (names_cons_text ▸ h)).1
      rw [get?_put_self, get?_cons_self, hnew]
      rfl
    · rw [get?_put_of_ne hl, get?_cons_of_ne hl]

theorem nodup_names_putAll {new : List (Value × Value)} (h : (names es).Nodup) :
    (names (putAll new es)).Nodup := by
  unfold putAll
  induction new generalizing es with
  | nil => exact h
  | cons e new ih => exact ih (nodup_names_put h)

end Value

namespace Settings

open Value

variable {base new : Entries} {name : Text}

theorem overlay_cons (k v : Value) :
    overlay base ((k, v) :: new) =
      overlay (put k (overlayValue (get? k base) v) base) new := by
  rw [overlay]

theorem mem_names_overlay (h : name ∈ names (overlay base new)) :
    name ∈ names base ∨ name ∈ names new := by
  induction new generalizing base with
  | nil => rw [overlay] at h; exact .inl h
  | cons e new ih =>
    obtain ⟨k, v⟩ := e
    rw [overlay_cons] at h
    rcases ih h with h | h
    · rcases mem_names_put h with h | rfl
      · exact .inl h
      · exact .inr List.mem_cons_self
    · exact .inr ((names_sublist_cons _).subset h)

theorem nodup_names_overlay (h : (names base).Nodup) : (names (overlay base new)).Nodup := by
  induction new generalizing base with
  | nil => rwa [overlay]
  | cons e new ih =>
    obtain ⟨k, v⟩ := e
    rw [overlay_cons]
    exact ih (nodup_names_put h)

/-- A value that is no mapping replaces what it is put over. -/
theorem overlayValue_of_entries?_eq_none {v : Value} (o : Option Value) (h : v.entries? = none) :
    overlayValue o v = v := by
  unfold overlayValue
  split
  · cases h
  · rfl

theorem get?_overlay_of_notMem (h : name ∉ names new) :
    get? (.text name) (overlay base new) = get? (.text name) base := by
  induction new generalizing base with
  | nil => rw [overlay]
  | cons e new ih =>
    obtain ⟨k, v⟩ := e
    have hk : k ≠ .text name := by
      rintro rfl
      simp [names_cons_text] at h
    have hnew : name ∉ names new := fun hmem => h ((names_sublist_cons _).subset hmem)
    rw [overlay_cons, ih hnew, get?_put_of_ne hk]

/-- What is found under a name after entries were put over others: what the upper ones have under
it, put over what the lower ones have. -/
theorem get?_overlay (h : (names new).Nodup) :
    get? (.text name) (overlay base new) =
      match get? (.text name) new with
      | some v => some (overlayValue (get? (.text name) base) v)
      | none => get? (.text name) base := by
  induction new generalizing base with
  | nil => rw [overlay]; rfl
  | cons e new ih =>
    obtain ⟨k, v⟩ := e
    rw [overlay_cons]
    by_cases hk : k = .text name
    · subst hk
      -- What was just put under the name stays, as the name comes no second time.
      have hnew : name ∉ names new := (List.nodup_cons.mp (names_cons_text ▸ h)).1
      rw [get?_overlay_of_notMem hnew, get?_put_self, get?_cons_self]
    · rw [ih (h.sublist (names_sublist_cons _)), get?_put_of_ne hk, get?_cons_of_ne hk]

/-- A mapping over a mapping joins both. -/
theorem overlayValue_map (o : Option Value) (es : Entries) :
    overlayValue o (.map es) =
      .map (match o with
        | some (.map base) => overlay base es
        | _ => es) := by
  unfold overlayValue
  split
  · next base new hsome hmap =>
    obtain rfl := Value.map.inj hmap
    rfl
  · next o v hne =>
    split
    · next base => exact absurd rfl (hne base es rfl)
    · rfl

/-- Putting a value over another one changes neither whether it is a mapping nor what it is read
as, unless mappings can be read. -/
theorem entries?_overlayValue_isSome (o : Option Value) (v : Value) :
    (overlayValue o v).entries?.isSome = v.entries?.isSome := by
  cases h : v.entries? with
  | none => rw [overlayValue_of_entries?_eq_none o h, h]
  | some es =>
    obtain rfl := eq_map_of_entries?_eq_some h
    rw [overlayValue_map]
    rfl

/-- The value that a part of a section has, if the section is a mapping. -/
def part? (section_ : Option Value) (name : Text) : Option Value :=
  (section_.bind entries?).bind (get? (.text name))

theorem part?_map (es : Entries) : part? (some (.map es)) name = get? (.text name) es := rfl

/-- The parts of a section are decided one by one. -/
theorem part?_overlayValue (o : Option Value) {es : Entries} (h : (names es).Nodup) :
    part? (some (overlayValue o (.map es))) name =
      match get? (.text name) es with
      | some v => some (overlayValue (part? o name) v)
      | none => part? o name := by
  rw [overlayValue_map, part?_map]
  split
  · exact get?_overlay h
  · next hmap =>
    -- What is no mapping has no parts, and leaves the upper parts as they are.
    have hnone : part? o name = none := by
      cases o with
      | none => rfl
      | some w => cases w <;> first | rfl | exact absurd rfl (hmap _)
    have hover (v : Value) : overlayValue none v = v := by
      cases v <;> rfl
    rw [hnone]
    split
    · next v hv => rw [hv, hover]
    · next hv => exact hv

/-- A value that is read in some way. Where there is none a default counts. -/
def readOr? {α : Type} (read : Value → Option α) (default : α) : Option Value → Option α
  | none => some default
  | some v => read v

section

variable {α : Type} {read : Value → Option α} {default : α}

theorem read_overlayValue (hread : ∀ es, read (.map es) = none) (o : Option Value) (v : Value) :
    read (overlayValue o v) = read v := by
  cases h : v.entries? with
  | none => rw [overlayValue_of_entries?_eq_none o h]
  | some es =>
    obtain rfl := eq_map_of_entries?_eq_some h
    rw [overlayValue_map, hread, hread]

/-- Where no mapping can be read, of two entries under a name the upper one counts. -/
theorem readOr?_overlay (hread : ∀ es, read (.map es) = none) (h : (names new).Nodup) :
    readOr? read default (get? (.text name) (overlay base new)) =
      readOr? read default ((get? (.text name) new).or (get? (.text name) base)) := by
  rw [get?_overlay h]
  cases get? (.text name) new with
  | none => rfl
  | some v => exact read_overlayValue hread _ v

/-- Where no mapping can be read, of two sections the upper one counts for each part that it
has. -/
theorem readOr?_part?_overlay {name sectionName : Text} (hread : ∀ es, read (.map es) = none)
    (h : (names new).Nodup)
    (hsection : ∀ v, get? (.text sectionName) new = some v →
      ∃ es, v = .map es ∧ (names es).Nodup) :
    readOr? read default (part? (get? (.text sectionName) (overlay base new)) name) =
      readOr? read default ((part? (get? (.text sectionName) new) name).or
        (part? (get? (.text sectionName) base) name)) := by
  rw [get?_overlay h]
  cases hnew : get? (.text sectionName) new with
  | none => rfl
  | some v =>
    obtain ⟨es, rfl, hes⟩ := hsection v hnew
    dsimp only
    rw [part?_overlayValue _ hes, part?_map]
    cases get? (.text name) es with
    | none => rfl
    | some v => exact read_overlayValue hread _ v

end

end Settings

end StyleImport
