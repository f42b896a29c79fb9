import StyleImport.Proofs.Disk.Asked

/-!
# Files with other bytes

Two disks may differ in nothing but the bytes of one file. All walks on them end alike, and so do
all questions about what kind of thing stands at a path. Only what is read from this file is
different.

## Main definitions

- `Disk.Rewrites`: from one disk to another one, a single file gets other bytes.

## Main statements

- `Disk.rewrites_put`: writing a file anew.
- `Disk.Rewrites.walk_eq`, `Disk.Rewrites.locate_eq`: paths lead to the same places.
- `Disk.Rewrites.statusBy_eq_or`: what stands at a path on the two disks.
- `Disk.Rewrites.realPath_eq`, `Disk.Rewrites.existingPath_eq`: real paths stay the same.
-/

namespace StyleImport

namespace Disk

variable {d d' : Disk} {place l : Location} {n : Nat} {names : List Text} {followLast : Bool}

/-- From the first disk to the second one, the file at a place gets other bytes, and all else stays
the same. -/
structure Rewrites (place : Location) (d d' : Disk) : Prop where
  /-- Nothing goes away. -/
  keeps : d.Keeps d'
  /-- Nothing is added. -/
  kept : d'.Keeps d
  /-- The same stands at every other place. -/
  entry : ∀ l, l ≠ place → d'.entry? l = d.entry? l

/-- Writing a file anew. -/
theorem rewrites_put {bytes : List UInt8} (h : d.entry? place = some (.file bytes))
    (bytes' : List UInt8) : Rewrites place d (d.put place (.file bytes')) := by
  have hgrows : d.Grows (d.put place (.file bytes')) := by
    refine grows_put bytes' fun e he => ?_
    cases h.symm.trans he
    rfl
  have hentry : ∀ l, l ≠ place → Disk.entry? (d.put place (.file bytes')) l = d.entry? l := by
    intro l hl
    by_cases hnil : l = []
    · rw [hnil, entry?_nil, entry?_nil]
    · rw [entry?_put d place _ hnil, if_neg hl]
  refine ⟨hgrows.toKeeps, ⟨rfl, hgrows.oldDirectory, hgrows.oldLink, fun l old hl => ?_⟩, hentry⟩
  by_cases hplace : l = place
  · exact ⟨bytes, hplace ▸ h⟩
  · exact ⟨old, (hentry l hplace).symm.trans hl⟩

namespace Rewrites

theorem grows (h : Rewrites place d d') : d.Grows d' := ⟨h.keeps, h.kept.directory, h.kept.link⟩

theorem missing (h : Rewrites place d d') (hl : d.entry? l = none) : d'.entry? l = none := by
  cases he : d'.entry? l with
  | none => rfl
  | some e =>
    obtain ⟨bytes, rfl⟩ := h.grows.exists_bytes_of_new hl he
    obtain ⟨bytes', hfile⟩ := h.kept.file l bytes he
    cases hl.symm.trans hfile

/-! ## Walks -/

/-- A walk asks for the kinds of things on its way only. -/
theorem walk_eq (h : Rewrites place d d') :
    d'.walk followLast n l names = d.walk followLast n l names := by
  have hends : EndsGrown d d' (d.walk followLast n l names) (d'.walk followLast n l names) :=
    endsGrown_walk h.grows
  generalize d.walk followLast n l names = r at hends ⊢
  generalize d'.walk followLast n l names = r' at hends ⊢
  cases hends with
  | same => rfl
  | reaches hold hnew => cases (h.missing hold).symm.trans hnew
  | blocked hold hnew => cases (h.missing hold).symm.trans hnew

/-- A path leads to the same place. -/
theorem locate_eq (h : Rewrites place d d') (followLast : Bool) (path : Text) :
    d'.locate followLast path = d.locate followLast path := by
  rw [Disk.locate_eq, Disk.locate_eq, start_congr h.keeps.here]
  congr 1
  funext here
  rw [h.walk_eq]

/-! ## What stands at a path -/

/-- At a path the same is seen on both disks, or the file at the place with other bytes. -/
theorem statusBy_eq_or (h : Rewrites place d d') (followLast : Bool) (path : Text) :
    d'.statusBy followLast path = d.statusBy followLast path ∨
      ∃ bytes bytes', d.statusBy followLast path = .ok (place, .file bytes) ∧
        d'.statusBy followLast path = .ok (place, .file bytes') := by
  unfold statusBy
  rw [h.locate_eq]
  cases d.locate followLast path with
  | error fault => exact .inl rfl
  | ok landing =>
    cases landing with
    | free l => exact .inl rfl
    | occupied l =>
      dsimp only
      -- The path leads to the same place on both disks; what is seen differs at one place only.
      by_cases hl : l = place
      · subst hl
        cases he : d.entry? l with
        | none =>
          rw [h.missing he]
          exact .inl rfl
        | some e =>
          cases e with
          | file bytes =>
            obtain ⟨bytes', he'⟩ := h.keeps.file l bytes he
            rw [he']
            exact .inr ⟨bytes, bytes', rfl, rfl⟩
          | directory =>
            rw [h.keeps.directory l he]
            exact .inl rfl
          | link target =>
            rw [h.keeps.link l target he]
            exact .inl rfl
      · rw [h.entry l hl]
        exact .inl rfl

/-- The same is seen at a path that does not lead to the place. -/
theorem status_eq (h : Rewrites place d d') {path : Text}
    (hout : ∀ e, d.status path ≠ .ok (place, e)) : d'.status path = d.status path := by
  rcases h.statusBy_eq_or true path with hsame | ⟨bytes, bytes', hold, -⟩
  · exact hsame
  · exact absurd hold (hout _)

theorem isDirectory_eq (h : Rewrites place d d') (path : Path) :
    d'.isDirectory path = d.isDirectory path := by
  unfold isDirectory isAt status
  rcases h.statusBy_eq_or true path.toText with hsame | ⟨bytes, bytes', hold, hnew⟩
  · rw [hsame]
  · rw [hold, hnew]
    rfl

/-! ## Real paths -/

theorem linkAt_eq (h : Rewrites place d d') (strict : Bool) (path : Path) :
    d'.linkAt strict path = d.linkAt strict path := by
  unfold linkAt linkStatus
  rcases h.statusBy_eq_or false path.toText with hsame | ⟨bytes, bytes', hold, hnew⟩
  · rw [hsame]
  · rw [hold, hnew]

/-- A path is worked out alike. -/
theorem workOut_eq (h : Rewrites place d d') (strict : Bool) (path : Path) :
    d'.workOut strict path = d.workOut strict path :=
  workOut_congr h.keeps.here (h.linkAt_eq strict) path

theorem existingPath_eq (h : Rewrites place d d') (path : Path) :
    d'.existingPath path = d.existingPath path := h.workOut_eq true path

theorem realPath_eq (h : Rewrites place d d') (path : Path) :
    d'.realPath path = d.realPath path := by
  unfold realPath
  rw [h.workOut_eq]
  cases d.workOut false path with
  | error fault => rfl
  | ok real =>
    dsimp only
    unfold status
    rcases h.statusBy_eq_or true real.toText with hsame | ⟨bytes, bytes', hold, hnew⟩
    · rw [hsame]
    · rw [hold, hnew]

end Rewrites

end Disk

end StyleImport
