import StyleImport.Disk.Query
import StyleImport.Proofs.Path

/-!
# Trees

A disk is a list of places with what stands there. On a disk of a system every place but the root
lies in a directory, names are short and hold no slash, and whatever is written down as a path can
be handed to the system. Writing files keeps all directories and links where they are.

## Main definitions

- `Disk.IsSpeakable`: the texts that can be handed to the system.
- `Disk.IsTree`: the disks of systems.
- `Disk.restrict`: a disk without some of its places.
- `Disk.Keeps`: from one disk to another one, everything stays what it is.
- `Disk.Grows`: from one disk to another one, files are written and nothing else happens.
-/

namespace StyleImport

namespace Disk

/-! ## Texts that can be handed to the system -/

/-- The texts without null characters and without code points that have no bytes. -/
def IsSpeakable (t : Text) : Prop := ∀ c ∈ t, hasNoBytes c = false ∧ c ≠ .scalar '\x00'

instance (t : Text) : Decidable (IsSpeakable t) := inferInstanceAs (Decidable (∀ c ∈ t, _))

theorem firstWithoutBytes_eq_none_iff {i : Nat} {t : Text} :
    firstWithoutBytes i t = none ↔ ∀ c ∈ t, hasNoBytes c = false := by
  induction t generalizing i with
  | nil => simp [firstWithoutBytes]
  | cons c t ih =>
    rw [firstWithoutBytes, List.forall_mem_cons]
    by_cases hc : hasNoBytes c
    · simp [hc]
    · simp [hc, ih]

theorem unspeakable?_eq_none_iff {t : Text} : unspeakable? t = none ↔ IsSpeakable t := by
  unfold unspeakable? IsSpeakable
  constructor
  · intro h c hc
    split at h
    · cases h
    · next hbytes =>
      refine ⟨firstWithoutBytes_eq_none_iff.mp hbytes c hc, ?_⟩
      rintro rfl
      simp [hc] at h
  · intro h
    rw [firstWithoutBytes_eq_none_iff.mpr fun c hc => (h c hc).1]
    have hnull : CodePoint.scalar '\x00' ∉ t := fun hc => (h _ hc).2 rfl
    simp [hnull]

theorem isSpeakable_append {s t : Text} : IsSpeakable (s ++ t) ↔ IsSpeakable s ∧ IsSpeakable t :=
  List.forall_mem_append

theorem IsSpeakable.subset {s t : Text} (h : IsSpeakable t) (hs : ∀ c ∈ s, c ∈ t) : IsSpeakable s :=
  fun c hc => h c (hs c hc)

theorem isSpeakable_join {names : List Text} (h : ∀ name ∈ names, IsSpeakable name) :
    IsSpeakable (Text.join "/" names) := by
  induction names with
  | nil => exact fun c hc => by cases hc
  | cons name rest ih =>
    rw [List.forall_mem_cons] at h
    cases rest with
    | nil => simpa using h.1
    | cons second rest =>
      rw [Text.join_cons_cons, isSpeakable_append, isSpeakable_append]
      exact ⟨⟨h.1, by decide⟩, ih h.2⟩

/-- A path can be handed to the system if its names can. -/
theorem isSpeakable_toText_of_forall {p : Path} (h : ∀ name ∈ p.parts, IsSpeakable name) :
    IsSpeakable p.toText := by
  have hanchor : IsSpeakable (Path.Anchor.text p.anchor) := by
    cases p.anchor <;> decide
  unfold Path.toText
  dsimp only
  split
  · decide
  · exact isSpeakable_append.mpr ⟨hanchor, isSpeakable_join h⟩

/-- A proper path can be handed to the system just if its names can. -/
theorem isSpeakable_toText {p : Path} (hp : p.IsProper) :
    IsSpeakable p.toText ↔ ∀ name ∈ p.parts, IsSpeakable name := by
  constructor
  · intro h name hname
    obtain ⟨blanks, -, hsplit⟩ := Path.split_toText hp
    have hmem : name ∈ Text.split (.scalar '/') p.toText := by
      rw [hsplit]
      exact List.mem_append_right blanks hname
    exact h.subset fun c hc => Text.mem_of_mem_split hmem hc
  · exact isSpeakable_toText_of_forall

theorem isSpeakable_partsOf {t : Text} (h : IsSpeakable t) :
    ∀ name ∈ Path.partsOf t, IsSpeakable name := by
  intro name hname
  have hmem : name ∈ Text.split (.scalar '/') t := (List.mem_filter.mp hname).1
  exact h.subset fun c hc => Text.mem_of_mem_split hmem hc

/-! ## Disks of systems -/

/-- The names that entries of directories have. -/
def IsEntryName (name : Text) : Prop :=
  Path.IsName name ∧ name ≠ ".." ∧ byteCount name ≤ nameLimit ∧ IsSpeakable name

instance (name : Text) : Decidable (IsEntryName name) := inferInstanceAs (Decidable (_ ∧ _ ∧ _ ∧ _))

/-- Tells whether the target of a link, if this is one, can be handed to the system. -/
def HasSpeakableTarget : Entry → Prop
  | .link target => IsSpeakable target
  | _ => True

instance : (e : Entry) → Decidable (HasSpeakableTarget e)
  | .link target => inferInstanceAs (Decidable (IsSpeakable target))
  | .file _ => isTrue trivial
  | .directory => isTrue trivial

/-- The disks of systems: each entry lies in a directory, all names are names of entries, and the
working directory is a directory. -/
structure IsTree (d : Disk) : Prop where
  /-- Every entry lies in a directory. -/
  parent : ∀ x ∈ d.entries, d.entry? x.1.dropLast = some .directory
  /-- All names are names of entries. -/
  names : ∀ x ∈ d.entries, ∀ name ∈ x.1, IsEntryName name
  /-- The targets of links can be handed to the system. -/
  targets : ∀ x ∈ d.entries, HasSpeakableTarget x.2
  /-- The working directory is a directory. -/
  here : ∀ l ∈ d.workingDirectory, d.entry? l = some .directory

theorem entry?_nil (d : Disk) : d.entry? [] = some .directory := if_pos rfl

theorem mem_entries_of_entry?_eq {d : Disk} {l : Location} {e : Entry} (hl : l ≠ [])
    (h : d.entry? l = some e) : (l, e) ∈ d.entries := by
  unfold entry? at h
  rw [if_neg hl] at h
  obtain ⟨x, hfind, rfl⟩ := Option.map_eq_some_iff.mp h
  have hx : x.1 = l := by simpa using List.find?_some hfind
  rw [← hx]
  exact List.mem_of_find?_eq_some hfind

theorem IsTree.entry?_dropLast {d : Disk} (hd : d.IsTree) {l : Location} {e : Entry}
    (h : d.entry? l = some e) : d.entry? l.dropLast = some .directory := by
  by_cases hl : l = []
  · rw [hl]
    exact entry?_nil d
  · exact hd.parent _ (mem_entries_of_entry?_eq hl h)

theorem IsTree.isEntryName {d : Disk} (hd : d.IsTree) {l : Location} {e : Entry}
    (h : d.entry? l = some e) : ∀ name ∈ l, IsEntryName name := by
  by_cases hl : l = []
  · rw [hl]
    simp
  · exact hd.names _ (mem_entries_of_entry?_eq hl h)

theorem IsTree.isSpeakable_target {d : Disk} (hd : d.IsTree) {l : Location} {target : Text}
    (h : d.entry? l = some (.link target)) : IsSpeakable target := by
  have hl : l ≠ [] := by
    rintro rfl
    simp [entry?_nil] at h
  exact hd.targets _ (mem_entries_of_entry?_eq hl h)

/-- What stands at the places after an entry is put at one of them. -/
theorem entry?_put (d : Disk) (l : Location) (e : Entry) {m : Location} (hm : m ≠ []) :
    entry? (d.put l e) m = if m = l then some e else d.entry? m := by
  unfold entry?
  simp only [put, if_neg hm, List.find?_append]
  by_cases hml : m = l
  · have hgone : (d.entries.filter (·.1 ≠ l)).find? (·.1 = m) = none := by
      rw [List.find?_eq_none]
      intro x hx
      simpa [hml] using (List.mem_filter.mp hx).2
    rw [hgone]
    simp [hml]
  · have hsame : (d.entries.filter (·.1 ≠ l)).find? (·.1 = m) = d.entries.find? (·.1 = m) := by
      rw [List.find?_filter]
      congr 1
      funext x
      by_cases hx : x.1 = m
      · simp [hx, hml]
      · simp [hx]
    rw [hsame]
    simp [hml, Ne.symm hml]

/-- A tree stays one when something is put into one of its directories, unless a directory is
replaced. -/
theorem IsTree.put {d : Disk} {l : Location} {e : Entry} (hd : d.IsTree) (hl : l ≠ [])
    (hparent : d.entry? l.dropLast = some .directory) (hnames : ∀ name ∈ l, IsEntryName name)
    (hold : d.entry? l ≠ some .directory) (htarget : HasSpeakableTarget e) :
    (d.put l e).IsTree := by
  -- No directory goes away, so every entry still lies in one.
  have hdirectory : ∀ m, d.entry? m = some .directory →
      entry? (d.put l e) m = some .directory := by
    intro m hm
    by_cases hnil : m = []
    · rw [hnil]
      exact entry?_nil _
    · have hml : m ≠ l := by
        rintro rfl
        exact hold hm
      rw [entry?_put d l e hnil, if_neg hml, hm]
  have hmem : ∀ x ∈ (d.put l e).entries, x ∈ d.entries ∨ x = (l, e) := by
    intro x hx
    rcases List.mem_append.mp hx with h | h
    · exact .inl (List.mem_filter.mp h).1
    · exact .inr (List.mem_singleton.mp h)
  constructor
  · intro x hx
    rcases hmem x hx with h | rfl
    · exact hdirectory _ (hd.parent x h)
    · exact hdirectory _ hparent
  · intro x hx
    rcases hmem x hx with h | rfl
    · exact hd.names x h
    · exact hnames
  · intro x hx
    rcases hmem x hx with h | rfl
    · exact hd.targets x h
    · exact htarget
  · exact fun m hm => hdirectory m (hd.here m hm)

/-- The disk without the places that are not kept. -/
def restrict (d : Disk) (keep : Location → Bool) : Disk where
  entries := d.entries.filter fun e => keep e.1
  workingDirectory := d.workingDirectory.filter keep

theorem entry?_restrict (d : Disk) (keep : Location → Bool) {l : Location} (hl : l ≠ []) :
    entry? (d.restrict keep) l = if keep l then d.entry? l else none := by
  unfold entry?
  rw [if_neg hl, if_neg hl, restrict, List.find?_filter]
  by_cases hkeep : keep l
  · rw [if_pos hkeep]
    congr 2
    funext x
    by_cases hx : x.1 = l
    · simp [hx, hkeep]
    · simp [hx]
  · rw [if_neg hkeep]
    have hgone : d.entries.find? (fun x => keep x.1 && decide (x.1 = l)) = none := by
      rw [List.find?_eq_none]
      intro x hx
      by_cases hx : x.1 = l
      · simp [hx, hkeep]
      · simp [hx]
    simp [hgone]

/-- A tree stays one if with every place that is kept the directory is kept in which it lies. -/
theorem IsTree.restrict {d : Disk} {keep : Location → Bool} (hd : d.IsTree)
    (hkeep : ∀ l, keep l → l.dropLast ≠ [] → keep l.dropLast) : (d.restrict keep).IsTree := by
  constructor
  · intro x hx
    obtain ⟨hx, hkept⟩ := List.mem_filter.mp hx
    by_cases hnil : x.1.dropLast = []
    · rw [hnil]
      exact entry?_nil _
    · rw [entry?_restrict d keep hnil, if_pos (hkeep _ hkept hnil)]
      exact hd.parent x hx
  · exact fun x hx => hd.names x (List.mem_filter.mp hx).1
  · exact fun x hx => hd.targets x (List.mem_filter.mp hx).1
  · intro l hl
    obtain ⟨hl, hkept⟩ := Option.mem_filter_iff.mp hl
    by_cases hnil : l = []
    · rw [hnil]
      exact entry?_nil _
    · rw [entry?_restrict d keep hnil, if_pos hkept]
      exact hd.here l hl

/-! ## Changes that keep what is there -/

/-- From the first disk to the second one everything stays what it is; files may get other
bytes. -/
structure Keeps (d d' : Disk) : Prop where
  /-- The working directory is the same. -/
  here : d'.workingDirectory = d.workingDirectory
  /-- Directories stay directories. -/
  directory : ∀ l, d.entry? l = some .directory → d'.entry? l = some .directory
  /-- Links stay the same links. -/
  link : ∀ l target, d.entry? l = some (.link target) → d'.entry? l = some (.link target)
  /-- Files stay files. -/
  file : ∀ l bytes, d.entry? l = some (.file bytes) → ∃ bytes', d'.entry? l = some (.file bytes')

theorem Keeps.refl (d : Disk) : d.Keeps d :=
  ⟨rfl, fun _ h => h, fun _ _ h => h, fun _ bytes h => ⟨bytes, h⟩⟩

theorem Keeps.trans {d d' d'' : Disk} (h : d.Keeps d') (h' : d'.Keeps d'') : d.Keeps d'' where
  here := h'.here.trans h.here
  directory l hl := h'.directory l (h.directory l hl)
  link l target hl := h'.link l target (h.link l target hl)
  file l bytes hl := by
    obtain ⟨bytes', hl'⟩ := h.file l bytes hl
    exact h'.file l bytes' hl'

/-- From the first disk to the second one, files are written, at places where files or nothing
stood, and nothing else happens. -/
structure Grows (d d' : Disk) : Prop extends Keeps d d' where
  /-- There are no new directories. -/
  oldDirectory : ∀ l, d'.entry? l = some .directory → d.entry? l = some .directory
  /-- There are no new links. -/
  oldLink : ∀ l target, d'.entry? l = some (.link target) → d.entry? l = some (.link target)

theorem Grows.refl (d : Disk) : d.Grows d := ⟨.refl d, fun _ h => h, fun _ _ h => h⟩

theorem Grows.trans {d d' d'' : Disk} (h : d.Grows d') (h' : d'.Grows d'') : d.Grows d'' where
  toKeeps := h.toKeeps.trans h'.toKeeps
  oldDirectory l hl := h.oldDirectory l (h'.oldDirectory l hl)
  oldLink l target hl := h.oldLink l target (h'.oldLink l target hl)

/-- What newly stands somewhere is a file. -/
theorem Grows.exists_bytes_of_new {d d' : Disk} {l : Location} {e : Entry} (hg : d.Grows d')
    (hold : d.entry? l = none) (hnew : d'.entry? l = some e) : ∃ bytes, e = .file bytes := by
  cases e with
  | file bytes => exact ⟨bytes, rfl⟩
  | directory => cases hold.symm.trans (hg.oldDirectory l hnew)
  | link target => cases hold.symm.trans (hg.oldLink l target hnew)

/-- Putting something where nothing stands changes nothing elsewhere. -/
theorem entry?_put_of_none {d : Disk} {l m : Location} (e : Entry) {e' : Entry}
    (h : d.entry? l = none) (hm : d.entry? m = some e') : entry? (d.put l e) m = some e' := by
  by_cases hnil : m = []
  · rw [hnil, entry?_nil] at hm ⊢
    exact hm
  · have hml : m ≠ l := by
      rintro rfl
      rw [h] at hm
      cases hm
    rw [entry?_put d l e hnil, if_neg hml, hm]

/-- Putting something where nothing stands keeps what is there. -/
theorem keeps_put_of_none {d : Disk} {l : Location} (e : Entry) (h : d.entry? l = none) :
    d.Keeps (d.put l e) where
  here := rfl
  directory _ hm := entry?_put_of_none e h hm
  link _ _ hm := entry?_put_of_none e h hm
  file _ bytes hm := ⟨bytes, entry?_put_of_none e h hm⟩

/-- Writing a file where a file or nothing stands. -/
theorem grows_put {d : Disk} {l : Location} (bytes : List UInt8)
    (h : ∀ e, d.entry? l = some e → e.isFile) : d.Grows (d.put l (.file bytes)) := by
  have hl : l ≠ [] := by
    rintro rfl
    exact absurd (h _ (entry?_nil d)) (by decide)
  -- Only a file is replaced, so directories and links are the same before and after.
  have hput : ∀ m e, e.isFile = false →
      (Disk.entry? (d.put l (.file bytes)) m = some e ↔ d.entry? m = some e) := by
    intro m e he
    by_cases hm : m = []
    · rw [hm, entry?_nil, entry?_nil]
    · rw [entry?_put d l _ hm]
      by_cases hml : m = l
      · rw [if_pos hml, hml]
        constructor
        · rintro ⟨⟩
          cases he
        · intro hd
          rw [h e hd] at he
          cases he
      · rw [if_neg hml]
  refine ⟨⟨rfl, fun m => (hput m _ rfl).mpr, fun m target => (hput m _ rfl).mpr, ?_⟩,
    fun m => (hput m _ rfl).mp, fun m target => (hput m _ rfl).mp⟩
  intro m bytes' hm'
  have hm : m ≠ [] := by
    rintro rfl
    simp [entry?_nil] at hm'
  rw [entry?_put d l _ hm]
  split
  · exact ⟨bytes, rfl⟩
  · exact ⟨bytes', hm'⟩

end Disk

end StyleImport
