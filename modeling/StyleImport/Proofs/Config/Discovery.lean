import StyleImport.Config
import StyleImport.Proofs.Disk.Status

/-!
# Looking for the file with the settings

The directories from the real start directory up to the root are looked at one after the other, and
the first one that has settings gives the file. A file that describes the project for other tools
only, and even one that is no TOML document, does not keep the search from going on. But some files
do: those that are no text, those with an integer of too many digits, and those in which the word
for the table of all tools names something else. So does a path that is too long.

## Main definitions

- `Config.source?`: the file with the settings that a directory has.
- `Config.IsDisturbing`: the bytes of a file that end the search.
- `Config.IsHindered`: the directories at which the search ends without a result.
- `Config.origin`: the directory from which the search starts.

## Main statements

- `Config.upwards_eq_cons`, `Config.mem_upwards_iff`: the directories that are looked at.
- `Config.find_nearest_iff`: the search finds the nearest file, unless a directory up to it hinders
  it.
-/

namespace StyleImport

namespace Config

variable {d : Disk} {env : Environment} {start found? : Option Path} {path dir : Path}
  {bytes : List UInt8} {entries : Toml.Entries}

/-! ## The directories above a directory -/

/-- Behind a directory come those that belong to the one above it. -/
theorem upwards_eq_cons (p : Path) :
    upwards p = p :: if p.parts = [] then [] else upwards p.parent := by
  unfold upwards
  rw [List.range_succ_eq_map, List.map_cons, List.map_map, Nat.sub_zero, List.take_length]
  by_cases hroot : p.parts = []
  · obtain ⟨anchor, parts⟩ := p
    obtain rfl : parts = [] := hroot
    rfl
  · have hlength : p.parent.parts.length + 1 = p.parts.length := by
      have hpos := List.length_pos_iff.mpr hroot
      rw [Path.parent, List.length_dropLast]
      omega
    rw [if_neg hroot, hlength]
    -- The first names of a directory are those of its parent, as long as the last is not taken.
    refine congrArg (p :: ·) (List.map_congr_left fun n _ => ?_)
    rw [Function.comp_apply, Path.parent, List.dropLast_eq_take, List.take_take, List.length_take]
    congr 2
    omega

/-- The directories that are looked at are those in which the start directory lies, and itself. -/
theorem mem_upwards_iff {p q : Path} :
    q ∈ upwards p ↔ q.anchor = p.anchor ∧ q.parts <+: p.parts := by
  unfold upwards
  rw [List.mem_map, List.prefix_iff_eq_take]
  constructor
  · rintro ⟨n, -, rfl⟩
    exact ⟨rfl, by rw [List.length_take, ← List.take_eq_take_min]⟩
  · rintro ⟨hanchor, hparts⟩
    have hlength : q.parts.length ≤ p.parts.length := by
      rw [hparts]
      exact List.length_take_le' _ _
    refine ⟨p.parts.length - q.parts.length, List.mem_range.mpr (by omega), ?_⟩
    rw [Nat.sub_sub_self hlength, ← hparts, ← hanchor]

/-! ## The settings in a directory -/

/-- The table with the settings among the entries of a file that describes a project, whatever else
the file says. -/
def table? (entries : Toml.Entries) : Option Toml.Entries :=
  match Value.get? (.text "tool") entries with
  | some (.map tools) =>
    match Value.get? (.text "scssimporter") tools with
    | some (.map table) => some table
    | _ => none
  | _ => none

/-- The entries of the document that bytes write, if they write one. -/
def document? (bytes : List UInt8) : Option Toml.Entries :=
  match Utf8.decode bytes with
  | .ok cs => (Toml.read (Utf8.unifyLineEnds cs)).toOption
  | .error _ => none

/-- Tells whether a regular file with settings among those for other tools is seen at a path. -/
def holdsTable (d : Disk) (path : Path) : Bool :=
  match d.readBytes path with
  | .ok bytes => ((document? bytes).bind table?).isSome
  | .error _ => false

/-- The file with the settings that a directory has. One of their own comes first. -/
def source? (d : Disk) (dir : Path) : Option Path :=
  if d.holdsFile (dir.child ownFileName) then some (dir.child ownFileName)
  else if holdsTable d (dir.child projectFileName) then some (dir.child projectFileName)
  else none

/-- The bytes of a file that describes a project end the search: they are no text, the text goes up
to an integer with too many digits, or the word for the table of all tools names something else. -/
inductive IsDisturbing (bytes : List UInt8) : Prop
  /-- The bytes are no text. -/
  | bytes {fault : Utf8.DecodeFault} (h : Utf8.decode bytes = .error fault)
  /-- An integer has too many digits. -/
  | number {cs : List Char} {fault : Numeral.Fault} (hcs : Utf8.decode bytes = .ok cs)
    (h : Toml.read (Utf8.unifyLineEnds cs) = .error (.numeral fault))
  /-- The word for the table of all tools names something else. -/
  | tool {cs : List Char} {entries : Toml.Entries} {v : Value} (hcs : Utf8.decode bytes = .ok cs)
    (hentries : Toml.read (Utf8.unifyLineEnds cs) = .ok entries)
    (hv : Value.get? (.text "tool") entries = some v) (h : ∀ tools, v ≠ .map tools)

/-- The search ends at a directory without a result: a path in it is too long, or the file that
describes a project ends the search. A file of its own in the directory comes first. -/
inductive IsHindered (d : Disk) (dir : Path) : Prop
  /-- The path of a file of its own is too long. -/
  | own (h : d.IsTooLong (dir.child ownFileName))
  /-- The path of the file that describes a project is too long. -/
  | project (hown : ¬d.holdsFile (dir.child ownFileName))
    (h : d.IsTooLong (dir.child projectFileName))
  /-- The file that describes a project ends the search. -/
  | contents {bytes : List UInt8} (hown : ¬d.holdsFile (dir.child ownFileName))
    (hbytes : d.readBytes (dir.child projectFileName) = .ok bytes) (h : IsDisturbing bytes)

/-! ## One directory -/

theorem ok_eq_ok_iff_and {ε α : Type} {p : Prop} (hp : p) {a b : α} :
    (Except.ok a : Except ε α) = .ok b ↔ p ∧ b = a := by
  rw [Except.ok.injEq, eq_comm]
  exact (and_iff_right hp).symm

theorem isFile_eq_ok_iff {b : Bool} :
    isFile d path = .ok b ↔ ¬d.IsTooLong path ∧ b = d.holdsFile path := by
  unfold isFile Disk.isFile
  rw [mapError_eq_ok_iff]
  by_cases hlong : d.IsTooLong path
  · rw [Disk.isAt_of_isTooLong hlong]
    exact iff_of_false nofun fun h => h.1 hlong
  · rw [Disk.isAt_of_not_isTooLong hlong]
    exact ok_eq_ok_iff_and hlong

theorem holdsFile_iff_readBytes : d.holdsFile path ↔ ∃ bytes, d.readBytes path = .ok bytes := by
  unfold Disk.holdsFile Disk.readBytes
  rw [Disk.holds_eq_true_iff]
  constructor
  · rintro ⟨l, e, hstatus, he⟩
    cases e with
    | file bytes => exact ⟨bytes, by rw [hstatus]⟩
    | directory => cases he
    | link target => cases he
  · rintro ⟨bytes, h⟩
    split at h
    · cases h
    · next hstatus => exact ⟨_, _, hstatus, rfl⟩
    · cases h

/-- The table is known unless the word for the table of all tools names something else. -/
theorem ownTable_eq_ok_iff {table : Option Toml.Entries} :
    ownTable entries = .ok table ↔
      (∀ v, Value.get? (.text "tool") entries = some v → ∃ tools, v = .map tools) ∧
        table = table? entries := by
  unfold ownTable table?
  cases Value.get? (.text "tool") entries with
  | none =>
    rw [Option.getD_none]
    exact ok_eq_ok_iff_and nofun
  | some v =>
    rw [Option.getD_some]
    cases v with
    | map tools =>
      have htools : ∀ v, some (Value.map tools) = some v → ∃ tools, v = .map tools := by
        rintro _ ⟨⟩
        exact ⟨tools, rfl⟩
      dsimp only
      cases Value.get? (.text "scssimporter") tools with
      | none => exact ok_eq_ok_iff_and htools
      | some v => cases v <;> exact ok_eq_ok_iff_and htools
    | _ =>
      refine iff_of_false nofun fun h => ?_
      obtain ⟨tools, htools⟩ := h.1 _ rfl
      cases htools

theorem isDisturbing_iff {cs : List Char} (hcs : Utf8.decode bytes = .ok cs)
    (hentries : Toml.read (Utf8.unifyLineEnds cs) = .ok entries) :
    IsDisturbing bytes ↔
      ¬∀ v, Value.get? (.text "tool") entries = some v → ∃ tools, v = .map tools := by
  constructor
  · rintro (h | ⟨hcs', h⟩ | ⟨hcs', hentries', hv, h⟩) htools
    · cases hcs.symm.trans h
    · cases hcs.symm.trans hcs'
      cases hentries.symm.trans h
    · cases hcs.symm.trans hcs'
      cases hentries.symm.trans hentries'
      obtain ⟨tools, rfl⟩ := htools _ hv
      exact h tools rfl
  · intro h
    simp only [not_forall, not_exists] at h
    obtain ⟨v, hv, hother⟩ := h
    exact .tool hcs hentries hv hother

theorem not_isDisturbing_of_malformed {cs : List Char} (hcs : Utf8.decode bytes = .ok cs)
    (hread : Toml.read (Utf8.unifyLineEnds cs) = .error .malformed) : ¬IsDisturbing bytes := by
  rintro (h | ⟨hcs', h⟩ | ⟨hcs', h, -, -⟩)
  · cases hcs.symm.trans h
  · cases hcs.symm.trans hcs'
    cases hread.symm.trans h
  · cases hcs.symm.trans hcs'
    cases hread.symm.trans h

/-- Whether a file that describes a project has settings is known unless its bytes end the
search. -/
theorem hasTable_eq_ok_iff (h : d.readBytes path = .ok bytes) {b : Bool} :
    hasTable d path = .ok b ↔ ¬IsDisturbing bytes ∧ b = holdsTable d path := by
  unfold hasTable readDocument holdsTable document?
  rw [h]
  dsimp only
  cases hdecode : Utf8.decode bytes with
  | error fault => exact iff_of_false nofun fun hnot => hnot.1 (.bytes hdecode)
  | ok cs =>
    dsimp only
    cases hread : Toml.read (Utf8.unifyLineEnds cs) with
    | error fault =>
      cases fault with
      | malformed => exact ok_eq_ok_iff_and (not_isDisturbing_of_malformed hdecode hread)
      | numeral fault => exact iff_of_false nofun fun hnot => hnot.1 (.number hdecode hread)
    | ok entries =>
      show (ownTable entries).map Option.isSome = .ok b ↔
        ¬IsDisturbing bytes ∧ b = (table? entries).isSome
      rw [isDisturbing_iff hdecode hread, not_not]
      cases htable : ownTable entries with
      | error f =>
        refine iff_of_false nofun fun hknown => ?_
        cases htable.symm.trans (ownTable_eq_ok_iff.mpr ⟨hknown.1, rfl⟩)
      | ok table =>
        obtain ⟨htools, rfl⟩ := ownTable_eq_ok_iff.mp htable
        exact ok_eq_ok_iff_and htools

theorem holdsTable_of_readBytes_error {fault : AccessFault} (h : d.readBytes path = .error fault) :
    holdsTable d path = false := by
  rw [holdsTable, h]

/-- Whether a regular file with settings among those for other tools is seen at a path is known
unless the path is too long or the bytes of the file end the search. -/
theorem project_eq_ok_iff {b : Bool} :
    ((isFile d path).bind fun project => if project then hasTable d path else .ok false) = .ok b ↔
      ¬(d.IsTooLong path ∨ ∃ bytes, d.readBytes path = .ok bytes ∧ IsDisturbing bytes) ∧
        b = holdsTable d path := by
  by_cases hlong : d.IsTooLong path
  · refine iff_of_false (fun h => ?_) fun h => h.1 (.inl hlong)
    obtain ⟨project, hproject, -⟩ := bind_eq_ok_iff.mp h
    exact (isFile_eq_ok_iff.mp hproject).1 hlong
  rw [isFile_eq_ok_iff.mpr ⟨hlong, rfl⟩, or_iff_right hlong]
  cases hread : d.readBytes path with
  | error fault =>
    have hfile : d.holdsFile path = false := by
      refine Bool.eq_false_iff.mpr fun hfile => ?_
      obtain ⟨bytes, hbytes⟩ := holdsFile_iff_readBytes.mp hfile
      cases hread.symm.trans hbytes
    rw [hfile, holdsTable_of_readBytes_error hread]
    exact ok_eq_ok_iff_and nofun
  | ok bytes =>
    rw [holdsFile_iff_readBytes.mpr ⟨bytes, hread⟩]
    show hasTable d path = .ok b ↔ _
    rw [hasTable_eq_ok_iff hread]
    simp only [Except.ok.injEq, exists_eq_left']

/-- A directory is asked for a file of its own, and then for one that describes a project. -/
theorem inDirectory_eq (d : Disk) (dir : Path) :
    inDirectory d dir = (isFile d (dir.child ownFileName)).bind fun own =>
      if own then .ok (some (dir.child ownFileName))
      else ((isFile d (dir.child projectFileName)).bind fun project =>
        if project then hasTable d (dir.child projectFileName) else .ok false).map fun ours =>
          if ours then some (dir.child projectFileName) else none := by
  dsimp only [inDirectory]
  cases isFile d (dir.child ownFileName) with
  | error f => rfl
  | ok own =>
    cases own with
    | true => rfl
    | false =>
      cases isFile d (dir.child projectFileName) with
      | error f => rfl
      | ok project =>
        cases project with
        | false => rfl
        | true =>
          rcases hasTable d (dir.child projectFileName) with f | (_ | _) <;> rfl

theorem not_isHindered_of_own (hlong : ¬d.IsTooLong (dir.child ownFileName))
    (hown : d.holdsFile (dir.child ownFileName)) : ¬IsHindered d dir := by
  rintro (h | ⟨hnot, -⟩ | ⟨hnot, -, -⟩)
  · exact hlong h
  · exact hnot hown
  · exact hnot hown

theorem isHindered_iff_of_not_own (hlong : ¬d.IsTooLong (dir.child ownFileName))
    (hown : ¬d.holdsFile (dir.child ownFileName)) :
    IsHindered d dir ↔ d.IsTooLong (dir.child projectFileName) ∨
      ∃ bytes, d.readBytes (dir.child projectFileName) = .ok bytes ∧ IsDisturbing bytes := by
  constructor
  · rintro (h | ⟨-, h⟩ | ⟨-, hbytes, h⟩)
    · exact absurd h hlong
    · exact .inl h
    · exact .inr ⟨_, hbytes, h⟩
  · rintro (h | ⟨bytes, hbytes, h⟩)
    · exact .project hown h
    · exact .contents hown hbytes h

/-- A directory that does not hinder the search gives its file with the settings, or none. -/
theorem inDirectory_eq_ok_iff :
    inDirectory d dir = .ok found? ↔ ¬IsHindered d dir ∧ found? = source? d dir := by
  rw [inDirectory_eq]
  by_cases hlong : d.IsTooLong (dir.child ownFileName)
  · refine iff_of_false (fun h => ?_) fun h => h.1 (.own hlong)
    obtain ⟨own, hown, -⟩ := bind_eq_ok_iff.mp h
    exact (isFile_eq_ok_iff.mp hown).1 hlong
  rw [isFile_eq_ok_iff.mpr ⟨hlong, rfl⟩, Except.bind]
  by_cases hown : d.holdsFile (dir.child ownFileName)
  · rw [if_pos hown, source?, if_pos hown]
    exact ok_eq_ok_iff_and (not_isHindered_of_own hlong hown)
  · -- Without a file of its own all depends on the one that describes a project.
    rw [if_neg hown, source?, if_neg hown, isHindered_iff_of_not_own hlong hown]
    cases hproject : (isFile d (dir.child projectFileName)).bind fun project =>
        if project then hasTable d (dir.child projectFileName) else .ok false with
    | error f =>
      refine iff_of_false nofun fun h => ?_
      cases hproject.symm.trans (project_eq_ok_iff.mpr ⟨h.1, rfl⟩)
    | ok ours =>
      obtain ⟨hclear, rfl⟩ := project_eq_ok_iff.mp hproject
      exact ok_eq_ok_iff_and hclear

/-! ## All directories -/

/-- No directory up to the first one that has settings hinders the search. -/
def IsClear (d : Disk) (dirs : List Path) : Prop :=
  ∀ before dir after, dirs = before ++ dir :: after → (∀ q ∈ before, source? d q = none) →
    ¬IsHindered d dir

theorem isClear_nil : IsClear d [] := fun _ _ _ h => by simp at h

theorem isClear_cons {rest : List Path} :
    IsClear d (dir :: rest) ↔ ¬IsHindered d dir ∧ (source? d dir = none → IsClear d rest) := by
  constructor
  · intro h
    refine ⟨h [] dir rest rfl (List.forall_mem_nil _), fun hnone before q after hrest hbefore => ?_⟩
    exact h (dir :: before) q after (by rw [hrest]; rfl) (List.forall_mem_cons.mpr ⟨hnone, hbefore⟩)
  · rintro ⟨hdir, hrest⟩ before q after heq hbefore
    cases before with
    | nil => exact (List.cons.inj heq).1 ▸ hdir
    | cons first before =>
      obtain ⟨rfl, htail⟩ := List.cons.inj heq
      obtain ⟨hfirst, hbefore⟩ := List.forall_mem_cons.mp hbefore
      exact hrest hfirst before q after htail hbefore

/-- The next directory is looked at if one has no settings. -/
theorem inDirectories_cons (rest : List Path) :
    inDirectories d (dir :: rest) = (inDirectory d dir).bind fun found? =>
      found?.elim (inDirectories d rest) fun path => .ok (some path) := by
  dsimp only [inDirectories]
  cases inDirectory d dir with
  | error f => rfl
  | ok found? => cases found? <;> rfl

/-- The search gives the file of the first directory that has one, unless a directory up to it
hinders the search. -/
theorem inDirectories_eq_ok_iff {dirs : List Path} :
    inDirectories d dirs = .ok found? ↔
      IsClear d dirs ∧ found? = dirs.findSome? (source? d) := by
  induction dirs with
  | nil => exact ok_eq_ok_iff_and isClear_nil
  | cons dir rest ih =>
    rw [inDirectories_cons, isClear_cons, List.findSome?_cons]
    cases hdir : inDirectory d dir with
    | error f =>
      refine iff_of_false nofun fun h => ?_
      cases hdir.symm.trans (inDirectory_eq_ok_iff.mpr ⟨h.1.1, rfl⟩)
    | ok first? =>
      obtain ⟨hclear, rfl⟩ := inDirectory_eq_ok_iff.mp hdir
      cases source? d dir with
      | some path => exact ok_eq_ok_iff_and ⟨hclear, nofun⟩
      | none => simpa [Except.bind, hclear] using ih

/-! ## The search -/

/-- The real directory from which the search starts. -/
def origin (d : Disk) (start : Option Path) : Except Failure Path := do
  let start ← match start with
    | some path => pure path
    | none => d.cwd.mapError .access
  (d.realPath start).mapError .ofRealFault

/-- Without a variable that names a file, the search goes up from the real start directory. -/
theorem find_eq (henv : ∀ name, env.get? fileVariable = some name → name = []) :
    find d env start = (origin d start).bind fun o => inDirectories d (upwards o) := by
  unfold find origin
  cases hname : env.get? fileVariable with
  | none =>
    cases start with
    | none => cases d.cwd <;> rfl
    | some path => rfl
  | some name =>
    obtain rfl := henv name hname
    cases start with
    | none => cases d.cwd <;> rfl
    | some path => rfl

/-- Without a variable that names a file, the search gives the file with the settings in the nearest
directory that has one, from the real start directory on, or none if no directory has one. It has no
other result, and it ends without one just if a directory up to the nearest one hinders it. -/
theorem find_nearest_iff {o : Path} (henv : ∀ name, env.get? fileVariable = some name → name = [])
    (ho : origin d start = .ok o) :
    find d env start = .ok found? ↔
      IsClear d (upwards o) ∧ found? = (upwards o).findSome? (source? d) := by
  rw [find_eq henv, ho]
  exact inDirectories_eq_ok_iff

/-! ## Files for other tools -/

/-- A disk with a file that describes a project in the topmost directory. -/
def projectDisk (bytes : List UInt8) : Disk where
  entries := [([projectFileName], .file bytes)]
  workingDirectory := some []

/-- The path of the topmost directory. -/
def top : Path := .ofText "/"

theorem origin_projectDisk : origin (projectDisk bytes) none = .ok top := by cbv

theorem status_own_projectDisk : (projectDisk bytes).status (top.child ownFileName).toText =
    .error (.system .notFound "/scssimporter.toml") := by
  cbv

theorem status_projectDisk : (projectDisk bytes).status (top.child projectFileName).toText =
    .ok ([projectFileName], .file bytes) := by
  cbv

theorem readBytes_projectDisk :
    (projectDisk bytes).readBytes (top.child projectFileName) = .ok bytes := by
  rw [Disk.readBytes, status_projectDisk]

theorem not_holdsFile_projectDisk : ¬(projectDisk bytes).holdsFile (top.child ownFileName) := by
  rw [Disk.holdsFile, Disk.holds, status_own_projectDisk]
  nofun

theorem isClear_projectDisk (h : ¬IsDisturbing bytes) :
    IsClear (projectDisk bytes) (upwards top) := by
  refine isClear_cons.mpr ⟨?_, fun _ => isClear_nil⟩
  rintro (hlong | ⟨-, hlong⟩ | ⟨-, hbytes, hdisturbs⟩)
  · cases status_own_projectDisk.symm.trans hlong
  · cases status_projectDisk.symm.trans hlong
  · cases readBytes_projectDisk.symm.trans hbytes
    exact h hdisturbs

theorem source?_projectDisk (h : (document? bytes).bind table? = none) :
    (upwards top).findSome? (source? (projectDisk bytes)) = none := by
  have hnone : ¬holdsTable (projectDisk bytes) (top.child projectFileName) := by
    rw [holdsTable, readBytes_projectDisk]
    simp [h]
  show ([top].findSome? (source? (projectDisk bytes))) = none
  rw [List.findSome?_singleton, source?, if_neg not_holdsFile_projectDisk, if_neg hnone]

/-- A file that is no TOML document is passed over: `[`. -/
theorem find_broken : (∀ name, Environment.get? [] fileVariable = some name → name = []) ∧
    origin (projectDisk [91]) none = .ok top ∧ find (projectDisk [91]) [] none = .ok none := by
  have henv (name : Text) : Environment.get? [] fileVariable = some name → name = [] := by
    rintro ⟨⟩
  have hdecode : Utf8.decode [91] = .ok ['['] := by cbv
  have hread : Toml.read (Utf8.unifyLineEnds ['[']) = .error .malformed := by rfl
  have hnone : (document? [91]).bind table? = none := by
    rw [document?, hdecode]
    exact congrArg (fun r : Except Toml.Fault Toml.Entries => r.toOption.bind table?) hread
  exact ⟨henv, origin_projectDisk, (find_nearest_iff henv origin_projectDisk).mpr
    ⟨isClear_projectDisk (not_isDisturbing_of_malformed hdecode hread),
      (source?_projectDisk hnone).symm⟩⟩

/-- A file in which the word for the table of all tools names a number has no settings, and the
search ends at it: `tool=1`. -/
theorem find_ends_at_number :
    (upwards top).findSome? (source? (projectDisk [116, 111, 111, 108, 61, 49])) = none ∧
      find (projectDisk [116, 111, 111, 108, 61, 49]) [] none = .error (.noEntries "int") := by
  have hdocument : document? [116, 111, 111, 108, 61, 49] = some [(.text "tool", .int 1)] := by cbv
  exact ⟨source?_projectDisk (by rw [hdocument]; rfl), by cbv⟩

end Config

end StyleImport
