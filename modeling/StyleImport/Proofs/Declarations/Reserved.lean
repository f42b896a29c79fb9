import StyleImport.Proofs.Declarations.Tree
import StyleImport.Proofs.Effect

/-!
# Entries that are not written

An entry with a hidden key can be taken out of a value at any depth without a change of its literal,
and so can an entry with the text `#` be taken out of a root mapping. Everywhere but at the outside
this text is written like any other one. The declarations of a mapping are those of its parts, put
together.

The key of an entry at the outside is looked at before its value. An entry with the text `#` whose
key cannot be displayed is therefore not left out but keeps the whole mapping from being written.

## Main definitions

- `Declarations.isHidden`: the keys whose entries are not written.
- `Declarations.prune`: a value without the entries that have hidden keys.
- `Declarations.Layer`, `Declarations.plug`: a place inside a value.

## Main statements

- `Declarations.literal_prune`, `Declarations.fault?_prune`: hidden entries do not matter.
- `Declarations.literal_plug`: what is at a shown place is written there.
- `Declarations.render_append`: the declarations of two mappings put together.
- `Declarations.unwritten_entries_unseen`: all of this for the declarations of a root mapping.
-/

namespace StyleImport

namespace Declarations

/-! ## Hidden entries -/

/-- Tells whether the text of a key is empty or starts with a dollar sign, an at sign or a colon. -/
def isHidden (key : Value) : Bool :=
  match key.display with
  | [] => true
  | c :: _ => c = .scalar '$' || c = .scalar '@' || c = .scalar ':'

mutual

/-- The value without the entries that have hidden keys, at every depth. -/
def prune : Value → Value
  | .list items => .list (pruneItems items)
  | .tuple items => .tuple (pruneItems items)
  | .map entries => .map (pruneEntries entries)
  | v => v

/-- The items of a list without such entries. -/
def pruneItems : List Value → List Value
  | [] => []
  | v :: vs => prune v :: pruneItems vs

/-- The entries of a mapping that have no hidden keys, without such entries inside of them. -/
def pruneEntries : List (Value × Value) → List (Value × Value)
  | [] => []
  | (key, v) :: rest =>
    if isHidden key then pruneEntries rest else (key, prune v) :: pruneEntries rest

end

theorem keyAllowed_eq_not_isHidden (key : Value) : keyAllowed key = !isHidden key := by
  have hmarks : reservedMarks = [.scalar '$', .scalar '@', .scalar ':'] := rfl
  unfold keyAllowed isHidden
  cases key.display with
  | nil => rfl
  | cons c t => simp [nameAllowed, hmarks, Bool.or_assoc]

theorem not_isHidden_of_display {key : Value} {c : CodePoint} {t : Text} (h : key.display = c :: t)
    (hc : c ∉ reservedMarks) : ¬isHidden key := by
  have hmarks : reservedMarks = [.scalar '$', .scalar '@', .scalar ':'] := rfl
  unfold isHidden
  rw [h]
  simpa [hmarks, and_assoc] using hc

/-- The form of an integer starts with a minus sign or a digit. -/
theorem exists_ofInt_eq_cons (n : Int) :
    ∃ c t, Text.ofInt n = c :: t ∧ (c = .scalar '-' ∨ ∃ digit : Char, digit.isDigit ∧
      c = .scalar digit) := by
  cases n with
  | ofNat n =>
    obtain ⟨digit, rest, hdigits⟩ :=
      List.exists_cons_of_ne_nil (Nat.toDigits_ne_nil (n := n) (b := 10))
    have hdigit : digit.isDigit :=
      Nat.isDigit_of_mem_toDigits (by decide) (by decide) (hdigits ▸ List.mem_cons_self)
    refine ⟨.scalar digit, Text.ofChars rest, ?_, .inr ⟨digit, hdigit, rfl⟩⟩
    show Text.ofChars (Nat.toDigits 10 n) = _
    rw [hdigits]
    rfl
  | negSucc n => exact ⟨_, _, rfl, .inl rfl⟩

/-- Hidden keys can be displayed: the forms of integers and collections start with characters of
their own. -/
theorem isWritable_of_isHidden {key : Value} (h : isHidden key) : key.isWritable := by
  cases key with
  | int n =>
    obtain ⟨c, t, htext, rfl | ⟨digit, hdigit, rfl⟩⟩ := exists_ofInt_eq_cons n
    · exact absurd h (not_isHidden_of_display htext (by decide))
    · refine absurd h (not_isHidden_of_display htext fun hmem => ?_)
      have hdigit' : digit = '$' ∨ digit = '@' ∨ digit = ':' := by
        simpa [reservedMarks, Text.ofString, Text.ofChars] using hmem
      rcases hdigit' with rfl | rfl | rfl <;> exact absurd hdigit (by decide)
  | list items => exact absurd h (not_isHidden_of_display (c := .scalar '[') rfl (by decide))
  | tuple items =>
    refine absurd h ?_
    rcases items with _ | ⟨item, _ | ⟨second, rest⟩⟩
    · exact not_isHidden_of_display (c := .scalar '(') rfl (by decide)
    · exact not_isHidden_of_display (c := .scalar '(') rfl (by decide)
    · exact not_isHidden_of_display (c := .scalar '(') rfl (by decide)
  | set items =>
    refine absurd h ?_
    cases items with
    | nil => exact not_isHidden_of_display (c := .scalar 's') rfl (by decide)
    | cons item rest => exact not_isHidden_of_display (c := .scalar '\x7b') rfl (by decide)
  | map entries => exact absurd h (not_isHidden_of_display (c := .scalar '\x7b') rfl (by decide))
  | _ => rfl

theorem displayFault?_of_isHidden {key : Value} (h : isHidden key) : displayFault? key = none :=
  if_pos (isWritable_of_isHidden h)

mutual

/-- Hidden entries do not show in a literal. -/
theorem literal_prune : ∀ v : Value, literal (prune v) = literal v
  | .list items => by rw [prune, literal, literal, itemLiterals_prune items]
  | .tuple items => by rw [prune, literal, literal, itemLiterals_prune items]
  | .map entries => by rw [prune, literal, literal, entryLiterals_prune entries]
  | .null => rfl
  | .bool _ => rfl
  | .int _ => rfl
  | .double _ => rfl
  | .text _ => rfl
  | .moment _ => rfl
  | .bytes _ => rfl
  | .set _ => rfl
  | .circle => rfl

theorem itemLiterals_prune : ∀ items : List Value,
    itemLiterals (pruneItems items) = itemLiterals items
  | [] => rfl
  | v :: vs => by
    rw [pruneItems, itemLiterals, itemLiterals, literal_prune v, itemLiterals_prune vs]

theorem entryLiterals_prune : ∀ entries : List (Value × Value),
    entryLiterals (pruneEntries entries) = entryLiterals entries
  | [] => rfl
  | (key, v) :: rest => by
    rw [pruneEntries, entryLiterals, keyAllowed_eq_not_isHidden]
    by_cases hkey : isHidden key
    · simpa [hkey] using entryLiterals_prune rest
    · simp [hkey, entryLiterals, keyAllowed_eq_not_isHidden, literal_prune v,
        entryLiterals_prune rest]

end

mutual

/-- Hidden entries do not keep a value from having a literal. -/
theorem fault?_prune : ∀ v : Value, fault? (prune v) = fault? v
  | .list items => by rw [prune, fault?, fault?, itemsFault?_prune items]
  | .tuple items => by rw [prune, fault?, fault?, itemsFault?_prune items]
  | .map entries => by rw [prune, fault?, fault?, entriesFault?_prune entries]
  | .null => rfl
  | .bool _ => rfl
  | .int _ => rfl
  | .double _ => rfl
  | .text _ => rfl
  | .moment _ => rfl
  | .bytes _ => rfl
  | .set _ => rfl
  | .circle => rfl

theorem itemsFault?_prune : ∀ items : List Value,
    itemsFault? (pruneItems items) = itemsFault? items
  | [] => rfl
  | v :: vs => by
    rw [pruneItems, itemsFault?, itemsFault?, fault?_prune v, itemsFault?_prune vs]

theorem entriesFault?_prune : ∀ entries : List (Value × Value),
    entriesFault? (pruneEntries entries) = entriesFault? entries
  | [] => rfl
  | (key, v) :: rest => by
    rw [pruneEntries, entriesFault?, keyAllowed_eq_not_isHidden]
    by_cases hkey : isHidden key
    · simpa [hkey, displayFault?_of_isHidden hkey] using entriesFault?_prune rest
    · simp [hkey, entriesFault?, keyAllowed_eq_not_isHidden, fault?_prune v,
        entriesFault?_prune rest]

end

/-! ## Root mappings -/

theorem isHash_prune (v : Value) : isHash (prune v) = isHash v := by
  cases v <;> rfl

theorem emitted_prune (key v : Value) : emitted (key, prune v) = emitted (key, v) := by
  rw [emitted_eq, emitted_eq, isHash_prune]

theorem declaration_prune (key v : Value) : declaration (key, prune v) = declaration (key, v) := by
  rw [declaration, declaration, literal_prune]

/-- The lines for the entries of a root mapping that are written. -/
def lines (entries : List (Value × Value)) : List Text :=
  (entries.filter emitted).map declaration

theorem ofEntries_eq (entries : List (Value × Value)) :
    ofEntries entries = Text.join "\n" (lines entries) := rfl

theorem ne_nil_of_mem_lines {entries : List (Value × Value)} :
    ∀ line ∈ lines entries, line ≠ [] := by
  intro line hline
  obtain ⟨entry, -, rfl⟩ := List.mem_map.mp hline
  exact List.cons_ne_nil _ _

theorem lines_pruneEntries (entries : List (Value × Value)) :
    lines (pruneEntries entries) = lines entries := by
  induction entries with
  | nil => rfl
  | cons entry rest ih =>
    obtain ⟨key, v⟩ := entry
    unfold lines at ih ⊢
    rw [pruneEntries]
    by_cases hkey : isHidden key
    · simpa [hkey, List.filter_cons, emitted, keyAllowed_eq_not_isHidden] using ih
    · rw [if_neg hkey, List.filter_cons, List.filter_cons, emitted_prune]
      split
      · rw [List.map_cons, List.map_cons, declaration_prune, ih]
      · exact ih

/-- Why one entry of a root mapping cannot be written. -/
def entryFault? (entry : Value × Value) : Option Fault :=
  (displayFault? entry.1).or (if emitted entry then fault? entry.2 else none)

theorem rootFault?_eq (entries : List (Value × Value)) :
    rootFault? entries = entries.findSome? entryFault? := rfl

theorem rootFault?_pruneEntries (entries : List (Value × Value)) :
    rootFault? (pruneEntries entries) = rootFault? entries := by
  rw [rootFault?_eq, rootFault?_eq]
  induction entries with
  | nil => rfl
  | cons entry rest ih =>
    obtain ⟨key, v⟩ := entry
    rw [pruneEntries, List.findSome?_cons]
    by_cases hkey : isHidden key
    · have hnone : entryFault? (key, v) = none := by
        simp [entryFault?, emitted, keyAllowed_eq_not_isHidden, hkey,
          displayFault?_of_isHidden hkey]
      rw [if_pos hkey, hnone, ih]
    · have hsame : entryFault? (key, prune v) = entryFault? (key, v) := by
        rw [entryFault?, entryFault?, emitted_prune, fault?_prune]
      rw [if_neg hkey, List.findSome?_cons, hsame, ih]

/-- Hidden entries do not matter for the declarations of a root mapping. -/
theorem render_pruneEntries (entries : List (Value × Value)) :
    render (pruneEntries entries) = render entries := by
  rw [render, render, rootFault?_pruneEntries, ofEntries_eq, ofEntries_eq, lines_pruneEntries]

theorem render_eq_ok_iff {entries : List (Value × Value)} {t : Text} :
    render entries = .ok t ↔ (∀ entry ∈ entries, entryFault? entry = none) ∧
      ofEntries entries = t := by
  rw [← List.findSome?_eq_none_iff, ← rootFault?_eq, render]
  cases rootFault? entries <;> simp

/-! ## Entries with the text `#` -/

/-- The entries of a root mapping whose values are not the text `#`. -/
def withoutHashes (entries : List (Value × Value)) : List (Value × Value) :=
  entries.filter fun entry => !isHash entry.2

theorem lines_withoutHashes (entries : List (Value × Value)) :
    lines (withoutHashes entries) = lines entries := by
  unfold lines withoutHashes
  rw [List.filter_filter]
  congr 1
  refine List.filter_congr fun entry _ => ?_
  rw [emitted_eq, Bool.and_assoc, Bool.and_self]

/-- The text `#` keeps the mapping from being written only by its key. -/
theorem entryFault?_of_isHash {entry : Value × Value} (h : isHash entry.2) :
    entryFault? entry = none ↔ entry.1.isWritable := by
  have hemitted : emitted entry = false := by
    rw [emitted_eq, h, Bool.not_true, Bool.and_false]
  rw [entryFault?, hemitted, displayFault?]
  by_cases hkey : entry.1.isWritable <;> simp [hkey]

/-- A root mapping has declarations just if the keys above the text `#` can be displayed and the
mapping without these entries has declarations, and these are the same. -/
theorem render_withoutHashes_iff {entries : List (Value × Value)} {t : Text} :
    render entries = .ok t ↔
      (∀ entry ∈ entries, isHash entry.2 → entry.1.isWritable) ∧
        render (withoutHashes entries) = .ok t := by
  rw [render_eq_ok_iff, render_eq_ok_iff, ofEntries_eq, ofEntries_eq, lines_withoutHashes,
    ← and_assoc]
  refine and_congr_left fun _ => ⟨fun h => ⟨fun entry hmem hhash => ?_, fun entry hmem => ?_⟩, ?_⟩
  · exact (entryFault?_of_isHash hhash).mp (h entry hmem)
  · exact h entry (List.mem_of_mem_filter hmem)
  · rintro ⟨hkeys, hrest⟩ entry hmem
    by_cases hhash : isHash entry.2
    · exact (entryFault?_of_isHash hhash).mpr (hkeys entry hmem hhash)
    · exact hrest entry (List.mem_filter.mpr ⟨hmem, by simpa using hhash⟩)

/-! ## Places inside a value -/

/-- What stands around a place in a list, a tuple or a mapping. -/
inductive Layer
  /-- The items before and after the place. -/
  | item (before after : List Value)
  /-- The items of a tuple before and after the place. -/
  | tupleItem (before after : List Value)
  /-- The entries before and after the one with this key. -/
  | entry (before : List (Value × Value)) (key : Value) (after : List (Value × Value))

/-- The value with something at the place. -/
def Layer.fill : Layer → Value → Value
  | item before after, v => .list (before ++ v :: after)
  | tupleItem before after, v => .tuple (before ++ v :: after)
  | entry before key after, v => .map (before ++ (key, v) :: after)

/-- Tells whether the place is not that of a hidden entry. -/
def Layer.isShown : Layer → Bool
  | entry _ key _ => !isHidden key
  | _ => true

/-- The value with something at the place to which layers lead, the outermost one first. -/
def plug (layers : List Layer) (v : Value) : Value := layers.foldr Layer.fill v

theorem itemLiterals_eq_map (items : List Value) : itemLiterals items = items.map literal := by
  induction items with
  | nil => rfl
  | cons v vs ih => rw [itemLiterals, ih, List.map_cons]

/-- An item of a list is written between texts that do not depend on it. -/
theorem exists_itemLiterals_insert (front back : List Value) :
    ∃ before after : Text, ∀ v, "(" ++ Text.join "," (itemLiterals (front ++ v :: back)) ++ ")" =
      before ++ literal v ++ after := by
  obtain ⟨before, after, hjoin⟩ :=
    Text.exists_join_insert "," (front.map literal) (back.map literal)
  refine ⟨"(" ++ before, after ++ ")", fun v => ?_⟩
  rw [itemLiterals_eq_map, List.map_append, List.map_cons, hjoin]
  simp only [List.append_assoc]

theorem entryLiterals_append (front back : List (Value × Value)) :
    entryLiterals (front ++ back) = entryLiterals front ++ entryLiterals back := by
  induction front with
  | nil => rfl
  | cons entry front ih =>
    obtain ⟨key, v⟩ := entry
    rw [List.cons_append, entryLiterals, entryLiterals, ih]
    split <;> rfl

/-- What is at a shown place of one layer is written there, between texts that do not depend on
it. -/
theorem literal_fill {layer : Layer} (h : layer.isShown) :
    ∃ before after : Text, ∀ v, literal (layer.fill v) = before ++ literal v ++ after := by
  cases layer with
  | item front back =>
    obtain ⟨before, after, hitems⟩ := exists_itemLiterals_insert front back
    exact ⟨before, after, fun v => by rw [Layer.fill, literal, hitems]⟩
  | tupleItem front back =>
    obtain ⟨before, after, hitems⟩ := exists_itemLiterals_insert front back
    exact ⟨before, after, fun v => by rw [Layer.fill, literal, hitems]⟩
  | entry front key back =>
    obtain ⟨before, after, hjoin⟩ :=
      Text.exists_join_insert "," (entryLiterals front) (entryLiterals back)
    refine ⟨"(" ++ before ++ key.display ++ ": ", after ++ ")", fun v => ?_⟩
    have hkey : keyAllowed key := by rwa [keyAllowed_eq_not_isHidden]
    rw [Layer.fill, literal, entryLiterals_append, entryLiterals, if_pos hkey, hjoin]
    simp only [List.append_assoc]

/-- What is at a shown place inside a value is written there, between texts that do not depend on
it. -/
theorem literal_plug {layers : List Layer} (h : ∀ layer ∈ layers, layer.isShown) :
    ∃ before after : Text, ∀ v, literal (plug layers v) = before ++ literal v ++ after := by
  induction layers with
  | nil => exact ⟨[], [], fun v => by rw [List.append_nil, List.nil_append]; rfl⟩
  | cons layer layers ih =>
    obtain ⟨before, after, hinner⟩ := ih fun inner hinner => h inner (List.mem_cons_of_mem _ hinner)
    obtain ⟨before', after', houter⟩ := literal_fill (h layer List.mem_cons_self)
    refine ⟨before' ++ before, after ++ after', fun v => ?_⟩
    rw [plug, List.foldr_cons, houter, ← plug, hinner]
    simp only [List.append_assoc]

theorem isHash_plug {layers : List Layer} (hne : layers ≠ []) (v : Value) :
    isHash (plug layers v) = false := by
  obtain ⟨layer, layers, rfl⟩ := List.exists_cons_of_ne_nil hne
  cases layer <;> rfl

theorem lines_append (front back : List (Value × Value)) :
    lines (front ++ back) = lines front ++ lines back := by
  rw [lines, List.filter_append, List.map_append]
  rfl

/-- What is at a shown place inside an entry of a root mapping is written there. -/
theorem ofEntries_plug {layers : List Layer} {key : Value} (front back : List (Value × Value))
    (hne : layers ≠ []) (hkey : ¬isHidden key) (h : ∀ layer ∈ layers, layer.isShown) :
    ∃ before after : Text, ∀ v, ofEntries (front ++ (key, plug layers v) :: back) =
      before ++ literal v ++ after := by
  obtain ⟨inner, outer, hliteral⟩ := literal_plug h
  obtain ⟨before, after, hjoin⟩ := Text.exists_join_insert "\n" (lines front) (lines back)
  refine ⟨before ++ .scalar '$' :: key.display ++ ": " ++ inner, outer ++ ";" ++ after,
    fun v => ?_⟩
  have hemitted : emitted (key, plug layers v) := by
    simp [emitted_eq, keyAllowed_eq_not_isHidden, hkey, isHash_plug hne]
  have hline : lines ((key, plug layers v) :: back) =
      declaration (key, plug layers v) :: lines back := by
    rw [lines, List.filter_cons_of_pos hemitted, List.map_cons]
    rfl
  rw [ofEntries_eq, lines_append, hline, hjoin, declaration, hliteral]
  simp only [List.append_assoc, List.cons_append]

/-! ## Mappings put together -/

/-- The lines of two texts put together; an empty text has none. -/
def joinTexts (s t : Text) : Text := Text.join "\n" ([s, t].filter (· ≠ []))

theorem ofEntries_append (front back : List (Value × Value)) :
    ofEntries (front ++ back) = joinTexts (ofEntries front) (ofEntries back) := by
  rw [ofEntries_eq, lines_append, Text.join_append_eq_join "\n" ne_nil_of_mem_lines
    ne_nil_of_mem_lines]
  rfl

/-- The declarations of two mappings put together are those of the first one and those of the second
one. What keeps the first one from being written is met first. -/
theorem render_append (front back : List (Value × Value)) :
    render (front ++ back) = (render front).bind fun s => (render back).map (joinTexts s) := by
  have hfault : rootFault? (front ++ back) = (rootFault? front).or (rootFault? back) := by
    rw [rootFault?_eq, List.findSome?_append]
    rfl
  rw [render, render, render, hfault, ofEntries_append]
  cases rootFault? front <;> cases rootFault? back <;> rfl

/-! ## Entries that are not written -/

/-- Taking all hidden entries out of a value changes neither its literal nor why it has none, and
taking them out of a root mapping changes nothing. Entries with the text `#` can be taken out of a
root mapping unless the key of one of them cannot be displayed. At every shown place inside a value
the value there is written, also the text `#`, and so it is in declarations. Those of two mappings
put together are their declarations put together. -/
theorem unwritten_entries_unseen :
    (∀ v, literal (prune v) = literal v ∧ fault? (prune v) = fault? v) ∧
    (∀ entries, render (pruneEntries entries) = render entries) ∧
    (∀ entries t, render entries = .ok t ↔
      (∀ entry ∈ entries, isHash entry.2 → entry.1.isWritable) ∧
        render (withoutHashes entries) = .ok t) ∧
    (∀ layers : List Layer, (∀ layer ∈ layers, layer.isShown) →
      (∃ before after : Text, ∀ v, literal (plug layers v) = before ++ literal v ++ after) ∧
      ∀ front back key, layers ≠ [] → ¬isHidden key →
        ∃ before after : Text, ∀ v t, render (front ++ (key, plug layers v) :: back) = .ok t →
          t = before ++ literal v ++ after) ∧
    literal (.text "#") = "#" ∧
    (∀ front back, render (front ++ back) =
      (render front).bind fun s => (render back).map (joinTexts s)) := by
  refine ⟨fun v => ⟨literal_prune v, fault?_prune v⟩, render_pruneEntries,
    fun entries t => render_withoutHashes_iff,
    fun layers h => ⟨literal_plug h, fun front back key hne hkey => ?_⟩, rfl, render_append⟩
  obtain ⟨before, after, hplug⟩ := ofEntries_plug front back hne hkey h
  refine ⟨before, after, fun v t ht => ?_⟩
  rw [← (render_eq_ok_iff.mp ht).2, hplug]

/-- The least integer that has too many digits. -/
def overlongKey : Value := .int Numeral.writtenBound

/-- The text `#` under an integer with too many digits is not left out. -/
theorem placeholder_seen :
    isHash (.text "#") ∧ render [(overlongKey, .text "#")] = .error .unwritable ∧
      withoutHashes [(overlongKey, .text "#")] = [] ∧ render [] = .ok [] := by
  have hwritable : overlongKey.isWritable = false := by
    rw [overlongKey, Value.isWritable, Numeral.isWritable, Int.natAbs_natCast]
    exact decide_eq_false (Nat.lt_irrefl _)
  refine ⟨rfl, ?_, rfl, rfl⟩
  rw [render, rootFault?_eq, List.findSome?_cons, entryFault?, displayFault?, hwritable]
  rfl

end Declarations

end StyleImport
