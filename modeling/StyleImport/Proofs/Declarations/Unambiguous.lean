import StyleImport.Proofs.Declarations.Tree

/-!
# Declarations show their tree

The declarations of a root mapping whose texts hold no delimiter are read in one way only. A word
ends at the first delimiter, so it can be cut off from whatever follows; by induction on trees so
can a literal, because its brackets and commas are delimiters and its words are not empty. Lines
end at line feeds, which are delimiters too.

## Main statements

- `Declarations.Tree.spell_append_injective`: a literal and what follows it are told apart.
- `Declarations.ofEntries_eq_iff`: declarations are equal just if they show the same trees.
-/

namespace StyleImport

namespace Declarations

/-! ## Literals are spellings -/

theorem nameAllowed_eq_not_isReserved {key : Text} (h : isPlain key) :
    nameAllowed key = !isReserved key := by
  cases key with
  | nil => rfl
  | cons c t =>
    have hc : c ∉ delimiters := isPlain_iff.mp h c List.mem_cons_self
    have hcolon : c ≠ .scalar ':' := by
      rintro rfl
      exact hc (by decide)
    have hmarks : reservedMarks = [.scalar '$', .scalar '@', .scalar ':'] := rfl
    simp [nameAllowed, isReserved, hmarks, hcolon]

theorem ne_nil_of_not_isReserved {key : Text} (h : ¬isReserved key) : key ≠ [] := by
  rintro rfl
  exact h rfl

mutual

/-- The literal of a clean value spells the tree of the value. -/
theorem tree_spec : ∀ v : Value, isClean v → (tree v).IsProper ∧ (tree v).spell = literal v
  | .list items, h => by
    obtain ⟨hproper, hspell⟩ := itemTrees_spec items (by simpa only [isClean] using h)
    simp only [tree, literal, Tree.spell, hspell, and_true]
    exact hproper
  | .tuple items, h => by
    obtain ⟨hproper, hspell⟩ := itemTrees_spec items (by simpa only [isClean] using h)
    simp only [tree, literal, Tree.spell, hspell, and_true]
    exact hproper
  | .map entries, h => by
    obtain ⟨hproper, hspell⟩ := entryTrees_spec entries (by simpa only [isClean] using h)
    simp only [tree, literal, Tree.spell_ofEntries, hspell, and_true]
    exact Tree.ofEntries_isProper hproper
  | .null, h => ⟨scalarLiteral_isWord h (by simp), rfl⟩
  | .bool b, h => ⟨scalarLiteral_isWord h (by simp), rfl⟩
  | .int n, h => ⟨scalarLiteral_isWord h (by simp), rfl⟩
  | .double x, h => ⟨scalarLiteral_isWord h (by simp), rfl⟩
  | .text t, h => ⟨scalarLiteral_isWord h (by simp), rfl⟩
  | .moment m, h => by simp [isClean] at h
  | .bytes bs, h => by simp [isClean] at h
  | .set items, h => by simp [isClean] at h
  | .circle, h => by simp [isClean] at h

theorem itemTrees_spec : ∀ items : List Value, itemsClean items →
    Tree.ItemsProper (itemTrees items) ∧ Tree.spellItems (itemTrees items) = itemLiterals items
  | [], _ => ⟨trivial, rfl⟩
  | v :: vs, h => by
    simp only [itemsClean, Bool.and_eq_true] at h
    obtain ⟨hv, hspell⟩ := tree_spec v h.1
    obtain ⟨hvs, hspells⟩ := itemTrees_spec vs h.2
    simp only [itemTrees, itemLiterals, Tree.spellItems, hspell, hspells, and_true]
    exact ⟨hv, hvs⟩

theorem entryTrees_spec : ∀ entries : List (Value × Value), entriesClean entries →
    Tree.EntriesProper (entryTrees entries) ∧
      Tree.spellEntries (entryTrees entries) = entryLiterals entries
  | [], _ => ⟨trivial, rfl⟩
  | (key, v) :: rest, h => by
    cases key with
    | text key =>
      simp only [entriesClean, Bool.and_eq_true] at h
      obtain ⟨hv, hspell⟩ := tree_spec v h.1.2
      obtain ⟨hrest, hspells⟩ := entryTrees_spec rest h.2
      simp only [entryTrees, entryLiterals, keyAllowed, Value.display,
        nameAllowed_eq_not_isReserved h.1.1]
      by_cases hkey : isReserved key
      · simp only [hkey, Bool.not_true, Bool.false_eq_true, if_true, if_false]
        exact ⟨hrest, hspells⟩
      · simp only [hkey, Bool.not_false, Bool.false_eq_true, if_true, if_false, Tree.spellEntries,
          hspell, hspells, and_true]
        exact ⟨⟨ne_nil_of_not_isReserved hkey, h.1.1⟩, hv, hrest⟩
    | _ => simp [entriesClean] at h

end

/-! ## Words end at delimiters -/

/-- A text behind a word: it is empty or starts with a delimiter. -/
def Ends (r : Text) : Prop := ∀ c ∈ r.head?, c ∈ delimiters

theorem ends_nil : Ends [] := by
  intro c hc
  cases hc

theorem ends_cons {c : CodePoint} {r : Text} (h : c ∈ delimiters) : Ends (c :: r) := by
  intro d hd
  cases hd
  exact h

/-- A word is told apart from what stands behind it. -/
theorem word_append_injective {s t r r' : Text} (hs : isPlain s) (ht : isPlain t) (hr : Ends r)
    (hr' : Ends r') (h : s ++ r = t ++ r') : s = t ∧ r = r' := by
  induction s generalizing t with
  | nil =>
    cases t with
    | nil => exact ⟨rfl, h⟩
    | cons c t =>
      have hc : c ∈ delimiters := hr c (by rw [← List.nil_append r, h]; rfl)
      exact absurd hc (isPlain_iff.mp ht c List.mem_cons_self)
  | cons c s ih =>
    cases t with
    | nil =>
      have hc : c ∈ delimiters := hr' c (by rw [← List.nil_append r', ← h]; rfl)
      exact absurd hc (isPlain_iff.mp hs c List.mem_cons_self)
    | cons d t =>
      obtain ⟨hcd, hrest⟩ := List.cons.inj h
      rw [isPlain_cons, Bool.and_eq_true] at hs ht
      obtain ⟨hst, hrr⟩ := ih hs.2 ht.2 hrest
      exact ⟨by rw [hcd, hst], hrr⟩

/-- A word that is not empty does not start with a delimiter. -/
theorem word_append_ne_cons {s r r' : Text} {c : CodePoint} (hs : s ≠ [] ∧ isPlain s)
    (hc : c ∈ delimiters) : s ++ r ≠ c :: r' := by
  intro h
  cases s with
  | nil => exact hs.1 rfl
  | cons d s =>
    obtain ⟨rfl, -⟩ := List.cons.inj h
    exact isPlain_iff.mp hs.2 d List.mem_cons_self hc

/-! ## Literals end where they close -/

namespace Tree

/-- The rest of a list literal behind one of its items, and what follows the literal. -/
def itemsTail : List Tree → Text → Text
  | [], r => .scalar ')' :: r
  | t :: ts, r => .scalar ',' :: (t.spell ++ itemsTail ts r)

/-- The rest of a map literal behind one of its entries, and what follows the literal. -/
def entriesTail : List (Text × Tree) → Text → Text
  | [], r => .scalar ')' :: r
  | (key, t) :: rest, r =>
    .scalar ',' :: (key ++ .scalar ':' :: .scalar ' ' :: (t.spell ++ entriesTail rest r))

theorem ends_itemsTail (ts : List Tree) (r : Text) : Ends (itemsTail ts r) := by
  cases ts with
  | nil => exact ends_cons (by decide)
  | cons t ts => exact ends_cons (by decide)

theorem ends_entriesTail (ts : List (Text × Tree)) (r : Text) : Ends (entriesTail ts r) := by
  cases ts with
  | nil => exact ends_cons (by decide)
  | cons e rest => exact ends_cons (by decide)

theorem itemsTail_ne_colon (ts : List Tree) (r r' : Text) : itemsTail ts r ≠ .scalar ':' :: r' := by
  cases ts with
  | nil => simp [itemsTail]
  | cons t ts => simp [itemsTail]

theorem spell_items_nil (r : Text) :
    (items []).spell ++ r = .scalar '(' :: .scalar ')' :: r := rfl

theorem join_spellItems (t : Tree) (ts : List Tree) (r : Text) :
    Text.join "," (spellItems (t :: ts)) ++ .scalar ')' :: r = t.spell ++ itemsTail ts r := by
  induction ts generalizing t with
  | nil => simp [spellItems, itemsTail]
  | cons u ts ih =>
    have htail := ih u
    rw [spellItems] at htail
    rw [spellItems, spellItems, Text.join_cons_cons, itemsTail, ← htail]
    simp [Text.ofString, Text.ofChars]

theorem spell_items_cons (t : Tree) (ts : List Tree) (r : Text) :
    (items (t :: ts)).spell ++ r = .scalar '(' :: (t.spell ++ itemsTail ts r) := by
  rw [← join_spellItems]
  simp [spell, Text.ofString, Text.ofChars]

theorem join_spellEntries (key : Text) (t : Tree) (rest : List (Text × Tree)) (r : Text) :
    Text.join "," (spellEntries ((key, t) :: rest)) ++ .scalar ')' :: r =
      key ++ .scalar ':' :: .scalar ' ' :: (t.spell ++ entriesTail rest r) := by
  induction rest generalizing key t with
  | nil => simp [spellEntries, entriesTail, Text.ofString, Text.ofChars]
  | cons e rest ih =>
    obtain ⟨key', u⟩ := e
    have htail := ih key' u
    rw [spellEntries] at htail
    rw [spellEntries, spellEntries, Text.join_cons_cons, entriesTail, ← htail]
    simp [Text.ofString, Text.ofChars]

theorem spell_entries_cons (key : Text) (t : Tree) (rest : List (Text × Tree)) (r : Text) :
    (entries ((key, t) :: rest)).spell ++ r =
      .scalar '(' :: (key ++ .scalar ':' :: .scalar ' ' :: (t.spell ++ entriesTail rest r)) := by
  rw [← join_spellEntries]
  simp [spell, Text.ofString, Text.ofChars]

/-- A literal starts with an opening bracket just if it is no word. -/
theorem spell_head {t : Tree} (h : t.IsProper) :
    (∃ word, t = leaf word ∧ word ≠ [] ∧ isPlain word) ∨ ∃ body, ∀ r, t.spell ++ r =
      .scalar '(' :: (body ++ r) := by
  cases t with
  | leaf word => exact .inl ⟨word, rfl, h⟩
  | items trees => exact .inr ⟨Text.join "," (spellItems trees) ++ ")", fun r => rfl⟩
  | entries trees => exact .inr ⟨Text.join "," (spellEntries trees) ++ ")", fun r => rfl⟩

theorem spell_append_ne_close {t : Tree} (h : t.IsProper) (r r' : Text) :
    t.spell ++ r ≠ .scalar ')' :: r' := by
  rcases spell_head h with ⟨word, rfl, hword⟩ | ⟨body, hbody⟩
  · exact word_append_ne_cons hword (by decide)
  · rw [hbody]
    simp

/-- The first item of a list literal is not taken for the first key of a map literal: a word is
followed by a comma or bracket, and a key by a colon. -/
theorem spell_append_itemsTail_ne {t : Tree} {ts : List Tree} {key r r' : Text} (ht : t.IsProper)
    (hkey : key ≠ [] ∧ isPlain key) :
    t.spell ++ itemsTail ts r ≠ key ++ .scalar ':' :: r' := by
  intro h
  rcases spell_head ht with ⟨word, rfl, hword⟩ | ⟨body, hbody⟩
  · obtain ⟨-, htail⟩ := word_append_injective hword.2 hkey.2 (ends_itemsTail ts r)
      (ends_cons (by decide)) h
    exact itemsTail_ne_colon ts r r' htail
  · rw [hbody] at h
    exact word_append_ne_cons hkey (by decide) h.symm

mutual

/-- A literal and what follows it are told apart. -/
theorem spell_append_injective : ∀ {s t : Tree} {r r' : Text}, s.IsProper → t.IsProper →
    Ends r → Ends r' → s.spell ++ r = t.spell ++ r' → s = t ∧ r = r'
  | leaf word, t, r, r', hs, ht, hr, hr', h => by
    rcases spell_head ht with ⟨word', rfl, hword'⟩ | ⟨body, hbody⟩
    · obtain ⟨rfl, hrr⟩ := word_append_injective hs.2 hword'.2 hr hr' h
      exact ⟨rfl, hrr⟩
    · rw [hbody] at h
      exact absurd h (word_append_ne_cons hs (by decide))
  -- Only lists and mappings start with a bracket.
  | items ss, leaf word, r, r', hs, ht, hr, hr', h => by
    exact absurd h.symm (word_append_ne_cons ht (by decide))
  | items [], items [], r, r', hs, ht, hr, hr', h => by
    rw [spell_items_nil, spell_items_nil] at h
    exact ⟨rfl, (List.cons.inj (List.cons.inj h).2).2⟩
  | items [], items (t :: ts), r, r', hs, ht, hr, hr', h => by
    rw [spell_items_nil, spell_items_cons] at h
    exact absurd (List.cons.inj h).2.symm (spell_append_ne_close ht.1 _ _)
  | items (s :: ss), items [], r, r', hs, ht, hr, hr', h => by
    rw [spell_items_nil, spell_items_cons] at h
    exact absurd (List.cons.inj h).2 (spell_append_ne_close hs.1 _ _)
  | items (s :: ss), items (t :: ts), r, r', hs, ht, hr, hr', h => by
    rw [spell_items_cons, spell_items_cons] at h
    obtain ⟨htrees, hrr⟩ := itemsTail_injective hs ht hr hr'
      (congrArg (CodePoint.scalar ',' :: ·) (List.cons.inj h).2)
    exact ⟨congrArg items htrees, hrr⟩
  -- A list and a mapping: the first item ends at a comma or bracket, the first key at a colon.
  | items [], entries ((key, t) :: ts), r, r', hs, ht, hr, hr', h => by
    rw [spell_items_nil, spell_entries_cons] at h
    exact absurd (List.cons.inj h).2.symm (word_append_ne_cons ht.2.1 (by decide))
  | items (s :: ss), entries ((key, t) :: ts), r, r', hs, ht, hr, hr', h => by
    rw [spell_items_cons, spell_entries_cons] at h
    exact absurd (List.cons.inj h).2 (spell_append_itemsTail_ne hs.1 ht.2.1)
  | items ss, entries [], r, r', hs, ht, hr, hr', h => absurd rfl ht.1
  | entries [], t, r, r', hs, ht, hr, hr', h => absurd rfl hs.1
  | entries ((key, s) :: ss), leaf word, r, r', hs, ht, hr, hr', h => by
    exact absurd h.symm (word_append_ne_cons ht (by decide))
  | entries ((key, s) :: ss), items [], r, r', hs, ht, hr, hr', h => by
    rw [spell_items_nil, spell_entries_cons] at h
    exact absurd (List.cons.inj h).2 (word_append_ne_cons hs.2.1 (by decide))
  | entries ((key, s) :: ss), items (t :: ts), r, r', hs, ht, hr, hr', h => by
    rw [spell_items_cons, spell_entries_cons] at h
    exact absurd (List.cons.inj h).2.symm (spell_append_itemsTail_ne ht.1 hs.2.1)
  | entries ((key, s) :: ss), entries [], r, r', hs, ht, hr, hr', h => absurd rfl ht.1
  | entries ((key, s) :: ss), entries ((key', t) :: ts), r, r', hs, ht, hr, hr', h => by
    rw [spell_entries_cons, spell_entries_cons] at h
    obtain ⟨htrees, hrr⟩ := entriesTail_injective hs.2 ht.2 hr hr'
      (congrArg (CodePoint.scalar ',' :: ·) (List.cons.inj h).2)
    exact ⟨congrArg entries htrees, hrr⟩

theorem itemsTail_injective : ∀ {ss ts : List Tree} {r r' : Text}, ItemsProper ss →
    ItemsProper ts → Ends r → Ends r' → itemsTail ss r = itemsTail ts r' → ss = ts ∧ r = r'
  | [], [], r, r', hs, ht, hr, hr', h => ⟨rfl, (List.cons.inj h).2⟩
  | [], t :: ts, r, r', hs, ht, hr, hr', h => by simp [itemsTail] at h
  | s :: ss, [], r, r', hs, ht, hr, hr', h => by simp [itemsTail] at h
  | s :: ss, t :: ts, r, r', hs, ht, hr, hr', h => by
    obtain ⟨rfl, htail⟩ := spell_append_injective hs.1 ht.1 (ends_itemsTail ss r)
      (ends_itemsTail ts r') (List.cons.inj h).2
    obtain ⟨rfl, hrr⟩ := itemsTail_injective hs.2 ht.2 hr hr' htail
    exact ⟨rfl, hrr⟩

theorem entriesTail_injective : ∀ {ss ts : List (Text × Tree)} {r r' : Text}, EntriesProper ss →
    EntriesProper ts → Ends r → Ends r' → entriesTail ss r = entriesTail ts r' → ss = ts ∧ r = r'
  | [], [], r, r', hs, ht, hr, hr', h => ⟨rfl, (List.cons.inj h).2⟩
  | [], (key, t) :: ts, r, r', hs, ht, hr, hr', h => by simp [entriesTail] at h
  | (key, s) :: ss, [], r, r', hs, ht, hr, hr', h => by simp [entriesTail] at h
  | (key, s) :: ss, (key', t) :: ts, r, r', hs, ht, hr, hr', h => by
    obtain ⟨rfl, hvalue⟩ := word_append_injective hs.1.2 ht.1.2 (ends_cons (by decide))
      (ends_cons (by decide)) (List.cons.inj h).2
    obtain ⟨rfl, htail⟩ := spell_append_injective hs.2.1 ht.2.1 (ends_entriesTail ss r)
      (ends_entriesTail ts r') (List.cons.inj (List.cons.inj hvalue).2).2
    obtain ⟨rfl, hrr⟩ := entriesTail_injective hs.2.2 ht.2.2 hr hr' htail
    exact ⟨rfl, hrr⟩

end

/-! ## Lines -/

mutual

/-- A literal stands on one line. -/
theorem newline_notMem_spell : ∀ {t : Tree}, t.IsProper → CodePoint.scalar '\n' ∉ t.spell
  | leaf word, h => fun hc => isPlain_iff.mp h.2 _ hc (by decide)
  | items trees, h => by
    have htrees := newline_notMem_spellItems h
    have hcomma : CodePoint.scalar '\n' ∉ Text.ofString "," := by decide
    have hjoin := Text.notMem_join hcomma htrees
    simpa [spell, Text.ofString, Text.ofChars] using hjoin
  | entries trees, h => by
    have htrees := newline_notMem_spellEntries h.2
    have hcomma : CodePoint.scalar '\n' ∉ Text.ofString "," := by decide
    have hjoin := Text.notMem_join hcomma htrees
    simpa [spell, Text.ofString, Text.ofChars] using hjoin

theorem newline_notMem_spellItems : ∀ {trees : List Tree}, ItemsProper trees →
    ∀ p ∈ spellItems trees, CodePoint.scalar '\n' ∉ p
  | [], _ => fun p hp => by cases hp
  | t :: ts, h => by
    intro p hp
    rcases List.mem_cons.mp hp with rfl | hp
    · exact newline_notMem_spell h.1
    · exact newline_notMem_spellItems h.2 p hp

theorem newline_notMem_spellEntries : ∀ {trees : List (Text × Tree)}, EntriesProper trees →
    ∀ p ∈ spellEntries trees, CodePoint.scalar '\n' ∉ p
  | [], _ => fun p hp => by cases hp
  | (key, t) :: rest, h => by
    intro p hp
    rcases List.mem_cons.mp hp with rfl | hp
    · have hkey : CodePoint.scalar '\n' ∉ key := fun hc => isPlain_iff.mp h.1.2 _ hc (by decide)
      have ht := newline_notMem_spell h.2.1
      simp [hkey, ht, Text.ofString, Text.ofChars]
    · exact newline_notMem_spellEntries h.2.2 p hp

end

/-- The declaration that shows a tree under its key. -/
def line (e : Text × Tree) : Text := .scalar '$' :: e.1 ++ ": " ++ e.2.spell ++ ";"

theorem line_spec {trees : List (Text × Tree)} (h : EntriesProper trees) :
    ∀ p ∈ trees.map line, p ≠ [] ∧ CodePoint.scalar '\n' ∉ p := by
  induction trees with
  | nil => simp
  | cons e rest ih =>
    obtain ⟨key, t⟩ := e
    rw [List.map_cons, List.forall_mem_cons]
    have hkey : CodePoint.scalar '\n' ∉ key := fun hc => isPlain_iff.mp h.1.2 _ hc (by decide)
    have ht := newline_notMem_spell h.2.1
    exact ⟨by simp [line, hkey, ht, Text.ofString, Text.ofChars], ih h.2.2⟩

theorem map_line_injective {ss ts : List (Text × Tree)} (hs : EntriesProper ss)
    (ht : EntriesProper ts) (h : ss.map line = ts.map line) : ss = ts := by
  induction ss generalizing ts with
  | nil => exact (List.map_eq_nil_iff.mp h.symm).symm
  | cons e ss ih =>
    cases ts with
    | nil => simp at h
    | cons e' ts =>
      obtain ⟨key, s⟩ := e
      obtain ⟨key', t⟩ := e'
      obtain ⟨hline, hrest⟩ := List.cons.inj h
      simp only [line, List.append_assoc] at hline
      obtain ⟨rfl, hvalue⟩ := word_append_injective hs.1.2 ht.1.2 (ends_cons (by decide))
        (ends_cons (by decide)) (List.cons.inj hline).2
      have hspell : s.spell ++ [] = t.spell ++ [] := by
        simpa [Text.ofString, Text.ofChars] using hvalue
      obtain ⟨rfl, -⟩ := spell_append_injective hs.2.1 ht.2.1 ends_nil ends_nil hspell
      rw [ih hs.2.2 ht.2.2 hrest]

end Tree

/-- The declarations of a clean mapping are the lines of its trees. -/
theorem map_declaration_eq {entries : List (Value × Value)} (h : entriesClean entries) :
    (entries.filter emitted).map declaration = (rootTrees entries).map Tree.line := by
  induction entries with
  | nil => rfl
  | cons e rest ih =>
    obtain ⟨key, v⟩ := e
    cases key with
    | text key =>
      simp only [entriesClean, Bool.and_eq_true] at h
      have hrest := ih h.2
      have hallowed : keyAllowed (.text key) = !isReserved key :=
        nameAllowed_eq_not_isReserved h.1.1
      rw [rootTrees] at hrest ⊢
      have hemitted : emitted (.text key, v) = (!isReserved key && !isHash v) := by
        rw [emitted_eq, hallowed]
      by_cases hhash : isHash v
      · simpa [List.filter_cons, hemitted, hhash] using hrest
      · by_cases hkey : isReserved key
        · simpa [List.filter_cons, hemitted, hhash, hkey, entryTrees, Value.display] using hrest
        · have hspell := (tree_spec v h.1.2).2
          simpa [List.filter_cons, hemitted, hhash, hkey, entryTrees, Value.display, Tree.line,
            declaration, hspell] using hrest
    | _ => simp [entriesClean] at h

theorem entriesClean_filter {entries : List (Value × Value)} (p : Value × Value → Bool)
    (h : entriesClean entries) : entriesClean (entries.filter p) := by
  induction entries with
  | nil => rfl
  | cons e rest ih =>
    obtain ⟨key, v⟩ := e
    cases key with
    | text key =>
      simp only [entriesClean, Bool.and_eq_true] at h
      rw [List.filter_cons]
      split
      · simp only [entriesClean, Bool.and_eq_true]
        exact ⟨h.1, ih h.2⟩
      · exact ih h.2
    | _ => simp [entriesClean] at h

/-- The declarations of two clean mappings are the same text just if they show the same trees. -/
theorem ofEntries_eq_iff {t u : List (Value × Value)} (ht : entriesClean t) (hu : entriesClean u) :
    ofEntries t = ofEntries u ↔ rootTrees t = rootTrees u := by
  have htproper : Tree.EntriesProper (rootTrees t) :=
    (entryTrees_spec _ (entriesClean_filter _ ht)).1
  have huproper : Tree.EntriesProper (rootTrees u) :=
    (entryTrees_spec _ (entriesClean_filter _ hu)).1
  simp only [ofEntries, map_declaration_eq ht, map_declaration_eq hu]
  constructor
  · intro h
    have hlines := Text.join_injective (Tree.line_spec htproper) (Tree.line_spec huproper) h
    exact Tree.map_line_injective htproper huproper hlines
  · intro h
    rw [h]

/-! ## Clean values have literals -/

theorem displayFault?_eq_none {v : Value} (h : v.isWritable) : displayFault? v = none := by
  rw [displayFault?, if_pos h]

mutual

/-- A clean value fails to have a literal only by an integer with too many digits. -/
theorem fault?_eq_none : ∀ v : Value, isClean v → v.isWritable → fault? v = none
  | .list items => by
    intro h hw
    simp only [isClean, Value.isWritable] at h hw
    exact itemsFault?_eq_none items h hw
  | .tuple items => by
    intro h hw
    simp only [isClean, Value.isWritable] at h hw
    exact itemsFault?_eq_none items h hw
  | .map entries => by
    intro h hw
    simp only [isClean, Value.isWritable] at h hw
    exact entriesFault?_eq_none entries h hw
  | .null => fun _ _ => rfl
  | .bool b => fun _ _ => rfl
  | .int n => by
    intro _ hw
    rw [fault?]
    · exact displayFault?_eq_none hw
    all_goals simp
  | .double x => fun _ _ => rfl
  | .text t => fun _ _ => rfl
  | .moment m => fun _ _ => rfl
  | .bytes bs => fun _ _ => rfl
  | .set items => by simp [isClean]
  | .circle => by simp [isClean]

theorem itemsFault?_eq_none : ∀ items : List Value, itemsClean items →
    Value.allWritable items → itemsFault? items = none
  | [] => fun _ _ => rfl
  | v :: vs => by
    intro h hw
    simp only [itemsClean, Value.allWritable, Bool.and_eq_true] at h hw
    rw [itemsFault?, fault?_eq_none v h.1 hw.1, itemsFault?_eq_none vs h.2 hw.2]
    rfl

theorem entriesFault?_eq_none : ∀ entries : List (Value × Value), entriesClean entries →
    Value.entriesWritable entries → entriesFault? entries = none
  | [] => fun _ _ => rfl
  | (key, v) :: rest => by
    intro h hw
    cases key with
    | text key =>
      simp only [entriesClean, Value.entriesWritable, Bool.and_eq_true] at h hw
      have hkey : displayFault? (.text key) = none := rfl
      rw [entriesFault?, fault?_eq_none v h.1.2 hw.1.2, entriesFault?_eq_none rest h.2 hw.2, hkey]
      simp
    | _ => simp [entriesClean] at h

end

theorem render_eq_ofEntries {entries : List (Value × Value)} (h : entriesClean entries)
    (hw : Value.entriesWritable entries) : render entries = .ok (ofEntries entries) := by
  have hroot : rootFault? entries = none := by
    induction entries with
    | nil => rfl
    | cons e rest ih =>
      obtain ⟨key, v⟩ := e
      cases key with
      | text key =>
        simp only [entriesClean, Value.entriesWritable, Bool.and_eq_true] at h hw
        have hkey : displayFault? (.text key) = none := rfl
        have hrest := ih h.2 hw.2
        rw [rootFault?] at hrest ⊢
        rw [List.findSome?_cons, hkey, fault?_eq_none v h.1.2 hw.1.2]
        simpa using hrest
      | _ => simp [entriesClean] at h
  rw [render, hroot]

/-! ## Declarations determine the tree -/

/-- The declarations of two clean root mappings are the same text just if the mappings show the
same trees in the same order. This text is what rendering gives, unless an integer has too many
digits to be written. -/
theorem declarations_eq_iff_trees_eq {t u : List (Value × Value)} (ht : entriesClean t)
    (hu : entriesClean u) :
    (ofEntries t = ofEntries u ↔ rootTrees t = rootTrees u) ∧
      (Value.entriesWritable t → render t = .ok (ofEntries t)) ∧
      (Value.entriesWritable u → render u = .ok (ofEntries u)) :=
  ⟨ofEntries_eq_iff ht hu, render_eq_ofEntries ht, render_eq_ofEntries hu⟩

theorem lt_pow10 {a k m : Nat} (h : a < 10 ^ k) (hk : k ≤ m) : a < Double.pow10 m :=
  Nat.lt_of_lt_of_le h (Nat.pow_le_pow_right (by decide) hk)

/-- An integer with one digit can be written. -/
theorem isWritable_of_digit {n : Int} (h : n.natAbs < 10 ^ 1) : Numeral.isWritable n :=
  decide_eq_true (lt_pow10 h (by decide))

/-- A mapping with a nested list, an empty text, an empty list, a placeholder, a reserved key and
a placeholder that is kept because it lies deeper. -/
def sampleEntries : List (Value × Value) :=
  [(.text "sizes", .list [.int 1, .map [(.text "$no", .int 2), (.text "k", .text "")]]),
    (.text "@skip", .text "q"), (.text "later", .text "#"), (.text "none", .list []),
    (.text "deep", .tuple [.text "#"])]

/-- Another mapping that shows the same. -/
def sampleTwin : List (Value × Value) :=
  [(.text "sizes", .tuple [.double (.finite false 1 0), .map [(.text "k", .text "\"\"")]]),
    (.text "none", .map [(.text "", .null)]), (.text "deep", .list [.text "#"])]

theorem declarations_sample_eq_twin :
    entriesClean sampleEntries ∧ entriesClean sampleTwin ∧
      ofEntries sampleEntries = ofEntries sampleTwin ∧
      render sampleEntries = .ok (ofEntries sampleEntries) := by
  have ht : entriesClean sampleEntries := by decide
  have hu : entriesClean sampleTwin := by decide
  obtain ⟨hiff, hrender, -⟩ := declarations_eq_iff_trees_eq ht hu
  have hw : Value.entriesWritable sampleEntries := by
    simp [sampleEntries, Value.entriesWritable, Value.isWritable, Value.allWritable,
      isWritable_of_digit]
  exact ⟨ht, hu, hiff.mpr rfl, hrender hw⟩

end Declarations

end StyleImport
