import StyleImport.Declarations
import StyleImport.Proofs.Text.Pieces

/-!
# The tree that declarations show

A literal does not show everything of a value: lists and tuples look the same, so do the empty list
and the empty mapping, entries with reserved keys are missing, and of a number only its digits are
left. What remains is a tree of texts, and literals are the spellings of such trees.

## Main definitions

- `Declarations.isClean`: the values whose keys and texts hold no delimiter.
- `Declarations.Tree`, `Declarations.tree`: what a literal shows of a value.
- `Declarations.Tree.spell`: the literal that shows a tree.
-/

namespace StyleImport

namespace Declarations

/-- The characters that enclose and separate the parts of a literal. -/
def delimiters : Text := "(),:\n"

/-- Tells whether a text holds no delimiter. -/
def isPlain (t : Text) : Bool := t.all fun c => !delimiters.contains c

mutual

/-- Tells whether a value is built from lists, tuples and mappings with text keys around numbers,
truth values, absent values and texts, and none of its texts holds a delimiter. -/
def isClean : Value → Bool
  | .null => true
  | .bool _ => true
  | .int _ => true
  | .double _ => true
  | .text t => isPlain t
  | .list items => itemsClean items
  | .tuple items => itemsClean items
  | .map entries => entriesClean entries
  | _ => false

/-- Tells whether all items of a list are clean. -/
def itemsClean : List Value → Bool
  | [] => true
  | v :: vs => isClean v && itemsClean vs

/-- Tells whether all keys of a mapping are texts without delimiters and all its values clean. -/
def entriesClean : List (Value × Value) → Bool
  | [] => true
  | (.text key, v) :: rest => isPlain key && isClean v && entriesClean rest
  | _ :: _ => false

end

/-- What a literal shows of a value. -/
inductive Tree
  /-- A single word. -/
  | leaf (word : Text)
  /-- A list, or an empty mapping. -/
  | items (trees : List Tree)
  /-- A mapping with entries. -/
  | entries (trees : List (Text × Tree))

/-- The tree of a mapping with the given entries. -/
def Tree.ofEntries : List (Text × Tree) → Tree
  | [] => .items []
  | e :: rest => .entries (e :: rest)

/-- Tells whether a key is empty or starts with a mark that keeps its entry from being written. -/
def isReserved : Text → Bool
  | [] => true
  | c :: _ => c = .scalar '$' || c = .scalar '@'

/-- Tells whether a value is the text `#`, which stands for a value that is still missing. -/
def isHash : Value → Bool
  | .text t => t = Text.ofString "#"
  | _ => false

theorem isPlaceholder_eq_isHash (v : Value) : isPlaceholder v = isHash v := by
  cases v <;> rfl

theorem emitted_eq (entry : Value × Value) :
    emitted entry = (keyAllowed entry.1 && !isHash entry.2) := by
  rw [emitted, isPlaceholder_eq_isHash]

mutual

/-- What the literal of a value shows. -/
def tree : Value → Tree
  | .list items => .items (itemTrees items)
  | .tuple items => .items (itemTrees items)
  | .map entries => .ofEntries (entryTrees entries)
  | v => .leaf (literal v)

/-- What the literals of the items of a list show. -/
def itemTrees : List Value → List Tree
  | [] => []
  | v :: vs => tree v :: itemTrees vs

/-- What the literals of the entries of a mapping show: those with reserved keys are left out. -/
def entryTrees : List (Value × Value) → List (Text × Tree)
  | [] => []
  | (key, v) :: rest =>
    if isReserved key.display then entryTrees rest else (key.display, tree v) :: entryTrees rest

end

/-- What the declarations of a root mapping show: entries with the text `#` are left out as well. -/
def rootTrees (entries : List (Value × Value)) : List (Text × Tree) :=
  entryTrees (entries.filter fun e => !isHash e.2)

namespace Tree

mutual

/-- The literal that shows a tree. -/
def spell : Tree → Text
  | leaf word => word
  | items trees => "(" ++ Text.join "," (spellItems trees) ++ ")"
  | entries trees => "(" ++ Text.join "," (spellEntries trees) ++ ")"

/-- The literals that show several trees. -/
def spellItems : List Tree → List Text
  | [] => []
  | t :: ts => spell t :: spellItems ts

/-- The literals that show trees under their keys. -/
def spellEntries : List (Text × Tree) → List Text
  | [] => []
  | (key, t) :: rest => (key ++ ": " ++ spell t) :: spellEntries rest

end

mutual

/-- The trees whose words and keys are not empty and hold no delimiter, and whose mappings are not
empty. -/
def IsProper : Tree → Prop
  | leaf word => word ≠ [] ∧ isPlain word
  | items trees => ItemsProper trees
  | entries trees => trees ≠ [] ∧ EntriesProper trees

/-- Lists of such trees. -/
def ItemsProper : List Tree → Prop
  | [] => True
  | t :: ts => IsProper t ∧ ItemsProper ts

/-- Entries with such trees. -/
def EntriesProper : List (Text × Tree) → Prop
  | [] => True
  | (key, t) :: rest => (key ≠ [] ∧ isPlain key) ∧ IsProper t ∧ EntriesProper rest

end

theorem ofEntries_isProper {trees : List (Text × Tree)} (h : EntriesProper trees) :
    IsProper (ofEntries trees) := by
  cases trees with
  | nil => exact trivial
  | cons e rest => exact ⟨List.cons_ne_nil e rest, h⟩

theorem spell_ofEntries (trees : List (Text × Tree)) :
    spell (ofEntries trees) = "(" ++ Text.join "," (spellEntries trees) ++ ")" := by
  cases trees with
  | nil => rfl
  | cons e rest => rfl

end Tree

/-! ## Words -/

theorem isPlain_iff {t : Text} : isPlain t ↔ ∀ c ∈ t, c ∉ delimiters := by
  simp [isPlain]

theorem isPlain_cons {c : CodePoint} {t : Text} :
    isPlain (c :: t) = (!delimiters.contains c && isPlain t) := rfl

theorem isPlain_ofChars {cs : List Char} (h : ∀ c ∈ cs, CodePoint.scalar c ∉ delimiters) :
    isPlain (Text.ofChars cs) := by
  rw [isPlain_iff]
  intro c hc
  obtain ⟨a, ha, rfl⟩ := List.mem_map.mp hc
  exact h a ha

theorem digit_notMem_delimiters {c : Char} (h : c.isDigit) : CodePoint.scalar c ∉ delimiters := by
  intro hc
  have : c = '(' ∨ c = ')' ∨ c = ',' ∨ c = ':' ∨ c = '\n' := by
    simpa [delimiters, Text.ofString, Text.ofChars] using hc
  rcases this with rfl | rfl | rfl | rfl | rfl <;> exact absurd h (by decide)

theorem digits_notMem_delimiters (n : Nat) :
    ∀ c ∈ Nat.toDigits 10 n, CodePoint.scalar c ∉ delimiters := fun _ hc =>
  digit_notMem_delimiters (Nat.isDigit_of_mem_toDigits (by decide) (by decide) hc)

theorem isPlain_ofNat (n : Nat) : isPlain (Text.ofNat n) :=
  isPlain_ofChars (digits_notMem_delimiters n)

theorem ofNat_ne_nil (n : Nat) : Text.ofNat n ≠ [] := by
  rw [Text.ofNat, Text.ofChars, Ne, List.map_eq_nil_iff]
  exact Nat.toDigits_ne_nil

theorem isPlain_ofInt (n : Int) : isPlain (Text.ofInt n) := by
  cases n with
  | ofNat n => exact isPlain_ofNat n
  | negSucc n =>
    rw [Text.ofInt, isPlain_cons, isPlain_ofNat]
    rfl

theorem ofInt_ne_nil (n : Int) : Text.ofInt n ≠ [] := by
  cases n with
  | ofNat n => exact ofNat_ne_nil n
  | negSucc n => exact List.cons_ne_nil _ _

/-- Tells whether a character stands in numerals. -/
def inNumeral (c : Char) : Bool := c.isDigit || ['.', 'e', '+', '-'].contains c

theorem inNumeral_digits (n : Nat) : ∀ c ∈ Nat.toDigits 10 n, inNumeral c := by
  intro c hc
  simp [inNumeral, Nat.isDigit_of_mem_toDigits (by decide) (by decide) hc]

theorem inNumeral_zeros (n : Nat) : ∀ c ∈ List.replicate n '0', inNumeral c := by
  intro c hc
  rw [(List.mem_replicate.mp hc).2]
  decide

theorem notMem_delimiters_of_inNumeral {c : Char} (h : inNumeral c) :
    CodePoint.scalar c ∉ delimiters := by
  simp only [inNumeral, Bool.or_eq_true, List.contains_iff_mem] at h
  rcases h with h | h
  · exact digit_notMem_delimiters h
  · have : ∀ a ∈ ['.', 'e', '+', '-'], CodePoint.scalar a ∉ delimiters := by
      simp [delimiters, Text.ofString, Text.ofChars]
    exact this c h

/-- The text of a decimal number is not empty and holds digits, points and signs only. -/
theorem decimal_toText (d : Double.Decimal) :
    ∃ cs : List Char, d.toText = Text.ofChars cs ∧ cs ≠ [] ∧ ∀ c ∈ cs, inNumeral c := by
  have hdigits := inNumeral_digits d.digits
  have hne : Nat.toDigits 10 d.digits ≠ [] := Nat.toDigits_ne_nil
  refine ⟨_, rfl, ?_⟩
  generalize Nat.toDigits 10 d.digits = digits at hdigits hne
  by_cases hpoint : Double.leastPoint ≤ d.point ∧ d.point ≤ Double.greatestPoint
  · -- Without an exponent the point stands before the digits, behind them or among them.
    rw [if_pos hpoint]
    by_cases hsmall : d.point ≤ 0
    · rw [if_pos hsmall]
      refine ⟨by simp, ?_⟩
      simp only [List.cons_append, List.forall_mem_cons, List.forall_mem_append]
      exact ⟨by decide, by decide, inNumeral_zeros _, hdigits⟩
    · rw [if_neg hsmall]
      dsimp only
      by_cases hwhole : digits.length ≤ d.point.toNat
      · rw [if_pos hwhole]
        refine ⟨by simp, ?_⟩
        simp only [List.forall_mem_append]
        exact ⟨⟨hdigits, inNumeral_zeros _⟩, by simp [inNumeral]⟩
      · rw [if_neg hwhole]
        refine ⟨by simp, ?_⟩
        simp only [List.forall_mem_append, List.forall_mem_cons]
        exact ⟨fun c hc => hdigits c (List.mem_of_mem_take hc), by decide,
          fun c hc => hdigits c (List.mem_of_mem_drop hc)⟩
  · -- With an exponent a point is set only if there is more than one digit.
    rw [if_neg hpoint]
    have hsize := inNumeral_digits (d.point - 1).natAbs
    dsimp only
    generalize Nat.toDigits 10 (d.point - 1).natAbs = size at hsize
    have hmark : ∀ c ∈ (if d.point - 1 < 0 then ['e', '-'] else ['e', '+']), inNumeral c := by
      split <;> simp [inNumeral]
    have hpadded : ∀ c ∈ (if size.length < 2 then '0' :: size else size), inNumeral c := by
      split
      · exact List.forall_mem_cons.mpr ⟨by decide, hsize⟩
      · exact hsize
    match digits, hne, hdigits with
    | [first], _, hdigits =>
      refine ⟨by simp, ?_⟩
      simp only [List.forall_mem_append]
      exact ⟨⟨hdigits, hmark⟩, hpadded⟩
    | first :: second :: rest, _, hdigits =>
      refine ⟨by simp, ?_⟩
      simp only [List.forall_mem_append, List.forall_mem_cons] at hdigits ⊢
      exact ⟨⟨⟨hdigits.1, by decide, hdigits.2⟩, hmark⟩, hpadded⟩

/-- The text of a floating-point number is not empty and holds no delimiter. -/
theorem double_toText (x : Double) : x.toText ≠ [] ∧ isPlain x.toText := by
  cases x with
  | nan => decide
  | infinite negative => cases negative <;> decide
  | finite negative mantissa exponent =>
    have hsize : ∀ size : Text, size ≠ [] ∧ isPlain size →
        (if negative then CodePoint.scalar '-' :: size else size) ≠ [] ∧
          isPlain (if negative then CodePoint.scalar '-' :: size else size) := by
      intro size h
      cases negative with
      | true =>
        refine ⟨List.cons_ne_nil _ _, ?_⟩
        rw [if_pos rfl, isPlain_cons, h.2]
        rfl
      | false => exact h
    apply hsize
    split
    · decide
    · obtain ⟨cs, htext, hne, hcs⟩ := decimal_toText (Double.shortest mantissa exponent)
      rw [htext]
      exact ⟨by simpa [Text.ofChars] using hne,
        isPlain_ofChars fun c hc => notMem_delimiters_of_inNumeral (hcs c hc)⟩

/-- The word for a number, a truth value, an absent value or a text without delimiters is not empty
and holds no delimiter. -/
theorem scalarLiteral_isWord {v : Value} (hv : isClean v)
    (hscalar : ¬v matches .list _ | .tuple _ | .map _) :
    scalarLiteral v ≠ [] ∧ isPlain (scalarLiteral v) := by
  cases v with
  | null => decide
  | bool b => cases b <;> decide
  | int n => exact ⟨ofInt_ne_nil n, isPlain_ofInt n⟩
  | double x =>
    simp only [scalarLiteral]
    split
    · exact ⟨ofInt_ne_nil _, isPlain_ofInt _⟩
    · exact double_toText x
  | text t =>
    cases t with
    | nil => decide
    | cons c t =>
      simp only [isClean] at hv
      exact ⟨List.cons_ne_nil c t, hv⟩
  | list items => exact absurd rfl hscalar
  | tuple items => exact absurd rfl hscalar
  | map entries => exact absurd rfl hscalar
  | moment m => simp [isClean] at hv
  | bytes bs => simp [isClean] at hv
  | set items => simp [isClean] at hv
  | circle => simp [isClean] at hv

end Declarations

end StyleImport
