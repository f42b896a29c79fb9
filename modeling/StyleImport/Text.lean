/-!
# Text

Text is a list of code points. A code point is a Unicode scalar value or one half of a
surrogate pair that stands alone: value files may name such a half by an escape, and it can
travel through keys, strings and paths until something has to be written as bytes.

## Main definitions

- `CodePoint`: a scalar value or a lone surrogate.
- `Text`: the texts that the library reads, computes and prints.
- `Text.split`, `Text.splitLast`, `Text.join`: texts seen as pieces between separators.
- `Text.before`: the order by code points.
-/

namespace StyleImport

/-- A Unicode code point: a scalar value, or a surrogate counted from the first one. -/
inductive CodePoint
  /-- A Unicode scalar value. -/
  | scalar (c : Char)
  /-- The surrogate `0xD800 + index`. -/
  | surrogate (index : Fin 2048)
deriving DecidableEq, Inhabited

namespace CodePoint

/-- The number of a code point. -/
def toNat : CodePoint → Nat
  | scalar c => c.toNat
  | surrogate i => 0xD800 + i.val

/-- The code point of a number, if there is one. -/
def ofNat? (n : Nat) : Option CodePoint :=
  if h : 0xD800 ≤ n ∧ n < 0xE000 then some (surrogate ⟨n - 0xD800, by omega⟩)
  else if n < 0x110000 then some (scalar (Char.ofNat n))
  else none

instance : Coe Char CodePoint := ⟨scalar⟩

/-- Tells whether a code point is a lone surrogate. -/
def isSurrogate : CodePoint → Bool
  | scalar _ => false
  | surrogate _ => true

/-- Tells whether a code point is an ASCII letter or digit. -/
def isAsciiAlphanumeric : CodePoint → Bool
  | scalar c => c.isAlphanum
  | surrogate _ => false

end CodePoint

/-- A list of code points. -/
abbrev Text := List CodePoint

namespace Text

/-- The text of a list of characters. -/
def ofChars (cs : List Char) : Text := cs.map .scalar

/-- The text that a string literal shows. -/
def ofString (s : String) : Text := ofChars s.toList

instance : Coe String Text := ⟨ofString⟩

/-- The characters of a text, if no surrogate stands alone in it. -/
def toChars? : Text → Option (List Char)
  | [] => some []
  | .scalar c :: t => (toChars? t).map (c :: ·)
  | .surrogate _ :: _ => none

/-- The decimal digits of a number. -/
def ofNat (n : Nat) : Text := ofChars (Nat.toDigits 10 n)

/-- The decimal digits of a number, after a minus sign if it is negative. -/
def ofInt : Int → Text
  | .ofNat n => ofNat n
  | .negSucc n => .scalar '-' :: ofNat (n + 1)

/-- The lower-case hexadecimal digits of a number, filled with zeros to a width. -/
def ofNatHex (width n : Nat) : Text :=
  let digits := Nat.toDigits 16 n
  ofChars (List.replicate (width - digits.length) '0' ++ digits)

/-- The decimal digits of a number, filled with zeros to a width. -/
def ofNatPadded (width n : Nat) : Text :=
  let digits := Nat.toDigits 10 n
  ofChars (List.replicate (width - digits.length) '0' ++ digits)

/-- The pieces of a text between the occurrences of a separator; there is always one. -/
def split (sep : CodePoint) : Text → List Text
  | [] => [[]]
  | c :: t =>
    if c = sep then [] :: split sep t
    else match split sep t with
      | [] => [[c]]
      | piece :: pieces => (c :: piece) :: pieces

/-- The pieces with a separator between them. -/
def join (sep : Text) (pieces : List Text) : Text := List.intercalate sep pieces

/-- What stands before and after the last occurrence of a separator, if it occurs. -/
def splitLast (sep : CodePoint) (t : Text) : Option (Text × Text) :=
  if t.contains sep then
    let tail := (t.reverse.takeWhile (· ≠ sep)).reverse
    some (t.take (t.length - tail.length - 1), tail)
  else none

/-- The text without the longest ending whose code points all satisfy a test. -/
def dropEndWhile (p : CodePoint → Bool) (t : Text) : Text := (t.reverse.dropWhile p).reverse

/-- Replaces every run of code points that satisfy a test by one code point. -/
def squeeze (p : CodePoint → Bool) (by_ : CodePoint) : Text → Text
  | [] => []
  | [c] => if p c then [by_] else [c]
  | c :: d :: t =>
    if p c then
      if p d then squeeze p by_ (d :: t) else by_ :: squeeze p by_ (d :: t)
    else c :: squeeze p by_ (d :: t)

/-- Tells whether a text comes before another one in the order by code points. -/
def before : Text → Text → Bool
  | _, [] => false
  | [], _ :: _ => true
  | a :: s, b :: t =>
    if a.toNat < b.toNat then true else if b.toNat < a.toNat then false else before s t

/-- The text with ASCII capitals made small. -/
def toLowerAscii (t : Text) : Text :=
  t.map fun
    | .scalar c => .scalar c.toLower
    | c => c

/-- Fills a text with spaces up to a length. -/
def padEnd (width : Nat) (t : Text) : Text := t ++ List.replicate (width - t.length) (.scalar ' ')

end Text

end StyleImport
