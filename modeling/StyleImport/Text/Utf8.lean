import StyleImport.Text

/-!
# Bytes of a text

The UTF-8 form of texts. Reading tells apart three faults and says where the faulty bytes lie:
a byte that starts no character, a character that is broken off by another byte, and one that is
broken off by the end. Lenient reading puts one replacement character for each faulty stretch,
which is the longest start of a character found there, or else a single byte.

## Main definitions

- `Utf8.encodeChar`, `Utf8.encode?`: from characters to bytes. A lone surrogate has no bytes.
- `Utf8.take`: the first character of a list of bytes, or the faulty stretch it starts with.
- `Utf8.decode`: strict reading.
- `Utf8.decodeLenient`: reading with replacement.
- `Utf8.unifyLineEnds`: carriage returns, alone or before a line feed, read as line feeds.
-/

namespace StyleImport

namespace Utf8

/-- The bytes of a character. -/
def encodeChar (c : Char) : List UInt8 :=
  let n := c.toNat
  if n < 0x80 then [n.toUInt8]
  else if n < 0x800 then [(0xC0 + n / 0x40).toUInt8, (0x80 + n % 0x40).toUInt8]
  else if n < 0x10000 then
    [(0xE0 + n / 0x1000).toUInt8, (0x80 + n / 0x40 % 0x40).toUInt8, (0x80 + n % 0x40).toUInt8]
  else
    [(0xF0 + n / 0x40000).toUInt8, (0x80 + n / 0x1000 % 0x40).toUInt8,
     (0x80 + n / 0x40 % 0x40).toUInt8, (0x80 + n % 0x40).toUInt8]

/-- The bytes of a list of characters. -/
def encodeChars (cs : List Char) : List UInt8 := cs.flatMap encodeChar

/-- A stretch of lone surrogates in a text, which cannot be written as bytes. -/
structure EncodeFault where
  /-- The index of the first surrogate. -/
  start : Nat
  /-- The surrogates of the stretch. -/
  run : Text
deriving DecidableEq

/-- The first stretch of surrogates of a text, whose first code point has index `i`. -/
def firstSurrogates (i : Nat) : Text → Option EncodeFault
  | [] => none
  | c :: t =>
    if c.isSurrogate then some ⟨i, c :: t.takeWhile (·.isSurrogate)⟩
    else firstSurrogates (i + 1) t

/-- The bytes of a text, unless it holds a lone surrogate. -/
def encode? (t : Text) : Except EncodeFault (List UInt8) :=
  match firstSurrogates 0 t with
  | some fault => .error fault
  | none => .ok (t.flatMap fun
      | .scalar c => encodeChar c
      | .surrogate _ => [])

/-- Why a stretch of bytes is no character. -/
inductive FaultKind
  /-- No character starts with this byte. -/
  | badStart
  /-- A byte that cannot continue the character follows. -/
  | badContinuation
  /-- The bytes end inside the character. -/
  | truncated
deriving DecidableEq

/-- The number of bytes that a character with this first byte has, and the least and the greatest
second byte. -/
def leadBounds (b : UInt8) : Option (Nat × UInt8 × UInt8) :=
  if b < 0xC2 then none
  else if b < 0xE0 then some (2, 0x80, 0xBF)
  else if b = 0xE0 then some (3, 0xA0, 0xBF)
  else if b = 0xED then some (3, 0x80, 0x9F)
  else if b < 0xF0 then some (3, 0x80, 0xBF)
  else if b = 0xF0 then some (4, 0x90, 0xBF)
  else if b < 0xF4 then some (4, 0x80, 0xBF)
  else if b = 0xF4 then some (4, 0x80, 0x8F)
  else none

/-- What a list of bytes starts with. -/
inductive Start
  /-- A character, and the number of its bytes less one. -/
  | char (c : Char) (more : Nat)
  /-- A faulty stretch, and the number of its bytes less one. -/
  | fault (kind : FaultKind) (more : Nat)
deriving DecidableEq

/-- Reads `wanted` further bytes of a character whose bits so far are `bits`, where `more` bytes
are read behind the first one. -/
def takeTails (bits more : Nat) : Nat → List UInt8 → Start
  | 0, _ => .char (Char.ofNat bits) more
  | _ + 1, [] => .fault .truncated more
  | wanted + 1, b :: rest =>
    if 0x80 ≤ b ∧ b ≤ 0xBF then takeTails (bits * 0x40 + (b.toNat - 0x80)) (more + 1) wanted rest
    else .fault .badContinuation more

/-- What a list of bytes starts with, from its first byte and the rest. -/
def take (b : UInt8) (rest : List UInt8) : Start :=
  if b < 0x80 then .char (Char.ofNat b.toNat) 0
  else match leadBounds b with
    | none => .fault .badStart 0
    | some (size, low, high) =>
      match rest with
      | [] => .fault .truncated 0
      | c :: tail =>
        if low ≤ c ∧ c ≤ high then
          let lead := if size = 2 then b.toNat - 0xC0
            else if size = 3 then b.toNat - 0xE0 else b.toNat - 0xF0
          takeTails (lead * 0x40 + (c.toNat - 0x80)) 1 (size - 2) tail
        else .fault .badContinuation 0

/-- A faulty stretch among the bytes of a file. -/
structure DecodeFault where
  /-- Why the stretch is no character. -/
  kind : FaultKind
  /-- The index of its first byte. -/
  start : Nat
  /-- Its first byte. -/
  byte : UInt8
  /-- The number of its bytes. -/
  length : Nat
deriving DecidableEq

/-- Strict reading of bytes, the first of which has index `i`. -/
def decodeFrom (i : Nat) : List UInt8 → Except DecodeFault (List Char)
  | [] => .ok []
  | b :: rest =>
    match take b rest with
    | .fault kind more => .error ⟨kind, i, b, more + 1⟩
    | .char c more => (decodeFrom (i + more + 1) (rest.drop more)).map (c :: ·)
termination_by bytes => bytes.length
decreasing_by simp only [List.length_drop, List.length_cons]; omega

/-- Strict reading of the bytes of a file. -/
def decode (bytes : List UInt8) : Except DecodeFault (List Char) := decodeFrom 0 bytes

/-- The character that stands for a faulty stretch. -/
def replacement : Char := '\uFFFD'

/-- Reading with a replacement character for each faulty stretch. -/
def decodeLenient : List UInt8 → List Char
  | [] => []
  | b :: rest =>
    match take b rest with
    | .fault _ more => replacement :: decodeLenient (rest.drop more)
    | .char c more => c :: decodeLenient (rest.drop more)
termination_by bytes => bytes.length
decreasing_by all_goals simp only [List.length_drop, List.length_cons]; omega

/-- Reads a carriage return, alone or before a line feed, as a line feed. -/
def unifyLineEnds : List Char → List Char
  | [] => []
  | '\r' :: '\n' :: t => '\n' :: unifyLineEnds t
  | '\r' :: t => '\n' :: unifyLineEnds t
  | c :: t => c :: unifyLineEnds t

end Utf8

end StyleImport
