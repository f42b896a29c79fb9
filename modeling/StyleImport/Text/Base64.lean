/-!
# Bytes written with 64 characters

Three bytes are written as four characters of six bits each. Other characters between them are
skipped. Equals signs stand for characters that are missing at the end; nothing is read behind
them.

## Main definitions

- `Base64.decode?`: the bytes of a text.
-/

namespace StyleImport

namespace Base64

/-- The six bits of a character. -/
def sextet? (c : Char) : Option Nat :=
  if 'A' ≤ c ∧ c ≤ 'Z' then some (c.toNat - 'A'.toNat)
  else if 'a' ≤ c ∧ c ≤ 'z' then some (c.toNat - 'a'.toNat + 26)
  else if '0' ≤ c ∧ c ≤ '9' then some (c.toNat - '0'.toNat + 52)
  else if c = '+' then some 62
  else if c = '/' then some 63
  else none

/-- Reads characters behind `count` characters of a group of four, whose bits that belong to no
byte yet are `bits`, and behind `pads` equals signs. -/
def decodeFrom (count bits pads : Nat) : List Char → Option (List UInt8)
  | [] => if count = 0 then some [] else none
  | c :: rest =>
    if c = '=' then
      if 2 ≤ count ∧ 4 ≤ count + pads + 1 then some [] else decodeFrom count bits (pads + 1) rest
    else match sextet? c with
      | none => decodeFrom count bits pads rest
      | some n =>
        match count with
        | 0 => decodeFrom 1 n 0 rest
        | 1 => (decodeFrom 2 (n % 16) 0 rest).map ((bits * 4 + n / 16).toUInt8 :: ·)
        | 2 => (decodeFrom 3 (n % 4) 0 rest).map ((bits * 16 + n / 4).toUInt8 :: ·)
        | _ => (decodeFrom 0 0 0 rest).map ((bits * 64 + n).toUInt8 :: ·)

/-- The bytes of a text, unless its last group is broken off. -/
def decode? (cs : List Char) : Option (List UInt8) := decodeFrom 0 0 0 cs

end Base64

end StyleImport
