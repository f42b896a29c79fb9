import StyleImport.Value

/-!
# The order of a set

A set shows its members in the order of a table with open places. A number is put at the place
that its remainder by a Mersenne prime names, or at one of the next nine; if all of these are
taken, the search goes on elsewhere. Members that are no numbers have no fixed places, and a set
that holds one keeps the order in which its members came.

## Main definitions

- `Value.placeNumber?`: the number that names the place of a member.
- `Value.setOrder`: the members of a set in the order of the table.
-/

namespace StyleImport

namespace Value

/-- The prime by which numbers are reduced. -/
def placeModulus : Nat := 2305843009213693951

/-- The number of bits of the prime. -/
def placeBits : Nat := 61

/-- The number that names the place of a quotient of a natural number by a power of two, with a
sign. As the power with the bits of the prime leaves the remainder one, dividing is multiplying by
another power. -/
def quotientPlace (negative : Bool) (mantissa : Nat) (exponent : Int) : Nat :=
  let power := Double.pow2 (exponent % placeBits).toNat
  let rest := mantissa * power % placeModulus
  if !negative || rest = 0 then rest
  else Double.pow2 64 - (if rest = 1 then 2 else rest)

/-- The number that names the place of a value, if it is a number. -/
def placeNumber? : Value → Option Nat
  | bool b => some b.toNat
  | int n => some (quotientPlace (n < 0) n.natAbs 0)
  | double (.finite negative mantissa exponent) => some (quotientPlace negative mantissa exponent)
  | _ => none

/-- The number of places of a table for a number of members. -/
def tableSize (members : Nat) : Nat :=
  if members < 5 then 8 else grow members 8
where
  /-- Doubles a size until it is more than twice a number. The fuel is this number. -/
  grow (n : Nat) (size : Nat) : Nat :=
    (List.replicate n ()).foldl (fun size _ => if size ≤ 2 * n then 2 * size else size) size

/-- The first free one of the place `i` and the nine behind it. Places too near to the end of the
table stand alone. -/
def freeNear? (table : Array (Option Value)) (i : Nat) : Option Nat :=
  let isFree (j : Nat) : Bool := (table[j]?.getD none).isNone
  let last := if i + 9 < table.size then 9 else 0
  ((List.range (last + 1)).map (i + ·)).find? isFree

/-- The free place for a member, from the place `i` on. The fuel bounds the number of places where
the search goes on. -/
def freePlace? (table : Array (Option Value)) : Nat → Nat → Nat → Option Nat
  | 0, _, _ => none
  | fuel + 1, i, stir =>
    match freeNear? table i with
    | some j => some j
    | none =>
      let stir := stir / 32
      freePlace? table fuel ((i * 5 + 1 + stir) % table.size) stir

/-- Puts a member with its number into the table. -/
def placeMember (table : Array (Option Value)) (member : Nat × Value) : Array (Option Value) :=
  match freePlace? table (2 * table.size + 16) (member.1 % table.size) member.1 with
  | some i => table.setIfInBounds i (some member.2)
  | none => table

/-- The members of a set in the order of the table. -/
def setOrder (items : List Value) : List Value :=
  match items.mapM fun v => v.placeNumber?.map (·, v) with
  | none => items
  | some members =>
    let empty : Array (Option Value) := Array.replicate (tableSize items.length) none
    (members.foldl placeMember empty).toList.filterMap id

end Value

end StyleImport
