import StyleImport.Value

/-!
# Truth values

Where a truth value is needed, zero and one and some words for it are understood as well.

## Main definitions

- `Value.truth?`: the truth value that a value stands for.
-/

namespace StyleImport

/-- The words that stand for a truth value, in whatever case. -/
def truthWords : List (Text × Bool) :=
  [("true", true), ("t", true), ("yes", true), ("y", true), ("on", true), ("1", true),
   ("false", false), ("f", false), ("no", false), ("n", false), ("off", false), ("0", false)]

/-- The truth value that a word stands for. -/
def truthWord? (t : Text) : Option Bool :=
  (truthWords.find? (·.1 = t.toLowerAscii)).map (·.2)

/-- The truth value that a number stands for. -/
def truthNumber? (n : Int) : Option Bool :=
  if n = 0 then some false else if n = 1 then some true else none

/-- The truth value that a value stands for. -/
def Value.truth? : Value → Option Bool
  | bool b => some b
  | int n => truthNumber? n
  | double x => x.toInt?.bind truthNumber?
  | text t => truthWord? t
  | _ => none

end StyleImport
