import StyleImport.Value.Display

/-!
# Declarations

A mapping of values becomes one variable declaration for each of its entries. A list becomes a
list literal and a mapping inside it a map literal; all other values are written as they stand in
the manifest, whose author has to spell them as the style sheet language wants them.

Some entries are left out at every depth: those whose key is empty or starts with a character that
has a meaning in the style sheet language. At the outside, an entry whose value is a single hash
mark is a placeholder and left out too.

## Main definitions

- `Declarations.keyAllowed`: which keys are written.
- `Declarations.literal`: the literal of a value.
- `Declarations.emitted`: which entries of the root mapping are written.
- `Declarations.ofEntries`: the declarations of a root mapping.
- `Declarations.render`: the declarations of a root mapping, if all that is in them can be written.
-/

namespace StyleImport

namespace Declarations

/-- The characters that no key may start with. -/
def reservedMarks : Text := "$@:"

/-- Tells whether a key text may name a variable or a map entry. -/
def nameAllowed : Text → Bool
  | [] => false
  | c :: _ => !reservedMarks.contains c

/-- Tells whether an entry with this key is written. -/
def keyAllowed (key : Value) : Bool := nameAllowed key.display

/-- The value that marks an entry of the root mapping as a placeholder. -/
def placeholder : Text := "#"

/-- Tells whether a value marks a placeholder. -/
def isPlaceholder : Value → Bool
  | .text t => t = placeholder
  | _ => false

/-- The literal of a value that is neither a list nor a mapping. -/
def scalarLiteral : Value → Text
  | .bool true => "true"
  | .bool false => "false"
  | .null => "null"
  | .double x =>
    match x.toInt? with
    | some n => Text.ofInt n
    | none => x.toText
  | .text [] => "\"\""
  | v => v.display

mutual

/-- The literal of a value. -/
def literal : Value → Text
  | .list items => "(" ++ Text.join "," (itemLiterals items) ++ ")"
  | .tuple items => "(" ++ Text.join "," (itemLiterals items) ++ ")"
  | .map entries => "(" ++ Text.join "," (entryLiterals entries) ++ ")"
  | v => scalarLiteral v

/-- The literals of the items of a list. -/
def itemLiterals : List Value → List Text
  | [] => []
  | v :: vs => literal v :: itemLiterals vs

/-- The literals of the entries of a mapping that are written. -/
def entryLiterals : List (Value × Value) → List Text
  | [] => []
  | (key, v) :: rest =>
    if keyAllowed key then (key.display ++ ": " ++ literal v) :: entryLiterals rest
    else entryLiterals rest

end

/-- Tells whether an entry of the root mapping is written. -/
def emitted (entry : Value × Value) : Bool := keyAllowed entry.1 && !isPlaceholder entry.2

/-- The declaration of one entry. -/
def declaration (entry : Value × Value) : Text :=
  .scalar '$' :: entry.1.display ++ ": " ++ literal entry.2 ++ ";"

/-- The declarations of a root mapping, one on each line. -/
def ofEntries (entries : List (Value × Value)) : Text :=
  Text.join "\n" ((entries.filter emitted).map declaration)

/-- Why a value has no literal. -/
inductive Fault
  /-- The value holds itself. -/
  | circular
  /-- An integer has too many digits. -/
  | unwritable
deriving DecidableEq

/-- The wording of a fault. -/
def Fault.message : Fault → Text
  | circular => ""
  | unwritable => Numeral.unwritableMessage

/-- Why a value cannot be displayed, if it cannot. -/
def displayFault? (v : Value) : Option Fault := if v.isWritable then none else some .unwritable

mutual

/-- Why a value has no literal, if it has none: the first reason that is met from left to right. -/
def fault? : Value → Option Fault
  | .list items => itemsFault? items
  | .tuple items => itemsFault? items
  | .map entries => entriesFault? entries
  | .circle => some .circular
  | v => displayFault? v

/-- Why one of the items of a list has no literal, if one has none. -/
def itemsFault? : List Value → Option Fault
  | [] => none
  | v :: vs => (fault? v).or (itemsFault? vs)

/-- Why one of the entries of a mapping cannot be written, if one cannot. The keys of entries that
are left out count as well. -/
def entriesFault? : List (Value × Value) → Option Fault
  | [] => none
  | (key, v) :: rest =>
    ((displayFault? key).or (if keyAllowed key then fault? v else none)).or (entriesFault? rest)

end

/-- Why one of the entries of a root mapping cannot be written, if one cannot. -/
def rootFault? (entries : List (Value × Value)) : Option Fault :=
  entries.findSome? fun e =>
    (displayFault? e.1).or (if emitted e then fault? e.2 else none)

/-- The declarations of a root mapping, if all that is in them can be written. -/
def render (entries : List (Value × Value)) : Except Fault Text :=
  match rootFault? entries with
  | none => .ok (ofEntries entries)
  | some fault => .error fault

end Declarations

end StyleImport
