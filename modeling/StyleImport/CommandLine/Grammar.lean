import StyleImport.Text.Quoted

/-!
# The grammar of a command line

The words of a command line are options and operands. An option starts with a dash. A long one
stands for itself, and its text follows in the same word after an equals sign or is the next word.
Short ones of a single letter can share a word, where the rest of the word is the text of the first
one that has a text. The word of two dashes ends the options.

The options of one command are a type; a grammar says how they are spelled.

## Main definitions

- `Grammar`: the spellings of the options of a command.
- `Grammar.Fault`: why words cannot be read.
- `Grammar.read`: the options and operands that words stand for.
-/

namespace StyleImport

/-- The spellings of the options of a command. -/
structure Grammar (α : Type) where
  /-- The options without a text. -/
  switches : List (Text × α)
  /-- The options with a text. -/
  settings : List (Text × (Text → α))
  /-- Tells whether options may follow operands. -/
  interspersed : Bool

namespace Grammar

variable {α : Type}

/-- Why words cannot be read. -/
inductive Fault
  /-- The command has no option with this name. -/
  | unknown (name : Text)
  /-- The text of an option is missing. -/
  | textMissing (name : Text)
  /-- An option without a text is given one. -/
  | textRefused (name : Text)
deriving DecidableEq

/-- The wording of a fault. -/
def Fault.message : Fault → Text
  | unknown name => "No such option " ++ name.quoted ++ "."
  | textMissing name => "Option " ++ name.quoted ++ " requires an argument."
  | textRefused name => "Option " ++ name.quoted ++ " does not take a value."

/-- An option that waits for its text. -/
structure Waiting (α : Type) where
  /-- The name of the option. -/
  name : Text
  /-- The option with its text. -/
  withText : Text → α

/-- What a word stands for: options, and perhaps one that waits for its text. -/
abbrev Reading (α : Type) := List α × Option (Waiting α)

/-- The switch with a spelling. -/
def switch? (g : Grammar α) (name : Text) : Option α :=
  (g.switches.find? (·.1 = name)).map (·.2)

/-- The option with a text that has a spelling. -/
def setting? (g : Grammar α) (name : Text) : Option (Text → α) :=
  (g.settings.find? (·.1 = name)).map (·.2)

/-- Tells whether a spelling is that of a short option. -/
def isShort (name : Text) : Bool := name.length = 2

/-- Tells whether a word holds options: it starts with a dash and goes on. -/
def isOptionWord (word : Text) : Bool :=
  word.head? = some (.scalar '-') && word.length ≠ 1

/-- What the letters of a word stand for. -/
def readLetters (g : Grammar α) : Text → Except Fault (Reading α)
  | [] => .ok ([], none)
  | letter :: rest =>
    let name : Text := [.scalar '-', letter]
    match g.switch? name, g.setting? name with
    | some a, _ => (g.readLetters rest).map fun r => (a :: r.1, r.2)
    | none, some withText =>
      if rest = [] then .ok ([], some ⟨name, withText⟩) else .ok ([withText rest], none)
    | none, none => .error (.unknown name)

/-- The name of a long option in a word, and the text after the first equals sign. -/
def splitWord (word : Text) : Text × Option Text :=
  let name := word.takeWhile (· ≠ .scalar '=')
  match word.drop name.length with
  | [] => (name, none)
  | _ :: text => (name, some text)

/-- What a word stands for that does not spell a long option. -/
def readOther (g : Grammar α) (name word : Text) : Except Fault (Reading α) :=
  if (Text.ofString "--").isPrefixOf word then .error (.unknown name)
  else g.readLetters (word.drop 1)

/-- What a word with options stands for. -/
def readWord (g : Grammar α) (word : Text) : Except Fault (Reading α) :=
  let (name, text) := splitWord word
  if isShort name then g.readOther name word
  else match g.switch? name, g.setting? name, text with
    | some a, _, none => .ok ([a], none)
    | some _, _, some _ => .error (.textRefused name)
    | none, some withText, none => .ok ([], some ⟨name, withText⟩)
    | none, some withText, some text => .ok ([withText text], none)
    | none, none, _ => g.readOther name word

/-- Puts options before those that were read. -/
def putFirst (given : List α) (r : List α × List Text) : List α × List Text :=
  (given ++ r.1, r.2)

/-- The options and operands that words stand for, each in their order. -/
def read (g : Grammar α) : List Text → Except Fault (List α × List Text)
  | [] => .ok ([], [])
  | word :: rest =>
    if word = Text.ofString "--" then .ok ([], rest)
    else if isOptionWord word then
      match g.readWord word with
      | .error fault => .error fault
      | .ok (given, none) => (g.read rest).map (putFirst given)
      | .ok (given, some waiting) =>
        match rest with
        | [] => .error (.textMissing waiting.name)
        | text :: rest => (g.read rest).map (putFirst (given ++ [waiting.withText text]))
    else if g.interspersed then
      (g.read rest).map fun r => (r.1, word :: r.2)
    else .ok ([], word :: rest)

end Grammar

end StyleImport
