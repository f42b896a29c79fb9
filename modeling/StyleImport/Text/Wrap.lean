import StyleImport.Text.Blank
import StyleImport.Text.CellWidth

/-!
# Lines of a limited width

How a text is fitted into lines of a limited number of cells. Some control characters are left out,
tabs become spaces, and each line is broken between words, or between the clusters of a word that is
wider than a line. The blanks behind a word stay with it, and are cut off where they reach beyond
the width.

## Main definitions

- `Text.dropControls`, `Text.expandTabs`: what happens to single characters.
- `Text.words`: the words of a line with the blanks around them.
- `Text.wrapLine`: a line broken into lines of a limited width.
- `Text.wrap`: a text of several lines.
-/

namespace StyleImport

namespace Text

/-- The control characters that are left out: bell, backspace, vertical tab, form feed and carriage
return. -/
def leftOut : Text := "\x07\x08\x0b\x0c\r"

/-- The text without the control characters that are left out. -/
def dropControls (t : Text) : Text := t.filter fun c => !leftOut.contains c

/-- The number of cells between two tab stops. -/
def tabSize : Nat := 8

/-- The pieces of a line that end with its tabs, each tab replaced by spaces up to the next tab
stop. The pieces before them fill `used` cells. -/
def expandPieces (used : Nat) : List Text → List Text
  | [] => []
  | [piece] => [piece]
  | piece :: rest =>
    let spaced := piece ++ [.scalar ' ']
    let size := used + spaced.cellWidth
    let missing := (tabSize - size % tabSize) % tabSize
    (spaced ++ List.replicate missing (.scalar ' ')) :: expandPieces (size + missing) rest

/-- A line with each tab replaced by spaces up to the next tab stop. -/
def expandTabs (t : Text) : Text := (expandPieces 0 (split (.scalar '\t') t)).flatten

/-- The words of a line. The blanks at the start of the line belong to the first word, all others
to the word before them. A line of blanks has no words. -/
def words (t : Text) : List Text :=
  let lead := t.takeWhile (·.isBlank)
  let rest := t.dropWhile (·.isBlank)
  let core := rest.takeWhile (!·.isBlank)
  let behind := rest.dropWhile (!·.isBlank)
  let trail := behind.takeWhile (·.isBlank)
  if core = [] then []
  else (lead ++ core ++ trail) :: words (behind.dropWhile (·.isBlank))
termination_by t.length
decreasing_by
  rename_i h
  have h₁ : (behind.dropWhile (·.isBlank)).length ≤ behind.length :=
    (List.dropWhile_suffix _).length_le
  have h₂ : rest.length ≤ t.length := (List.dropWhile_suffix _).length_le
  have h₃ : (core ++ behind).length = rest.length :=
    congrArg List.length List.takeWhile_append_dropWhile
  rw [List.length_append] at h₃
  have h₄ : 0 < core.length := List.length_pos_iff.2 h
  change (behind.dropWhile (·.isBlank)).length < t.length
  omega

/-- The pieces of clusters that fit into a width, as long as they can be. The text so far is
`piece`, which fills `used` cells. -/
def chop (width : Nat) (piece : Text) (used : Nat) : List Cluster → List Text
  | [] => [piece]
  | c :: cs =>
    if width < used + c.width then piece :: chop width c.text c.width cs
    else chop width (piece ++ c.text) (used + c.width) cs

/-- The longest start of clusters that fits into a width. Half of a wide character at the end
becomes a space. -/
def cutClusters : Nat → List Cluster → Text
  | _, [] => []
  | width, c :: cs =>
    if width = 0 then []
    else if c.width ≤ width then c.text ++ cutClusters (width - c.width) cs
    else [.scalar ' ']

/-- The text without the blanks at its end by which it has more code points than `count`. -/
def cropBlanks (count : Nat) (t : Text) : Text :=
  let blanks := (t.reverse.takeWhile (·.isBlank)).length
  t.take (t.length - min blanks (t.length - count))

/-- A line that is cut off at a width. -/
def cut (width : Nat) (t : Text) : Text :=
  let cropped := cropBlanks width t
  if cropped.cellWidth ≤ width then cropped else cutClusters width cropped.clusters

/-- Lines that are being filled. -/
structure Filling where
  /-- The lines before the last one, the last of them first. -/
  done : List Text
  /-- The last line. -/
  line : Text
  /-- The number of cells that the last line fills. -/
  used : Nat

/-- Starts a new line with a text. -/
def Filling.startLine (f : Filling) (t : Text) : Filling := ⟨f.line :: f.done, t, t.cellWidth⟩

/-- Adds a word to lines of a limited width. -/
def Filling.addWord (width : Nat) (f : Filling) (word : Text) : Filling :=
  let size := (dropEndWhile (·.isBlank) word).cellWidth
  if f.used + size ≤ width then ⟨f.done, f.line ++ word, f.used + word.cellWidth⟩
  else if width < size then
    match chop width [] 0 word.clusters with
    | [] => f
    | first :: rest =>
      let f := if f.line = [] ∧ f.done = [] then ⟨[], first, first.cellWidth⟩ else f.startLine first
      rest.foldl Filling.startLine f
  else f.startLine word

/-- A line broken into lines of a limited width. -/
def wrapLine (width : Nat) (t : Text) : List Text :=
  match words t with
  | [] => [cut width t]
  | ws =>
    let f := ws.foldl (Filling.addWord width) ⟨[], [], 0⟩
    ((f.line :: f.done).reverse).map (cut width)

/-- A text of several lines broken into lines of a limited width. -/
def wrap (width : Nat) (t : Text) : Text :=
  join "\n" ((split (.scalar '\n') (dropControls t)).flatMap fun line =>
    wrapLine width (expandTabs line))

/-- A text of several lines with its lines left as long as they are. -/
def unwrapped (t : Text) : Text :=
  join "\n" ((split (.scalar '\n') (dropControls t)).map expandTabs)

end Text

end StyleImport
