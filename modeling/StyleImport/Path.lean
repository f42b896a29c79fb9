import StyleImport.Text

/-!
# Paths

A path is the names between its slashes, together with how it starts: nowhere in particular, at
the root, or at the root with exactly two slashes, which are kept apart from one. Empty names and
single dots are dropped when a text is read as a path; two dots are kept, because what they mean
depends on the links on the way.

## Main definitions

- `Path`: a path.
- `Path.ofText`, `Path.toText`: reading and writing.
- `Path.join`: a path seen from another one.
- `Path.parent`, `Path.name`, `Path.suffix`: its parts.
- `Path.normal`: a path with its double dots worked out by the text alone.
-/

namespace StyleImport

/-- How a path starts. -/
inductive Anchor
  /-- Without a slash. -/
  | relative
  /-- With one slash, or with more than two. -/
  | root
  /-- With two slashes. -/
  | doubleRoot
deriving DecidableEq, Inhabited

/-- A path. -/
structure Path where
  /-- How the path starts. -/
  anchor : Anchor
  /-- The names on the path: no empty one and no single dot. -/
  parts : List Text
deriving DecidableEq, Inhabited

namespace Path

/-- How a text starts when it is read as a path. -/
def anchorOf (t : Text) : Anchor :=
  match (t.takeWhile (· = .scalar '/')).length with
  | 0 => .relative
  | 2 => .doubleRoot
  | _ => .root

/-- The names between the slashes of a text. -/
def partsOf (t : Text) : List Text :=
  (Text.split (.scalar '/') t).filter fun p => p ≠ [] ∧ p ≠ [.scalar '.']

/-- The path that a text writes. -/
def ofText (t : Text) : Path := ⟨anchorOf t, partsOf t⟩

/-- The slashes at the start of a path. -/
def Anchor.text : Anchor → Text
  | .relative => ""
  | .root => "/"
  | .doubleRoot => "//"

/-- The text of a path. -/
def toText (p : Path) : Text :=
  let body := Anchor.text p.anchor ++ Text.join "/" p.parts
  if body = [] then "." else body

/-- Tells whether a path starts at the root. -/
def isAbsolute (p : Path) : Bool := p.anchor ≠ .relative

/-- The path `q` seen from `p`: a path that starts at the root stands for itself. -/
def join (p q : Path) : Path :=
  match q.anchor with
  | .relative => ⟨p.anchor, p.parts ++ q.parts⟩
  | _ => q

/-- The path that a text writes, seen from `p`. -/
def child (p : Path) (t : Text) : Path := join p (ofText t)

/-- The last name of a path. -/
def name (p : Path) : Text := p.parts.getLast?.getD []

/-- The ending of a name: from its last dot on, unless the name starts or ends with that dot. -/
def suffixOf (name : Text) : Text :=
  match Text.splitLast (.scalar '.') name with
  | some (before, after) => if before ≠ [] ∧ after ≠ [] then .scalar '.' :: after else []
  | none => []

/-- The ending of the last name. -/
def suffix (p : Path) : Text := suffixOf p.name

/-- The path without its last name. -/
def parent (p : Path) : Path := ⟨p.anchor, p.parts.dropLast⟩

/-- Puts a name behind names that are worked out, the last one first. A double dot takes the name
before it away; at the root it means nothing, and elsewhere it is kept. -/
def pushNormal (absolute : Bool) (done : List Text) (part : Text) : List Text :=
  if part = ".." then
    match done with
    | [] => if absolute then [] else [part]
    | last :: rest => if last = ".." then part :: done else rest
  else part :: done

/-- The path with its double dots worked out by the text alone. -/
def normal (p : Path) : Path :=
  ⟨p.anchor, (p.parts.foldl (pushNormal p.isAbsolute) []).reverse⟩

end Path

end StyleImport
