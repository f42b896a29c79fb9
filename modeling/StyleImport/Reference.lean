import StyleImport.Text

/-!
# References

The target of an import statement. A reference that starts with a tilde names an installed package
and perhaps a path inside it; any other reference is a path seen from the importing file.

A package name is one segment, or two if the first one starts with the scope mark. What follows the
name, after a slash, is the path inside the package.

## Main definitions

- `Reference.isDependency`, `Reference.isScoped`: the two kinds of marks.
- `Dependency`: the parts of a reference to a package.
- `Dependency.parse?`: the parts of a reference, if it names a package.
- `Dependency.toReference`: the reference with given parts.
-/

namespace StyleImport

/-- The text of an import statement that names what is imported. -/
abbrev Reference := Text

namespace Reference

/-- Tells whether a reference names a package. -/
def isDependency (r : Reference) : Bool := r.head? = some (.scalar '~')

/-- Tells whether a reference to a package names a scoped one. -/
def isScoped (r : Reference) : Bool := r[1]? = some (.scalar '@')

end Reference

/-- The parts of a reference to a package. -/
structure Dependency where
  /-- The name that the package is installed under. -/
  package : Text
  /-- The path inside the package; empty for the entry points of the package. -/
  subpath : Text
  /-- The scope of the package, without its mark. -/
  scope : Option Text
deriving DecidableEq

namespace Dependency

/-- The parts of a reference. There are none if the reference does not start with a tilde, if the
name is empty, or if the scope or the name within it is empty. -/
def parse? (r : Reference) : Option Dependency :=
  if Reference.isDependency r then
    let segments := Text.split (.scalar '/') (r.drop 1)
    if Reference.isScoped r then
      match segments with
      | scope :: name :: rest =>
        if name = [] ∨ scope.drop 1 = [] then none
        else some ⟨scope ++ "/" ++ name, Text.join "/" rest, some (scope.drop 1)⟩
      | _ => none
    else
      match segments with
      | [] => none
      | name :: rest => if name = [] then none else some ⟨name, Text.join "/" rest, none⟩
  else none

/-- The reference with given parts. -/
def toReference (d : Dependency) : Reference :=
  .scalar '~' :: d.package ++ (if d.subpath = [] then [] else .scalar '/' :: d.subpath)

end Dependency

end StyleImport
