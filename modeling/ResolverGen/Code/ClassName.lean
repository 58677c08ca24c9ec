/-
Names of classes.

A class is named by its package and its simple name. `ofQualified` parts a qualified name at its
last dot, and `qualified` joins it again.
-/
import ResolverGen.Text

namespace ResolverGen.Code

/-- A class by its package, empty for the default one, and its simple name. -/
structure ClassName where
  package : String
  simple : String
deriving DecidableEq, Repr, Inhabited

namespace ClassName

/-- The simple name behind the package and a dot; the simple name alone in the default package. -/
def qualified (c : ClassName) : String :=
  if c.package = "" then c.simple else c.package ++ "." ++ c.simple

/-- Parts a qualified name at its last dot. -/
def ofQualified (name : String) : ClassName :=
  match Text.cutLast? '.' name.toList with
  | some (package, simple) => ⟨String.ofList package, String.ofList simple⟩
  | none => ⟨"", name⟩

end ClassName

/-- The part of a dotted name behind its last dot. -/
def simpleName (name : String) : String := (ClassName.ofQualified name).simple

end ResolverGen.Code
