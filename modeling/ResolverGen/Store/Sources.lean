/-
Sources by the name of the type that they declare.

Each type has one source: a second one is refused, so that what is there never changes.
-/
import ResolverGen.Code.Syntax

namespace ResolverGen

/-- The texts of written units by qualified name, latest first. -/
structure Sources where
  files : List (String × String)
deriving DecidableEq, Repr, Inhabited

namespace Sources

/-- No sources. -/
def empty : Sources := ⟨[]⟩

/-- The source of a type. -/
def find? (s : Sources) (name : String) : Option String := s.files.lookup name

/-- The number of sources. -/
def size (s : Sources) : Nat := s.files.length

/-- The names of the types, sorted. -/
def names (s : Sources) : List String :=
  Order.sortBy (fun a b => decide (a ≤ b)) (s.files.map (·.1))

/-- Adds the source of a unit, unless its type has one; the error says so. -/
def write (s : Sources) (u : Code.SourceUnit) : Except String Sources :=
  match s.find? u.qualifiedName with
  | some _ => .error s!"Attempt to recreate a file for type {u.qualifiedName}"
  | none => .ok ⟨(u.qualifiedName, u.source) :: s.files⟩

end Sources

end ResolverGen
