/-
Class names in a compilation unit.

A scope knows what each simple name means in its unit: the type that the unit declares, and the
classes referred to so far. The first class to ask for a simple name gets it, every other class of
that simple name is written in full, and a class of another package that got its name is imported.
-/
import ResolverGen.Code.ClassName
import ResolverGen.Order

namespace ResolverGen.Code

/-- The text of a class name in a unit, and the class that it is meant to denote. -/
structure TypeName where
  text : String
  denotes : ClassName
deriving DecidableEq, Repr, Inhabited

/-- The simple names of a unit and its imports. -/
structure Scope where
  package : String
  typeName : String
  /-- Simple names with the qualified names that they stand for. -/
  names : List (String × String)
  /-- Qualified names of the imported classes, in no particular order. -/
  imported : List String
deriving Repr, Inhabited

namespace Scope

/-- The class that the unit declares. -/
def declared (s : Scope) : ClassName := ⟨s.package, s.typeName⟩

/-- The scope of a unit that refers to no class yet. -/
def ofUnit (package typeName : String) : Scope :=
  { package, typeName
    names := [(typeName, (ClassName.mk package typeName).qualified)]
    imported := [] }

/-- The name of a class in this unit, imported if it has to be. -/
def refer (s : Scope) (c : ClassName) : TypeName × Scope :=
  match s.names.lookup c.simple with
  | some meaning =>
    if meaning = c.qualified then (⟨c.simple, c⟩, s) else (⟨c.qualified, c⟩, s)
  | none =>
    (⟨c.simple, c⟩,
      { s with
        names := (c.simple, c.qualified) :: s.names
        imported :=
          if c.package = "" || c.package = s.package then s.imported
          else c.qualified :: s.imported })

/-- The names of several classes in this unit, referred to in order. -/
def referAll (s : Scope) : List ClassName → List TypeName × Scope
  | [] => ([], s)
  | c :: cs =>
    let (name, s) := s.refer c
    let (names, s) := s.referAll cs
    (name :: names, s)

/-- The imported classes, sorted. -/
def imports (s : Scope) : List String := Order.sortedSet s.imported

/-- The comment on the first line of every unit. -/
def banner : String := "// Generated by storio-codegen. Do not modify!"

/-- The text of the unit whose type is written as `code`. -/
def render (s : Scope) (code : String) : String :=
  let packageLine := if s.package = "" then "" else "package " ++ s.package ++ ";\n\n"
  let importLines :=
    match s.imports with
    | [] => ""
    | names => String.join (names.map fun name => "import " ++ name ++ ";\n") ++ "\n"
  banner ++ "\n" ++ packageLine ++ importLines ++ code

end Scope

/-- Appends a step to a path. A step that starts with a slash starts the path anew. -/
def joinPath (path step : String) : String :=
  if step.toList.head? = some '/' then step
  else if path = "" || path.toList.getLast? = some '/' then path ++ step
  else path ++ "/" ++ step

/-- The path of a unit's file below the output directory. -/
def Scope.path (s : Scope) : String :=
  let folders := (Text.splitAt '.' s.package.toList).map String.ofList |>.filter (· != "")
  joinPath (folders.foldl joinPath "") (s.typeName ++ ".java")

end ResolverGen.Code
