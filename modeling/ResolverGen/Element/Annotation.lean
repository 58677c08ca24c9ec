/-
Annotations as they stand on an element.

An annotation is written `@name` or `@name(arguments)`. Reading one keeps the name and the trimmed
arguments; arguments that are empty count as absent. An annotation denotes a type by its qualified
name or, written without a package, by its simple name.
-/
import ResolverGen.Code.ClassName
import ResolverGen.Unicode.Blank

namespace ResolverGen

/-- An annotation: the name as written and the text of its arguments. -/
structure Annotation where
  name : String
  arguments : Option String
deriving DecidableEq, Repr, Inhabited

/-- Why a text is no annotation. -/
inductive AnnotationFault where
  | missingMark
  | unbalanced
  | badName
deriving DecidableEq, Repr

/-- The wording of a reason. -/
def AnnotationFault.message : AnnotationFault → String
  | .missingMark => "missing leading `@`"
  | .unbalanced => "unbalanced parentheses"
  | .badName => "invalid annotation type name"

namespace Annotation

/-- The characters of an annotation's name. -/
def isNameChar (c : Char) : Bool := c.isAlphanum || c == '_' || c == '$' || c == '.'

/-- A name is a run of name characters that neither starts nor ends with a dot. -/
def isName (cs : List Char) : Bool :=
  cs ≠ [] && cs.head? ≠ some '.' && cs.getLast? ≠ some '.' && cs.all isNameChar

/-- Parts a text at its first opening parenthesis. -/
def cutAtParen : List Char → List Char × Option (List Char)
  | [] => ([], none)
  | c :: cs =>
    if c = '(' then ([], some cs)
    else
      let (name, inner) := cutAtParen cs
      (c :: name, inner)

/-- What stands before the closing parenthesis at the very end. -/
def withoutClosing (cs : List Char) : Option (List Char) :=
  match cs.reverse with
  | ')' :: rest => some rest.reverse
  | _ => none

/-- An annotation from the text of its name and its arguments. -/
def ofParts (name : List Char) (arguments : Option (List Char)) :
    Except AnnotationFault Annotation :=
  let name := Unicode.trim name
  if isName name then
    .ok
      { name := String.ofList name
        arguments := (arguments.filter (· ≠ [])).map String.ofList }
  else .error .badName

/-- Reads the characters of an annotation. -/
def readChars (cs : List Char) : Except AnnotationFault Annotation :=
  match Unicode.trim cs with
  | '@' :: body =>
    match cutAtParen body with
    | (name, none) => ofParts name none
    | (name, some inner) =>
      match withoutClosing inner with
      | none => .error .unbalanced
      | some arguments => ofParts name (some (Unicode.trim arguments))
  | _ => .error .missingMark

/-- Reads the text of an annotation. -/
def read (text : String) : Except AnnotationFault Annotation := readChars text.toList

/-- The simple name of an annotation. -/
def simpleName (a : Annotation) : String := Code.simpleName a.name

/-- Whether an annotation denotes the type of a qualified name. -/
def denotes (a : Annotation) (qualified : String) : Bool :=
  a.name = qualified || (!a.name.toList.contains '.' && Code.simpleName qualified = a.name)

/-- The text of an annotation. -/
def render (a : Annotation) : String :=
  match a.arguments with
  | none => "@" ++ a.name
  | some arguments => "@" ++ a.name ++ "(" ++ arguments ++ ")"

end Annotation

/-- The message for a text that is no annotation, and why. -/
def AnnotationFault.about (fault : AnnotationFault) (text : String) : String :=
  "malformed annotation `" ++ text ++ "`: " ++ fault.message

end ResolverGen
