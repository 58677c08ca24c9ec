/-
Token trees.

The arguments of an annotation are tokens: words, marks and literals, and groups of tokens between
brackets. A mark is joint if another mark follows it at once.
-/

namespace ResolverGen.Argument

/-- A literal, with its value where a payload can hold it. -/
inductive Literal where
  | text (value : String)
  | byteText
  /-- A text that ends in a zero byte. -/
  | zeroText
  | byte
  | char
  | integer (value : Int)
  | decimal
  | boolean (value : Bool)
deriving DecidableEq, Repr, Inhabited

/-- The name of a literal's type in messages. -/
def Literal.typeName : Literal → String
  | text _ => "string"
  | byteText => "byte string"
  | zeroText => "unknown"
  | byte => "byte"
  | char => "char"
  | integer _ => "int"
  | decimal => "float"
  | boolean _ => "bool"

/-- The brackets of groups. -/
inductive Delimiter where
  | paren | bracket | brace
deriving DecidableEq, Repr, Inhabited

namespace Delimiter

/-- The delimiter that a character opens. -/
def opened? (c : Char) : Option Delimiter :=
  match c with
  | '(' => some paren
  | '[' => some bracket
  | '\x7b' => some brace
  | _ => none

/-- The delimiter that a character closes. -/
def closed? (c : Char) : Option Delimiter :=
  match c with
  | ')' => some paren
  | ']' => some bracket
  | '\x7d' => some brace
  | _ => none

/-- The character that closes a group. -/
def closing : Delimiter → Char
  | paren => ')'
  | bracket => ']'
  | brace => '\x7d'

end Delimiter

/-- A token; brackets are tokens of their own. -/
inductive Token where
  | word (name : String)
  | mark (c : Char) (joint : Bool)
  | literal (l : Literal)
  | opening (d : Delimiter)
  | closing (d : Delimiter)
deriving DecidableEq, Repr, Inhabited

/-- A token, or a group of them. -/
inductive Tree where
  | word (name : String)
  | mark (c : Char) (joint : Bool)
  | literal (l : Literal)
  | group (d : Delimiter) (inner : List Tree)
deriving Repr, Inhabited

/-- Builds trees. `open_` holds the groups that are open, innermost first, each with the trees in
front of it; `done` holds the trees of the innermost group; both are in reverse. -/
def nestFrom (open_ : List (Delimiter × List Tree)) (done : List Tree) :
    List Token → Option (List Tree)
  | [] => if open_.isEmpty then some done.reverse else none
  | .word name :: ts => nestFrom open_ (.word name :: done) ts
  | .mark c joint :: ts => nestFrom open_ (.mark c joint :: done) ts
  | .literal l :: ts => nestFrom open_ (.literal l :: done) ts
  | .opening d :: ts => nestFrom ((d, done) :: open_) [] ts
  | .closing d :: ts =>
    match open_ with
    | [] => none
    | (opened, before) :: outer =>
      if opened = d then nestFrom outer (.group d done.reverse :: before) ts else none

/-- The trees of a list of tokens, if their brackets match. -/
def nest (tokens : List Token) : Option (List Tree) := nestFrom [] [] tokens

end ResolverGen.Argument
