/-
Forms of expressions.

An annotation's value may be any expression, but only literals can be used; of every other
expression its outermost form is all that a message tells. Operators bind by their ranks.
-/
import ResolverGen.Argument.Cursor

namespace ResolverGen.Argument

/-- The outermost form of an expression. -/
inductive Form where
  | literal (l : Literal)
  | array | assign | async | await
  /-- Two operands, and whether they are compared. -/
  | binary (compares : Bool)
  | block | breakOut | call | cast | closure | constBlock | continueOn | field | forLoop | branch
  | index | infer | letBinding | loop
  /-- The call of a generator, and whether its arguments stand in braces. -/
  | generator (braced : Bool)
  | matching | methodCall | paren | path | range | reference | repetition | returnFrom | record
  | attempt | tryBlock | tuple | unary | uncheckedBlock | whileLoop | yield | unknown
deriving DecidableEq, Repr, Inhabited

namespace Form

/-- The name of a form in messages; a literal goes by its type. -/
def typeName : Form → String
  | literal l => l.typeName
  | array => "array"
  | assign => "assign"
  | async => "async"
  | await => "await"
  | binary _ => "binary"
  | block => "block"
  | breakOut => "break"
  | call => "call"
  | cast => "cast"
  | closure => "closure"
  | constBlock => "const"
  | continueOn => "continue"
  | field => "field"
  | forLoop => "for_loop"
  | branch => "if"
  | index => "index"
  | infer => "infer"
  | letBinding => "let"
  | loop => "loop"
  | generator _ => "macro"
  | matching => "match"
  | methodCall => "method_call"
  | paren => "paren"
  | path => "path"
  | range => "range"
  | reference => "reference"
  | repetition => "repeat"
  | returnFrom => "return"
  | record => "struct"
  | attempt => "try"
  | tryBlock => "try_block"
  | tuple => "tuple"
  | unary => "unary"
  | uncheckedBlock => "unsafe"
  | whileLoop => "while"
  | yield => "yield"
  | unknown => "unknown"

/-- Whether an expression of this form is a statement without a semicolon. -/
def endsStatement : Form → Bool
  | branch | matching | block | uncheckedBlock | whileLoop | loop | forLoop | tryBlock
  | constBlock => true
  | generator braced => braced
  | _ => false

end Form

/-! Ranks of operators, the loosest first. -/

/-- The rank of assignments. -/
def assignRank : Nat := 1

/-- The rank of ranges. -/
def rangeRank : Nat := 2

/-- The rank of comparisons. -/
def compareRank : Nat := 6

/-- The rank of casts. -/
def castRank : Nat := 13

/-- The operators between two operands with their ranks, in the order in which they are looked for. -/
def operatorRanks : List (String × Nat) :=
  [("+=", 1), ("-=", 1), ("*=", 1), ("/=", 1), ("%=", 1), ("^=", 1), ("&=", 1), ("|=", 1),
   ("<<=", 1), (">>=", 1), ("&&", 4), ("||", 3), ("<<", 10), (">>", 10), ("==", 6), ("<=", 6),
   ("!=", 6), (">=", 6), ("+", 11), ("-", 11), ("*", 12), ("/", 12), ("%", 12), ("^", 8),
   ("&", 9), ("|", 7), ("<", 6), (">", 6)]

/-- The operator in front and its rank. -/
def operator? (ts : List Tree) : Option (String × Nat) :=
  operatorRanks.find? fun (text, _) => atMark text ts

/-- Whether a lone equals sign stands in front. -/
def atAssign (ts : List Tree) : Bool := atMark "=" ts && !atMark "=>" ts

/-- The rank of what stands in front, 0 if it is no operator. -/
def frontRank (ts : List Tree) : Nat :=
  match operator? ts with
  | some (_, rank) => rank
  | none =>
    if atAssign ts then assignRank
    else if atMark ".." ts then rangeRank
    else if atWord "as" ts then castRank
    else 0

/-- Whether a point that selects something stands in front. -/
def atPoint (ts : List Tree) : Bool := atMark "." ts && !atMark ".." ts

/-- Whether a range that is open at its end has come to it. -/
def endsRange (structs : Bool) (ts : List Tree) : Bool :=
  ts.isEmpty || atPoint ts || !structs && atGroup .brace ts || atWord "as" ts ||
    [",", ";", "?", "=>", "=", "+", "/", "%", "^", ">", "<=", "!=", "-=", "*=", "&=", "|=",
     "<<="].any (atMark · ts)

/-- Whether an expression can start in front. -/
def startsExpression (ts : List Tree) : Bool :=
  atAnyWord ts && !atWord "as" ts || atGroup .paren ts || atGroup .bracket ts ||
    atGroup .brace ts || (literal? ts).isSome || atMark "!" ts && !atMark "!=" ts ||
    atMark "-" ts && !atMark "-=" ts && !atMark "->" ts || atMark "*" ts && !atMark "*=" ts ||
    atMark "|" ts && !atMark "|=" ts || atMark "&" ts && !atMark "&=" ts || atMark ".." ts ||
    atMark "<" ts && !atMark "<=" ts && !atMark "<<=" ts || atMark "::" ts || atLabel ts ||
    atMark "#" ts

/-- Whether a closure stands in front. -/
def atClosure (ts : List Tree) : Bool :=
  let next := ts.drop 1
  atMark "|" ts || atWord "move" ts || atWord "static" ts ||
    atWord "for" ts && atMark "<" next && (atLabel (next.drop 1) || atMark ">" (next.drop 1)) ||
    atWord "const" ts && !atGroup .brace next ||
    atWord "async" ts && (atMark "|" next || atWord "move" next)

/-- Whether a path stands in front. -/
def atPath (ts : List Tree) : Bool :=
  let next := ts.drop 1
  atName ts || atMark "::" ts || atMark "<" ts || atWord "self" ts || atWord "Self" ts ||
    atWord "super" ts || atWord "crate" ts ||
    atWord "try" ts && (atMark "!" next || atMark "::" next)

/-- What a cast is followed by, if it cannot be. -/
def afterCast? (ts : List Tree) : Option String :=
  let next := ts.drop 1
  if atPoint ts then
    if atWord "await" next then some "`.await`"
    else if atName next && (atGroup .paren (next.drop 1) || atMark "::" (next.drop 1)) then
      some "a method call"
    else some "a field access"
  else if atMark "?" ts then some "`?`"
  else if atGroup .bracket ts then some "indexing"
  else if atGroup .paren ts then some "a function call"
  else none

end ResolverGen.Argument
