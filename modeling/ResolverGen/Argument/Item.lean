/-
The items of an annotation's arguments.

Arguments are items with commas between them, of which the last may be followed by one more. An item
is a literal, or a path alone, with a group behind it, or with a value. A literal that ends the list
is read as one even with a sign in front; every other value is an expression.
-/
import ResolverGen.Argument.Expression
import ResolverGen.Argument.Lexer
import ResolverGen.Text

namespace ResolverGen.Argument

/-- What stands behind the path of an item. -/
inductive Content where
  | word
  | list (inner : List Tree)
  | value (form : Form)
deriving Repr, Inhabited

/-- An item. -/
inductive Item where
  | literal (l : Literal)
  | named (path : String) (content : Content)
deriving Repr, Inhabited

namespace Item

open Reader

/-- Reads the rest of a path, each name behind a double colon. -/
def pathTail : Nat → Reader (List String)
  | 0 => pure []
  | fuel + 1 => do
    if ← mark? "::" then
      match ← rest with
      | .word name :: ts =>
        goTo ts
        let names ← pathTail fuel
        pure (name :: names)
      | _ => expect .segment
    else pure []

/-- Reads the value of an item, behind its equals sign. -/
def value : Reader Form := do
  let ts ← rest
  match literal? ts with
  | some (l, []) =>
    goTo []
    pure (.literal l)
  | _ => if atMark "#" ts && atGroup .bracket (ts.drop 1) then fail .attributeValue else expression

/-- Reads what stands behind the path of an item. -/
def content : Reader Content := do
  let ts ← rest
  match ts with
  | .group _ inner :: ts =>
    goTo ts
    pure (.list inner)
  | _ => if ← mark? "=" then .value <$> value else pure .word

/-- Whether a truth value in front is the path of an item with a value. -/
def isPath : List Tree → Bool
  | .word _ :: ts => atMark "=" ts
  | _ => false

/-- Reads an item. -/
def read : Reader Item := do
  let ts ← rest
  match (literal? ts).filter fun _ => !isPath ts with
  | some (l, ts) =>
    goTo ts
    pure (.literal l)
  | none =>
    match ts with
    | .word name :: ts =>
      goTo ts
      let names ← pathTail (ts.length + 1)
      let content ← content
      pure (.named (Text.join "::" (name :: names)) content)
    | _ => expect .item

/-- The items of some trees. -/
def ofTrees (ts : List Tree) : Except ArgumentFault (List Item) := Reader.run (allItems read) ts

/-- The items of a text. -/
def ofText (text : String) : Except ArgumentFault (List Item) :=
  match trees? text with
  | some ts => ofTrees ts
  | none => .error .noTokens

end Item

end ResolverGen.Argument
