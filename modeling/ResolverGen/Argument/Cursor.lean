/-
Reading token trees.

A reader takes trees off the front of a list. What it leaves over in a group is noted, the first
such group alone, and counts only when all else has been read.
-/
import ResolverGen.Argument.Fault
import ResolverGen.Naming

namespace ResolverGen.Argument

/-- The trees to be read, and the first group of which something was left over. -/
structure Cursor where
  trees : List Tree
  leftOver : Option Delimiter
deriving Inhabited

/-- Takes trees off the front. -/
abbrev Reader (α : Type) := StateT Cursor (Except ArgumentFault) α

/-! What stands in front. -/

/-- Whether the marks of `text` stand in front, each joined to the next. -/
def atMarks : List Char → List Tree → Bool
  | [], _ => true
  | [c], .mark d _ :: _ => c = d
  | c :: cs, .mark d joint :: ts => c = d && joint && atMarks cs ts
  | _, _ => false

/-- Whether a mark of one or more characters stands in front. -/
def atMark (text : String) (ts : List Tree) : Bool := atMarks text.toList ts

/-- Whether a given word stands in front. -/
def atWord (name : String) : List Tree → Bool
  | .word other :: _ => other = name
  | _ => false

/-- Whether some word stands in front. -/
def atAnyWord : List Tree → Bool
  | .word _ :: _ => true
  | _ => false

/-- Whether a group stands in front. -/
def atGroup (d : Delimiter) : List Tree → Bool
  | .group e _ :: _ => d = e
  | _ => false

/-- Whether a label stands in front: a quote and a word. -/
def atLabel : List Tree → Bool
  | .mark '\'' _ :: .word _ :: _ => true
  | _ => false

/-- The words that are no names. -/
def keywords : List String :=
  ["_", "abstract", "as", "async", "await", "become", "box", "break", "const", "continue", "crate",
   "do", "dyn", "else", "enum", "extern", "false", "final", "fn", "for", "if", "impl", "in", "let",
   "loop", "macro", "match", "mod", "move", "mut", "override", "priv", "pub", "ref", "return",
   "Self", "self", "static", "struct", "super", "trait", "true", "try", "type", "typeof", "unsafe",
   "unsized", "use", "virtual", "where", "while", "yield"]

/-- Whether a name stands in front. -/
def atName : List Tree → Bool
  | .word name :: _ => !keywords.contains name
  | _ => false

/-- The literal in front, which may be a word for a truth value or a number behind a minus. -/
def literal? : List Tree → Option (Literal × List Tree)
  | .literal l :: ts => some (l, ts)
  | .word name :: ts =>
    if name = "true" then some (.boolean true, ts)
    else if name = "false" then some (.boolean false, ts)
    else none
  | .mark '-' _ :: .literal (.integer value) :: ts => some (.integer (-value), ts)
  | .mark '-' _ :: .literal .decimal :: ts => some (.decimal, ts)
  | _ => none

namespace Reader

/-- The trees in front. -/
def rest : Reader (List Tree) := fun c => .ok (c.trees, c)

/-- Goes on behind some trees. -/
def goTo (ts : List Tree) : Reader Unit := fun c => .ok ((), { c with trees := ts })

/-- Drops some trees. -/
def skip (count : Nat) : Reader Unit := fun c => .ok ((), { c with trees := c.trees.drop count })

/-- Stops with a fault. -/
def fail {α : Type} (f : ArgumentFault) : Reader α := fun _ => .error f

/-- Stops because something else should stand in front. -/
def expect {α : Type} (what : Expectation) : Reader α := fun c =>
  .error (.expected what c.trees.isEmpty)

/-- Whether the trees in front fulfil a condition. -/
def sees (condition : List Tree → Bool) : Reader Bool := fun c => .ok (condition c.trees, c)

/-- Takes a mark. -/
def mark (text : String) : Reader Unit := do
  if ← sees (atMark text) then skip text.length else fail (.expectedMark text)

/-- Takes a mark if it stands in front. -/
def mark? (text : String) : Reader Bool := do
  if ← sees (atMark text) then
    skip text.length
    pure true
  else pure false

/-- Takes a word. -/
def word (name : String) : Reader Unit := do
  if ← sees (atWord name) then skip 1 else expect (.word name)

/-- Takes a word if it stands in front. -/
def word? (name : String) : Reader Bool := do
  if ← sees (atWord name) then
    skip 1
    pure true
  else pure false

/-- Takes a name. -/
def name : Reader Unit := do
  match ← rest with
  | .word text :: _ => if keywords.contains text then expect (.otherThan text) else skip 1
  | _ => expect .identifier

/-- Reads the trees of a group. -/
def within {α : Type} (d : Delimiter) (inner : List Tree) (read : Reader α) : Reader α := fun c =>
  match read { c with trees := inner } with
  | .error f => .error f
  | .ok (a, after) =>
    let excess := if after.trees.isEmpty then none else some d
    .ok (a, { c with leftOver := after.leftOver.or excess })

/-- Takes a group and reads its trees. -/
def group {α : Type} (d : Delimiter) (read : Reader α) : Reader α := do
  match ← rest with
  | .group e inner :: ts =>
    if e = d then
      goTo ts
      within d inner read
    else expect (.group d)
  | _ => expect (.group d)

/-- Reads items up to the end of the trees, with commas between them. -/
def separated {α : Type} (read : Reader α) : Nat → Reader (List α)
  | 0 => pure []
  | fuel + 1 => do
    if ← sees List.isEmpty then pure []
    else
      let item ← read
      if ← sees List.isEmpty then pure [item]
      else
        mark ","
        let items ← separated read fuel
        pure (item :: items)

/-- Reads a whole list of trees. -/
def run {α : Type} (read : Reader α) (ts : List Tree) : Except ArgumentFault α :=
  match read ⟨ts, none⟩ with
  | .error f => .error f
  | .ok (a, after) =>
    match after.leftOver with
    | some d => .error (.leftOver d)
    | none => .ok a

end Reader

end ResolverGen.Argument
