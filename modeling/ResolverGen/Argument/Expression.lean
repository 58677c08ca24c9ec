/-
Reading expressions.

An expression is made of operands and operators; an operand is an atom with what is selected from it
and called on it. All is read as far as its outermost form needs, so types and patterns are followed
only to find where they end. The amount of fuel bounds the depth; `expression` starts with enough.
-/
import ResolverGen.Argument.Form

namespace ResolverGen.Argument

open Reader

/-- Drops a declaration: all up to a semicolon or a block. -/
def dropDeclaration : List Tree → List Tree
  | [] => []
  | .mark ';' _ :: ts => ts
  | .group .brace _ :: ts => ts
  | _ :: ts => dropDeclaration ts

/-- The words that start a declaration. -/
def declarationWords : List String :=
  ["pub", "extern", "use", "mod", "type", "struct", "enum", "trait", "impl", "macro"]

/-- Whether a declaration stands in front. -/
def atDeclaration (ts : List Tree) : Bool :=
  let next := ts.drop 1
  declarationWords.any (atWord · ts) ||
    atWord "fn" ts ||
    atWord "crate" ts && !atMark "::" next ||
    atWord "unsafe" ts && !atGroup .brace next ||
    atWord "static" ts && (atWord "mut" next || atName next) ||
    atWord "const" ts && (atName next || atWord "_" next || atWord "fn" next) ||
    atWord "union" ts && atName next

/-- Whether a pattern that starts with a path stands in front. -/
def atPathPattern (ts : List Tree) : Bool :=
  let next := ts.drop 1
  atName ts &&
      (atMark "::" next || atMark "!" next || atGroup .brace next || atGroup .paren next ||
        atMark ".." next) ||
    atWord "self" ts && atMark "::" next || atMark "::" ts || atMark "<" ts ||
    atWord "Self" ts || atWord "super" ts || atWord "crate" ts

/-- Reads items with commas between them, up to the end of the trees. -/
def allItems {α : Type} (read : Reader α) : Reader (List α) := do
  separated read ((← rest).length + 1)

/-- Takes a group of any kind. -/
def anyGroup : Reader Delimiter := do
  match ← rest with
  | .group d _ :: _ =>
    skip 1
    pure d
  | _ => expect .anyGroup

/-- Takes the attributes in front. -/
def attributes : Nat → Reader Unit
  | 0 => pure ()
  | fuel + 1 => do
    if ← mark? "#" then
      group .bracket do goTo []
      attributes fuel

/-- Takes the dots of a range, and tells whether its end is part of it. -/
def rangeDots : Reader Bool := do
  if ← mark? "..=" then pure true
  else if ← sees (atMark "...") then expect .rangeLimits
  else
    mark ".."
    pure false

/-- Reads a literal. -/
def literal : Reader Literal := do
  match literal? (← rest) with
  | some (l, ts) =>
    goTo ts
    pure l
  | none => expect .expression

mutual

/-- Reads an expression. Where a block has to follow, braces behind a path do not belong to it. -/
def expressionWith : Nat → Bool → Reader Form
  | 0, _ => expect .expression
  | fuel + 1, structs => do operators fuel structs (← unary fuel structs) 0

/-- Reads on behind a left operand, as long as operators bind at least as tightly as a rank. -/
def operators : Nat → Bool → Form → Nat → Reader Form
  | 0, _, left, _ => pure left
  | fuel + 1, structs, left, least => do
    let ts ← rest
    if left = .range then pure left
    else
      match operator? ts with
      | some (text, rank) =>
        if rank < least then pure left
        else if rank = compareRank && left = .binary true then fail .chained
        else
          skip text.length
          let _ ← operand fuel structs rank
          operators fuel structs (.binary (rank = compareRank)) least
      | none =>
        if least ≤ assignRank && atAssign ts then
          skip 1
          let _ ← operand fuel structs assignRank
          operators fuel structs .assign least
        else if least ≤ rangeRank && atMark ".." ts then
          rangeEnd fuel structs (← rangeDots)
          operators fuel structs .range least
        else if least ≤ castRank && atWord "as" ts then
          skip 1
          type fuel
          match afterCast? (← rest) with
          | some what => fail (.afterCast what)
          | none => operators fuel structs .cast least
        else pure left

/-- Reads the right operand of an operator. -/
def operand : Nat → Bool → Nat → Reader Form
  | 0, _, _ => expect .expression
  | fuel + 1, structs, rank => do extend fuel structs rank (← unary fuel structs)

/-- Reads on behind a right operand, as long as tighter operators follow. -/
def extend : Nat → Bool → Nat → Form → Reader Form
  | 0, _, _, right => pure right
  | fuel + 1, structs, rank, right => do
    let before ← rest
    let next := frontRank before
    if rank < next || next = rank && rank = assignRank then
      let right ← operators fuel structs right next
      if (← rest).length = before.length then pure right else extend fuel structs rank right
    else pure right

/-- Reads the end of a range unless it has none. -/
def rangeEnd : Nat → Bool → Bool → Reader Unit
  | 0, _, _ => pure ()
  | fuel + 1, structs, closed => do
    if !closed && endsRange structs (← rest) then pure ()
    else
      let _ ← operand fuel structs rangeRank
      pure ()

/-- Reads an operand with the operators in front of it. -/
def unary : Nat → Bool → Reader Form
  | 0, _ => expect .expression
  | fuel + 1, structs => do
    attributes fuel
    let ts ← rest
    if atMark "&" ts then
      skip 1
      let next := ts.drop 2
      if (← sees (atWord "raw")) && (atWord "mut" next || atWord "const" next) then
        skip 2
        let _ ← unary fuel structs
        pure .unknown
      else
        let _ ← word? "mut"
        let _ ← unary fuel structs
        pure .reference
    else if atMark "*" ts || atMark "!" ts || atMark "-" ts then
      skip 1
      let _ ← unary fuel structs
      pure .unary
    else trailers fuel (← atom fuel structs)

/-- Reads what is selected from an atom and called on it. -/
def trailers : Nat → Form → Reader Form
  | 0, e => pure e
  | fuel + 1, e => do
    let ts ← rest
    if atGroup .paren ts then
      let _ ← group .paren (allItems (expressionWith fuel true))
      trailers fuel .call
    else if atPoint ts && e ≠ .range then
      skip 1
      let next := ts.drop 1
      match next with
      | .literal .decimal :: _ =>
        skip 1
        trailers fuel .field
      | .literal (.integer _) :: _ =>
        skip 1
        trailers fuel .field
      | _ =>
        if ← word? "await" then trailers fuel .await
        else if !atName next then expect .member
        else
          skip 1
          let turbo ← sees (atMark "::")
          if turbo then generics fuel
          if turbo || (← sees (atGroup .paren)) then
            let _ ← group .paren (allItems (expressionWith fuel true))
            trailers fuel .methodCall
          else trailers fuel .field
    else if atGroup .bracket ts then
      let _ ← group .bracket (expressionWith fuel true)
      trailers fuel .index
    else if atMark "?" ts && e ≠ .range then
      skip 1
      trailers fuel .attempt
    else pure e

/-- Reads an atom. -/
def atom : Nat → Bool → Reader Form
  | 0, _ => expect .expression
  | fuel + 1, structs => do
    let ts ← rest
    let next := ts.drop 1
    if (literal? ts).isSome then return .literal (← literal)
    else if atWord "async" ts &&
        (atGroup .brace next || atWord "move" next && atGroup .brace (next.drop 1)) then
      skip 1
      let _ ← word? "move"
      block fuel
      pure .async
    else if atWord "try" ts && atGroup .brace next then
      skip 1
      block fuel
      pure .tryBlock
    else if atClosure ts then closure fuel structs
    else if atPath ts then
      path fuel true
      if (← sees (atMark "!")) && !(← sees (atMark "!=")) && !atMark "<" ts then
        skip 1
        pure (.generator ((← anyGroup) = .brace))
      else if structs && (← sees (atGroup .brace)) then
        group .brace (fields fuel)
        pure .record
      else pure .path
    else if atGroup .paren ts then group .paren (parenOrTuple fuel)
    else if atWord "break" ts then
      skip 1
      if ← sees atLabel then
        if atMark ":" (next.drop 2) then fail .bareLoop
        skip 2
      let after ← rest
      if startsExpression after && (structs || !atGroup .brace after) then
        let _ ← expressionWith fuel true
      pure .breakOut
    else if atWord "continue" ts then
      skip (if atLabel next then 3 else 1)
      pure .continueOn
    else if atWord "return" ts then
      skip 1
      if startsExpression next then
        let _ ← expressionWith fuel true
      pure .returnFrom
    else if atWord "become" ts then
      skip 1
      let _ ← expressionWith fuel true
      pure .unknown
    else if atGroup .bracket ts then group .bracket (arrayOrRepetition fuel)
    else if atWord "let" ts then
      skip 1
      patterns fuel
      mark "="
      let _ ← operators fuel structs (← unary fuel structs) compareRank
      pure .letBinding
    else if atWord "if" ts then
      skip 1
      branches fuel
      pure .branch
    else if atWord "while" ts then
      skip 1
      let _ ← expressionWith fuel false
      block fuel
      pure .whileLoop
    else if atWord "for" ts then
      skip 1
      patterns fuel
      word "in"
      let _ ← expressionWith fuel false
      block fuel
      pure .forLoop
    else if atWord "loop" ts then
      skip 1
      block fuel
      pure .loop
    else if atWord "match" ts then
      skip 1
      let _ ← expressionWith fuel false
      group .brace (arms fuel)
      pure .matching
    else if atWord "yield" ts then
      skip 1
      if !(next.isEmpty || atMark "," next || atMark ";" next) then
        let _ ← expressionWith fuel true
      pure .yield
    else if atWord "unsafe" ts then
      skip 1
      block fuel
      pure .uncheckedBlock
    else if atWord "const" ts then
      skip 1
      block fuel
      pure .constBlock
    else if atGroup .brace ts then
      block fuel
      pure .block
    else if atMark ".." ts then
      rangeEnd fuel structs (← rangeDots)
      pure .range
    else if atWord "_" ts then
      skip 1
      pure .infer
    else if atLabel ts then
      skip 2
      mark ":"
      let after ← rest
      if ["while", "for", "loop"].any (atWord · after) || atGroup .brace after then
        atom fuel structs
      else expect .loopOrBlock
    else expect .expression

/-- Reads what stands between parentheses. -/
def parenOrTuple : Nat → Reader Form
  | 0 => expect .expression
  | fuel + 1 => do
    if ← sees List.isEmpty then pure .tuple
    else
      let _ ← expressionWith fuel true
      if ← sees List.isEmpty then pure .paren
      else
        mark ","
        let _ ← allItems (expressionWith fuel true)
        pure .tuple

/-- Reads what stands between square brackets. -/
def arrayOrRepetition : Nat → Reader Form
  | 0 => expect .expression
  | fuel + 1 => do
    if ← sees List.isEmpty then pure .array
    else
      let _ ← expressionWith fuel true
      if ← sees List.isEmpty then pure .array
      else if ← mark? "," then
        let _ ← allItems (expressionWith fuel true)
        pure .array
      else if ← mark? ";" then
        let _ ← expressionWith fuel true
        pure .repetition
      else expect .listEnd

/-- Reads the fields of a record. -/
def fields : Nat → Reader Unit
  | 0 => pure ()
  | fuel + 1 => do
    if ← sees List.isEmpty then pure ()
    else
      attributes fuel
      let ts ← rest
      if atMark ".." ts then
        skip 2
        if !(← sees List.isEmpty) then
          let _ ← expressionWith fuel true
      else
        let numbered := match ts with
          | .literal (.integer _) :: _ => true
          | _ => false
        if !numbered && !atName ts then expect .member
        else
          skip 1
          if numbered || (← sees (atMark ":")) then
            mark ":"
            let _ ← expressionWith fuel true
          if !(← sees List.isEmpty) then
            mark ","
            fields fuel

/-- Reads a path. In an expression its arguments need a double colon in front. -/
def path : Nat → Bool → Reader Unit
  | 0, _ => expect .identifier
  | fuel + 1, inExpression => do
    if ← mark? "<" then
      type fuel
      if ← word? "as" then path fuel false
      mark ">"
      mark "::"
    else
      let _ ← mark? "::"
    segments fuel inExpression

/-- Reads the segments of a path. -/
def segments : Nat → Bool → Reader Unit
  | 0, _ => expect .identifier
  | fuel + 1, inExpression => do
    let ts ← rest
    if ["super", "self", "crate", "try"].any (atWord · ts) then skip 1
    else
      if atWord "Self" ts then skip 1 else name
      let after ← rest
      if !inExpression && atMark "<" after && !atMark "<=" after ||
          atMark "::" after && atMark "<" (after.drop 2) then
        generics fuel
    let after ← rest
    if atMark "::" after && !atGroup .paren (after.drop 2) then
      skip 2
      segments fuel inExpression

/-- Reads the arguments of a path segment. -/
def generics : Nat → Reader Unit
  | 0 => pure ()
  | fuel + 1 => do
    let _ ← mark? "::"
    mark "<"
    genericItems fuel

/-- Reads arguments of a path segment up to the closing mark. -/
def genericItems : Nat → Reader Unit
  | 0 => pure ()
  | fuel + 1 => do
    if ← mark? ">" then pure ()
    else
      let ts ← rest
      if atLabel ts then skip 2
      else
        match literal? ts with
        | some (_, after) => goTo after
        | none =>
          if atGroup .brace ts then block fuel
          else
            type fuel
            if ← mark? "=" then type fuel
            else if ← mark? ":" then bounds fuel
      if ← mark? ">" then pure ()
      else
        mark ","
        genericItems fuel

/-- Reads bounds with plus signs between them. -/
def bounds : Nat → Reader Unit
  | 0 => pure ()
  | fuel + 1 => do
    let ts ← rest
    if atLabel ts then skip 2
    else if atGroup .paren ts then skip 1
    else
      let _ ← mark? "?"
      path fuel false
    if ← mark? "+" then bounds fuel

/-- Reads a type. -/
def type : Nat → Reader Unit
  | 0 => expect .type
  | fuel + 1 => do
    let ts ← rest
    if atGroup .paren ts then
      let _ ← group .paren (allItems (type fuel))
    else if atGroup .bracket ts then
      group .bracket do
        type fuel
        if ← mark? ";" then
          let _ ← expressionWith fuel true
    else if atMark "*" ts then
      skip 1
      if !(← word? "mut") then word "const"
      type fuel
    else if atMark "&" ts then
      skip 1
      if ← sees atLabel then skip 2
      let _ ← word? "mut"
      type fuel
    else if atMark "!" ts || atWord "_" ts then skip 1
    else if atLabel ts then skip 2
    else if atWord "dyn" ts || atWord "impl" ts then
      skip 1
      if ← sees atLabel then skip 2
      else
        let _ ← mark? "?"
        path fuel false
    else if atWord "fn" ts || atWord "unsafe" ts || atWord "extern" ts then
      let _ ← word? "unsafe"
      if ← word? "extern" then
        if (literal? (← rest)).isSome then skip 1
      word "fn"
      group .paren do goTo []
      if ← mark? "->" then type fuel
    else if atPath ts then
      path fuel false
      if ← sees (atGroup .paren) then
        skip 1
        if ← mark? "->" then type fuel
      else if ← mark? "!" then
        let _ ← anyGroup
    else expect .type

/-- Reads a pattern. -/
def pattern : Nat → Reader Unit
  | 0 => expect .pattern
  | fuel + 1 => do
    let ts ← rest
    if atPathPattern ts then
      path fuel true
      let after ← rest
      if atMark "!" after then
        skip 1
        let _ ← anyGroup
      else if atGroup .paren after || atGroup .brace after then skip 1
    else if atWord "_" ts then skip 1
    else if atMark "&" ts then
      skip 1
      let _ ← word? "mut"
      pattern fuel
    else if (literal? ts).isSome then
      let _ ← literal
      if ← sees (atMark "..") then
        let _ ← rangeDots
        if (literal? (← rest)).isSome then
          let _ ← literal
    else if atWord "ref" ts || atWord "mut" ts || atWord "self" ts || atName ts then
      let _ ← word? "ref"
      let _ ← word? "mut"
      if !(← word? "self") then name
      if ← mark? "@" then pattern fuel
    else if atGroup .paren ts then
      let _ ← group .paren (allItems (patterns fuel))
    else if atGroup .bracket ts then
      let _ ← group .bracket (allItems (patterns fuel))
    else if atMark ".." ts then
      let _ ← rangeDots
      if (literal? (← rest)).isSome then
        let _ ← literal
    else expect .pattern

/-- Reads patterns with bars between them. -/
def patterns : Nat → Reader Unit
  | 0 => expect .pattern
  | fuel + 1 => do
    let _ ← mark? "|"
    pattern fuel
    let ts ← rest
    if atMark "|" ts && !atMark "||" ts && !atMark "|=" ts then patterns fuel

/-- Reads a closure. -/
def closure : Nat → Bool → Reader Form
  | 0, _ => expect .expression
  | fuel + 1, structs => do
    if ← word? "for" then generics fuel
    let _ ← word? "const"
    let _ ← word? "static"
    let _ ← word? "async"
    let _ ← word? "move"
    mark "|"
    closureInputs fuel
    mark "|"
    if ← mark? "->" then
      type fuel
      block fuel
    else
      let _ ← expressionWith fuel structs
    pure .closure

/-- Reads the inputs of a closure. -/
def closureInputs : Nat → Reader Unit
  | 0 => pure ()
  | fuel + 1 => do
    if ← sees (atMark "|") then pure ()
    else
      attributes fuel
      pattern fuel
      if ← mark? ":" then type fuel
      if ← sees (atMark "|") then pure ()
      else
        mark ","
        closureInputs fuel

/-- Reads the condition and the branches behind an `if`. -/
def branches : Nat → Reader Unit
  | 0 => pure ()
  | fuel + 1 => do
    let _ ← expressionWith fuel false
    block fuel
    if ← word? "else" then
      if ← word? "if" then branches fuel
      else if ← sees (atGroup .brace) then block fuel
      else expect .branch

/-- Reads the arms of a match. -/
def arms : Nat → Reader Unit
  | 0 => pure ()
  | fuel + 1 => do
    if ← sees List.isEmpty then pure ()
    else
      attributes fuel
      patterns fuel
      if ← word? "if" then
        let _ ← expressionWith fuel true
      mark "=>"
      let body ← leading fuel
      if !(← sees List.isEmpty) then
        if body.endsStatement then
          let _ ← mark? ","
        else mark ","
      arms fuel

/-- Reads a block. -/
def block : Nat → Reader Unit
  | 0 => expect (.group .brace)
  | fuel + 1 => group .brace (statements fuel)

/-- Reads an expression that starts a statement: one that can stand alone ends there, unless
something is selected from it. -/
def leading : Nat → Reader Form
  | 0 => expect .expression
  | fuel + 1 => do
    attributes fuel
    let ts ← rest
    let alone := ["if", "while", "loop", "match", "unsafe"].any (atWord · ts) ||
      atWord "for" ts && !atClosure ts || atGroup .brace ts || atLabel ts ||
      (atWord "try" ts || atWord "const" ts) && atGroup .brace (ts.drop 1)
    if alone then
      let e ← atom fuel true
      let after ← rest
      if atPoint after || atMark "?" after then operators fuel true (← trailers fuel e) 0
      else pure e
    else expressionWith fuel true

/-- Reads the statements of a block. -/
def statements : Nat → Reader Unit
  | 0 => pure ()
  | fuel + 1 => do
    if ← mark? ";" then statements fuel
    else if ← sees List.isEmpty then pure ()
    else
      attributes fuel
      let ts ← rest
      let closed ← do
        if atWord "let" ts then
          skip 1
          pattern fuel
          if ← mark? ":" then type fuel
          if ← mark? "=" then
            let _ ← expressionWith fuel true
          if ← word? "else" then block fuel
          mark ";"
          pure true
        else if atDeclaration ts then
          goTo (dropDeclaration ts)
          pure true
        else
          let e ← leading fuel
          if ← mark? ";" then pure true else pure e.endsStatement
      if ← sees List.isEmpty then pure ()
      else if closed then statements fuel
      else fail .openStatement

end

mutual

/-- The number of trees in a tree. -/
def Tree.size : Tree → Nat
  | .group _ inner => sizeAll inner + 1
  | _ => 1

/-- The number of trees in a list of trees. -/
def sizeAll : List Tree → Nat
  | [] => 0
  | t :: ts => t.size + sizeAll ts

end

/-- Reads an expression. No rule needs more than a few steps for each tree. -/
def expression : Reader Form := do
  expressionWith (32 * (sizeAll (← rest) + 2)) true

end ResolverGen.Argument
