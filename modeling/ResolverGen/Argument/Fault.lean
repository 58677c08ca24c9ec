/-
Why arguments cannot be read as a list of items.

A fault says what should have stood where reading stopped. Most wordings say so when the tokens had
come to their end; the wording for a missing mark never does.
-/
import ResolverGen.Argument.Tree

namespace ResolverGen.Argument

/-- What should have stood where reading stopped. -/
inductive Expectation where
  | item
  | segment
  | expression
  | identifier
  /-- A name, where a word of the language stands. -/
  | otherThan (text : String)
  | member
  | group (d : Delimiter)
  | anyGroup
  | word (text : String)
  | listEnd
  | rangeLimits
  | type
  | pattern
  | branch
  | loopOrBlock
deriving DecidableEq, Repr

/-- The wording of an expectation. -/
def Expectation.describe : Expectation → String
  | item => "identifier or literal"
  | segment => "path segment after `::`"
  | expression => "an expression"
  | identifier => "identifier"
  | otherThan text => s!"identifier, found keyword `{text}`"
  | member => "identifier or integer"
  | group .paren => "parentheses"
  | group .bracket => "square brackets"
  | group .brace => "curly braces"
  | anyGroup => "delimiter"
  | word text => s!"`{text}`"
  | listEnd => "`,` or `;`"
  | rangeLimits => "`..` or `..=`"
  | type =>
    "one of: `for`, parentheses, `fn`, `unsafe`, `extern`, identifier, `::`, `<`, `dyn`, " ++
      "square brackets, `*`, `&`, `!`, `impl`, `_`, lifetime"
  | pattern =>
    "one of: identifier, `::`, `<`, `_`, literal, `const`, `ref`, `mut`, `&`, parentheses, " ++
      "square brackets, `..`"
  | branch => "`if` or curly braces"
  | loopOrBlock => "loop or block expression"

/-- Why arguments cannot be read. -/
inductive ArgumentFault where
  /-- A text that cannot be cut into tokens, or whose brackets do not match. -/
  | noTokens
  | expected (what : Expectation) (atEnd : Bool)
  | expectedMark (text : String)
  /-- A value that starts with an attribute. -/
  | attributeValue
  /-- Comparisons side by side. -/
  | chained
  /-- What a cast cannot be followed by. -/
  | afterCast (what : String)
  /-- A statement that does not end where it should. -/
  | openStatement
  /-- Tokens left over in a group. -/
  | leftOver (d : Delimiter)
  /-- A loop behind the label of a jump. -/
  | bareLoop
deriving DecidableEq, Repr

/-- The wording of a fault. -/
def ArgumentFault.message : ArgumentFault → String
  | noTokens => "cannot parse string into token stream"
  | expected what false => "expected " ++ what.describe
  | expected what true => "unexpected end of input, expected " ++ what.describe
  | expectedMark text => s!"expected `{text}`"
  | attributeValue => "unexpected attribute inside of attribute"
  | chained => "comparison operators cannot be chained"
  | afterCast what => "casts cannot be followed by " ++ what
  | openStatement => "unexpected token, expected `;`"
  | leftOver d => s!"unexpected token, expected `{d.closing}`"
  | bareLoop => "parentheses required"

end ResolverGen.Argument
