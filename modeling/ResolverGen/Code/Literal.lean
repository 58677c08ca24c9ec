/-
Java string literals.

`encode` writes a text between quotes: quotes and backslashes are escaped, line feed, carriage
return and tab have short escapes, every other control character is written by its code, and all
else stands for itself.
-/

namespace ResolverGen.Code.Literal

/-- Whether a character is a control character. -/
def isControl (c : Char) : Bool := c.toNat < 0x20 || (0x7f ≤ c.toNat && c.toNat < 0xa0)

/-- The four digits of a code below 65536, in lower case. -/
def hexDigits (n : Nat) : List Char :=
  [n / 4096 % 16, n / 256 % 16, n / 16 % 16, n % 16].map Nat.digitChar

/-- How one character is written. -/
def escape (c : Char) : List Char :=
  if c = '"' then ['\\', '"']
  else if c = '\\' then ['\\', '\\']
  else if c = '\n' then ['\\', 'n']
  else if c = '\r' then ['\\', 'r']
  else if c = '\t' then ['\\', 't']
  else if isControl c then '\\' :: 'u' :: hexDigits c.toNat
  else [c]

/-- The literal of a text. -/
def encode (cs : List Char) : List Char := '"' :: cs.flatMap escape ++ ['"']

/-- The literal of a text. -/
def quote (s : String) : String := String.ofList (encode s.toList)

end ResolverGen.Code.Literal
