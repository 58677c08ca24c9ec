/-
Why a document cannot be read.

A document is malformed, or it ends too early, or some value in it does not fit; the first of these
in the order of the text counts. Only a misfit has a wording.
-/
import ResolverGen.Decimal.Shortest
import ResolverGen.Text
import ResolverGen.Unicode.Printable

namespace ResolverGen.Json

/-- How the numbers of messages are laid out. -/
def numberLayout : Decimal.Layout := ⟨-4, 16⟩

/-- How a character stands in a quoted text of a message. -/
def shownChar (c : Char) : List Char :=
  if c = '"' then ['\\', '"']
  else if c = '\\' then ['\\', '\\']
  else if c = '\n' then ['\\', 'n']
  else if c = '\r' then ['\\', 'r']
  else if c = '\t' then ['\\', 't']
  else if c = '\x00' then ['\\', '0']
  else if Unicode.isPrintable c then [c]
  else ['\\', 'u', '\x7b'] ++ Nat.toDigits 16 c.toNat ++ ['\x7d']

/-- A text in quotes, with what does not show written by its code. -/
def shown (s : String) : String :=
  String.ofList ('"' :: s.toList.flatMap shownChar ++ ['"'])

/-- What stands in a document. -/
inductive Found where
  | null
  | boolean (value : Bool)
  | integer (value : Int)
  /-- A number with a fraction or an exponent, in its shortest text. -/
  | decimal (written : String)
  | text (value : String)
  | list
  | object
deriving DecidableEq, Repr, Inhabited

/-- The wording of what stands in a document. -/
def Found.describe : Found → String
  | null => "null"
  | boolean value => s!"boolean `{value}`"
  | integer value => s!"integer `{value}`"
  | decimal written => s!"floating point `{written}`"
  | text value => s!"string {shown value}"
  | list => "sequence"
  | object => "map"

/-- What should stand in a document. -/
inductive Wanted where
  | text | list | index | nothing | variant
  | record (name : String)
deriving DecidableEq, Repr, Inhabited

/-- The wording of what should stand in a document. -/
def Wanted.describe : Wanted → String
  | text => "a string"
  | list => "a sequence"
  | index => "usize"
  | nothing => "unit"
  | variant => "variant identifier"
  | record name => s!"struct {name}"

/-- Names in backticks, separated by commas. -/
def quotedNames (names : List String) : String :=
  Text.join ", " (names.map fun name => s!"`{name}`")

/-- How a value does not fit. -/
inductive Misfit where
  | wrongType (found : Found) (wanted : Wanted)
  | negative (value : Int)
  | missing (field : String)
  | duplicate (field : String)
  | unknownVariant (name : String) (known : List String)
  /-- A record given as a list that ends before its required fields. -/
  | tooShort (length : Nat) (record : String) (fields : Nat)
  /-- A text refused for a reason of its own. -/
  | refused (reason : String)
deriving DecidableEq, Repr, Inhabited

/-- The wording of a misfit. -/
def Misfit.message : Misfit → String
  | wrongType found wanted => s!"invalid type: {found.describe}, expected {wanted.describe}"
  | negative value => s!"invalid value: integer `{value}`, expected {Wanted.index.describe}"
  | missing field => s!"missing field `{field}`"
  | duplicate field => s!"duplicate field `{field}`"
  | unknownVariant name known =>
    s!"unknown variant `{name}`, expected one of {quotedNames known}"
  | tooShort length record fields =>
    s!"invalid length {length}, expected struct {record} with {fields} elements"
  | refused reason => reason

/-- Why a document cannot be read. -/
inductive ReadError where
  | malformed
  | unfinished
  | misfit (m : Misfit)
deriving DecidableEq, Repr, Inhabited

end ResolverGen.Json
