/-
Readers of documents.

A reader takes a value off the front of a text and checks at once that it fits, so the first thing
that is wrong with a document is what its reader reports. Values that nobody asked for are skipped,
which checks their form alone.
-/
import ResolverGen.Json.Number

namespace ResolverGen.Json

/-- Takes a value off the front of a text. -/
abbrev Reader (α : Type) := StateT (List Char) (Except ReadError) α

/-- Whether a character is blank between values. -/
def isBlank (c : Char) : Bool := c = ' ' || c = '\n' || c = '\t' || c = '\r'

/-- Drops the blanks in front. -/
def skipBlanks : List Char → List Char
  | [] => []
  | c :: cs => if isBlank c then skipBlanks cs else c :: cs

theorem skipBlanks_cons {c : Char} (cs : List Char) (h : isBlank c = false) :
    skipBlanks (c :: cs) = c :: cs := by simp [skipBlanks, h]

namespace Reader

/-- Stops with an error. -/
def fail {α : Type} (e : ReadError) : Reader α := fun _ => .error e

/-- Reads what a function on texts takes off the front. -/
def ofSplit {α : Type} (split : List Char → Except ReadError (α × List Char)) : Reader α := split

/-- The next character behind blanks. -/
def peek : Reader (Option Char) := fun cs =>
  let cs := skipBlanks cs
  .ok (cs.head?, cs)

/-- Drops the next character. -/
def drop : Reader Unit := fun cs => .ok ((), cs.tail)

/-- The next character behind blanks, of which there has to be one. -/
def peekSome : Reader Char := do
  match ← peek with
  | some c => pure c
  | none => fail .unfinished

/-- Takes the given characters. -/
def word : List Char → Reader Unit
  | [], cs => .ok ((), cs)
  | _ :: _, [] => .error .unfinished
  | w :: ws, c :: cs => if c = w then word ws cs else .error .malformed

/-- Takes a mark behind blanks. -/
def mark (m : Char) : Reader Unit := do
  if (← peekSome) = m then drop else fail .malformed

end Reader

/-- The value of a hexadecimal digit. -/
def hexValue? (c : Char) : Option Nat :=
  if c.isDigit then some (c.toNat - '0'.toNat)
  else if 'a' ≤ c ∧ c ≤ 'f' then some (c.toNat - 'a'.toNat + 10)
  else if 'A' ≤ c ∧ c ≤ 'F' then some (c.toNat - 'A'.toNat + 10)
  else none

/-- The value of four hexadecimal digits. -/
def hexValue4? (a b c d : Char) : Option Nat := do
  pure <|
    (((← hexValue? a) * 16 + (← hexValue? b)) * 16 + (← hexValue? c)) * 16 + (← hexValue? d)

/-- What is wrong with a code that is not four hexadecimal digits: the text ends before them if what
is left of it takes less than four bytes. -/
def badCode (cs : List Char) : ReadError :=
  if (String.ofList cs).utf8ByteSize < 4 then .unfinished else .malformed

/-- The character of a short escape. -/
def escaped? (c : Char) : Option Char :=
  match c with
  | '"' => some '"'
  | '\\' => some '\\'
  | '/' => some '/'
  | 'b' => some '\x08'
  | 'f' => some '\x0c'
  | 'n' => some '\n'
  | 'r' => some '\r'
  | 't' => some '\t'
  | _ => none

/-- Whether a code is the first half of a pair. -/
def isHighHalf (n : Nat) : Bool := 0xd800 ≤ n && n < 0xdc00

/-- Whether a code is the second half of a pair. -/
def isLowHalf (n : Nat) : Bool := 0xdc00 ≤ n && n < 0xe000

/-- The character that two halves stand for. -/
def joinHalves (high low : Nat) : Char :=
  Char.ofNat (0x10000 + (high - 0xd800) * 0x400 + (low - 0xdc00))

/-- Puts a character in front of what has been read. -/
def putFirst (c : Char) (rest : Except ReadError (List Char × List Char)) :
    Except ReadError (List Char × List Char) :=
  rest.map fun (text, cs) => (c :: text, cs)

/-- Splits off a quoted text behind its opening quote. -/
def spanText : List Char → Except ReadError (List Char × List Char)
  | [] => .error .unfinished
  | '"' :: cs => .ok ([], cs)
  | ['\\'] => .error .unfinished
  | '\\' :: 'u' :: a :: b :: c :: d :: cs =>
    match hexValue4? a b c d with
    | none => .error (badCode (a :: b :: c :: d :: cs))
    | some n =>
      if isLowHalf n then .error .malformed
      else if isHighHalf n then
        match cs with
        | '\\' :: 'u' :: e :: f :: g :: h :: cs =>
          match hexValue4? e f g h with
          | none => .error (badCode (e :: f :: g :: h :: cs))
          | some m =>
            if isLowHalf m then putFirst (joinHalves n m) (spanText cs) else .error .malformed
        | '\\' :: 'u' :: cs => .error (badCode cs)
        | [] => .error .unfinished
        | ['\\'] => .error .unfinished
        | _ => .error .malformed
      else putFirst (Char.ofNat n) (spanText cs)
  | '\\' :: 'u' :: cs => .error (badCode cs)
  | '\\' :: c :: cs =>
    match escaped? c with
    | some c => putFirst c (spanText cs)
    | none => .error .malformed
  | c :: cs => if c.toNat < 0x20 then .error .malformed else putFirst c (spanText cs)

/-- Drops a quoted text behind its opening quote. Halves of pairs need not match. -/
def skipText : List Char → Except ReadError (List Char)
  | [] => .error .unfinished
  | '"' :: cs => .ok cs
  | ['\\'] => .error .unfinished
  | '\\' :: 'u' :: a :: b :: c :: d :: cs =>
    match hexValue4? a b c d with
    | none => .error (badCode (a :: b :: c :: d :: cs))
    | some _ => skipText cs
  | '\\' :: 'u' :: cs => .error (badCode cs)
  | '\\' :: c :: cs => if (escaped? c).isSome then skipText cs else .error .malformed
  | c :: cs => if c.toNat < 0x20 then .error .malformed else skipText cs

/-- Drops a numeral. One that breaks off is malformed here. -/
def skipNumeral (cs : List Char) : Except ReadError (List Char) :=
  match spanNumeral false cs with
  | .ok (_, rest) => .ok rest
  | .error _ => .error .malformed

/-- The brackets that a skipped value is in. -/
inductive Bracket where
  | list | object
deriving DecidableEq, Repr

/-- What a skipped value may go on with. -/
inductive Turn where
  /-- A value. -/
  | value
  /-- The first entry of the innermost bracket, or its end. -/
  | entry
  /-- A comma and another entry of the innermost bracket, or its end. -/
  | comma
deriving DecidableEq, Repr

/-- Drops the key of an entry, and the colon behind it. -/
def skipKey (cs : List Char) : Except ReadError (List Char) := do
  match skipBlanks cs with
  | [] => throw .unfinished
  | '"' :: cs =>
    match skipBlanks (← skipText cs) with
    | [] => throw .unfinished
    | ':' :: cs => pure cs
    | _ :: _ => throw .malformed
  | _ :: _ => throw .malformed

/-- Drops the start of an entry, up to its value. -/
def skipToValue (b : Bracket) (cs : List Char) : Except ReadError (List Char) :=
  match b with
  | .list => .ok cs
  | .object => skipKey cs

/-- The mark that closes a bracket. -/
def Bracket.close : Bracket → Char
  | list => ']'
  | object => '\x7d'

/-- Drops the rest of a value that stands in some brackets, the innermost first. Every step takes a
character, or goes from the start of an entry to its value. -/
def skipFrom : Nat → Turn → List Bracket → List Char → Except ReadError (List Char)
  | 0, _, _, _ => .error .unfinished
  | fuel + 1, .value, brackets, cs =>
    match skipBlanks cs with
    | [] => .error .unfinished
    | '[' :: cs => skipFrom fuel .entry (.list :: brackets) cs
    | '\x7b' :: cs => skipFrom fuel .entry (.object :: brackets) cs
    | '"' :: cs => do skipFrom fuel .comma brackets (← skipText cs)
    | '-' :: cs => do skipFrom fuel .comma brackets (← skipNumeral cs)
    | 'n' :: cs => do skipFrom fuel .comma brackets (← Reader.word "ull".toList cs).2
    | 't' :: cs => do skipFrom fuel .comma brackets (← Reader.word "rue".toList cs).2
    | 'f' :: cs => do skipFrom fuel .comma brackets (← Reader.word "alse".toList cs).2
    | c :: cs =>
      if c.isDigit then do skipFrom fuel .comma brackets (← skipNumeral (c :: cs))
      else .error .malformed
  | _ + 1, _, [], cs => .ok cs
  | fuel + 1, .entry, b :: brackets, cs =>
    match skipBlanks cs with
    | [] => .error .unfinished
    | c :: cs =>
      if c = b.close then skipFrom fuel .comma brackets cs
      else do skipFrom fuel .value (b :: brackets) (← skipToValue b (c :: cs))
  | fuel + 1, .comma, b :: brackets, cs =>
    match skipBlanks cs with
    | [] => .error .unfinished
    | c :: cs =>
      if c = b.close then skipFrom fuel .comma brackets cs
      else if c = ',' then do skipFrom fuel .value (b :: brackets) (← skipToValue b cs)
      else .error .malformed

namespace Reader

/-- Skips a value. -/
def skip : Reader Unit := fun cs =>
  (skipFrom (2 * cs.length + 2) .value [] cs).map fun rest => ((), rest)

/-- A quoted text, behind its opening quote. -/
def textTail : Reader String := fun cs =>
  (spanText cs).map fun (text, rest) => (String.ofList text, rest)

/-- Reads a value, to tell that it does not fit. -/
def unfit {α : Type} (wanted : Wanted) : Reader α := do
  let reject (found : Found) : Reader α := fail (.misfit (.wrongType found wanted))
  let number (negative : Bool) : Reader α := do
    let n ← ofSplit (spanNumeral negative)
    match n.found with
    | .ok found => reject found
    | .error e => fail e
  let c ← peekSome
  if c.isDigit then number false
  else
    match c with
    | 'n' => drop; word "ull".toList; reject .null
    | 't' => drop; word "rue".toList; reject (.boolean true)
    | 'f' => drop; word "alse".toList; reject (.boolean false)
    | '-' => drop; number true
    | '"' => drop; reject (.text (← textTail))
    | '[' => reject .list
    | '\x7b' => reject .object
    | _ => fail .malformed

/-- Reads a text. -/
def text : Reader String := do
  if (← peekSome) = '"' then drop; textTail else unfit .text

/-- Reads an index. -/
def index : Reader Nat := do
  let number (negative : Bool) : Reader Nat := do
    let n ← ofSplit (spanNumeral negative)
    match n.found with
    | .ok (.integer value) =>
      if value < 0 then fail (.misfit (.negative value)) else pure value.toNat
    | .ok found => fail (.misfit (.wrongType found .index))
    | .error e => fail e
  let c ← peekSome
  if c.isDigit then number false
  else if c = '-' then drop; number true
  else unfit .index

/-- Reads a value that may be null. -/
def optional {α : Type} (read : Reader α) : Reader (Option α) := do
  match ← peek with
  | some 'n' => drop; word "ull".toList; pure none
  | _ => some <$> read

/-- Reads null. -/
def nothing : Reader Unit := do
  if (← peekSome) = 'n' then drop; word "ull".toList else unfit .nothing

/-- Whether a list goes on with another item, which the reader then stands before. -/
def hasItem (first : Bool) : Reader Bool := do
  let c ← peekSome
  if c = ']' then pure false
  else if first then pure true
  else if c = ',' then do
    drop
    if (← peekSome) = ']' then fail .malformed else pure true
  else fail .malformed

/-- Reads the items of a list that is open, and its end. -/
def items {α : Type} (read : Reader α) : Nat → Bool → Reader (List α)
  | 0, _ => fail .unfinished
  | fuel + 1, first => do
    if ← hasItem first then
      let item ← read
      let rest ← items read fuel false
      pure (item :: rest)
    else
      drop
      pure []

/-- Reads a list. -/
def list {α : Type} (read : Reader α) : Reader (List α) := do
  if (← peekSome) = '[' then
    drop
    fun cs => items read (cs.length + 1) true cs
  else unfit .list

/-- Whether an object goes on with another key, which the reader then stands before. -/
def hasKey (first : Bool) : Reader Bool := do
  let c ← peekSome
  if c = '\x7d' then pure false
  else if first then if c = '"' then pure true else fail .malformed
  else if c = ',' then do
    drop
    if (← peekSome) = '"' then pure true else fail .malformed
  else fail .malformed

/-- The value of a name. -/
def variantOf {α : Type} (name : α → String) (all : List α) (written : String) : Reader α :=
  match all.find? (name · = written) with
  | some value => pure value
  | none => fail (.misfit (.unknownVariant written (all.map name)))

/-- Reads one of the given values, as its name or as an object that maps the name to null. -/
def variant {α : Type} (name : α → String) (all : List α) : Reader α := do
  match ← peekSome with
  | '"' => drop; variantOf name all (← textTail)
  | '\x7b' =>
    drop
    let value ← do
      if (← peekSome) = '"' then drop; variantOf name all (← textTail) else unfit .variant
    mark ':'
    nothing
    mark '\x7d'
    pure value
  | _ => fail .malformed

/-- Reads a value that takes the whole text. -/
def run {α : Type} (read : Reader α) (text : String) : Except ReadError α := do
  let (value, rest) ← read text.toList
  if skipBlanks rest = [] then pure value else throw .malformed

end Reader

end ResolverGen.Json
