/-
Cutting arguments into tokens.

Each class of tokens has a function that takes one such token off the front of a text. Literals come
before marks and marks before words; blanks and comments stand between tokens, and a documentation
comment counts as the attribute that it stands for. A text that cannot be cut has no tokens at all.
-/
import ResolverGen.Argument.Tree
import ResolverGen.Json.Reader
import ResolverGen.Naming
import ResolverGen.Unicode.Blank
import ResolverGen.Unicode.Identifier

namespace ResolverGen.Argument

open Naming (after?)
open Unicode (startsName continuesName)
open Json (hexValue? digitValue)

/-! Words. -/

/-- Splits off a name. -/
def spanName : List Char → Option (List Char × List Char)
  | [] => none
  | c :: cs =>
    if startsName c then some (c :: cs.takeWhile continuesName, cs.dropWhile continuesName)
    else none

/-- Names that cannot be written raw. -/
def neverRaw : List String := ["_", "super", "self", "Self", "crate"]

/-- Splits off a word; a raw one keeps its mark. -/
def spanWord (cs : List Char) : Option (String × List Char) :=
  match after? "r#".toList cs with
  | none => (spanName cs).map fun (name, rest) => (String.ofList name, rest)
  | some cs =>
    match spanName cs with
    | none => none
    | some (name, rest) =>
      if neverRaw.contains (String.ofList name) then none
      else some ("r#" ++ String.ofList name, rest)

/-- Beginnings of literals that a word cannot have. -/
def literalStarts : List String :=
  ["r\"", "r#\"", "r##", "b\"", "b'", "br\"", "br#", "c\"", "cr\"", "cr#"]

/-- Splits off a word that does not look like a literal. -/
def spanPlainWord (cs : List Char) : Option (String × List Char) :=
  if literalStarts.any fun start => (after? start.toList cs).isSome then none else spanWord cs

/-! Marks. -/

/-- The characters of marks. -/
def markChars : List Char := "~!@#$%^&*-=+|;:,<.>/?'".toList

/-- Whether a text starts with a mark; the slash of a comment is none. -/
def startsMark : List Char → Bool
  | [] => false
  | '/' :: '/' :: _ => false
  | '/' :: '*' :: _ => false
  | c :: _ => markChars.contains c

/-- Splits off a mark. A single quote has to start a label. -/
def spanMark : List Char → Option (Token × List Char)
  | [] => none
  | c :: cs =>
    if !startsMark (c :: cs) then none
    else if c = '\'' then
      match spanWord cs with
      | none => none
      | some (_, rest) =>
        let closed := rest.head? = some '\''
        let raw := rest.head? = some '#' && (after? "r#".toList cs).isNone
        if closed || raw then none else some (.mark c true, cs)
    else some (.mark c (startsMark cs), cs)

/-! Texts and characters. -/

/-- What may stand between quotes. -/
structure Quoting where
  /-- Characters beyond ASCII, and their escapes. -/
  unicode : Bool
  /-- Escapes of bytes beyond ASCII. -/
  wideByte : Bool
  /-- The zero character. -/
  zero : Bool

/-- The rules for texts and characters. -/
def Quoting.text : Quoting := ⟨true, false, true⟩

/-- The rules for byte texts and bytes. -/
def Quoting.bytes : Quoting := ⟨false, true, true⟩

/-- The rules for texts that end in a zero byte. -/
def Quoting.zeroEnded : Quoting := ⟨true, true, false⟩

/-- Whether a character may stand between quotes. -/
def Quoting.admits (q : Quoting) (c : Char) : Bool :=
  (q.unicode || c.toNat < 0x80) && (q.zero || c.toNat ≠ 0)

/-- Reads the digits of a code up to the closing brace: one to six of them, which underscores may
follow. -/
def spanCode (value count : Nat) : List Char → Option (Char × List Char)
  | [] => none
  | c :: cs =>
    match hexValue? c with
    | some digit => if count = 6 then none else spanCode (16 * value + digit) (count + 1) cs
    | none =>
      if count = 0 then none
      else if c = '_' then spanCode value count cs
      else if c = '\x7d' ∧ value.isValidChar then some (Char.ofNat value, cs)
      else none

/-- Reads an escape behind its backslash. -/
def spanEscape (q : Quoting) : List Char → Option (Char × List Char)
  | 'x' :: high :: low :: cs => do
    let value := 16 * (← hexValue? high) + (← hexValue? low)
    if (q.wideByte || value < 0x80) && (q.zero || value ≠ 0) then some (Char.ofNat value, cs)
    else none
  | 'u' :: '\x7b' :: cs =>
    if q.unicode then (spanCode 0 0 cs).filter fun (c, _) => q.zero || c.toNat ≠ 0 else none
  | 'n' :: cs => some ('\n', cs)
  | 'r' :: cs => some ('\r', cs)
  | 't' :: cs => some ('\t', cs)
  | '\\' :: cs => some ('\\', cs)
  | '\'' :: cs => some ('\'', cs)
  | '"' :: cs => some ('"', cs)
  | '0' :: cs => if q.zero then some ('\x00', cs) else none
  | _ => none

/-- Drops the blanks at the start of a continued line. Something has to follow them. -/
def dropContinued : List Char → Option (List Char)
  | [] => none
  | '\r' :: '\n' :: cs => dropContinued cs
  | '\r' :: _ => none
  | c :: cs => if c = ' ' || c = '\t' || c = '\n' then dropContinued cs else some (c :: cs)

/-- Puts a character in front of what has been read. -/
def putFirst (c : Char) (rest : Option (List Char × List Char)) :
    Option (List Char × List Char) :=
  rest.map fun (text, cs) => (c :: text, cs)

/-- Reads a text up to its closing quote. A carriage return stands only before a line feed, and the
two count as a line feed. -/
def spanQuoted (q : Quoting) : Nat → List Char → Option (List Char × List Char)
  | 0, _ => none
  | fuel + 1, cs =>
    match cs with
    | [] => none
    | '"' :: cs => some ([], cs)
    | '\r' :: '\n' :: cs => putFirst '\n' (spanQuoted q fuel cs)
    | '\r' :: _ => none
    | '\\' :: '\n' :: cs => (dropContinued cs).bind (spanQuoted q fuel)
    | '\\' :: '\r' :: '\n' :: cs => (dropContinued cs).bind (spanQuoted q fuel)
    | '\\' :: cs => (spanEscape q cs).bind fun (c, cs) => putFirst c (spanQuoted q fuel cs)
    | c :: cs => if q.admits c then putFirst c (spanQuoted q fuel cs) else none

/-- Reads a raw text up to its closing quote and as many hashes as stood before the opening one. -/
def spanRaw (q : Quoting) (hashes : List Char) : List Char → Option (List Char × List Char)
  | [] => none
  | '\r' :: '\n' :: cs => putFirst '\r' (putFirst '\n' (spanRaw q hashes cs))
  | '\r' :: _ => none
  | c :: cs =>
    if c = '"' then
      match after? hashes cs with
      | some rest => some ([], rest)
      | none => putFirst c (spanRaw q hashes cs)
    else if q.admits c then putFirst c (spanRaw q hashes cs)
    else none

/-- Reads a raw text from its hashes on, of which there are at most 255. -/
def spanHashed (q : Quoting) (cs : List Char) : Option (List Char × List Char) :=
  let hashes := cs.takeWhile (· = '#')
  match cs.dropWhile (· = '#') with
  | '"' :: rest => if hashes.length ≤ 255 then spanRaw q hashes rest else none
  | _ => none

/-- Reads a text behind its letters: in quotes, or raw behind an `r`. -/
def spanText (q : Quoting) : List Char → Option (List Char × List Char)
  | '"' :: cs => spanQuoted q (cs.length + 1) cs
  | 'r' :: cs => spanHashed q cs
  | _ => none

/-- Reads a character behind its opening quote. -/
def spanChar (q : Quoting) : List Char → Option (List Char)
  | '\\' :: cs =>
    match spanEscape q cs with
    | some (_, '\'' :: rest) => some rest
    | _ => none
  | c :: '\'' :: rest => if q.admits c then some rest else none
  | _ => none

/-! Numbers. -/

/-- Whether a character may stand among digits. -/
def isNumeralChar (c : Char) : Bool := c.isDigit || c = '_'

/-- Drops an exponent behind its letter: a sign at most, and digits. -/
def dropExponent (signed valued : Bool) : List Char → Option (List Char)
  | [] => if valued then some [] else none
  | c :: cs =>
    if c.isDigit then dropExponent signed true cs
    else if c = '_' then dropExponent signed valued cs
    else if valued then some (c :: cs)
    else if (c = '+' || c = '-') && !signed then dropExponent true valued cs
    else none

/-- Drops what follows the digits of a number behind a point, which is a number even if its exponent
breaks off. -/
def dropFraction (cs : List Char) : List Char :=
  match cs.dropWhile isNumeralChar with
  | [] => []
  | c :: rest => if c = 'e' || c = 'E' then (dropExponent false false rest).getD (c :: rest)
    else c :: rest

/-- Drops a number with a point or an exponent. -/
def dropDecimal : List Char → Option (List Char)
  | [] => none
  | c :: cs =>
    if !c.isDigit then none
    else
      match cs.dropWhile isNumeralChar with
      | '.' :: rest =>
        match rest with
        | [] => some []
        | d :: _ => if d = '.' || startsName d then none else some (dropFraction rest)
      | d :: rest => if d = 'e' || d = 'E' then dropExponent false false rest else none
      | [] => none

/-- Reads digits in a base; `found` says whether there has been one. A decimal digit beyond the base
is an error, any other character ends the number. -/
def spanDigits (base value : Nat) (found : Bool) : List Char → Option (Nat × List Char)
  | [] => if found then some (value, []) else none
  | c :: cs =>
    if c = '_' then
      if !found && base = 10 then none else spanDigits base value found cs
    else
      match hexValue? c with
      | none => if found then some (value, c :: cs) else none
      | some digit =>
        if digit < base then spanDigits base (base * value + digit) true cs
        else if c.isDigit then none
        else if found then some (value, c :: cs)
        else none

/-- Reads a whole number in base ten, or in another base behind its mark. -/
def spanInteger : List Char → Option (Nat × List Char)
  | '0' :: 'x' :: cs => spanDigits 16 0 false cs
  | '0' :: 'o' :: cs => spanDigits 8 0 false cs
  | '0' :: 'b' :: cs => spanDigits 2 0 false cs
  | cs => spanDigits 10 0 false cs

/-- Drops the suffix of a literal. -/
def dropSuffix (cs : List Char) : List Char :=
  match spanName cs with
  | some (_, rest) => rest
  | none => cs

/-- Drops the suffix of a number, which has to end there. -/
def endNumber (cs : List Char) : Option (List Char) :=
  let rest := dropSuffix cs
  if (rest.head?.map continuesName).getD false then none else some rest

/-- Splits off a number. -/
def spanNumber (cs : List Char) : Option (Literal × List Char) :=
  match (dropDecimal cs).bind endNumber with
  | some rest => some (.decimal, rest)
  | none =>
    (spanInteger cs).bind fun (value, rest) =>
      (endNumber rest).map fun rest => (.integer value, rest)

/-- Splits off a literal. -/
def spanLiteral : List Char → Option (Literal × List Char)
  | [] => none
  | c :: cs =>
    match c with
    | '"' => text (c :: cs)
    | 'r' => text (c :: cs)
    | '\'' => (spanChar .text cs).map fun rest => (.char, dropSuffix rest)
    | 'b' =>
      match cs with
      | '\'' :: cs => (spanChar .bytes cs).map fun rest => (.byte, dropSuffix rest)
      | cs => (spanText .bytes cs).map fun (_, rest) => (.byteText, dropSuffix rest)
    | 'c' => (spanText .zeroEnded cs).map fun (_, rest) => (.zeroText, dropSuffix rest)
    | _ => spanNumber (c :: cs)
where
  /-- A text without letters in front. -/
  text (cs : List Char) : Option (Literal × List Char) :=
    (spanText .text cs).map fun (value, rest) => (.text (String.ofList value), dropSuffix rest)

/-- Splits off a token that is no bracket. -/
def spanLeaf (cs : List Char) : Option (Token × List Char) :=
  match spanLiteral cs with
  | some (l, rest) => some (.literal l, rest)
  | none =>
    match spanMark cs with
    | some found => some found
    | none => (spanPlainWord cs).map fun (name, rest) => (.word name, rest)

/-! Blanks and comments. -/

/-- Whether a character is blank between tokens: a blank, or a mark of the writing direction. -/
def isGap (c : Char) : Bool := Unicode.isBlank c || c = '\u200e' || c = '\u200f'

/-- Splits a text before the end of its first line. -/
def cutLine : List Char → List Char × List Char
  | [] => ([], [])
  | '\n' :: cs => ([], '\n' :: cs)
  | '\r' :: '\n' :: cs => ([], '\n' :: cs)
  | c :: cs =>
    let (line, rest) := cutLine cs
    (c :: line, rest)

/-- Splits a text behind the comment that is open `depth` times. -/
def cutComment (depth : Nat) : List Char → Option (List Char × List Char)
  | [] => none
  | '/' :: '*' :: cs => putFirst '/' (putFirst '*' (cutComment (depth + 1) cs))
  | '*' :: '/' :: cs =>
    if depth ≤ 1 then some ([], cs) else putFirst '*' (putFirst '/' (cutComment (depth - 1) cs))
  | c :: cs => putFirst c (cutComment depth cs)

/-- Drops a comment that documents nothing. -/
def dropComment (cs : List Char) : Option (List Char) :=
  match cs with
  | '/' :: '/' :: rest =>
    match rest with
    | '!' :: _ => none
    | '/' :: '/' :: _ => some (cutLine rest).2
    | '/' :: _ => none
    | _ => some (cutLine rest).2
  | '/' :: '*' :: rest =>
    match rest with
    | '!' :: _ => none
    | '*' :: '/' :: after => some after
    | '*' :: '*' :: _ => (cutComment 1 rest).map (·.2)
    | '*' :: _ => none
    | _ => (cutComment 1 rest).map (·.2)
  | _ => none

/-- Drops the blanks and comments in front. -/
def skipGaps : Nat → List Char → List Char
  | 0, cs => cs
  | fuel + 1, cs =>
    match dropComment cs with
    | some rest => skipGaps fuel rest
    | none =>
      match cs with
      | [] => []
      | c :: rest => if isGap c then skipGaps fuel rest else c :: rest

/-- Whether every carriage return stands before a line feed. -/
def hasWholeLines : List Char → Bool
  | [] => true
  | '\r' :: '\n' :: cs => hasWholeLines cs
  | c :: cs => c ≠ '\r' && hasWholeLines cs

/-- Splits off a documentation comment: whether it is an inner one, and its text. -/
def spanDocument (cs : List Char) : Option (Bool × List Char × List Char) :=
  match cs with
  | '/' :: '/' :: '!' :: rest => some (true, cutLine rest)
  | '/' :: '*' :: '!' :: rest => (cutComment 1 rest).map fun cut => (true, cut)
  | '/' :: '/' :: '/' :: rest => if rest.head? = some '/' then none else some (false, cutLine rest)
  | '/' :: '*' :: '*' :: rest =>
    if rest.head? = some '*' then none else (cutComment 1 rest).map fun cut => (false, cut)
  | _ => none

/-- The attribute that a documentation comment stands for. -/
def documentTokens (inner : Bool) (text : List Char) : List Token :=
  .mark '#' false :: (if inner then [.mark '!' false] else []) ++
    [.opening .bracket, .word "doc", .mark '=' false, .literal (.text (String.ofList text)),
     .closing .bracket]

/-- Cuts a text into tokens. Every step takes a character. -/
def tokensFrom : Nat → List Char → Option (List Token)
  | 0, _ => none
  | fuel + 1, cs =>
    let cs := skipGaps (cs.length + 1) cs
    match (spanDocument cs).filter fun (_, text, _) => hasWholeLines text with
    | some (inner, text, rest) => (tokensFrom fuel rest).map (documentTokens inner text ++ ·)
    | none =>
      match cs with
      | [] => some []
      | c :: rest =>
        match Delimiter.opened? c, Delimiter.closed? c with
        | some d, _ => (tokensFrom fuel rest).map (.opening d :: ·)
        | none, some d => (tokensFrom fuel rest).map (.closing d :: ·)
        | none, none =>
          match spanLeaf (c :: rest) with
          | none => none
          | some (token, rest) => (tokensFrom fuel rest).map (token :: ·)

/-- Drops a byte order mark in front. -/
def dropOrderMark : List Char → List Char
  | '\ufeff' :: cs => cs
  | cs => cs

/-- The token trees of a text, unless it cannot be cut or its brackets do not match. -/
def trees? (text : String) : Option (List Tree) :=
  let cs := dropOrderMark text.toList
  (tokensFrom (cs.length + 1) cs).bind nest

end ResolverGen.Argument
