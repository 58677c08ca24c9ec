/-
Reading a program as tokens.

A program is read in two passes. The first one makes UTF-16 code units of its characters; a backslash
and `u` with four digits behind it are one unit, where an even number of backslashes stands right
before them (`translate?`). The second one cuts the units into tokens, and takes a string literal for
the units that it stands for (`tokens?`). Only some marks are read, words are of ASCII characters, and
numbers are decimal; there are no comments and no text blocks. What is not read is refused.

Both passes are machines that take one symbol at a time, so that a text is read in pieces: `Scans`
says what a piece is read as, and pieces are put together by `Scans.append`. Different texts have
different code units (`codeUnits_injective`).
-/
import Mathlib.Data.List.Basic
import ResolverGen.Json.Reader

namespace ResolverGen.Code

/-! ### Machines -/

/-- Reads symbols one after another. Each step refuses its symbol, or writes some output and goes to
the next state. -/
def process {α β σ : Type} (step : σ → α → Option (List β × σ)) :
    σ → List α → Option (List β × σ)
  | s, [] => some ([], s)
  | s, a :: as =>
    (step s a).bind fun first => (process step first.2 as).map fun rest =>
      (first.1 ++ rest.1, rest.2)

section

variable {α β σ : Type} {step : σ → α → Option (List β × σ)} {s t r : σ} {a : α} {as bs : List α}
  {out more : List β}

theorem process_cons (h : step s a = some (out, t)) (hrest : process step t as = some (more, r)) :
    process step s (a :: as) = some (out ++ more, r) := by
  rw [process, h, Option.bind_some, hrest]
  rfl

theorem process_singleton (h : step s a = some (out, t)) :
    process step s [a] = some (out, t) := by
  rw [process_cons h rfl, List.append_nil]

theorem process_append (h : process step s as = some (out, t))
    (hrest : process step t bs = some (more, r)) :
    process step s (as ++ bs) = some (out ++ more, r) := by
  induction as generalizing s out with
  | nil =>
    obtain ⟨rfl, rfl⟩ := Prod.mk.inj (Option.some.inj h)
    exact hrest
  | cons a as ih =>
    obtain ⟨first, hstep, hmap⟩ := Option.bind_eq_some_iff.1 h
    obtain ⟨last, hlast, heq⟩ := Option.map_eq_some_iff.1 hmap
    obtain ⟨rfl, rfl⟩ := Prod.mk.inj heq
    rw [List.cons_append, process_cons hstep (ih hlast), List.append_assoc]

end

/-! ### Code units -/

/-- The UTF-16 code units of a character: its code, or the two halves of a pair. -/
def unitsOf (c : Char) : List Nat :=
  if c.toNat < 0x10000 then [c.toNat]
  else [0xd800 + (c.toNat - 0x10000) / 0x400, 0xdc00 + (c.toNat - 0x10000) % 0x400]

/-- The code units of a text. -/
def codeUnits (cs : List Char) : List Nat := cs.flatMap unitsOf

theorem unitsOf_ne_nil (c : Char) : unitsOf c ≠ [] := by
  unfold unitsOf
  split
  · exact List.cons_ne_nil _ _
  · exact List.cons_ne_nil _ _

theorem unitsOf_append_inj {c d : Char} {us vs : List Nat}
    (h : unitsOf c ++ us = unitsOf d ++ vs) : c = d ∧ us = vs := by
  have hc : c.toNat.isValidChar := c.valid
  have hd : d.toNat.isValidChar := d.valid
  suffices hboth : c.toNat = d.toNat ∧ us = vs from
    ⟨Char.toNat_inj.1 hboth.1, hboth.2⟩
  unfold unitsOf at h
  unfold Nat.isValidChar at hc hd
  -- a half of a pair is no code of a character, so that both have one unit or both have two
  split at h <;> split at h <;> simp at h
  · exact h
  · omega
  · omega
  · exact ⟨by omega, h.2.2⟩

theorem codeUnits_injective : Function.Injective codeUnits := by
  intro cs
  induction cs with
  | nil =>
    intro ds h
    cases ds with
    | nil => rfl
    | cons d ds => exact absurd (List.append_eq_nil_iff.1 h.symm).1 (unitsOf_ne_nil d)
  | cons c cs ih =>
    intro ds h
    cases ds with
    | nil => exact absurd (List.append_eq_nil_iff.1 h).1 (unitsOf_ne_nil c)
    | cons d ds =>
      obtain ⟨rfl, hrest⟩ := unitsOf_append_inj h
      rw [ih hrest]

/-! ### Unicode escapes -/

/-- What the characters read so far mean for the next one. -/
inductive EscapeState where
  /-- A backslash may start an escape: the backslashes right before it are even in number. -/
  | plain
  /-- Behind a backslash that may start an escape. -/
  | backslash
  /-- Behind the backslash and the `u` of an escape. -/
  | marked
  /-- Behind one to three digits of an escape. -/
  | digits (count value : Nat)
deriving DecidableEq, Repr

/-- Reads a character. -/
def escapeStep : EscapeState → Char → Option (List Nat × EscapeState)
  | .plain, c => some (if c = '\\' then ([], .backslash) else (unitsOf c, .plain))
  | .backslash, c =>
    some (if c = '\\' then (['\\'.toNat, '\\'.toNat], .plain)
      else if c = 'u' then ([], .marked)
      else ('\\'.toNat :: unitsOf c, .plain))
  | .marked, c =>
    if c = 'u' then some ([], .marked)
    else (Json.hexValue? c).map fun d => ([], .digits 1 d)
  | .digits count value, c =>
    (Json.hexValue? c).map fun d =>
      if count = 3 then ([16 * value + d], .plain) else ([], .digits (count + 1) (16 * value + d))

/-- The code units of a program: those of its characters, each Unicode escape being one unit. -/
def translate? (cs : List Char) : Option (List Nat) :=
  match process escapeStep .plain cs with
  | some (us, .plain) => some us
  | some (us, .backslash) => some (us ++ ['\\'.toNat])
  | _ => none

/-! ### Tokens -/

/-- The marks of the statements that are read here. -/
inductive Mark where
  | opening | closing | start | finish | semicolon | dot | plus | less
deriving DecidableEq, Repr

/-- A token. -/
inductive Token where
  | word (name : String)
  | number (value : Nat)
  /-- A string literal, by the code units that it stands for. -/
  | text (value : List Nat)
  | mark (m : Mark)
deriving DecidableEq, Repr

/-- The marks that are no part of longer ones. -/
def separators : List (Nat × Mark) :=
  [('('.toNat, .opening), (')'.toNat, .closing), ('\x7b'.toNat, .start), ('\x7d'.toNat, .finish),
   (';'.toNat, .semicolon)]

/-- The marks that may start longer ones. -/
def operators : List (Nat × Mark) :=
  [('.'.toNat, .dot), ('+'.toNat, .plus), ('<'.toNat, .less)]

/-- Blank, tab, form feed and the ends of lines. -/
def isSpace (u : Nat) : Bool := [0x20, 0x09, 0x0c, 0x0a, 0x0d].contains u

/-- Whether a word may start with a unit. Words are of ASCII letters and digits, `_` and `$`. -/
def startsWord (u : Nat) : Bool :=
  u < 0x80 && ((Char.ofNat u).isAlpha || u = '_'.toNat || u = '$'.toNat)

def isDigit (u : Nat) : Bool := '0'.toNat ≤ u && u ≤ '9'.toNat

/-- What the units read so far are part of. -/
inductive TokenState where
  | between
  | word (read : List Char)
  | number (read : Nat)
  | operator (m : Mark)
  /-- Behind a quote that opens a literal. -/
  | opened
  /-- Behind two quotes, which are the empty literal unless a third one follows. -/
  | empty
  | text (read : List Nat)
  /-- Behind a backslash in a literal. -/
  | backslash (read : List Nat)
  /-- Behind an octal digit in a literal, which up to `more` others may follow. -/
  | octal (read : List Nat) (more value : Nat)
deriving DecidableEq, Repr

/-- Reads the first unit of a token, or one between tokens. -/
def startToken (u : Nat) : Option (List Token × TokenState) :=
  if isSpace u then some ([], .between)
  else if startsWord u then some ([], .word [Char.ofNat u])
  else if isDigit u then some ([], .number (u - '0'.toNat))
  else if u = '"'.toNat then some ([], .opened)
  else
    match separators.lookup u with
    | some m => some ([.mark m], .between)
    | none => (operators.lookup u).map fun m => ([], .operator m)

/-- Ends a token before a unit. -/
def endToken (t : Token) (u : Nat) : Option (List Token × TokenState) :=
  (startToken u).map fun next => (t :: next.1, next.2)

/-- Reads a unit of a literal. No line ends in it. -/
def readText (read : List Nat) (u : Nat) : Option (List Token × TokenState) :=
  if u = '"'.toNat then some ([.text read], .between)
  else if u = '\\'.toNat then some ([], .backslash read)
  else if u = '\n'.toNat ∨ u = '\r'.toNat then none
  else some ([], .text (read ++ [u]))

/-- The escapes by one letter. -/
def shortEscapes : List (Nat × Nat) :=
  [('b'.toNat, 0x08), ('s'.toNat, 0x20), ('t'.toNat, 0x09), ('n'.toNat, 0x0a), ('f'.toNat, 0x0c),
   ('r'.toNat, 0x0d), ('"'.toNat, '"'.toNat), ('\''.toNat, '\''.toNat), ('\\'.toNat, '\\'.toNat)]

def octalValue? (u : Nat) : Option Nat :=
  if '0'.toNat ≤ u ∧ u ≤ '7'.toNat then some (u - '0'.toNat) else none

/-- Reads a unit. -/
def tokenStep : TokenState → Nat → Option (List Token × TokenState)
  | .between, u => startToken u
  | .word read, u =>
    if startsWord u || isDigit u then some ([], .word (read ++ [Char.ofNat u]))
    else endToken (.word (String.ofList read)) u
  | .number read, u =>
    if isDigit u then
      -- a number that starts with zero is an octal one
      if read = 0 then none else some ([], .number (10 * read + (u - '0'.toNat)))
    else if startsWord u || u = '.'.toNat then none
    else endToken (.number read) u
  | .operator m, u =>
    -- the mark could be part of a longer one before any other unit
    if isSpace u || startsWord u || u = '"'.toNat then endToken (.mark m) u else none
  | .opened, u => if u = '"'.toNat then some ([], .empty) else readText [] u
  | .empty, u => if u = '"'.toNat then none else endToken (.text []) u
  | .text read, u => readText read u
  | .backslash read, u =>
    match shortEscapes.lookup u with
    | some v => some ([], .text (read ++ [v]))
    | none => (octalValue? u).map fun d => ([], .octal read (if d ≤ 3 then 2 else 1) d)
  | .octal read more value, u =>
    match more, octalValue? u with
    | more + 1, some d => some ([], .octal read more (8 * value + d))
    | _, _ => readText (read ++ [value]) u

/-- The token that the end of the program ends, if it may end there. -/
def TokenState.last? : TokenState → Option (List Token)
  | .between => some []
  | .word read => some [.word (String.ofList read)]
  | .number read => some [.number read]
  | .operator m => some [.mark m]
  | .empty => some [.text []]
  | _ => none

/-- The tokens of a program. -/
def tokens? (cs : List Char) : Option (List Token) :=
  (translate? cs).bind fun us => (process tokenStep .between us).bind fun read =>
    read.2.last?.map (read.1 ++ ·)

/-! ### Scanning -/

/-- Whether characters take the scanner from one state to another and are the given tokens. -/
def Scans (s : TokenState) (cs : List Char) (ts : List Token) (t : TokenState) : Prop :=
  ∃ us, process escapeStep .plain cs = some (us, .plain) ∧ process tokenStep s us = some (ts, t)

section

variable {s t r : TokenState} {cs ds : List Char} {ts ts' : List Token} {c : Char}

theorem Scans.append (h : Scans s cs ts t) (h' : Scans t ds ts' r) :
    Scans s (cs ++ ds) (ts ++ ts') r := by
  obtain ⟨us, hus, hts⟩ := h
  obtain ⟨vs, hvs, hts'⟩ := h'
  exact ⟨us ++ vs, process_append hus hvs, process_append hts hts'⟩

/-- The tokens of a program that is scanned as a whole. -/
theorem Scans.tokens?_eq (h : Scans .between cs ts t) : tokens? cs = t.last?.map (ts ++ ·) := by
  obtain ⟨us, hus, hts⟩ := h
  rw [tokens?, translate?, hus, Option.bind_some, hts, Option.bind_some]

theorem scans_nil (s : TokenState) : Scans s [] [] s := ⟨[], rfl, rfl⟩

/-- A character that starts no escape is scanned by its code units. -/
theorem Scans.char (hc : c ≠ '\\') (h : process tokenStep s (unitsOf c) = some (ts, t)) :
    Scans s [c] ts t := by
  refine ⟨unitsOf c, process_singleton ?_, h⟩
  rw [escapeStep, if_neg hc]

/-! ### Words and numbers -/

/-- Whether a text is a word. -/
def isWord (name : String) : Bool :=
  match name.toList with
  | [] => false
  | c :: cs => startsWord c.toNat && cs.all fun d => startsWord d.toNat || isDigit d.toNat

theorem of_startsWord {u : Nat} (h : startsWord u = true) : u < 0x80 ∧ isSpace u = false := by
  have hspace : ∀ u < 0x80, startsWord u = true → isSpace u = false := by decide
  rw [startsWord, Bool.and_eq_true, decide_eq_true_eq] at h
  exact ⟨h.1, hspace u h.1 (by simpa [startsWord] using h)⟩

theorem of_isDigit {u : Nat} (h : isDigit u = true) :
    u < 0x80 ∧ isSpace u = false ∧ startsWord u = false := by
  have hother : ∀ u < 0x80, isDigit u = true → isSpace u = false ∧ startsWord u = false := by decide
  have hlt : u < 0x80 := by
    rw [isDigit, Bool.and_eq_true, decide_eq_true_eq, decide_eq_true_eq] at h
    exact Nat.lt_of_le_of_lt h.2 (by decide)
  exact ⟨hlt, hother u hlt h⟩

/-- An ASCII character is scanned by its code. -/
theorem Scans.ascii (hc : c.toNat < 0x80) (hslash : c ≠ '\\')
    (h : tokenStep s c.toNat = some (ts, t)) : Scans s [c] ts t := by
  have hunits : unitsOf c = [c.toNat] := if_pos (Nat.lt_trans hc (by decide))
  exact Scans.char hslash (hunits ▸ process_singleton h)

theorem startToken_word (hc : startsWord c.toNat = true) :
    startToken c.toNat = some ([], .word [c]) := by
  rw [startToken, (of_startsWord hc).2, hc, Char.ofNat_toNat]
  rfl

theorem tokenStep_word (hc : (startsWord c.toNat || isDigit c.toNat) = true) (read : List Char) :
    tokenStep (.word read) c.toNat = some ([], .word (read ++ [c])) := by
  rw [tokenStep, hc, Char.ofNat_toNat]
  rfl

/-- The characters of a word behind the first one. -/
theorem scans_wordRest (hcs : cs.all (fun c => startsWord c.toNat || isDigit c.toNat) = true)
    (read : List Char) : Scans (.word read) cs [] (.word (read ++ cs)) := by
  induction cs generalizing read with
  | nil => simpa using scans_nil (.word read)
  | cons c cs ih =>
    rw [List.all_cons, Bool.and_eq_true] at hcs
    have hlt : c.toNat < 0x80 := by
      rcases Bool.or_eq_true_iff.1 hcs.1 with hc | hc
      · exact (of_startsWord hc).1
      · exact (of_isDigit hc).1
    have hslash : c ≠ '\\' := by
      rintro rfl
      exact absurd hcs.1 (by decide)
    have hfirst := Scans.ascii hlt hslash (tokenStep_word hcs.1 read)
    simpa using hfirst.append (ih hcs.2 (read ++ [c]))

/-- A word is scanned in any state that the first character of a word ends. -/
theorem scans_word {name : String} (hname : isWord name = true)
    (hs : ∀ c : Char, startsWord c.toNat = true → tokenStep s c.toNat = some (ts, .word [c])) :
    Scans s name.toList ts (.word name.toList) := by
  unfold isWord at hname
  cases hlist : name.toList with
  | nil => simp [hlist] at hname
  | cons c cs =>
    rw [hlist, Bool.and_eq_true] at hname
    have hslash : c ≠ '\\' := by
      rintro rfl
      exact absurd hname.1 (by decide)
    have hfirst := Scans.ascii (of_startsWord hname.1).1 hslash (hs c hname.1)
    simpa using hfirst.append (scans_wordRest hname.2 [c])

/-- What is said of a decimal digit by its character. -/
theorem of_digitChar {d : Nat} (h : d < 10) : d.digitChar ≠ '\\' ∧
    isDigit d.digitChar.toNat = true ∧ d.digitChar.toNat - '0'.toNat = d := by
  have hall : ∀ d < 10, d.digitChar ≠ '\\' ∧ isDigit d.digitChar.toNat = true ∧
      d.digitChar.toNat - '0'.toNat = d := by
    decide
  exact hall d h

/-- A number is scanned as its decimal digits. -/
theorem scans_toDigits (n : Nat) : Scans .between (Nat.toDigits 10 n) [] (.number n) := by
  induction n using Nat.strongRecOn with
  | ind n ih =>
    by_cases hn : n < 10
    · obtain ⟨hslash, hdigit, hvalue⟩ := of_digitChar hn
      obtain ⟨hlt, hspace, hword⟩ := of_isDigit hdigit
      rw [Nat.toDigits_of_lt_base hn]
      refine Scans.ascii hlt hslash ?_
      rw [tokenStep, startToken, hspace, hword, hdigit, hvalue]
      rfl
    · -- the digits before the last one are those of a number that is not zero
      have hle : 10 ≤ n := Nat.le_of_not_lt hn
      have hne : n / 10 ≠ 0 := by omega
      obtain ⟨hslash, hdigit, hvalue⟩ := of_digitChar (Nat.mod_lt n (by decide : 10 > 0))
      have hlast : Scans (.number (n / 10)) [(n % 10).digitChar] [] (.number n) := by
        refine Scans.ascii (of_isDigit hdigit).1 hslash ?_
        rw [tokenStep, hdigit, if_pos rfl, if_neg hne, hvalue, Nat.div_add_mod]
      rw [Nat.toDigits_of_base_le (by decide) hle]
      exact (ih (n / 10) (Nat.div_lt_self (by omega) (by decide))).append hlast

end

end ResolverGen.Code
