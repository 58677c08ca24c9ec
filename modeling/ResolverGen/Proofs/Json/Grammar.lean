/-
How values are written in documents.

A `Spelling` tells which texts write a value. A value may stand between blanks, and the characters of
a text may be escaped: a character is written as it is, by a mark behind a backslash, or by the code
of each of its halves (`Spelling.char`). Lists and objects are series of spelled items with commas
between them.

A record is an object with an entry for each of its parts, in any order. A part may be left out if
its value is the one that it has anyway, and there may be other entries, with texts for their values
(`Spelling.record`).
-/
import ResolverGen.Json.Number
import ResolverGen.Json.Reader

namespace ResolverGen.Json

/-- The texts that write a value. -/
abbrev Spelling := List Char → Prop

/-- Whether a text consists of blanks. -/
def Blanks (cs : List Char) : Prop := ∀ c ∈ cs, isBlank c = true

/-- Whether a character is a hexadecimal digit of a value, in either case. -/
def IsHexDigit (value : Nat) (c : Char) : Prop :=
  value < 16 ∧ (c = value.digitChar ∨ c = value.digitChar.toUpper)

/-- Whether a character of a text is written as it is. -/
def IsPlain (c : Char) : Prop := 0x20 ≤ c.toNat ∧ c ≠ '"' ∧ c ≠ '\\'

instance instDecidableBlanks (cs : List Char) : Decidable (Blanks cs) :=
  List.decidableBAll (fun c => isBlank c = true) cs

instance instDecidableIsHexDigit (value : Nat) (c : Char) : Decidable (IsHexDigit value c) :=
  inferInstanceAs (Decidable (_ ∧ _))

instance instDecidableIsPlain (c : Char) : Decidable (IsPlain c) :=
  inferInstanceAs (Decidable (_ ∧ _))

/-- Characters with the marks that stand for them behind a backslash. -/
def shortEscapes : List (Char × Char) :=
  [('"', '"'), ('\\', '\\'), ('/', '/'), ('\x08', 'b'), ('\x0c', 'f'), ('\n', 'n'), ('\r', 'r'),
   ('\t', 't')]

namespace Spelling

variable {α : Type}

/-- The code of a character or of one of its halves, in four digits. -/
def code (n : Nat) : Spelling := fun cs =>
  ∃ d₃ d₂ d₁ d₀, cs = ['\\', 'u', d₃, d₂, d₁, d₀] ∧ IsHexDigit (n / 16 / 16 / 16) d₃ ∧
    IsHexDigit (n / 16 / 16 % 16) d₂ ∧ IsHexDigit (n / 16 % 16) d₁ ∧ IsHexDigit (n % 16) d₀

/-- A character of a text. -/
inductive char (c : Char) : Spelling
  | plain : IsPlain c → char c [c]
  | short {mark : Char} : (c, mark) ∈ shortEscapes → char c ['\\', mark]
  | code {cs : List Char} : Spelling.code c.toNat cs → char c cs
  | halves {high low : List Char} : 0x10000 ≤ c.toNat →
      Spelling.code (0xd800 + (c.toNat - 0x10000) / 0x400) high →
      Spelling.code (0xdc00 + (c.toNat - 0x10000) % 0x400) low → char c (high ++ low)

/-- The characters of a text. -/
inductive chars : List Char → Spelling
  | nil : chars [] []
  | cons {c : Char} {text cs rest : List Char} :
      char c cs → chars text rest → chars (c :: text) (cs ++ rest)

/-- A text. -/
def text (s : String) : Spelling := fun cs => ∃ body, chars s.toList body ∧ cs = '"' :: body ++ ['"']

/-- Null. -/
def null : Spelling := fun cs => cs = ['n', 'u', 'l', 'l']

/-- An index, of 64 bits at most. -/
def index (n : Nat) : Spelling := fun cs => n < wordBound ∧ cs = Nat.toDigits 10 n

/-- A value or null. -/
def optional (w : α → Spelling) : Option α → Spelling
  | none => null
  | some a => w a

/-- What is behind an item of a series, up to its end. -/
inductive more (close : Char) : List Spelling → Spelling
  | done {b : List Char} : Blanks b → more close [] (b ++ [close])
  | next {b b' cs rest : List Char} {w : Spelling} {ws : List Spelling} :
      Blanks b → Blanks b' → w cs → more close ws rest →
        more close (w :: ws) (b ++ ',' :: (b' ++ (cs ++ rest)))

/-- The items of a series, and its end. -/
inductive series (close : Char) : List Spelling → Spelling
  | none {b : List Char} : Blanks b → series close [] (b ++ [close])
  | first {b cs rest : List Char} {w : Spelling} {ws : List Spelling} :
      Blanks b → w cs → more close ws rest → series close (w :: ws) (b ++ (cs ++ rest))

/-- A list. -/
def list (w : α → Spelling) (xs : List α) : Spelling := fun cs =>
  ∃ items, series ']' (xs.map w) items ∧ cs = '[' :: items

/-- An entry of an object: its key and its value. -/
def entry (e : String × Spelling) : Spelling := fun cs =>
  ∃ key b b' value, text e.1 key ∧ Blanks b ∧ Blanks b' ∧ e.2 value ∧
    cs = key ++ (b ++ ':' :: (b' ++ value))

/-- An object. -/
def object (entries : List (String × Spelling)) : Spelling := fun cs =>
  ∃ items, series '\x7d' (entries.map entry) items ∧ cs = '\x7b' :: items

/-- A document that holds a value. -/
def document (w : Spelling) : Spelling := fun cs =>
  ∃ b value b', Blanks b ∧ w value ∧ Blanks b' ∧ cs = b ++ (value ++ b')

end Spelling

/-- A record's part: its key, how its value is written, and whether it may be left out. -/
structure Part (α : Type) where
  key : String
  shown : α → Spelling
  omissible : α → Prop

/-- Whether an object shows the parts of a record: each of them once unless it is left out, and
besides them texts only. -/
structure Part.Shown {α : Type} (parts : List (Part α)) (a : α)
    (entries : List (String × Spelling)) : Prop where
  known : ∀ p ∈ parts, entries.filter (·.1 = p.key) = [(p.key, p.shown a)] ∨
    entries.filter (·.1 = p.key) = [] ∧ p.omissible a
  unknown : ∀ entry ∈ entries, (∃ p ∈ parts, p.key = entry.1) ∨ ∃ s, entry.2 = Spelling.text s

/-- A record of some parts. -/
def Spelling.record {α : Type} (parts : List (Part α)) (a : α) : Spelling := fun cs =>
  ∃ entries, Part.Shown parts a entries ∧ object entries cs

/-! ### Spellings without blanks -/

namespace Spelling

variable {close : Char} {cs rest value : List Char} {w : Spelling} {ws : List Spelling}

theorem chars_self (h : cs.all (IsPlain ·)) : chars cs cs := by
  induction cs with
  | nil => exact .nil
  | cons c cs ih =>
    rw [List.all_cons, Bool.and_eq_true, decide_eq_true_iff] at h
    exact .cons (.plain h.1) (ih h.2)

theorem chars_append {text text' cs cs' : List Char} (h : chars text cs) (h' : chars text' cs') :
    chars (text ++ text') (cs ++ cs') := by
  induction h with
  | nil => exact h'
  | cons hchar _ ih =>
    rw [List.append_assoc]
    exact .cons hchar ih

theorem text_quoted {s : String} (h : s.toList.all (IsPlain ·)) :
    text s ('"' :: s.toList ++ ['"']) :=
  ⟨s.toList, chars_self h, rfl⟩

theorem more_close : more close [] [close] := .done (b := []) (by decide)

theorem more_item (hitem : w cs) (hmore : more close ws rest) :
    more close (w :: ws) (',' :: (cs ++ rest)) :=
  .next (b := []) (by decide) (List.forall_mem_nil _) hitem hmore

theorem series_item (hitem : w cs) (hmore : more close ws rest) :
    series close (w :: ws) (cs ++ rest) :=
  .first (b := []) (by decide) hitem hmore

theorem entry_quoted {key : String} (hkey : key.toList.all (IsPlain ·)) (hvalue : w value) :
    entry (key, w) ('"' :: key.toList ++ '"' :: ':' :: value) :=
  ⟨_, [], [], value, text_quoted hkey, by decide, by decide, hvalue, by simp⟩

end Spelling

end ResolverGen.Json
