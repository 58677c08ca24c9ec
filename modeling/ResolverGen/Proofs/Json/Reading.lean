/-
Readers take off what is written.

`Reads` says that a reader takes every spelling of a value off the front of a text, whatever blanks
stand before it and whatever a document goes on with behind it. It holds of the readers of texts
(`reads_text`), indices (`reads_index`), values that may be null (`reads_optional`), named values
(`reads_variant`) and lists (`reads_list`), and a text that nobody asked for is skipped
(`reads_skip`).
-/
import Mathlib.Data.List.Basic
import ResolverGen.Proofs.Argument.Writing
import ResolverGen.Proofs.Json.Grammar

namespace ResolverGen.Json

variable {α β : Type} {a : α} {b cs rest : List Char} {c : Char}

/-- Whether a text goes on as a document does behind a value. -/
def EndsValue (rest : List Char) : Prop :=
  ∀ c ∈ rest.head?, isBlank c = true ∨ c = ',' ∨ c = ']' ∨ c = '\x7d'

/-- Whether a text starts as a value does. -/
def StartsValue (cs : List Char) : Prop := ∃ c rest, cs = c :: rest ∧ isBlank c = false ∧ c ≠ ']'

/-- A reader that takes the spellings of a value off the front of a text. -/
structure Reads (read : Reader α) (w : Spelling) (a : α) : Prop where
  starts : ∀ cs, w cs → StartsValue cs
  reads : ∀ b cs rest, Blanks b → w cs → EndsValue rest → read (b ++ (cs ++ rest)) = .ok (a, rest)

theorem blanks_nil : Blanks [] := fun _ h => absurd h List.not_mem_nil

/-- Where no blanks are in front. -/
theorem Reads.here {read : Reader α} {w : Spelling} (h : Reads read w a) (hcs : w cs)
    (hrest : EndsValue rest) : read (cs ++ rest) = .ok (a, rest) :=
  h.reads [] cs rest blanks_nil hcs hrest

/-! ### Steps of readers -/

theorem Reader.bind_of_ok {read : Reader α} {f : α → Reader β} (h : read cs = .ok (a, rest)) :
    (read >>= f) cs = f a rest := by
  show (read cs >>= fun r => f r.1 r.2) = f a rest
  rw [h]
  rfl

theorem Reader.map_of_ok {read : Reader α} {f : α → β} (h : read cs = .ok (a, rest)) :
    (f <$> read) cs = .ok (f a, rest) := by
  show (read cs >>= fun r => pure (f r.1, r.2)) = .ok (f a, rest)
  rw [h]
  rfl

theorem skipBlanks_append (hb : Blanks b) (hc : isBlank c = false) (cs : List Char) :
    skipBlanks (b ++ c :: cs) = c :: cs := by
  induction b with
  | nil => exact skipBlanks_cons cs hc
  | cons d b ih =>
    rw [Blanks, List.forall_mem_cons] at hb
    rw [List.cons_append, skipBlanks, if_pos hb.1, ih hb.2]

theorem skipBlanks_blanks (hb : Blanks b) : skipBlanks b = [] := by
  induction b with
  | nil => rfl
  | cons d b ih =>
    rw [Blanks, List.forall_mem_cons] at hb
    rw [skipBlanks, if_pos hb.1, ih hb.2]

theorem Reader.drop_cons (c : Char) (cs : List Char) : drop (c :: cs) = .ok ((), cs) := rfl

theorem Reader.peek_append (hb : Blanks b) (hc : isBlank c = false) (cs : List Char) :
    peek (b ++ c :: cs) = .ok (some c, c :: cs) := by
  rw [peek, skipBlanks_append hb hc]
  rfl

theorem Reader.peekSome_append (hb : Blanks b) (hc : isBlank c = false) (cs : List Char) :
    peekSome (b ++ c :: cs) = .ok (c, c :: cs) := by
  rw [peekSome, bind_of_ok (peek_append hb hc cs)]
  rfl

theorem Reader.mark_append (hb : Blanks b) (hc : isBlank c = false) (cs : List Char) :
    mark c (b ++ c :: cs) = .ok ((), cs) := by
  rw [mark, bind_of_ok (peekSome_append hb hc cs), if_pos rfl]
  rfl

theorem Reads.bind_pure {read : Reader α} {w : Spelling} {f : α → β} {result : β}
    (h : Reads read w a) (hresult : result = f a) :
    Reads (read >>= fun x => pure (f x)) w result := by
  refine ⟨h.starts, fun b cs rest hb hcs hrest => ?_⟩
  rw [Reader.bind_of_ok (h.reads b cs rest hb hcs hrest), hresult]
  rfl

/-! ### Texts -/

theorem hexValue?_of_isHexDigit {value : Nat} (h : IsHexDigit value c) : hexValue? c = some value := by
  have hall : ∀ value < 16, hexValue? value.digitChar = some value ∧
      hexValue? value.digitChar.toUpper = some value := by
    decide
  obtain ⟨hvalue, rfl | rfl⟩ := h
  · exact (hall value hvalue).1
  · exact (hall value hvalue).2

/-- A code is read as the number that it was made from. -/
theorem Spelling.code.value {n : Nat} (h : Spelling.code n cs) :
    ∃ d₃ d₂ d₁ d₀, cs = ['\\', 'u', d₃, d₂, d₁, d₀] ∧ hexValue4? d₃ d₂ d₁ d₀ = some n := by
  obtain ⟨d₃, d₂, d₁, d₀, rfl, h₃, h₂, h₁, h₀⟩ := h
  refine ⟨d₃, d₂, d₁, d₀, rfl, ?_⟩
  simp only [hexValue4?, hexValue?_of_isHexDigit h₃, hexValue?_of_isHexDigit h₂,
    hexValue?_of_isHexDigit h₁, hexValue?_of_isHexDigit h₀, Option.bind_eq_bind, Option.bind_some,
    Option.pure_def, Option.some.injEq]
  omega

theorem escaped?_of_mem {mark : Char} (h : (c, mark) ∈ shortEscapes) :
    escaped? mark = some c ∧ mark ≠ 'u' := by
  have hall : ∀ pair ∈ shortEscapes, escaped? pair.2 = some pair.1 ∧ pair.2 ≠ 'u' := by decide
  exact hall _ h

/-- A character is no half of a pair. -/
theorem not_isHalf (c : Char) : isLowHalf c.toNat = false ∧ isHighHalf c.toNat = false := by
  have hvalid : c.toNat.isValidChar := c.valid
  simp only [isLowHalf, isHighHalf, Bool.and_eq_false_iff, decide_eq_false_iff_not]
  rcases hvalid with h | h <;> omega

/-- Two halves are joined to the character that they are of. -/
theorem joinHalves_eq (h : 0x10000 ≤ c.toNat) :
    isHighHalf (0xd800 + (c.toNat - 0x10000) / 0x400) = true ∧
      isLowHalf (0xd800 + (c.toNat - 0x10000) / 0x400) = false ∧
      isLowHalf (0xdc00 + (c.toNat - 0x10000) % 0x400) = true ∧
      joinHalves (0xd800 + (c.toNat - 0x10000) / 0x400) (0xdc00 + (c.toNat - 0x10000) % 0x400) =
        c := by
  have hvalid : c.toNat.isValidChar := c.valid
  have hbound : c.toNat < 0x110000 := by
    rcases hvalid with h | h <;> omega
  have hnat : 0x10000 + (0xd800 + (c.toNat - 0x10000) / 0x400 - 0xd800) * 0x400 +
      (0xdc00 + (c.toNat - 0x10000) % 0x400 - 0xdc00) = c.toNat := by
    omega
  refine ⟨?_, ?_, ?_, ?_⟩
  · simp only [isHighHalf, Bool.and_eq_true, decide_eq_true_eq]
    omega
  · simp only [isLowHalf, Bool.and_eq_false_iff, decide_eq_false_iff_not]
    omega
  · simp only [isLowHalf, Bool.and_eq_true, decide_eq_true_eq]
    omega
  · rw [joinHalves, hnat, Char.ofNat_toNat]

/-- A character is read back as it is written. -/
theorem spanText_char (h : Spelling.char c cs) (rest : List Char) :
    spanText (cs ++ rest) = putFirst c (spanText rest) := by
  cases h with
  | plain hplain =>
    obtain ⟨hcontrol, hquote, hslash⟩ := hplain
    rw [List.singleton_append, spanText]
    · rw [if_neg (Nat.not_lt.2 hcontrol)]
    all_goals simp [hquote, hslash]
  | short hmark =>
    obtain ⟨hescaped, hu⟩ := escaped?_of_mem hmark
    show spanText ('\\' :: _ :: rest) = _
    rw [spanText]
    · rw [hescaped]
    all_goals simp [hu]
  | code hcode =>
    -- the code is that of a character, so that no second half is asked for
    obtain ⟨d₃, d₂, d₁, d₀, rfl, hvalue⟩ := hcode.value
    obtain ⟨hlow, hhigh⟩ := not_isHalf c
    show spanText ('\\' :: 'u' :: d₃ :: d₂ :: d₁ :: d₀ :: rest) = _
    rw [spanText, hvalue]
    simp only [hlow, hhigh, Bool.false_eq_true, if_false, Char.ofNat_toNat]
  | halves hc hhigh hlow =>
    obtain ⟨d₃, d₂, d₁, d₀, rfl, hvalue⟩ := hhigh.value
    obtain ⟨e₃, e₂, e₁, e₀, rfl, hvalue'⟩ := hlow.value
    obtain ⟨hishigh, hnotlow, hislow, hjoin⟩ := joinHalves_eq hc
    show spanText ('\\' :: 'u' :: d₃ :: d₂ :: d₁ :: d₀ ::
      '\\' :: 'u' :: e₃ :: e₂ :: e₁ :: e₀ :: rest) = _
    rw [spanText, hvalue]
    simp only [hnotlow, hishigh, Bool.false_eq_true, if_false, if_true, hvalue', hislow, hjoin]

/-- A text is read back as it is written. -/
theorem spanText_chars {text : List Char} (h : Spelling.chars text cs) (rest : List Char) :
    spanText (cs ++ '"' :: rest) = .ok (text, rest) := by
  induction h with
  | nil => rfl
  | cons hchar _ ih =>
    rw [List.append_assoc, spanText_char hchar, ih]
    rfl

theorem skipText_char (h : Spelling.char c cs) (rest : List Char) :
    skipText (cs ++ rest) = skipText rest := by
  cases h with
  | plain hplain =>
    obtain ⟨hcontrol, hquote, hslash⟩ := hplain
    rw [List.singleton_append, skipText]
    · rw [if_neg (Nat.not_lt.2 hcontrol)]
    all_goals simp [hquote, hslash]
  | short hmark =>
    obtain ⟨hescaped, hu⟩ := escaped?_of_mem hmark
    show skipText ('\\' :: _ :: rest) = _
    rw [skipText]
    · rw [hescaped]
      rfl
    all_goals simp [hu]
  | code hcode =>
    obtain ⟨d₃, d₂, d₁, d₀, rfl, hvalue⟩ := hcode.value
    show skipText ('\\' :: 'u' :: d₃ :: d₂ :: d₁ :: d₀ :: rest) = _
    rw [skipText, hvalue]
  | halves _ hhigh hlow =>
    obtain ⟨d₃, d₂, d₁, d₀, rfl, hvalue⟩ := hhigh.value
    obtain ⟨e₃, e₂, e₁, e₀, rfl, hvalue'⟩ := hlow.value
    show skipText ('\\' :: 'u' :: d₃ :: d₂ :: d₁ :: d₀ ::
      '\\' :: 'u' :: e₃ :: e₂ :: e₁ :: e₀ :: rest) = _
    rw [skipText, hvalue]
    dsimp only
    rw [skipText, hvalue']

theorem skipText_chars {text : List Char} (h : Spelling.chars text cs) (rest : List Char) :
    skipText (cs ++ '"' :: rest) = .ok rest := by
  induction h with
  | nil => rfl
  | cons hchar _ ih => rw [List.append_assoc, skipText_char hchar, ih]

theorem startsValue_text {s : String} (h : Spelling.text s cs) : StartsValue cs := by
  obtain ⟨body, -, rfl⟩ := h
  exact ⟨'"', body ++ ['"'], rfl, by decide, by decide⟩

theorem quoted_append (body rest : List Char) :
    '"' :: body ++ ['"'] ++ rest = '"' :: (body ++ '"' :: rest) := by
  simp

theorem Reader.textTail_chars {s : String} (h : Spelling.chars s.toList cs) (rest : List Char) :
    textTail (cs ++ '"' :: rest) = .ok (s, rest) := by
  rw [textTail, spanText_chars h]
  simp [Except.map]

theorem reads_text (s : String) : Reads Reader.text (Spelling.text s) s := by
  refine ⟨fun cs h => startsValue_text h, ?_⟩
  rintro b cs rest hb ⟨body, hbody, rfl⟩ -
  rw [quoted_append, Reader.text, Reader.bind_of_ok (Reader.peekSome_append hb (by decide) _), if_pos rfl]
  exact Reader.textTail_chars hbody rest

/-- A text that nobody asked for is skipped. -/
theorem reads_skip (s : String) : Reads Reader.skip (Spelling.text s) () := by
  refine ⟨fun cs h => startsValue_text h, ?_⟩
  rintro b cs rest hb ⟨body, hbody, rfl⟩ -
  -- a text takes two steps, however long it is
  have hskip (fuel : Nat) :
      skipFrom (fuel + 2) .value [] (b ++ '"' :: (body ++ '"' :: rest)) = .ok rest := by
    rw [skipFrom, skipBlanks_append hb (by decide)]
    simp only [skipText_chars hbody]
    rfl
  rw [quoted_append, Reader.skip, hskip]
  rfl

/-! ### Indices -/

theorem eq_of_isBlank (h : isBlank c = true) : c = ' ' ∨ c = '\n' ∨ c = '\t' ∨ c = '\r' := by
  simpa [isBlank, or_assoc] using h

/-- Behind a value there is no digit, and no mark that a numeral goes on with. -/
theorem EndsValue.not_numeral (h : EndsValue rest) :
    ∀ c ∈ rest.head?, c.isDigit = false ∧ c ≠ '.' ∧ c ≠ 'e' ∧ c ≠ 'E' := by
  intro c hc
  rcases h c hc with hblank | rfl | rfl | rfl
  · rcases eq_of_isBlank hblank with rfl | rfl | rfl | rfl <;> decide
  all_goals decide

theorem spanFraction_of_endsValue (h : EndsValue rest) : spanFraction rest = .ok (none, rest) := by
  cases rest with
  | nil => rfl
  | cons c rest =>
    rw [spanFraction]
    intro digits heq
    exact (h.not_numeral c rfl).2.1 (List.head_eq_of_cons_eq heq)

theorem spanExponent_of_endsValue (h : EndsValue rest) : spanExponent rest = .ok (none, rest) := by
  cases rest with
  | nil => rfl
  | cons c rest =>
    obtain ⟨-, -, he, hE⟩ := h.not_numeral c rfl
    simp [spanExponent, he, hE]

/-- A number is written without a zero in front. -/
theorem head?_toDigits {n : Nat} (h : n ≠ 0) : (Nat.toDigits 10 n).head? ≠ some '0' := by
  induction n using Nat.strongRecOn with
  | ind n ih =>
    by_cases hn : n < 10
    · have hall : ∀ d < 10, d ≠ 0 → d.digitChar ≠ '0' := by decide
      rw [Nat.toDigits_of_lt_base hn]
      simpa using hall n hn h
    · -- the first digit is that of the quotient
      have hle : 10 ≤ n := Nat.le_of_not_lt hn
      have hquotient := ih (n / 10) (Nat.div_lt_self (by omega) (by decide)) (by omega)
      obtain ⟨d, ds, hdigits⟩ := List.exists_cons_of_ne_nil (Nat.toDigits_ne_nil (n := n / 10)
        (b := 10))
      rw [Nat.toDigits_of_base_le (by decide) hle, hdigits]
      rw [hdigits] at hquotient
      exact hquotient

theorem hasNeedlessZero_toDigits (n : Nat) : hasNeedlessZero (Nat.toDigits 10 n) = false := by
  by_cases hn : n = 0
  · subst hn
    decide
  · have hhead := head?_toDigits hn
    unfold hasNeedlessZero
    split
    · next hdigits =>
      rw [hdigits] at hhead
      exact absurd rfl hhead
    · rfl

/-- A number in decimal digits is read back as it is written. -/
theorem spanNumeral_toDigits (n : Nat) (hrest : EndsValue rest) :
    spanNumeral false (Nat.toDigits 10 n ++ rest) =
      .ok (⟨false, Nat.toDigits 10 n, none, none⟩, rest) := by
  have hdigits : someDigits (Nat.toDigits 10 n ++ rest) = .ok (Nat.toDigits 10 n, rest) := by
    have hall : ∀ c ∈ Nat.toDigits 10 n, c.isDigit = true := fun c hc =>
      Nat.isDigit_of_mem_toDigits (by decide) (by decide) hc
    obtain ⟨d, ds, hcons⟩ := List.exists_cons_of_ne_nil (Nat.toDigits_ne_nil (n := n) (b := 10))
    rw [someDigits, spanDigits_append hall fun c hc => (hrest.not_numeral c hc).1, hcons]
  unfold spanNumeral
  simp [hdigits, hasNeedlessZero_toDigits, spanFraction_of_endsValue hrest,
    spanExponent_of_endsValue hrest, bind, Except.bind, pure, Except.pure]

theorem digitsValue_toDigits (n : Nat) : digitsValue (Nat.toDigits 10 n) = n := by
  obtain ⟨ds, -, hds, hdigits, hvalue⟩ := Argument.exists_digits (by decide : 1 < 10) n
  have hall : ∀ d < 10, digitValue d.digitChar = d := by decide
  have hfold (start : Nat) : (ds.map Nat.digitChar).foldl (fun n c => 10 * n + digitValue c) start =
      ds.foldl (fun n d => 10 * n + d) start := by
    rw [List.foldl_map]
    refine List.foldl_ext _ _ _ fun n d hd => ?_
    rw [hall d (hds d hd)]
  rw [digitsValue, hdigits, hfold, hvalue]

theorem reads_index (n : Nat) : Reads Reader.index (Spelling.index n) n := by
  -- the first digit tells an index from a blank and from the end of a list
  have hhead : ∃ d ds, Nat.toDigits 10 n = d :: ds ∧ d.isDigit = true := by
    obtain ⟨d, ds, hcons⟩ := List.exists_cons_of_ne_nil (Nat.toDigits_ne_nil (n := n) (b := 10))
    have hmem : d ∈ Nat.toDigits 10 n := by simp [hcons]
    exact ⟨d, ds, hcons, Nat.isDigit_of_mem_toDigits (by decide) (by decide) hmem⟩
  obtain ⟨d, ds, hcons, hdigit⟩ := hhead
  have hnotblank : isBlank d = false := by
    cases hblank : isBlank d with
    | false => rfl
    | true =>
      rcases eq_of_isBlank hblank with rfl | rfl | rfl | rfl
      all_goals exact absurd hdigit (by decide)
  refine ⟨?_, ?_⟩
  · rintro cs ⟨-, rfl⟩
    refine ⟨d, ds, hcons, hnotblank, ?_⟩
    rintro rfl
    exact absurd hdigit (by decide)
  · rintro b cs rest hb ⟨hbound, rfl⟩ hrest
    have hpeek : Reader.peekSome (b ++ (Nat.toDigits 10 n ++ rest)) =
        .ok (d, Nat.toDigits 10 n ++ rest) := by
      rw [hcons]
      exact Reader.peekSome_append hb hnotblank _
    have hfound : Numeral.found ⟨false, Nat.toDigits 10 n, none, none⟩ = .ok (.integer n) := by
      have hinteger : Numeral.integer? ⟨false, Nat.toDigits 10 n, none, none⟩ = some (n : Int) := by
        rw [Numeral.integer?]
        simp [digitsValue_toDigits, hbound]
      rw [Numeral.found, hinteger]
    unfold Reader.index
    have hnumeral : Reader.ofSplit (spanNumeral false) (Nat.toDigits 10 n ++ rest) =
        .ok (⟨false, Nat.toDigits 10 n, none, none⟩, rest) :=
      spanNumeral_toDigits n hrest
    rw [Reader.bind_of_ok hpeek, if_pos hdigit]
    beta_reduce
    rw [Reader.bind_of_ok hnumeral, hfound]
    dsimp only
    rw [if_neg (by omega), Int.toNat_natCast]
    rfl

/-! ### Values that may be null, and named values -/

theorem reads_optional {read : Reader α} {w : α → Spelling} {value : Option α}
    (h : ∀ a, value = some a → Reads read (w a) a)
    (hnull : ∀ a cs, w a cs → cs.head? ≠ some 'n') :
    Reads (Reader.optional read) (Spelling.optional w value) value := by
  cases value with
  | none =>
    refine ⟨?_, ?_⟩
    · rintro cs rfl
      exact ⟨'n', _, rfl, by decide, by decide⟩
    · rintro b cs rest hb rfl -
      rw [Reader.optional, List.cons_append,
        Reader.bind_of_ok (Reader.peek_append hb (by decide) _)]
      rfl
  | some a =>
    have ha := h a rfl
    refine ⟨ha.starts, fun b cs rest hb hcs hrest => ?_⟩
    obtain ⟨c, cs', rfl, hblank, -⟩ := ha.starts cs hcs
    have hn : c ≠ 'n' := fun heq => hnull a _ hcs (congrArg some heq)
    -- one character decides, and none of the value has been taken off then
    have hread : (some <$> read) (c :: (cs' ++ rest)) = .ok (some a, rest) :=
      Reader.map_of_ok (ha.here hcs hrest)
    rw [Reader.optional, List.cons_append, Reader.bind_of_ok (Reader.peek_append hb hblank _)]
    simpa [hn] using hread

theorem reads_variant {name : α → String} {all : List α} (h : all.find? (name · = name a) = some a) :
    Reads (Reader.variant name all) (Spelling.text (name a)) a := by
  refine ⟨fun cs h => startsValue_text h, ?_⟩
  rintro b cs rest hb ⟨body, hbody, rfl⟩ -
  rw [quoted_append, Reader.variant, Reader.bind_of_ok (Reader.peekSome_append hb (by decide) _)]
  show (Reader.textTail >>= fun written => Reader.variantOf name all written)
    (body ++ '"' :: rest) = _
  rw [Reader.bind_of_ok (Reader.textTail_chars hbody rest), Reader.variantOf, h]
  rfl

/-! ### Lists -/

/-- What is behind an item ends the item. -/
theorem endsValue_more {close : Char} {ws : List Spelling} (hclose : close = ']' ∨ close = '\x7d')
    (h : Spelling.more close ws cs) (rest : List Char) : EndsValue (cs ++ rest) := by
  have hblank {b : List Char} {c : Char} (hb : Blanks b) (hc : c = ',' ∨ c = ']' ∨ c = '\x7d')
      (behind : List Char) : EndsValue (b ++ c :: behind) := by
    cases b with
    | nil =>
      intro d hd
      cases hd
      exact .inr hc
    | cons d b =>
      intro d' hd
      cases hd
      exact .inl (hb d List.mem_cons_self)
  cases h with
  | done hb =>
    rw [List.append_assoc]
    exact hblank hb (.inr hclose) rest
  | next hb =>
    rw [List.append_assoc]
    exact hblank hb (.inl rfl) _

theorem Reader.hasItem_close {first : Bool} (hb : Blanks b) (rest : List Char) :
    hasItem first (b ++ ']' :: rest) = .ok (false, ']' :: rest) := by
  rw [hasItem, bind_of_ok (peekSome_append hb (by decide) _), if_pos rfl]
  rfl

theorem Reader.hasItem_first (hb : Blanks b) (hcs : StartsValue cs) (rest : List Char) :
    hasItem true (b ++ (cs ++ rest)) = .ok (true, cs ++ rest) := by
  obtain ⟨c, cs, rfl, hblank, hc⟩ := hcs
  rw [hasItem, List.cons_append, bind_of_ok (peekSome_append hb hblank _), if_neg hc, if_pos rfl]
  rfl

theorem Reader.hasItem_next {b' : List Char} (hb : Blanks b) (hb' : Blanks b') (hcs : StartsValue cs)
    (rest : List Char) :
    hasItem false (b ++ ',' :: (b' ++ (cs ++ rest))) = .ok (true, cs ++ rest) := by
  obtain ⟨c, cs, rfl, hblank, hc⟩ := hcs
  rw [hasItem, bind_of_ok (peekSome_append hb (by decide) _), if_neg (by decide),
    if_neg (by decide), if_pos rfl, bind_of_ok (drop_cons _ _), List.cons_append,
    bind_of_ok (peekSome_append hb' hblank _), if_neg hc]
  rfl

section Items

variable {read : Reader α} {w : β → Spelling} {f : β → α} {xs : List β}

/-- The items behind the first one, each of them behind a comma. -/
theorem items_more (h : ∀ x ∈ xs, Reads read (w x) (f x)) (hcs : Spelling.more ']' (xs.map w) cs)
    {fuel : Nat} (hfuel : cs.length < fuel) (rest : List Char) :
    Reader.items read fuel false (cs ++ rest) = .ok (xs.map f, rest) := by
  induction xs generalizing cs fuel with
  | nil =>
    cases hcs with
    | done hb =>
      cases fuel with
      | zero => exact absurd hfuel (Nat.not_lt_zero _)
      | succ fuel =>
        rw [Reader.items, List.append_assoc, List.singleton_append,
          Reader.bind_of_ok (Reader.hasItem_close hb rest)]
        rfl
  | cons x xs ih =>
    rw [List.forall_mem_cons] at h
    rw [List.map_cons] at hcs
    cases hcs with
    | @next b b' item more _ _ hb hb' hitem hmore =>
      cases fuel with
      | zero => exact absurd hfuel (Nat.not_lt_zero _)
      | succ fuel =>
        have hlength : more.length < fuel := by
          simp only [List.length_append, List.length_cons] at hfuel
          omega
        have hread := h.1.here hitem (endsValue_more (.inl rfl) hmore rest)
        have htext : b ++ ',' :: (b' ++ (item ++ more)) ++ rest =
            b ++ ',' :: (b' ++ (item ++ (more ++ rest))) := by simp
        rw [Reader.items, htext,
          Reader.bind_of_ok (Reader.hasItem_next hb hb' (h.1.starts item hitem) _), if_pos rfl,
          Reader.bind_of_ok hread, Reader.bind_of_ok (ih h.2 hmore hlength)]
        rfl

theorem reads_list (h : ∀ x ∈ xs, Reads read (w x) (f x)) :
    Reads (Reader.list read) (Spelling.list w xs) (xs.map f) := by
  refine ⟨?_, ?_⟩
  · rintro cs ⟨items, -, rfl⟩
    exact ⟨'[', items, rfl, by decide, by decide⟩
  · rintro b cs rest hb ⟨items, hitems, rfl⟩ -
    rw [List.cons_append, Reader.list, Reader.bind_of_ok (Reader.peekSome_append hb (by decide) _),
      if_pos rfl, Reader.bind_of_ok (Reader.drop_cons _ _)]
    cases xs with
    | nil =>
      cases hitems with
      | none hb' =>
        rw [Reader.items, List.append_assoc, List.singleton_append,
          Reader.bind_of_ok (Reader.hasItem_close hb' rest)]
        rfl
    | cons x xs =>
      rw [List.forall_mem_cons] at h
      rw [List.map_cons] at hitems
      cases hitems with
      | @first b' item more _ _ hb' hitem hmore =>
        obtain ⟨c, item', hstart, -⟩ := h.1.starts item hitem
        have hread := h.1.here hitem (endsValue_more (.inl rfl) hmore rest)
        have htext : b' ++ (item ++ more) ++ rest = b' ++ (item ++ (more ++ rest)) := by simp
        -- the first item takes a character at least
        have hlength : more.length < (b' ++ (item ++ (more ++ rest))).length := by
          simp only [hstart, List.length_append, List.length_cons]
          omega
        rw [htext, Reader.items,
          Reader.bind_of_ok (Reader.hasItem_first hb' (h.1.starts item hitem) _), if_pos rfl,
          Reader.bind_of_ok hread, Reader.bind_of_ok (items_more h.2 hmore hlength rest)]
        rfl

end Items

/-! ### Documents -/

/-- A document is read as the value that it holds. -/
theorem Reads.run {read : Reader α} {w : Spelling} (h : Reads read w a) {text : String}
    (htext : Spelling.document w text.toList) : read.run text = .ok a := by
  obtain ⟨b, value, b', hb, hvalue, hb', heq⟩ := htext
  have hrest : EndsValue b' := fun c hc => .inl (hb' c (List.mem_of_mem_head? hc))
  rw [Reader.run, heq, h.reads b value b' hb hvalue hrest]
  show (if skipBlanks b' = [] then pure a else throw ReadError.malformed) = Except.ok a
  rw [if_pos (skipBlanks_blanks hb')]
  rfl

end ResolverGen.Json
