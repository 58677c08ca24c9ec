/-
Arguments as they are written, and the literals in them.

An `Entry` is an item with a text, a truth value or a number for its value; `writeAll` writes
entries with commas between them. Whatever stands behind a literal in such a list, the scanner takes
exactly the literal off and has its value:

* `spanQuoted_flatMap_escape` — a text between quotes, where quotes and backslashes are escaped and
  control characters are given by their codes,
* `spanNumber_toDigits` — a number in decimal digits.
-/
import ResolverGen.Argument.Lexer
import ResolverGen.Code.Literal

namespace ResolverGen.Argument

/-- A value of an item. -/
inductive Value where
  | text (value : String)
  | flag (value : Bool)
  | number (value : Nat)
deriving DecidableEq, Repr

/-- An item with a value. -/
structure Entry where
  key : String
  value : Value
deriving DecidableEq, Repr

/-- How a character of a text is written. -/
def escape (c : Char) : List Char :=
  if c = '"' then ['\\', '"']
  else if c = '\\' then ['\\', '\\']
  else if Code.Literal.isControl c then '\\' :: 'u' :: '\x7b' :: Nat.toDigits 16 c.toNat ++ ['\x7d']
  else [c]

/-- How a value is written. -/
def Value.write : Value → List Char
  | text value => '"' :: value.toList.flatMap escape ++ ['"']
  | flag true => "true".toList
  | flag false => "false".toList
  | number value => Nat.toDigits 10 value

/-- How an item is written. -/
def Entry.write (e : Entry) : List Char := e.key.toList ++ " = ".toList ++ e.value.write

/-- What stands behind an item: more items, each behind a comma, and a comma at the end or none. -/
def writeMore (comma : Bool) : List Entry → List Char
  | [] => if comma then [','] else []
  | e :: es => ", ".toList ++ e.write ++ writeMore comma es

/-- How items are written, the last one with a comma behind it or not. -/
def writeAll (comma : Bool) : List Entry → List Char
  | [] => []
  | e :: es => e.write ++ writeMore comma es

/-! ### Digits -/

theorem hexValue?_digitChar {d : Nat} (h : d < 16) : Json.hexValue? d.digitChar = some d := by
  have hall : ∀ d < 16, Json.hexValue? d.digitChar = some d := by decide
  exact hall d h

/-- The digits of a number are those of some list of digits with its value. -/
theorem exists_digits {base : Nat} (hbase : 1 < base) (n : Nat) :
    ∃ ds : List Nat, ds ≠ [] ∧ (∀ d ∈ ds, d < base) ∧ Nat.toDigits base n = ds.map Nat.digitChar ∧
      ds.foldl (fun value d => base * value + d) 0 = n := by
  induction n using Nat.strongRecOn with
  | ind n ih =>
    by_cases hn : n < base
    · exact ⟨[n], by simp, by simpa using hn, Nat.toDigits_of_lt_base hn, by simp⟩
    · -- the last digit is the remainder, the others are those of the quotient
      have hle : base ≤ n := Nat.le_of_not_lt hn
      obtain ⟨ds, -, hds, hdigits, hvalue⟩ := ih (n / base) (Nat.div_lt_self (by omega) hbase)
      refine ⟨ds ++ [n % base], by simp, ?_, ?_, ?_⟩
      · intro d hd
        rcases List.mem_append.1 hd with hd | hd
        · exact hds d hd
        · rw [List.mem_singleton.1 hd]
          exact Nat.mod_lt n (by omega)
      · rw [Nat.toDigits_of_base_le hbase hle, hdigits, List.map_append]
        rfl
      · rw [List.foldl_append, hvalue]
        exact Nat.div_add_mod n base

/-! ### Texts -/

/-- The digits of a code, of which there are not too many. -/
theorem spanCode_map_digitChar {ds : List Nat} (hds : ∀ d ∈ ds, d < 16) {value count : Nat}
    (hcount : count + ds.length ≤ 6) (rest : List Char) :
    spanCode value count (ds.map Nat.digitChar ++ rest) =
      spanCode (ds.foldl (fun value d => 16 * value + d) value) (count + ds.length) rest := by
  induction ds generalizing value count with
  | nil => rfl
  | cons d ds ih =>
    rw [List.forall_mem_cons] at hds
    rw [List.length_cons] at hcount
    rw [List.map_cons, List.cons_append, spanCode, hexValue?_digitChar hds.1]
    simp only [show count ≠ 6 by omega, if_false]
    rw [ih hds.2 (by omega), List.foldl_cons, List.length_cons, Nat.add_right_comm, Nat.add_assoc]

/-- A code between braces, which has six digits at most. -/
theorem spanCode_toDigits (c : Char) (rest : List Char) :
    spanCode 0 0 (Nat.toDigits 16 c.toNat ++ '\x7d' :: rest) = some (c, rest) := by
  obtain ⟨ds, hne, hds, hdigits, hvalue⟩ := exists_digits (by decide : 1 < 16) c.toNat
  -- the greatest code point is below 16 ^ 6
  have hvalid : c.toNat.isValidChar := c.valid
  have hbound : c.toNat < 16 ^ 6 := by
    rcases hvalid with h | h <;> omega
  have hlength : ds.length ≤ 6 := by
    have := (Nat.length_toDigits_le_iff (by decide) (by decide)).2 hbound
    rwa [hdigits, List.length_map] at this
  have hpos : 0 + ds.length ≠ 0 := by
    rw [Nat.zero_add]
    exact fun h => hne (List.length_eq_zero_iff.1 h)
  have hclose : Json.hexValue? '\x7d' = none := by decide
  rw [hdigits, spanCode_map_digitChar hds (by omega), hvalue, spanCode, hclose]
  simp only [if_neg hpos, hvalid, Char.ofNat_toNat]
  rfl

/-- A character of a text is read back as it is written. -/
theorem spanQuoted_escape (c : Char) (fuel : Nat) (rest : List Char) :
    spanQuoted .text (fuel + 1) (escape c ++ rest) = putFirst c (spanQuoted .text fuel rest) := by
  unfold escape
  split
  · next hquote =>
    subst hquote
    rfl
  · next hquote =>
    split
    · next hslash =>
      subst hslash
      rfl
    · next hslash =>
      split
      · -- a control character stands as its code
        have hcode : spanEscape .text
            ('u' :: '\x7b' :: (Nat.toDigits 16 c.toNat ++ '\x7d' :: rest)) = some (c, rest) := by
          simp [spanEscape, spanCode_toDigits, Quoting.text]
        have hwritten : ('\\' :: 'u' :: '\x7b' :: Nat.toDigits 16 c.toNat ++ ['\x7d']) ++ rest =
            '\\' :: 'u' :: '\x7b' :: (Nat.toDigits 16 c.toNat ++ '\x7d' :: rest) := by
          simp
        rw [hwritten, spanQuoted, hcode]
        · rfl
        all_goals simp
      · next hcontrol =>
        have hreturn : c ≠ '\r' := by
          rintro rfl
          exact hcontrol (by decide)
        rw [List.singleton_append, spanQuoted]
        · rfl
        all_goals simp [hquote, hslash, hreturn]

theorem escape_ne_nil (c : Char) : escape c ≠ [] := by
  unfold escape
  split
  · simp
  · split
    · simp
    · split <;> simp

theorem length_le_flatMap_escape (cs : List Char) : cs.length ≤ (cs.flatMap escape).length := by
  induction cs with
  | nil => exact Nat.le_refl 0
  | cons c cs ih =>
    have hpos : 0 < (escape c).length := List.length_pos_iff.2 (escape_ne_nil c)
    rw [List.flatMap_cons, List.length_append, List.length_cons]
    omega

/-- A text between quotes is read back as it is written. -/
theorem spanQuoted_flatMap_escape (cs rest : List Char) {fuel : Nat} (h : cs.length < fuel) :
    spanQuoted .text fuel (cs.flatMap escape ++ '"' :: rest) = some (cs, rest) := by
  induction cs generalizing fuel with
  | nil =>
    cases fuel with
    | zero => cases h
    | succ fuel => rfl
  | cons c cs ih =>
    cases fuel with
    | zero => cases h
    | succ fuel =>
      rw [List.flatMap_cons, List.append_assoc, spanQuoted_escape,
        ih (Nat.lt_of_succ_lt_succ h)]
      rfl

/-! ### Numbers -/

/-- Whether a literal ends before a text: at its end or at a comma. -/
def EndsValue (rest : List Char) : Prop := ∀ c ∈ rest.head?, c = ','

theorem EndsValue.eq_nil_or_cons {rest : List Char} (h : EndsValue rest) :
    rest = [] ∨ ∃ more, rest = ',' :: more := by
  cases rest with
  | nil => exact .inl rfl
  | cons c more => exact .inr ⟨more, by rw [h c rfl]⟩

theorem digitChar_ne_underscore {d : Nat} (h : d < 10) : d.digitChar ≠ '_' := by
  have hall : ∀ d < 10, d.digitChar ≠ '_' := by decide
  exact hall d h

/-- The digits of a number, behind some others or not. -/
theorem spanDigits_map_digitChar {ds : List Nat} (hds : ∀ d ∈ ds, d < 10) {value : Nat}
    {found : Bool} (hfound : ds ≠ [] ∨ found = true) {rest : List Char} (hrest : EndsValue rest) :
    spanDigits 10 value found (ds.map Nat.digitChar ++ rest) =
      some (ds.foldl (fun value d => 10 * value + d) value, rest) := by
  induction ds generalizing value found with
  | nil =>
    obtain rfl : found = true := hfound.resolve_left (fun h => h rfl)
    rcases hrest.eq_nil_or_cons with rfl | ⟨more, rfl⟩ <;> rfl
  | cons d ds ih =>
    rw [List.forall_mem_cons] at hds
    rw [List.map_cons, List.cons_append, spanDigits, if_neg (digitChar_ne_underscore hds.1),
      hexValue?_digitChar (Nat.lt_trans hds.1 (by decide))]
    dsimp only
    rw [if_pos hds.1, ih hds.2 (.inr rfl), List.foldl_cons]

theorem dropSuffix_of_endsValue {rest : List Char} (hrest : EndsValue rest) :
    dropSuffix rest = rest := by
  rcases hrest.eq_nil_or_cons with rfl | ⟨more, rfl⟩ <;> rfl

theorem endNumber_of_endsValue {rest : List Char} (hrest : EndsValue rest) :
    endNumber rest = some rest := by
  rw [endNumber, dropSuffix_of_endsValue hrest]
  rcases hrest.eq_nil_or_cons with rfl | ⟨more, rfl⟩ <;> rfl

section

variable {digits rest : List Char}

/-- Digits alone have neither a point nor an exponent. -/
theorem dropDecimal_digits (hdigits : ∀ c ∈ digits, c.isDigit = true) (hrest : EndsValue rest) :
    dropDecimal (digits ++ rest) = none := by
  have hstop : rest.dropWhile isNumeralChar = rest := by
    rcases hrest.eq_nil_or_cons with rfl | ⟨more, rfl⟩ <;> rfl
  cases digits with
  | nil => rcases hrest.eq_nil_or_cons with rfl | ⟨more, rfl⟩ <;> rfl
  | cons d digits =>
    rw [List.forall_mem_cons] at hdigits
    have hdrop : (digits ++ rest).dropWhile isNumeralChar = rest := by
      rw [List.dropWhile_append_of_pos, hstop]
      intro c hc
      rw [isNumeralChar, hdigits.2 c hc, Bool.true_or]
    rw [List.cons_append, dropDecimal, hdigits.1, hdrop]
    rcases hrest.eq_nil_or_cons with rfl | ⟨more, rfl⟩ <;> rfl

/-- Digits alone are in base ten. -/
theorem spanInteger_digits (hdigits : ∀ c ∈ digits, c.isDigit = true) (hrest : EndsValue rest) :
    spanInteger (digits ++ rest) = spanDigits 10 0 false (digits ++ rest) := by
  -- behind a digit stands another one or the end, but no letter that tells a base
  have hsecond : ∀ a b more, digits ++ rest = a :: b :: more → a ≠ ',' →
      b.isDigit = true ∨ b = ',' := by
    intro a b more h ha
    match digits, hdigits with
    | [], _ =>
      rw [List.nil_append] at h
      exact absurd (hrest a (by rw [h]; rfl)) ha
    | [_], _ =>
      obtain ⟨-, rfl⟩ := List.cons.inj h
      exact .inr (hrest b rfl)
    | _ :: c :: _, hdigits =>
      obtain ⟨-, h⟩ := List.cons.inj h
      obtain ⟨rfl, -⟩ := List.cons.inj h
      exact .inl (hdigits c (by simp))
  unfold spanInteger
  split
  · next h => exact absurd (hsecond _ _ _ h (by decide)) (by decide)
  · next h => exact absurd (hsecond _ _ _ h (by decide)) (by decide)
  · next h => exact absurd (hsecond _ _ _ h (by decide)) (by decide)
  · rfl

end

/-- A number in decimal digits is read back as it is written. -/
theorem spanNumber_toDigits (n : Nat) {rest : List Char} (hrest : EndsValue rest) :
    spanNumber (Nat.toDigits 10 n ++ rest) = some (.integer n, rest) := by
  obtain ⟨ds, hne, hds, hdigits, hvalue⟩ := exists_digits (by decide : 1 < 10) n
  have hall : ∀ c ∈ ds.map Nat.digitChar, c.isDigit = true := by
    intro c hc
    obtain ⟨d, hd, rfl⟩ := List.mem_map.1 hc
    rw [Nat.isDigit_digitChar, decide_eq_true (hds d hd)]
  rw [hdigits, spanNumber, dropDecimal_digits hall hrest, spanInteger_digits hall hrest,
    spanDigits_map_digitChar hds (.inl hne) hrest, hvalue]
  simp only [Option.bind_none, Option.bind_some, endNumber_of_endsValue hrest]
  rfl

end ResolverGen.Argument
