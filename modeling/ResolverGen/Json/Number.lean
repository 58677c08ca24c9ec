/-
Numbers in a document.

A numeral has an optional sign, digits without a needless zero in front, and possibly a fraction and
an exponent. Its value is an integer if it has neither and fits into 64 bits, and a double otherwise.
-/
import ResolverGen.Json.Fault

namespace ResolverGen.Json

/-- The parts of a numeral. -/
structure Numeral where
  negative : Bool
  whole : List Char
  /-- The digits behind the point. -/
  fraction : Option (List Char)
  /-- Whether the exponent is negative, and its digits. -/
  exponent : Option (Bool × List Char)
deriving DecidableEq, Repr, Inhabited

/-- Splits off the digits in front. -/
def spanDigits : List Char → List Char × List Char
  | [] => ([], [])
  | c :: cs =>
    if c.isDigit then
      let (digits, rest) := spanDigits cs
      (c :: digits, rest)
    else ([], c :: cs)

theorem spanDigits_append {digits rest : List Char} (hd : ∀ c ∈ digits, c.isDigit = true)
    (hr : ∀ c ∈ rest.head?, c.isDigit = false) : spanDigits (digits ++ rest) = (digits, rest) := by
  induction digits with
  | nil =>
    cases rest with
    | nil => rfl
    | cons c cs => simp [spanDigits, hr c rfl]
  | cons d ds ih =>
    simp only [List.mem_cons, forall_eq_or_imp] at hd
    simp [spanDigits, hd.1, ih hd.2]

/-- Splits off the digits in front, of which there has to be one. -/
def someDigits (cs : List Char) : Except ReadError (List Char × List Char) :=
  match spanDigits cs with
  | ([], []) => .error .unfinished
  | ([], _ :: _) => .error .malformed
  | split => .ok split

/-- Splits off the exponent if there is one. -/
def spanExponent : List Char → Except ReadError (Option (Bool × List Char) × List Char)
  | c :: cs =>
    if c = 'e' || c = 'E' then
      let (negative, cs) :=
        match cs with
        | '+' :: rest => (false, rest)
        | '-' :: rest => (true, rest)
        | rest => (false, rest)
      (someDigits cs).map fun (digits, rest) => (some (negative, digits), rest)
    else .ok (none, c :: cs)
  | [] => .ok (none, [])

/-- Splits off the fraction if there is one. -/
def spanFraction : List Char → Except ReadError (Option (List Char) × List Char)
  | '.' :: cs => (someDigits cs).map fun (digits, rest) => (some digits, rest)
  | cs => .ok (none, cs)

/-- Whether a zero is followed by another digit. -/
def hasNeedlessZero : List Char → Bool
  | '0' :: _ :: _ => true
  | _ => false

/-- Splits off a numeral behind its sign. -/
def spanNumeral (negative : Bool) (cs : List Char) : Except ReadError (Numeral × List Char) := do
  let (whole, cs) ← someDigits cs
  if hasNeedlessZero whole then throw .malformed
  let (fraction, cs) ← spanFraction cs
  let (exponent, cs) ← spanExponent cs
  pure (⟨negative, whole, fraction, exponent⟩, cs)

/-- The value of a digit. -/
def digitValue (c : Char) : Nat := c.toNat - '0'.toNat

/-- The value of digits. -/
def digitsValue (digits : List Char) : Nat := digits.foldl (fun n c => 10 * n + digitValue c) 0

/-- The least number that does not fit into 64 bits. -/
def wordBound : Nat := 0x10000000000000000

/-- The magnitude of the least number that fits into 64 bits with a sign. -/
def negativeBound : Nat := 0x8000000000000000

/-- Appends digits to a number as long as it fits into 64 bits, and tells how many were left. -/
def appendDigits (n : Nat) : List Char → Nat × Nat
  | [] => (n, 0)
  | c :: cs =>
    if 10 * n + digitValue c < wordBound then appendDigits (10 * n + digitValue c) cs
    else (n, cs.length + 1)

/-- Ten to a power of at most 308, rounded to a double. -/
def tenTo (power : Nat) : Float := Float.ofScientific 1 false power

/-- Scales a double by a power of ten in steps that a double can hold; none if the result is beyond
the largest one. After three steps downwards nothing but zero is left. -/
def scaled (x : Float) (power : Int) : Nat → Option Float
  | 0 => some x
  | steps + 1 =>
    if power.natAbs ≤ 308 then
      if power < 0 then some (x / tenTo power.natAbs)
      else
        let y := x * tenTo power.natAbs
        if y.isInf then none else some y
    else if x == 0 then some x
    else if 0 < power then none
    else scaled (x / tenTo 308) (power + 308) steps

namespace Numeral

/-- The significant digits as a number of 64 bits, and the power of ten that it is scaled by. -/
def significand (n : Numeral) : Nat × Int :=
  let (whole, dropped) := appendDigits 0 n.whole
  let fraction := n.fraction.getD []
  let (all, left) := appendDigits whole fraction
  (all, Int.ofNat dropped - Int.ofNat (fraction.length - left))

/-- The power of ten that the exponent states. -/
def statedPower (n : Numeral) : Int :=
  match n.exponent with
  | none => 0
  | some (true, digits) => -digitsValue digits
  | some (false, digits) => digitsValue digits

/-- The value as an integer, if the numeral is one and fits. -/
def integer? (n : Numeral) : Option Int :=
  match n.fraction, n.exponent with
  | none, none =>
    let value := digitsValue n.whole
    if n.negative then if 0 < value ∧ value ≤ negativeBound then some (-value) else none
    else if value < wordBound then some value else none
  | _, _ => none

/-- The value as a double, unless it is too large. -/
def double? (n : Numeral) : Option Float :=
  let (digits, shift) := n.significand
  (scaled (Float.ofNat digits) (shift + n.statedPower) 4).map fun x => if n.negative then -x else x

/-- The number that a numeral stands for. -/
def found (n : Numeral) : Except ReadError Found :=
  match n.integer? with
  | some value => .ok (.integer value)
  | none =>
    match n.double? with
    | some x => .ok (.decimal (numberLayout.write x))
    | none => .error .malformed

end Numeral

end ResolverGen.Json
