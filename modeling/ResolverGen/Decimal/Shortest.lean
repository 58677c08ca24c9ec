/-
The shortest decimal that reads back.

All reals of an interval round to one double. Of the decimals in that interval `shortest` takes one
with the fewest digits, and among those the nearest to the double; of two equally near ones it takes
the even one. All arithmetic is exact.
-/

namespace ResolverGen.Decimal

/-- A positive double and the ends of the interval that rounds to it, as numerators over one
denominator. -/
structure Interval where
  low : Nat
  middle : Nat
  high : Nat
  denominator : Nat
  /-- Whether the ends themselves round to the double. -/
  closed : Bool

/-- The least mantissa of 53 bits; all but the smallest doubles have mantissas of that many. -/
def leastNormal : Nat := 0x10000000000000

/-- The bit of a double that makes it negative. -/
def signBit : Nat := 0x8000000000000000

/-- The interval of `mantissa * 2 ^ exponent`. Below a power of two the gap is half as wide, unless
the exponent is the least one. -/
def Interval.around (mantissa : Nat) (exponent : Int) : Interval :=
  let scale := Nat.pow 2 (exponent - 2).toNat
  let below := if mantissa = leastNormal ∧ exponent ≠ -1074 then 1 else 2
  { low := (4 * mantissa - below) * scale
    middle := 4 * mantissa * scale
    high := (4 * mantissa + 2) * scale
    denominator := Nat.pow 2 (2 - exponent).toNat
    closed := mantissa % 2 = 0 }

/-- The interval of the double that has these bits, its sign apart. -/
def Interval.ofBits (bits : Nat) : Interval :=
  let fraction := bits % leastNormal
  match bits / leastNormal % 2048 with
  | 0 => .around fraction (-1074)
  | field => .around (leastNormal + fraction) (Int.ofNat field - 1075)

/-- Significant digits and the position of the point behind their start: `digits` stand for
`0.digits * 10 ^ point`. -/
structure Scientific where
  digits : List Char
  point : Int
deriving DecidableEq, Repr

/-- How many zeros stand behind the point of a fraction below one. -/
def leadingZeros : Nat → Nat → Nat → Nat
  | 0, _, _ => 0
  | fuel + 1, numerator, denominator =>
    if numerator * 10 < denominator then leadingZeros fuel (numerator * 10) denominator + 1 else 0

/-- The position of the point in a positive fraction. -/
def pointOf (numerator denominator : Nat) : Int :=
  if denominator ≤ numerator then (Nat.toDigits 10 (numerator / denominator)).length
  else -leadingZeros 400 numerator denominator

namespace Interval

/-- Whether `n * 10 ^ exponent` lies in the interval. -/
def contains (i : Interval) (exponent : Int) (n : Nat) : Bool :=
  let value := n * Nat.pow 10 exponent.toNat * i.denominator
  let unit := Nat.pow 10 (-exponent).toNat
  if i.closed then i.low * unit ≤ value && value ≤ i.high * unit
  else i.low * unit < value && value < i.high * unit

/-- The multiple of `10 ^ exponent` in the interval that is nearest to its double. -/
def nearest? (i : Interval) (exponent : Int) : Option Nat :=
  let unit := Nat.pow 10 exponent.toNat * i.denominator
  let scaled := i.middle * Nat.pow 10 (-exponent).toNat
  let n := scaled / unit
  match i.contains exponent n, i.contains exponent (n + 1) with
  | false, false => none
  | true, false => some n
  | false, true => some (n + 1)
  | true, true =>
    let twice := 2 * (scaled % unit)
    if twice < unit || twice = unit && n % 2 = 0 then some n else some (n + 1)

/-- Tries one more digit at a time. -/
def search (i : Interval) (point : Int) : Nat → Nat → Nat × Int
  | 0, _ => (0, 0)
  | fuel + 1, count =>
    match i.nearest? (point - count) with
    | some n => (n, point - count)
    | none => i.search point fuel (count + 1)

/-- The shortest decimal in the interval. Seventeen digits always suffice. -/
def shortest (i : Interval) : Scientific :=
  let (n, exponent) := i.search (pointOf i.middle i.denominator) 20 1
  let digits := Nat.toDigits 10 n
  { digits := (digits.reverse.dropWhile (· = '0')).reverse
    point := exponent + digits.length }

end Interval

/-- How decimals are laid out: positionally if the point is within bounds, else with an exponent. -/
structure Layout where
  leastPoint : Int
  mostPoint : Int
deriving DecidableEq, Repr

/-- The digits behind the first, led by a point if there are any. -/
def behindFirst : List Char → List Char
  | [] => []
  | ds => '.' :: ds

/-- Writes a decimal. -/
def Layout.render (l : Layout) (s : Scientific) : List Char :=
  if s.point < l.leastPoint || l.mostPoint < s.point then
    let exponent := s.point - 1
    let sign := if exponent < 0 then '-' else '+'
    s.digits.take 1 ++ behindFirst (s.digits.drop 1) ++
      'e' :: sign :: Nat.toDigits 10 exponent.natAbs
  else if s.point ≤ 0 then
    '0' :: '.' :: List.replicate s.point.natAbs '0' ++ s.digits
  else
    let whole := s.point.toNat
    if s.digits.length ≤ whole then
      s.digits ++ List.replicate (whole - s.digits.length) '0' ++ ['.', '0']
    else s.digits.take whole ++ '.' :: s.digits.drop whole

/-- The text of a finite double: the fewest digits that read back, and at least one on each side of
a point that is written. -/
def Layout.write (l : Layout) (x : Float) : String :=
  let bits := x.toBits.toNat
  let magnitude := bits % signBit
  let text := if magnitude = 0 then "0.0".toList else l.render (Interval.ofBits magnitude).shortest
  String.ofList (if bits < signBit then text else '-' :: text)

end ResolverGen.Decimal
