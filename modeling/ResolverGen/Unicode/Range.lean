/-
Sets of code points given by tables of ranges.

A property of the character database is a list of ranges; a letter-case block, where capital and
small letters take turns, is a range that keeps every second code point. Both forms are searched
from the front: the tables are short and every caller settles ASCII before it looks here.
-/

namespace ResolverGen.Unicode

/-- Whether `n` lies in one of the closed ranges. -/
def inRanges (ranges : List (Nat × Nat)) (n : Nat) : Bool :=
  ranges.any fun (first, last) => first ≤ n && n ≤ last

theorem inRanges_nil (n : Nat) : inRanges [] n = false := rfl

theorem inRanges_cons (first last : Nat) (ranges : List (Nat × Nat)) (n : Nat) :
    inRanges ((first, last) :: ranges) n = (decide (first ≤ n) && decide (n ≤ last) ||
      inRanges ranges n) := rfl

/-- The code points `first`, `first + stride`, … up to `last`. -/
structure Span where
  first : Nat
  last : Nat
  stride : Nat

/-- Whether `n` is one of the span's code points. -/
def Span.contains (s : Span) (n : Nat) : Bool :=
  s.first ≤ n && n ≤ s.last && (n - s.first) % s.stride == 0

/-- Whether `n` is in one of the spans. -/
def inSpans (spans : List Span) (n : Nat) : Bool := spans.any (·.contains n)

/-- A span all of whose code points map to the code point `delta` further on. -/
structure Shift where
  span : Span
  delta : Int

/-- The image of `n`, where some shift covers it. -/
def shiftOf? (shifts : List Shift) (n : Nat) : Option Nat :=
  (shifts.find? (·.span.contains n)).map fun s => (Int.ofNat n + s.delta).toNat

end ResolverGen.Unicode
