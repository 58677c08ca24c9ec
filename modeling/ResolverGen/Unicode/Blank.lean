/-
Blank characters.

`isBlank` is the property White_Space: the characters that trimming removes from both ends of a
text. `trim_eq_self` says when trimming changes nothing.
-/
import ResolverGen.Unicode.Range

namespace ResolverGen.Unicode

/-- Code points with the property White_Space. -/
def blankRanges : List (Nat × Nat) :=
  [(0x9, 0xd), (0x20, 0x20), (0x85, 0x85), (0xa0, 0xa0), (0x1680, 0x1680), (0x2000, 0x200a),
   (0x2028, 0x2029), (0x202f, 0x202f), (0x205f, 0x205f), (0x3000, 0x3000)]

/-- Whether a character is blank. -/
def isBlank (c : Char) : Bool := inRanges blankRanges c.toNat

/-- Drops the blanks at both ends. -/
def trim (cs : List Char) : List Char :=
  ((cs.dropWhile isBlank).reverse.dropWhile isBlank).reverse

/-- A text that neither starts nor ends with a blank is its own trimming. -/
theorem trim_eq_self {cs : List Char} (hfirst : ∀ c ∈ cs.head?, isBlank c = false)
    (hlast : ∀ c ∈ cs.getLast?, isBlank c = false) : trim cs = cs := by
  cases cs with
  | nil => rfl
  | cons c r =>
    have hc : isBlank c = false := hfirst c rfl
    have hr : ((c :: r).reverse.dropWhile isBlank) = (c :: r).reverse := by
      cases hrev : (c :: r).reverse with
      | nil => rfl
      | cons d s =>
        have hd : isBlank d = false := by
          apply hlast d
          rw [List.getLast?_eq_head?_reverse, hrev]
          rfl
        simp [List.dropWhile, hd]
    unfold trim
    rw [show (c :: r).dropWhile isBlank = c :: r from by simp [List.dropWhile, hc], hr,
      List.reverse_reverse]

end ResolverGen.Unicode
