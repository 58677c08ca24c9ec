/-
Sorting by insertion.

`sortBy` is stable: an element is placed before the first one that it does not exceed, so equal
elements keep their order. Its result is a permutation of its argument (`sortBy_perm`).
-/

namespace ResolverGen.Order

/-- Places an element before the first one that it does not exceed. -/
def insertBy {α : Type} (le : α → α → Bool) (x : α) : List α → List α
  | [] => [x]
  | y :: ys => if le x y then x :: y :: ys else y :: insertBy le x ys

/-- Sorts a list, keeping the order of equal elements. -/
def sortBy {α : Type} (le : α → α → Bool) (xs : List α) : List α := xs.foldr (insertBy le) []

theorem insertBy_perm {α : Type} (le : α → α → Bool) (x : α) (xs : List α) :
    (insertBy le x xs).Perm (x :: xs) := by
  induction xs with
  | nil => exact List.Perm.refl _
  | cons y ys ih =>
    unfold insertBy
    split
    · exact List.Perm.refl _
    · exact (ih.cons y).trans (List.Perm.swap x y ys)

theorem sortBy_perm {α : Type} (le : α → α → Bool) (xs : List α) : (sortBy le xs).Perm xs := by
  induction xs with
  | nil => exact List.Perm.refl _
  | cons x xs ih => exact (insertBy_perm le x _).trans (ih.cons x)

/-- Sorts texts by code points and drops repetitions. -/
def sortedSet (xs : List String) : List String :=
  (sortBy (fun a b => decide (a ≤ b)) xs).eraseDups

end ResolverGen.Order
