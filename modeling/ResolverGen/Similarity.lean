/-
How alike two names are.

Two characters match if they are equal and no further apart than half the longer name; the measure
is the mean of the matched parts of both names and of the matches that stand in the same order. Names
that are alike gain from each of their first four characters that agree.
-/

namespace ResolverGen.Similarity

/-- Marks the first free character equal to `c` at one of the positions from `first` up to `last`;
`n` is the position of the first entry. -/
def take (c : Char) (first last : Nat) : Nat → List (Char × Bool) → Option (List (Char × Bool))
  | _, [] => none
  | n, (d, used) :: rest =>
    if last < n then none
    else if first ≤ n && c = d && !used then some ((d, true) :: rest)
    else (take c first last (n + 1) rest).map ((d, used) :: ·)

/-- The characters of a name that match some of the other, which are marked there. -/
def matched (range : Nat) : Nat → List Char → List (Char × Bool) → List Char × List (Char × Bool)
  | _, [], other => ([], other)
  | n, c :: cs, other =>
    match take c (n - range) (n + range) 0 other with
    | some other =>
      let (found, other) := matched range (n + 1) cs other
      (c :: found, other)
    | none => matched range (n + 1) cs other

/-- The number of characters in front that two names share, at most `limit`. -/
def sharedStart : Nat → List Char → List Char → Nat
  | 0, _, _ => 0
  | _, [], _ => 0
  | _, _, [] => 0
  | limit + 1, a :: as, b :: bs => if a = b then sharedStart limit as bs + 1 else 0

/-- The likeness of two names by their matching characters. -/
def ofMatches (a b : List Char) : Float :=
  if a.isEmpty && b.isEmpty then 1.0
  else
    let range := max a.length b.length / 2 - 1
    let (found, marked) := matched range 0 a (b.map fun c => (c, false))
    let other := (marked.filter (·.2)).map (·.1)
    let count := found.length
    let swapped := ((found.zip other).filter fun (x, y) => x ≠ y).length / 2
    if count = 0 then 0.0
    else
      (Float.ofNat count / Float.ofNat a.length + Float.ofNat count / Float.ofNat b.length +
        Float.ofNat (count - swapped) / Float.ofNat count) / 3.0

/-- The likeness of two names, from 0 to 1. -/
def score (a b : String) : Float :=
  let likeness := ofMatches a.toList b.toList
  if 0.7 < likeness then
    let start := sharedStart 4 a.toList b.toList
    likeness + 0.1 * Float.ofNat start * (1.0 - likeness)
  else likeness

/-- The first of the names that are most alike, if their likeness exceeds 0.8. -/
def best? (name : String) (known : List String) : Option String :=
  let pick (best : Option (Float × String)) (candidate : String) : Option (Float × String) :=
    let likeness := score name candidate
    match best with
    | none => if 0.8 < likeness then some (likeness, candidate) else none
    | some (highest, _) =>
      if 0.8 < likeness && highest < likeness then some (likeness, candidate) else best
  (known.foldl pick none).map (·.2)

end ResolverGen.Similarity
