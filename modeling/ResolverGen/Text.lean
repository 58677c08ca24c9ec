/-
Cutting texts apart and joining them.

`cutLast?` parts a text at the last occurrence of a character, `splitAt` at every occurrence, and
`keptLines` after every line feed, which stays with its line (`flatten_keptLines`: nothing is
lost). `join` puts a separator between texts.
-/

namespace ResolverGen.Text

/-- Joins texts with a separator between neighbours. -/
def join (separator : String) : List String → String
  | [] => ""
  | [s] => s
  | s :: t :: rest => s ++ separator ++ join separator (t :: rest)

theorem join_singleton (separator s : String) : join separator [s] = s := rfl

theorem join_cons_cons (separator s t : String) (rest : List String) :
    join separator (s :: t :: rest) = s ++ separator ++ join separator (t :: rest) := rfl

/-- The parts before and after the last `mark`, if there is one. -/
def cutLast? (mark : Char) : List Char → Option (List Char × List Char)
  | [] => none
  | c :: cs =>
    match cutLast? mark cs with
    | some (before, behind) => some (c :: before, behind)
    | none => if c = mark then some ([], cs) else none

theorem cutLast?_eq_none {mark : Char} {cs : List Char} (h : mark ∉ cs) :
    cutLast? mark cs = none := by
  induction cs with
  | nil => rfl
  | cons c cs ih =>
    simp only [List.mem_cons, not_or] at h
    simp [cutLast?, ih h.2, Ne.symm h.1]

theorem cutLast?_append {mark : Char} (before : List Char) {behind : List Char}
    (h : mark ∉ behind) : cutLast? mark (before ++ mark :: behind) = some (before, behind) := by
  induction before with
  | nil => simp [cutLast?, cutLast?_eq_none h]
  | cons c cs ih => simp [cutLast?, ih]

/-- The parts between the occurrences of `mark`. -/
def splitAt (mark : Char) : List Char → List (List Char)
  | [] => [[]]
  | c :: cs =>
    if c = mark then [] :: splitAt mark cs
    else
      match splitAt mark cs with
      | [] => [[c]]
      | part :: parts => (c :: part) :: parts

/-- The lines of a text, each with the line feed that ends it. -/
def keptLines : List Char → List (List Char)
  | [] => []
  | c :: cs =>
    if c = '\n' then [c] :: keptLines cs
    else
      match keptLines cs with
      | [] => [[c]]
      | line :: lines => (c :: line) :: lines

theorem flatten_keptLines (cs : List Char) : (keptLines cs).flatten = cs := by
  induction cs with
  | nil => rfl
  | cons c cs ih =>
    unfold keptLines
    split
    · simp [ih]
    · split
      · next h => simpa [h] using ih
      · next line lines h =>
        rw [h] at ih
        simp only [List.flatten_cons] at ih
        simp [ih]

/-- Drops the line feed at the end of a line, and a carriage return before it. -/
def withoutEnd (line : List Char) : List Char :=
  match line.reverse with
  | '\n' :: '\r' :: rest => rest.reverse
  | '\n' :: rest => rest.reverse
  | _ => line

/-- The lines of a text without their ends. -/
def bareLines (s : String) : List String :=
  (keptLines s.toList).map fun line => String.ofList (withoutEnd line)

end ResolverGen.Text
