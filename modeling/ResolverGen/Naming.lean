/-
Names of members and of the constants made from them.

`capitalize` and `decapitalize` map the first character only. An accessor is `get` or `is` followed
by a capital; `propertyOf?` takes the accessor word off. `constantCase` cuts a name into words and
joins them in capitals, as in `user_id` and `userId`, which both give `USER_ID`.
-/
import ResolverGen.Unicode.Case
import ResolverGen.Unicode.Cluster

namespace ResolverGen.Naming

open Unicode

/-- Maps the first character to upper case. -/
def capitalizeChars : List Char → List Char
  | [] => []
  | c :: cs => upper c ++ cs

/-- Maps the first character to lower case. -/
def decapitalizeChars : List Char → List Char
  | [] => []
  | c :: cs => lower c ++ cs

/-- Maps the first character of a name to upper case. -/
def capitalize (name : String) : String := String.ofList (capitalizeChars name.toList)

/-- Maps the first character of a name to lower case. -/
def decapitalize (name : String) : String := String.ofList (decapitalizeChars name.toList)

/-- What follows `word` in a text that starts with it. -/
def after? : List Char → List Char → Option (List Char)
  | [], cs => some cs
  | _ :: _, [] => none
  | w :: ws, c :: cs => if w = c then after? ws cs else none

theorem after?_append (word rest : List Char) : after? word (word ++ rest) = some rest := by
  induction word with
  | nil => rfl
  | cons w ws ih => simp [after?, ih]

theorem eq_append_of_after? {word cs rest : List Char} (h : after? word cs = some rest) :
    cs = word ++ rest := by
  induction word generalizing cs with
  | nil =>
    simp only [after?, Option.some.injEq] at h
    simp [h]
  | cons w ws ih =>
    cases cs with
    | nil => simp [after?] at h
    | cons c cs =>
      simp only [after?] at h
      split at h
      · next hw => simp [hw, ih h]
      · simp at h

/-- Whether a text starts with a capital. -/
def startsUpper : List Char → Bool
  | [] => false
  | c :: _ => isUpper c

/-- What follows the accessor word `get` or `is`, if a capital follows it. -/
def propertyOfChars? (cs : List Char) : Option (List Char) :=
  ((after? "get".toList cs).filter startsUpper).or ((after? "is".toList cs).filter startsUpper)

/-- What follows the accessor word of a name, if the name is that of an accessor. -/
def propertyOf? (name : String) : Option String :=
  (propertyOfChars? name.toList).map String.ofList

/-- Whether a name is `is` followed by a capital. -/
def isPredicateName (name : String) : Bool :=
  ((after? "is".toList name.toList).filter startsUpper).isSome

/-- The clusters that stand between words and belong to none. -/
def isSeparator (g : List Char) : Bool := g == ['_'] || g == ['-'] || g == [' ']

/-- A cluster of ASCII digits. -/
def isDigits (g : List Char) : Bool := g.all Char.isDigit

/-- A cluster that has letter case and is in upper case. -/
def isCapital (g : List Char) : Bool := upperAll g != lowerAll g && g == upperAll g

/-- A cluster that has letter case and is in lower case. -/
def isSmall (g : List Char) : Bool := upperAll g != lowerAll g && g == lowerAll g

/-- Whether a word ends between two clusters: where small letters turn to capitals, where letters
and digits meet, and before the last of several capitals if a small letter follows it. -/
def endsWord (g : List Char) : List (List Char) → Bool
  | [] => false
  | h :: rest =>
    isSmall g && isCapital h || isSmall g && isDigits h || isCapital g && isDigits h ||
      isDigits g && isSmall h || isDigits g && isCapital h ||
      isCapital g && isCapital h && (rest.head?.map isSmall).getD false

/-- The words of a text given by its clusters, where `current` is the word so far. -/
def wordsFrom (current : List Char) : List (List Char) → List (List Char)
  | [] => [current]
  | g :: rest =>
    if isSeparator g then current :: wordsFrom [] rest
    else if endsWord g rest then (current ++ g) :: wordsFrom [] rest
    else wordsFrom (current ++ g) rest

/-- The words of a name. Between two separators there is an empty word. -/
def words (cs : List Char) : List (List Char) := wordsFrom [] (clusters cs)

/-- The words of a name in capitals, joined by underscores. -/
def constantCase (name : String) : String :=
  String.ofList (List.intercalate ['_'] ((words name.toList).map upperAll))

end ResolverGen.Naming
