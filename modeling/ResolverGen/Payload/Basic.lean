/-
Payloads: what the arguments of an annotation say.

A payload has named fields. Items are taken in order; each names a field, and no field is named
twice. All faults are collected, those of missing fields last.
-/
import ResolverGen.Argument.Item
import ResolverGen.Order
import ResolverGen.Similarity

namespace ResolverGen.Payload

open Argument

/-- Why a field's content cannot be used. -/
inductive Misuse where
  /-- A content of the wrong shape: a word or a list. -/
  | format (name : String)
  | type (name : String)
  | unknownValue (text : String)
  /-- A number beyond 64 bits, and whether it is below them. -/
  | outOfRange (below : Bool)
  /-- A list that cannot be read. -/
  | unreadable (f : ArgumentFault)
deriving DecidableEq, Repr

/-- The wording of a misuse. -/
def Misuse.message : Misuse → String
  | format name => s!"Unexpected meta-item format `{name}`"
  | type name => s!"Unexpected type `{name}`"
  | unknownValue text => s!"Unknown value: `{text}`"
  | outOfRange false => "number too large to fit in target type"
  | outOfRange true => "number too small to fit in target type"
  | unreadable f => f.message

/-- What is wrong with a payload. -/
inductive PayloadFault where
  | literalItem
  | unknownField (name : String) (known : List String)
  | duplicate (field : String)
  | missing (field : String)
  | misused (field : String) (m : Misuse)
deriving DecidableEq, Repr

/-- The wording of a fault. -/
def PayloadFault.message : PayloadFault → String
  | literalItem => "Unexpected meta-item format `literal`"
  | unknownField name known =>
    let known := Order.sortBy (fun a b => decide (a ≤ b)) known
    match Similarity.best? name known with
    | some field => s!"Unknown field: `{name}`. Did you mean `{field}`?"
    | none =>
      let names := Text.join ", " (known.map fun field => s!"`{field}`")
      s!"Unknown field: `{name}`. Available values: {names}"
  | duplicate field => s!"Duplicate field `{field}`"
  | missing field => s!"Missing field `{field}`"
  | misused field m => s!"{m.message} at {field}"

/-- The wording of one or more faults. -/
def describe : List PayloadFault → String
  | [f] => f.message
  | faults => "Multiple errors: (" ++ Text.join ", " (faults.map PayloadFault.message) ++ ")"

/-! The contents of fields. -/

/-- A list is no content, but one that cannot be read says so. -/
def refuseList {α : Type} (inner : List Tree) : Except Misuse α :=
  match Item.ofTrees inner with
  | .error f => .error (.unreadable f)
  | .ok _ => .error (.format "list")

/-- Reads a text. -/
def text : Content → Except Misuse String
  | .word => .error (.format "word")
  | .list inner => refuseList inner
  | .value (.literal (.text value)) => .ok value
  | .value form => .error (.type form.typeName)

/-- Reads a truth value; a word alone is true. -/
def flag : Content → Except Misuse Bool
  | .word => .ok true
  | .list inner => refuseList inner
  | .value (.literal (.boolean value)) => .ok value
  | .value (.literal (.text value)) =>
    if value = "true" then .ok true
    else if value = "false" then .ok false
    else .error (.unknownValue value)
  | .value form => .error (.type form.typeName)

/-- The least number that does not fit into 64 bits with a sign. -/
def signedBound : Int := 0x8000000000000000

/-- Whether a number fits into 64 bits with a sign. -/
def fits (n : Int) : Bool := -signedBound ≤ n && n < signedBound

/-- The number that digits stand for; there has to be one, and nothing else. -/
def natOfDigits? (cs : List Char) : Option Nat :=
  if cs ≠ [] && cs.all Char.isDigit then some (Json.digitsValue cs) else none

/-- The number that a text stands for: digits behind an optional sign. -/
def intOfText? (s : String) : Option Int :=
  let value : Option Int :=
    match s.toList with
    | '-' :: cs => (natOfDigits? cs).map fun n => -n
    | '+' :: cs => (natOfDigits? cs).map fun n => n
    | cs => (natOfDigits? cs).map fun n => n
  value.filter fits

/-- Reads a number, given as such or as a text. -/
def number : Content → Except Misuse Int
  | .word => .error (.format "word")
  | .list inner => refuseList inner
  | .value (.literal (.integer n)) => if fits n then .ok n else .error (.outOfRange (n < 0))
  | .value (.literal (.text value)) =>
    match intOfText? value with
    | some n => .ok n
    | none => .error (.unknownValue value)
  | .value form => .error (.type form.typeName)

/-! Decoding. -/

/-- A field of a payload of type `α`. -/
structure Field (α : Type) where
  name : String
  required : Bool
  /-- Puts the content of an item into a payload. -/
  read : Content → α → Except Misuse α

/-- A payload in the making: the fields named so far and the faults found, both latest first. -/
structure Draft (α : Type) where
  given : List String
  faults : List PayloadFault
  value : α

/-- Takes one item. A field counts as given even if its content is no use. -/
def Draft.take {α : Type} (fields : List (Field α)) (d : Draft α) : Item → Draft α
  | .literal _ => { d with faults := .literalItem :: d.faults }
  | .named name content =>
    match fields.find? (·.name = name) with
    | none => { d with faults := .unknownField name (fields.map (·.name)) :: d.faults }
    | some field =>
      if d.given.contains name then { d with faults := .duplicate name :: d.faults }
      else
        match field.read content d.value with
        | .ok value => { d with given := name :: d.given, value }
        | .error m =>
          { d with given := name :: d.given, faults := .misused name m :: d.faults }

/-- The required fields that have not been given. -/
def missing {α : Type} (fields : List (Field α)) (given : List String) : List PayloadFault :=
  (fields.filter fun f => f.required && !given.contains f.name).map fun f => .missing f.name

/-- Decodes items into a payload that starts as `start`. -/
def decode {α : Type} (fields : List (Field α)) (start : α) (items : List Item) :
    Except (List PayloadFault) α :=
  let d := items.foldl (Draft.take fields) ⟨[], [], start⟩
  match d.faults.reverse ++ missing fields d.given with
  | [] => .ok d.value
  | faults => .error faults

/-- Decodes the arguments of an annotation; the error is the wording of what is wrong. -/
def ofArguments {α : Type} (fields : List (Field α)) (start : α) (arguments : Option String) :
    Except String α :=
  match arguments.elim (.ok []) Item.ofText with
  | .error f => .error f.message
  | .ok items => (decode fields start items).mapError describe

end ResolverGen.Payload
