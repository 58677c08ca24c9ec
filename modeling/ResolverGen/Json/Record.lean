/-
Records in documents.

A record is written as an object or as the list of its fields. In an object the fields may come in
any order but not twice, and other keys are skipped; in a list the fields stand in their order, and
those at the end may be missing. A field that is not given keeps the value that it starts with,
unless it is required.
-/
import ResolverGen.Json.Reader

namespace ResolverGen.Json

/-- A field of a record of type `α`. -/
structure Field (α : Type) where
  name : String
  required : Bool
  /-- Reads the value of the field and puts it into a record. -/
  read : α → Reader α

/-- A record with the values that its fields start with. -/
structure Record (α : Type) where
  name : String
  fields : List (Field α)
  start : α

namespace Record

variable {α : Type}

/-- Checks that the required fields are among those given. -/
def checkGiven (given : List String) : List (Field α) → Reader Unit
  | [] => pure ()
  | f :: fs => do
    if f.required && !given.contains f.name then Reader.fail (.misfit (.missing f.name))
    checkGiven given fs

/-- Reads the entry of a key that stands in front, into a record. -/
def entry (r : Record α) (given : List String) (value : α) : Reader (List String × α) := do
  Reader.drop
  let key ← Reader.textTail
  match r.fields.find? (·.name = key) with
  | none =>
    Reader.mark ':'
    Reader.skip
    pure (given, value)
  | some f =>
    if given.contains key then Reader.fail (.misfit (.duplicate key))
    Reader.mark ':'
    let value ← f.read value
    pure (key :: given, value)

/-- Reads the entries of an object that is open, and its end. -/
def entries (r : Record α) : Nat → Bool → List String → α → Reader α
  | 0, _, _, _ => Reader.fail .unfinished
  | fuel + 1, first, given, value => do
    if ← Reader.hasKey first then
      let (given, value) ← r.entry given value
      r.entries fuel false given value
    else
      checkGiven given r.fields
      Reader.drop
      pure value

/-- Reads fields in order from a list that is open, and its end. -/
def positional (r : Record α) : Nat → List (Field α) → α → Reader α
  | _, [], value => do
    Reader.mark ']'
    pure value
  | position, f :: fs, value => do
    if ← Reader.hasItem (position = 0) then
      let value ← f.read value
      r.positional (position + 1) fs value
    else if f.required then
      Reader.fail (.misfit (.tooShort position r.name r.fields.length))
    else r.positional (position + 1) fs value

/-- Reads a record. -/
def read (r : Record α) : Reader α := do
  match ← Reader.peekSome with
  | '\x7b' =>
    Reader.drop
    fun cs => r.entries (cs.length + 1) true [] r.start cs
  | '[' =>
    Reader.drop
    r.positional 0 r.fields r.start
  | _ => Reader.unfit (.record r.name)

end Record

end ResolverGen.Json
