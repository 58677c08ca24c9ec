/-
The types that columns can have.

Six primitive types, their boxed forms, strings and byte arrays. Each is stored as one of four SQL
types and read from a cursor by one method; booleans are stored as numbers and read by comparison
with 1. All but the six primitive types can hold null.
-/
import ResolverGen.Element.Basic
import ResolverGen.Code.Syntax

namespace ResolverGen

/-- The SQL types of columns. -/
inductive Storage where
  | integer | real | text | blob
deriving DecidableEq, Repr, Inhabited

/-- The SQL name of a storage type. -/
def Storage.sql : Storage → String
  | .integer => "INTEGER"
  | .real => "REAL"
  | .text => "TEXT"
  | .blob => "BLOB"

/-- The types of columns. -/
inductive ColumnType where
  | boolean | booleanObject | short | shortObject | integer | integerObject | long | longObject
  | float | floatObject | double | doubleObject | string | byteArray
deriving DecidableEq, Repr, Inhabited

namespace ColumnType

/-- All column types. -/
def all : List ColumnType :=
  [boolean, booleanObject, short, shortObject, integer, integerObject, long, longObject,
   float, floatObject, double, doubleObject, string, byteArray]

/-- The name of a type in a model. -/
def typeName : ColumnType → String
  | boolean => "boolean"
  | booleanObject => "java.lang.Boolean"
  | short => "short"
  | shortObject => "java.lang.Short"
  | integer => "int"
  | integerObject => "java.lang.Integer"
  | long => "long"
  | longObject => "java.lang.Long"
  | float => "float"
  | floatObject => "java.lang.Float"
  | double => "double"
  | doubleObject => "java.lang.Double"
  | string => "java.lang.String"
  | byteArray => "byte[]"

/-- The column type of a type's name. -/
def ofTypeName? (name : String) : Option ColumnType := all.find? (·.typeName = name)

/-- Whether values of the type can be null. -/
def isNullable : ColumnType → Bool
  | boolean | short | integer | long | float | double => false
  | _ => true

/-- How values of the type are stored. -/
def storage : ColumnType → Storage
  | boolean | booleanObject | short | shortObject | integer | integerObject | long
  | longObject => .integer
  | float | floatObject | double | doubleObject => .real
  | string => .text
  | byteArray => .blob

/-- The method of a cursor that reads values of the type. -/
def cursorMethod : ColumnType → String
  | boolean | booleanObject | integer | integerObject => "getInt"
  | short | shortObject => "getShort"
  | long | longObject => "getLong"
  | float | floatObject => "getFloat"
  | double | doubleObject => "getDouble"
  | string => "getString"
  | byteArray => "getBlob"

/-- How the type of a variable is written: by a word of the language or by a class. -/
inductive Written where
  | word (text : String)
  | boxed (simple : String)
deriving DecidableEq, Repr

/-- How the type is written. -/
def written : ColumnType → Written
  | boolean => .word "boolean"
  | short => .word "short"
  | integer => .word "int"
  | long => .word "long"
  | float => .word "float"
  | double => .word "double"
  | byteArray => .word "byte[]"
  | booleanObject => .boxed "Boolean"
  | shortObject => .boxed "Short"
  | integerObject => .boxed "Integer"
  | longObject => .boxed "Long"
  | floatObject => .boxed "Float"
  | doubleObject => .boxed "Double"
  | string => .boxed "String"

open Code

/-- The type of a variable in a unit, whose class is referred to if there is one. -/
def declare (t : ColumnType) (scope : Scope) : TypeUse × Scope :=
  match t.written with
  | .word text => (.primitive text, scope)
  | .boxed simple =>
    let (name, scope) := scope.refer ⟨"java.lang", simple⟩
    (.named name, scope)

/-- The variable that holds the cursor. -/
def cursor : Expr := .var "cursor"

/-- The index of a column of the cursor. -/
def indexOf (column : String) : Expr := .call cursor "getColumnIndex" [.text column]

/-- Reads a column of the cursor. -/
def read (t : ColumnType) (column : String) : Expr :=
  let value := Expr.call cursor t.cursorMethod [indexOf column]
  match t with
  | boolean | booleanObject => .equal value (.number 1)
  | _ => value

end ColumnType

end ResolverGen
