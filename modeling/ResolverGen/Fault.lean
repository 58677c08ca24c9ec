/-
What can be wrong with a model, and how it is reported.

A cause is a rule that some element breaks; each has a kind and a wording. A fault is a cause at an
element, and a diagnostic is a fault as it is reported: a warning if processing can go on without
the element, an error otherwise (`Fault.severity_eq_warning_iff`).
-/
import ResolverGen.Element.Basic

namespace ResolverGen

/-- The kinds of faults. -/
inductive FaultKind where
  | structural | semantic | unsupportedType | payload | skipped | output
deriving DecidableEq, Repr, Inhabited

/-- The operations whose targets a class can name. -/
inductive Operation where
  | insert | update | delete
deriving DecidableEq, Repr, Inhabited

namespace Operation

/-- All operations. -/
def all : List Operation := [insert, update, delete]

/-- The name of an operation. -/
def name : Operation → String
  | insert => "insert"
  | update => "update"
  | delete => "delete"

end Operation

/-- The rules that an element can break. Annotations are given by their simple names. -/
inductive Cause where
  /-- A type annotation on something that is no class. -/
  | notAClass (mark name : String)
  /-- A type annotation on a class inside another. -/
  | nestedClass (mark name : String)
  /-- A column annotation outside a class. -/
  | outsideClass (mark parent : String)
  /-- A column in a class of which only the superclass is annotated. -/
  | parentAnnotated (typeMark : String)
  /-- A member annotation in a class without the type annotation. -/
  | classNotAnnotated (name typeMark : String)
  | privateMethod (mark name : String)
  | noGetter (mark name : String)
  | finalField (mark name : String)
  | methodWithParameters (mark name : String)
  | unsupportedType (mark type : String)
  | ignoreNullOnPrimitive (name : String)
  | emptyColumnName (name : String)
  | badVersion (name : String)
  | creatorOutsideClass (mark parent : String)
  | privateCreator (mark name : String)
  | instanceCreator (mark name : String)
  | foreignResult (mark name : String)
  /-- A member of a class that has not been collected. -/
  | ownerMissing (name : String)
  | duplicateColumn (column : String)
  | mixedColumns (mark name : String)
  | secondCreator (name : String)
  | noColumns (typeMark columnMark name : String)
  | noKey (typeMark columnMark name : String)
  | creatorMissing (typeMark creatorMark name : String)
  | creatorMismatch (typeMark creatorMark name : String)
  /-- An annotation whose arguments cannot be read. -/
  | unreadable (mark name reason : String)
  | emptyTable (name mark : String)
  /-- No URI at all, or none for an operation. -/
  | emptyUri (name mark : String) (operation : Option Operation)
  /-- A file that cannot be written. -/
  | unwritable (reason : String)
  /-- A cause given by its kind and wording alone. -/
  | stated (kind : FaultKind) (text : String)
deriving DecidableEq, Repr, Inhabited

namespace Cause

/-- The kind of a cause. -/
def kind : Cause → FaultKind
  | notAClass .. | nestedClass .. | outsideClass .. | privateMethod .. | noGetter ..
  | finalField .. | methodWithParameters .. | creatorOutsideClass .. | privateCreator ..
  | instanceCreator .. | foreignResult .. => .structural
  | parentAnnotated .. => .skipped
  | classNotAnnotated .. | ignoreNullOnPrimitive .. | emptyColumnName .. | badVersion ..
  | ownerMissing .. | duplicateColumn .. | mixedColumns .. | secondCreator .. | noColumns ..
  | noKey .. | creatorMissing .. | creatorMismatch .. | emptyTable .. | emptyUri .. => .semantic
  | unsupportedType .. => .unsupportedType
  | unreadable .. => .payload
  | unwritable .. => .output
  | stated kind _ => kind

/-- The wording of an output fault. -/
def outputMessage (reason : String) : String :=
  s!"Problem occurred with StorIOProcessor: {reason}"

/-- How the rules for classes begin. -/
def classRule (typeMark : String) : String := s!"Class marked with {typeMark} annotation"

/-- The wording of a cause. -/
def message : Cause → String
  | notAClass mark name => s!"{mark} can be applied only to classes not to {name}"
  | nestedClass mark name =>
    s!"{mark} can't be applied to nested or inner classes: {name}"
  | outsideClass mark parent =>
    s!"Please apply {mark} only to members of class (fields or methods) - not to members of {parent}"
  | parentAnnotated type =>
    s!"Fields of classes not annotated with {type} which have parents annotated with {type} will be skipped (e.g. AutoValue case)"
  | classNotAnnotated name type => s!"Please annotate class {name} with {type}"
  | privateMethod mark name => s!"{mark} can not be applied to private method: {name}"
  | noGetter mark name =>
    s!"{mark} can not be applied to private field without corresponding getter: {name}"
  | finalField mark name => s!"{mark} can not be applied to final field: {name}"
  | methodWithParameters mark name =>
    s!"{mark} can not be applied to method with parameters: {name}"
  | unsupportedType mark type =>
    s!"Unsupported type of field or method for {mark} annotation, if you need to serialize/deserialize field of that type -> please write your own resolver: {type}"
  | ignoreNullOnPrimitive name =>
    s!"ignoreNull should not be used for primitive type: {name}"
  | emptyColumnName name => s!"Column name is empty: {name}"
  | badVersion name => s!"Column version should be at least 1: {name}"
  | creatorOutsideClass mark parent =>
    s!"Please apply {mark} to constructor or factory method of class - not to {parent}"
  | privateCreator mark name =>
    s!"{mark} can not be applied to private methods or constructors: {name}"
  | instanceCreator mark name =>
    s!"{mark} can not be applied to non-static methods: {name}"
  | foreignResult mark name =>
    s!"{mark} can not be applied to method with return type different from {name}"
  | ownerMissing name => s!"Please annotate class {name} first"
  | duplicateColumn column => s!"Column name already used in this class: {column}"
  | mixedColumns mark name =>
    s!"Can't apply {mark} annotation to both fields and methods in a same class: {name}"
  | secondCreator name => s!"Only one creator method or constructor is allowed: {name}"
  | noColumns type column name =>
    s!"{classRule type} should have at least one field or method marked with {column} annotation: {name}"
  | noKey type column name =>
    s!"{classRule type} should have at least one KEY field or method marked with {column} annotation: {name}"
  | creatorMissing type creator name =>
    s!"{classRule type} needs factory method or constructor marked with {creator} annotation: {name}"
  | creatorMismatch type creator name =>
    s!"{classRule type} needs factory method or constructor marked with {creator} annotation with parameters matching {name} columns"
  | unreadable mark name reason => s!"Can not read {mark} on {name}: {reason}"
  | emptyTable name mark => s!"Table name of {name} annotated with {mark} is empty"
  | emptyUri name mark none => s!"Uri of {name} annotated with {mark} is empty"
  | emptyUri name mark (some operation) =>
    s!"Uri of {name} annotated with {mark} is empty for operation {operation.name}"
  | unwritable reason => outputMessage reason
  | stated .output text => outputMessage text
  | stated _ text => text

end Cause

/-- How bad a diagnostic is. -/
inductive Severity where
  | warning | error
deriving DecidableEq, Repr, Inhabited

/-- The name of a severity. -/
def Severity.name : Severity → String
  | .warning => "warning"
  | .error => "error"

/-- A cause at an element. Faults of the output have no element. -/
structure Fault where
  element : Option ElementId
  cause : Cause
deriving DecidableEq, Repr, Inhabited

namespace Fault

/-- A cause at an element. -/
def on (element : ElementId) (cause : Cause) : Fault := ⟨some element, cause⟩

/-- A file that cannot be written. -/
def unwritable (reason : String) : Fault := ⟨none, .unwritable reason⟩

/-- Whether processing can go on without the element. -/
def isWarning (f : Fault) : Bool := f.cause.kind = .skipped

/-- How a fault is reported. -/
def severity (f : Fault) : Severity := if f.isWarning then .warning else .error

theorem severity_eq_warning_iff (f : Fault) :
    f.severity = .warning ↔ f.cause.kind = .skipped := by
  unfold severity isWarning
  by_cases h : f.cause.kind = .skipped <;> simp [h]

end Fault

/-- A fault as it is reported. -/
structure Diagnostic where
  severity : Severity
  message : String
  element : Option ElementId
deriving DecidableEq, Repr, Inhabited

/-- The report of a fault. -/
def Fault.report (f : Fault) : Diagnostic := ⟨f.severity, f.cause.message, f.element⟩

/-- The text of a diagnostic. -/
def Diagnostic.render (d : Diagnostic) : String :=
  match d.element with
  | some element => s!"{d.severity.name} [#{element}]: {d.message}"
  | none => s!"{d.severity.name}: {d.message}"

end ResolverGen
