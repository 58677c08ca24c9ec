/-
Settings of a run.

The one setting is the annotation that generated code puts on values that are never null. Where it is
not set, it is the newer of the two common ones if the model knows that type, and the older otherwise.
-/
import ResolverGen.Element.Model
import ResolverGen.Json.Record

namespace ResolverGen

/-- Settings of a run. -/
structure Settings where
  /-- The qualified name of the annotation for values that are never null. -/
  nonNull : Option String
deriving DecidableEq, Repr, Inhabited

namespace Settings

open Json

/-- Nothing is set. -/
def unset : Settings := ⟨none⟩

/-- The fields of settings. -/
def record : Record Settings where
  name := "ProcessorConfig"
  start := unset
  fields :=
    [{ name := "nonNullAnnotation", required := false
       read := fun s => do pure { s with nonNull := ← Reader.optional Reader.text } }]

/-- Reads settings that take a whole text. -/
def ofDocument (text : String) : Except ReadError Settings := record.read.run text

/-- The newer common annotation. -/
def newerNonNull : String := "androidx.annotation.NonNull"

/-- The older common annotation. -/
def olderNonNull : String := "android.support.annotation.NonNull"

/-- The annotation for values that are never null. -/
def nonNullMark (s : Settings) (m : Model) : Code.ClassName :=
  .ofQualified (s.nonNull.getD (if m.knows newerNonNull then newerNonNull else olderNonNull))

end Settings

end ResolverGen
