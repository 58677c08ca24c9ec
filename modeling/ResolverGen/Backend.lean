/-
The two storage backends.

A backend is known by the three annotations that it reads and by the names of the runtime classes
that its generated code extends and calls.
-/
import ResolverGen.Code.ClassName

namespace ResolverGen

open Code

/-- The backends. -/
inductive Backend where
  | sqlite | contentResolver
deriving DecidableEq, Repr, Inhabited

/-- The annotations of a backend. -/
structure Vocabulary where
  type : ClassName
  column : ClassName
  creator : ClassName
deriving DecidableEq, Repr, Inhabited

/-- The names that generated code is made of. -/
structure Runtime where
  /-- What stands between the name of a class and the kind of its resolver. -/
  resolverInfix : String
  /-- What stands behind the name of a class in that of its mapping. -/
  mappingSuffix : String
  storage : ClassName
  /-- The parameter that takes the storage. -/
  storageParameter : String
  putResolver : ClassName
  getResolver : ClassName
  deleteResolver : ClassName
  insertQuery : ClassName
  updateQuery : ClassName
  deleteQuery : ClassName
  typeMapping : ClassName
deriving DecidableEq, Repr, Inhabited

namespace Runtime

/-- The name of the put resolver of a class. -/
def putName (r : Runtime) (name : String) : String := name ++ r.resolverInfix ++ "PutResolver"

/-- The name of the get resolver of a class. -/
def getName (r : Runtime) (name : String) : String := name ++ r.resolverInfix ++ "GetResolver"

/-- The name of the delete resolver of a class. -/
def deleteName (r : Runtime) (name : String) : String :=
  name ++ r.resolverInfix ++ "DeleteResolver"

/-- The name of the mapping of a class. -/
def mappingName (r : Runtime) (name : String) : String := name ++ r.mappingSuffix

end Runtime

namespace Backend

/-- Both backends, in the order in which they run. -/
def all : List Backend := [sqlite, contentResolver]

/-- The name of a backend. -/
def name : Backend → String
  | sqlite => "sqlite"
  | contentResolver => "content-resolver"

/-- The annotations that a backend reads. -/
def vocabulary : Backend → Vocabulary
  | sqlite =>
    { type := ⟨"com.pushtorefresh.storio3.sqlite.annotations", "StorIOSQLiteType"⟩
      column := ⟨"com.pushtorefresh.storio3.sqlite.annotations", "StorIOSQLiteColumn"⟩
      creator := ⟨"com.pushtorefresh.storio3.sqlite.annotations", "StorIOSQLiteCreator"⟩ }
  | contentResolver =>
    { type :=
        ⟨"com.pushtorefresh.storio3.contentresolver.annotations", "StorIOContentResolverType"⟩
      column :=
        ⟨"com.pushtorefresh.storio3.contentresolver.annotations", "StorIOContentResolverColumn"⟩
      creator :=
        ⟨"com.pushtorefresh.storio3.contentresolver.annotations", "StorIOContentResolverCreator"⟩ }

/-- The runtime classes of a backend. -/
def runtime : Backend → Runtime
  | sqlite =>
    { resolverInfix := "StorIOSQLite"
      mappingSuffix := "SQLiteTypeMapping"
      storage := ⟨"com.pushtorefresh.storio3.sqlite", "StorIOSQLite"⟩
      storageParameter := "storIOSQLite"
      putResolver := ⟨"com.pushtorefresh.storio3.sqlite.operations.put", "DefaultPutResolver"⟩
      getResolver := ⟨"com.pushtorefresh.storio3.sqlite.operations.get", "DefaultGetResolver"⟩
      deleteResolver :=
        ⟨"com.pushtorefresh.storio3.sqlite.operations.delete", "DefaultDeleteResolver"⟩
      insertQuery := ⟨"com.pushtorefresh.storio3.sqlite.queries", "InsertQuery"⟩
      updateQuery := ⟨"com.pushtorefresh.storio3.sqlite.queries", "UpdateQuery"⟩
      deleteQuery := ⟨"com.pushtorefresh.storio3.sqlite.queries", "DeleteQuery"⟩
      typeMapping := ⟨"com.pushtorefresh.storio3.sqlite", "SQLiteTypeMapping"⟩ }
  | contentResolver =>
    { resolverInfix := "StorIOContentResolver"
      mappingSuffix := "ContentResolverTypeMapping"
      storage := ⟨"com.pushtorefresh.storio3.contentresolver", "StorIOContentResolver"⟩
      storageParameter := "storIOContentResolver"
      putResolver :=
        ⟨"com.pushtorefresh.storio3.contentresolver.operations.put", "DefaultPutResolver"⟩
      getResolver :=
        ⟨"com.pushtorefresh.storio3.contentresolver.operations.get", "DefaultGetResolver"⟩
      deleteResolver :=
        ⟨"com.pushtorefresh.storio3.contentresolver.operations.delete", "DefaultDeleteResolver"⟩
      insertQuery := ⟨"com.pushtorefresh.storio3.contentresolver.queries", "InsertQuery"⟩
      updateQuery := ⟨"com.pushtorefresh.storio3.contentresolver.queries", "UpdateQuery"⟩
      deleteQuery := ⟨"com.pushtorefresh.storio3.contentresolver.queries", "DeleteQuery"⟩
      typeMapping :=
        ⟨"com.pushtorefresh.storio3.contentresolver", "ContentResolverTypeMapping"⟩ }

end Backend

end ResolverGen
