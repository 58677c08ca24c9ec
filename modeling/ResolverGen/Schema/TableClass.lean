/-
The table class of an entity.

It holds the names of the table and its columns as constants, creates the table, and updates a
table of an older version: each step runs if the old version is below the step's own.
-/
import ResolverGen.Resolver.Basic
import ResolverGen.Schema

namespace ResolverGen.TableClass

open Code

/-- The class of strings. -/
def stringClass : ClassName := ⟨"java.lang", "String"⟩

/-- The class of databases. -/
def databaseClass : ClassName := ⟨"android.database.sqlite", "SQLiteDatabase"⟩

/-- The parameter that takes the database. -/
def databaseName : String := "db"

/-- The parameter that takes the version to update from. -/
def versionName : String := "oldVersion"

/-- The name of the table class of a class. -/
def className (name : String) : String := name ++ "Table"

/-- The name of the constant that holds a column's name. -/
def constantName (c : Column) : String := Naming.constantCase c.elementName ++ "_COLUMN"

/-- Runs an SQL text, which is cut into lines. -/
def execute (sql : String) : Stmt :=
  .runWith (.var databaseName) "execSQL" ((Text.keptLines sql.toList).map String.ofList)

/-- Runs a step if the table is older. -/
def migrate (m : Migration) : Stmt :=
  .guarded (.less (.var versionName) (.number m.version)) [execute m.render]

/-- A static method without a result. -/
def procedure (name : String) (params : List Param) (body : List Stmt) : Member :=
  .method
    { comment := none, annotations := [], modifiers := "public static"
      result := some (.primitive "void"), name, params, body }

/-- The unit of the table class. -/
def unit (table : String) (e : Entity) : SourceUnit :=
  let name := className e.name
  let scope := Scope.ofUnit e.package name
  let (string, scope) := scope.refer stringClass
  let (database, scope) := scope.refer databaseClass
  let databaseParam : Param := ⟨[], .named database, databaseName⟩
  let constants := e.columns.map fun c => Member.constant string (constantName c) c.name
  { scope
    decl :=
      { comment := none
        modifiers := "public final"
        name
        base := none
        members :=
          .constant string "NAME" table :: constants ++
            [.method
              { comment := none, annotations := [], modifiers := "private", result := none, name
                params := [], body := [] },
             procedure "createTable" [databaseParam]
              [execute (TableDef.ofColumns table e.columns).render],
             procedure "updateTable" [databaseParam, ⟨[], .primitive "int", versionName⟩]
              ((Migration.ofColumns table e.columns).map migrate)] } }

end ResolverGen.TableClass
