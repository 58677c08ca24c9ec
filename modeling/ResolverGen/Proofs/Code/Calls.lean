/-
The calls by which units are written.

A writer takes calls one after another: lines, the beginnings and ends of blocks, levels that are
taken and given back. Nothing sees to it that they match; a call that gives back a level does so
whether there is one or not. For each of the five kinds of units `calls` lists, in order, the calls
that write it: for an overriding method its comment and annotations, for a column the statements that
it is read, stored or set by, with a block around them or not, and for a long text the levels around
its continuation.

The layout of the unit is what these calls do (`Put.layout_unit`, `Get.layout_unit`,
`Delete.layout_unit`, `Mapping.layout_unit`, `TableClass.layout_unit`).
-/
import Mathlib.Data.List.Flatten
import ResolverGen.Proofs.Round.Accounting

namespace ResolverGen

namespace Code

/-- A call of a writer. -/
inductive Call where
  | line (text : String)
  | blank
  | statement (text : String)
  | beginBlock (header : String)
  | endBlock
  | indent
  | unindent
  | comment (text : String)

/-- The lines that a call writes and the levels that it takes and gives back, in order. The line
that ends a block stands at the level of its header. -/
def Call.steps : Call → List Layout.Step
  | .line text => [.line text]
  | .blank => [.line ""]
  | .statement text => [.line (text ++ ";")]
  | .beginBlock header => [.line (header ++ " \x7b"), .indent]
  | .endBlock => [.unindent, .line "\x7d"]
  | .indent => [.indent]
  | .unindent => [.unindent]
  | .comment text =>
    .line "/**" ::
      (Text.bareLines text).map (fun line => .line (if line = "" then " *" else " * " ++ line)) ++
      [.line " */"]

/-- What some calls do, one after another. -/
def Call.stepsAll (calls : List Call) : List Layout.Step := calls.flatMap Call.steps

@[simp] theorem Call.stepsAll_nil : stepsAll [] = [] := rfl

@[simp] theorem Call.stepsAll_cons (c : Call) (calls : List Call) :
    stepsAll (c :: calls) = c.steps ++ stepsAll calls := rfl

@[simp] theorem Call.stepsAll_append (before after : List Call) :
    stepsAll (before ++ after) = stepsAll before ++ stepsAll after := List.flatMap_append

/-- Runs an SQL text on the database: each line of it is a literal, and those behind the first stand
four levels deeper. A text without a line is not run at all. -/
def executeCalls (sql : String) : List Call :=
  match (Text.keptLines sql.toList).map fun line => Literal.quote (String.ofList line) with
  | [] => []
  | [only] => [.statement ("db.execSQL(" ++ only ++ ")")]
  | first :: second :: rest =>
    [.line ("db.execSQL(" ++ first)] ++ List.replicate 4 .indent ++
      (second :: rest).dropLast.map (fun middle => .line ("+ " ++ middle)) ++
      [.statement ("+ " ++ (second :: rest).getLast (List.cons_ne_nil _ _) ++ ")")] ++
      List.replicate 4 .unindent

end Code

open Code

/-! ### The calls of the emitters -/

namespace Resolver

/-- A documented class that extends a base class applied to an entity, up to its members. -/
def openClass (comment name base entity : String) : List Call :=
  [.comment comment,
   .beginBlock ("public class " ++ name ++ " extends " ++ base ++ "<" ++ entity ++ ">")]

/-- A method that overrides one of the base class, up to its body. -/
def openOverride (nonNull signature : String) : List Call :=
  [.comment "\x7b@inheritDoc\x7d", .line "@Override", .line ("@" ++ nonNull), .beginBlock signature]

/-- The signature of a method that takes an object. -/
def objectSignature (modifiers result name nonNull entity : String) : String :=
  modifiers ++ " " ++ result ++ " " ++ name ++ "(@" ++ nonNull ++ " " ++ entity ++ " object)"

/-- Gives what a builder builds after some calls of it. -/
def builderChain (builder : String) (calls : List String) : List Call :=
  [.line ("return " ++ builder ++ ".builder()"), .indent] ++ calls.map .line ++
    [.statement ".build()", .unindent]

/-- The call of a builder that names the target. -/
def targetCall : Target → String
  | .table name => ".table(" ++ Literal.quote name ++ ")"
  | .uri address => ".uri(" ++ Literal.quote address ++ ")"

/-- The calls of a builder that set the filter by the key columns of an object. -/
def filterCalls (e : Entity) : List String :=
  let filter := Filter.byKeys e.columns object
  [".where(" ++ filter.clauseExpr.render ++ ")",
   ".whereArgs(" ++ Text.join ", " (filter.valueExprs.map Expr.render) ++ ")"]

namespace Put

/-- Stores a column, in a block of its own if it ignores null. -/
def storeCalls (c : Column) : List Call :=
  let value := (c.valueIn object).render
  let put := "contentValues.put(" ++ Literal.quote c.name ++ ", " ++ value ++ ")"
  if c.ignoreNull then
    [.beginBlock ("if (" ++ value ++ " != null)"), .statement put, .endBlock]
  else [.statement put]

/-- The method that gives the insert query. -/
def insertCalls (e : Entity) (nonNull entity query : String) : List Call :=
  openOverride nonNull (objectSignature "protected" query "mapToInsertQuery" nonNull entity) ++
    builderChain query [targetCall (e.config.target .insert)] ++ [.endBlock]

/-- The method that gives the update query. -/
def updateCalls (e : Entity) (nonNull entity query : String) : List Call :=
  openOverride nonNull (objectSignature "protected" query "mapToUpdateQuery" nonNull entity) ++
    builderChain query (targetCall (e.config.target .update) :: filterCalls e) ++ [.endBlock]

/-- The method that gives the content values. -/
def valuesCalls (e : Entity) (nonNull entity values : String) : List Call :=
  openOverride nonNull (objectSignature "public" values "mapToContentValues" nonNull entity) ++
    ([.statement (values ++ " contentValues = new " ++ values ++ "(" ++ toString e.columns.length ++
        ")"), .blank] ++
      e.columns.flatMap storeCalls ++ [.blank, .statement "return contentValues"]) ++ [.endBlock]

/-- The calls that write the put resolver of an entity. -/
def calls (r : Runtime) (e : Entity) : List Call :=
  let scope := Scope.ofUnit e.package (r.putName e.name)
  let (base, scope) := scope.refer r.putResolver
  let (entity, scope) := scope.refer e.className
  let (nonNull, scope) := scope.refer e.nonNull
  let (insertQuery, scope) := scope.refer r.insertQuery
  let (updateQuery, scope) := scope.refer r.updateQuery
  let (values, _) := scope.refer contentValuesClass
  openClass "Generated resolver for Put Operation." (r.putName e.name) base.text entity.text ++
    (insertCalls e nonNull.text entity.text insertQuery.text ++ [.blank] ++
      updateCalls e nonNull.text entity.text updateQuery.text ++ [.blank] ++
      valuesCalls e nonNull.text entity.text values.text) ++
    [.endBlock]

end Put

namespace Get

/-- A read of a column, in a block of its own if the column can be null. -/
def guardedCalls (c : Column) (statement : String) : List Call :=
  if c.type.isNullable then
    [.beginBlock ("if (!cursor.isNull(" ++ (ColumnType.indexOf c.name).render ++ "))"),
     .statement statement, .endBlock]
  else [.statement statement]

/-- Sets a column of the object to what is read. -/
def assignCalls (c : Column) : List Call :=
  let read := c.readCursor.render
  guardedCalls c <|
    match c.getter, c.setter with
    | some _, some setter => "object." ++ setter ++ "(" ++ read ++ ")"
    | _, _ => "object." ++ c.elementName ++ " = " ++ read

/-- Reads a column into a local variable of some type. -/
def readCalls (type : TypeUse) (c : Column) : List Call :=
  let declared := type.render ++ " " ++ c.property
  let read := c.readCursor.render
  if c.type.isNullable then
    .statement (declared ++ " = null") :: guardedCalls c (c.property ++ " = " ++ read)
  else [.statement (declared ++ " = " ++ read)]

/-- The call of a creator. -/
def invocation (creator : Creator) (entity : String) (arguments : List String) : String :=
  match creator.kind with
  | .constructor => "new " ++ entity ++ "(" ++ Text.join ", " arguments ++ ")"
  | .factory name => entity ++ "." ++ name ++ "(" ++ Text.join ", " arguments ++ ")"

/-- Makes an object and sets every column of it. -/
def assignAllCalls (e : Entity) (entity : String) : List Call :=
  [.statement (entity ++ " object = new " ++ entity ++ "()"), .blank] ++
    e.columns.flatMap assignCalls

/-- Reads every column and calls a creator with what is read. -/
def createCalls (creator : Creator) (entity : String) (locals : List (TypeUse × Column)) :
    List Call :=
  [.blank] ++ locals.flatMap (fun l => readCalls l.1 l.2) ++
    [.blank, .statement (entity ++ " object = " ++
      invocation creator entity (locals.map (·.2.property)))]

/-- The method that builds an object by some calls. -/
def mapCalls (r : Runtime) (nonNull entity storage cursor : String) (build : List Call) :
    List Call :=
  openOverride nonNull
      ("public " ++ entity ++ " mapFromCursor(@" ++ nonNull ++ " " ++ storage ++ " " ++
        r.storageParameter ++ ", @" ++ nonNull ++ " " ++ cursor ++ " cursor)") ++
    (build ++ [.blank, .statement "return object"]) ++ [.endBlock]

/-- The calls that write the get resolver of an entity. -/
def calls (r : Runtime) (e : Entity) : List Call :=
  let scope := Scope.ofUnit e.package (r.getName e.name)
  let (base, scope) := scope.refer r.getResolver
  let (entity, scope) := scope.refer e.className
  let (nonNull, scope) := scope.refer e.nonNull
  let (storage, scope) := scope.refer r.storage
  let (cursor, scope) := scope.refer cursorClass
  let (_, scope) := scope.refer overrideClass
  let build :=
    match e.activeCreator? with
    | some creator => createCalls creator entity.text (localTypes scope e.ordered).1
    | none => assignAllCalls e entity.text
  openClass "Generated resolver for Get Operation." (r.getName e.name) base.text entity.text ++
    mapCalls r nonNull.text entity.text storage.text cursor.text build ++ [.endBlock]

end Get

/-- The method that gives the delete query. -/
def Delete.queryCalls (e : Entity) (nonNull entity query : String) : List Call :=
  openOverride nonNull (objectSignature "protected" query "mapToDeleteQuery" nonNull entity) ++
    builderChain query (targetCall (e.config.target .delete) :: filterCalls e) ++ [.endBlock]

/-- The calls that write the delete resolver of an entity. -/
def Delete.calls (r : Runtime) (e : Entity) : List Call :=
  let scope := Scope.ofUnit e.package (r.deleteName e.name)
  let (base, scope) := scope.refer r.deleteResolver
  let (entity, scope) := scope.refer e.className
  let (nonNull, scope) := scope.refer e.nonNull
  let (query, _) := scope.refer r.deleteQuery
  openClass "Generated resolver for Delete Operation." (r.deleteName e.name) base.text
      entity.text ++
    queryCalls e nonNull.text entity.text query.text ++ [.endBlock]

/-- The constructor that brings the three resolvers together. -/
def Mapping.constructorCalls (r : Runtime) (e : Entity) : List Call :=
  let fresh (name : String) : String := "new " ++ name ++ "()"
  [.beginBlock ("public " ++ r.mappingName e.name ++ "()")] ++
    [.line ("super(" ++ fresh (r.putName e.name) ++ ","), .indent,
     .line (fresh (r.getName e.name) ++ ","), .statement (fresh (r.deleteName e.name) ++ ")"),
     .unindent] ++ [.endBlock]

/-- The calls that write the mapping of an entity. -/
def Mapping.calls (r : Runtime) (e : Entity) : List Call :=
  let scope := Scope.ofUnit e.package (r.mappingName e.name)
  let (base, scope) := scope.refer r.typeMapping
  let (entity, _) := scope.refer e.className
  openClass "Generated mapping with collection of resolvers." (r.mappingName e.name) base.text
      entity.text ++
    constructorCalls r e ++ [.endBlock]

end Resolver

namespace TableClass

/-- A constant with an empty line behind it. -/
def constantCalls (string name value : String) : List Call :=
  [.statement ("public static final " ++ string ++ " " ++ name ++ " = " ++ Literal.quote value),
   .blank]

/-- A step that runs if the table is older. -/
def migrateCalls (m : Migration) : List Call :=
  [.beginBlock ("if (oldVersion < " ++ toString m.version ++ ")")] ++ executeCalls m.render ++
    [.endBlock]

/-- The constants, the constructor, and the methods that create and update the table. -/
def memberCalls (table : String) (e : Entity) (string database : String) : List Call :=
  constantCalls string "NAME" table ++
    e.columns.flatMap (fun c => constantCalls string (constantName c) c.name) ++
    [.beginBlock ("private " ++ className e.name ++ "()"), .endBlock, .blank] ++
    [.beginBlock ("public static void createTable(" ++ database ++ " db)")] ++
    executeCalls (TableDef.ofColumns table e.columns).render ++ [.endBlock, .blank] ++
    [.beginBlock ("public static void updateTable(" ++ database ++ " db, int oldVersion)")] ++
    (Migration.ofColumns table e.columns).flatMap migrateCalls ++ [.endBlock]

/-- The calls that write the table class of an entity. -/
def calls (table : String) (e : Entity) : List Call :=
  let scope := Scope.ofUnit e.package (className e.name)
  let (string, scope) := scope.refer stringClass
  let (database, _) := scope.refer databaseClass
  [.beginBlock ("public final class " ++ className e.name)] ++
    memberCalls table e string.text database.text ++ [.endBlock]

end TableClass

/-! ### What the trees are laid out as -/

namespace Code

theorem layoutAll_append (body rest : List Stmt) :
    layoutAll (body ++ rest) = layoutAll body ++ layoutAll rest := by
  induction body with
  | nil => rfl
  | cons s body ih => rw [List.cons_append, layoutAll, ih, layoutAll, List.append_assoc]

/-- The statements for several things are written one thing after another. -/
theorem layoutAll_flatMap {α : Type} (xs : List α) (f : α → List Stmt) (calls : α → List Call)
    (h : ∀ x, layoutAll (f x) = Call.stepsAll (calls x)) :
    layoutAll (xs.flatMap f) = Call.stepsAll (xs.flatMap calls) := by
  induction xs with
  | nil => rfl
  | cons x xs ih =>
    rw [List.flatMap_cons, List.flatMap_cons, layoutAll_append, Call.stepsAll_append, h, ih]

theorem nested_eq (n : Nat) (body : List Layout.Step) :
    nested n body = List.replicate n .indent ++ body ++ List.replicate n .unindent := by
  induction n with
  | zero => simp [nested]
  | succ n ih => rw [nested, ih, List.replicate_succ, List.replicate_succ']; simp

/-- Calls of one step each. -/
theorem Call.stepsAll_map {α : Type} (xs : List α) (f : α → Call) (g : α → Layout.Step)
    (h : ∀ x, (f x).steps = [g x]) : stepsAll (xs.map f) = xs.map g := by
  induction xs with
  | nil => rfl
  | cons x xs ih => rw [List.map_cons, stepsAll_cons, h, ih]; rfl

namespace Layout

theorem blank_eq : blank = Call.blank.steps := rfl

theorem statement_eq (text : String) : statement text = (Call.statement text).steps := rfl

theorem block_eq (header : String) (body : List Step) :
    block header body = (Call.beginBlock header).steps ++ body ++ Call.endBlock.steps := rfl

theorem comment_eq (text : String) : comment text = (Call.comment text).steps := rfl

end Layout

/-- Of the lines of a concatenation the last one ends the statement. -/
theorem partLines_eq (part : String) (parts : List String) :
    partLines (part :: parts) =
      ((part :: parts).map Literal.quote).dropLast.map (fun middle => .line ("+ " ++ middle)) ++
        Layout.statement
          ("+ " ++ ((part :: parts).map Literal.quote).getLast (by simp) ++ ")") := by
  induction parts generalizing part with
  | nil => simp [partLines, String.append_assoc]
  | cons next parts ih =>
    rw [partLines, ih next]
    · simp
    · simp

/-- A text is run as its lines. -/
theorem layout_execute (sql : String) :
    (TableClass.execute sql).layout = Call.stepsAll (executeCalls sql) := by
  have hquoted : (Text.keptLines sql.toList).map (fun line => Literal.quote (String.ofList line)) =
      ((Text.keptLines sql.toList).map String.ofList).map Literal.quote := by
    rw [List.map_map, Function.comp_def]
  -- how many lines there are decides between one statement and a concatenation
  rw [TableClass.execute, executeCalls, hquoted]
  generalize (Text.keptLines sql.toList).map String.ofList = parts
  have hcall : (Expr.var TableClass.databaseName).render ++ "." ++ "execSQL" ++ "(" =
      "db.execSQL(" := rfl
  match parts with
  | [] => rw [Stmt.layout]; rfl
  | [only] => rw [Stmt.layout, hcall]; rfl
  | first :: second :: rest =>
    have hmiddle := Call.stepsAll_map ((second :: rest).map Literal.quote).dropLast
      (fun middle => .line ("+ " ++ middle)) (fun middle => .line ("+ " ++ middle)) fun _ => rfl
    rw [Stmt.layout, hcall, nested_eq, partLines_eq]
    · simp only [List.map_cons, Call.stepsAll_append, Call.stepsAll_cons] at hmiddle ⊢
      rw [hmiddle]
      simp [Call.steps, continuationLevels, Layout.statement]
    · simp

/-- A call of a builder, with its arguments. -/
def builderCall (call : String × List Expr) : String :=
  "." ++ call.1 ++ "(" ++ Text.join ", " (call.2.map Expr.render) ++ ")"

/-- A builder is called line by line, one level deeper. -/
theorem layout_giveBuilt (type : TypeName) (calls : List (String × List Expr)) :
    (Stmt.giveBuilt type calls).layout =
      Call.stepsAll (Resolver.builderChain type.text (calls.map builderCall)) := by
  rw [Stmt.layout, nested_eq, Resolver.builderChain, List.map_map]
  simp only [Call.stepsAll_append]
  rw [Call.stepsAll_map calls _ (fun call => .line (builderCall call)) fun _ => rfl]
  simp [Call.steps, Layout.statement, renderArguments_eq_join, builderCall]

/-- A method is written from its comment to the end of its body. -/
theorem layout_method {m : Method} {header : String} {calls : List Call}
    (hheader : m.header = header) (hbody : layoutAll m.body = Call.stepsAll calls) :
    m.layout = Call.stepsAll ((m.comment.map Call.comment).toList ++
      m.annotations.map (fun a => .line ("@" ++ a.text)) ++
      ([.beginBlock header] ++ calls ++ [.endBlock])) := by
  have hannotations := Call.stepsAll_map m.annotations (fun a => .line ("@" ++ a.text))
    (fun a => .line ("@" ++ a.text)) fun _ => rfl
  rw [Method.layout, hheader, hbody, Layout.block_eq]
  simp only [Call.stepsAll_append, hannotations]
  cases m.comment <;> simp [Layout.comment_eq]

/-- A type is written from its comment to the end of its members. -/
theorem layout_type {d : TypeDecl} {header : String} {calls : List Call}
    (hheader : d.header = header) (hmembers : layoutMembers d.members = Call.stepsAll calls) :
    d.layout = Call.stepsAll ((d.comment.map Call.comment).toList ++
      ([.beginBlock header] ++ calls ++ [.endBlock])) := by
  rw [TypeDecl.layout, hheader, hmembers, Layout.block_eq]
  cases d.comment <;> simp [Layout.comment_eq]

theorem Scope.refer_typeName (s : Scope) (c : ClassName) : (s.refer c).2.typeName = s.typeName :=
  congrArg ClassName.simple (s.refer_declared c)

end Code

namespace Resolver

/-- An overriding method is written from its comment to the end of its body. -/
theorem layout_overriding {nonNull result : TypeName} {modifiers name signature : String}
    {params : List Param} {body : List Stmt} {calls : List Call}
    (hheader : (overriding nonNull modifiers result name params body).header = signature)
    (hbody : layoutAll body = Call.stepsAll calls) :
    (overriding nonNull modifiers result name params body).layout =
      Call.stepsAll (openOverride nonNull.text signature ++ calls ++ [.endBlock]) := by
  rw [layout_method hheader hbody]
  rfl

/-- A class is written from its comment to the end of its members. -/
theorem layout_extending {scope : Scope} {comment name : String} {base entity : TypeName}
    {members : List Member} {calls : List Call} (hname : scope.typeName = name)
    (hmembers : layoutMembers members = Call.stepsAll calls) :
    (extending scope comment base entity members).decl.layout =
      Call.stepsAll (openClass comment name base.text entity.text ++ calls ++ [.endBlock]) := by
  have hheader : (extending scope comment base entity members).decl.header =
      "public class " ++ name ++ " extends " ++ base.text ++ "<" ++ entity.text ++ ">" := by
    apply String.toList_injective
    simp [TypeDecl.header, extending, hname]
  rw [layout_type hheader hmembers]
  rfl

theorem header_overriding (nonNull result entity : TypeName) (modifiers name : String)
    (body : List Stmt) :
    (overriding nonNull modifiers result name
      [nonNullParam nonNull entity objectName] body).header =
      objectSignature modifiers result.text name nonNull.text entity.text := by
  apply String.toList_injective
  simp [Method.header, overriding, nonNullParam, Param.render, TypeUse.render,
    Text.join_singleton, objectName, objectSignature]

theorem builderCall_target (t : Target) : builderCall t.call = targetCall t := by
  cases t <;>
    exact String.toList_injective
      (by simp [Target.call, targetCall, builderCall, Text.join_singleton, Expr.render])

theorem map_builderCall_filter (e : Entity) :
    (Filter.byKeys e.columns object).calls.map builderCall = filterCalls e := by
  simp only [Filter.calls, filterCalls, builderCall, List.map_cons, List.map_nil,
    Text.join_singleton]
  rfl

/-- The builder of a query gets its target first. -/
theorem layout_query (query : TypeName) (t : Target) (calls : List (String × List Expr)) :
    layoutAll [.giveBuilt query (t.call :: calls)] =
      Call.stepsAll (builderChain query.text (targetCall t :: calls.map builderCall)) := by
  rw [layoutAll, layoutAll, List.append_nil, layout_giveBuilt, List.map_cons, builderCall_target]

namespace Put

theorem layout_store (c : Column) : layoutAll [store c] = Call.stepsAll (storeCalls c) := by
  have hcondition : "if (" ++ (Expr.differ (c.valueIn object) .null).render ++ ")" =
      "if (" ++ (c.valueIn object).render ++ " != null)" := by
    apply String.toList_injective
    simp [Expr.render]
  have hput : (Expr.call (.var valuesName) "put" [.text c.name, c.valueIn object]).render =
      "contentValues.put(" ++ Literal.quote c.name ++ ", " ++ (c.valueIn object).render ++ ")" := by
    apply String.toList_injective
    simp [Expr.render, valuesName, renderArguments]
  unfold store storeCalls
  split <;>
    simp [layoutAll, Stmt.layout, hcondition, hput, Layout.block_eq, Layout.statement_eq]

variable (e : Entity) (nonNull entity query : TypeName)

theorem layout_insert :
    (overriding nonNull "protected" query "mapToInsertQuery"
      [nonNullParam nonNull entity objectName] (insertBody e query)).layout =
      Call.stepsAll (insertCalls e nonNull.text entity.text query.text) :=
  layout_overriding (header_overriding ..) (layout_query ..)

theorem layout_update :
    (overriding nonNull "protected" query "mapToUpdateQuery"
      [nonNullParam nonNull entity objectName] (updateBody e query)).layout =
      Call.stepsAll (updateCalls e nonNull.text entity.text query.text) := by
  rw [updateCalls, ← map_builderCall_filter]
  exact layout_overriding (header_overriding ..) (layout_query ..)

theorem layout_values (values : TypeName) :
    (overriding nonNull "public" values "mapToContentValues"
      [nonNullParam nonNull entity objectName] (valuesBody e values)).layout =
      Call.stepsAll (valuesCalls e nonNull.text entity.text values.text) := by
  refine layout_overriding (header_overriding ..) ?_
  have hdeclare : (TypeUse.named values).render ++ " " ++ valuesName ++ " = " ++
      (Expr.construct values [.number e.columns.length]).render =
      values.text ++ " contentValues = new " ++ values.text ++ "(" ++
        toString e.columns.length ++ ")" := by
    apply String.toList_injective
    simp [Expr.render, TypeUse.render, valuesName, renderArguments]
  have hstores := layoutAll_flatMap e.columns _ storeCalls layout_store
  simp only [valuesBody, layoutAll_append, List.map_eq_flatMap, hstores, layoutAll, Stmt.layout,
    hdeclare, Call.stepsAll_append]
  rfl

theorem layout_unit (r : Runtime) : (unit r e).decl.layout = Call.stepsAll (calls r e) := by
  simp only [unit, calls]
  refine layout_extending ?_ ?_
  · simp only [Scope.refer_typeName]
    rfl
  · simp [layoutMembers, Member.layout, layout_insert, layout_update, layout_values,
      Layout.blank_eq]

end Put

namespace Get

theorem localTypes_typeName (cs : List Column) (s : Scope) :
    (localTypes s cs).2.typeName = s.typeName :=
  congrArg ClassName.simple (localTypes_declared cs s)

/-- A statement that is written as one line is guarded as that line. -/
theorem layout_guardNull (c : Column) {s : Stmt} {text : String}
    (h : s.layout = Layout.statement text) :
    (guardNull c s).layout = Call.stepsAll (guardedCalls c text) := by
  have hcondition : "if (" ++ (present c).render ++ ")" =
      "if (!cursor.isNull(" ++ (ColumnType.indexOf c.name).render ++ "))" := by
    apply String.toList_injective
    simp [present, Expr.render, ColumnType.cursor, renderArguments]
  unfold guardNull guardedCalls
  split <;>
    simp [layoutAll, Stmt.layout, hcondition, h, Layout.block_eq, Layout.statement_eq]

theorem layout_assign (c : Column) : layoutAll [assign c] = Call.stepsAll (assignCalls c) := by
  rw [layoutAll, layoutAll, List.append_nil, assign, assignCalls]
  refine layout_guardNull c ?_
  unfold Column.setIn
  cases c.getter <;> cases c.setter <;>
    simp [Stmt.layout, object, Expr.render, renderArguments, objectName]

theorem layout_readLocal (type : TypeUse) (c : Column) :
    layoutAll (readLocal type c) = Call.stepsAll (readCalls type c) := by
  unfold readLocal readCalls
  split
  · have hnull : type.render ++ " " ++ c.property ++ " = " ++ Expr.null.render =
        type.render ++ " " ++ c.property ++ " = null" := by
      apply String.toList_injective
      simp [Expr.render]
    rw [layoutAll, layoutAll, layoutAll, layout_guardNull c rfl, Stmt.layout, hnull,
      List.append_nil]
    rfl
  · simp [layoutAll, Stmt.layout, Layout.statement_eq]

theorem render_invoke (creator : Creator) (entity : TypeName) (locals : List (TypeUse × Column)) :
    (creator.invoke entity (locals.map fun (_, c) => .var c.property)).render =
      invocation creator entity.text (locals.map (·.2.property)) := by
  unfold Creator.invoke invocation
  cases creator.kind <;> simp [Expr.render, renderArguments_eq_join, Function.comp_def]

theorem layout_assignBody (e : Entity) (entity : TypeName) :
    layoutAll (assignBody e entity) =
      Call.stepsAll (assignAllCalls e entity.text ++ [.blank, .statement "return object"]) := by
  have hdeclare : (TypeUse.named entity).render ++ " " ++ objectName ++ " = " ++
      (Expr.construct entity []).render =
      entity.text ++ " object = new " ++ entity.text ++ "()" := by
    apply String.toList_injective
    simp [Expr.render, TypeUse.render, objectName, renderArguments]
  have hassigns := layoutAll_flatMap e.columns _ assignCalls layout_assign
  simp only [assignBody, assignAllCalls, layoutAll_append, List.map_eq_flatMap, hassigns, layoutAll,
    Stmt.layout, hdeclare, Call.stepsAll_append]
  rfl

theorem layout_createBody (creator : Creator) (entity : TypeName)
    (locals : List (TypeUse × Column)) :
    layoutAll (createBody creator entity locals) =
      Call.stepsAll (createCalls creator entity.text locals ++
        [.blank, .statement "return object"]) := by
  have hdeclare : (TypeUse.named entity).render ++ " " ++ objectName ++ " = " ++
      (creator.invoke entity (locals.map fun (_, c) => .var c.property)).render =
      entity.text ++ " object = " ++
        invocation creator entity.text (locals.map (·.2.property)) := by
    rw [render_invoke]
    apply String.toList_injective
    simp [TypeUse.render, objectName]
  have hreads := layoutAll_flatMap locals (fun l => readLocal l.1 l.2)
    (fun l => readCalls l.1 l.2) fun l => layout_readLocal l.1 l.2
  simp only [createBody, createCalls, layoutAll_append, hreads, layoutAll, Stmt.layout, hdeclare]
  simp only [Call.stepsAll_append, List.append_assoc]
  rfl

theorem layout_map (r : Runtime) {nonNull entity storage cursor : TypeName} {body : List Stmt}
    {build : List Call} (hbody : layoutAll body =
      Call.stepsAll (build ++ [.blank, .statement "return object"])) :
    (overriding nonNull "public" entity "mapFromCursor"
      [nonNullParam nonNull storage r.storageParameter, nonNullParam nonNull cursor cursorName]
      body).layout =
      Call.stepsAll (mapCalls r nonNull.text entity.text storage.text cursor.text build) := by
  refine layout_overriding (String.toList_injective ?_) hbody
  simp [Method.header, overriding, nonNullParam, Param.render, TypeUse.render, Text.join_cons_cons,
    Text.join_singleton, cursorName]

theorem layout_unit (r : Runtime) (e : Entity) :
    (unit r e).decl.layout = Call.stepsAll (calls r e) := by
  -- with a creator the unit refers to the types of the local variables as well
  cases h : e.activeCreator? with
  | some creator =>
    simp only [unit, calls, h]
    refine layout_extending ?_ (layout_map r (layout_createBody ..))
    simp only [localTypes_typeName, Scope.refer_typeName]
    rfl
  | none =>
    simp only [unit, calls, h]
    refine layout_extending ?_ (layout_map r (layout_assignBody ..))
    simp only [Scope.refer_typeName]
    rfl

end Get

theorem Delete.layout_query (e : Entity) (nonNull entity query : TypeName) :
    (overriding nonNull "protected" query "mapToDeleteQuery"
      [nonNullParam nonNull entity objectName] (deleteBody e query)).layout =
      Call.stepsAll (queryCalls e nonNull.text entity.text query.text) := by
  rw [queryCalls, ← map_builderCall_filter]
  exact layout_overriding (header_overriding ..) (Resolver.layout_query ..)

theorem Delete.layout_unit (r : Runtime) (e : Entity) :
    (unit r e).decl.layout = Call.stepsAll (calls r e) := by
  simp only [unit, calls]
  refine layout_extending ?_ (Delete.layout_query ..)
  simp only [Scope.refer_typeName]
  rfl

theorem Mapping.render_fresh (package name : String) :
    (fresh package name).render = "new " ++ name ++ "()" := by
  apply String.toList_injective
  simp [fresh, Expr.render, renderArguments]

theorem Mapping.layout_constructor (r : Runtime) (e : Entity) :
    (Method.mk none [] "public" none (r.mappingName e.name) []
      [.superCall ([r.putName e.name, r.getName e.name, r.deleteName e.name].map
        (fresh e.package))]).layout = Call.stepsAll (constructorCalls r e) := by
  refine layout_method (String.toList_injective ?_) ?_
  · simp [Method.header, Text.join]
  · simp [layoutAll, Stmt.layout, argumentLines, nested, render_fresh, Call.steps,
      Layout.statement]

theorem Mapping.layout_unit (r : Runtime) (e : Entity) :
    (unit r e).decl.layout = Call.stepsAll (calls r e) := by
  simp only [unit, calls]
  refine layout_extending ?_ (layout_constructor ..)
  simp only [Scope.refer_typeName]
  rfl

end Resolver

namespace TableClass

/-- Constants stand before other members, each with an empty line behind it. -/
theorem layoutMembers_constants (string : TypeName) (constants : List (String × String))
    (m : Member) (rest : List Member) :
    layoutMembers (constants.map (fun c => .constant string c.1 c.2) ++ m :: rest) =
      Call.stepsAll (constants.flatMap fun c => constantCalls string.text c.1 c.2) ++
        layoutMembers (m :: rest) := by
  induction constants with
  | nil => rfl
  | cons c constants ih =>
    -- a member follows, whatever the other constants are, so there is an empty line
    obtain ⟨next, members, hnext⟩ : ∃ next members,
        constants.map (fun c => .constant string c.1 c.2) ++ m :: rest = next :: members :=
      List.exists_cons_of_ne_nil (by simp)
    rw [hnext] at ih
    rw [List.map_cons, List.cons_append, hnext, layoutMembers, ih, List.flatMap_cons,
      Call.stepsAll_append, List.append_assoc]
    rfl

theorem layout_migrate (m : Migration) :
    layoutAll [migrate m] = Call.stepsAll (migrateCalls m) := by
  have hcondition : "if (" ++ (Expr.less (.var versionName) (.number m.version)).render ++ ")" =
      "if (oldVersion < " ++ toString m.version ++ ")" := by
    apply String.toList_injective
    simp [Expr.render, versionName]
  simp [migrate, migrateCalls, layoutAll, Stmt.layout, hcondition, Layout.block_eq, layout_execute]

theorem layout_migrations (ms : List Migration) :
    layoutAll (ms.map migrate) = Call.stepsAll (ms.flatMap migrateCalls) := by
  rw [List.map_eq_flatMap, layoutAll_flatMap ms _ migrateCalls layout_migrate]

theorem layout_procedure {name header : String} {params : List Param} {body : List Stmt}
    {calls : List Call}
    (hheader : "public static void " ++ name ++ "(" ++
      Text.join ", " (params.map Param.render) ++ ")" = header)
    (hbody : layoutAll body = Call.stepsAll calls) :
    (procedure name params body).layout =
      Call.stepsAll ([.beginBlock header] ++ calls ++ [.endBlock]) := by
  refine layout_method ?_ hbody
  rw [← hheader]
  apply String.toList_injective
  simp [Method.header, TypeUse.render]

variable (table : String) (e : Entity)

theorem layout_constructor :
    (Member.method (.mk none [] "private" none (className e.name) [] [])).layout =
      Call.stepsAll [.beginBlock ("private " ++ className e.name ++ "()"), .endBlock] := by
  have hbody : layoutAll (Method.mk none [] "private" none (className e.name) [] []).body =
      Call.stepsAll [] := rfl
  refine layout_method (String.toList_injective ?_) hbody
  simp [Method.header, Text.join]

theorem layout_createTable (database : TypeName) :
    (procedure "createTable" [⟨[], .named database, databaseName⟩]
      [execute (TableDef.ofColumns table e.columns).render]).layout =
      Call.stepsAll
        ([.beginBlock ("public static void createTable(" ++ database.text ++ " db)")] ++
          executeCalls (TableDef.ofColumns table e.columns).render ++ [.endBlock]) := by
  refine layout_procedure (String.toList_injective ?_) ?_
  · simp [Text.join_singleton, Param.render, TypeUse.render, databaseName]
  · rw [layoutAll, layoutAll, List.append_nil, layout_execute]

theorem layout_updateTable (database : TypeName) :
    (procedure "updateTable"
      [⟨[], .named database, databaseName⟩, ⟨[], .primitive "int", versionName⟩]
      ((Migration.ofColumns table e.columns).map migrate)).layout =
      Call.stepsAll
        ([.beginBlock ("public static void updateTable(" ++ database.text ++
            " db, int oldVersion)")] ++
          (Migration.ofColumns table e.columns).flatMap migrateCalls ++ [.endBlock]) := by
  refine layout_procedure (String.toList_injective ?_) (layout_migrations _)
  simp [Text.join_cons_cons, Text.join_singleton, Param.render, TypeUse.render, databaseName,
    versionName]

theorem layout_members (string database : TypeName) :
    layoutMembers
      (.constant string "NAME" table ::
          e.columns.map (fun c => .constant string (constantName c) c.name) ++
        [.method (.mk none [] "private" none (className e.name) [] []),
         procedure "createTable" [⟨[], .named database, databaseName⟩]
          [execute (TableDef.ofColumns table e.columns).render],
         procedure "updateTable"
          [⟨[], .named database, databaseName⟩, ⟨[], .primitive "int", versionName⟩]
          ((Migration.ofColumns table e.columns).map migrate)]) =
      Call.stepsAll (memberCalls table e string.text database.text) := by
  have hconstants := layoutMembers_constants string
    (("NAME", table) :: e.columns.map fun c => (constantName c, c.name))
  simp only [List.map_cons, List.map_map, Function.comp_def, List.flatMap_cons,
    List.flatMap_map] at hconstants
  rw [hconstants]
  simp [layoutMembers, layout_createTable, layout_updateTable, layout_constructor, memberCalls,
    Layout.blank_eq]

theorem layout_unit : (unit table e).decl.layout = Call.stepsAll (calls table e) := by
  simp only [unit, calls]
  refine layout_type (String.toList_injective ?_) (layout_members ..)
  simp [TypeDecl.header]

end TableClass

end ResolverGen
