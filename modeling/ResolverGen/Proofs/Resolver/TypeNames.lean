/-
The class names in generated units.

`typeNames` gives every place of a unit where the name of a class is written. All of these names but
two kinds have been asked for in the unit's scope (`asks_of_unit?`): the annotation of overriding
methods, which is written by its simple name whatever the scope gave for it, and the resolvers in a
mapping, which are named as what they are, classes of the unit's own package.

So a name stands for the class that it is meant to denote, except in two cases
(`resolve?_of_mem_accepted`): its class has a dot in its simple name, or it is that annotation and a
class of the same simple name, the entity's or the one that marks values, has asked before.
-/
import ResolverGen.Proofs.Code.Resolution
import ResolverGen.Proofs.Round.UnitNames

namespace ResolverGen

namespace Code

variable {n : TypeName}

mutual

/-- The names of classes in an expression. -/
def Expr.typeNames : Expr → List TypeName
  | .var _ => []
  | .null => []
  | .text _ => []
  | .number _ => []
  | .field target _ => target.typeNames
  | .call target _ arguments => target.typeNames ++ typeNamesOfAll arguments
  | .callOn type _ arguments => type :: typeNamesOfAll arguments
  | .construct type arguments => type :: typeNamesOfAll arguments
  | .equal left right => left.typeNames ++ right.typeNames
  | .differ left right => left.typeNames ++ right.typeNames
  | .less left right => left.typeNames ++ right.typeNames
  | .negate operand => operand.typeNames

/-- The names of classes in some expressions. -/
def typeNamesOfAll : List Expr → List TypeName
  | [] => []
  | e :: es => e.typeNames ++ typeNamesOfAll es

end

/-- The name of a class as a type. -/
def TypeUse.typeNames : TypeUse → List TypeName
  | .primitive _ => []
  | .named name => [name]

mutual

/-- The names of classes in a statement. -/
def Stmt.typeNames : Stmt → List TypeName
  | .blank => []
  | .run e => e.typeNames
  | .declare type _ value => type.typeNames ++ value.typeNames
  | .assign target value => target.typeNames ++ value.typeNames
  | .give value => value.typeNames
  | .guarded condition body => condition.typeNames ++ typeNamesInAll body
  | .giveBuilt type calls => type :: calls.flatMap fun (_, arguments) => typeNamesOfAll arguments
  | .runWith target _ _ => target.typeNames
  | .superCall arguments => typeNamesOfAll arguments

/-- The names of classes in some statements. -/
def typeNamesInAll : List Stmt → List TypeName
  | [] => []
  | s :: ss => s.typeNames ++ typeNamesInAll ss

end

/-- The names of classes in a parameter. -/
def Param.typeNames (p : Param) : List TypeName := p.annotations ++ p.type.typeNames

/-- The names of classes in a method. -/
def Method.typeNames (m : Method) : List TypeName :=
  m.annotations ++ m.result.toList.flatMap (·.typeNames) ++ m.params.flatMap (·.typeNames) ++
    typeNamesInAll m.body

/-- The names of classes in a member of a type. -/
def Member.typeNames : Member → List TypeName
  | .constant type _ _ => [type]
  | .method m => m.typeNames

/-- The names of classes in a unit. -/
def SourceUnit.typeNames (u : SourceUnit) : List TypeName :=
  u.decl.base.toList.flatMap (fun (base, entity) => [base, entity]) ++
    u.decl.members.flatMap (·.typeNames)

theorem typeNamesOfAll_eq_flatMap (es : List Expr) :
    typeNamesOfAll es = es.flatMap (·.typeNames) := by
  induction es with
  | nil => rfl
  | cons e es ih => rw [typeNamesOfAll, ih, List.flatMap_cons]

theorem typeNamesInAll_eq_flatMap (ss : List Stmt) :
    typeNamesInAll ss = ss.flatMap (·.typeNames) := by
  induction ss with
  | nil => rfl
  | cons s ss ih => rw [typeNamesInAll, ih, List.flatMap_cons]

theorem typeNamesInAll_append (ss ts : List Stmt) :
    typeNamesInAll (ss ++ ts) = typeNamesInAll ss ++ typeNamesInAll ts := by
  simp only [typeNamesInAll_eq_flatMap, List.flatMap_append]

theorem typeNamesInAll_map_eq_nil {α : Type} {f : α → Stmt} (h : ∀ x, (f x).typeNames = [])
    (xs : List α) : typeNamesInAll (xs.map f) = [] := by
  simp [typeNamesInAll_eq_flatMap, List.flatMap_map, h]

end Code

open Code

/-! ### Statements without names of classes -/

@[simp] theorem Column.typeNames_valueIn (c : Column) :
    (c.valueIn Resolver.object).typeNames = [] := by
  unfold Column.valueIn
  cases c.access <;> rfl

@[simp] theorem Column.typeNames_readCursor (c : Column) : c.readCursor.typeNames = [] := by
  unfold Column.readCursor ColumnType.read
  cases c.type <;> rfl

theorem Column.typeNames_setIn (c : Column) :
    (c.setIn Resolver.object c.readCursor).typeNames = [] := by
  have hassign : (Stmt.assign (.field Resolver.object c.elementName) c.readCursor).typeNames =
      [] := by
    simp [Stmt.typeNames, Expr.typeNames, Resolver.object]
  unfold Column.setIn
  cases c.setter with
  | none => exact hassign
  | some setter =>
    cases c.getter.isSome with
    | false => exact hassign
    | true => simp [Stmt.typeNames, Expr.typeNames, typeNamesOfAll, Resolver.object]

theorem Target.typeNames_call (t : Target) : typeNamesOfAll t.call.2 = [] := by
  cases t <;> rfl

theorem Filter.typeNames_calls (cs : List Column) :
    (Filter.byKeys cs Resolver.object).calls.flatMap
      (fun (_, arguments) => typeNamesOfAll arguments) = [] := by
  have hclause : typeNamesOfAll [(Filter.byKeys cs Resolver.object).clauseExpr] = [] := by
    unfold Filter.clauseExpr
    split <;> rfl
  have hvalues : typeNamesOfAll (Filter.byKeys cs Resolver.object).valueExprs = [] := by
    unfold Filter.valueExprs
    split
    · rfl
    · rw [typeNamesOfAll_eq_flatMap, Filter.values, Filter.byKeys, List.map_map, List.flatMap_map]
      simp
  simp [Filter.calls, hclause, hvalues]

namespace Resolver

theorem Put.typeNames_store (c : Column) : (Put.store c).typeNames = [] := by
  unfold Put.store
  dsimp only
  split <;> simp [Stmt.typeNames, Expr.typeNames, typeNamesOfAll, typeNamesInAll]

theorem Get.typeNames_guardNull (c : Column) (s : Stmt) :
    (Get.guardNull c s).typeNames = s.typeNames := by
  have hpresent : (Get.present c).typeNames = [] := rfl
  unfold Get.guardNull
  split
  · simp [Stmt.typeNames, typeNamesInAll, hpresent]
  · rfl

theorem Get.typeNames_assign (c : Column) : (Get.assign c).typeNames = [] := by
  rw [Get.assign, Get.typeNames_guardNull, Column.typeNames_setIn]

theorem Get.typeNames_readLocal (type : TypeUse) (c : Column) :
    typeNamesInAll (Get.readLocal type c) = type.typeNames := by
  unfold Get.readLocal
  split
  · simp [typeNamesInAll, Stmt.typeNames, Get.typeNames_guardNull, Expr.typeNames]
  · simp [typeNamesInAll, Stmt.typeNames]

end Resolver

theorem Creator.typeNames_invoke (creator : Creator) (entity : TypeName) (arguments : List Expr) :
    (creator.invoke entity arguments).typeNames = entity :: typeNamesOfAll arguments := by
  unfold Creator.invoke
  cases creator.kind <;> rfl

theorem TableClass.typeNames_execute (sql : String) : (TableClass.execute sql).typeNames = [] := rfl

theorem TableClass.typeNames_migrate (m : Migration) : (TableClass.migrate m).typeNames = [] := rfl

/-! ### The classes that ask for names -/

/-- The class of the variables of a column type, if they are objects. -/
def ColumnType.class? (t : ColumnType) : Option ClassName :=
  match t.written with
  | .word _ => none
  | .boxed simple => some ⟨"java.lang", simple⟩

/-- The classes that ask for names in a unit, in order. -/
def Entity.classesIn (e : Entity) (b : Backend) : UnitKind → List ClassName
  | .put =>
    [b.runtime.putResolver, e.className, e.nonNull, b.runtime.insertQuery, b.runtime.updateQuery,
     Resolver.Put.contentValuesClass, Resolver.overrideClass]
  | .get =>
    [b.runtime.getResolver, e.className, e.nonNull, b.runtime.storage, Resolver.Get.cursorClass,
     Resolver.overrideClass] ++
      (if e.activeCreator?.isSome then e.ordered.filterMap (·.type.class?) else [])
  | .delete =>
    [b.runtime.deleteResolver, e.className, e.nonNull, b.runtime.deleteQuery,
     Resolver.overrideClass]
  | .mapping => [b.runtime.typeMapping, e.className]
  | .table => [TableClass.stringClass, TableClass.databaseClass]

theorem Code.Scope.referAll_append (s : Scope) (cs ds : List ClassName) :
    s.referAll (cs ++ ds) =
      ((s.referAll cs).1 ++ ((s.referAll cs).2.referAll ds).1,
        ((s.referAll cs).2.referAll ds).2) := by
  induction cs generalizing s with
  | nil => rfl
  | cons c cs ih =>
    show ((s.refer c).1 :: ((s.refer c).2.referAll (cs ++ ds)).1,
      ((s.refer c).2.referAll (cs ++ ds)).2) = _
    rw [ih]
    rfl

/-- The classes of local variables ask for names one after the other. -/
theorem Resolver.Get.localTypes_eq (cs : List Column) (s : Scope) :
    (Resolver.Get.localTypes s cs).2 = (s.referAll (cs.filterMap (·.type.class?))).2 ∧
      (Resolver.Get.localTypes s cs).1.flatMap (·.1.typeNames) =
        (s.referAll (cs.filterMap (·.type.class?))).1 := by
  induction cs generalizing s with
  | nil => exact ⟨rfl, rfl⟩
  | cons c cs ih =>
    obtain ⟨hscope, hnames⟩ := ih (c.type.declare s).2
    show (Resolver.Get.localTypes (c.type.declare s).2 cs).2 = _ ∧
      (c.type.declare s).1.typeNames ++
        (Resolver.Get.localTypes (c.type.declare s).2 cs).1.flatMap (·.1.typeNames) = _
    rw [hscope, hnames]
    cases hwritten : c.type.written with
    | word text =>
      have hclasses : (c :: cs).filterMap (·.type.class?) = cs.filterMap (·.type.class?) := by
        refine List.filterMap_cons_none ?_
        rw [ColumnType.class?, hwritten]
      have hdeclare : c.type.declare s = (.primitive text, s) := by
        rw [ColumnType.declare, hwritten]
      rw [hdeclare, hclasses]
      exact ⟨rfl, rfl⟩
    | boxed simple =>
      have hclasses : (c :: cs).filterMap (·.type.class?) =
          ⟨"java.lang", simple⟩ :: cs.filterMap (·.type.class?) := by
        refine List.filterMap_cons_some ?_
        rw [ColumnType.class?, hwritten]
      have hdeclare : c.type.declare s = (.named (s.refer ⟨"java.lang", simple⟩).1,
          (s.refer ⟨"java.lang", simple⟩).2) := by
        rw [ColumnType.declare, hwritten]
      rw [hdeclare, hclasses]
      exact ⟨rfl, rfl⟩

/-! ### The names in each unit -/

namespace Resolver

variable {e : Entity} {n : TypeName} {scope : Scope} {comment : String}

theorem typeNames_nonNullParam (nonNull type : TypeName) (name : String) :
    (nonNullParam nonNull type name).typeNames = [nonNull, type] :=
  rfl

theorem typeNames_overriding (nonNull result : TypeName) (modifiers name : String)
    (params : List Param) (body : List Stmt) :
    (overriding nonNull modifiers result name params body).typeNames =
      overrideName :: nonNull :: result :: params.flatMap (·.typeNames) ++ typeNamesInAll body :=
  rfl

theorem typeNames_extending (scope : Scope) (comment : String) (base entity : TypeName)
    (members : List Member) :
    (extending scope comment base entity members).typeNames =
      base :: entity :: members.flatMap (·.typeNames) :=
  rfl

theorem Put.mem_typeNames {base entity nonNull insertQuery updateQuery values : TypeName}
    (hn : n ∈ (extending scope comment base entity
      [.method (overriding nonNull "protected" insertQuery "mapToInsertQuery"
          [nonNullParam nonNull entity objectName] (insertBody e insertQuery)),
       .method (overriding nonNull "protected" updateQuery "mapToUpdateQuery"
          [nonNullParam nonNull entity objectName] (updateBody e updateQuery)),
       .method (overriding nonNull "public" values "mapToContentValues"
          [nonNullParam nonNull entity objectName] (valuesBody e values))]).typeNames) :
    n ∈ [base, entity, nonNull, insertQuery, updateQuery, values] ∨ n = overrideName := by
  have hinsert : typeNamesInAll (insertBody e insertQuery) = [insertQuery] := by
    simp [insertBody, typeNamesInAll, Stmt.typeNames, Target.typeNames_call]
  have hupdate : typeNamesInAll (updateBody e updateQuery) = [updateQuery] := by
    simp [updateBody, typeNamesInAll, Stmt.typeNames, Target.typeNames_call,
      Filter.typeNames_calls]
  have hvalues : typeNamesInAll (valuesBody e values) = [values, values] := by
    rw [valuesBody, typeNamesInAll_append, typeNamesInAll_append,
      typeNamesInAll_map_eq_nil Put.typeNames_store]
    rfl
  simp only [typeNames_extending, List.flatMap_cons, List.flatMap_nil, Member.typeNames,
    typeNames_overriding, typeNames_nonNullParam, hinsert, hupdate, hvalues, List.mem_append,
    List.mem_cons, List.not_mem_nil, or_false] at hn
  simp only [List.mem_cons, List.not_mem_nil, or_false]
  tauto

theorem Delete.mem_typeNames {base entity nonNull query : TypeName}
    (hn : n ∈ (extending scope comment base entity
      [.method (overriding nonNull "protected" query "mapToDeleteQuery"
        [nonNullParam nonNull entity objectName] (deleteBody e query))]).typeNames) :
    n ∈ [base, entity, nonNull, query] ∨ n = overrideName := by
  have hdelete : typeNamesInAll (deleteBody e query) = [query] := by
    simp [deleteBody, typeNamesInAll, Stmt.typeNames, Target.typeNames_call,
      Filter.typeNames_calls]
  simp only [typeNames_extending, List.flatMap_cons, List.flatMap_nil, Member.typeNames,
    typeNames_overriding, typeNames_nonNullParam, hdelete, List.mem_append, List.mem_cons,
    List.not_mem_nil, or_false] at hn
  simp only [List.mem_cons, List.not_mem_nil, or_false]
  tauto

theorem Get.typeNames_assignBody (entity : TypeName) :
    typeNamesInAll (assignBody e entity) = [entity, entity] := by
  rw [assignBody, typeNamesInAll_append, typeNamesInAll_append,
    typeNamesInAll_map_eq_nil Get.typeNames_assign]
  rfl

/-- Besides the entity, a creator's call needs the types of the variables that it is called with. -/
theorem Get.mem_typeNames_createBody {creator : Creator} {entity : TypeName}
    {locals : List (TypeUse × Column)}
    (hn : n ∈ typeNamesInAll (createBody creator entity locals)) :
    n ∈ locals.flatMap (·.1.typeNames) ∨ n = entity := by
  have hlocals : typeNamesInAll (locals.flatMap fun l => readLocal l.1 l.2) =
      locals.flatMap (·.1.typeNames) := by
    rw [typeNamesInAll_eq_flatMap, List.flatMap_assoc]
    simp only [← typeNamesInAll_eq_flatMap, Get.typeNames_readLocal]
  have harguments : typeNamesOfAll (locals.map fun l => Expr.var l.2.property) = [] := by
    rw [typeNamesOfAll_eq_flatMap, List.flatMap_map]
    simp only [Expr.typeNames, List.flatMap_eq_nil_iff, implies_true]
  have hbody : createBody creator entity locals =
      .blank :: (locals.flatMap (fun l => readLocal l.1 l.2) ++
        [.blank,
         .declare (.named entity) objectName
           (creator.invoke entity (locals.map fun l => .var l.2.property)),
         .blank, .give object]) :=
    rfl
  rw [hbody, typeNamesInAll, typeNamesInAll_append, hlocals] at hn
  simp only [typeNamesInAll, Stmt.typeNames, TypeUse.typeNames, Creator.typeNames_invoke,
    harguments, object, Expr.typeNames, List.append_nil, List.nil_append, List.mem_append,
    List.mem_cons, List.not_mem_nil, or_false] at hn
  tauto

theorem Get.mem_typeNames {base entity nonNull storage cursor : TypeName} {parameter : String}
    {body : List Stmt}
    (hn : n ∈ (extending scope comment base entity
      [.method (overriding nonNull "public" entity "mapFromCursor"
        [nonNullParam nonNull storage parameter, nonNullParam nonNull cursor cursorName]
        body)]).typeNames) :
    n ∈ [base, entity, nonNull, storage, cursor] ∨ n = overrideName ∨
      n ∈ typeNamesInAll body := by
  simp only [typeNames_extending, List.flatMap_cons, List.flatMap_nil, Member.typeNames,
    typeNames_overriding, typeNames_nonNullParam, List.mem_append, List.mem_cons,
    List.not_mem_nil, or_false] at hn
  simp only [List.mem_cons, List.not_mem_nil, or_false]
  tauto

theorem Mapping.mem_typeNames {base entity : TypeName} {package name : String}
    {resolvers : List String}
    (hn : n ∈ (extending scope comment base entity
      [.method
        { comment := none, annotations := [], modifiers := "public", result := none, name
          params := []
          body := [.superCall (resolvers.map (fresh package))] }]).typeNames) :
    n ∈ [base, entity] ∨ ∃ resolver ∈ resolvers, n = ⟨resolver, ⟨package, resolver⟩⟩ := by
  have hfresh : typeNamesOfAll (resolvers.map (fresh package)) =
      resolvers.map fun resolver => ⟨resolver, ⟨package, resolver⟩⟩ := by
    rw [typeNamesOfAll_eq_flatMap, List.flatMap_map, List.map_eq_flatMap]
    rfl
  simp only [typeNames_extending, List.flatMap_cons, List.flatMap_nil, Member.typeNames,
    Method.typeNames, Option.toList_none, List.nil_append, typeNamesInAll, Stmt.typeNames, hfresh,
    List.append_nil, List.mem_cons, List.mem_map] at hn
  simp only [List.mem_cons, List.not_mem_nil, or_false]
  rcases hn with rfl | rfl | ⟨resolver, hresolver, rfl⟩
  · exact .inl (.inl rfl)
  · exact .inl (.inr rfl)
  · exact .inr ⟨resolver, hresolver, rfl⟩

end Resolver

/-- A table class names strings and databases only. -/
theorem TableClass.mem_typeNames {n string database : TypeName} {scope : Scope} {name table : String}
    {e : Entity}
    (hn : n ∈ (SourceUnit.mk scope
      { comment := none
        modifiers := "public final"
        name
        base := none
        members :=
          .constant string "NAME" table ::
              e.columns.map (fun c => Member.constant string (constantName c) c.name) ++
            [.method
              { comment := none, annotations := [], modifiers := "private", result := none, name
                params := [], body := [] },
             procedure "createTable" [⟨[], .named database, databaseName⟩]
              [execute (TableDef.ofColumns table e.columns).render],
             procedure "updateTable"
              [⟨[], .named database, databaseName⟩, ⟨[], .primitive "int", versionName⟩]
              ((Migration.ofColumns table e.columns).map migrate)] }).typeNames) :
    n ∈ [string, database] := by
  have hmigrate := typeNamesInAll_map_eq_nil TableClass.typeNames_migrate
    (Migration.ofColumns table e.columns)
  simp only [SourceUnit.typeNames, Option.toList_none, List.flatMap_nil, List.nil_append,
    List.cons_append, List.flatMap_cons, List.flatMap_append, List.flatMap_map, Member.typeNames,
    procedure, Method.typeNames, Param.typeNames, Option.toList_some, TypeUse.typeNames,
    typeNamesInAll, TableClass.typeNames_execute, hmigrate, List.append_nil, List.mem_cons,
    List.mem_append, List.mem_flatMap, List.not_mem_nil, or_false] at hn
  simp only [List.mem_cons, List.not_mem_nil, or_false]
  rcases hn with rfl | ⟨c, -, rfl⟩ | rfl | rfl
  · exact .inl rfl
  · exact .inl rfl
  · exact .inr rfl
  · exact .inr rfl

namespace Entity

variable (e : Entity) (b : Backend)

/-- The class that a unit of an entity declares. -/
def unitClass (k : UnitKind) : ClassName :=
  ⟨e.package, e.name ++ b.unitSuffix k⟩

/-- The scope of a new unit of an entity. -/
def start (k : UnitKind) : Scope := Scope.ofUnit e.package (e.name ++ b.unitSuffix k)

/-- The names that the classes of a unit get, and the scope behind them. -/
def asked (k : UnitKind) : List TypeName × Scope := (e.start b k).referAll (e.classesIn b k)

/-- What a unit is made of: the scope in which its classes have asked for names, those names, the
annotation of overriding methods, and other units of the entity. -/
structure Asks (k : UnitKind) (u : SourceUnit) : Prop where
  scope : u.scope = (e.asked b k).2
  names : ∀ n ∈ u.typeNames, n ∈ (e.asked b k).1 ∨
    n = Resolver.overrideName ∧ k ∉ [.mapping, .table] ∨
    k = .mapping ∧ ∃ k' ∈ [UnitKind.put, .get, .delete],
      n = ⟨(e.unitClass b k').simple, e.unitClass b k'⟩

theorem asks_put : e.Asks b .put (Resolver.Put.unit b.runtime e) := by
  have hname : b.runtime.putName e.name = e.name ++ b.unitSuffix .put := by
    rw [Runtime.putName, String.append_assoc]
    rfl
  rcases hbase : (e.start b .put).refer b.runtime.putResolver with ⟨base, s₁⟩
  rcases hentity : s₁.refer e.className with ⟨entity, s₂⟩
  rcases hnonNull : s₂.refer e.nonNull with ⟨nonNull, s₃⟩
  rcases hinsert : s₃.refer b.runtime.insertQuery with ⟨insertQuery, s₄⟩
  rcases hupdate : s₄.refer b.runtime.updateQuery with ⟨updateQuery, s₅⟩
  rcases hvalues : s₅.refer Resolver.Put.contentValuesClass with ⟨values, s₆⟩
  rcases hoverride : s₆.refer Resolver.overrideClass with ⟨override, s₇⟩
  have hasked : e.asked b .put =
      ([base, entity, nonNull, insertQuery, updateQuery, values, override], s₇) := by
    simp only [asked, classesIn, Scope.referAll, hbase, hentity, hnonNull, hinsert, hupdate,
      hvalues, hoverride]
  rw [start] at hbase
  unfold Resolver.Put.unit
  rw [hname]
  simp only [hbase, hentity, hnonNull, hinsert, hupdate, hvalues, hoverride]
  refine ⟨by rw [hasked]; rfl, fun n hn => ?_⟩
  rcases Resolver.Put.mem_typeNames hn with hmem | rfl
  · rw [hasked]
    exact .inl (List.mem_append_left [override] hmem)
  · exact .inr (.inl ⟨rfl, by decide⟩)

theorem asks_delete : e.Asks b .delete (Resolver.Delete.unit b.runtime e) := by
  have hname : b.runtime.deleteName e.name = e.name ++ b.unitSuffix .delete := by
    rw [Runtime.deleteName, String.append_assoc]
    rfl
  rcases hbase : (e.start b .delete).refer b.runtime.deleteResolver with ⟨base, s₁⟩
  rcases hentity : s₁.refer e.className with ⟨entity, s₂⟩
  rcases hnonNull : s₂.refer e.nonNull with ⟨nonNull, s₃⟩
  rcases hquery : s₃.refer b.runtime.deleteQuery with ⟨query, s₄⟩
  rcases hoverride : s₄.refer Resolver.overrideClass with ⟨override, s₅⟩
  have hasked : e.asked b .delete = ([base, entity, nonNull, query, override], s₅) := by
    simp only [asked, classesIn, Scope.referAll, hbase, hentity, hnonNull, hquery, hoverride]
  rw [start] at hbase
  unfold Resolver.Delete.unit
  rw [hname]
  simp only [hbase, hentity, hnonNull, hquery, hoverride]
  refine ⟨by rw [hasked]; rfl, fun n hn => ?_⟩
  rcases Resolver.Delete.mem_typeNames hn with hmem | rfl
  · rw [hasked]
    exact .inl (List.mem_append_left [override] hmem)
  · exact .inr (.inl ⟨rfl, by decide⟩)

theorem asks_get : e.Asks b .get (Resolver.Get.unit b.runtime e) := by
  have hname : b.runtime.getName e.name = e.name ++ b.unitSuffix .get := by
    rw [Runtime.getName, String.append_assoc]
    rfl
  rcases hbase : (e.start b .get).refer b.runtime.getResolver with ⟨base, s₁⟩
  rcases hentity : s₁.refer e.className with ⟨entity, s₂⟩
  rcases hnonNull : s₂.refer e.nonNull with ⟨nonNull, s₃⟩
  rcases hstorage : s₃.refer b.runtime.storage with ⟨storage, s₄⟩
  rcases hcursor : s₄.refer Resolver.Get.cursorClass with ⟨cursor, s₅⟩
  rcases hoverride : s₅.refer Resolver.overrideClass with ⟨override, s₆⟩
  -- behind these, the types of the variables ask for names if there are variables
  have hasked : e.asked b .get =
      ([base, entity, nonNull, storage, cursor, override] ++
          (s₆.referAll (if e.activeCreator?.isSome then e.ordered.filterMap (·.type.class?)
            else [])).1,
        (s₆.referAll (if e.activeCreator?.isSome then e.ordered.filterMap (·.type.class?)
          else [])).2) := by
    rw [asked, classesIn, Scope.referAll_append]
    simp only [Scope.referAll, hbase, hentity, hnonNull, hstorage, hcursor, hoverride]
  rw [start] at hbase
  unfold Resolver.Get.unit
  rw [hname]
  simp only [hbase, hentity, hnonNull, hstorage, hcursor, hoverride]
  cases hcreator : e.activeCreator? with
  | none =>
    rw [hcreator] at hasked
    dsimp only
    refine ⟨by rw [hasked]; rfl, fun n hn => ?_⟩
    rcases Resolver.Get.mem_typeNames hn with hmem | rfl | hbody
    · rw [hasked]
      exact .inl (List.mem_append_left [override] hmem)
    · exact .inr (.inl ⟨rfl, by decide⟩)
    · have hn : n = entity := by
        simpa [Resolver.Get.typeNames_assignBody] using hbody
      rw [hasked, hn]
      exact .inl (by simp)
  | some creator =>
    obtain ⟨hscope, hlocals⟩ := Resolver.Get.localTypes_eq e.ordered s₆
    rw [hcreator, Option.isSome_some, if_pos rfl, ← hscope, ← hlocals] at hasked
    dsimp only
    refine ⟨by rw [hasked]; rfl, fun n hn => ?_⟩
    rcases Resolver.Get.mem_typeNames hn with hmem | rfl | hbody
    · rw [hasked]
      exact .inl (List.mem_append_left _ (List.mem_append_left [override] hmem))
    · exact .inr (.inl ⟨rfl, by decide⟩)
    · rw [hasked]
      rcases Resolver.Get.mem_typeNames_createBody hbody with hmem | rfl
      · exact .inl (List.mem_append_right _ hmem)
      · exact .inl (by simp)

theorem asks_mapping : e.Asks b .mapping (Resolver.Mapping.unit b.runtime e) := by
  rcases hbase : (e.start b .mapping).refer b.runtime.typeMapping with ⟨base, s₁⟩
  rcases hentity : s₁.refer e.className with ⟨entity, s₂⟩
  have hasked : e.asked b .mapping = ([base, entity], s₂) := by
    simp only [asked, classesIn, Scope.referAll, hbase, hentity]
  have hstart : e.start b .mapping = Scope.ofUnit e.package (b.runtime.mappingName e.name) := rfl
  rw [hstart] at hbase
  unfold Resolver.Mapping.unit
  simp only [hbase, hentity]
  refine ⟨by rw [hasked]; rfl, fun n hn => ?_⟩
  rcases Resolver.Mapping.mem_typeNames hn with hmem | ⟨resolver, hresolver, rfl⟩
  · rw [hasked]
    exact .inl hmem
  · have hkind : ∃ k ∈ [UnitKind.put, .get, .delete], resolver = e.name ++ b.unitSuffix k := by
      simp only [Runtime.putName, Runtime.getName, Runtime.deleteName, String.append_assoc,
        List.mem_cons, List.not_mem_nil, or_false] at hresolver
      rcases hresolver with rfl | rfl | rfl
      · exact ⟨.put, by decide, rfl⟩
      · exact ⟨.get, by decide, rfl⟩
      · exact ⟨.delete, by decide, rfl⟩
    obtain ⟨k, hk, rfl⟩ := hkind
    exact .inr (.inr ⟨rfl, k, hk, rfl⟩)

theorem asks_table (table : String) : e.Asks b .table (TableClass.unit table e) := by
  rcases hstring : (e.start b .table).refer TableClass.stringClass with ⟨string, s₁⟩
  rcases hdatabase : s₁.refer TableClass.databaseClass with ⟨database, s₂⟩
  have hasked : e.asked b .table = ([string, database], s₂) := by
    simp only [asked, classesIn, Scope.referAll, hstring, hdatabase]
  have hstart : e.start b .table = Scope.ofUnit e.package (TableClass.className e.name) := rfl
  rw [hstart] at hstring
  unfold TableClass.unit
  simp only [hstring, hdatabase]
  refine ⟨by rw [hasked], fun n hn => ?_⟩
  rw [hasked]
  exact .inl (TableClass.mem_typeNames hn)

/-- **Every name in a unit has been asked for, but for two kinds.** -/
theorem asks_of_unit? {b : Backend} {e : Entity} {k : UnitKind} {u : SourceUnit}
    (h : e.unit? b k = some u) : e.Asks b k u := by
  cases k with
  | put => exact Option.some.inj h ▸ e.asks_put b
  | get => exact Option.some.inj h ▸ e.asks_get b
  | delete => exact Option.some.inj h ▸ e.asks_delete b
  | mapping => exact Option.some.inj h ▸ e.asks_mapping b
  | table =>
    obtain ⟨table, -, rfl⟩ := Option.map_eq_some_iff.1 h
    exact e.asks_table b table

end Entity

/-! ### What the names stand for -/

/-- The library's classes in the units of a backend. -/
def Backend.libraryClasses (b : Backend) : List ClassName :=
  [b.runtime.putResolver, b.runtime.getResolver, b.runtime.deleteResolver, b.runtime.storage,
   b.runtime.insertQuery, b.runtime.updateQuery, b.runtime.deleteQuery, b.runtime.typeMapping,
   Resolver.Put.contentValuesClass, Resolver.Get.cursorClass, Resolver.overrideClass,
   TableClass.stringClass, TableClass.databaseClass] ++ ColumnType.all.filterMap (·.class?)

/-- Each of them is in a package and has a simple name without dots; none has the simple name of the
annotation of overriding methods but that itself. -/
theorem Backend.of_libraryClasses {b : Backend} {c : ClassName} (h : c ∈ b.libraryClasses) :
    c.package ≠ "" ∧ ¬IsDotted c.simple ∧
      (c.simple = Resolver.overrideClass.simple → c = Resolver.overrideClass) := by
  have hall : ∀ b ∈ Backend.all, ∀ c ∈ b.libraryClasses, c.package ≠ "" ∧ ¬IsDotted c.simple ∧
      (c.simple = Resolver.overrideClass.simple → c = Resolver.overrideClass) := by
    decide +kernel
  exact hall b b.mem_all c h

/-- No name of a unit is one of the library's simple names. -/
theorem Backend.append_unitSuffix_ne {b : Backend} {c : ClassName} (h : c ∈ b.libraryClasses)
    (name : String) {k : UnitKind}
    (hk : k ∈ [UnitKind.put, .get, .delete] ∨ c = Resolver.overrideClass) :
    name ++ b.unitSuffix k ≠ c.simple := by
  have hall : ∀ b ∈ Backend.all, ∀ k ∈ UnitKind.all, ∀ c ∈ b.libraryClasses,
      k ∈ [UnitKind.put, .get, .delete] ∨ c = Resolver.overrideClass →
        ¬(b.unitSuffix k).toList <:+ c.simple.toList := by
    decide +kernel
  intro heq
  refine hall b b.mem_all k k.mem_all c h hk ?_
  rw [← heq, String.toList_append]
  exact List.suffix_append _ _

namespace Entity

variable {b : Backend} {e : Entity} {k : UnitKind} {c : ClassName} {u : SourceUnit} {n : TypeName}

theorem mem_classesIn (h : c ∈ e.classesIn b k) :
    c = e.className ∨ c = e.nonNull ∨ c ∈ b.libraryClasses := by
  have hlocal (cs : List Column) (hc : c ∈ cs.filterMap (·.type.class?)) :
      c ∈ b.libraryClasses := by
    obtain ⟨column, -, hclass⟩ := List.mem_filterMap.1 hc
    refine List.mem_append_right _ (List.mem_filterMap.2 ⟨column.type, ?_, hclass⟩)
    cases column.type <;> decide
  cases k with
  | get =>
    rcases List.mem_append.1 h with hfixed | hvariable
    · simp only [List.mem_cons, List.not_mem_nil, or_false] at hfixed
      rcases hfixed with rfl | rfl | rfl | rfl | rfl | rfl <;> simp [Backend.libraryClasses]
    · split at hvariable
      · exact .inr (.inr (hlocal _ hvariable))
      · exact absurd hvariable List.not_mem_nil
  | put =>
    simp only [classesIn, List.mem_cons, List.not_mem_nil, or_false] at h
    rcases h with rfl | rfl | rfl | rfl | rfl | rfl | rfl <;> simp [Backend.libraryClasses]
  | delete =>
    simp only [classesIn, List.mem_cons, List.not_mem_nil, or_false] at h
    rcases h with rfl | rfl | rfl | rfl | rfl <;> simp [Backend.libraryClasses]
  | mapping =>
    simp only [classesIn, List.mem_cons, List.not_mem_nil, or_false] at h
    rcases h with rfl | rfl <;> simp [Backend.libraryClasses]
  | table =>
    simp only [classesIn, List.mem_cons, List.not_mem_nil, or_false] at h
    rcases h with rfl | rfl <;> simp [Backend.libraryClasses]

/-- The first class of the simple name of the annotation of overriding methods, where the entity's
class asks for its name first and the class that marks values next. -/
def firstOverride? (e : Entity) : Option ClassName :=
  firstNamed? Resolver.overrideClass.simple [e.className, e.nonNull, Resolver.overrideClass]

/-- Every resolver asks for names in the same order: its base, the entity, the class that marks
values, and classes of the library, among them the annotation. -/
theorem classesIn_resolver (e : Entity) (b : Backend) (hk : k ∉ [UnitKind.mapping, .table]) :
    ∃ base rest, e.classesIn b k = base :: e.className :: e.nonNull :: rest ∧
      base.simple ≠ Resolver.overrideClass.simple ∧ Resolver.overrideClass ∈ rest := by
  cases k with
  | put => exact ⟨_, _, rfl, by cases b <;> decide, by simp⟩
  | get => exact ⟨_, _, rfl, by cases b <;> decide, by simp⟩
  | delete => exact ⟨_, _, rfl, by cases b <;> decide, by simp⟩
  | mapping => exact absurd (by decide) hk
  | table => exact absurd (by decide) hk

/-- The first class of that simple name gets it in every resolver. -/
theorem firstNamed?_override (hk : k ∉ [UnitKind.mapping, .table]) :
    firstNamed? Resolver.overrideClass.simple (e.unitClass b k :: e.classesIn b k) =
      e.firstOverride? := by
  have hmem : Resolver.overrideClass ∈ b.libraryClasses := by simp [Backend.libraryClasses]
  have hunit : (e.unitClass b k).simple ≠ Resolver.overrideClass.simple :=
    Backend.append_unitSuffix_ne hmem e.name (.inr rfl)
  obtain ⟨base, rest, hclasses, hbase, hrest⟩ := e.classesIn_resolver b hk
  have hbehind : firstNamed? Resolver.overrideClass.simple ([e.className, e.nonNull] ++ rest) =
      e.firstOverride? := by
    show _ = firstNamed? _ ([e.className, e.nonNull] ++ [Resolver.overrideClass])
    rw [firstNamed?_append, firstNamed?_append]
    cases hfirst : firstNamed? Resolver.overrideClass.simple [e.className, e.nonNull] with
    | some first => rfl
    | none =>
      -- what is behind the two is the library's, or one of the two
      obtain ⟨first, hfound⟩ := exists_firstNamed? hrest
      have hin : first ∈ e.classesIn b k := by
        rw [hclasses]
        simp [List.mem_of_find?_eq_some hfound]
      have hnamed := simple_of_firstNamed? hfound
      have hnot : ∀ c ∈ [e.className, e.nonNull], c.simple ≠ Resolver.overrideClass.simple := by
        simpa [firstNamed?, List.find?_eq_none] using hfirst
      have heq : first = Resolver.overrideClass := by
        rcases mem_classesIn hin with rfl | rfl | hlibrary
        · exact absurd hnamed (hnot _ (by simp))
        · exact absurd hnamed (hnot _ (by simp))
        · exact (Backend.of_libraryClasses hlibrary).2.2 hnamed
      rw [hfound, heq]
      rfl
  rw [← hbehind, hclasses]
  have hskip {c : ClassName} {cs : List ClassName}
      (hc : c.simple ≠ Resolver.overrideClass.simple) :
      firstNamed? Resolver.overrideClass.simple (c :: cs) =
        firstNamed? Resolver.overrideClass.simple cs :=
    List.find?_cons_of_neg (by simpa using hc)
  rw [hskip hunit, hskip hbase]
  rfl

/-- What the classes of a unit are like, where the entity and the class that marks values are in
packages: all can be imported, and only the entity's can have a dot in its simple name. -/
theorem importable_classesIn (hclass : e.package ≠ "") (hmark : e.nonNull.package ≠ "")
    (hdot : ¬IsDotted e.nonNull.simple) :
    Scope.Importable e.package (e.unitClass b k :: e.classesIn b k) ∧
      ∀ c ∈ e.classesIn b k, IsDotted c.simple → c = e.className := by
  have hmem : ∀ c ∈ e.classesIn b k, c.package ≠ "" ∧ (IsDotted c.simple → c = e.className) := by
    intro c hc
    rcases mem_classesIn hc with rfl | rfl | hlibrary
    · exact ⟨hclass, fun _ => rfl⟩
    · exact ⟨hmark, fun hdotted => absurd hdotted hdot⟩
    · obtain ⟨hpackage, hnodot, -⟩ := Backend.of_libraryClasses hlibrary
      exact ⟨hpackage, fun hdotted => absurd hdotted hnodot⟩
  refine ⟨fun c hc => ?_, fun c hc => (hmem c hc).2⟩
  rcases List.mem_cons.1 hc with rfl | hc
  · exact ⟨hclass, fun _ => rfl⟩
  · refine ⟨(hmem c hc).1, fun hdotted => ?_⟩
    rw [(hmem c hc).2 hdotted]
    rfl

/-- Only the entity itself can get a name with a dot, and it gets its own. -/
theorem firstNamed?_dotted (hclass : e.package ≠ "") (hmark : e.nonNull.package ≠ "")
    (hdot : ¬IsDotted e.nonNull.simple) (hc : c ∈ e.classesIn b k) (hdotted : IsDotted c.simple) :
    firstNamed? c.simple (e.unitClass b k :: e.classesIn b k) = some c := by
  obtain ⟨-, honly⟩ := importable_classesIn (b := b) (k := k) hclass hmark hdot
  obtain ⟨first, hfirst⟩ := exists_firstNamed? (List.mem_cons_of_mem (e.unitClass b k) hc)
  have hsimple := simple_of_firstNamed? hfirst
  rw [hfirst, honly c hc hdotted]
  rcases List.mem_cons.1 (List.mem_of_find?_eq_some hfirst) with rfl | hmem
  · -- the unit is not named like the entity
    have hempty : (b.unitSuffix k).length = 0 := by
      have hlength := congrArg String.length hsimple
      rw [honly c hc hdotted, unitClass, String.length_append] at hlength
      exact Nat.add_eq_left.1 hlength
    have hall : ∀ b ∈ Backend.all, ∀ k ∈ UnitKind.all, (b.unitSuffix k).length ≠ 0 := by
      decide +kernel
    exact absurd hempty (hall b b.mem_all k k.mem_all)
  · rw [honly first hmem (hsimple ▸ hdotted)]

section Resolution

variable (hclass : e.package ≠ "") (hmark : e.nonNull.package ≠ "")
  (hdot : ¬IsDotted e.nonNull.simple) {s : Scope} (hpackage : s.package = e.package)
  (hgives : s.Gives (e.unitClass b k :: e.classesIn b k))

include hclass hmark hdot hpackage hgives

/-- The annotation of overriding methods stands for the first class of its simple name. -/
theorem resolve?_override (hk : k ∉ [UnitKind.mapping, .table]) :
    s.resolve? Resolver.overrideName.text = some Resolver.overrideClass.qualified ↔
      e.firstOverride? = some Resolver.overrideClass := by
  have himportable := (importable_classesIn (b := b) (k := k) hclass hmark hdot).1
  have hmem : Resolver.overrideClass ∈ e.classesIn b k := by
    obtain ⟨base, rest, hclasses, -, hrest⟩ := e.classesIn_resolver b hk
    rw [hclasses]
    simp [hrest]
  obtain ⟨first, hfirst⟩ := exists_firstNamed? (List.mem_cons_of_mem (e.unitClass b k) hmem)
  rw [← hpackage] at himportable
  have hnodot : ¬IsDotted Resolver.overrideName.text := by decide
  rw [hgives.resolve?_eq himportable.plainOutside hnodot, ← firstNamed?_override hk]
  show some ((firstNamed? Resolver.overrideClass.simple _).getD _).qualified = _ ↔ _
  rw [hfirst, Option.getD_some, Option.some.injEq, Option.some.injEq]
  exact ⟨fun hqualified => ClassName.eq_of_qualified_eq (simple_of_firstNamed? hfirst) hqualified,
    fun heq => congrArg _ heq⟩

/-- A name that has been asked for stands for its class, unless it has a dot by itself. -/
theorem resolve?_asked (hc : c ∈ e.classesIn b k) :
    s.resolve? (nameAmong (e.unitClass b k :: e.classesIn b k) c).text = some c.qualified ↔
      ¬IsDotted c.simple := by
  have himportable := (importable_classesIn (b := b) (k := k) hclass hmark hdot).1
  have hmem := List.mem_cons_of_mem (e.unitClass b k) hc
  have hpackaged := (himportable c hmem).1
  rw [← hpackage] at himportable
  rw [hgives.resolve?_nameAmong himportable.plainOutside hmem hpackaged]
  constructor
  · rintro (hnodot | hfirst) hdotted
    · exact hnodot hdotted
    · exact hfirst (firstNamed?_dotted hclass hmark hdot hc hdotted)
  · exact .inl

/-- A resolver in a mapping stands for the class of its name in the mapping's package. -/
theorem resolve?_resolver {k' : UnitKind} (hk : k = .mapping)
    (hk' : k' ∈ [UnitKind.put, .get, .delete]) :
    s.resolve? (e.unitClass b k').simple = some (e.unitClass b k').qualified ↔
      ¬IsDotted (e.unitClass b k').simple := by
  have himportable := (importable_classesIn (b := b) (k := k) hclass hmark hdot).1
  rw [← hpackage] at himportable
  by_cases hdotted : IsDotted (e.unitClass b k').simple
  · rw [Scope.resolve?, if_pos hdotted, Option.some.injEq]
    simp only [hdotted, not_true_eq_false, iff_false]
    exact ClassName.simple_ne_qualified (c := e.unitClass b k') hclass
  · rw [hgives.resolve?_eq himportable.plainOutside hdotted, hpackage]
    simp only [hdotted, not_false_eq_true, iff_true, Option.some.injEq]
    cases hfirst : firstNamed? (e.unitClass b k').simple
        (e.unitClass b k :: e.classesIn b k) with
    | none => rfl
    | some first =>
      -- the other classes of a mapping are in its package, and its base is named otherwise
      have hsimple := simple_of_firstNamed? hfirst
      have hmem := List.mem_of_find?_eq_some hfirst
      subst hk
      simp only [classesIn, List.mem_cons, List.not_mem_nil, or_false] at hmem
      rcases hmem with rfl | rfl | rfl
      · rw [Option.getD_some]
        exact congrArg (fun simple => (ClassName.mk e.package simple).qualified) hsimple
      · have hlibrary : b.runtime.typeMapping ∈ b.libraryClasses := by
          simp [Backend.libraryClasses]
        exact absurd hsimple.symm (Backend.append_unitSuffix_ne hlibrary e.name (.inl hk'))
      · rw [Option.getD_some]
        exact congrArg (fun simple => (ClassName.mk e.package simple).qualified) hsimple

end Resolution

/-- The annotation gets its simple name only if it is the first class of that name. -/
theorem firstOverride?_of_asked (hc : c ∈ e.classesIn b k)
    (hn : nameAmong (e.unitClass b k :: e.classesIn b k) c = Resolver.overrideName) :
    e.firstOverride? = some Resolver.overrideClass := by
  have hc' := List.mem_cons_of_mem (e.unitClass b k) hc
  obtain rfl : c = Resolver.overrideClass := by
    rw [← denotes_nameAmong (e.unitClass b k :: e.classesIn b k) c, hn]
    rfl
  have hfirst : firstNamed? Resolver.overrideClass.simple
      (e.unitClass b k :: e.classesIn b k) = some Resolver.overrideClass := by
    by_contra hnot
    rw [Scope.nameAmong_of_not_first hc' hnot] at hn
    exact absurd (congrArg (·.text) hn) (by decide)
  by_cases hk : k ∈ [UnitKind.mapping, .table]
  · -- these units ask for no annotation, so that it has to be the entity itself
    have hentity : e.className = Resolver.overrideClass := by
      simp only [List.mem_cons, List.not_mem_nil, or_false] at hk
      rcases hk with rfl | rfl
      · simp only [classesIn, List.mem_cons, List.not_mem_nil, or_false] at hc
        rcases hc with hbase | hentity
        · exact absurd hbase (by cases b <;> decide)
        · exact hentity.symm
      · have hnone : Resolver.overrideClass ∉
            [TableClass.stringClass, TableClass.databaseClass] := by
          decide
        exact absurd hc hnone
    rw [firstOverride?, hentity]
    exact List.find?_cons_of_pos (by decide)
  · rw [← firstNamed?_override hk, hfirst]

/-- **What the names in a unit stand for.** -/
theorem resolve?_of_unit? (hclass : e.package ≠ "") (hmark : e.nonNull.package ≠ "")
    (hdot : ¬IsDotted e.nonNull.simple) (hu : e.unit? b k = some u) (hn : n ∈ u.typeNames) :
    u.scope.resolve? n.text = some n.denotes.qualified ↔
      ¬IsDotted n.denotes.simple ∧
        (n = Resolver.overrideName → e.firstOverride? = some Resolver.overrideClass) := by
  obtain ⟨hscope, hnames⟩ := asks_of_unit? hu
  obtain ⟨hgives, hasked⟩ :=
    (Scope.gives_ofUnit e.package (e.name ++ b.unitSuffix k)).referAll (e.classesIn b k)
  have hpackage : u.scope.package = e.package := congrArg (·.package) (declared_of_unit? hu)
  replace hgives : u.scope.Gives (e.unitClass b k :: e.classesIn b k) := hscope ▸ hgives
  rcases hnames n hn with hmem | ⟨rfl, hk⟩ | ⟨hk, k', hk', rfl⟩
  · rw [asked, start, hasked] at hmem
    obtain ⟨c, hc, rfl⟩ := List.mem_map.1 hmem
    rw [denotes_nameAmong]
    refine (resolve?_asked hclass hmark hdot hpackage hgives hc).trans ?_
    refine ⟨fun hnodot => ⟨hnodot, fun hoverride => ?_⟩, And.left⟩
    exact firstOverride?_of_asked hc hoverride
  · have hnodot : ¬IsDotted Resolver.overrideClass.simple := by decide
    show u.scope.resolve? _ = some Resolver.overrideClass.qualified ↔
      ¬IsDotted Resolver.overrideClass.simple ∧ _
    rw [resolve?_override hclass hmark hdot hpackage hgives hk]
    simp [hnodot]
  · refine (resolve?_resolver hclass hmark hdot hpackage hgives hk hk').trans ?_
    refine ⟨fun hnodot => ⟨hnodot, fun hoverride => ?_⟩, And.left⟩
    have hmem : Resolver.overrideClass ∈ b.libraryClasses := by simp [Backend.libraryClasses]
    exact absurd (congrArg (·.text) hoverride)
      (Backend.append_unitSuffix_ne hmem e.name (.inr rfl))

end Entity

namespace Processor

variable {p : Processor} {m : Model} {e : Entity} {u : SourceUnit} {n : TypeName}

/-- What an accepted entity has from the settings. -/
theorem nonNull_of_mem_accepted (h : e ∈ p.accepted m) : e.nonNull = p.nonNullMark m := by
  obtain ⟨c, hcollect, -, hmem⟩ := exists_collection_of_mem_accepted h
  obtain ⟨bare, hbare, hentity⟩ := ((Model.collect_gathers hcollect).gathers e hmem).ofClass
  obtain ⟨config, -, -, rfl⟩ := Model.entity_ok hbare
  exact congrArg (·.nonNull) hentity

/-- **A name in a unit of a class in a package stands for the class that it is meant to denote, just
if that has no dot in its simple name and no other class of that name hides it.** Only the annotation
of overriding methods can be hidden. -/
theorem resolve?_of_mem_accepted (h : e ∈ p.accepted m) (hclass : m.packageOf e.element ≠ "")
    (hmark : (p.nonNullMark m).package ≠ "") (hu : u ∈ e.units p.backend)
    (hn : n ∈ u.typeNames) :
    u.scope.resolve? n.text = some n.denotes.qualified ↔
      ¬IsDotted n.denotes.simple ∧
        (n = Resolver.overrideName → e.firstOverride? = some Resolver.overrideClass) := by
  have hpackage : e.package = m.packageOf e.element :=
    congrArg (·.package) (className_of_mem_accepted h).2.2
  have hnonNull := nonNull_of_mem_accepted h
  obtain ⟨k, hk⟩ := Entity.exists_unit? hu
  refine Entity.resolve?_of_unit? (hpackage ▸ hclass) (hnonNull ▸ hmark) ?_ hk hn
  rw [hnonNull]
  exact ClassName.not_isDotted_ofQualified _

/-! ### A class of the annotation's name -/

/-- A class of some name with one field, which is its key. -/
def keyedModel (name : String) : Model :=
  ⟨[], [Element.ofKind .package "com.test",
    { Element.ofKind .classType name with
      enclosing := some 0
      annotations := [⟨"StorIOSQLiteType", some "table = \"things\""⟩] },
    { Element.ofKind .field "id" with
      enclosing := some 1
      type := some "long"
      annotations := [⟨"StorIOSQLiteColumn", some "name = \"_id\", key = true"⟩] }]⟩

/-- The annotation is written in the delete resolver of every class. -/
theorem overrideName_mem_typeNames (r : Runtime) (e : Entity) :
    Resolver.overrideName ∈ (Resolver.Delete.unit r e).typeNames := by
  unfold Resolver.Delete.unit
  simp [Resolver.typeNames_extending, Member.typeNames, Resolver.typeNames_overriding]

theorem resolve?_keyedModel : ∃ e ∈ (initial .sqlite .unset).accepted (keyedModel "User"),
    ∃ u ∈ e.units .sqlite, Resolver.overrideName ∈ u.typeNames ∧
      u.scope.resolve? "Override" = some "java.lang.Override" := by
  have haccepted : ((initial .sqlite .unset).accepted (keyedModel "User")).map
      (fun e => (e.element, e.firstOverride?)) = [(1, some Resolver.overrideClass)] := by
    decide +kernel
  obtain ⟨e, he, hparts⟩ := List.map_eq_singleton_iff.1 haccepted
  rw [Prod.mk.injEq] at hparts
  have hmem : e ∈ (initial .sqlite .unset).accepted (keyedModel "User") := by
    rw [he]
    exact List.mem_singleton_self e
  have hunit : Resolver.Delete.unit Backend.sqlite.runtime e ∈ e.units .sqlite := by
    simp [Entity.units]
  have hn := overrideName_mem_typeNames Backend.sqlite.runtime e
  refine ⟨e, hmem, _, hunit, hn, ?_⟩
  exact (resolve?_of_mem_accepted hmem (by rw [hparts.1]; decide +kernel) (by decide +kernel) hunit
    hn).2 ⟨by decide, fun _ => hparts.2⟩

/-- In a class of that name the annotation stands for the class itself. -/
theorem resolve?_keyedModel_override :
    (keyedModel "Override").packageOf 1 ≠ "" ∧
      ((initial .sqlite .unset).nonNullMark (keyedModel "Override")).package ≠ "" ∧
      ∃ e ∈ (initial .sqlite .unset).accepted (keyedModel "Override"), e.element = 1 ∧
        ∃ u ∈ e.units .sqlite, ∃ n ∈ u.typeNames, n.denotes = Resolver.overrideClass ∧
          u.scope.resolve? n.text = some "com.test.Override" := by
  have haccepted : ((initial .sqlite .unset).accepted (keyedModel "Override")).map
      (fun e => (e.element,
        (Resolver.Delete.unit Backend.sqlite.runtime e).scope.resolve? "Override")) =
      [(1, some "com.test.Override")] := by
    decide +kernel
  obtain ⟨e, he, hparts⟩ := List.map_eq_singleton_iff.1 haccepted
  rw [Prod.mk.injEq] at hparts
  refine ⟨by decide +kernel, by decide +kernel, e, by rw [he]; exact List.mem_singleton_self e,
    hparts.1, _, ?_, _, overrideName_mem_typeNames Backend.sqlite.runtime e, rfl, hparts.2⟩
  simp [Entity.units]

end Processor

end ResolverGen
