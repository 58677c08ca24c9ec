/-
The Java that is generated, as trees.

A unit declares one type; its members are constants, methods and constructors, and their bodies are
lists of statements. Class names in the trees carry the class that they are meant to denote. Every
tree has one layout, and the layouts of statements and members are balanced.
-/
import ResolverGen.Code.Layout
import ResolverGen.Code.Literal
import ResolverGen.Code.Scope

namespace ResolverGen.Code

/-- An expression. -/
inductive Expr where
  | var (name : String)
  | null
  | text (value : String)
  | number (value : Nat)
  | field (target : Expr) (name : String)
  | call (target : Expr) (method : String) (arguments : List Expr)
  | callOn (type : TypeName) (method : String) (arguments : List Expr)
  | construct (type : TypeName) (arguments : List Expr)
  | equal (left right : Expr)
  | differ (left right : Expr)
  | less (left right : Expr)
  | negate (operand : Expr)
deriving Repr, Inhabited

mutual

/-- The text of an expression. -/
def Expr.render : Expr → String
  | .var name => name
  | .null => "null"
  | .text value => Literal.quote value
  | .number value => toString value
  | .field target name => target.render ++ "." ++ name
  | .call target method arguments =>
    target.render ++ "." ++ method ++ "(" ++ renderArguments arguments ++ ")"
  | .callOn type method arguments =>
    type.text ++ "." ++ method ++ "(" ++ renderArguments arguments ++ ")"
  | .construct type arguments => "new " ++ type.text ++ "(" ++ renderArguments arguments ++ ")"
  | .equal left right => left.render ++ " == " ++ right.render
  | .differ left right => left.render ++ " != " ++ right.render
  | .less left right => left.render ++ " < " ++ right.render
  | .negate operand => "!" ++ operand.render

/-- Arguments, separated by commas. -/
def renderArguments : List Expr → String
  | [] => ""
  | [e] => e.render
  | e :: f :: rest => e.render ++ ", " ++ renderArguments (f :: rest)

end

theorem renderArguments_eq_join (es : List Expr) :
    renderArguments es = Text.join ", " (es.map Expr.render) := by
  induction es with
  | nil => simp [renderArguments, Text.join]
  | cons e rest ih =>
    cases rest with
    | nil => simp [renderArguments, Text.join]
    | cons f rest => simp [renderArguments, Text.join, ih]

/-- The type of a variable, a parameter or a result. -/
inductive TypeUse where
  | primitive (text : String)
  | named (name : TypeName)
deriving DecidableEq, Repr, Inhabited

/-- The text of a type. -/
def TypeUse.render : TypeUse → String
  | .primitive text => text
  | .named name => name.text

/-- A statement. -/
inductive Stmt where
  | blank
  | run (e : Expr)
  | declare (type : TypeUse) (name : String) (value : Expr)
  | assign (target value : Expr)
  | give (value : Expr)
  /-- Runs the body if the condition holds. -/
  | guarded (condition : Expr) (body : List Stmt)
  /-- Gives what a builder builds after some calls, each on its own line. -/
  | giveBuilt (type : TypeName) (calls : List (String × List Expr))
  /-- Calls a method with the concatenation of some texts, each on its own line. -/
  | runWith (target : Expr) (method : String) (parts : List String)
  /-- Calls the constructor of the base class, each argument on its own line. -/
  | superCall (arguments : List Expr)
deriving Repr, Inhabited

/-- How far the lines of a long text stand behind the line that starts it. -/
def continuationLevels : Nat := 4

/-- Takes a number of levels around some steps. -/
def nested : Nat → List Layout.Step → List Layout.Step
  | 0, body => body
  | n + 1, body => .indent :: nested n body ++ [.unindent]

/-- The lines of a concatenation behind its first part. -/
def partLines : List String → List Layout.Step
  | [] => []
  | [last] => Layout.statement ("+ " ++ Literal.quote last ++ ")")
  | part :: parts => .line ("+ " ++ Literal.quote part) :: partLines parts

/-- The lines of the base constructor's arguments behind the first. -/
def argumentLines : List Expr → List Layout.Step
  | [] => []
  | [last] => Layout.statement (last.render ++ ")")
  | e :: rest => .line (e.render ++ ",") :: argumentLines rest

mutual

/-- The layout of a statement. -/
def Stmt.layout : Stmt → List Layout.Step
  | .blank => Layout.blank
  | .run e => Layout.statement e.render
  | .declare type name value =>
    Layout.statement (type.render ++ " " ++ name ++ " = " ++ value.render)
  | .assign target value => Layout.statement (target.render ++ " = " ++ value.render)
  | .give value => Layout.statement ("return " ++ value.render)
  | .guarded condition body =>
    Layout.block ("if (" ++ condition.render ++ ")") (layoutAll body)
  | .giveBuilt type calls =>
    .line ("return " ++ type.text ++ ".builder()") ::
      nested 1 (calls.map (fun (method, arguments) =>
          .line ("." ++ method ++ "(" ++ renderArguments arguments ++ ")")) ++
        Layout.statement ".build()")
  | .runWith _ _ [] => []
  | .runWith target method [only] =>
    Layout.statement (target.render ++ "." ++ method ++ "(" ++ Literal.quote only ++ ")")
  | .runWith target method (first :: rest) =>
    .line (target.render ++ "." ++ method ++ "(" ++ Literal.quote first) ::
      nested continuationLevels (partLines rest)
  | .superCall [] => Layout.statement "super()"
  | .superCall [only] => Layout.statement ("super(" ++ only.render ++ ")")
  | .superCall (first :: rest) =>
    .line ("super(" ++ first.render ++ ",") :: nested 1 (argumentLines rest)

/-- The layout of a list of statements. -/
def layoutAll : List Stmt → List Layout.Step
  | [] => []
  | s :: rest => s.layout ++ layoutAll rest

end

/-- A parameter of a method. -/
structure Param where
  annotations : List TypeName
  type : TypeUse
  name : String
deriving Repr, Inhabited

/-- The text of a parameter. -/
def Param.render (p : Param) : String :=
  String.join (p.annotations.map fun a => "@" ++ a.text ++ " ") ++ p.type.render ++ " " ++ p.name

/-- A method or, without a result, a constructor. -/
structure Method where
  comment : Option String
  annotations : List TypeName
  modifiers : String
  result : Option TypeUse
  name : String
  params : List Param
  body : List Stmt
deriving Repr, Inhabited

/-- The header of a method. -/
def Method.header (m : Method) : String :=
  m.modifiers ++ " " ++ ((m.result.map fun t => t.render ++ " ").getD "") ++ m.name ++ "(" ++
    Text.join ", " (m.params.map Param.render) ++ ")"

/-- The layout of a method. -/
def Method.layout (m : Method) : List Layout.Step :=
  ((m.comment.map Layout.comment).getD []) ++
    (m.annotations.map fun a => .line ("@" ++ a.text)) ++
    Layout.block m.header (layoutAll m.body)

/-- A member of a type. -/
inductive Member where
  | constant (type : TypeName) (name value : String)
  | method (m : Method)
deriving Repr, Inhabited

/-- The layout of a member. -/
def Member.layout : Member → List Layout.Step
  | .constant type name value =>
    Layout.statement
      ("public static final " ++ type.text ++ " " ++ name ++ " = " ++ Literal.quote value)
  | .method m => m.layout

/-- The layout of members, with an empty line between neighbours. -/
def layoutMembers : List Member → List Layout.Step
  | [] => []
  | [m] => m.layout
  | m :: n :: rest => m.layout ++ Layout.blank ++ layoutMembers (n :: rest)

/-- A class declaration, its base class with the class that it is applied to. -/
structure TypeDecl where
  comment : Option String
  modifiers : String
  name : String
  base : Option (TypeName × TypeName)
  members : List Member
deriving Repr, Inhabited

/-- The header of a class. -/
def TypeDecl.header (d : TypeDecl) : String :=
  d.modifiers ++ " class " ++ d.name ++
    ((d.base.map fun (base, entity) =>
      " extends " ++ base.text ++ "<" ++ entity.text ++ ">").getD "")

/-- The layout of a class. -/
def TypeDecl.layout (d : TypeDecl) : List Layout.Step :=
  ((d.comment.map Layout.comment).getD []) ++ Layout.block d.header (layoutMembers d.members)

/-- A compilation unit: the meaning of its names and the type that it declares. -/
structure SourceUnit where
  scope : Scope
  decl : TypeDecl
deriving Repr, Inhabited

/-- The qualified name of the declared type. -/
def SourceUnit.qualifiedName (u : SourceUnit) : String := u.scope.declared.qualified

/-- The text of a unit. -/
def SourceUnit.source (u : SourceUnit) : String :=
  u.scope.render (Layout.Page.blank.run u.decl.layout).text

open Layout (Balanced)

theorem Balanced.nested {body : List Layout.Step} (h : Balanced body) :
    (n : Nat) → Balanced (nested n body)
  | 0 => h
  | n + 1 => by
    have := Balanced.nest (Balanced.nested h n) .nil
    simpa [Code.nested] using this

theorem Balanced.lines (steps : List Layout.Step) (h : ∀ s ∈ steps, ∃ text, s = .line text) :
    Balanced steps := by
  induction steps with
  | nil => exact .nil
  | cons s rest ih =>
    obtain ⟨text, rfl⟩ := h s (by simp)
    exact .line text (ih fun s hs => h s (by simp [hs]))

theorem balanced_comment (text : String) : Balanced (Layout.comment text) := by
  apply Balanced.lines
  intro s hs
  simp only [Layout.comment, Layout.commentLine, List.mem_append, List.mem_cons, List.mem_map,
    List.not_mem_nil, or_false] at hs
  rcases hs with (rfl | ⟨line, _, rfl⟩) | rfl
  · exact ⟨_, rfl⟩
  · exact ⟨_, rfl⟩
  · exact ⟨_, rfl⟩

theorem balanced_partLines (parts : List String) : Balanced (partLines parts) := by
  induction parts with
  | nil => exact .nil
  | cons part parts ih =>
    cases parts with
    | nil => exact .line _ .nil
    | cons => exact .line _ ih

theorem balanced_argumentLines (es : List Expr) : Balanced (argumentLines es) := by
  induction es with
  | nil => exact .nil
  | cons e es ih =>
    cases es with
    | nil => exact .line _ .nil
    | cons => exact .line _ ih

end ResolverGen.Code
