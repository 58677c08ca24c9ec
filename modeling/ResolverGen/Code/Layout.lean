/-
Indented text.

A layout is a list of steps: a line, or a change of depth. Running it writes each line behind four
blanks per level; an empty line stays empty, and the depth never falls below zero. Steps that give
back every level they take are balanced, and a block of balanced steps is balanced again
(`Balanced.block`), which keeps the depth of the page (`Balanced.depth_run`).
-/
import ResolverGen.Text

namespace ResolverGen.Code.Layout

/-- One step of a layout. -/
inductive Step where
  | line (text : String)
  | indent
  | unindent
deriving DecidableEq, Repr

/-- The text written so far and the present depth. -/
structure Page where
  text : String
  depth : Nat
deriving Repr, Inhabited

/-- A page with nothing on it. -/
def Page.blank : Page := ⟨"", 0⟩

/-- The blanks before a line at some depth. -/
def margin : Nat → String
  | 0 => ""
  | n + 1 => "    " ++ margin n

/-- Takes one step. -/
def Page.step (p : Page) : Step → Page
  | .line "" => { p with text := p.text ++ "\n" }
  | .line text => { p with text := p.text ++ margin p.depth ++ text ++ "\n" }
  | .indent => { p with depth := p.depth + 1 }
  | .unindent => { p with depth := p.depth - 1 }

/-- Takes steps in order. -/
def Page.run (p : Page) (steps : List Step) : Page := steps.foldl Page.step p

/-- An empty line. -/
def blank : List Step := [.line ""]

/-- A line that ends in a semicolon. -/
def statement (text : String) : List Step := [.line (text ++ ";")]

/-- The line that opens a block, and the level that it takes. -/
def opening (header : String) : List Step := [.line (header ++ " \x7b"), .indent]

/-- The end of a block, after its level is given back. -/
def closing : List Step := [.unindent, .line "\x7d"]

/-- A block of steps behind a header. -/
def block (header : String) (body : List Step) : List Step := opening header ++ body ++ closing

/-- One line of a documentation comment. -/
def commentLine (line : String) : Step := .line (if line = "" then " *" else " * " ++ line)

/-- A documentation comment. -/
def comment (text : String) : List Step :=
  .line "/**" :: (Text.bareLines text).map commentLine ++ [.line " */"]

/-- Every level taken is given back, and none is given back before it is taken. -/
inductive Balanced : List Step → Prop
  | nil : Balanced []
  | line (text : String) {rest : List Step} : Balanced rest → Balanced (.line text :: rest)
  | nest {body rest : List Step} : Balanced body → Balanced rest →
      Balanced (.indent :: body ++ .unindent :: rest)

theorem Balanced.append {a b : List Step} (ha : Balanced a) (hb : Balanced b) :
    Balanced (a ++ b) := by
  induction ha with
  | nil => exact hb
  | line text _ ih => exact .line text ih
  | nest hbody _ _ ih =>
    rw [List.append_assoc, List.cons_append]
    exact .nest hbody ih

theorem Balanced.block {header : String} {body : List Step} (h : Balanced body) :
    Balanced (block header body) := by
  have := Balanced.line (header ++ " \x7b") (.nest h (.line "\x7d" .nil))
  simpa [Layout.block, opening, closing] using this

theorem Page.run_append (p : Page) (a b : List Step) : p.run (a ++ b) = (p.run a).run b :=
  List.foldl_append

theorem Page.text_line (p : Page) (text : String) : (p.step (.line text)).text =
    p.text ++ (if text = "" then "" else margin p.depth ++ text) ++ "\n" := by
  unfold Page.step
  split <;> simp_all [String.append_assoc]

theorem Page.depth_line (p : Page) (text : String) : (p.step (.line text)).depth = p.depth := by
  unfold Page.step
  split <;> simp_all

/-- Balanced steps leave the depth as it was. -/
theorem Balanced.depth_run {steps : List Step} (h : Balanced steps) (p : Page) :
    (p.run steps).depth = p.depth := by
  induction h generalizing p with
  | nil => rfl
  | line text _ ih => exact (ih _).trans (p.depth_line text)
  | nest _ _ ihBody ihRest =>
    rw [Page.run_append]
    refine (ihRest _).trans ?_
    show ((p.step .indent).run _).depth - 1 = p.depth
    rw [ihBody]
    rfl

end ResolverGen.Code.Layout
