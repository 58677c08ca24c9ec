/-
Reading the tokens of a program as statements.

Two kinds of statements are read: calls of a method with string literals joined by `+` for their
argument, and blocks that are run if a name is below a number (`commands?`). String literals that are
joined stand for one text (`concatenation?_joined`).

`Prints` says that some steps of a layout write statements and give back the levels that they take. It
holds of a call whose argument is cut into several literals (`prints_runWith`), of a block around
steps of which it holds (`Prints.guarded`), and of steps one behind the other (`Prints.append`).
-/
import ResolverGen.Code.Syntax
import ResolverGen.Proofs.Code.Literals

namespace ResolverGen.Code

/-! ### Expressions -/

/-- The text that string literals with `+` between them stand for, and the tokens behind them. -/
def concatenation? : List Token → Option (List Nat × List Token)
  | .text v :: .mark .plus :: ts => (concatenation? ts).map fun rest => (v ++ rest.1, rest.2)
  | .text v :: ts => some (v, ts)
  | _ => none

/-- The text that an expression stands for, if it is made of string literals. -/
def textOf? (expression : String) : Option (List Nat) :=
  (tokens? expression.toList).bind fun ts =>
    match concatenation? ts with
    | some (v, []) => some v
    | _ => none

/-- The tokens of texts with `+` between them. -/
def joined : List (List Nat) → List Token
  | [] => []
  | [v] => [.text v]
  | v :: w :: vs => .text v :: .mark .plus :: joined (w :: vs)

/-- **Texts that are joined stand for one text.** -/
theorem concatenation?_joined {vs : List (List Nat)} (hvs : vs ≠ []) {ts : List Token}
    (hts : ts.head? ≠ some (.mark .plus)) :
    concatenation? (joined vs ++ ts) = some (vs.flatten, ts) := by
  induction vs with
  | nil => exact absurd rfl hvs
  | cons v vs ih =>
    cases vs with
    | nil =>
      rw [joined, List.singleton_append, concatenation?]
      · simp
      · rintro rest rfl
        exact hts rfl
    | cons w vs =>
      rw [joined, List.cons_append, List.cons_append, concatenation?, ih (List.cons_ne_nil w vs)]
      rfl

theorem length_lt_of_concatenation? {ts : List Token} {v : List Nat} {rest : List Token}
    (h : concatenation? ts = some (v, rest)) : rest.length < ts.length := by
  fun_induction concatenation? ts generalizing v rest with
  | case1 first ts ih =>
    obtain ⟨⟨v', rest'⟩, hrest, heq⟩ := Option.map_eq_some_iff.1 h
    obtain ⟨-, rfl⟩ := Prod.mk.inj heq
    have := ih hrest
    simp only [List.length_cons]
    omega
  | case2 first ts _ =>
    obtain ⟨-, rfl⟩ := Prod.mk.inj (Option.some.inj h)
    exact Nat.lt_succ_self _
  | case3 => cases h

/-! ### Statements -/

/-- A statement. -/
inductive Command where
  /-- Calls a method with a text. -/
  | call (target method : String) (text : List Nat)
  /-- Runs the body if what the name stands for is below the bound. -/
  | guarded (name : String) (bound : Nat) (body : List Command)

/-- A block that is not closed yet, and the statements before it. -/
structure Block where
  before : List Command
  name : String
  bound : Nat

/-- Reads statements behind others, inside of blocks. -/
def commands? (blocks : List Block) (read : List Command) : List Token → Option (List Command)
  | [] => if blocks.isEmpty then some read else none
  | .mark .finish :: ts =>
    match blocks with
    | [] => none
    | b :: blocks => commands? blocks (b.before ++ [.guarded b.name b.bound read]) ts
  | .word "if" :: .mark .opening :: .word name :: .mark .less :: .number bound :: .mark .closing ::
      .mark .start :: ts =>
    commands? (⟨read, name, bound⟩ :: blocks) [] ts
  | .word target :: .mark .dot :: .word method :: .mark .opening :: ts =>
    match h : concatenation? ts with
    | some (v, .mark .closing :: .mark .semicolon :: rest) =>
      commands? blocks (read ++ [.call target method v]) rest
    | _ => none
  | _ => none
termination_by ts => ts.length
decreasing_by
  all_goals simp only [List.length_cons]
  · omega
  · omega
  · have := length_lt_of_concatenation? h
    simp only [List.length_cons] at this
    omega

/-- The statements of a text. -/
def commandsOf? (text : String) : Option (List Command) :=
  (tokens? text.toList).bind (commands? [] [])

/-- Whether tokens are those of some statements, whatever stands around them. -/
def Says (ts : List Token) (cs : List Command) : Prop :=
  ∀ blocks read rest, commands? blocks read (ts ++ rest) = commands? blocks (read ++ cs) rest

section

variable {ts ts' : List Token} {cs cs' : List Command}

theorem says_nil : Says [] [] := fun blocks read rest => by
  rw [List.nil_append, List.append_nil]

theorem Says.append (h : Says ts cs) (h' : Says ts' cs') : Says (ts ++ ts') (cs ++ cs') := by
  intro blocks read rest
  rw [List.append_assoc, h, h', List.append_assoc]

theorem says_call (target method : String) {vs : List (List Nat)} (hvs : vs ≠ []) :
    Says ([.word target, .mark .dot, .word method, .mark .opening] ++ joined vs ++
      [.mark .closing, .mark .semicolon]) [.call target method vs.flatten] := by
  intro blocks read rest
  have hargument : concatenation? (joined vs ++ .mark .closing :: .mark .semicolon :: rest) =
      some (vs.flatten, .mark .closing :: .mark .semicolon :: rest) :=
    concatenation?_joined hvs (by simp)
  simp only [List.append_assoc, List.cons_append, List.nil_append]
  rw [commands?]
  split
  · next h =>
    rw [hargument] at h
    cases h
    rfl
  · next h => exact absurd hargument (h _ _)

theorem Says.guarded (name : String) (bound : Nat) (h : Says ts cs) :
    Says ([.word "if", .mark .opening, .word name, .mark .less, .number bound, .mark .closing,
      .mark .start] ++ ts ++ [.mark .finish]) [.guarded name bound cs] := by
  intro blocks read rest
  simp only [List.append_assoc, List.cons_append, List.nil_append]
  rw [commands?, h, commands?]
  rfl

theorem Says.commands?_eq (h : Says ts cs) : commands? [] [] ts = some cs := by
  have := h [] [] []
  rw [List.append_nil] at this
  rw [this, commands?]
  rfl

end

/-! ### Texts of layouts -/

/-- Whether steps write a text at a depth, and give back the levels that they take. -/
def Writes (depth : Nat) (steps : List Layout.Step) (text : String) : Prop :=
  ∀ before, (Layout.Page.mk before depth).run steps = ⟨before ++ text, depth⟩

section

variable {depth : Nat} {a b steps : List Layout.Step} {s t text : String}

theorem writes_nil (depth : Nat) : Writes depth [] "" := fun before => by
  rw [String.append_empty]
  rfl

theorem Writes.append (ha : Writes depth a s) (hb : Writes depth b t) :
    Writes depth (a ++ b) (s ++ t) := by
  intro before
  rw [Layout.Page.run_append, ha before, hb (before ++ s), String.append_assoc]

theorem writes_line (depth : Nat) (h : text ≠ "") :
    Writes depth [.line text] (Layout.margin depth ++ text ++ "\n") := by
  intro before
  have htext := Layout.Page.text_line ⟨before, depth⟩ text
  have hdepth := Layout.Page.depth_line ⟨before, depth⟩ text
  rw [if_neg h, String.append_assoc] at htext
  exact congrArg₂ Layout.Page.mk htext hdepth

/-- Steps behind levels that are taken and given back. -/
theorem Writes.nested (n : Nat) (h : Writes (depth + n) steps text) :
    Writes depth (nested n steps) text := by
  induction n generalizing depth with
  | zero => exact h
  | succ n ih =>
    have hbody : Writes (depth + 1) (Code.nested n steps) text :=
      ih (by rwa [Nat.add_assoc, Nat.add_comm 1 n])
    intro before
    rw [Code.nested, List.cons_append]
    show Layout.Page.run ⟨before, depth + 1⟩ (Code.nested n steps ++ [.unindent]) = _
    rw [Layout.Page.run_append, hbody before]
    rfl

/-- Steps in a block. -/
theorem Writes.block (header : String) (h : Writes (depth + 1) steps text) :
    Writes depth (Layout.block header steps)
      (Layout.margin depth ++ (header ++ " \x7b") ++ "\n" ++ text ++
        (Layout.margin depth ++ "\x7d" ++ "\n")) := by
  have hopen := writes_line depth (by simp : header ++ " \x7b" ≠ "")
  have hclose := writes_line depth (by decide : "\x7d" ≠ "")
  have hbody : Writes depth (Code.nested 1 steps) text := h.nested
  have hall := (hopen.append hbody).append hclose
  simpa [Layout.block, Layout.opening, Layout.closing, Code.nested] using hall

/-- What stands between literals that are joined, each on its own line. -/
def plusBetween (depth : Nat) : String := "\n" ++ Layout.margin (depth + continuationLevels) ++ "+ "

/-- The literals of some texts, joined. -/
def literals (depth : Nat) (parts : List String) : String :=
  Text.join (plusBetween depth) (parts.map Literal.quote)

theorem writes_partLines (depth : Nat) (part : String) (parts : List String) :
    Writes depth (partLines (part :: parts)) (Layout.margin depth ++ "+ " ++
      Text.join ("\n" ++ Layout.margin depth ++ "+ ") ((part :: parts).map Literal.quote) ++
        ");\n") := by
  have hline (text : String) : "+ " ++ text ≠ "" := by simp
  induction parts generalizing part with
  | nil =>
    have h := writes_line depth (hline (Literal.quote part ++ ");"))
    simpa [partLines, Layout.statement, Text.join, String.append_assoc] using h
  | cons next parts ih =>
    have h := (writes_line depth (hline (Literal.quote part))).append (ih next)
    simpa [partLines, Text.join, String.append_assoc] using h

/-- **The text of a call whose argument is cut into literals.** -/
theorem writes_runWith (depth : Nat) (target : Expr) (method : String) {parts : List String}
    (h : parts ≠ []) :
    Writes depth (Stmt.runWith target method parts).layout
      (Layout.margin depth ++ target.render ++ "." ++ method ++ "(" ++ literals depth parts ++
        ");\n") := by
  have hline (text more : String) : target.render ++ "." ++ method ++ "(" ++ text ++ more ≠ "" := by
    simp
  match parts, h with
  | [only], _ =>
    have h := writes_line depth (hline (Literal.quote only) ");")
    simpa [Stmt.layout, Layout.statement, literals, Text.join, String.append_assoc] using h
  | first :: next :: rest, _ =>
    have hfirst := writes_line depth (hline (Literal.quote first) "")
    have hrest := (writes_partLines (depth + continuationLevels) next rest).nested
    have h := hfirst.append hrest
    simpa [Stmt.layout, literals, plusBetween, Text.join, String.append_assoc] using h

/-! ### Statements that are written -/

theorem scans_margin (depth : Nat) : Scans .between (Layout.margin depth).toList [] .between := by
  induction depth with
  | zero => exact scans_nil _
  | succ n ih =>
    have hlevel : Scans .between "    ".toList [] .between := ⟨_, rfl, rfl⟩
    rw [Layout.margin, String.toList_append]
    exact hlevel.append ih

theorem scans_plusBetween (depth : Nat) :
    Scans .between (plusBetween depth).toList [.mark .plus] .between := by
  have hfeed : Scans .between "\n".toList [] .between := ⟨_, rfl, rfl⟩
  have hplus : Scans .between "+ ".toList [.mark .plus] .between := ⟨_, rfl, rfl⟩
  rw [plusBetween, String.toList_append, String.toList_append]
  exact (hfeed.append (scans_margin _)).append hplus

theorem scans_quoted {part : String} (h : part ≠ "") :
    Scans .between (Literal.quote part).toList [.text (codeUnits part.toList)] .between := by
  rw [Literal.quote, String.toList_ofList]
  exact scans_encode fun hnil => h (String.toList_eq_nil_iff.1 hnil)

/-- Literals that are joined are read as the texts that they stand for. -/
theorem scans_literals (depth : Nat) {parts : List String} (hparts : ∀ part ∈ parts, part ≠ "") :
    Scans .between (literals depth parts).toList
      (joined (parts.map fun part => codeUnits part.toList)) .between := by
  induction parts with
  | nil => exact scans_nil _
  | cons part parts ih =>
    rw [List.forall_mem_cons] at hparts
    have hfirst := scans_quoted hparts.1
    cases parts with
    | nil => exact hfirst
    | cons next parts =>
      have h := (hfirst.append (scans_plusBetween depth)).append (ih hparts.2)
      simpa [literals, Text.join, joined] using h

theorem flatten_codeUnits (parts : List String) :
    (parts.map fun part => codeUnits part.toList).flatten =
      codeUnits (String.join parts).toList := by
  rw [String.toList_join, codeUnits, List.flatMap_assoc]
  rfl

/-- **Literals that are joined stand for the texts one behind the other.** -/
theorem textOf?_literals (depth : Nat) {parts : List String} (h : parts ≠ [])
    (hparts : ∀ part ∈ parts, part ≠ "") :
    textOf? (literals depth parts) = some (codeUnits (String.join parts).toList) := by
  have hvs : (parts.map fun part => codeUnits part.toList) ≠ [] := by simpa using h
  have hend : ([] : List Token).head? ≠ some (.mark .plus) := by simp
  have hvalue := concatenation?_joined hvs hend
  rw [List.append_nil, flatten_codeUnits] at hvalue
  rw [textOf?, (scans_literals depth hparts).tokens?_eq]
  simp [TokenState.last?, hvalue]

/-- The tokens of a call. -/
theorem scans_call (depth : Nat) {target method : String} (htarget : isWord target = true)
    (hmethod : isWord method = true) {parts : List String} (hparts : ∀ part ∈ parts, part ≠ "") :
    Scans .between (Layout.margin depth ++ target ++ "." ++ method ++ "(" ++ literals depth parts ++
        ");\n").toList
      ([.word target, .mark .dot, .word method, .mark .opening] ++
        joined (parts.map fun part => codeUnits part.toList) ++
          [.mark .closing, .mark .semicolon]) .between := by
  have hword : Scans .between target.toList [] (.word target.toList) :=
    scans_word htarget fun c hc => startToken_word hc
  have hdot : Scans (.word target.toList) ".".toList [.word (String.ofList target.toList)]
      (.operator .dot) := ⟨_, rfl, rfl⟩
  have hmember : Scans (.operator .dot) method.toList [.mark .dot] (.word method.toList) := by
    refine scans_word hmethod fun c hc => ?_
    rw [tokenStep, hc, Bool.or_true, Bool.true_or, if_pos rfl, endToken, startToken_word hc]
    rfl
  have hopen : Scans (.word method.toList) "(".toList
      [.word (String.ofList method.toList), .mark .opening] .between := ⟨_, rfl, rfl⟩
  have hclose : Scans .between ");\n".toList [.mark .closing, .mark .semicolon] .between :=
    ⟨_, rfl, rfl⟩
  have h := (((((scans_margin depth).append hword).append hdot).append hmember).append hopen).append
    ((scans_literals depth hparts).append hclose)
  simpa using h

/-- Whether steps at a depth write some statements, and give back the levels that they take. -/
def Prints (depth : Nat) (steps : List Layout.Step) (cs : List Command) : Prop :=
  ∃ text ts, Writes depth steps text ∧ Scans .between text.toList ts .between ∧ Says ts cs

variable {cs cs' : List Command}

theorem prints_nil (depth : Nat) : Prints depth [] [] :=
  ⟨"", [], writes_nil depth, scans_nil _, says_nil⟩

theorem Prints.append (ha : Prints depth a cs) (hb : Prints depth b cs') :
    Prints depth (a ++ b) (cs ++ cs') := by
  obtain ⟨s, ts, hs, hts, hcs⟩ := ha
  obtain ⟨t, ts', ht, hts', hcs'⟩ := hb
  refine ⟨s ++ t, ts ++ ts', hs.append ht, ?_, hcs.append hcs'⟩
  rw [String.toList_append]
  exact hts.append hts'

theorem Prints.exists_commandsOf? (h : Prints depth steps cs) :
    ∃ text, Writes depth steps text ∧ commandsOf? text = some cs := by
  obtain ⟨text, ts, htext, hts, hcs⟩ := h
  refine ⟨text, htext, ?_⟩
  rw [commandsOf?, hts.tokens?_eq]
  simpa [TokenState.last?] using hcs.commands?_eq

/-- **A call whose argument is cut into literals is read as a call with the whole text.** -/
theorem prints_runWith (depth : Nat) {target method : String} (htarget : isWord target = true)
    (hmethod : isWord method = true) {parts : List String} (h : parts ≠ [])
    (hparts : ∀ part ∈ parts, part ≠ "") :
    Prints depth (Stmt.runWith (.var target) method parts).layout
      [.call target method (codeUnits (String.join parts).toList)] := by
  have hvs : (parts.map fun part => codeUnits part.toList) ≠ [] := by simpa using h
  have hsays := says_call target method hvs
  rw [flatten_codeUnits] at hsays
  exact ⟨_, _, writes_runWith depth (.var target) method h,
    scans_call depth htarget hmethod hparts, hsays⟩

/-- The head of a block. -/
theorem scans_head (depth : Nat) {name : String} (hname : isWord name = true) (bound : Nat) :
    Scans .between (Layout.margin depth ++ ("if (" ++
        (Expr.less (.var name) (.number bound)).render ++ ")" ++ " \x7b") ++ "\n").toList
      [.word "if", .mark .opening, .word name, .mark .less, .number bound, .mark .closing,
        .mark .start] .between := by
  have hif : Scans .between "if (".toList [.word "if", .mark .opening] .between := ⟨_, rfl, rfl⟩
  have hword : Scans .between name.toList [] (.word name.toList) :=
    scans_word hname fun c hc => startToken_word hc
  have hless : Scans (.word name.toList) " < ".toList
      [.word (String.ofList name.toList), .mark .less] .between := ⟨_, rfl, rfl⟩
  have hnumber : Scans .between (toString bound).toList [] (.number bound) := by
    rw [Nat.toString_eq_repr, Nat.toList_repr]
    exact scans_toDigits bound
  have hclose : Scans (.number bound) ") \x7b\n".toList
      [.number bound, .mark .closing, .mark .start] .between := ⟨_, rfl, rfl⟩
  have h := ((((scans_margin depth).append hif).append hword).append hless).append
    (hnumber.append hclose)
  simpa [Expr.render] using h

/-- **A block is read as the statements in it, run where its condition holds.** -/
theorem Prints.guarded {name : String} (hname : isWord name = true) (bound : Nat)
    (h : Prints (depth + 1) steps cs) :
    Prints depth
      (Layout.block ("if (" ++ (Expr.less (.var name) (.number bound)).render ++ ")") steps)
      [.guarded name bound cs] := by
  obtain ⟨text, ts, htext, hts, hcs⟩ := h
  refine ⟨_, _, htext.block _, ?_, hcs.guarded name bound⟩
  have hfinish : Scans .between "\x7d\n".toList [.mark .finish] .between := ⟨_, rfl, rfl⟩
  have hall := (((scans_head depth hname bound).append hts).append (scans_margin depth)).append hfinish
  simpa using hall

end

end ResolverGen.Code
