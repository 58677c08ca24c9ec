/-
What a table class says to the database.

An SQL text is cut into lines, and written as one string literal for each. A reader of the program
takes the literals, joined again, for the whole text (`prints_execute`), whatever the names in it are
made of. So the table class says what it is made to run: that a table is created by its definition,
and that each step is run where its version is not reached yet (`executes_text`).
-/
import ResolverGen.Proofs.Code.Statements
import ResolverGen.Proofs.Schema.Upgrade

namespace ResolverGen

open Code

/-! ### Lines -/

namespace Text

theorem keptLines_cons_of_ne {c : Char} (hc : c ≠ '\n') (cs : List Char) :
    keptLines (c :: cs) = (c :: (keptLines cs).headD []) :: (keptLines cs).tail := by
  rw [keptLines, if_neg hc]
  cases keptLines cs <;> rfl

theorem ne_nil_of_mem_keptLines {cs line : List Char} (h : line ∈ keptLines cs) : line ≠ [] := by
  induction cs generalizing line with
  | nil => cases h
  | cons c cs ih =>
    by_cases hc : c = '\n'
    · rw [keptLines, if_pos hc] at h
      rcases List.mem_cons.1 h with rfl | h
      · exact List.cons_ne_nil c []
      · exact ih h
    · rw [keptLines_cons_of_ne hc] at h
      rcases List.mem_cons.1 h with rfl | h
      · exact List.cons_ne_nil c _
      · exact ih (List.mem_of_mem_tail h)

/-- Every line but the last one ends in a line feed. -/
theorem getLast?_of_mem_keptLines {cs line : List Char} (h : line ∈ (keptLines cs).dropLast) :
    line.getLast? = some '\n' := by
  induction cs generalizing line with
  | nil => cases h
  | cons c cs ih =>
    by_cases hc : c = '\n'
    · rw [keptLines, if_pos hc] at h
      cases hlines : keptLines cs with
      | nil =>
        rw [hlines] at h
        cases h
      | cons next lines =>
        rw [hlines, List.dropLast_cons_cons, List.mem_cons] at h
        rcases h with rfl | h
        · rw [hc]
          rfl
        · exact ih (by rwa [hlines])
    · rw [keptLines_cons_of_ne hc] at h
      cases hlines : keptLines cs with
      | nil =>
        rw [hlines] at h
        cases h
      | cons first lines =>
        rw [hlines, List.headD_cons, List.tail_cons] at h
        cases lines with
        | nil => cases h
        | cons next lines =>
          rw [List.dropLast_cons_cons, List.mem_cons] at h
          rw [hlines, List.dropLast_cons_cons] at ih
          rcases h with rfl | h
          · have hfirst := ih List.mem_cons_self
            rw [List.getLast?_cons, hfirst]
            rfl
          · exact ih (List.mem_cons_of_mem _ h)

end Text

/-! ### Texts that are run -/

namespace TableClass

/-- The literals of an SQL text, one for each line. -/
def literalsOf (sql : String) : List String :=
  ((Text.keptLines sql.toList).map String.ofList).map Literal.quote

/-- The argument that some literals are, at a depth. -/
def argument (depth : Nat) (literals : List String) : String :=
  Text.join ("\n" ++ Layout.margin (depth + continuationLevels) ++ "+ ") literals

theorem line_ne_empty {sql line : String}
    (h : line ∈ (Text.keptLines sql.toList).map String.ofList) : line ≠ "" := by
  obtain ⟨cs, hcs, rfl⟩ := List.mem_map.1 h
  rw [Ne, String.ofList_eq_empty_iff]
  exact Text.ne_nil_of_mem_keptLines hcs

/-- All literals but the last one end in a line feed, which is escaped. -/
theorem endsLine_of_mem_literalsOf {sql literal : String} (h : literal ∈ (literalsOf sql).dropLast) :
    ∃ start line, literal = start ++ "\\n\"" ∧
      tokens? literal.toList = some [.text (codeUnits line ++ ['\n'.toNat])] := by
  rw [literalsOf, ← List.map_dropLast, ← List.map_dropLast, List.mem_map] at h
  obtain ⟨part, hpart, rfl⟩ := h
  obtain ⟨cs, hcs, rfl⟩ := List.mem_map.1 hpart
  obtain ⟨line, rfl⟩ := List.getLast?_eq_some_iff.1 (Text.getLast?_of_mem_keptLines hcs)
  refine ⟨String.ofList ('"' :: line.flatMap Literal.escape), line, ?_, ?_⟩
  · apply String.toList_injective
    simp [Literal.quote, Literal.encode]
    rfl
  · rw [Literal.quote, String.toList_ofList, String.toList_ofList, tokens?_encode, codeUnits,
      List.flatMap_append]
    rfl

/-- The text of a statement that runs an SQL text. -/
theorem writes_execute (depth : Nat) {sql : String} (h : sql ≠ "") :
    Writes depth (execute sql).layout
      (Layout.margin depth ++ "db.execSQL(" ++ argument depth (literalsOf sql) ++ ");\n") := by
  have hcall : (Expr.var databaseName).render ++ "." ++ "execSQL" ++ "(" = "db.execSQL(" := by
    decide +kernel
  have hwrites := writes_runWith depth (.var databaseName) "execSQL" (lines_ne_nil h)
  rw [← hcall]
  simpa only [execute, argument, literals, plusBetween, literalsOf, String.append_assoc] using hwrites

/-- A text that is run is read as a call with the whole text. -/
theorem prints_execute (depth : Nat) {sql : String} (h : sql ≠ "") :
    Prints depth (execute sql).layout [.call databaseName "execSQL" (codeUnits sql.toList)] := by
  have hdatabase : isWord databaseName = true := by decide +kernel
  have hmethod : isWord "execSQL" = true := by decide +kernel
  have hprints := prints_runWith depth hdatabase hmethod (lines_ne_nil h) fun line => line_ne_empty
  rwa [join_lines] at hprints

/-- A step is read as a call where its version is not reached. -/
theorem prints_migrate (depth : Nat) (m : Migration) :
    Prints depth (migrate m).layout
      [.guarded versionName m.version [.call databaseName "execSQL" (codeUnits m.render.toList)]] := by
  have hbody : Prints (depth + 1) (layoutAll [execute m.render])
      [.call databaseName "execSQL" (codeUnits m.render.toList)] := by
    rw [layoutAll, layoutAll, List.append_nil]
    exact prints_execute (depth + 1) (render_migration_ne_empty m)
  exact hbody.guarded (by decide +kernel) m.version

theorem prints_migrateAll (depth : Nat) (ms : List Migration) :
    Prints depth (layoutAll (ms.map migrate)) (ms.map fun m =>
      .guarded versionName m.version
        [.call databaseName "execSQL" (codeUnits m.render.toList)]) := by
  induction ms with
  | nil => exact prints_nil depth
  | cons m ms ih => exact (prints_migrate depth m).append ih

/-- Whether literals are the argument with which an SQL text is run. -/
structure Carries (sql : String) (depth : Nat) (literals : List String) : Prop where
  /-- The call is written with them, and ends at the depth where it starts. -/
  written : Writes depth (execute sql).layout
    (Layout.margin depth ++ "db.execSQL(" ++ argument depth literals ++ ");\n")
  /-- Joined, they are the text. -/
  denotes : textOf? (argument depth literals) = some (codeUnits sql.toList)
  single : ∀ literal ∈ literals, ∃ v, tokens? literal.toList = some [.text v]
  /-- All but the last one end in a line feed, which is escaped. -/
  lines : ∀ literal ∈ literals.dropLast, ∃ start line, literal = start ++ "\\n\"" ∧
    tokens? literal.toList = some [.text (codeUnits line ++ ['\n'.toNat])]

/-- What a table class says to the database, by the texts of its methods at some depth. -/
structure Executes (table : String) (e : Entity) (depth : Nat) : Prop where
  creates : ∃ m, (unit table e).procedure? "createTable" = some m ∧
    ∃ text, Writes depth (layoutAll m.body) text ∧ commandsOf? text =
      some [.call "db" "execSQL" (codeUnits (TableDef.ofColumns table e.columns).render.toList)]
  upgrades : ∃ m, (unit table e).procedure? "updateTable" = some m ∧
    ∃ text, Writes depth (layoutAll m.body) text ∧ commandsOf? text =
      some ((Migration.ofColumns table e.columns).map fun m =>
        .guarded "oldVersion" m.version [.call "db" "execSQL" (codeUnits m.render.toList)])

theorem carries_literalsOf {sql : String} (h : sql ≠ "") (depth : Nat) :
    Carries sql depth (literalsOf sql) where
  written := writes_execute depth h
  denotes := by
    have htext := textOf?_literals depth (lines_ne_nil h) fun line => line_ne_empty
    rwa [join_lines] at htext
  single literal hliteral := by
    obtain ⟨part, -, rfl⟩ := List.mem_map.1 hliteral
    refine ⟨codeUnits part.toList, ?_⟩
    rw [Literal.quote, String.toList_ofList, tokens?_encode]
  lines _ hliteral := endsLine_of_mem_literalsOf hliteral

theorem executes (table : String) (e : Entity) (depth : Nat) : Executes table e depth where
  creates := by
    obtain ⟨m, hm, -, hbody⟩ := procedure?_createTable table e
    refine ⟨m, hm, ?_⟩
    rw [hbody, layoutAll, layoutAll, List.append_nil]
    exact (prints_execute depth (render_table_ne_empty _)).exists_commandsOf?
  upgrades := by
    obtain ⟨m, hm, -, hbody⟩ := procedure?_updateTable table e
    refine ⟨m, hm, ?_⟩
    rw [hbody]
    exact (prints_migrateAll depth _).exists_commandsOf?

/-- **Any text reaches the database as it is**, and so do the statements of a table class. -/
theorem executes_text (table : String) (e : Entity) {sql : String} (hsql : sql ≠ "")
    (depth : Nat) : (∃ literals, Carries sql depth literals) ∧ Executes table e depth :=
  ⟨⟨literalsOf sql, carries_literalsOf hsql depth⟩, executes table e depth⟩

/-- A text with a quote and a backslash, on two lines. -/
theorem executes_lines : "a\n\"b\\" ≠ "" ∧
    literalsOf "a\n\"b\\" = ["\"a\\n\"", "\"\\\"b\\\\\""] ∧
      (∃ literals, Carries "a\n\"b\\" 1 literals) ∧ Executes "u\"s" versionsEntity 1 :=
  ⟨by decide, by decide +kernel, executes_text "u\"s" versionsEntity (by decide) 1⟩

end TableClass

end ResolverGen
