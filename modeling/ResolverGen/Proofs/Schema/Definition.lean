/-
Reading the definition of a table back.

A definition is read from its words and marks (`TableDef.read?`): the definitions of the columns stand
on lines of their own, and a clause that names the columns of the key may follow them. Tokens are read
as a definition just if they are the tokens of that definition (`TableDef.ofTokens?_eq_some_iff`), and
its text has these tokens (`TableDef.split_render`) if the names in it are words, even words such as
`PRIMARY` and `NOT`.

So of a table with some columns, each column is read with its type and its flag, in their order, and
the key columns are those of the primary key (`TableDef.read?_ofColumns`).
-/
import Mathlib.Data.List.Forall2
import ResolverGen.Schema

namespace ResolverGen

/-! ### Tokens -/

/-- A token of a definition. -/
inductive SqlToken where
  | word (name : String)
  | opening | closing | comma | semicolon | lineEnd
deriving DecidableEq, Repr

namespace SqlToken

/-- The characters that are tokens by themselves. -/
def marks : List (Char × SqlToken) :=
  [('(', opening), (')', closing), (',', comma), (';', semicolon), ('\n', lineEnd)]

/-- The token of a character that is one by itself. -/
def ofChar (c : Char) : List SqlToken := (marks.lookup c).toList

/-- The characters that SQL takes for blanks. -/
def blanks : List Char := [' ', '\t', '\n', '\x0c', '\r']

/-- Whether a character is part of a word. -/
def isWordChar (c : Char) : Bool := !blanks.contains c && (marks.lookup c).isNone

/-- The word of some characters, if there are any. -/
def ofWord (cs : List Char) : List SqlToken := if cs = [] then [] else [word (String.ofList cs)]

/-- The tokens of a text behind the characters of a word. -/
def split (before : List Char) : List Char → List SqlToken
  | [] => ofWord before
  | c :: cs =>
    if isWordChar c then split (before ++ [c]) cs
    else ofWord before ++ ofChar c ++ split [] cs

end SqlToken

/-! ### Reading -/

/-- The storage type of an SQL name. -/
def Storage.ofSql? (name : String) : Option Storage :=
  [integer, real, text, blob].find? (·.sql = name)

/-- The definition of a column by its words. -/
def ColumnDef.ofWords? : List String → Option ColumnDef
  | name :: type :: flags =>
    (Storage.ofSql? type).bind fun storage =>
      match flags with
      | [] => some ⟨name, storage, false, false⟩
      | ["NOT", "NULL"] => some ⟨name, storage, true, false⟩
      | ["PRIMARY", "KEY"] => some ⟨name, storage, false, true⟩
      | ["NOT", "NULL", "PRIMARY", "KEY"] => some ⟨name, storage, true, true⟩
      | _ => none
  | _ => none

namespace TableDef

/-- The names in a key clause, which ends the definition. -/
def keyNames? : List SqlToken → Option (List String)
  | [.word name, .closing, .closing, .semicolon] => some [name]
  | .word name :: .comma :: ts => (keyNames? ts).map (name :: ·)
  | _ => none

/-- The definitions of columns and the names in the key clause, behind some words of the first
definition. -/
def definitions? (words : List String) : List SqlToken → Option (List ColumnDef × List String)
  | .word name :: ts => definitions? (words ++ [name]) ts
  | .comma :: .lineEnd :: ts =>
    (ColumnDef.ofWords? words).bind fun d => (definitions? [] ts).map fun rest =>
      (d :: rest.1, rest.2)
  | [.closing, .semicolon] => (ColumnDef.ofWords? words).map fun d => ([d], [])
  | .opening :: ts =>
    if words = ["PRIMARY", "KEY"] then (keyNames? ts).map fun keys => ([], keys) else none
  | _ => none

/-- The definition of a table that tokens are. -/
def ofTokens? : List SqlToken → Option TableDef
  | [.word "CREATE", .word "TABLE", .word table, .opening, .closing, .semicolon] =>
    some ⟨table, [], []⟩
  | .word "CREATE" :: .word "TABLE" :: .word table :: .opening :: ts =>
    (definitions? [] ts).map fun read => ⟨table, read.1, read.2⟩
  | _ => none

/-- The definition of a table that a text is. -/
def read? (text : String) : Option TableDef := ofTokens? (SqlToken.split [] text.toList)

end TableDef

/-! ### Tokens of definitions -/

namespace ColumnDef

/-- The words of a definition. -/
def words (d : ColumnDef) : List String :=
  [d.name, d.storage.sql] ++ (if d.notNull then ["NOT", "NULL"] else []) ++
    (if d.primaryKey then ["PRIMARY", "KEY"] else [])

end ColumnDef

namespace TableDef

/-- The tokens of some names with commas between them. -/
def nameTokens (names : List String) : List SqlToken :=
  [.comma].intercalate (names.map fun name => [.word name])

/-- The tokens of a key clause, if there is one. -/
def clauseTokens (keys : List String) : List (List SqlToken) :=
  if keys = [] then []
  else [[.word "PRIMARY", .word "KEY", .opening] ++ nameTokens keys ++ [.closing]]

/-- The tokens of the definitions of columns and of the key clause, each on its own line. -/
def bodyTokens (columns : List ColumnDef) (keys : List String) : List SqlToken :=
  [.comma, .lineEnd].intercalate (columns.map (·.words.map .word) ++ clauseTokens keys)

/-- The tokens of a definition. -/
def tokens (d : TableDef) : List SqlToken :=
  [.word "CREATE", .word "TABLE", .word d.table, .opening] ++ bodyTokens d.columns d.keys ++
    [.closing, .semicolon]

end TableDef

/-! ### What is read -/

theorem Storage.ofSql?_eq_some_iff {name : String} {s : Storage} :
    ofSql? name = some s ↔ name = s.sql := by
  constructor
  · intro h
    have hname : s.sql = name := by simpa using List.find?_some h
    exact hname.symm
  · rintro rfl
    cases s <;> rfl

theorem ColumnDef.ofWords?_eq_some_iff {ws : List String} {d : ColumnDef} :
    ofWords? ws = some d ↔ ws = d.words := by
  constructor
  · intro h
    unfold ofWords? at h
    split at h
    · next name type flags =>
      obtain ⟨storage, hstorage, h⟩ := Option.bind_eq_some_iff.1 h
      rw [Storage.ofSql?_eq_some_iff.1 hstorage]
      split at h <;> cases h <;> rfl
    · cases h
  · rintro rfl
    obtain ⟨name, storage, notNull, primaryKey⟩ := d
    cases storage <;> cases notNull <;> cases primaryKey <;> rfl

namespace TableDef

variable {columns : List ColumnDef} {keys : List String} {ts : List SqlToken}

theorem nameTokens_cons (name : String) {names : List String} (h : names ≠ []) :
    nameTokens (name :: names) = .word name :: .comma :: nameTokens names := by
  have hne : (names.map fun name => [SqlToken.word name]) ≠ [] := by simpa using h
  exact List.intercalate_cons_of_ne_nil hne

theorem keyNames?_eq_some_iff : keyNames? ts = some keys ↔
    keys ≠ [] ∧ ts = nameTokens keys ++ [.closing, .closing, .semicolon] := by
  constructor
  · intro h
    fun_induction keyNames? ts generalizing keys with
    | case1 name =>
      cases h
      exact ⟨List.cons_ne_nil _ _, by simp [nameTokens]⟩
    | case2 name ts ih =>
      obtain ⟨rest, hrest, rfl⟩ := Option.map_eq_some_iff.1 h
      obtain ⟨hne, rfl⟩ := ih hrest
      refine ⟨List.cons_ne_nil _ _, ?_⟩
      rw [nameTokens_cons name hne]
      rfl
    | case3 => cases h
  · rintro ⟨hne, rfl⟩
    induction keys with
    | nil => exact absurd rfl hne
    | cons key keys ih =>
      by_cases hkeys : keys = []
      · subst hkeys
        rfl
      · rw [nameTokens_cons key hkeys, List.cons_append, List.cons_append, keyNames?, ih hkeys]
        rfl

theorem definitions?_words (words names : List String) (ts : List SqlToken) :
    definitions? words (names.map .word ++ ts) = definitions? (words ++ names) ts := by
  induction names generalizing words with
  | nil => simp
  | cons name names ih => simp [definitions?, ih]

theorem clauseTokens_ne_nil (h : keys ≠ []) : clauseTokens keys ≠ [] := by
  rw [clauseTokens, if_neg h]
  exact List.cons_ne_nil _ _

theorem bodyTokens_cons (d : ColumnDef) (h : columns ≠ [] ∨ keys ≠ []) :
    bodyTokens (d :: columns) keys =
      d.words.map .word ++ [.comma, .lineEnd] ++ bodyTokens columns keys := by
  have hne : columns.map (·.words.map SqlToken.word) ++ clauseTokens keys ≠ [] := by
    rcases h with h | h
    · simp [h]
    · simp [clauseTokens_ne_nil h]
  exact List.intercalate_cons_of_ne_nil hne

theorem words_of_definitions? {words : List String}
    (h : definitions? words ts = some (columns, keys)) : (columns ≠ [] ∨ keys ≠ []) ∧
      words.map .word ++ ts = bodyTokens columns keys ++ [.closing, .semicolon] := by
  fun_induction definitions? words ts generalizing columns keys with
  | case1 words name ts ih => simpa using ih h
  | case2 words ts ih =>
    obtain ⟨d, hd, h⟩ := Option.bind_eq_some_iff.1 h
    obtain ⟨⟨columns', keys'⟩, hrest, heq⟩ := Option.map_eq_some_iff.1 h
    obtain ⟨rfl, rfl⟩ := Prod.mk.inj heq
    obtain ⟨hne, hts⟩ := ih hrest
    rw [List.map_nil, List.nil_append] at hts
    refine ⟨.inl (List.cons_ne_nil _ _), ?_⟩
    rw [bodyTokens_cons d hne, ColumnDef.ofWords?_eq_some_iff.1 hd, hts]
    simp
  | case3 words =>
    obtain ⟨d, hd, heq⟩ := Option.map_eq_some_iff.1 h
    obtain ⟨rfl, rfl⟩ := Prod.mk.inj heq
    refine ⟨.inl (List.cons_ne_nil _ _), ?_⟩
    rw [ColumnDef.ofWords?_eq_some_iff.1 hd]
    simp [bodyTokens, clauseTokens]
  | case4 ts =>
    obtain ⟨keys', hkeys, heq⟩ := Option.map_eq_some_iff.1 h
    obtain ⟨rfl, rfl⟩ := Prod.mk.inj heq
    obtain ⟨hne, rfl⟩ := keyNames?_eq_some_iff.1 hkeys
    refine ⟨.inr hne, ?_⟩
    simp [bodyTokens, clauseTokens, hne]
  | case5 => cases h
  | case6 => cases h

theorem definitions?_bodyTokens (h : columns ≠ [] ∨ keys ≠ []) :
    definitions? [] (bodyTokens columns keys ++ [.closing, .semicolon]) = some (columns, keys) := by
  induction columns with
  | nil =>
    have hkeys : keys ≠ [] := h.resolve_left (fun hnil => hnil rfl)
    have hnames := keyNames?_eq_some_iff.2 ⟨hkeys, rfl⟩
    have hbody : bodyTokens [] keys ++ [.closing, .semicolon] =
        ["PRIMARY", "KEY"].map .word ++
          .opening :: (nameTokens keys ++ [.closing, .closing, .semicolon]) := by
      simp [bodyTokens, clauseTokens, hkeys]
    rw [hbody, definitions?_words, List.nil_append, definitions?, if_pos rfl, hnames]
    rfl
  | cons d columns ih =>
    have hd := ColumnDef.ofWords?_eq_some_iff.2 (rfl : d.words = d.words)
    by_cases hlast : columns = [] ∧ keys = []
    · obtain ⟨rfl, rfl⟩ := hlast
      have hbody : bodyTokens [d] [] = d.words.map .word := by simp [bodyTokens, clauseTokens]
      rw [hbody, definitions?_words, List.nil_append, definitions?, hd]
      rfl
    · have hmore : columns ≠ [] ∨ keys ≠ [] := not_and_or.1 hlast
      rw [bodyTokens_cons d hmore, List.append_assoc, List.append_assoc, definitions?_words]
      show definitions? d.words (.comma :: .lineEnd :: (bodyTokens columns keys ++ _)) = _
      rw [definitions?, hd, ih hmore]
      rfl

/-- **Tokens are read as a definition exactly if they are those of the definition.** -/
theorem ofTokens?_eq_some_iff {d : TableDef} : ofTokens? ts = some d ↔ ts = d.tokens := by
  have hempty (table : String) : tokens ⟨table, [], []⟩ =
      [.word "CREATE", .word "TABLE", .word table, .opening, .closing, .semicolon] := rfl
  constructor
  · intro h
    unfold ofTokens? at h
    split at h
    · next table =>
      cases h
      exact (hempty table).symm
    · next table ts _ =>
      obtain ⟨⟨columns, keys⟩, hread, rfl⟩ := Option.map_eq_some_iff.1 h
      obtain ⟨-, hts⟩ := words_of_definitions? hread
      rw [List.map_nil, List.nil_append] at hts
      simp [tokens, hts]
    · cases h
  · rintro rfl
    obtain ⟨table, columns, keys⟩ := d
    by_cases hnone : columns = [] ∧ keys = []
    · obtain ⟨rfl, rfl⟩ := hnone
      rfl
    · have hread := definitions?_bodyTokens (not_and_or.1 hnone)
      have htokens : tokens ⟨table, columns, keys⟩ =
          .word "CREATE" :: .word "TABLE" :: .word table :: .opening ::
            (bodyTokens columns keys ++ [.closing, .semicolon]) := by
        simp [tokens]
      rw [htokens, ofTokens?, hread]
      · rfl
      · -- there is something to define
        intro hend
        rw [hend] at hread
        cases hread

end TableDef

/-! ### Texts -/

/-- Whether a text can be told from what stands around it in a definition: it is not empty, and has no
blanks, commas, semicolons and parentheses. -/
def IsName (name : String) : Prop :=
  name ≠ "" ∧ ∀ c ∈ name.toList,
    c ∉ SqlToken.blanks ∧ c ≠ ',' ∧ c ≠ ';' ∧ c ≠ '(' ∧ c ≠ ')'

instance (name : String) : Decidable (IsName name) :=
  @instDecidableAnd _ _ _ (List.decidableBAll _ _)

namespace SqlToken

theorem isWordChar_of_isName {name : String} (h : IsName name) :
    ∀ c ∈ name.toList, isWordChar c = true := by
  intro c hc
  obtain ⟨hblank, hcomma, hsemicolon, hopening, hclosing⟩ := h.2 c hc
  have hfeed : c ≠ '\n' := by
    rintro rfl
    exact hblank (by decide)
  have hnone : marks.lookup c = none := by
    rw [List.lookup_eq_none_iff]
    simp [marks, hcomma, hsemicolon, hopening, hclosing, hfeed]
  simp [isWordChar, hblank, hnone]

theorem split_of_word {cs : List Char} (h : ∀ c ∈ cs, isWordChar c = true)
    (before rest : List Char) : split before (cs ++ rest) = split (before ++ cs) rest := by
  induction cs generalizing before with
  | nil => simp
  | cons c cs ih =>
    rw [List.forall_mem_cons] at h
    rw [List.cons_append, split, if_pos h.1, ih h.2, List.append_assoc]
    rfl

/-- Whether a text has the given tokens before any character that is part of no word. -/
def Splits (text : String) (ts : List SqlToken) : Prop :=
  ∀ c rest, isWordChar c = false →
    split [] (text.toList ++ c :: rest) = ts ++ split [] (c :: rest)

/-- Whether no character of a text is part of a word. -/
def IsGap (gap : String) : Prop := gap ≠ "" ∧ ∀ c ∈ gap.toList, isWordChar c = false

instance (gap : String) : Decidable (IsGap gap) :=
  @instDecidableAnd _ _ _ (List.decidableBAll _ _)

/-- The tokens of a text whose characters are part of no word. -/
def gapTokens (gap : String) : List SqlToken := gap.toList.flatMap ofChar

theorem split_of_gap {cs : List Char} (h : ∀ c ∈ cs, isWordChar c = false) (rest : List Char) :
    split [] (cs ++ rest) = cs.flatMap ofChar ++ split [] rest := by
  induction cs with
  | nil => rfl
  | cons c cs ih =>
    rw [List.forall_mem_cons] at h
    rw [List.cons_append, split, h.1, ih h.2, List.flatMap_cons]
    simp [ofWord]

theorem splits_empty : Splits "" [] := fun _ _ _ => rfl

theorem splits_name {name : String} (h : IsName name) : Splits name [word name] := by
  intro c rest hc
  have hne : name.toList ≠ [] := fun hnil => h.1 (String.toList_eq_nil_iff.1 hnil)
  rw [split_of_word (isWordChar_of_isName h), List.nil_append, split, split, hc, ofWord,
    if_neg hne, String.ofList_toList]
  rfl

/-- Two texts with something between them that is part of no word. -/
theorem Splits.append {text more gap : String} {ts ts' : List SqlToken} (h : Splits text ts)
    (hgap : IsGap gap) (h' : Splits more ts') :
    Splits (text ++ gap ++ more) (ts ++ gapTokens gap ++ ts') := by
  intro c rest hc
  obtain ⟨d, ds, hds⟩ := List.exists_cons_of_ne_nil fun hnil =>
    hgap.1 (String.toList_eq_nil_iff.1 hnil)
  have hd : isWordChar d = false := hgap.2 d (hds ▸ List.mem_cons_self)
  have hfirst := h d (ds ++ (more.toList ++ c :: rest)) hd
  rw [← List.cons_append, ← hds, split_of_gap hgap.2, h' c rest hc] at hfirst
  simpa [gapTokens] using hfirst

/-- Texts that are joined by something that is part of no word. -/
theorem Splits.join {gap : String} (hgap : IsGap gap) {texts : List String}
    {tss : List (List SqlToken)} (h : List.Forall₂ Splits texts tss) :
    Splits (Text.join gap texts) ((gapTokens gap).intercalate tss) := by
  induction h with
  | nil => exact splits_empty
  | cons hfirst hrest ih =>
    cases hrest with
    | nil => simpa [Text.join] using hfirst
    | cons hnext hrest =>
      rw [List.intercalate_cons_cons]
      exact hfirst.append hgap ih

end SqlToken

open SqlToken (Splits splits_name)

/-- Names that are joined. -/
theorem splits_names {gap : String} (hgap : SqlToken.IsGap gap) {names : List String}
    (h : ∀ name ∈ names, IsName name) :
    Splits (Text.join gap names)
      ((SqlToken.gapTokens gap).intercalate (names.map fun name => [.word name])) := by
  refine SqlToken.Splits.join hgap ?_
  rw [List.forall₂_map_right_iff]
  exact List.forall₂_same.2 fun name hname => splits_name (h name hname)

theorem splits_words {names : List String} (h : ∀ name ∈ names, IsName name) :
    Splits (Text.join " " names) (names.map .word) := by
  have hnames := splits_names (by decide +kernel : SqlToken.IsGap " ") h
  have hgap : SqlToken.gapTokens " " = [] := by decide +kernel
  have hflat (names : List String) :
      List.intercalate [] (names.map fun name => [SqlToken.word name]) = names.map .word := by
    induction names with
    | nil => rfl
    | cons name names ih =>
      by_cases hne : names = []
      · simp [hne]
      · rw [List.map_cons, List.intercalate_cons_of_ne_nil (by simpa using hne), ih]
        rfl
  rwa [hgap, hflat] at hnames

namespace ColumnDef

theorem render_eq (d : ColumnDef) : d.render = Text.join " " d.words := by
  obtain ⟨name, storage, notNull, primaryKey⟩ := d
  cases notNull <;> cases primaryKey <;> simp [render, words, Text.join, String.append_assoc]

theorem isName_of_mem_words {d : ColumnDef} (h : IsName d.name) : ∀ w ∈ d.words, IsName w := by
  have hstorage (s : Storage) : IsName s.sql := by
    cases s <;> decide +kernel
  have hflags : IsName "NOT" ∧ IsName "NULL" ∧ IsName "PRIMARY" ∧ IsName "KEY" := by
    decide +kernel
  obtain ⟨name, storage, notNull, primaryKey⟩ := d
  cases notNull <;> cases primaryKey <;> simp [words, h, hstorage, hflags]

theorem splits_render {d : ColumnDef} (h : IsName d.name) :
    Splits d.render (d.words.map .word) := by
  rw [render_eq]
  exact splits_words (isName_of_mem_words h)

end ColumnDef

namespace TableDef

/-- Whether the names in a definition can be told from what stands around them. -/
structure Legible (d : TableDef) : Prop where
  table : IsName d.table
  columns : ∀ c ∈ d.columns, IsName c.name
  keys : ∀ key ∈ d.keys, IsName key

theorem splits_keyClause {d : TableDef} (h : d.Legible) :
    List.Forall₂ Splits d.keyClause (clauseTokens d.keys) := by
  unfold keyClause clauseTokens
  split
  · exact .nil
  · have hopen : SqlToken.IsGap "(" ∧ SqlToken.gapTokens "(" = [.opening] := by decide +kernel
    have hcomma : SqlToken.IsGap ", " ∧ SqlToken.gapTokens ", " = [.comma] := by decide +kernel
    have hclose : SqlToken.IsGap ")" ∧ SqlToken.gapTokens ")" = [.closing] := by decide +kernel
    have hwords := splits_words (by decide +kernel : ∀ name ∈ ["PRIMARY", "KEY"], IsName name)
    have hclause := (hwords.append hopen.1 (splits_names hcomma.1 h.keys)).append hclose.1
      SqlToken.splits_empty
    rw [hopen.2, hcomma.2, hclose.2] at hclause
    refine .cons ?_ .nil
    simpa [Text.join, nameTokens] using hclause

/-- **A definition has the tokens that it is written with.** -/
theorem split_render {d : TableDef} (h : d.Legible) :
    SqlToken.split [] d.render.toList = d.tokens := by
  have hopen : SqlToken.IsGap " (" ∧ SqlToken.gapTokens " (" = [.opening] := by decide +kernel
  have hline : SqlToken.IsGap ",\n" ∧ SqlToken.gapTokens ",\n" = [.comma, .lineEnd] := by
    decide +kernel
  have hend : SqlToken.split [] [')', ';'] = [.closing, .semicolon] := by decide +kernel
  have hstart : ∀ name ∈ ["CREATE", "TABLE", d.table], IsName name := by
    have hfixed : IsName "CREATE" ∧ IsName "TABLE" := by decide +kernel
    simp [h.table, hfixed]
  have hcolumns : List.Forall₂ Splits (d.columns.map ColumnDef.render)
      (d.columns.map (·.words.map .word)) := by
    rw [List.forall₂_map_left_iff, List.forall₂_map_right_iff]
    exact List.forall₂_same.2 fun c hc => ColumnDef.splits_render (h.columns c hc)
  have hbody := SqlToken.Splits.join hline.1 (List.rel_append hcolumns (splits_keyClause h))
  have hall := (splits_words hstart).append hopen.1 hbody ')' [';'] (by decide)
  have htext : d.render.toList = (Text.join " " ["CREATE", "TABLE", d.table] ++ " (" ++
      Text.join ",\n" (d.columns.map ColumnDef.render ++ d.keyClause)).toList ++ [')', ';'] := by
    show ("CREATE TABLE " ++ d.table ++ " (" ++
      Text.join ",\n" (d.columns.map ColumnDef.render ++ d.keyClause) ++ ");").toList = _
    simp [Text.join]
  rw [htext, hall, hopen.2, hline.2, hend]
  simp [tokens, bodyTokens]

/-- **A definition is read as it is written.** -/
theorem read?_render {d : TableDef} (h : d.Legible) : read? d.render = some d :=
  ofTokens?_eq_some_iff.2 (split_render h)

/-! ### Tables with some columns -/

/-- The names that a definition declares the primary key: those of columns that are marked in their own
definitions, and those in the clause. -/
def primaryKey (d : TableDef) : List String :=
  (d.columns.filter (·.primaryKey)).map (·.name) ++ d.keys

theorem legible_ofColumns {table : String} {columns : List Column} (htable : IsName table)
    (hcolumns : ∀ c ∈ columns, IsName c.name) : (ofColumns table columns).Legible := by
  refine ⟨htable, fun d hd => ?_, fun key hkey => ?_⟩
  · obtain ⟨c, hc, rfl⟩ := List.mem_map.1 hd
    exact hcolumns c hc
  · simp only [ofColumns] at hkey
    split at hkey
    · obtain ⟨c, hc, rfl⟩ := List.mem_map.1 hkey
      exact hcolumns c (List.mem_of_mem_filter hc)
    · cases hkey

/-- What the definition of a table with some columns says: each column once, in their order, and the
key columns as the primary key. -/
structure Describes (d : TableDef) (table : String) (columns : List Column) : Prop where
  named : d.table = table
  defined : d.columns.map (fun c => (c.name, c.storage, c.notNull)) =
    columns.map fun c => (c.name, c.type.storage, c.notNull)
  /-- The primary key is made of the key columns, in their order. -/
  keyed : d.primaryKey = (columns.filter (·.key)).map (·.name)
  /-- A single key column is marked in its own definition. -/
  single : (columns.filter (·.key)).length = 1 →
    d.columns.map (·.primaryKey) = columns.map (·.key) ∧ d.keys = []
  /-- Several key columns are named in the clause. -/
  several : 1 < (columns.filter (·.key)).length →
    (∀ c ∈ d.columns, c.primaryKey = false) ∧ d.keys = (columns.filter (·.key)).map (·.name)
  none : columns.filter (·.key) = [] → (∀ c ∈ d.columns, c.primaryKey = false) ∧ d.keys = []

section Keys

variable (table : String) (columns : List Column)

/-- A definition marks its column as the key only where it is the single one. -/
theorem columns_ofColumns_eq : (ofColumns table columns).columns =
    columns.map fun c => .ofColumn c (c.key && (columns.filter (·.key)).length = 1) := by
  simp only [ofColumns, List.length_map]

theorem keys_ofColumns : (ofColumns table columns).keys =
    if 1 < (columns.filter (·.key)).length then (columns.filter (·.key)).map (·.name) else [] := by
  simp only [ofColumns, List.length_map]

theorem unmarked_ofColumns (h : (columns.filter (·.key)).length ≠ 1) :
    ∀ c ∈ (ofColumns table columns).columns, c.primaryKey = false := by
  intro d hd
  rw [columns_ofColumns_eq] at hd
  obtain ⟨c, -, rfl⟩ := List.mem_map.1 hd
  simp [ColumnDef.ofColumn, h]

theorem marked_ofColumns (h : (columns.filter (·.key)).length = 1) :
    (ofColumns table columns).columns = columns.map fun c => .ofColumn c c.key := by
  simp [columns_ofColumns_eq, h]

/-- The key columns are those of the primary key, marked or named in the clause. -/
theorem primaryKey_ofColumns :
    (ofColumns table columns).primaryKey = (columns.filter (·.key)).map (·.name) := by
  rw [primaryKey, keys_ofColumns]
  by_cases hone : (columns.filter (·.key)).length = 1
  · rw [marked_ofColumns table columns hone, hone, List.filter_map, List.map_map]
    exact List.append_nil _
  · have hmarked : (ofColumns table columns).columns.filter (·.primaryKey) = [] := by
      rw [List.filter_eq_nil_iff]
      intro c hc
      simp [unmarked_ofColumns table columns hone c hc]
    rw [hmarked, List.map_nil, List.nil_append]
    split
    · rfl
    · next hfew =>
      have hnone : columns.filter (·.key) = [] := List.length_eq_zero_iff.1 (by omega)
      rw [hnone, List.map_nil]

theorem describes_ofColumns : (ofColumns table columns).Describes table columns where
  named := rfl
  defined := by
    rw [columns_ofColumns_eq, List.map_map]
    rfl
  keyed := primaryKey_ofColumns table columns
  single h := by
    rw [marked_ofColumns table columns h, keys_ofColumns, h, List.map_map]
    exact ⟨rfl, rfl⟩
  several h := by
    rw [keys_ofColumns, if_pos h]
    exact ⟨unmarked_ofColumns table columns (by omega), rfl⟩
  none h := by
    rw [keys_ofColumns, h]
    exact ⟨unmarked_ofColumns table columns (by simp [h]), rfl⟩

end Keys

/-- **The definition of a table with some columns can be read back.** -/
theorem read?_ofColumns {table : String} {columns : List Column} (htable : IsName table)
    (hcolumns : ∀ c ∈ columns, IsName c.name) :
    ∃ d, read? (ofColumns table columns).render = some d ∧ d.Describes table columns :=
  ⟨ofColumns table columns, read?_render (legible_ofColumns htable hcolumns),
    describes_ofColumns table columns⟩

/-- Columns that are named like words of a definition, two of them keys. -/
def keywordColumns : List Column :=
  [column "PRIMARY" .long true false, column "NOT" .string false true,
    column "KEY" .string true true]
where
  column (name : String) (type : ColumnType) (key notNull : Bool) : Column :=
    { enclosing := 1, element := 2, kind := .field, elementName := "value", type, name, key
      ignoreNull := false, version := 1, getter := none, setter := none, notNull }

/-- Words of a definition may be names in it. -/
theorem read?_keywordColumns :
    IsName "TABLE" ∧ (∀ c ∈ keywordColumns, IsName c.name) ∧
      (ofColumns "TABLE" keywordColumns).render =
        "CREATE TABLE TABLE (PRIMARY INTEGER,\nNOT TEXT NOT NULL,\nKEY TEXT NOT NULL,\n" ++
          "PRIMARY KEY(PRIMARY, KEY));" ∧
      ∃ d, read? (ofColumns "TABLE" keywordColumns).render = some d ∧
        d.Describes "TABLE" keywordColumns := by
  have htable : IsName "TABLE" := by decide +kernel
  have hcolumns : ∀ c ∈ keywordColumns, IsName c.name := by decide +kernel
  exact ⟨htable, hcolumns, by decide +kernel, read?_ofColumns htable hcolumns⟩

end TableDef

end ResolverGen
