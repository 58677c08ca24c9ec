/-
The items that written arguments are read as.

A value is a literal, whether it ends the list or a comma follows, in which case it is read as an
expression (`expression_value`). So each entry is read as one item with its key and its value
(`Entry.read_trees`), and written entries as the items of the entries (`ofText_writeAll`), whether a
comma ends them or not.
-/
import ResolverGen.Argument.Item
import ResolverGen.Proofs.Argument.Tokens

namespace ResolverGen.Argument

/-- The literal of a value. -/
def Value.literal : Value → Literal
  | text value => .text value
  | flag value => .boolean value
  | number value => .integer value

/-- The item of an entry. -/
def Entry.item (e : Entry) : Item := .named e.key (.value (.literal e.value.literal))

/-- The trees of an entry. -/
def Entry.trees (e : Entry) : List Tree := e.tokens.map Token.tree

/-- The trees of what stands behind an entry. -/
def treesMore (comma : Bool) (es : List Entry) : List Tree := (tokensMore comma es).map Token.tree

/-- A reader that comes to an end is followed by the next one. -/
theorem Reader.bind_ok {α β : Type} {read : Reader α} {next : α → Reader β} {a : α}
    {c d : Cursor} (h : read c = .ok (a, d)) : (read >>= next) c = next a d := by
  change (read c >>= fun result => next result.1 result.2) = _
  rw [h]
  rfl

theorem Reader.map_ok {α β : Type} {read : Reader α} {f : α → β} {a : α} {c d : Cursor}
    (h : read c = .ok (a, d)) : (f <$> read) c = .ok (f a, d) := by
  change (read c >>= fun result => .ok (f result.1, result.2)) = _
  rw [h]
  rfl

section

variable {o : Option Delimiter}

theorem Value.literal?_tree (v : Value) (ts : List Tree) :
    literal? (v.token.tree :: ts) = some (v.literal, ts) := by
  cases v with
  | flag value => cases value <;> rfl
  | _ => rfl

/-- A value before a comma is an expression by itself. -/
theorem expression_value (v : Value) (ts : List Tree) :
    expression ⟨v.token.tree :: .mark ',' false :: ts, o⟩ =
      .ok (.literal v.literal, ⟨.mark ',' false :: ts, o⟩) := by
  -- a literal needs four steps down the grammar, and there is more fuel than that
  have hread (fuel : Nat) :
      expressionWith (fuel + 4) true ⟨v.token.tree :: .mark ',' false :: ts, o⟩ =
        .ok (.literal v.literal, ⟨.mark ',' false :: ts, o⟩) := by
    cases v with
    | flag value => cases value <;> rfl
    | _ => rfl
  obtain ⟨fuel, hfuel⟩ : ∃ fuel,
      32 * (sizeAll (v.token.tree :: .mark ',' false :: ts) + 2) = fuel + 4 :=
    ⟨32 * (sizeAll (v.token.tree :: .mark ',' false :: ts) + 2) - 4, by omega⟩
  rw [expression, Reader.bind_ok rfl, hfuel]
  exact hread fuel

/-- A value is read as its literal, whatever entries follow. -/
theorem Item.value_tree (v : Value) (comma : Bool) (es : List Entry) :
    Item.value ⟨v.token.tree :: treesMore comma es, o⟩ =
      .ok (.literal v.literal, ⟨treesMore comma es, o⟩) := by
  -- only a literal that nothing follows is taken as it is
  have hlast : Item.value ⟨[v.token.tree], o⟩ = .ok (.literal v.literal, ⟨[], o⟩) := by
    rw [Item.value, Reader.bind_ok rfl, v.literal?_tree]
    rfl
  have hinner (ts : List Tree) : Item.value ⟨v.token.tree :: .mark ',' false :: ts, o⟩ =
      .ok (.literal v.literal, ⟨.mark ',' false :: ts, o⟩) := by
    have hattribute : atMark "#" (v.token.tree :: .mark ',' false :: ts) = false := by
      cases v with
      | flag value => cases value <;> rfl
      | _ => rfl
    rw [Item.value, Reader.bind_ok rfl, v.literal?_tree]
    dsimp only
    rw [hattribute, Bool.false_and, if_neg Bool.false_ne_true, expression_value]
  cases es with
  | nil =>
    cases comma with
    | false => exact hlast
    | true => exact hinner []
  | cons e es => exact hinner _

/-- A word before an equals sign is the path of an item, even a truth value. -/
theorem Item.read_path (key : String) (ts : List Tree) :
    Item.read ⟨.word key :: .mark '=' false :: ts, o⟩ =
      (do let content ← Item.content; pure (.named key content) : Reader Item)
        ⟨.mark '=' false :: ts, o⟩ := by
  have hpath : (literal? (.word key :: .mark '=' false :: ts)).filter
      (fun _ => !Item.isPath (.word key :: .mark '=' false :: ts)) = none := by
    cases literal? (.word key :: .mark '=' false :: ts) <;> rfl
  have htail : Item.pathTail ((Tree.mark '=' false :: ts).length + 1)
      ⟨.mark '=' false :: ts, o⟩ = .ok ([], ⟨.mark '=' false :: ts, o⟩) := rfl
  rw [Item.read, Reader.bind_ok rfl]
  dsimp only
  rw [hpath]
  dsimp only
  rw [Reader.bind_ok rfl, Reader.bind_ok htail]
  rfl

/-- An entry is read as its item, whatever entries follow. -/
theorem Entry.read_trees (e : Entry) (comma : Bool) (es : List Entry) :
    Item.read ⟨e.trees ++ treesMore comma es, o⟩ = .ok (e.item, ⟨treesMore comma es, o⟩) := by
  have hcontent : Item.content ⟨.mark '=' false :: e.value.token.tree :: treesMore comma es, o⟩ =
      .ok (.value (.literal e.value.literal), ⟨treesMore comma es, o⟩) := by
    have hmark : Reader.mark? "=" ⟨.mark '=' false :: e.value.token.tree :: treesMore comma es, o⟩ =
        .ok (true, ⟨e.value.token.tree :: treesMore comma es, o⟩) := rfl
    rw [Item.content, Reader.bind_ok rfl]
    dsimp only
    rw [Reader.bind_ok hmark, if_pos rfl, Reader.map_ok (Item.value_tree e.value comma es)]
  have htrees : e.trees ++ treesMore comma es =
      .word e.key :: .mark '=' false :: e.value.token.tree :: treesMore comma es := rfl
  rw [htrees, Item.read_path, Reader.bind_ok hcontent]
  rfl

/-- One entry is read, and the next ones behind a comma. -/
theorem separated_step (e : Entry) (comma : Bool) (es : List Entry) (fuel : Nat) :
    Reader.separated Item.read (fuel + 1) ⟨e.trees ++ treesMore comma es, o⟩ =
      (do
        if ← Reader.sees List.isEmpty then pure [e.item]
        else
          Reader.mark ","
          let items ← Reader.separated Item.read fuel
          pure (e.item :: items) : Reader (List Item)) ⟨treesMore comma es, o⟩ := by
  have hsome : Reader.sees List.isEmpty ⟨e.trees ++ treesMore comma es, o⟩ =
      .ok (false, ⟨e.trees ++ treesMore comma es, o⟩) := rfl
  rw [Reader.separated, Reader.bind_ok hsome, if_neg Bool.false_ne_true,
    Reader.bind_ok (e.read_trees comma es)]

/-- Entries are read to their end, with a comma there or not. -/
theorem separated_trees (e : Entry) (comma : Bool) {es : List Entry} {fuel : Nat}
    (hfuel : es.length < fuel) :
    Reader.separated Item.read fuel ⟨e.trees ++ treesMore comma es, o⟩ =
      .ok ((e :: es).map Entry.item, ⟨[], o⟩) := by
  induction es generalizing e fuel with
  | nil =>
    cases fuel with
    | zero => cases hfuel
    | succ fuel =>
      rw [separated_step]
      cases comma with
      | false => rfl
      | true => cases fuel <;> rfl
  | cons e' es ih =>
    cases fuel with
    | zero => cases hfuel
    | succ fuel =>
      have htrees : treesMore comma (e' :: es) =
          .mark ',' false :: (e'.trees ++ treesMore comma es) := by
        simp [treesMore, tokensMore, Entry.trees, Token.tree]
      have hmark : Reader.mark "," ⟨.mark ',' false :: (e'.trees ++ treesMore comma es), o⟩ =
          .ok ((), ⟨e'.trees ++ treesMore comma es, o⟩) := rfl
      have hsome : Reader.sees List.isEmpty
          ⟨.mark ',' false :: (e'.trees ++ treesMore comma es), o⟩ =
            .ok (false, ⟨.mark ',' false :: (e'.trees ++ treesMore comma es), o⟩) := rfl
      rw [separated_step, htrees, Reader.bind_ok hsome, if_neg Bool.false_ne_true,
        Reader.bind_ok hmark, Reader.bind_ok (ih e' (Nat.lt_of_succ_lt_succ hfuel))]
      rfl

end

theorem length_le_treesMore (comma : Bool) (es : List Entry) :
    es.length ≤ (treesMore comma es).length := by
  rw [treesMore, List.length_map]
  induction es with
  | nil => exact Nat.zero_le _
  | cons e es ih =>
    rw [tokensMore, List.length_cons, List.length_cons, List.length_append]
    omega

/-- **Written entries are read as their items**, with a comma behind the last one or not. -/
theorem ofText_writeAll (comma : Bool) {es : List Entry} (hes : ∀ e ∈ es, e.HasPlainKey) :
    Item.ofText (String.ofList (writeAll comma es)) = .ok (es.map Entry.item) := by
  rw [Item.ofText, trees?_writeAll comma hes]
  cases es with
  | nil => rfl
  | cons e es =>
    have htrees : (tokensAll comma (e :: es)).map Token.tree = e.trees ++ treesMore comma es := by
      simp [tokensAll, Entry.trees, treesMore]
    have hfuel : es.length < (e.trees ++ treesMore comma es).length + 1 := by
      have := length_le_treesMore comma es
      rw [List.length_append]
      omega
    have hread := separated_trees (o := none) e comma hfuel
    rw [htrees]
    dsimp only
    rw [Item.ofTrees, Reader.run, allItems, Reader.bind_ok rfl, hread]

end ResolverGen.Argument
