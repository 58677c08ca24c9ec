/-
The constants of a table class.

A table class names its table `NAME`, and each column by the name of its element in capitals with
`_COLUMN` behind it. The conversion forgets letter case, and where a word ends it does not tell
whether there was a separator: `userId` and `user_id` both give `USER_ID_COLUMN`. It forgets nothing
else.

* `filter_constantCase` — a converted name has the letters of the name,
* `constantCase_eq_iff` — names of printable ASCII characters are converted alike just if they have
  the same words in capitals,
* `constants_of_mem_accepted` — the constants of an accepted entity's table class, and when they have
  distinct names.
-/
import ResolverGen.Proofs.Round.Accepted
import ResolverGen.Proofs.Schema.Upgrade

namespace ResolverGen

/-! ### Clusters of single characters -/

namespace Unicode

/-- Whether a text is made of printable ASCII characters. -/
def PrintableAscii (cs : List Char) : Prop := ∀ c ∈ cs, 0x20 ≤ c.toNat ∧ c.toNat < 0x7f

variable {cs current : List Char}

theorem BreakClass.of_printable {n : Nat} (h : 0x20 ≤ n ∧ n < 0x7f) : of n = .other := by
  simp [of, h]

theorem clustersFrom_of_printable {ctx : BreakContext} (hlast : ctx.last = .other)
    (hconjunct : ctx.conjunct = .none) (h : PrintableAscii cs) :
    clustersFrom ctx current cs = current.reverse :: cs.map ([·]) := by
  induction cs generalizing ctx current with
  | nil => rfl
  | cons c cs ih =>
    have hc := h c List.mem_cons_self
    have hclass := BreakClass.of_printable hc
    have hcut : ctx.cutsBefore c.toNat = true := by
      simp [BreakContext.cutsBefore, hlast, hconjunct, hclass]
    have hafter : (BreakContext.after none c.toNat).conjunct = .none := by
      have hsmall : c.toNat < 0x300 := by omega
      simp [BreakContext.after, hsmall]
    rw [clustersFrom, if_pos hcut, ih hclass hafter fun d hd => h d (List.mem_cons_of_mem c hd)]
    rfl

/-- Printable ASCII characters are clusters of their own. -/
theorem clusters_of_printable (h : PrintableAscii cs) : clusters cs = cs.map ([·]) := by
  cases cs with
  | nil => rfl
  | cons c cs =>
    have hc := h c List.mem_cons_self
    have hsmall : c.toNat < 0x300 := by omega
    rw [clusters, clustersFrom_of_printable (BreakClass.of_printable hc)
      (by simp [BreakContext.after, hsmall]) fun d hd => h d (List.mem_cons_of_mem c hd)]
    rfl

end Unicode

/-! ### Names in capitals -/

namespace Naming

open Unicode

/-- The characters that separate the words of a name. -/
def isMark (c : Char) : Bool := c == '_' || c == '-' || c == ' '

/-- The characters of a text in capitals, those that separate words left out. -/
def bareCapitals (cs : List Char) : List Char := (upperAll cs).filter (!isMark ·)

/-- The words of a name in capitals. -/
def capitalWords (name : String) : List (List Char) := (words name.toList).map upperAll

variable {current : List Char} {gs : List (List Char)}

theorem bareCapitals_append (xs ys : List Char) :
    bareCapitals (xs ++ ys) = bareCapitals xs ++ bareCapitals ys := by
  rw [bareCapitals, upperAll, List.flatMap_append, List.filter_append]
  rfl

theorem bareCapitals_of_isSeparator {g : List Char} (h : isSeparator g = true) :
    bareCapitals g = [] := by
  simp only [isSeparator, Bool.or_eq_true, beq_iff_eq] at h
  rcases h with (rfl | rfl) | rfl
  · decide
  · decide
  · decide

/-- What separates words is left out, and all else is in one of them. -/
theorem bareCapitals_wordsFrom (current : List Char) (gs : List (List Char)) :
    (wordsFrom current gs).flatMap bareCapitals = bareCapitals (current ++ gs.flatten) := by
  -- by induction on the clusters, whatever the word has got so far
  induction gs generalizing current with
  | nil => simp [wordsFrom]
  | cons g gs ih =>
    unfold wordsFrom
    split
    · next hseparator =>
      rw [List.flatMap_cons, ih, List.flatten_cons, List.nil_append, bareCapitals_append,
        bareCapitals_append g, bareCapitals_of_isSeparator hseparator, List.nil_append]
    · split
      · rw [List.flatMap_cons, ih, List.flatten_cons, ← List.append_assoc,
          bareCapitals_append (current ++ g), List.nil_append]
      · rw [ih, List.flatten_cons, List.append_assoc]

theorem filter_intercalate (ws : List (List Char)) :
    (List.intercalate ['_'] ws).filter (!isMark ·) = ws.flatMap (·.filter (!isMark ·)) := by
  induction ws with
  | nil => rfl
  | cons w ws ih =>
    cases ws with
    | nil => simp
    | cons v ws =>
      have hmark : (['_'] : List Char).filter (!isMark ·) = [] := by decide
      rw [List.intercalate_cons_cons, List.filter_append, List.filter_append, ih, hmark,
        List.append_nil]
      rfl

/-- A converted name has the letters of the name in capitals, in their order. -/
theorem filter_constantCase (name : String) :
    (constantCase name).toList.filter (!isMark ·) = bareCapitals name.toList := by
  have hwords : (words name.toList).flatMap bareCapitals = bareCapitals name.toList := by
    rw [words, bareCapitals_wordsFrom, List.nil_append, flatten_clusters]
  rw [constantCase, String.toList_ofList, filter_intercalate, List.flatMap_map]
  exact hwords

theorem bareCapitals_eq_of_constantCase_eq {a b : String} (h : constantCase a = constantCase b) :
    bareCapitals a.toList = bareCapitals b.toList := by
  rw [← filter_constantCase, h, filter_constantCase]

theorem wordsFrom_ne_nil (current : List Char) (gs : List (List Char)) :
    wordsFrom current gs ≠ [] := by
  induction gs generalizing current with
  | nil => simp [wordsFrom]
  | cons g gs ih =>
    unfold wordsFrom
    split
    · exact List.cons_ne_nil _ _
    · split
      · exact List.cons_ne_nil _ _
      · exact ih _

/-- Words are made of what stands between separators. -/
theorem forall_mem_wordsFrom {P : Char → Prop} (hcurrent : ∀ c ∈ current, P c)
    (h : ∀ g ∈ gs, isSeparator g = false → ∀ c ∈ g, P c) :
    ∀ w ∈ wordsFrom current gs, ∀ c ∈ w, P c := by
  induction gs generalizing current with
  | nil =>
    intro w hw
    rw [List.mem_singleton.1 hw]
    exact hcurrent
  | cons g gs ih =>
    have hrest := fun x hx => h x (List.mem_cons_of_mem g hx)
    have hnil : ∀ c ∈ ([] : List Char), P c := fun c hc => absurd hc List.not_mem_nil
    unfold wordsFrom
    split
    · intro w hw
      rcases List.mem_cons.1 hw with rfl | hw
      · exact hcurrent
      · exact ih hnil hrest w hw
    · next hseparator =>
      have hword : ∀ c ∈ current ++ g, P c := fun c hc => (List.mem_append.1 hc).elim (hcurrent c)
        (h g List.mem_cons_self (by simpa using hseparator) c)
      split
      · intro w hw
        rcases List.mem_cons.1 hw with rfl | hw
        · exact hword
        · exact ih hnil hrest w hw
      · exact ih hword hrest

theorem toUpper_ne_underscore {c : Char} (h : c ≠ '_') : c.toUpper ≠ '_' := by
  intro heq
  unfold Char.toUpper at heq
  split at heq
  · next hsmall =>
    -- a capital is 32 below its letter, and what is 32 above the underscore is no letter
    have hval := congrArg Char.toNat heq
    have hshift : ('A'.val - 'a'.val).toNat = 4294967264 := rfl
    have hunder : '_'.toNat = 95 := rfl
    have hlow : 97 ≤ c.val.toNat := UInt32.le_iff_toNat_le.1 hsmall.1
    have hhigh : c.val.toNat ≤ 122 := UInt32.le_iff_toNat_le.1 hsmall.2
    rw [hunder, Char.toNat, UInt32.toNat_add, hshift] at hval
    omega
  · exact h heq

/-- In a name of printable ASCII characters no word has an underscore. -/
theorem not_mem_of_mem_capitalWords {name : String} (h : PrintableAscii name.toList) :
    ∀ w ∈ capitalWords name, '_' ∉ w := by
  intro v hv
  obtain ⟨w, hw, rfl⟩ := List.mem_map.1 hv
  have hcapital : ∀ c ∈ w, '_' ∉ upper c := by
    rw [words, clusters_of_printable h] at hw
    refine forall_mem_wordsFrom (P := fun c => '_' ∉ upper c)
      (fun c hc => absurd hc List.not_mem_nil) (fun g hg hseparator => ?_) w hw
    obtain ⟨c, hc, rfl⟩ := List.mem_map.1 hg
    intro d hd
    rw [List.mem_singleton.1 hd, upper_ascii (by have := h c hc; omega), List.mem_singleton]
    have hne : c ≠ '_' := by
      rintro rfl
      cases hseparator
    exact (toUpper_ne_underscore hne).symm
  intro hmem
  obtain ⟨c, hc, hunder⟩ := List.mem_flatMap.1 hmem
  exact hcapital c hc hunder

/-- Names of printable ASCII characters are converted alike just if they have the same words in
capitals. -/
theorem constantCase_eq_iff {a b : String} (ha : PrintableAscii a.toList)
    (hb : PrintableAscii b.toList) :
    constantCase a = constantCase b ↔ capitalWords a = capitalWords b := by
  have hsplit : ∀ name : String, PrintableAscii name.toList →
      (constantCase name).toList.splitOn '_' = capitalWords name := by
    intro name hname
    have hne : capitalWords name ≠ [] := by
      rw [capitalWords, words, ne_eq, List.map_eq_nil_iff]
      exact wordsFrom_ne_nil [] (clusters name.toList)
    rw [constantCase, String.toList_ofList]
    exact List.splitOn_intercalate '_' (not_mem_of_mem_capitalWords hname) hne
  constructor
  · intro heq
    rw [← hsplit a ha, heq, hsplit b hb]
  · intro heq
    unfold capitalWords at heq
    rw [constantCase, heq, constantCase]

end Naming

/-! ### Constants -/

open Code

namespace Code

/-- A member as a constant, with its name and its value. -/
def Member.constant? : Member → Option (String × String)
  | .constant _ name value => some (name, value)
  | .method _ => none

/-- The constants that a unit declares, in order. -/
def SourceUnit.constants (u : SourceUnit) : List (String × String) :=
  u.decl.members.filterMap Member.constant?

/-- The names of the constants that a unit declares. -/
def SourceUnit.constantNames (u : SourceUnit) : List String := u.constants.map (·.1)

end Code

namespace TableClass

variable (table : String) (e : Entity)

theorem constants_unit : (unit table e).constants =
    ("NAME", table) :: e.columns.map fun c => (constantName c, c.name) := by
  obtain ⟨string, database, hmembers⟩ := members_unit table e
  rw [SourceUnit.constants, hmembers]
  simp [List.filterMap_map, Function.comp_def, Member.constant?, procedure]

/-- No column takes the name of the table's constant. -/
theorem constantName_ne_name (c : Column) : constantName c ≠ "NAME" := by
  intro h
  have hlast := congrArg (fun s => s.toList.getLast?) h
  simp [constantName] at hlast

theorem constantName_eq_iff {c d : Column} : constantName c = constantName d ↔
    Naming.constantCase c.elementName = Naming.constantCase d.elementName := by
  simp [constantName]

/-- Where `g` takes together only what `f` takes together, it has distinct values if `f` has. -/
theorem nodup_map_of_imp {α β γ : Type} {f : α → β} {g : α → γ} {l : List α}
    (h : ∀ a ∈ l, ∀ b ∈ l, g a = g b → f a = f b) (hnodup : (l.map f).Nodup) :
    (l.map g).Nodup :=
  hnodup.of_map.map_on fun a ha b hb hab =>
    List.inj_on_of_nodup_map hnodup ha hb (h a ha b hb hab)

theorem nodup_constantNames (table : String) (e : Entity) :
    (unit table e).constantNames.Nodup ↔
      (e.columns.map fun c => Naming.constantCase c.elementName).Nodup := by
  have hnames : (unit table e).constantNames = "NAME" :: e.columns.map constantName := by
    rw [SourceUnit.constantNames, constants_unit, List.map_cons, List.map_map]
    rfl
  have hname : "NAME" ∉ e.columns.map constantName := by
    intro hmem
    obtain ⟨c, -, hc⟩ := List.mem_map.1 hmem
    exact constantName_ne_name c hc
  rw [hnames, List.nodup_cons, and_iff_right hname]
  constructor
  · exact nodup_map_of_imp fun c _ d _ => constantName_eq_iff.2
  · exact nodup_map_of_imp fun c _ d _ => constantName_eq_iff.1

/-- The constants of the table class of an entity. -/
structure HasConstants (table : String) (e : Entity) : Prop where
  constants : (unit table e).constants = ("NAME", table) ::
    e.columns.map fun c => (Naming.constantCase c.elementName ++ "_COLUMN", c.name)
  /-- No name is declared twice just if no two names of elements are converted alike. -/
  distinct : (unit table e).constantNames.Nodup ↔
    (e.columns.map fun c => Naming.constantCase c.elementName).Nodup
  /-- It is enough that no two elements have the same letters, letter case apart. -/
  letters : (e.columns.map fun c => Naming.bareCapitals c.elementName.toList).Nodup →
    (unit table e).constantNames.Nodup
  /-- Among names of printable ASCII characters those with the same words clash. -/
  words : (∀ c ∈ e.columns, Unicode.PrintableAscii c.elementName.toList) →
    ((unit table e).constantNames.Nodup ↔
      (e.columns.map fun c => Naming.capitalWords c.elementName).Nodup)

theorem hasConstants (table : String) (e : Entity) : HasConstants table e := by
  have hdistinct := nodup_constantNames table e
  refine
    { constants := constants_unit table e
      distinct := hdistinct
      letters := fun hletters => hdistinct.2 ?_
      words := fun hprintable => hdistinct.trans ⟨?_, ?_⟩ }
  · exact nodup_map_of_imp
      (fun c _ d _ => Naming.bareCapitals_eq_of_constantCase_eq) hletters
  · exact nodup_map_of_imp fun c hc d hd =>
      (Naming.constantCase_eq_iff (hprintable c hc) (hprintable d hd)).2
  · exact nodup_map_of_imp fun c hc d hd =>
      (Naming.constantCase_eq_iff (hprintable c hc) (hprintable d hd)).1

end TableClass

namespace Processor

variable {p : Processor} {m : Model} {e : Entity} {table : String}

/-- **The table class of an accepted entity declares a constant for the table and one for each
column, and no two of one name just if no two elements have names that are converted alike.** -/
theorem constants_of_mem_accepted (h : e ∈ p.accepted m)
    (htable : e.config.definedTable? = some table) :
    TableClass.unit table e ∈ p.emission m ∧ TableClass.HasConstants table e :=
  ⟨tableUnit_mem_emission h htable, TableClass.hasConstants table e⟩

/-- A class with two fields, of whose names one is the other in capitals with a word more. -/
def wordsModel : Model :=
  tableModel
    [("userId", "long", "name = \"_id\", key = true"),
     ("userID2", "java.lang.String", "name = \"external\"")]

theorem constants_wordsModel : ∃ e ∈ (initial .sqlite .unset).accepted wordsModel,
    e.config.definedTable? = some "users" ∧
      TableClass.unit "users" e ∈ (initial .sqlite .unset).emission wordsModel ∧
      TableClass.HasConstants "users" e ∧ (TableClass.unit "users" e).constantNames.Nodup := by
  have haccepted : ((initial .sqlite .unset).accepted wordsModel).map
      (fun e => (e.config.definedTable?, e.columns.map (·.elementName))) =
        [(some "users", ["userId", "userID2"])] := by
    decide +kernel
  obtain ⟨e, he, hparts⟩ := exists_of_accepted haccepted
  simp only [Prod.mk.injEq] at hparts
  obtain ⟨htable, hnames⟩ := hparts
  obtain ⟨hunit, hconstants⟩ := constants_of_mem_accepted he htable
  refine ⟨e, he, htable, hunit, hconstants, hconstants.letters ?_⟩
  have hletters : e.columns.map (fun c => Naming.bareCapitals c.elementName.toList) =
      ["userId", "userID2"].map fun name => Naming.bareCapitals name.toList := by
    rw [← hnames, List.map_map]
    rfl
  rw [hletters]
  decide +kernel

/-- A class with two fields whose names have the same words. -/
def sameWordsModel : Model :=
  tableModel
    [("userId", "long", "name = \"_id\", key = true"),
     ("user_id", "java.lang.String", "name = \"external\"")]

/-- Such a class is accepted, and its table class declares a constant twice. -/
theorem constants_sameWordsModel : ∃ e ∈ (initial .sqlite .unset).accepted sameWordsModel,
    e.config.definedTable? = some "users" ∧ (e.columns.map (·.elementName)).Nodup ∧
      (TableClass.unit "users" e).constantNames =
        ["NAME", "USER_ID_COLUMN", "USER_ID_COLUMN"] ∧
      ¬(TableClass.unit "users" e).constantNames.Nodup := by
  have haccepted : ((initial .sqlite .unset).accepted sameWordsModel).map
      (fun e => (e.config.definedTable?, e.columns.map (·.elementName),
        (TableClass.unit "users" e).constantNames)) =
        [(some "users", ["userId", "user_id"],
          ["NAME", "USER_ID_COLUMN", "USER_ID_COLUMN"])] := by
    decide +kernel
  obtain ⟨e, he, hparts⟩ := exists_of_accepted haccepted
  simp only [Prod.mk.injEq] at hparts
  obtain ⟨htable, helements, hnames⟩ := hparts
  refine ⟨e, he, htable, ?_, hnames, ?_⟩
  · rw [helements]
    decide
  · rw [hnames]
    decide

end Processor

end ResolverGen
