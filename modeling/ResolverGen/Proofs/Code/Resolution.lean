/-
What the names of classes stand for in a unit.

A reader of a unit takes a name with a dot for itself, and any other name for the type that the unit
declares, for the class that is imported by that name, or else for the class of that name in the
unit's package (`Scope.resolve?`).

Of several classes that ask for a simple name, the first one gets it. `Scope.Gives` says that a scope
knows just that: a step keeps it (`Gives.refer`), hence so do many (`Gives.referAll`). It follows what
every name stands for (`Gives.resolve?_eq`), and which of the names that the classes get stand for
them (`Gives.resolve?_nameAmong`): all but those of classes with a dot in their simple names. So in a
new unit the names of classes without such dots all stand for them (`resolves_referAll`).
-/
import ResolverGen.Proofs.Order
import ResolverGen.Code.Scope

namespace ResolverGen.Code

/-! ### Names of classes -/

/-- Whether a name has a dot. -/
def IsDotted (name : String) : Prop := '.' ∈ name.toList

instance (name : String) : Decidable (IsDotted name) :=
  inferInstanceAs (Decidable ('.' ∈ name.toList))

/-- The first class of a simple name. -/
def firstNamed? (simple : String) (classes : List ClassName) : Option ClassName :=
  classes.find? (·.simple = simple)

namespace ClassName

variable {c c' : ClassName}

theorem qualified_of_package (h : c.package ≠ "") :
    c.qualified = c.package ++ "." ++ c.simple :=
  if_neg h

theorem isDotted_qualified (h : c.package ≠ "") : IsDotted c.qualified := by
  rw [qualified_of_package h]
  simp [IsDotted]

/-- A class is what its qualified name says, unless there is a dot in its simple name. -/
theorem ofQualified_qualified (h : c.package ≠ "") (hdot : ¬IsDotted c.simple) :
    ofQualified c.qualified = c := by
  have hlist : c.qualified.toList = c.package.toList ++ '.' :: c.simple.toList := by
    rw [qualified_of_package h]
    simp
  rw [ofQualified, hlist, Text.cutLast?_append _ hdot]
  simp

/-- The simple name in a qualified name is what follows its last dot. -/
theorem not_isDotted_ofQualified (name : String) : ¬IsDotted (ofQualified name).simple := by
  have hcut : ∀ cs : List Char, ('.' ∉ cs ∧ Text.cutLast? '.' cs = none) ∨
      ∃ before behind, Text.cutLast? '.' cs = some (before, behind) ∧ '.' ∉ behind := by
    intro cs
    induction cs with
    | nil => exact .inl ⟨List.not_mem_nil, rfl⟩
    | cons c cs ih =>
      rcases ih with ⟨hcs, hnone⟩ | ⟨before, behind, hsome, hbehind⟩
      · by_cases hc : c = '.'
        · exact .inr ⟨[], cs, by simp [Text.cutLast?, hnone, hc], hcs⟩
        · refine .inl ⟨?_, by simp [Text.cutLast?, hnone, hc]⟩
          rw [List.mem_cons, not_or]
          exact ⟨Ne.symm hc, hcs⟩
      · exact .inr ⟨c :: before, behind, by simp [Text.cutLast?, hsome], hbehind⟩
  unfold IsDotted ofQualified
  rcases hcut name.toList with ⟨hname, hnone⟩ | ⟨before, behind, hsome, hbehind⟩
  · rw [hnone]
    exact hname
  · rw [hsome]
    simpa using hbehind

/-- A qualified name has a dot, so that it is not the simple name. -/
theorem simple_ne_qualified (h : c.package ≠ "") : c.simple ≠ c.qualified := by
  intro heq
  have hlength := congrArg String.length heq
  rw [qualified_of_package h] at hlength
  simp at hlength

theorem simple_eq_qualified_iff : c.simple = c.qualified ↔ c.package = "" := by
  constructor
  · intro heq
    by_contra h
    exact simple_ne_qualified h heq
  · intro h
    exact (if_pos h).symm

/-- Of the classes of a simple name, each has a qualified name of its own. -/
theorem eq_of_qualified_eq (hsimple : c.simple = c'.simple)
    (hqualified : c.qualified = c'.qualified) : c = c' := by
  have hpackage : c.package = c'.package := by
    by_cases h : c.package = ""
    · -- the name of a class in no package is its simple name
      have hplain := simple_eq_qualified_iff.2 h
      rw [hsimple, hqualified] at hplain
      rw [h, simple_eq_qualified_iff.1 hplain]
    · have h' : c'.package ≠ "" := fun hnone => h (simple_eq_qualified_iff.1
        (by rw [hsimple, hqualified, simple_eq_qualified_iff.2 hnone]))
      rw [qualified_of_package h, qualified_of_package h', hsimple, String.append_assoc,
        String.append_assoc] at hqualified
      have hlists : c.package.toList ++ ("." ++ c'.simple).toList =
          c'.package.toList ++ ("." ++ c'.simple).toList := by
        simpa using congrArg String.toList hqualified
      exact String.toList_injective (List.append_cancel_right hlists)
  exact congrArg₂ ClassName.mk hpackage hsimple

theorem simpleName_qualified (h : c.package ≠ "") (hdot : ¬IsDotted c.simple) :
    simpleName c.qualified = c.simple := by
  rw [simpleName, ofQualified_qualified h hdot]

end ClassName

theorem simple_of_firstNamed? {simple : String} {classes : List ClassName} {c : ClassName}
    (h : firstNamed? simple classes = some c) : c.simple = simple := by
  simpa using List.find?_some h

theorem firstNamed?_append (simple : String) (classes others : List ClassName) :
    firstNamed? simple (classes ++ others) =
      (firstNamed? simple classes).or (firstNamed? simple others) :=
  List.find?_append

theorem firstNamed?_concat (simple : String) (classes : List ClassName) (c : ClassName) :
    firstNamed? simple (classes ++ [c]) =
      (firstNamed? simple classes).or (if c.simple = simple then some c else none) := by
  rw [firstNamed?_append]
  by_cases h : c.simple = simple <;> simp [firstNamed?, h]

/-- A class that was the first of its name is so still, and one of a new name is. -/
theorem first_concat_iff {classes : List ClassName} {c : ClassName}
    (hc : firstNamed? c.simple classes = none) (d : ClassName) :
    (d ∈ classes ++ [c] ∧ firstNamed? d.simple (classes ++ [c]) = some d) ↔
      (d ∈ classes ∧ firstNamed? d.simple classes = some d) ∨ d = c := by
  rw [firstNamed?_concat]
  by_cases hd : c.simple = d.simple
  · rw [← hd, hc, if_pos rfl, Option.none_or, Option.some.injEq]
    simp only [List.mem_append, List.mem_singleton, reduceCtorEq, and_false, false_or]
    exact ⟨fun hboth => hboth.2.symm, fun heq => ⟨.inr heq, heq.symm⟩⟩
  · have hne : d ≠ c := fun heq => hd (congrArg _ heq.symm)
    rw [if_neg hd, Option.or_none]
    simp [hne]

theorem exists_firstNamed? {c : ClassName} {classes : List ClassName} (h : c ∈ classes) :
    ∃ first, firstNamed? c.simple classes = some first := by
  refine Option.isSome_iff_exists.1 (List.find?_isSome.2 ⟨c, h, ?_⟩)
  exact decide_eq_true rfl

/-- The name that a class gets among the classes that ask for names, itself one of them. -/
def nameAmong (classes : List ClassName) (c : ClassName) : TypeName :=
  if (firstNamed? c.simple classes).map (·.qualified) = some c.qualified then ⟨c.simple, c⟩
  else ⟨c.qualified, c⟩

/-- Classes that ask for names later do not change the name. -/
theorem nameAmong_append {c : ClassName} {classes : List ClassName} (h : c ∈ classes)
    (others : List ClassName) : nameAmong (classes ++ others) c = nameAmong classes c := by
  obtain ⟨first, hfirst⟩ := exists_firstNamed? h
  rw [nameAmong, firstNamed?_append, hfirst, Option.some_or, nameAmong, hfirst]

@[simp] theorem denotes_nameAmong (classes : List ClassName) (c : ClassName) :
    (nameAmong classes c).denotes = c := by
  unfold nameAmong
  split <;> rfl

namespace Scope

/-- The qualified names of the classes that a unit declares or imports by a simple name. -/
def given (s : Scope) (simple : String) : List String :=
  (if s.typeName = simple then [s.declared.qualified] else []) ++
    s.imports.filter (simpleName · = simple)

/-- The qualified name of the class that a name in a unit stands for. A simple name that is given to
several classes stands for none. -/
def resolve? (s : Scope) (name : String) : Option String :=
  if IsDotted name then some name
  else
    match s.given name with
    | [] => some (ClassName.mk s.package name).qualified
    | [qualified] => some qualified
    | _ => none

/-- Whether a scope is that of a unit in which some classes have asked for names in order, the type
that the unit declares first. -/
structure Gives (s : Scope) (classes : List ClassName) : Prop where
  declared : classes.head? = some s.declared
  names : ∀ simple, s.names.lookup simple = (firstNamed? simple classes).map (·.qualified)
  imported : ∀ name, name ∈ s.imported ↔
    ∃ c ∈ classes, firstNamed? c.simple classes = some c ∧ c.package ≠ "" ∧
      c.package ≠ s.package ∧ c.qualified = name

variable {s : Scope} {classes : List ClassName} {c : ClassName}

/-- In a new unit only the declared type has its name. -/
theorem gives_ofUnit (package typeName : String) :
    (ofUnit package typeName).Gives [⟨package, typeName⟩] := by
  refine ⟨rfl, fun simple => ?_, fun name => ?_⟩
  · by_cases hname : typeName = simple
    · simp [ofUnit, firstNamed?, hname]
    · have hbeq : (simple == typeName) = false := by simpa using Ne.symm hname
      simp [ofUnit, firstNamed?, hname, List.lookup_cons, hbeq]
  · simp [ofUnit]

/-! ### A class asks for a name -/

theorem Gives.head (h : s.Gives classes) : s.declared ∈ classes :=
  List.mem_of_mem_head? h.declared

theorem Gives.firstNamed?_typeName (h : s.Gives classes) :
    firstNamed? s.typeName classes = some s.declared := by
  obtain ⟨rest, rfl⟩ := List.head?_eq_some_iff.1 h.declared
  exact List.find?_cons_of_pos (decide_eq_true rfl)

/-- The name that the class gets. -/
theorem Gives.name_refer (h : s.Gives classes) (c : ClassName) :
    (s.refer c).1 = nameAmong (classes ++ [c]) c := by
  rw [refer, h.names, nameAmong, firstNamed?_concat, if_pos rfl]
  cases hfirst : firstNamed? c.simple classes with
  | none => simp
  | some first => by_cases hmeaning : first.qualified = c.qualified <;> simp [hmeaning]

/-- A class whose simple name is taken gives nothing new. -/
theorem Gives.concat_taken (h : s.Gives classes) {first : ClassName}
    (hfirst : firstNamed? c.simple classes = some first) : s.Gives (classes ++ [c]) := by
  have hsame (simple : String) :
      firstNamed? simple (classes ++ [c]) = firstNamed? simple classes := by
    rw [firstNamed?_concat]
    split
    · next heq => rw [← heq, hfirst, Option.some_or]
    · exact Option.or_none
  refine ⟨?_, fun simple => by rw [hsame, h.names], fun name => ?_⟩
  · rw [List.head?_append, h.declared, Option.some_or]
  · rw [h.imported]
    simp only [hsame]
    constructor
    · rintro ⟨d, hd, hrest⟩
      exact ⟨d, List.mem_append_left _ hd, hrest⟩
    · rintro ⟨d, hd, hfirst', hrest⟩
      exact ⟨d, List.mem_of_find?_eq_some hfirst', hfirst', hrest⟩

/-- A class whose simple name is free gets it, and is imported unless it needs no import. -/
theorem Gives.concat_free (h : s.Gives classes) (hfirst : firstNamed? c.simple classes = none) :
    Scope.Gives
      { s with
        names := (c.simple, c.qualified) :: s.names
        imported :=
          if c.package = "" || c.package = s.package then s.imported
          else c.qualified :: s.imported } (classes ++ [c]) := by
  refine ⟨?_, fun simple => ?_, fun name => ?_⟩
  · rw [List.head?_append, h.declared, Option.some_or]
    rfl
  · dsimp only
    rw [List.lookup_cons, firstNamed?_concat]
    by_cases hsimple : c.simple = simple
    · subst hsimple
      simp [hfirst]
    · have hbeq : (simple == c.simple) = false := by simpa using Ne.symm hsimple
      rw [hbeq, if_neg hsimple, Option.or_none, ← h.names]
  · have hexists : (∃ d ∈ classes ++ [c], firstNamed? d.simple (classes ++ [c]) = some d ∧
        d.package ≠ "" ∧ d.package ≠ s.package ∧ d.qualified = name) ↔
          name ∈ s.imported ∨ c.package ≠ "" ∧ c.package ≠ s.package ∧ c.qualified = name := by
      rw [h.imported]
      constructor
      · rintro ⟨d, hd, hfirst', hrest⟩
        rcases (first_concat_iff hfirst d).1 ⟨hd, hfirst'⟩ with ⟨hd, hfirst'⟩ | rfl
        · exact .inl ⟨d, hd, hfirst', hrest⟩
        · exact .inr hrest
      · rintro (⟨d, hd, hfirst', hrest⟩ | hrest)
        · obtain ⟨hd, hfirst'⟩ := (first_concat_iff hfirst d).2 (.inl ⟨hd, hfirst'⟩)
          exact ⟨d, hd, hfirst', hrest⟩
        · obtain ⟨hd, hfirst'⟩ := (first_concat_iff hfirst c).2 (.inr rfl)
          exact ⟨c, hd, hfirst', hrest⟩
    rw [hexists]
    dsimp only
    split
    · next hown =>
      rw [Bool.or_eq_true, decide_eq_true_eq, decide_eq_true_eq] at hown
      tauto
    · next hown =>
      rw [Bool.or_eq_true, decide_eq_true_eq, decide_eq_true_eq, not_or] at hown
      rw [List.mem_cons, eq_comm]
      tauto

/-- **What one more class changes.** -/
theorem Gives.refer (h : s.Gives classes) (c : ClassName) :
    (s.refer c).2.Gives (classes ++ [c]) := by
  cases hfirst : firstNamed? c.simple classes with
  | some first =>
    have hscope : (s.refer c).2 = s := by
      rw [Scope.refer, h.names, hfirst]
      dsimp only [Option.map_some]
      split <;> rfl
    rw [hscope]
    exact h.concat_taken hfirst
  | none =>
    have hgives := h.concat_free hfirst
    rw [Scope.refer, h.names, hfirst]
    exact hgives

/-- **The names that several classes get, and the scope behind them.** -/
theorem Gives.referAll (h : s.Gives classes) (cs : List ClassName) :
    (s.referAll cs).2.Gives (classes ++ cs) ∧
      (s.referAll cs).1 = cs.map (nameAmong (classes ++ cs)) := by
  induction cs generalizing s classes with
  | nil => exact ⟨by rw [List.append_nil]; exact h, rfl⟩
  | cons c cs ih =>
    obtain ⟨hgives, hnames⟩ := ih (h.refer c)
    rw [List.append_assoc, List.singleton_append] at hgives hnames
    refine ⟨hgives, ?_⟩
    show (s.refer c).1 :: ((s.refer c).2.referAll cs).1 = _
    have hself : c ∈ classes ++ [c] := by simp
    rw [hnames, h.name_refer, ← nameAmong_append hself cs, List.append_assoc,
      List.singleton_append, List.map_cons]

/-! ### What names stand for -/

/-- Whether every class is in a package, and has a simple name without dots if it may be imported. -/
def Importable (package : String) (classes : List ClassName) : Prop :=
  ∀ c ∈ classes, c.package ≠ "" ∧ (IsDotted c.simple → c.package = package)

/-- Whether every class of another package has a simple name without dots, and is in a package. -/
def PlainOutside (package : String) (classes : List ClassName) : Prop :=
  ∀ c ∈ classes, c.package ≠ package → c.package ≠ "" ∧ ¬IsDotted c.simple

theorem Importable.plainOutside {package : String} (h : Importable package classes) :
    PlainOutside package classes := fun c hc hpackage =>
  ⟨(h c hc).1, fun hdotted => hpackage ((h c hc).2 hdotted)⟩

/-- The first class of a simple name gets that name. -/
theorem nameAmong_of_first (h : firstNamed? c.simple classes = some c) :
    nameAmong classes c = ⟨c.simple, c⟩ := by
  rw [nameAmong, h]
  exact if_pos rfl

/-- Any other class is written in full. -/
theorem nameAmong_of_not_first (hc : c ∈ classes) (h : firstNamed? c.simple classes ≠ some c) :
    nameAmong classes c = ⟨c.qualified, c⟩ := by
  obtain ⟨first, hfirst⟩ := exists_firstNamed? hc
  refine if_neg fun hmeaning => h ?_
  rw [hfirst, Option.map_some, Option.some.injEq] at hmeaning
  rw [hfirst, ClassName.eq_of_qualified_eq (simple_of_firstNamed? hfirst) hmeaning]

/-- The only class that may be imported by a simple name is the first one of that name. -/
theorem Gives.mem_imports (h : s.Gives classes) (hclasses : PlainOutside s.package classes)
    {name simple : String} :
    name ∈ s.imports ∧ simpleName name = simple ↔
      ∃ c, firstNamed? simple classes = some c ∧ c.package ≠ s.package ∧ c.qualified = name := by
  have hsimple {c : ClassName} (hc : c ∈ classes) (hpackage : c.package ≠ s.package) :
      simpleName c.qualified = c.simple := by
    obtain ⟨hsome, hdot⟩ := hclasses c hc hpackage
    exact ClassName.simpleName_qualified hsome hdot
  rw [imports, Order.mem_sortedSet, h.imported]
  constructor
  · rintro ⟨⟨c, hc, hfirst, -, hpackage, rfl⟩, rfl⟩
    rw [hsimple hc hpackage]
    exact ⟨c, hfirst, hpackage, rfl⟩
  · rintro ⟨c, hfirst, hpackage, rfl⟩
    have hc := List.mem_of_find?_eq_some hfirst
    rw [hsimple hc hpackage, simple_of_firstNamed? hfirst]
    refine ⟨⟨c, hc, ?_, (hclasses c hc hpackage).1, hpackage, rfl⟩, rfl⟩
    rw [simple_of_firstNamed? hfirst]
    exact hfirst

/-- The imports of a simple name: the first class of that name, unless it is of the unit's package. -/
theorem Gives.filter_imports (h : s.Gives classes) (hclasses : PlainOutside s.package classes)
    (simple : String) : s.imports.filter (simpleName · = simple) =
      (((firstNamed? simple classes).filter (·.package ≠ s.package)).map (·.qualified)).toList := by
  have hmem (name : String) : name ∈ s.imports.filter (simpleName · = simple) ↔
      ((firstNamed? simple classes).filter (·.package ≠ s.package)).map (·.qualified) =
        some name := by
    rw [List.mem_filter, decide_eq_true_eq, h.mem_imports hclasses]
    simp [Option.filter_eq_some_iff, and_assoc]
  cases hgiven : ((firstNamed? simple classes).filter (·.package ≠ s.package)).map
      (·.qualified) with
  | none =>
    refine List.eq_nil_iff_forall_not_mem.2 fun name hname => ?_
    rw [hmem, hgiven] at hname
    cases hname
  | some given =>
    have hnodup : (s.imports.filter (simpleName · = simple)).Nodup :=
      (Order.nodup_sortedSet _).filter _
    refine List.perm_singleton.1 ((List.perm_ext_iff_of_nodup hnodup
      (List.nodup_singleton given)).2 fun name => ?_)
    rw [hmem, hgiven, List.mem_singleton, Option.some.injEq, eq_comm]

/-- **A simple name stands for the first class of that name, if there is one.** -/
theorem Gives.resolve?_eq (h : s.Gives classes) (hclasses : PlainOutside s.package classes)
    {simple : String} (hdot : ¬IsDotted simple) :
    s.resolve? simple =
      some ((firstNamed? simple classes).getD ⟨s.package, simple⟩).qualified := by
  rw [resolve?, if_neg hdot, given, h.filter_imports hclasses]
  by_cases hown : s.typeName = simple
  · -- the declared type is the first of its name, so that no class is imported by that name
    subst hown
    have hpackage : s.declared.package = s.package := rfl
    rw [if_pos rfl, h.firstNamed?_typeName]
    simp [Option.filter, hpackage]
  · rw [if_neg hown, List.nil_append]
    cases hfirst : firstNamed? simple classes with
    | none => rfl
    | some c =>
      by_cases hpackage : c.package = s.package
      · -- a class of the unit's own package needs no import
        have hclass : c = ⟨s.package, simple⟩ :=
          congrArg₂ ClassName.mk hpackage (simple_of_firstNamed? hfirst)
        simp [Option.filter, hclass]
      · simp [Option.filter, hpackage]

/-- The name that a class gets stands for the class, unless it is a simple name with a dot. -/
theorem Gives.resolve?_nameAmong (h : s.Gives classes)
    (hclasses : PlainOutside s.package classes) (hc : c ∈ classes) (hpackage : c.package ≠ "") :
    s.resolve? (nameAmong classes c).text = some c.qualified ↔
      ¬IsDotted c.simple ∨ firstNamed? c.simple classes ≠ some c := by
  by_cases hself : firstNamed? c.simple classes = some c
  · rw [nameAmong_of_first hself]
    by_cases hdot : IsDotted c.simple
    · rw [resolve?, if_pos hdot]
      simp [ClassName.simple_ne_qualified hpackage, hdot, hself]
    · rw [h.resolve?_eq hclasses hdot, hself]
      simp [hdot]
  · rw [nameAmong_of_not_first hc hself, resolve?,
      if_pos (ClassName.isDotted_qualified hpackage)]
    simp [hself]

/-! ### Classes asked for in a new unit -/

/-- Whether some names stand for some classes in a scope, whose imports can be told from each other,
from the declared type and from the classes of the unit's package. -/
structure Resolves (s : Scope) (names : List TypeName) (classes : List ClassName) : Prop where
  resolved : names.map (fun n => s.resolve? n.text) = classes.map fun c => some c.qualified
  distinct : (s.imports.map simpleName).Nodup
  undeclared : s.typeName ∉ s.imports.map simpleName
  foreign : ∀ name ∈ s.imports, (ClassName.ofQualified name).package ≠ s.package

/-- No two imports have the same simple name, since the first class of a name is the only one. -/
theorem Gives.distinct (h : s.Gives classes) (hclasses : PlainOutside s.package classes) :
    (s.imports.map simpleName).Nodup := by
  refine List.Nodup.map_on (fun name hname other hother hsimple => ?_) (Order.nodup_sortedSet _)
  obtain ⟨c, hc, -, rfl⟩ := (h.mem_imports hclasses).1 ⟨hname, rfl⟩
  obtain ⟨d, hd, -, rfl⟩ := (h.mem_imports hclasses).1 ⟨hother, hsimple.symm⟩
  rw [hc] at hd
  cases hd
  rfl

/-- The declared type is the first of its name, so that no class is imported by that name. -/
theorem Gives.undeclared (h : s.Gives classes) (hclasses : PlainOutside s.package classes) :
    s.typeName ∉ s.imports.map simpleName := by
  intro hmem
  obtain ⟨name, hname⟩ := List.mem_map.1 hmem
  obtain ⟨c, hc, hpackage, -⟩ := (h.mem_imports hclasses).1 hname
  rw [h.firstNamed?_typeName] at hc
  cases hc
  exact hpackage rfl

theorem Gives.foreign (h : s.Gives classes) (hclasses : PlainOutside s.package classes) :
    ∀ name ∈ s.imports, (ClassName.ofQualified name).package ≠ s.package := by
  intro name hname
  obtain ⟨c, hc, hpackage, rfl⟩ := (h.mem_imports hclasses).1 ⟨hname, rfl⟩
  obtain ⟨hsome, hdot⟩ := hclasses c (List.mem_of_find?_eq_some hc) hpackage
  rwa [ClassName.ofQualified_qualified hsome hdot]

/-- **Every name that a class gets in a unit stands for the class**, whatever classes ask for names
before it and after it. -/
theorem resolves_referAll (package typeName : String) {classes : List ClassName}
    (h : ∀ c ∈ classes, c.package ≠ "" ∧ ¬IsDotted c.simple) :
    let (names, s) := (ofUnit package typeName).referAll classes
    s.declared = ⟨package, typeName⟩ ∧ s.Resolves names classes := by
  obtain ⟨hgives, hnames⟩ := (gives_ofUnit package typeName).referAll classes
  rw [List.singleton_append] at hgives hnames
  dsimp only
  generalize ((ofUnit package typeName).referAll classes).2 = s at hgives
  have hdeclared : s.declared = ⟨package, typeName⟩ := (Option.some.inj hgives.declared).symm
  have hplain : PlainOutside s.package (⟨package, typeName⟩ :: classes) := by
    intro c hc hpackage
    rcases List.mem_cons.1 hc with rfl | hc
    · exact absurd (congrArg ClassName.package hdeclared).symm hpackage
    · exact h c hc
  refine ⟨hdeclared, ?_, hgives.distinct hplain, hgives.undeclared hplain, hgives.foreign hplain⟩
  rw [hnames, List.map_map]
  refine List.map_congr_left fun c hc => ?_
  exact (hgives.resolve?_nameAmong hplain (List.mem_cons_of_mem _ hc) (h c hc).1).2
    (.inl (h c hc).2)

/-- Classes of which some share their names with each other and with the unit. -/
def clashing : List ClassName :=
  [⟨"com.test", "Cursor"⟩, ⟨"android.database", "Cursor"⟩, ⟨"java.lang", "String"⟩,
    ⟨"other", "Gen"⟩, ⟨"com.test", "Gen"⟩, ⟨"android.database", "Cursor"⟩]

/-- Later classes of a name that is taken are written in full. -/
theorem resolves_clashing : (∀ c ∈ clashing, c.package ≠ "" ∧ ¬IsDotted c.simple) ∧
    ((ofUnit "com.test" "Gen").referAll clashing).1.map (·.text) =
      ["Cursor", "android.database.Cursor", "String", "other.Gen", "Gen",
        "android.database.Cursor"] ∧
    let (names, s) := (ofUnit "com.test" "Gen").referAll clashing
    s.declared = ⟨"com.test", "Gen"⟩ ∧ s.Resolves names clashing := by
  have h : ∀ c ∈ clashing, c.package ≠ "" ∧ ¬IsDotted c.simple := by decide +kernel
  exact ⟨h, by decide +kernel, resolves_referAll "com.test" "Gen" h⟩

end Scope

end ResolverGen.Code
