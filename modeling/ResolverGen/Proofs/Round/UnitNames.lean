/-
The names of units.

Every kind of unit has a suffix of its own in each backend, which stands behind the qualified name
of the class (`qualifiedName_of_unit?`). No suffix ends in another one (`eq_of_suffix`), although
they share their last words and a class's own name may end in one of them. So the name of a unit
tells of which kind it is, of which backend and of which class (`of_qualifiedName_eq`), and the units
of classes with names of their own have names of their own (`nodup_emission`).
-/
import Mathlib.Data.List.Infix
import Mathlib.Data.List.Nodup
import ResolverGen.Proofs.Round.Accounting

namespace ResolverGen

open Code

/-- The kinds of units. -/
inductive UnitKind where
  | put | get | delete | mapping | table
deriving DecidableEq, Repr

/-- All kinds, in the order in which the units of a class are written. -/
def UnitKind.all : List UnitKind := [put, get, delete, mapping, table]

theorem UnitKind.mem_all (k : UnitKind) : k ∈ all := by cases k <;> decide

theorem Backend.mem_all (b : Backend) : b ∈ all := by cases b <;> decide

/-- What stands behind the name of a class in that of a unit. -/
def Backend.unitSuffix (b : Backend) : UnitKind → String
  | .put => b.runtime.resolverInfix ++ "PutResolver"
  | .get => b.runtime.resolverInfix ++ "GetResolver"
  | .delete => b.runtime.resolverInfix ++ "DeleteResolver"
  | .mapping => b.runtime.mappingSuffix
  | .table => "Table"

/-- The backend that a class is stored by. -/
def Config.backend : Config → Backend
  | sqlite .. => .sqlite
  | contentResolver _ => .contentResolver

/-- The unit of a kind, if the class has one. -/
def Entity.unit? (e : Entity) (b : Backend) : UnitKind → Option SourceUnit
  | .put => some (Resolver.Put.unit b.runtime e)
  | .get => some (Resolver.Get.unit b.runtime e)
  | .delete => some (Resolver.Delete.unit b.runtime e)
  | .mapping => some (Resolver.Mapping.unit b.runtime e)
  | .table => e.config.definedTable?.map fun table => TableClass.unit table e

/-- The units of a class are those of all kinds that it has. -/
theorem Entity.units_eq_filterMap (e : Entity) (b : Backend) :
    e.units b = UnitKind.all.filterMap (e.unit? b) := by
  unfold Entity.units UnitKind.all
  cases h : e.config.definedTable? <;> simp [Entity.unit?, h]

theorem Backend.config_backend {b : Backend} {m : Model} {id : ElementId} {config : Config}
    (h : b.config m id = .ok config) : config.backend = b := by
  cases b with
  | sqlite =>
    obtain ⟨p, -, h⟩ := exists_of_bind_eq_ok h
    dsimp only at h
    split at h
    · cases h
    · cases h
      rfl
  | contentResolver =>
    obtain ⟨uris, -, h⟩ := exists_of_bind_eq_ok h
    dsimp only at h
    split at h
    · cases h
      rfl
    · cases h

/-! ### Suffixes -/

theorem Code.ClassName.qualified_append (package name suffix : String) :
    (ClassName.mk package (name ++ suffix)).qualified =
      (ClassName.mk package name).qualified ++ suffix := by
  unfold ClassName.qualified
  dsimp only
  split
  · rfl
  · exact (String.append_assoc ..).symm

/-- A suffix that another one ends in is that suffix itself, of the same kind and backend; only the
table class goes by the same suffix in both backends. -/
theorem Backend.eq_of_suffix {b b' : Backend} {k k' : UnitKind}
    (h : (b.unitSuffix k).toList <:+ (b'.unitSuffix k').toList) :
    k = k' ∧ (k = .table ∨ b = b') := by
  have hall : ∀ b ∈ Backend.all, ∀ b' ∈ Backend.all, ∀ k ∈ UnitKind.all, ∀ k' ∈ UnitKind.all,
      (b.unitSuffix k).toList <:+ (b'.unitSuffix k').toList →
        k = k' ∧ (k = .table ∨ b = b') := by
    decide +kernel
  exact hall b b.mem_all b' b'.mem_all k k.mem_all k' k'.mem_all h

/-- Of two names with such suffixes, one suffix ends in the other. -/
theorem Backend.eq_of_append_unitSuffix {b b' : Backend} {k k' : UnitKind} {name name' : String}
    (h : name ++ b.unitSuffix k = name' ++ b'.unitSuffix k') :
    name = name' ∧ k = k' ∧ (k = .table ∨ b = b') := by
  have hlists : name.toList ++ (b.unitSuffix k).toList =
      name'.toList ++ (b'.unitSuffix k').toList := by
    simpa using congrArg String.toList h
  have hsuffix : (b.unitSuffix k).toList <:+ name'.toList ++ (b'.unitSuffix k').toList :=
    hlists ▸ List.suffix_append _ _
  have heq : k = k' ∧ (k = .table ∨ b = b') := by
    rcases List.suffix_or_suffix_of_suffix hsuffix (List.suffix_append _ _) with h' | h'
    · exact eq_of_suffix h'
    · obtain ⟨rfl, hb⟩ := eq_of_suffix h'
      exact ⟨rfl, hb.imp_right Eq.symm⟩
  refine ⟨?_, heq⟩
  have hsame : b.unitSuffix k = b'.unitSuffix k' := by
    obtain ⟨rfl, rfl | rfl⟩ := heq <;> rfl
  rw [hsame] at hlists
  exact String.toList_injective (List.append_cancel_right hlists)

namespace Entity

variable {e e' : Entity} {b b' : Backend} {k k' : UnitKind} {u u' : SourceUnit}

/-- A unit declares a type in the package of the class, named with the suffix of its kind. -/
theorem declared_of_unit? (h : e.unit? b k = some u) :
    u.scope.declared = ⟨e.package, e.name ++ b.unitSuffix k⟩ := by
  cases k with
  | put =>
    rw [← Option.some.inj h, Resolver.Put.declared_unit, Runtime.putName, String.append_assoc]
    rfl
  | get =>
    rw [← Option.some.inj h, Resolver.Get.declared_unit, Runtime.getName, String.append_assoc]
    rfl
  | delete =>
    rw [← Option.some.inj h, Resolver.Delete.declared_unit, Runtime.deleteName,
      String.append_assoc]
    rfl
  | mapping =>
    rw [← Option.some.inj h, Resolver.Mapping.declared_unit]
    rfl
  | table =>
    obtain ⟨table, -, rfl⟩ := Option.map_eq_some_iff.1 h
    rw [TableClass.declared_unit]
    rfl

/-- A unit goes by the name of the class and the suffix of its kind. -/
theorem qualifiedName_of_unit? (h : e.unit? b k = some u) :
    u.qualifiedName = e.className.qualified ++ b.unitSuffix k := by
  rw [SourceUnit.qualifiedName, declared_of_unit? h, ClassName.qualified_append]
  rfl

/-- Only what is stored in a table has a table class. -/
theorem backend_of_unit?_table (h : e.unit? b .table = some u) : e.config.backend = .sqlite := by
  obtain ⟨table, htable, -⟩ := Option.map_eq_some_iff.1 h
  cases hconfig : e.config with
  | sqlite => rfl
  | contentResolver =>
    rw [hconfig] at htable
    cases htable

/-- The name of a unit tells the kind, the backend and the class that it is of. -/
theorem of_qualifiedName_eq (hb : e.config.backend = b) (hb' : e'.config.backend = b')
    (hu : e.unit? b k = some u) (hu' : e'.unit? b' k' = some u')
    (h : u.qualifiedName = u'.qualifiedName) :
    k = k' ∧ b = b' ∧ e.className.qualified = e'.className.qualified := by
  rw [qualifiedName_of_unit? hu, qualifiedName_of_unit? hu'] at h
  obtain ⟨hname, rfl, hbackend⟩ := Backend.eq_of_append_unitSuffix h
  refine ⟨rfl, ?_, hname⟩
  rcases hbackend with rfl | hbackend
  · rw [← hb, ← hb', backend_of_unit?_table hu, backend_of_unit?_table hu']
  · exact hbackend

theorem exists_unit? (h : u ∈ e.units b) : ∃ k, e.unit? b k = some u := by
  rw [units_eq_filterMap] at h
  obtain ⟨k, -, hk⟩ := List.mem_filterMap.1 h
  exact ⟨k, hk⟩

/-- The units of a class have names of their own. -/
theorem nodup_units (hb : e.config.backend = b) : ((e.units b).map (·.qualifiedName)).Nodup := by
  have hkinds : UnitKind.all.Nodup := by decide
  rw [units_eq_filterMap, List.map_filterMap]
  refine hkinds.filterMap fun k k' name hk hk' => ?_
  obtain ⟨u, hu, rfl⟩ := Option.map_eq_some_iff.1 hk
  obtain ⟨u', hu', hname⟩ := Option.map_eq_some_iff.1 hk'
  exact (of_qualifiedName_eq hb hb hu hu' hname.symm).1

end Entity

/-! ### The units of a model -/

namespace Model

variable {m : Model} {b : Backend} {id : ElementId}

/-- The class that an element declares, by its path from its package on. -/
def className (m : Model) (id : ElementId) : ClassName := ⟨m.packageOf id, m.outerPath id⟩

/-- Whether the annotated classes have names of their own. -/
def HasDistinctClasses (m : Model) (b : Backend) : Prop :=
  ∀ id ∈ m.annotatedWith b.vocabulary.type.qualified,
    ∀ id' ∈ m.annotatedWith b.vocabulary.type.qualified,
      (m.element id).kind = .classType → (m.element id').kind = .classType →
        (m.className id).qualified = (m.className id').qualified → id = id'

instance (m : Model) (b : Backend) : Decidable (m.HasDistinctClasses b) :=
  inferInstanceAs (Decidable (∀ id ∈ m.annotatedWith b.vocabulary.type.qualified,
    ∀ id' ∈ m.annotatedWith b.vocabulary.type.qualified,
      (m.element id).kind = .classType → (m.element id').kind = .classType →
        (m.className id).qualified = (m.className id').qualified → id = id'))

/-- An element that passes its check is a class of a package, and its path is its name. -/
theorem of_checkClass {v : Vocabulary} (h : m.checkClass v id = .ok ()) :
    (m.element id).kind = .classType ∧ m.outerPath id = (m.element id).name := by
  unfold checkClass at h
  dsimp only at h
  split at h
  · cases h
  · next hkind =>
    rw [not_not] at hkind
    split at h
    · next hpackage =>
      refine ⟨hkind, ?_⟩
      cases henclosing : (m.element id).enclosing with
      | none =>
        rw [henclosing] at hpackage
        cases hpackage
      | some parent =>
        rw [henclosing, Option.any_some, decide_eq_true_iff] at hpackage
        have hnone : m.outerNamesWithin m.size parent = [] := by
          cases m.size with
          | zero => rfl
          | succ steps => rw [outerNamesWithin, if_pos hpackage]
        rw [outerPath, outerNamesWithin, if_neg (by rw [hkind]; decide), henclosing]
        simp only [hnone]
        rfl
    · cases h

end Model

namespace Processor

variable {p q : Processor} {m : Model} {e e' : Entity}

/-- An accepted entity is stored by the backend, and is of the class that it has been made of. -/
theorem className_of_mem_accepted (h : e ∈ p.accepted m) :
    e.config.backend = p.backend ∧ (m.element e.element).kind = .classType ∧
      e.className = m.className e.element := by
  obtain ⟨bare, hbare, hname, hpackage, hconfig⟩ := (holds_of_mem_accepted h).ofClass
  obtain ⟨config, hclass, hread, rfl⟩ := Model.entity_ok hbare
  obtain ⟨hkind, hpath⟩ := Model.of_checkClass hclass
  refine ⟨?_, hkind, ?_⟩
  · rw [hconfig]
    exact Backend.config_backend hread
  · rw [Entity.className, Model.className, hname, hpackage, hpath]

/-- Entities of classes with names of their own have names of their own, and each is there once. -/
theorem pairwise_accepted (h : m.HasDistinctClasses p.backend) :
    (p.accepted m).Pairwise fun e e' => e.className.qualified ≠ e'.className.qualified := by
  cases hunits : p.units m with
  | mk result c =>
  cases result with
  | error f =>
    have hnone : p.accepted m = [] := by
      rw [accepted, hunits]
    rw [hnone]
    exact List.Pairwise.nil
  | ok units =>
    obtain ⟨hcollect, -, -⟩ := units_ok hunits
    have haccepted : p.accepted m = c.entities := by
      rw [accepted, hunits]
    have hclasses := (Model.collect_ok hcollect).classes
    have hnodup : ((p.accepted m).map (·.element)).Nodup := by
      rw [haccepted, hclasses]
      exact Collection.nodup_annotatedWith _ _
    refine (List.pairwise_map.1 hnodup).imp_of_mem fun {e e'} he he' hne hname => hne ?_
    obtain ⟨-, hkind, hclass⟩ := className_of_mem_accepted he
    obtain ⟨-, hkind', hclass'⟩ := className_of_mem_accepted he'
    rw [hclass, hclass'] at hname
    exact h _ (element_mem_annotatedWith he) _ (element_mem_annotatedWith he') hkind hkind' hname

/-- Where classes have names of their own, so have all units. -/
theorem nodup_emission (h : m.HasDistinctClasses p.backend) :
    ((p.emission m).map (·.qualifiedName)).Nodup := by
  rw [emission, List.map_flatMap, List.nodup_flatMap]
  refine ⟨fun e he => Entity.nodup_units (className_of_mem_accepted he).1, ?_⟩
  refine (pairwise_accepted h).imp_of_mem fun {e e'} he he' hne name hname hname' => hne ?_
  obtain ⟨u, hu, rfl⟩ := List.mem_map.1 hname
  obtain ⟨u', hu', heq⟩ := List.mem_map.1 hname'
  obtain ⟨k, hk⟩ := Entity.exists_unit? hu
  obtain ⟨k', hk'⟩ := Entity.exists_unit? hu'
  exact (Entity.of_qualifiedName_eq (className_of_mem_accepted he).1
    (className_of_mem_accepted he').1 hk hk' heq.symm).2.2

/-- Processors of different backends have no unit name in common. -/
theorem disjoint_emission (h : p.backend ≠ q.backend) :
    ∀ name ∈ (p.emission m).map (·.qualifiedName),
      name ∉ (q.emission m).map (·.qualifiedName) := by
  intro name hname hname'
  obtain ⟨u, hu, rfl⟩ := List.mem_map.1 hname
  obtain ⟨u', hu', heq⟩ := List.mem_map.1 hname'
  obtain ⟨e, he, hu⟩ := List.mem_flatMap.1 hu
  obtain ⟨e', he', hu'⟩ := List.mem_flatMap.1 hu'
  obtain ⟨k, hk⟩ := Entity.exists_unit? hu
  obtain ⟨k', hk'⟩ := Entity.exists_unit? hu'
  exact h (Entity.of_qualifiedName_eq (className_of_mem_accepted he).1
    (className_of_mem_accepted he').1 hk hk' heq.symm).2.1

end Processor

end ResolverGen
