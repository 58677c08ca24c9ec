/-
Rounds over models with their elements in another order.

The order of the elements of a model decides in which order classes, members and creators are taken,
and how those of different classes come between each other. Where no two classes share the name that
accessors are kept by, none of this matters but for the order of the classes in what is generated
(`round_renumbered`). Two classes share such a name only if one of them is in the default package and
the other in a package whose name starts with a dot (`hasDistinctKeys_of_emissionNames`); accessors
then go from the one to the other, in the order of the model (`round_swapped`).
-/
import ResolverGen.Proofs.Collection.Renumbering
import ResolverGen.Proofs.Resolver.Positions
import ResolverGen.Proofs.Round.Together

namespace ResolverGen

open Code

/-! ### Names of classes -/

namespace Model

variable {m : Model} {b : Backend} {id id' : ElementId}

/-- The accessors of a class in the default package are kept by the same name as those of a class in
another one only if that one starts with a dot. -/
theorem head?_of_qualifiedName (h : m.qualifiedName id = m.qualifiedName id')
    (hpackage : m.packageOf id = "") (hpackage' : m.packageOf id' ≠ "") :
    (m.packageOf id').toList.head? = some '.' := by
  have hlist := congrArg String.toList h
  simp only [qualifiedName, hpackage, String.toList_append] at hlist
  cases hchars : (m.packageOf id').toList with
  | nil => exact absurd (String.toList_eq_nil_iff.1 hchars) hpackage'
  | cons c cs =>
    rw [hchars] at hlist
    exact congrArg some (List.cons.inj hlist).1.symm

/-- The names that accessors are kept by tell classes apart as the names in generated code do, unless
a package starts with a dot. -/
theorem qualified_eq_of_qualifiedName (h : m.qualifiedName id = m.qualifiedName id')
    (hdot : (m.packageOf id).toList.head? ≠ some '.')
    (hdot' : (m.packageOf id').toList.head? ≠ some '.') :
    (ClassName.mk (m.packageOf id) (m.element id).name).qualified =
      (ClassName.mk (m.packageOf id') (m.element id').name).qualified := by
  unfold ClassName.qualified
  by_cases hpackage : m.packageOf id = ""
  · by_cases hpackage' : m.packageOf id' = ""
    · rw [qualifiedName, qualifiedName, hpackage, hpackage'] at h
      simpa [hpackage, hpackage'] using h
    · exact absurd (head?_of_qualifiedName h hpackage hpackage') hdot'
  · by_cases hpackage' : m.packageOf id' = ""
    · exact absurd (head?_of_qualifiedName h.symm hpackage' hpackage) hdot
    · rw [if_neg hpackage, if_neg hpackage']
      exact h

theorem putName_mem_unitNames (m : Model) (b : Backend) (id : ElementId) :
    (ClassName.mk (m.packageOf id) (m.element id).name).qualified ++ b.unitSuffix .put ∈
      m.unitNames b id := by
  rw [← ClassName.qualified_append]
  refine List.mem_map_of_mem (List.mem_append_left _ ?_)
  rw [Backend.unitSuffix, ← String.append_assoc]
  exact List.mem_cons_self

/-- The accessors of classes whose units go by different names are kept by different names, unless a
package starts with a dot. -/
theorem hasDistinctKeys_of_emissionNames (h : (m.emissionNames b).Nodup)
    (hdots : ∀ id ∈ m.annotatedWith b.vocabulary.type.qualified,
      (m.packageOf id).toList.head? ≠ some '.') : m.HasDistinctKeys b := by
  intro id hid id' hid' hname
  by_contra hne
  have : Std.Symm (Function.onFun List.Disjoint (m.unitNames b)) :=
    ⟨fun _ _ h => List.Disjoint.symm h⟩
  have hdisjoint := (List.nodup_flatMap.1 h).2.forall hid hid' hne
  refine hdisjoint (m.putName_mem_unitNames b id) ?_
  rw [qualified_eq_of_qualifiedName hname (hdots id hid) (hdots id' hid')]
  exact m.putName_mem_unitNames b id'

theorem Renumbers.unitNames {m' : Model} {σ : Equiv.Perm ElementId} (h : m.Renumbers σ m')
    (b : Backend) (id : ElementId) : m'.unitNames b (σ id) = m.unitNames b id := by
  unfold Model.unitNames
  rw [(h.looksLike b).name, (h.looksLike b).packageOf, (h.looksLike b).config]
  cases b.config m id <;> rfl

theorem Renumbers.nonNullMark {m' : Model} {σ : Equiv.Perm ElementId} (h : m.Renumbers σ m')
    (settings : Settings) : settings.nonNullMark m' = settings.nonNullMark m := by
  unfold Settings.nonNullMark knows
  rw [h.knownTypes]

/-- The names of all units are the same in another order. -/
theorem Renumbers.emissionNames {m' : Model} {σ : Equiv.Perm ElementId} (h : m.Renumbers σ m')
    (b : Backend) : (m'.emissionNames b).Perm (m.emissionNames b) := by
  refine ((h.annotatedWith_perm _).flatMap_right _).trans (List.Perm.of_eq ?_)
  rw [List.flatMap_map]
  exact List.flatMap_congr fun id _ => h.unitNames b id

end Model

/-! ### Rounds -/

/-- What a round over a renumbered model does, compared with the round over the model. -/
structure Round.Renumbered (r r' : Round Sources) (b : Backend) (σ : Equiv.Perm ElementId)
    (m m' : Model) : Prop where
  succeeded : r'.succeeded = true
  sources : ∀ name, r'.store.find? name = r.store.find? name
  warnings : r'.count .warning = r.count .warning
  /-- Each class gives its block of names, in the order of the classes. -/
  generated : r.generated = (m.annotatedWith b.vocabulary.type.qualified).flatMap (m.unitNames b)
  generated' : r'.generated =
    (m'.annotatedWith b.vocabulary.type.qualified).flatMap fun id => m.unitNames b (σ.symm id)
  classes : (m'.annotatedWith b.vocabulary.type.qualified).Perm
    ((m.annotatedWith b.vocabulary.type.qualified).map σ)

namespace Processor

variable {p : Processor} {m m' : Model} {σ : Equiv.Perm ElementId}

/-- A new processor has the units of the model for a renumbered model, in another order. -/
theorem exists_units_renumbered (h : m.Renumbers σ m') (hkeys : m.HasDistinctKeys p.backend)
    (hnew : p.accessors = .empty) {units : List SourceUnit} {c : Collection}
    (hunits : p.units m = (.ok units, c)) :
    ∃ units' c', p.units m' = (.ok units', c') ∧ ∀ u, u ∈ units' ↔ u ∈ units := by
  obtain ⟨hcollect, hcheck, rfl⟩ := units_ok hunits
  have hmark : p.nonNullMark m' = p.nonNullMark m := h.nonNullMark p.settings
  rw [hnew] at hcollect
  cases hcollect' : m'.collect p.backend (p.nonNullMark m) .empty with
  | mk result c' =>
  have hresult : result = .ok () := by
    have hok := h.collects hkeys (congrArg Prod.fst hcollect)
    rwa [hcollect'] at hok
  subst hresult
  have hentities := h.mem_entities_iff hkeys hcollect hcollect'
  have hcheck' : Entity.checkAll p.backend.vocabulary c'.entities = .ok () := by
    refine Entity.checkAll_of_check fun e' he' => ?_
    obtain ⟨e, he, rfl⟩ := (hentities e').1 he'
    rw [e.check_moved, Entity.check_of_checkAll hcheck e he]
    rfl
  rw [← hmark, ← hnew] at hcollect'
  refine ⟨_, c', units_of_collect hcollect' hcheck', fun u => ?_⟩
  simp only [List.mem_flatMap, hentities, exists_exists_and_eq_and, Entity.units_moved]

variable {b : Backend} {settings : Settings}

/-- **Only the order within classes matters.** Where a round of a new processor over no sources
succeeds, it does so for every renumbered model with the same sources and warnings, and generates the
same block of names for each class, in the order of the classes. This takes that no two classes share
the name that accessors are kept by, and so it is unless the package of one of them starts with a
dot. -/
theorem round_renumbered (h : m.Renumbers σ m')
    (hsucceeded : ((initial b settings).round m Sources.write .empty).succeeded = true) :
    ((∀ id ∈ m.annotatedWith b.vocabulary.type.qualified,
        (m.packageOf id).toList.head? ≠ some '.') → m.HasDistinctKeys b) ∧
      (m.HasDistinctKeys b →
        ((initial b settings).round m Sources.write .empty).Renumbered
          ((initial b settings).round m' Sources.write .empty) b σ m m') := by
  obtain ⟨units, c, hunits, hnodup⟩ := units_of_succeeded hsucceeded
  refine ⟨Model.hasDistinctKeys_of_emissionNames hnodup, fun hkeys => ?_⟩
  obtain ⟨units', c', hunits', hmem⟩ := exists_units_renumbered h hkeys rfl hunits
  have hnodup' : (m'.emissionNames b).Nodup := (h.emissionNames b).nodup_iff.2 hnodup
  obtain ⟨-, hgenerated, hfiles, hwarnings⟩ := round_of_units hunits hnodup
  obtain ⟨hsucceeded', hgenerated', hfiles', hwarnings'⟩ := round_of_units hunits' hnodup'
  have hnames : (units.map (·.qualifiedName)).Nodup := by
    rw [← emission_of_units hunits, emission_qualifiedName hunits]
    exact hnodup
  have hnames' : (units'.map (·.qualifiedName)).Nodup := by
    rw [← emission_of_units hunits', emission_qualifiedName hunits']
    exact hnodup'
  refine ⟨hsucceeded', fun name => ?_, ?_, hgenerated, ?_, h.annotatedWith_perm _⟩
  · ext source
    rw [Sources.find?, Sources.find?, hfiles, hfiles', lookup_filesOf hnames,
      lookup_filesOf hnames']
    simp only [hmem]
  · rw [hwarnings, hwarnings']
    exact h.length_passedOver
  · rw [hgenerated']
    refine List.flatMap_congr fun x _ => ?_
    obtain ⟨id, rfl⟩ := σ.surjective x
    rw [Equiv.symm_apply_apply]
    exact h.unitNames b id

end Processor

/-! ### Two classes -/

/-- The model whose elements have been moved to the positions that `σ` gives. -/
def Model.rearranged (m : Model) (σ : Equiv.Perm ElementId) : Model :=
  { m with elements := m.ids.map fun id => (m.element (σ.symm id)).moved σ }

/-- Two classes of a package, a name and a getter each, with a private field `id` and its accessors.
The classes are at the positions 2 and 3, their members from 4 and from 7 on. -/
def pairModel (first second : ClassName × String) : Model :=
  ⟨[], [Element.ofKind .package first.1.package, Element.ofKind .package second.1.package,
    { Element.ofKind .classType first.1.simple with
      enclosing := some 0
      annotations := [⟨"StorIOSQLiteType", some "table = \"first\""⟩] },
    { Element.ofKind .classType second.1.simple with
      enclosing := some 1
      annotations := [⟨"StorIOSQLiteType", some "table = \"second\""⟩] }] ++
    [(2, first.2), (3, second.2)].flatMap fun (owner, getter) =>
      [{ Element.ofKind .field "id" with
          enclosing := some owner
          type := some "long"
          modifiers := [.privateAccess]
          annotations := [⟨"StorIOSQLiteColumn", some "name = \"_id\", key = true"⟩] },
        { Element.ofKind .method getter with enclosing := some owner, type := some "long" },
        { Element.ofKind .method "setId" with
          enclosing := some owner
          type := some "void"
          parameters := [⟨"id", "long"⟩] }]⟩

namespace Processor

/-- The classes of a package in the other order, and their members in between each other. -/
theorem round_renumbered_pairModel :
    let m := pairModel (⟨"com.test", "User"⟩, "getId") (⟨"com.test", "Note"⟩, "isId")
    let σ : Equiv.Perm ElementId := Equiv.swap 2 3 * Equiv.swap 6 7
    m.Renumbers σ (m.rearranged σ) ∧
      ((initial .sqlite .unset).round m Sources.write .empty).succeeded = true ∧
      m.HasDistinctKeys .sqlite ∧
      ((initial .sqlite .unset).round m Sources.write .empty).Renumbered
        ((initial .sqlite .unset).round (m.rearranged σ) Sources.write .empty) .sqlite σ m
          (m.rearranged σ) := by
  intro m σ
  have h : m.Renumbers σ (m.rearranged σ) := by
    refine ⟨rfl, by decide +kernel, by decide +kernel, by decide +kernel, by decide +kernel⟩
  have hsucceeded : ((initial .sqlite .unset).round m Sources.write .empty).succeeded = true := by
    decide +kernel
  have hkeys : m.HasDistinctKeys .sqlite := (round_renumbered h hsucceeded).1 (by decide +kernel)
  exact ⟨h, hsucceeded, hkeys, (round_renumbered h hsucceeded).2 hkeys⟩

/-- A class `a.B` of the default package and a class `B` of a package `.a` have keys of one name, so
both take the getter of the one whose members come first. -/
theorem round_swapped :
    let m := pairModel (⟨"", "a.B"⟩, "getId") (⟨".a", "B"⟩, "isId")
    let σ : Equiv.Perm ElementId := Equiv.swap 4 7 * Equiv.swap 5 8 * Equiv.swap 6 9
    m.Renumbers σ (m.rearranged σ) ∧
      ((initial .sqlite .unset).round m Sources.write .empty).succeeded = true ∧
      ((initial .sqlite .unset).round m Sources.write .empty).store.find?
          "a.BStorIOSQLiteDeleteResolver" ≠
        ((initial .sqlite .unset).round (m.rearranged σ) Sources.write .empty).store.find?
          "a.BStorIOSQLiteDeleteResolver" := by
  intro m σ
  refine ⟨⟨rfl, by decide +kernel, by decide +kernel, by decide +kernel, by decide +kernel⟩,
    by decide +kernel, by decide +kernel⟩

end Processor

end ResolverGen
