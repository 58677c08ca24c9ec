/-
The members that columns and creators stand for.

The checks of a member ask for its kind in order to exclude: a private member that is no field, a
method with parameters, a creator that is a method but not static or gives something else than its
class. What is left of the kinds that they do not ask for, such as a field with a creator annotation
or a constructor with a column annotation, passes as it is.

* `member_of_checkColumn`, `checkCreator_eq_ok_iff` — what the checks ensure for a member of any kind,
* `members_of_mem_accepted` — every column of an accepted entity stands for a field or for a visible
  method without parameters just if it stands for a field or a method at all, and its creator for a
  visible constructor or static factory just if it stands for a constructor or a method at all.
-/
import ResolverGen.Proofs.Resolver.Visibility

namespace ResolverGen

namespace Model

/-- Whether an element is a direct member of an annotated class. -/
structure IsMember (m : Model) (v : Vocabulary) (owner id : ElementId) : Prop where
  enclosing : (m.element id).enclosing = some owner
  ofClass : (m.element owner).kind = .classType
  annotated : (m.element owner).isAnnotated v.type.qualified = true

/-- Whether an element has a value of an object that can be stored: a field, or a method without
parameters that is not private. -/
def HasValue (m : Model) (id : ElementId) : Prop :=
  (m.element id).kind = .field ∨
    (m.element id).kind = .method ∧ (m.element id).parameters = [] ∧
      (m.element id).has .privateAccess = false

/-- Whether an element makes objects of a class: a constructor, or a static method that gives the type
of the class, and not private. -/
def MakesObjects (m : Model) (owner id : ElementId) : Prop :=
  (m.element id).has .privateAccess = false ∧
    ((m.element id).kind = .constructor ∨
      (m.element id).kind = .method ∧ (m.element id).has .static = true ∧
        (m.element id).type = some (m.ownType owner))

variable {m : Model} {b : Backend} {v : Vocabulary} {a : Accessors} {id owner : ElementId}

/-! ### What the checks ensure -/

/-- The class that encloses an element, where it is annotated, has the element as its member. -/
theorem isMember_of_enclosingClass? (h : m.enclosingClass? id = some owner)
    (hannotated : (m.element owner).isAnnotated v.type.qualified = true) :
    m.IsMember v owner id := by
  obtain ⟨henclosing, hkind⟩ := enclosingClass?_eq_some h
  exact ⟨henclosing, hkind, hannotated⟩

/-- An element is a member of what encloses it and of nothing else. -/
theorem IsMember.owner_eq {owner' : ElementId} (h : m.IsMember v owner id)
    (henclosing : (m.element id).enclosing = some owner') : owner = owner' := by
  rw [h.enclosing] at henclosing
  exact Option.some.inj henclosing

/-- A private member that passes is a field. -/
theorem kind_of_checkColumn (h : (m.checkColumn v a id).1 = .ok ())
    (hprivate : (m.element id).has .privateAccess = true) : (m.element id).kind = .field := by
  by_contra hkind
  rw [checkColumn_of_not_isHidden (isHidden_eq_false (.inl hkind))] at h
  obtain ⟨⟨⟩, -, h⟩ := exists_of_bind_eq_ok h
  rw [if_pos hprivate] at h
  cases h

/-- A member with a column annotation that passes, whatever its kind. -/
theorem member_of_checkColumn (h : (m.checkColumn v a id).1 = .ok ()) :
    (∃ owner, m.IsMember v owner id) ∧
      ((m.element id).kind ≠ .field → (m.element id).has .privateAccess = false) ∧
      ((m.element id).kind = .method → (m.element id).parameters = []) := by
  obtain ⟨owner, howner, hannotated⟩ :=
    checkOwner_ok (checkOwner_of_checkColumn (Prod.ext h rfl))
  refine ⟨⟨owner, isMember_of_enclosingClass? howner hannotated⟩, fun hkind => ?_, ?_⟩
  · by_contra hprivate
    exact hkind (kind_of_checkColumn h (by simpa using hprivate))
  · exact (checkShape_ok (checkColumn_ok h).1).2

/-- A member with a creator annotation passes just if it is not private and, if it is a method, is
static and gives the type of its class. Its kind is not asked for otherwise. -/
theorem checkCreator_eq_ok_iff :
    m.checkCreator v id = .ok () ↔
      ∃ owner, m.IsMember v owner id ∧ (m.element id).has .privateAccess = false ∧
        ((m.element id).kind = .method → (m.element id).has .static = true ∧
          (m.element id).type = some (m.ownType owner)) := by
  constructor
  · intro h
    unfold checkCreator at h
    dsimp only at h
    split at h
    · cases h
    · next owner howner =>
      split at h
      · cases h
      · next hannotated =>
        split at h
        · cases h
        · next hprivate =>
          split at h
          · cases h
          · next hstatic =>
            split at h
            · cases h
            · next hresult =>
              refine ⟨owner, isMember_of_enclosingClass? howner (by simpa using hannotated),
                by simpa using hprivate, fun hkind => ⟨?_, ?_⟩⟩
              · simpa [hkind] using hstatic
              · simpa [hkind] using hresult
  · rintro ⟨owner, hmember, hprivate, hmethod⟩
    have howner : m.enclosingClass? id = some owner := by
      rw [enclosingClass?, hmember.enclosing, Option.filter_some, if_pos]
      exact decide_eq_true hmember.ofClass
    unfold checkCreator
    rw [howner]
    by_cases hkind : (m.element id).kind = .method
    · simp [hmember.annotated, hprivate, hmethod hkind]
    · simp [hmember.annotated, hprivate, hkind]

end Model

/-! ### The members of an accepted entity -/

/-- What the columns and the creator of an entity stand for. -/
structure Entity.StandsForMembers (e : Entity) (m : Model) (v : Vocabulary) : Prop where
  columns : ∀ c ∈ e.columns, m.IsMember v e.element c.element ∧
    (m.HasValue c.element ↔
      (m.element c.element).kind = .field ∨ (m.element c.element).kind = .method)
  /-- Of the other kinds, only what is not private is stored. -/
  visible : ∀ c ∈ e.columns, (m.element c.element).kind ≠ .field →
    (m.element c.element).has .privateAccess = false
  creator : ∀ c, e.creator = some c → m.IsMember v e.element c.element ∧
    (m.MakesObjects e.element c.element ↔
      (m.element c.element).kind = .constructor ∨ (m.element c.element).kind = .method)

namespace Processor

variable {p : Processor} {m : Model} {e : Entity}

/-- The creator of an accepted entity is that of a member of its class, which has passed its check. -/
theorem creator_of_mem_accepted (h : e ∈ p.accepted m) {c : Creator} (hc : e.creator = some c) :
    c = m.creator c.element ∧ m.IsMember p.backend.vocabulary e.element c.element ∧
      m.checkCreator p.backend.vocabulary c.element = .ok () := by
  obtain ⟨collected, hcollect, -, hmem⟩ := exists_collection_of_mem_accepted h
  have hgathers := Model.collect_gathers hcollect
  have hcreator := (hgathers.gathers e hmem).creator
  rw [hc, Option.toList_some, eq_comm, List.map_eq_singleton_iff] at hcreator
  obtain ⟨id, hmembers, rfl⟩ := hcreator
  have hid : id ∈ m.membersAmong
      (m.annotatedWith p.backend.vocabulary.creator.qualified) e.element := by
    rw [hmembers]
    exact List.mem_singleton_self id
  rw [Model.membersAmong, List.mem_filter, decide_eq_true_eq] at hid
  have hcheck := hgathers.creators id hid.1
  obtain ⟨owner, hmember, -⟩ := Model.checkCreator_eq_ok_iff.1 hcheck
  exact ⟨rfl, hmember.owner_eq hid.2 ▸ hmember, hcheck⟩

/-- **The columns and the creator of an accepted entity stand for members of its class that can do
what they are taken for, just if they are of the right kinds.** -/
theorem members_of_mem_accepted (h : e ∈ p.accepted m) :
    e.StandsForMembers m p.backend.vocabulary := by
  have hread : ∀ c ∈ e.columns, (m.element c.element).enclosing = some e.element ∧
      ∃ a, (m.checkColumn p.backend.vocabulary a c.element).1 = .ok () := by
    intro c hc
    obtain ⟨collected, hcollect, -, hmem⟩ := exists_collection_of_mem_accepted h
    have hgathers := (Model.collect_gathers hcollect).gathers e hmem
    rw [hgathers.columns, Model.columnsOf, List.mem_filter, decide_eq_true_eq] at hc
    obtain ⟨before, id, after, -, hread⟩ := Model.exists_of_mem_columnsFrom hc.1
    obtain ⟨spec, hcheck, -⟩ := Model.readColumn_ok hread
    rw [(Model.owner_of_readColumn hread).1, Model.enclosing_of_readColumn hread, hc.2]
    exact ⟨rfl, _, hcheck⟩
  refine ⟨fun c hc => ?_, fun c hc => ?_, fun c hc => ?_⟩
  · obtain ⟨henclosing, a, hcheck⟩ := hread c hc
    obtain ⟨⟨owner, hmember⟩, hvisible, hparameters⟩ := Model.member_of_checkColumn hcheck
    refine ⟨hmember.owner_eq henclosing ▸ hmember, fun hvalue => hvalue.imp_right And.left,
      fun hkind => ?_⟩
    refine hkind.imp_right fun hmethod => ⟨hmethod, hparameters hmethod, hvisible ?_⟩
    rw [hmethod]
    decide
  · obtain ⟨-, a, hcheck⟩ := hread c hc
    exact (Model.member_of_checkColumn hcheck).2.1
  · obtain ⟨-, hmember, hcheck⟩ := creator_of_mem_accepted h hc
    obtain ⟨owner, hmember', hprivate, hmethod⟩ := Model.checkCreator_eq_ok_iff.1 hcheck
    rw [hmember'.owner_eq hmember.enclosing] at hmethod
    refine ⟨hmember, fun hmakes => hmakes.2.imp_right And.left, fun hkind => ⟨hprivate, ?_⟩⟩
    exact hkind.imp_right fun hk => ⟨hk, hmethod hk⟩

theorem members_userModel : ∃ e ∈ (initial .sqlite .unset).accepted userModel,
    e.columns = [userName, userId] ∧ e.creator = some userCreator ∧
      e.StandsForMembers userModel Backend.sqlite.vocabulary := by
  obtain ⟨e, he, hcolumns, -, hcreator⟩ := exists_accepted_userModel
  exact ⟨e, he, hcolumns, hcreator, members_of_mem_accepted he⟩

/-! ### A creator that makes nothing -/

/-- A class whose objects are made empty, with the creator annotation on a field. -/
def markedFieldModel : Model :=
  ⟨[], [Element.ofKind .package "com.test",
    { Element.ofKind .classType "User" with
      enclosing := some 0
      annotations := [⟨"StorIOSQLiteType", some "table = \"users\""⟩] },
    { Element.ofKind .field "id" with
      enclosing := some 1
      type := some "long"
      annotations := [⟨"StorIOSQLiteColumn", some "name = \"_id\", key = true"⟩] },
    { Element.ofKind .field "name" with
      enclosing := some 1
      type := some "java.lang.String"
      annotations := [⟨"StorIOSQLiteCreator", none⟩] }]⟩

/-- The field is stored as the creator of its class. -/
theorem creator_markedFieldModel :
    ∃ e ∈ (initial .sqlite .unset).accepted markedFieldModel, ∃ c, e.creator = some c ∧
      ¬markedFieldModel.MakesObjects e.element c.element := by
  have haccepted : ((initial .sqlite .unset).accepted markedFieldModel).map (·.creator) =
      [some ⟨1, 3, .constructor, []⟩] := by
    decide +kernel
  obtain ⟨e, he, hcreator⟩ := List.map_eq_singleton_iff.1 haccepted
  refine ⟨e, by rw [he]; exact List.mem_singleton_self e, _, hcreator, ?_⟩
  rintro ⟨-, hkind | ⟨hkind, -⟩⟩
  · exact absurd hkind (by decide)
  · exact absurd hkind (by decide)

end Processor

end ResolverGen
