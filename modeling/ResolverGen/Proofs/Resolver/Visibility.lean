/-
Which members generated code uses.

A column takes the accessors that are known under its key, and these need not have been found for the
column itself. A key leads to the annotated classes that its name is kept for (`Model.KeptLike`), and
whatever has been found for the key is a method of one of them for values of the type
(`exists_accessor`). A member without accessors is used itself, and has passed the checks that see to
it that it can be (`checkColumn_ok`).

* `canRead_of_readColumn`, `canSet_of_readColumn` — what holds of each column that has been read,
* `reaches_of_mem_accepted` — what holds of the units of an accepted entity: they read, set and call
  what is there and is not private in a class that keys of the entity's class lead to, and they make an
  empty object only of a class that is not abstract and of which every column can be set. That class is
  the entity's own unless the package of an annotated class starts with a dot.
* `reads_borrowedGetter` — a class of such a package takes the getter of a class in the default package.
-/
import ResolverGen.Proofs.Resolver.Creation
import ResolverGen.Proofs.Resolver.Uses
import ResolverGen.Proofs.Round.Renumbered

namespace ResolverGen

open Code Resolver

/-- Whether a column stands for a member of a class that has values of a type. -/
structure Column.StandsIn (c : Column) (m : Model) (owner : ElementId) (type : String) : Prop where
  enclosing : (m.element c.element).enclosing = some owner
  declared : (m.element c.element).type = some type
  stored : ColumnType.ofTypeName? type = some c.type

namespace Model

/-- Whether annotated classes have qualified names of their own, and column annotations stand on
fields and methods. -/
structure WellPlaced (m : Model) (b : Backend) : Prop where
  distinct : m.HasDistinctClasses b
  members : ∀ id ∈ m.annotatedWith b.vocabulary.column.qualified,
    (m.element id).kind = .field ∨ (m.element id).kind = .method

/-- Whether a use of an object of a class reads a value of a type through a member that is not
private. -/
def CanRead (m : Model) (owner : ElementId) (type : String) : Use → Prop
  | .read name => ∃ x ∈ m.enclosed owner, (m.element x).kind = .field ∧
    (m.element x).name = name ∧ (m.element x).has .privateAccess = false ∧
      (m.element x).type = some type
  | .call name 0 => ∃ x ∈ m.enclosed owner, (m.element x).kind = .method ∧
    (m.element x).name = name ∧ (m.element x).has .privateAccess = false ∧
      (m.element x).parameters = [] ∧ (m.element x).type = some type
  | _ => False

/-- Whether a use of an object of a class sets a value of a type through a member that is not private:
a field that is not final, or a method of the object that takes the value. -/
def CanSet (m : Model) (owner : ElementId) (type : String) : Use → Prop
  | .set name => ∃ x ∈ m.enclosed owner, (m.element x).kind = .field ∧
    (m.element x).name = name ∧ (m.element x).has .privateAccess = false ∧
      (m.element x).has .final = false ∧ (m.element x).type = some type
  | .call name 1 => ∃ x ∈ m.enclosed owner, (m.element x).kind = .method ∧
    (m.element x).name = name ∧ (m.element x).has .privateAccess = false ∧
      (m.element x).has .static = false ∧ ∃ p, (m.element x).parameters = [p] ∧ p.type = type
  | _ => False

/-- Whether the accessors of an annotated class are kept by the same name as those of another class. -/
structure KeptLike (m : Model) (b : Backend) (owner other : ElementId) : Prop where
  annotated : other ∈ m.annotatedWith b.vocabulary.type.qualified
  name : m.qualifiedName other = m.qualifiedName owner

variable {m : Model} {b : Backend} {v : Vocabulary} {a : Accessors} {id owner : ElementId}
  {c : Column} {type : String}

/-! ### What the checks of a member ensure -/

theorem checkShape_ok (h : m.checkShape v a id = .ok ()) :
    ((m.element id).kind = .field → (m.element id).has .final = true →
      (a.getter? m id).isSome = true) ∧
    ((m.element id).kind = .method → (m.element id).parameters = []) := by
  unfold checkShape at h
  dsimp only at h
  split at h
  · cases h
  · next hfinal =>
    split at h
    · cases h
    · next hmethod =>
      refine ⟨fun hkind hfin => ?_, fun hkind => ?_⟩
      · cases hgetter : a.getter? m id with
        | some name => rfl
        | none => simp [hkind, hfin, hgetter] at hfinal
      · by_contra hparameters
        exact hmethod (by simp [hkind, hparameters])

/-- A member that passes its checks is not private, or a field with a getter. -/
theorem checkColumn_ok (h : (m.checkColumn v a id).1 = .ok ()) :
    m.checkShape v (m.checkColumn v a id).2 id = .ok () ∧
      ((m.element id).has .privateAccess = true →
        ((m.checkColumn v a id).2.getter? m id).isSome = true) := by
  cases hhidden : m.isHidden v id with
  | true =>
    rw [checkColumn_fst_of_isHidden hhidden] at h
    split at h
    · next hgetter => exact ⟨h, fun _ => hgetter⟩
    · cases h
  | false =>
    rw [checkColumn_of_not_isHidden hhidden] at h ⊢
    obtain ⟨⟨⟩, -, h⟩ := exists_of_bind_eq_ok h
    split at h
    · cases h
    · next hprivate => exact ⟨h, fun hp => absurd hp hprivate⟩

/-! ### Accessors that are known -/

/-- An accessor that has been found for a key serves for a field of a class that the key leads to. -/
theorem exists_accessor {accessorOf? : ElementId → Option String} {kind : AccessorKind}
    (hfinds : ∀ id, m.Finds id (·.Serves (m.element id) kind) (accessorOf? id))
    (henclosing : (m.element id).enclosing = some owner) {ids : List ElementId} {name : String}
    (h : m.firstAccessor? b.vocabulary accessorOf? ids (m.accessorKey id) = some name) :
    ∃ other field x, m.KeptLike b owner other ∧ (m.element field).type = (m.element id).type ∧
      x ∈ m.enclosed other ∧ (m.element x).Serves (m.element field) kind ∧
      (m.element x).name = name := by
  obtain ⟨field, -, hfound⟩ := List.exists_of_findSome?_eq_some h
  obtain ⟨hhidden, hkey, hname⟩ := accessorFor?_eq_some_iff.1 hfound
  obtain ⟨⟨other, hother, hannotated⟩, -, -⟩ := isHidden_iff.1 hhidden
  -- the accessor was found for a field that has the key, so its class has the name in the key
  have hotherEnclosing := (enclosingClass?_eq_some hother).1
  have hclass : m.qualifiedName other = m.qualifiedName owner := by
    rw [← className_accessorKey hotherEnclosing, ← className_accessorKey henclosing, hkey]
  obtain ⟨x, hlast, hx⟩ := ((hfinds field).some_iff name).1 hname
  have hmember : x ∈ m.enclosed other := by
    have hsibling := hlast.member
    rwa [siblings, hotherEnclosing] at hsibling
  exact ⟨other, field, x, ⟨Collection.mem_annotatedWith_iff.2 hannotated, hclass⟩,
    congrArg AccessorKey.type hkey, hmember, hlast.isOne, hx⟩

theorem canRead_of_firstAccessor? (henclosing : (m.element id).enclosing = some owner)
    (htype : (m.element id).type = some type) {ids : List ElementId} {name : String}
    (h : m.firstAccessor? b.vocabulary m.getterOf? ids (m.accessorKey id) = some name) :
    ∃ other, m.KeptLike b owner other ∧ m.CanRead other type (.call name 0) := by
  obtain ⟨other, field, x, hkept, hfield, hx, hserves, hname⟩ :=
    exists_accessor m.finds_getterOf? henclosing h
  exact ⟨other, hkept, x, hx, hserves.method, hname, Element.has_eq_false_iff.2 hserves.accessible,
    hserves.parameterless, by rw [hserves.result, hfield, htype]⟩

theorem canSet_of_firstAccessor? (henclosing : (m.element id).enclosing = some owner)
    (htype : (m.element id).type = some type) {ids : List ElementId} {name : String}
    (h : m.firstAccessor? b.vocabulary m.setterOf? ids (m.accessorKey id) = some name) :
    ∃ other, m.KeptLike b owner other ∧ m.CanSet other type (.call name 1) := by
  obtain ⟨other, field, x, hkept, hfield, hx, hserves, hname⟩ :=
    exists_accessor m.finds_setterOf? henclosing h
  obtain ⟨p, hp, hparameter⟩ := hserves.parameter
  rw [hfield, htype] at hparameter
  exact ⟨other, hkept, x, hx, hserves.method, hname, Element.has_eq_false_iff.2 hserves.accessible,
    Element.has_eq_false_iff.2 hserves.onObject, p, hp, Option.some.inj hparameter⟩

/-! ### The uses of a column -/

/-- What a column that has been read takes from its member, and what its checks ensure. -/
structure ReadFrom (m : Model) (c : Column) : Prop where
  kind : c.kind = if (m.element c.element).kind = .method then .method else .field
  name : c.elementName = (m.element c.element).name
  final : (m.element c.element).kind = .field → (m.element c.element).has .final = true →
    c.getter.isSome = true
  parameters : (m.element c.element).kind = .method → (m.element c.element).parameters = []
  hidden : (m.element c.element).has .privateAccess = true → c.getter.isSome = true

theorem readFrom_of_readColumn {known : Accessors} (h : m.readColumn b known c.element = .ok c) :
    m.ReadFrom c ∧ ∃ type, c.StandsIn m c.enclosing type := by
  obtain ⟨p, hcheck, -, hcolumn⟩ := readColumn_ok h
  obtain ⟨hshape, hprivate⟩ := checkColumn_ok hcheck
  obtain ⟨hfinal, hparameters⟩ := checkShape_ok hshape
  obtain ⟨t, htype, -, -, -, hc⟩ := column_ok hcolumn
  obtain ⟨type, htype, hknown⟩ := Option.bind_eq_some_iff.1 htype
  have hgetter := congrArg Column.getter hc
  dsimp only at hgetter
  rw [← hgetter] at hfinal hprivate
  refine ⟨⟨congrArg Column.kind hc, congrArg Column.elementName hc, hfinal, hparameters, hprivate⟩,
    type, enclosing_of_readColumn h, htype, ?_⟩
  rw [hknown, congrArg Column.type hc]

section Columns

variable {before after : List ElementId}
  (hplaced : m.WellPlaced b)
  (hall : m.annotatedWith b.vocabulary.column.qualified = before ++ c.element :: after)
  (hreads : m.ReadsAll b .empty before)
  (hread : m.readColumn b (m.accessorsAfter b .empty before) c.element = .ok c)
  (hstands : c.StandsIn m c.enclosing type)

include hplaced hall hreads hread hstands

/-- The value of a column is read through a getter, or from its member, which is not private. -/
theorem canRead_of_readColumn :
    ∃ owner, m.KeptLike b c.enclosing owner ∧ m.CanRead owner type c.access.use := by
  have hid : c.element ∈ m.annotatedWith b.vocabulary.column.qualified := by simp [hall]
  have hown : m.KeptLike b c.enclosing c.enclosing :=
    ⟨Collection.mem_annotatedWith_iff.2 (owner_of_readColumn hread).2.2, rfl⟩
  have hmember := mem_enclosed_iff.2 hstands.enclosing
  obtain ⟨hfrom, -⟩ := readFrom_of_readColumn hread
  cases hgetter : c.getter with
  | some name =>
    have haccess : c.access = .call name := by rw [Column.access, hgetter]
    rw [haccess]
    have hfound := (accessors_of_readColumn hreads hread).1
    rw [hgetter] at hfound
    exact canRead_of_firstAccessor? hstands.enclosing hstands.declared hfound.symm
  | none =>
    have hvisible : (m.element c.element).has .privateAccess = false := by
      by_contra hprivate
      have hsome := hfrom.hidden (by simpa using hprivate)
      rw [hgetter] at hsome
      cases hsome
    rcases hplaced.members c.element hid with hkind | hkind
    · have haccess : c.access = .field (m.element c.element).name := by
        have hfield := hfrom.kind
        rw [hkind] at hfield
        simp [Column.access, hgetter, hfield, hfrom.name]
      rw [haccess]
      exact ⟨_, hown, c.element, hmember, hkind, rfl, hvisible, hstands.declared⟩
    · have haccess : c.access = .call (m.element c.element).name := by
        have hmethod := hfrom.kind
        rw [if_pos hkind] at hmethod
        simp [Column.access, hgetter, hmethod, hfrom.name]
      rw [haccess]
      exact ⟨_, hown, c.element, hmember, hkind, rfl, hvisible, hfrom.parameters hkind,
        hstands.declared⟩

/-- A column that does not need a creator stands for a field, which is set through a setter where it
has both accessors, or else itself, being neither private nor final. -/
theorem canSet_of_readColumn (hcreator : c.onlyByCreator = false) :
    (m.element c.element).kind = .field ∧
      ∃ owner, m.KeptLike b c.enclosing owner ∧ m.CanSet owner type c.setUse := by
  have hid : c.element ∈ m.annotatedWith b.vocabulary.column.qualified := by simp [hall]
  have hown : m.KeptLike b c.enclosing c.enclosing :=
    ⟨Collection.mem_annotatedWith_iff.2 (owner_of_readColumn hread).2.2, rfl⟩
  have hmember := mem_enclosed_iff.2 hstands.enclosing
  obtain ⟨hfrom, -⟩ := readFrom_of_readColumn hread
  -- a column that stands for a method always needs a creator
  have hkind : (m.element c.element).kind = .field := by
    refine (hplaced.members c.element hid).resolve_right fun hmethod => ?_
    have hck := hfrom.kind
    rw [if_pos hmethod] at hck
    rw [Column.onlyByCreator, hck] at hcreator
    cases hcreator
  have hfield : c.kind = .field := by
    rw [hfrom.kind, hkind]
    rfl
  refine ⟨hkind, ?_⟩
  rw [Column.onlyByCreator, hfield] at hcreator
  cases hgetter : c.getter with
  | none =>
    have huse : c.setUse = .set (m.element c.element).name := by
      unfold Column.setUse
      cases c.setter <;> simp [hgetter, hfrom.name]
    have hvisible : (m.element c.element).has .privateAccess = false := by
      by_contra hprivate
      have hsome := hfrom.hidden (by simpa using hprivate)
      rw [hgetter] at hsome
      cases hsome
    have hnotfinal : (m.element c.element).has .final = false := by
      by_contra hfinal
      have hsome := hfrom.final hkind (by simpa using hfinal)
      rw [hgetter] at hsome
      cases hsome
    rw [huse]
    exact ⟨_, hown, c.element, hmember, hkind, rfl, hvisible, hnotfinal, hstands.declared⟩
  | some getter =>
    cases hsetter : c.setter with
    | none =>
      rw [hgetter, hsetter] at hcreator
      cases hcreator
    | some setter =>
      have huse : c.setUse = .call setter 1 := by simp [Column.setUse, hgetter, hsetter]
      rw [huse]
      have hfound := (accessors_of_readColumn hreads hread).2
      rw [hsetter] at hfound
      exact canSet_of_firstAccessor? hstands.enclosing hstands.declared hfound.symm

end Columns

end Model

/-! ### Making objects -/

/-- Whether a get resolver makes an empty object, by a constructor without arguments. -/
def Code.SourceUnit.MakesEmpty (u : SourceUnit) : Prop :=
  ∃ method type, u.method? "mapFromCursor" = some method ∧
    .declare (.named type) objectName (.construct type []) ∈ method.body

/-- A local variable is not set to an empty object. -/
theorem Resolver.construct_notMem_readLocal (type : TypeUse) (c : Column) (use : TypeUse)
    (name : TypeName) :
    Stmt.declare use objectName (.construct name []) ∉ Get.readLocal type c := by
  have hread : c.readCursor ≠ .construct name [] := by
    unfold Column.readCursor ColumnType.read
    cases c.type <;> simp
  unfold Get.readLocal Get.guardNull
  split
  · simp
  · simp [hread.symm]

/-- A call of a creator with some values does not make an empty object. -/
theorem Creator.construct_ne_invoke (creator : Creator) (entity type : TypeName)
    {arguments : List Expr} (h : arguments ≠ []) :
    .construct type [] ≠ creator.invoke entity arguments := by
  unfold Creator.invoke
  cases creator.kind with
  | constructor => simp [h.symm]
  | factory name => simp

/-- An empty object is made just if there is no creator to call. -/
theorem Resolver.makesEmpty_iff (r : Runtime) {e : Entity} (h : e.columns ≠ []) :
    (Get.unit r e).MakesEmpty ↔ e.activeCreator? = none := by
  cases hcreator : e.activeCreator? with
  | none =>
    obtain ⟨method, entity, hmethod, -, hbody, -⟩ := Get.method?_assign r hcreator
    refine iff_of_true ⟨method, entity, hmethod, ?_⟩ rfl
    rw [hbody, Get.assignBody]
    simp
  | some creator =>
    refine iff_of_false ?_ (Option.some_ne_none creator)
    rintro ⟨method, type, hmethod, hmem⟩
    obtain ⟨method', entity, locals, hmethod', -, hbody, -, hlocals⟩ :=
      Get.method?_create r hcreator
    rw [hmethod'] at hmethod
    cases hmethod
    -- there is a local variable for each column, so the creator is called with some values
    have hsome : locals ≠ [] := by
      rintro rfl
      have hlength := congrArg List.length hlocals
      rw [(Entity.ordered_perm e).length_eq] at hlength
      exact h (List.length_eq_zero_iff.1 hlength.symm)
    have hinvoke : ∀ f : TypeUse × Column → Expr,
        .construct type [] ≠ creator.invoke entity (locals.map f) := fun f =>
      creator.construct_ne_invoke entity type (by simpa using hsome)
    rw [hbody, Get.createBody, List.mem_append, List.mem_cons, List.mem_flatMap] at hmem
    rcases hmem with (hblank | ⟨⟨t, c⟩, -, hlocal⟩) | hmem
    · cases hblank
    · exact construct_notMem_readLocal t c _ _ hlocal
    · simp [hinvoke] at hmem

/-- Whether the units of an entity use members that they can reach, each of a class that may lend its
members. -/
structure Entity.Reaches (e : Entity) (m : Model) (b : Backend) (lends : ElementId → Prop) :
    Prop where
  /-- What the put and delete resolvers read is the value of a column. -/
  reads : ∀ use, use ∈ (Put.unit b.runtime e).uses objectName ∨
      use ∈ (Delete.unit b.runtime e).uses objectName →
    ∃ c ∈ e.columns, use = c.access.use ∧ ∃ type owner,
      c.StandsIn m e.element type ∧ lends owner ∧ m.CanRead owner type use
  /-- What the get resolver does with an object that it makes empty sets a column. -/
  sets : (Get.unit b.runtime e).MakesEmpty →
    ∀ use ∈ (Get.unit b.runtime e).uses objectName,
      ∃ c ∈ e.columns, use = c.setUse ∧ ∃ type owner,
        c.StandsIn m e.element type ∧ lends owner ∧ m.CanSet owner type use
  /-- With an object that a creator makes it does nothing. -/
  created : ¬(Get.unit b.runtime e).MakesEmpty → (Get.unit b.runtime e).uses objectName = []
  empty : (Get.unit b.runtime e).MakesEmpty →
    (m.element e.element).has .abstract = false ∧
      ∀ c ∈ e.columns, (m.element c.element).kind = .field ∧
        (c.getter.isSome = true → c.setter.isSome = true)

theorem Entity.Reaches.mono {e : Entity} {m : Model} {b : Backend} {lends lends' : ElementId → Prop}
    (h : e.Reaches m b lends) (himp : ∀ owner, lends owner → lends' owner) :
    e.Reaches m b lends' where
  reads use huse := by
    obtain ⟨c, hc, haccess, type, owner, hstands, hlends, hread⟩ := h.reads use huse
    exact ⟨c, hc, haccess, type, owner, hstands, himp owner hlends, hread⟩
  sets hempty use huse := by
    obtain ⟨c, hc, hset, type, owner, hstands, hlends, hcan⟩ := h.sets hempty use huse
    exact ⟨c, hc, hset, type, owner, hstands, himp owner hlends, hcan⟩
  created := h.created
  empty := h.empty

namespace Processor

variable {b : Backend} {settings : Settings} {m : Model} {e : Entity} {c : Column}

/-- A column of an accepted entity is what its member is read as, and the member is one of the
entity's class. -/
theorem exists_readColumn_of_mem_accepted (he : e ∈ (initial b settings).accepted m)
    (hc : c ∈ e.columns) :
    c.enclosing = e.element ∧ ∃ before after,
      m.annotatedWith b.vocabulary.column.qualified = before ++ c.element :: after ∧
        m.ReadsAll b .empty before ∧
        m.readColumn b (m.accessorsAfter b .empty before) c.element = .ok c := by
  obtain ⟨collected, hcollect, -, hmem⟩ := exists_collection_of_mem_accepted he
  have hcollect : m.collect b (settings.nonNullMark m) .empty = (.ok (), collected) := hcollect
  have hgathers := (Model.collect_gathers hcollect).gathers e hmem
  refine ⟨?_, Model.exists_readColumn_of_collect (by rw [hcollect]; exact hmem) hc⟩
  rw [hgathers.columns, Model.columnsOf, List.mem_filter] at hc
  simpa using hc.2

/-- Where an empty object is made, no column needs a creator, and the class is not abstract. -/
theorem onlyByCreator_of_makesEmpty (he : e ∈ (initial b settings).accepted m)
    (hempty : (Get.unit b.runtime e).MakesEmpty) :
    (m.element e.element).has .abstract = false ∧ ∀ c ∈ e.columns, c.onlyByCreator = false := by
  obtain ⟨collected, hcollect, -, hmem⟩ := exists_collection_of_mem_accepted he
  have hgathers := (Model.collect_gathers hcollect).gathers e hmem
  obtain ⟨hcolumns, -, hcreator⟩ := Entity.check_eq_ok_iff.1 (check_of_mem_accepted he)
  -- an entity that has to be made by a creator has one, or it would not be accepted
  have hby : e.byCreator = false := by
    have hnone := (makesEmpty_iff b.runtime hcolumns).1 hempty
    by_contra hby
    have hby : e.byCreator = true := by simpa using hby
    obtain ⟨creator, hsome, -⟩ := hcreator hby
    rw [Entity.activeCreator?, if_pos hby, hsome] at hnone
    cases hnone
  have hparts := hgathers.byCreator
  rw [hby] at hparts
  refine ⟨(Bool.or_eq_false_iff.1 hparts.symm).1, fun c hc => ?_⟩
  rw [hgathers.compatible.onlyByCreator_eq hc, ← hparts]

/-- Whatever the keys are, what is used is there in a class that they lead to. -/
theorem reaches_keptLike (hplaced : m.WellPlaced b) (he : e ∈ (initial b settings).accepted m) :
    e.Reaches m b (m.KeptLike b e.element) := by
  have hcolumns := (Entity.check_eq_ok_iff.1 (check_of_mem_accepted he)).1
  have hcanRead : ∀ c ∈ e.columns, ∃ type owner, c.StandsIn m e.element type ∧
      m.KeptLike b e.element owner ∧ m.CanRead owner type c.access.use := by
    intro c hc
    obtain ⟨howner, before, after, hall, hreads, hread⟩ := exists_readColumn_of_mem_accepted he hc
    obtain ⟨-, type, hstands⟩ := Model.readFrom_of_readColumn hread
    obtain ⟨owner, hkept, hcan⟩ := Model.canRead_of_readColumn hplaced hall hreads hread hstands
    rw [← howner]
    exact ⟨type, owner, hstands, hkept, hcan⟩
  have hcanSet : ∀ c ∈ e.columns, c.onlyByCreator = false →
      (m.element c.element).kind = .field ∧ ∃ type owner, c.StandsIn m e.element type ∧
        m.KeptLike b e.element owner ∧ m.CanSet owner type c.setUse := by
    intro c hc hcreator
    obtain ⟨howner, before, after, hall, hreads, hread⟩ := exists_readColumn_of_mem_accepted he hc
    obtain ⟨-, type, hstands⟩ := Model.readFrom_of_readColumn hread
    obtain ⟨hkind, owner, hkept, hcan⟩ :=
      Model.canSet_of_readColumn hplaced hall hreads hread hstands hcreator
    rw [← howner]
    exact ⟨hkind, type, owner, hstands, hkept, hcan⟩
  refine ⟨fun use huse => ?_, fun hempty use huse => ?_, fun hmakes => ?_, fun hempty => ?_⟩
  · have hcolumn : ∃ c ∈ e.columns, use = c.access.use := by
      rcases huse with huse | huse
      · exact (mem_uses_put _ _).1 huse
      · obtain ⟨c, hc, -, huse⟩ := (mem_uses_delete _ _).1 huse
        exact ⟨c, hc, huse⟩
    obtain ⟨c, hc, rfl⟩ := hcolumn
    exact ⟨c, hc, rfl, hcanRead c hc⟩
  · rw [uses_get_assign _ ((makesEmpty_iff _ hcolumns).1 hempty)] at huse
    obtain ⟨c, hc, rfl⟩ := List.mem_map.1 huse
    exact ⟨c, hc, rfl, (hcanSet c hc ((onlyByCreator_of_makesEmpty he hempty).2 c hc)).2⟩
  · rw [makesEmpty_iff _ hcolumns] at hmakes
    obtain ⟨creator, hcreator⟩ := Option.ne_none_iff_exists'.1 hmakes
    exact uses_get_create _ hcreator
  · obtain ⟨habstract, hnone⟩ := onlyByCreator_of_makesEmpty he hempty
    refine ⟨habstract, fun c hc => ⟨(hcanSet c hc (hnone c hc)).1, fun hgetter => ?_⟩⟩
    have hcreator := hnone c hc
    unfold Column.onlyByCreator at hcreator
    cases hkind : c.kind with
    | method => simp [hkind] at hcreator
    | field => simpa [hkind, hgetter, Option.isSome_iff_ne_none] using hcreator

/-- Classes with names of their own have keys of their own where something is accepted, unless a package
starts with a dot. -/
theorem hasDistinctKeys_of_mem_accepted (hclasses : m.HasDistinctClasses b)
    (he : e ∈ (initial b settings).accepted m)
    (hdots : ∀ id ∈ m.annotatedWith b.vocabulary.type.qualified,
      (m.packageOf id).toList.head? ≠ some '.') : m.HasDistinctKeys b := by
  cases hunits : (initial b settings).units m with
  | mk result c =>
  cases result with
  | error f =>
    rw [accepted, hunits] at he
    cases he
  | ok units =>
    refine Model.hasDistinctKeys_of_emissionNames ?_ hdots
    have hnames := nodup_emission (p := initial b settings) hclasses
    rwa [emission_qualifiedName hunits] at hnames

/-- **Generated code never uses a member that it cannot reach.** What it uses is there, and is not
private, in a class that the keys of the entity's class lead to. That class is the entity's own where
no two annotated classes share the name that accessors are kept by, and so it is unless the package of
one of them starts with a dot. -/
theorem reaches_of_mem_accepted (hplaced : m.WellPlaced b)
    (he : e ∈ (initial b settings).accepted m) :
    e.Reaches m b (m.KeptLike b e.element) ∧
      (m.HasDistinctKeys b → e.Reaches m b (· = e.element)) ∧
      ((∀ id ∈ m.annotatedWith b.vocabulary.type.qualified,
        (m.packageOf id).toList.head? ≠ some '.') → m.HasDistinctKeys b) := by
  have hreaches := reaches_keptLike hplaced he
  refine ⟨hreaches, fun hkeys => hreaches.mono fun owner hkept => ?_,
    hasDistinctKeys_of_mem_accepted hplaced.distinct he⟩
  exact hkeys owner hkept.annotated e.element (element_mem_annotatedWith he) hkept.name

/-! ### A class with two kinds of fields -/

/-- A class with a private field that has both accessors and a field that all can reach. -/
def fieldsModel : Model :=
  ⟨[], [Element.ofKind .package "com.test",
    { Element.ofKind .classType "User" with
      enclosing := some 0
      annotations := [⟨"StorIOSQLiteType", some "table = \"users\""⟩] },
    { Element.ofKind .field "name" with
      enclosing := some 1
      type := some "java.lang.String"
      modifiers := [.privateAccess]
      annotations := [⟨"StorIOSQLiteColumn", some "name = \"name\""⟩] },
    { Element.ofKind .field "id" with
      enclosing := some 1
      type := some "long"
      annotations := [⟨"StorIOSQLiteColumn", some "name = \"_id\", key = true"⟩] },
    { Element.ofKind .method "getName" with
      enclosing := some 1
      type := some "java.lang.String" },
    { Element.ofKind .method "setName" with
      enclosing := some 1
      type := some "void"
      parameters := [⟨"name", "java.lang.String"⟩] }]⟩

theorem accepted_fieldsModel : ((initial .sqlite .unset).accepted fieldsModel).map
    (fun e => (e.columns.map (·.access), e.columns.map (·.setUse), e.activeCreator?)) =
      [([.call "getName", .field "id"], [.call "setName" 1, .set "id"], none)] := by
  decide +kernel

/-- The private field is reached by its accessors, and the other one by itself. -/
theorem reaches_fieldsModel :
    fieldsModel.WellPlaced .sqlite ∧ fieldsModel.HasDistinctKeys .sqlite ∧
      ∃ e ∈ (initial .sqlite .unset).accepted fieldsModel,
        e.columns.map (·.access) = [.call "getName", .field "id"] ∧
          e.columns.map (·.setUse) = [.call "setName" 1, .set "id"] ∧
            (Get.unit Backend.sqlite.runtime e).MakesEmpty ∧
              e.Reaches fieldsModel .sqlite (· = e.element) := by
  have hplaced : fieldsModel.WellPlaced .sqlite := ⟨by decide +kernel, by decide +kernel⟩
  have hkeys : fieldsModel.HasDistinctKeys .sqlite := by decide +kernel
  obtain ⟨e, hentities, hparts⟩ := List.map_eq_singleton_iff.1 accepted_fieldsModel
  simp only [Prod.mk.injEq] at hparts
  have he : e ∈ (initial .sqlite .unset).accepted fieldsModel := by
    rw [hentities]
    exact List.mem_singleton_self e
  have hcolumns := (Entity.check_eq_ok_iff.1 (check_of_mem_accepted he)).1
  exact ⟨hplaced, hkeys, e, he, hparts.1, hparts.2.1, (makesEmpty_iff _ hcolumns).2 hparts.2.2,
    (reaches_of_mem_accepted hplaced he).2.1 hkeys⟩

/-- A class `a.B` of the default package and a class `B` of a package `.a`, each with a getter of its
own. -/
def dottedModel : Model := pairModel (⟨"", "a.B"⟩, "getId") (⟨".a", "B"⟩, "isId")

theorem accepted_dottedModel : ((initial .sqlite .unset).accepted dottedModel).map
    (fun e => (e.className, e.element, e.columns.map fun c => (c.key, c.access))) =
      [(⟨"", "a.B"⟩, 2, [(true, .call "getId")]), (⟨".a", "B"⟩, 3, [(true, .call "getId")])] := by
  decide +kernel

/-- The class of the package is read through the getter of the other one, although the two have names
of their own and it has no such method. -/
theorem reads_borrowedGetter :
    dottedModel.WellPlaced .sqlite ∧
      ∃ e ∈ (initial .sqlite .unset).accepted dottedModel, e.className = ⟨".a", "B"⟩ ∧
        .call "getId" 0 ∈ (Delete.unit Backend.sqlite.runtime e).uses objectName ∧
          (∀ type, ¬dottedModel.CanRead e.element type (.call "getId" 0)) ∧
            ¬e.Reaches dottedModel .sqlite (· = e.element) := by
  have hmem : (⟨".a", "B"⟩, 3, [(true, .call "getId")]) ∈
      ((initial .sqlite .unset).accepted dottedModel).map
        fun e => (e.className, e.element, e.columns.map fun c => (c.key, c.access)) := by
    rw [accepted_dottedModel]
    exact List.mem_cons_of_mem _ List.mem_cons_self
  obtain ⟨e, he, hparts⟩ := List.mem_map.1 hmem
  simp only [Prod.mk.injEq] at hparts
  obtain ⟨hname, helement, hcolumns⟩ := hparts
  obtain ⟨c, hc, hkey⟩ := List.map_eq_singleton_iff.1 hcolumns
  simp only [Prod.mk.injEq] at hkey
  have huse : .call "getId" 0 ∈ (Delete.unit Backend.sqlite.runtime e).uses objectName := by
    refine (mem_uses_delete _ _).2 ⟨c, by rw [hc]; exact List.mem_singleton_self c, hkey.1, ?_⟩
    rw [hkey.2]
    rfl
  -- the getter that is kept for both is the one of the class in the default package
  have hmissing : ∀ type, ¬dottedModel.CanRead e.element type (.call "getId" 0) := by
    rintro type ⟨x, hx, -, hgetter, -⟩
    have hnone : ∀ x ∈ dottedModel.enclosed 3, (dottedModel.element x).name ≠ "getId" := by
      decide +kernel
    rw [helement] at hx
    exact hnone x hx hgetter
  refine ⟨⟨by decide +kernel, by decide +kernel⟩, e, he, hname, huse, hmissing, fun hreaches => ?_⟩
  obtain ⟨-, -, -, type, owner, -, rfl, hread⟩ := hreaches.reads _ (.inr huse)
  exact hmissing type hread

end Processor

end ResolverGen
