/-
The names of values and of their accessors.

An accessor is named by an accessor word with the capitalized name of its value behind it, and a
column on a method goes by what is behind the accessor word, with a small letter again. For a name
that starts with a small letter the one undoes the other, also where the name starts with an accessor
word itself: `getIsOpen` and `isIsOpen` are both accessors of `isOpen`.

A private field can also be read by a method of its own name, if that is `is` with a capital behind
it. By its name this method is the accessor of another value: a column on the field `isOpen` takes
the parameter `isOpen` of a creator, and one on the method `isOpen` takes the parameter `open`.

* `propertyOf?_eq_some_iff`, `decapitalize_capitalize` — taking an accessor word off a name,
* `property_eq_elementName_iff` — the methods that have the names of their values,
* `isGetterName_of_collect` — how the getters of collected columns are named, whatever a processor
  remembers of earlier rounds,
* `namedByMethod` — the name that a column on a method goes by, and when it takes the parameters of a
  field that the method reads.
-/
import Mathlib
import ResolverGen.Proofs.Collection.Learning
import ResolverGen.Proofs.Resolver.Creation
import ResolverGen.Proofs.Round.Reuse

namespace ResolverGen

/-! ### Accessor words -/

namespace Naming

open Unicode

/-- The words that the names of accessors start with. -/
def accessorWords : List String := ["get", "is"]

/-- Whether a name starts with a letter from `a` to `z`. -/
def StartsSmall (name : String) : Prop := ∃ c rest, name.toList = c :: rest ∧ c.isLower = true

/-- Whether a name is an accessor word with a capital behind it. -/
def IsAccessorName (name : String) : Prop :=
  ∃ word ∈ accessorWords, ∃ c rest, name.toList = word.toList ++ c :: rest ∧ isUpper c = true

/-- Whether a getter of a field can have some name. -/
def IsGetterName (name field : String) : Prop :=
  (∃ word ∈ accessorWords, name = word ++ capitalize field) ∨
    name = field ∧ isPredicateName field = true

variable {name rest word : String} {c : Char}

theorem mem_accessorWords : word ∈ accessorWords ↔ word = "get" ∨ word = "is" := by
  simp [accessorWords]

theorem startsUpper_iff {cs : List Char} :
    startsUpper cs = true ↔ ∃ c rest, cs = c :: rest ∧ isUpper c = true := by
  cases cs <;> simp [startsUpper]

/-- No name starts with both words, so it does not matter which of them is tried first. -/
theorem propertyOfChars?_eq_some_iff {cs rest : List Char} :
    propertyOfChars? cs = some rest ↔
      startsUpper rest = true ∧ ∃ word ∈ accessorWords, cs = word.toList ++ rest := by
  unfold propertyOfChars?
  rw [Option.or_eq_some_iff]
  constructor
  · rintro (h | ⟨-, h⟩)
    · obtain ⟨hafter, hupper⟩ := Option.filter_eq_some_iff.1 h
      exact ⟨hupper, "get", by simp [accessorWords], eq_append_of_after? hafter⟩
    · obtain ⟨hafter, hupper⟩ := Option.filter_eq_some_iff.1 h
      exact ⟨hupper, "is", by simp [accessorWords], eq_append_of_after? hafter⟩
  · rintro ⟨hupper, word, hword, rfl⟩
    rcases mem_accessorWords.1 hword with rfl | rfl
    · exact .inl (Option.filter_eq_some_iff.2 ⟨after?_append _ _, hupper⟩)
    · have hget : after? "get".toList ("is".toList ++ rest) = none := rfl
      refine .inr ⟨by rw [hget, Option.filter_none], ?_⟩
      exact Option.filter_eq_some_iff.2 ⟨after?_append _ _, hupper⟩

theorem propertyOf?_eq_some_iff : propertyOf? name = some rest ↔
    startsUpper rest.toList = true ∧ ∃ word ∈ accessorWords, name = word ++ rest := by
  have hchars (word : String) : name = word ++ rest ↔ name.toList = word.toList ++ rest.toList := by
    rw [← String.toList_append, String.toList_inj]
  simp only [hchars, ← propertyOfChars?_eq_some_iff, propertyOf?, Option.map_eq_some_iff]
  constructor
  · rintro ⟨cs, hcs, rfl⟩
    rwa [String.toList_ofList]
  · exact fun h => ⟨rest.toList, h, String.ofList_toList⟩

theorem isSome_propertyOf? : (propertyOf? name).isSome = true ↔ IsAccessorName name := by
  rw [Option.isSome_iff_exists]
  simp only [propertyOf?_eq_some_iff, startsUpper_iff]
  constructor
  · rintro ⟨rest, ⟨c, cs, hrest, hupper⟩, word, hword, rfl⟩
    exact ⟨word, hword, c, cs, by rw [String.toList_append, hrest], hupper⟩
  · rintro ⟨word, hword, c, cs, hname, hupper⟩
    refine ⟨String.ofList (c :: cs), ⟨c, cs, String.toList_ofList, hupper⟩, word, hword, ?_⟩
    rw [← String.toList_inj, hname, String.toList_append, String.toList_ofList]

/-! ### Capitalized names -/

theorem toNat_lt_of_isAlpha (h : c.isAlpha = true) : c.toNat < 0x80 := by
  simp only [Char.isAlpha, Char.isUpper, Char.isLower, Bool.or_eq_true, Bool.and_eq_true,
    decide_eq_true_eq, UInt32.le_iff_toNat_le, ge_iff_le] at h
  have hsmall : 'z'.val.toNat = 122 := rfl
  have hcapital : 'Z'.val.toNat = 90 := rfl
  show c.val.toNat < 128
  omega

/-- The capital of a small letter is a capital, and the small letter of that is the same again. -/
theorem upper_of_isLower (h : c.isLower = true) :
    upper c = [c.toUpper] ∧ isUpper c.toUpper = true ∧ lower c.toUpper = [c] := by
  have halpha : c.isAlpha = true := by simp [Char.isAlpha, h]
  have hcapital : c.toUpper.toNat < 0x80 := toNat_lt_of_isAlpha (by simpa using halpha)
  refine ⟨upper_ascii (toNat_lt_of_isAlpha halpha), ?_, ?_⟩
  · rw [isUpper_ascii hcapital, Char.isUpper_toUpper_eq_isAlpha, halpha]
  · rw [lower_ascii hcapital, Char.toLower_toUpper_eq_toLower,
      Char.toLower_eq_of_not_isUpper (Char.not_isUpper_of_isLower h)]

theorem StartsSmall.startsUpper_capitalize (h : StartsSmall name) :
    startsUpper (capitalize name).toList = true := by
  obtain ⟨c, rest, hname, hsmall⟩ := h
  obtain ⟨hupper, hcapital, -⟩ := upper_of_isLower hsmall
  rw [capitalize, String.toList_ofList, hname, startsUpper_iff]
  exact ⟨c.toUpper, rest, by rw [capitalizeChars, hupper]; rfl, hcapital⟩

theorem StartsSmall.decapitalize_capitalize (h : StartsSmall name) :
    decapitalize (capitalize name) = name := by
  obtain ⟨c, rest, hname, hsmall⟩ := h
  obtain ⟨hupper, -, hlower⟩ := upper_of_isLower hsmall
  have hcapital : capitalizeChars name.toList = c.toUpper :: rest := by
    rw [hname, capitalizeChars, hupper]
    rfl
  rw [decapitalize, capitalize, String.toList_ofList, hcapital, decapitalizeChars, hlower,
    List.singleton_append, ← hname, String.ofList_toList]

theorem StartsSmall.isAccessorName (h : StartsSmall name) (hword : word ∈ accessorWords) :
    IsAccessorName (word ++ capitalize name) := by
  rw [← isSome_propertyOf?, Option.isSome_iff_exists]
  exact ⟨_, propertyOf?_eq_some_iff.2 ⟨h.startsUpper_capitalize, word, hword, rfl⟩⟩

/-- The getters of a field are named as accessors, be it of the field or of another value. -/
theorem IsGetterName.isAccessorName {field : String} (h : IsGetterName name field)
    (hsmall : StartsSmall field) : IsAccessorName name := by
  rcases h with ⟨word, hword, rfl⟩ | ⟨rfl, hpredicate⟩
  · exact hsmall.isAccessorName hword
  · obtain ⟨c, rest, hname, hupper⟩ := (isPredicateName_iff name).1 hpredicate
    exact ⟨"is", mem_accessorWords.2 (.inr rfl), c, rest, hname, hupper⟩

/-- Only one character has a small letter of two characters, and none has a longer one. -/
theorem length_lower_le (c : Char) : (lower c).length ≤ 2 := by
  unfold lower mapCase
  split
  · simp
  · split
    · next codes hcodes =>
      simp only [lowerExpansions, List.lookup_cons, List.lookup_nil] at hcodes
      split at hcodes
      · cases hcodes
        simp
      · cases hcodes
    · simp

/-- A text that is made longer by an accessor word is not made as long by a small letter. -/
theorem decapitalize_ne_append (hword : word ∈ accessorWords) (rest : String) :
    decapitalize rest ≠ word ++ rest := by
  intro heq
  have hlength := congrArg (·.toList.length) heq
  have hlong : 2 ≤ word.toList.length := by
    rcases mem_accessorWords.1 hword with rfl | rfl <;> decide
  simp only [decapitalize, String.toList_ofList, String.toList_append, List.length_append] at hlength
  cases hrest : rest.toList with
  | nil =>
    rw [hrest] at hlength
    simp only [decapitalizeChars, List.length_nil] at hlength
    omega
  | cons c cs =>
    have hlower := length_lower_le c
    rw [hrest] at hlength
    simp only [decapitalizeChars, List.length_append, List.length_cons] at hlength
    omega

end Naming

open Naming

/-! ### Columns on methods -/

theorem Creator.eq_of_position {creator : Creator} {a b : String} {i : Nat}
    (ha : creator.position a = some i) (hb : creator.position b = some i) : a = b := by
  have hname := position_eq_some ha
  rw [position_eq_some hb] at hname
  exact (Option.some.inj hname).symm

namespace Column

variable {c : Column} {word name : String}

theorem property_of_capitalize (h : c.kind = .method) (hword : word ∈ accessorWords)
    (hsmall : StartsSmall name) (hname : c.elementName = word ++ capitalize name) :
    c.property = name := by
  have hproperty : propertyOf? c.elementName = some (capitalize name) :=
    propertyOf?_eq_some_iff.2 ⟨hsmall.startsUpper_capitalize, word, hword, hname⟩
  simp only [property, h, hproperty]
  exact hsmall.decapitalize_capitalize

/-- A method has the name of its value just if that is not the name of an accessor. -/
theorem property_eq_elementName_iff (h : c.kind = .method) :
    c.property = c.elementName ↔ ¬IsAccessorName c.elementName := by
  rw [← isSome_propertyOf?]
  cases hproperty : propertyOf? c.elementName with
  | none => simp [property, h, hproperty]
  | some rest =>
    obtain ⟨-, word, hword, hname⟩ := propertyOf?_eq_some_iff.1 hproperty
    have hvalue : c.property = decapitalize rest := by simp only [property, h, hproperty]
    have hne : c.property ≠ c.elementName := by
      rw [hvalue, hname]
      exact decapitalize_ne_append hword rest
    simp [hne]

/-- A column on a getter of a field goes by the name of the field, unless the getter has that name. -/
theorem property_of_isGetterName (h : c.kind = .method) (hsmall : StartsSmall name)
    (hgetter : IsGetterName c.elementName name) : c.property = name ↔ c.elementName ≠ name := by
  -- an accessor never has the name of its value
  have hne : c.property ≠ c.elementName := fun heq =>
    (property_eq_elementName_iff h).1 heq (hgetter.isAccessorName hsmall)
  rcases hgetter with ⟨word, hword, hname⟩ | ⟨hname, -⟩
  · have hproperty := property_of_capitalize h hword hsmall hname
    exact iff_of_true hproperty fun heq => hne (hproperty.trans heq.symm)
  · exact iff_of_false (fun hproperty => hne (hproperty.trans hname.symm)) fun hdiffers =>
      hdiffers hname

end Column

/-! ### The names of getters -/

theorem Element.ServesAsGetter.isGetterName {e field : Element} (h : e.ServesAsGetter field) :
    IsGetterName e.name field.name := by
  rcases h.named with hget | his | ⟨hname, c, rest, hfield, hupper⟩
  · exact .inl ⟨"get", mem_accessorWords.2 (.inl rfl), hget⟩
  · exact .inl ⟨"is", mem_accessorWords.2 (.inr rfl), his⟩
  · exact .inr ⟨hname, (isPredicateName_iff field.name).2 ⟨c, rest, hfield, hupper⟩⟩

namespace Model

variable {m : Model} {b : Backend} {nonNull : Code.ClassName} {known : Accessors}
  {models : List Model} {id : ElementId} {getter : String}

theorem isGetterName_of_getterOf? (h : m.getterOf? id = some getter) :
    IsGetterName getter (m.element id).name := by
  obtain ⟨last, hlast, rfl⟩ := ((m.finds_getterOf? id).some_iff getter).1 h
  have hserves : (m.element last).ServesAsGetter (m.element id) := hlast.isOne
  exact hserves.isGetterName

/-- What is kept under a key has been found for a field of that name, in this model or in another. -/
theorem isGetterName_of_collect (hfound : known.FoundIn b models) {e : Entity} {f : Column}
    (he : e ∈ (m.collect b nonNull known).2.entities) (hf : f ∈ e.columns)
    (hgetter : f.getter = some getter) : IsGetterName getter f.elementName := by
  obtain ⟨before, after, -, hreads, hread⟩ := exists_readColumn_of_collect he hf
  have hname : f.elementName = (m.accessorKey f.element).field := by
    obtain ⟨spec, -, -, hcolumn⟩ := readColumn_ok hread
    obtain ⟨type, -, -, -, -, hf⟩ := column_ok hcolumn
    rw [hf]
    rfl
  rw [(accessors_of_readColumn hreads hread).1, Option.or_eq_some_iff] at hgetter
  rw [hname]
  -- an earlier round has found the getter, or a member of this model, and either for the same key
  rcases hgetter with hknown | ⟨-, hfirst⟩
  · obtain ⟨other, -, id, -, -, hkey, hother⟩ := hfound.getters _ _ hknown
    rw [← hkey]
    exact isGetterName_of_getterOf? hother
  · obtain ⟨id, -, hid⟩ := List.exists_of_findSome?_eq_some hfirst
    obtain ⟨-, hkey, hown⟩ := accessorFor?_eq_some_iff.1 hid
    rw [← hkey]
    exact isGetterName_of_getterOf? hown

end Model

namespace Processor

variable {p : Processor} {m : Model} {e : Entity}

/-- The entities that a round collects of a model, whether it accepts them or not. -/
def collected (p : Processor) (m : Model) : List Entity := (p.units m).2.entities

theorem mem_collected_of_mem_accepted (h : e ∈ p.accepted m) : e ∈ p.collected m := by
  unfold accepted at h
  split at h
  · next hunits =>
    rw [collected, hunits]
    exact h
  · exact absurd h List.not_mem_nil

end Processor

/-- The name that a column on a method goes by, and the parameters that it takes. -/
structure Column.NamedByMethod (c : Column) : Prop where
  /-- An accessor of a value gives the name of the value. -/
  inverted : ∀ word ∈ accessorWords, ∀ name, StartsSmall name →
    c.elementName = word ++ capitalize name → c.property = name
  /-- The names that are not those of accessors are left as they are, and no others. -/
  kept : c.property = c.elementName ↔ ¬IsAccessorName c.elementName
  /-- Where the method is the getter of a private field that some round collects, the column on it
  takes the parameter of every creator that the column on the field takes. If the method has the name
  of the field, there is no parameter that both take. -/
  shared : ∀ {σ : Type} (write : σ → Code.SourceUnit → Except String σ) (b : Backend)
    (settings : Settings) (history : List (Model × σ)) (m : Model),
    ∀ e ∈ ((Processor.initial b settings).after write history).collected m, ∀ f ∈ e.columns,
      f.kind = .field → f.getter = some c.elementName → StartsSmall f.elementName →
        (c.elementName ≠ f.elementName →
          ∀ creator : Creator, creator.position f.property = creator.position c.property) ∧
        (c.elementName = f.elementName → ∀ (creator : Creator) (i : Nat),
          creator.position f.property = some i → creator.position c.property ≠ some i)

/-- **A column on an accessor goes by the name of the value that the accessor is named after, and a
column on any other method by the name of the method. So the getter of a private field takes the
parameters that the field takes, unless it has the field's own name.** -/
theorem Column.namedByMethod {c : Column} (h : c.kind = .method) : c.NamedByMethod := by
  refine
    { inverted := fun word hword name hsmall hname =>
        property_of_capitalize h hword hsmall hname
      kept := property_eq_elementName_iff h
      shared := fun write b settings history m e he f hf hkind hgetter hsmall => ?_ }
  obtain ⟨hbackend, -, hfound⟩ := Processor.after_spec write history
    (p := Processor.initial b settings) (Accessors.FoundIn.empty b)
  have hfield : f.property = f.elementName := by simp only [property, hkind]
  have hnamed : IsGetterName c.elementName f.elementName :=
    Model.isGetterName_of_collect (hbackend ▸ hfound) he hf hgetter
  have hproperty : c.property = f.property ↔ c.elementName ≠ f.elementName := by
    rw [hfield]
    exact property_of_isGetterName h hsmall hnamed
  refine ⟨fun hne creator => by rw [hproperty.2 hne], fun heq creator i hi hposition => ?_⟩
  exact hproperty.1 (Creator.eq_of_position hposition hi) heq

/-! ### A field and a method that reads it -/

namespace Processor

/-- A class with a private field and a method that reads it, one of which is a column, made by a
constructor that takes a value of the field's name. -/
def openModel (getter : String) (column : MemberKind) : Model :=
  ⟨[], [Element.ofKind .package "com.test",
    { Element.ofKind .classType "Door" with
      enclosing := some 0
      annotations := [⟨"StorIOSQLiteType", some "table = \"doors\""⟩] },
    { Element.ofKind .field "isOpen" with
      enclosing := some 1
      type := some "boolean"
      modifiers := [.privateAccess]
      annotations := if column = .field then [mark] else [] },
    { Element.ofKind .method getter with
      enclosing := some 1
      type := some "boolean"
      annotations := if column = .method then [mark] else [] },
    { Element.ofKind .constructor "<init>" with
      enclosing := some 1
      annotations := [⟨"StorIOSQLiteCreator", none⟩]
      parameters := [⟨"isOpen", "boolean"⟩] }]⟩
where
  /-- The annotation of the column. -/
  mark : Annotation := ⟨"StorIOSQLiteColumn", some "name = \"open\", key = true"⟩

/-- The column that the field gives. -/
def openField (getter : String) : Column :=
  { enclosing := 1, element := 2, kind := .field, elementName := "isOpen", type := .boolean
    name := "open", key := true, ignoreNull := false, version := 1, getter := some getter
    setter := none, notNull := false }

/-- The column that the method gives. -/
def openMethod (name : String) : Column :=
  { enclosing := 1, element := 3, kind := .method, elementName := name, type := .boolean
    name := "open", key := true, ignoreNull := false, version := 1, getter := none
    setter := none, notNull := false }

/-- The constructor of the class. -/
def openCreator : Creator := ⟨1, 4, .constructor, ["isOpen"]⟩

theorem startsSmall_isOpen : StartsSmall "isOpen" := ⟨'i', ['s', 'O', 'p', 'e', 'n'], rfl, rfl⟩

/-- The value of an accessor can have a name that starts with an accessor word itself. -/
theorem namedByMethod_getIsOpen :
    ∃ e ∈ ((initial .sqlite .unset).after Sources.write []).collected
        (openModel "getIsOpen" .field), ∃ f ∈ e.columns,
      f.kind = .field ∧ f.getter = some "getIsOpen" ∧ StartsSmall f.elementName ∧
        (openMethod "getIsOpen").kind = .method ∧ (openMethod "getIsOpen").NamedByMethod ∧
        (openMethod "getIsOpen").property = "isOpen" ∧
        ∀ creator : Creator,
          creator.position f.property = creator.position (openMethod "getIsOpen").property := by
  have haccepted : ((initial .sqlite .unset).accepted (openModel "getIsOpen" .field)).map
      (·.columns) = [[openField "getIsOpen"]] := by
    decide +kernel
  obtain ⟨e, he, hcolumns⟩ := exists_of_accepted haccepted
  have hcollected := mem_collected_of_mem_accepted he
  have hfield : openField "getIsOpen" ∈ e.columns := by
    rw [hcolumns]
    exact List.mem_singleton_self _
  have hnamed : (openMethod "getIsOpen").NamedByMethod := Column.namedByMethod rfl
  refine ⟨e, hcollected, openField "getIsOpen", hfield, rfl, rfl, startsSmall_isOpen, rfl, hnamed,
    ?_, ?_⟩
  · exact hnamed.inverted "get" (mem_accessorWords.2 (.inl rfl)) "isOpen" startsSmall_isOpen
      (by decide)
  · exact (hnamed.shared Sources.write .sqlite .unset [] _ e hcollected _ hfield rfl rfl
      startsSmall_isOpen).1 (by decide)

/-- The constructor takes the value of the field, but not that of the getter that has the field's own
name. -/
theorem position_isOpen : ∃ f c creator,
    ((initial .sqlite .unset).accepted (openModel "isOpen" .field)).map
      (fun e => (e.columns, e.creator)) = [([f], some creator)] ∧
    ((initial .sqlite .unset).collected (openModel "isOpen" .method)).map
      (fun e => (e.columns, e.creator)) = [([c], some creator)] ∧
    StartsSmall f.elementName ∧ f.kind = .field ∧
    ((openModel "isOpen" .field).element f.element).has .privateAccess = true ∧
    c.kind = .method ∧ f.getter = some c.elementName ∧
    (openModel "isOpen" .method).getterOf? f.element = some c.elementName ∧
    creator.position f.property = some 0 ∧ creator.position c.property = none ∧
    (initial .sqlite .unset).accepted (openModel "isOpen" .method) = [] := by
  refine ⟨openField "isOpen", openMethod "isOpen", openCreator, ?_, ?_, startsSmall_isOpen, rfl, ?_,
    rfl, rfl, ?_, ?_, ?_, ?_⟩
  · decide +kernel
  · decide +kernel
  · decide
  · decide +kernel
  · decide +kernel
  · decide +kernel
  · rw [← List.map_eq_nil_iff (f := (·.columns))]
    decide +kernel

end Processor

end ResolverGen
