/-
Documents of models.

`Model.spelling` tells which documents are of a model: an object with the known types, listed in any
order, and the elements; an element is an object with its parts, its modifiers in any order, and its
annotations as texts with blanks around the name and the arguments. Whatever is absent may be null or
left out, and other keys may come with texts.

Every document of a sound model is accepted, and gives the model back (`ofDocument_of_spelling`).
-/
import ResolverGen.Proofs.Element.Annotations
import ResolverGen.Proofs.Element.References
import ResolverGen.Proofs.Json.Fields

namespace ResolverGen

open Json

/-! ### Annotations -/

namespace Annotation

/-- The texts that write an annotation, whose name has to be one. -/
def spelling (a : Annotation) : Spelling := fun cs =>
  ∃ written, isName a.name.toList = true ∧ a.WrittenAs written ∧
    Spelling.text (String.ofList written) cs

theorem reads_spelling (a : Annotation) : Reads reader a.spelling a := by
  refine ⟨?_, ?_⟩
  · rintro cs ⟨written, -, -, htext⟩
    exact startsValue_text htext
  · rintro b cs rest hb ⟨written, hname, hwritten, htext⟩ hrest
    have hread := (reads_text (String.ofList written)).reads b cs rest hb htext hrest
    rw [reader, Reader.bind_of_ok hread, read_writtenAs hname hwritten]
    rfl

end Annotation

/-! ### Parameters -/

namespace Parameter

/-- The parts of a parameter. -/
def parts : List (Json.Part Parameter) :=
  [⟨"name", fun p => Spelling.text p.name, fun _ => False⟩,
   ⟨"type", fun p => Spelling.text p.type, fun _ => False⟩]

/-- The objects that write a parameter. -/
def spelling (p : Parameter) : Spelling := Spelling.record parts p

/-- A parameter of which some parts have been given. -/
def given (p : Parameter) (keys : List String) : Parameter where
  name := if "name" ∈ keys then p.name else ""
  type := if "type" ∈ keys then p.type else ""

theorem follows (p : Parameter) : record.Follows parts p p.given p where
  fields :=
    .cons ⟨rfl, fun _ => id, fun _ => (reads_text p.name).bind_pure (by simp [given])⟩
      (.cons ⟨rfl, fun _ => id, fun _ => (reads_text p.type).bind_pure (by simp [given])⟩ .nil)
  start := rfl
  whole keys h := by
    simp only [parts, List.forall_mem_cons, or_false] at h
    simp [given, h.1, h.2.1]

theorem reads_spelling (p : Parameter) : Reads record.read p.spelling p := (follows p).reads

end Parameter

/-! ### Elements -/

namespace Element

/-- The lists that write a set of modifiers, in any order and with repetitions. -/
def modifierSpelling (modifiers : List Modifier) : Spelling := fun cs =>
  ∃ listed : List Modifier, (∀ x, x ∈ listed ↔ x ∈ modifiers) ∧
    Spelling.list (fun x => Spelling.text x.name) listed cs

/-- The parts of an element. -/
def parts : List (Json.Part Element) :=
  [⟨"kind", fun e => Spelling.text e.kind.name, fun _ => False⟩,
   ⟨"name", fun e => Spelling.text e.name, fun _ => False⟩,
   ⟨"modifiers", fun e => modifierSpelling e.modifiers, fun e => e.modifiers = []⟩,
   ⟨"type", fun e => Spelling.optional Spelling.text e.type, fun e => e.type = none⟩,
   ⟨"enclosing", fun e => Spelling.optional Spelling.index e.enclosing,
      fun e => e.enclosing = none⟩,
   ⟨"annotations", fun e => Spelling.list Annotation.spelling e.annotations,
      fun e => e.annotations = []⟩,
   ⟨"parameters", fun e => Spelling.list Parameter.spelling e.parameters,
      fun e => e.parameters = []⟩,
   ⟨"superclass", fun e => Spelling.optional Spelling.index e.superclass,
      fun e => e.superclass = none⟩]

/-- The objects that write an element. -/
def spelling (e : Element) : Spelling := Spelling.record parts e

/-- An element with its modifiers in the order in which a set lists them. -/
def normal (e : Element) : Element := { e with modifiers := Modifier.setOf e.modifiers }

/-- An element of which some parts have been given. -/
def given (e : Element) (keys : List String) : Element where
  kind := if "kind" ∈ keys then e.kind else .package
  name := if "name" ∈ keys then e.name else ""
  modifiers := if "modifiers" ∈ keys then Modifier.setOf e.modifiers else []
  type := if "type" ∈ keys then e.type else none
  enclosing := if "enclosing" ∈ keys then e.enclosing else none
  annotations := if "annotations" ∈ keys then e.annotations else []
  parameters := if "parameters" ∈ keys then e.parameters else []
  superclass := if "superclass" ∈ keys then e.superclass else none

theorem setOf_congr {listed listed' : List Modifier} (h : ∀ x, x ∈ listed ↔ x ∈ listed') :
    Modifier.setOf listed = Modifier.setOf listed' := by
  refine List.filter_congr fun x _ => ?_
  rw [Bool.eq_iff_iff, List.contains_iff_mem, List.contains_iff_mem]
  exact h x

theorem reads_modifiers (e : Element) (keys : List String) :
    Reads (do pure { e.given keys with
        modifiers := Modifier.setOf (← Reader.list (Reader.variant Modifier.name Modifier.all)) })
      (modifierSpelling e.modifiers) (e.given ("modifiers" :: keys)) := by
  have hlist (listed : List Modifier) :
      Reads (Reader.list (Reader.variant Modifier.name Modifier.all))
        (Spelling.list (fun x => Spelling.text x.name) listed) (listed.map id) :=
    reads_list fun x _ => reads_variant (by cases x <;> rfl)
  have hread (listed : List Modifier) (h : ∀ x, x ∈ listed ↔ x ∈ e.modifiers) :
      Reads (do pure { e.given keys with
          modifiers := Modifier.setOf (← Reader.list (Reader.variant Modifier.name Modifier.all)) })
        (Spelling.list (fun x => Spelling.text x.name) listed)
        (e.given ("modifiers" :: keys)) := by
    refine (hlist listed).bind_pure ?_
    simp [given, setOf_congr h]
  refine ⟨?_, ?_⟩
  · rintro cs ⟨listed, h, hcs⟩
    exact (hread listed h).starts cs hcs
  · rintro b cs rest hb ⟨listed, h, hcs⟩ hrest
    exact (hread listed h).reads b cs rest hb hcs hrest

theorem reads_optionalText (value : Option String) :
    Reads (Reader.optional Reader.text) (Spelling.optional Spelling.text value) value := by
  refine reads_optional (fun s _ => reads_text s) ?_
  rintro s cs ⟨body, -, rfl⟩
  simp

theorem reads_optionalIndex (value : Option Nat) :
    Reads (Reader.optional Reader.index) (Spelling.optional Spelling.index value) value := by
  refine reads_optional (fun n _ => reads_index n) ?_
  rintro n cs ⟨-, rfl⟩ hhead
  have hdigit : 'n'.isDigit = true :=
    Nat.isDigit_of_mem_toDigits (by decide) (by decide) (List.mem_of_mem_head? hhead)
  exact absurd hdigit (by decide)

theorem follows (e : Element) : record.Follows parts e e.given e.normal where
  fields := by
    have hkind : Reads (Reader.variant ElementKind.name ElementKind.all)
        (Spelling.text e.kind.name) e.kind := reads_variant (by cases e.kind <;> rfl)
    have hannotations := reads_list fun (a : Annotation) (_ : a ∈ e.annotations) =>
      a.reads_spelling
    have hparameters := reads_list fun (p : Parameter) (_ : p ∈ e.parameters) => p.reads_spelling
    rw [List.map_id'] at hannotations hparameters
    refine .cons ⟨rfl, fun _ => id, fun _ => hkind.bind_pure ?_⟩
      (.cons ⟨rfl, fun _ => id, fun _ => (reads_text e.name).bind_pure ?_⟩
        (.cons ⟨rfl, nofun, reads_modifiers e⟩
          (.cons ⟨rfl, nofun, fun _ => (reads_optionalText e.type).bind_pure ?_⟩
            (.cons ⟨rfl, nofun, fun _ => (reads_optionalIndex e.enclosing).bind_pure ?_⟩
              (.cons ⟨rfl, nofun, fun _ => hannotations.bind_pure ?_⟩
                (.cons ⟨rfl, nofun, fun _ => hparameters.bind_pure ?_⟩
                  (.cons ⟨rfl, nofun, fun _ => (reads_optionalIndex e.superclass).bind_pure ?_⟩
                    .nil)))))))
    all_goals simp [given]
  start := rfl
  whole keys h := by
    simp only [parts, List.forall_mem_cons, or_false] at h
    obtain ⟨hkind, hname, hmodifiers, htype, henclosing, hannotations, hparameters,
      hsuperclass, -⟩ := h
    -- no modifiers at all are the empty set
    have hset : "modifiers" ∈ keys ∨ Modifier.setOf e.modifiers = [] :=
      hmodifiers.imp_right fun hnone => by
        rw [hnone]
        rfl
    simp only [given, normal, if_pos hkind, if_pos hname, Record.ite_given hset,
      Record.ite_given htype, Record.ite_given henclosing, Record.ite_given hannotations,
      Record.ite_given hparameters, Record.ite_given hsuperclass]

theorem reads_spelling (e : Element) : Reads record.read e.spelling e.normal := (follows e).reads

/-- Whether two elements are the same, whatever the order and number of their modifiers. -/
structure Same (e e' : Element) : Prop where
  kind : e'.kind = e.kind
  name : e'.name = e.name
  modifiers : ∀ x, e'.has x = e.has x
  type : e'.type = e.type
  enclosing : e'.enclosing = e.enclosing
  annotations : e'.annotations = e.annotations
  parameters : e'.parameters = e.parameters
  superclass : e'.superclass = e.superclass

theorem same_normal (e : Element) : e.Same e.normal := by
  refine ⟨rfl, rfl, fun x => ?_, rfl, rfl, rfl, rfl, rfl⟩
  rw [Bool.eq_iff_iff, has, has, List.contains_iff_mem, List.contains_iff_mem]
  exact Modifier.mem_setOf

end Element

/-! ### Models -/

namespace Model

/-- The parts of a model. -/
def parts : List (Json.Part Model) :=
  [⟨"known_types", fun m => Spelling.list Spelling.text m.knownTypes, fun m => m.knownTypes = []⟩,
   ⟨"elements", fun m => Spelling.list Element.spelling m.elements, fun m => m.elements = []⟩]

/-- The objects that write a model, with its known types in any order and with repetitions. -/
def spelling (m : Model) : Spelling := fun cs =>
  ∃ listed : List String, (∀ name, name ∈ listed ↔ m.knows name = true) ∧
    Spelling.record parts { m with knownTypes := listed } cs

/-- A model with its elements as they are read. -/
def normal (m : Model) : Model := { m with elements := m.elements.map Element.normal }

/-- A model of which some parts have been given. -/
def given (m : Model) (keys : List String) : Model where
  knownTypes := if "known_types" ∈ keys then m.knownTypes else []
  elements := if "elements" ∈ keys then m.elements.map Element.normal else []

theorem follows (m : Model) : record.Follows parts m m.given m.normal where
  fields := by
    have hknown := reads_list fun (s : String) (_ : s ∈ m.knownTypes) => reads_text s
    have helements := reads_list fun (e : Element) (_ : e ∈ m.elements) => e.reads_spelling
    rw [List.map_id'] at hknown
    refine .cons ⟨rfl, nofun, fun _ => hknown.bind_pure ?_⟩
      (.cons ⟨rfl, nofun, fun _ => helements.bind_pure ?_⟩ .nil)
    all_goals simp [given]
  start := rfl
  whole keys h := by
    simp only [parts, List.forall_mem_cons] at h
    have helements : "elements" ∈ keys ∨ m.elements.map Element.normal = [] :=
      h.2.1.imp_right fun hnone => by
        rw [hnone]
        rfl
    simp only [given, normal, Record.ite_given h.1, Record.ite_given helements]

/-- Whether two models are the same, whatever the order of their known types and modifiers. -/
structure Same (m m' : Model) : Prop where
  known : ∀ name, m'.knows name = m.knows name
  size : m'.size = m.size
  elements : ∀ id, (m.element id).Same (m'.element id)

theorem element_normal (m : Model) (id : ElementId) : m.normal.element id = (m.element id).normal := by
  rw [element, element, normal, List.getD_eq_getElem?_getD, List.getD_eq_getElem?_getD,
    List.getElem?_map]
  cases m.elements[id]? <;> rfl

theorem same_normal (m : Model) : m.Same m.normal := by
  refine ⟨fun _ => rfl, List.length_map .., fun id => ?_⟩
  rw [element_normal]
  exact Element.same_normal _

/-- **A document of a sound model is accepted, and gives the model back.** -/
theorem ofDocument_of_spelling {m : Model} (hsound : m.Sound) {text : String}
    (htext : Spelling.document m.spelling text.toList) :
    ∃ m', ofDocument text = .ok m' ∧ m.Same m' := by
  obtain ⟨b, value, b', hb, ⟨listed, hlisted, hvalue⟩, hb', heq⟩ := htext
  -- the model as it is listed differs in its known types alone
  have hread : record.read.run text = .ok (normal { m with knownTypes := listed }) :=
    (follows { m with knownTypes := listed }).reads.run ⟨b, value, b', hb, hvalue, hb', heq⟩
  have hknown (name : String) : (normal { m with knownTypes := listed }).knows name =
      m.knows name := by
    rw [Bool.eq_iff_iff, ← hlisted name]
    exact List.contains_iff_mem
  have hsame : m.Same (normal { m with knownTypes := listed }) :=
    ⟨hknown, (same_normal m).size, (same_normal m).elements⟩
  -- references are kept, hence they lead to elements as before
  have hsound' : (normal { m with knownTypes := listed }).Sound := by
    intro id
    have helement := hsame.elements id
    rw [hsame.size]
    refine ⟨fun outer houter => ?_, fun parent hparent => ?_⟩
    · exact (hsound id).enclosing outer (helement.enclosing ▸ houter)
    · exact (hsound id).superclass parent (helement.superclass ▸ hparent)
  refine ⟨_, ?_, hsame⟩
  rw [ofDocument, hread]
  simp only [sound_iff_dangling?.1 hsound']

/-! ### A document -/

/-- A package with an escaped character in its name and with a key that nobody asks for. -/
def packageText : String :=
  "\x7b\"name\":\"com.\\u0061\",\"kind\":\"package\",\"note\":\"\"\x7d"

/-- A class of it with null for its type, a modifier that comes twice, and blanks in its annotation. -/
def noteText : String :=
  "\x7b\"kind\":\"class\"," ++ "\"type\":null," ++ "\"modifiers\":" ++
    "[\"final\",\"public\",\"final\"]," ++ "\"enclosing\":0," ++ "\"annotations\":" ++
    "[\" @ Named( x ) \"]," ++ "\"name\":\"Note\"\x7d"

/-- A document with both, and with a known type that comes twice. -/
def scatteredText : String :=
  " \x7b\"elements\":[" ++ packageText ++ "," ++ noteText ++ "]," ++ "\"known_types\":" ++
    "[\"a.B\",\"a.B\"]\x7d\n"

/-- The class that it writes. -/
def noteElement : Element where
  kind := .classType
  name := "Note"
  modifiers := [.publicAccess, .final]
  type := none
  enclosing := some 0
  annotations := [⟨"Named", some "x"⟩]
  parameters := []
  superclass := none

/-- The model that it writes. -/
def scatteredModel : Model := ⟨["a.B"], [Element.ofKind .package "com.a", noteElement]⟩

open Json.Spelling

theorem spelling_packageText : (Element.ofKind .package "com.a").spelling packageText.toList := by
  have hchars : chars ['c', 'o', 'm', '.', 'a'] "com.\\u0061".toList := by
    have hplain : chars ['c', 'o', 'm', '.'] ['c', 'o', 'm', '.'] := chars_self (by decide)
    have hcode : Spelling.code 'a'.toNat ['\\', 'u', '0', '0', '6', '1'] :=
      ⟨'0', '0', '6', '1', rfl, by decide, by decide, by decide, by decide⟩
    exact chars_append hplain (.cons (.code hcode) .nil)
  refine ⟨[("name", text "com.a"), ("kind", text "package"), ("note", text "")], ⟨?_, ?_⟩, _,
    series_item (entry_quoted (by decide) ⟨_, hchars, rfl⟩)
      (more_item (entry_quoted (by decide) (text_quoted (by decide)))
        (more_item (entry_quoted (by decide) (text_quoted (by decide))) more_close)), ?_⟩
  · simp [Element.parts, Element.ofKind]
    rfl
  · simp [Element.parts]
  · simp [packageText]

theorem spelling_noteText : noteElement.spelling noteText.toList := by
  have hmodifiers : Element.modifierSpelling noteElement.modifiers
      "[\"final\",\"public\",\"final\"]".toList := by
    refine ⟨[.final, .publicAccess, .final], fun x => by cases x <;> decide, _,
      series_item (text_quoted (by decide)) (more_item (text_quoted (by decide))
        (more_item (text_quoted (by decide)) more_close)), ?_⟩
    simp [Modifier.name]
  have hannotation : Annotation.spelling ⟨"Named", some "x"⟩ "\" @ Named( x ) \"".toList := by
    have hwritten : Annotation.WrittenAs ⟨"Named", some "x"⟩ " @ Named( x ) ".toList := by
      show Annotation.WrittenAs _ ([' '] ++ '@' :: ([' '] ++ ("Named".toList ++ ([] ++ '(' ::
        ([' '] ++ (['x'] ++ ([' '] ++ ')' :: [' '])))))))
      refine .applied ?_ ?_ ?_ ?_ ?_ ?_ ?_ ?_
      all_goals decide
    exact ⟨_, by decide, hwritten, _, chars_self (by decide), by decide⟩
  have hannotations : Spelling.list Annotation.spelling noteElement.annotations
      "[\" @ Named( x ) \"]".toList :=
    ⟨_, series_item hannotation more_close, by simp⟩
  refine ⟨[("kind", text "class"), ("type", null),
      ("modifiers", Element.modifierSpelling noteElement.modifiers), ("enclosing", index 0),
      ("annotations", Spelling.list Annotation.spelling noteElement.annotations),
      ("name", text "Note")], ⟨?_, ?_⟩, _,
    series_item (entry_quoted (by decide) (text_quoted (by decide)))
      (more_item (entry_quoted (by decide) rfl)
        (more_item (entry_quoted (by decide) hmodifiers)
          (more_item (entry_quoted (by decide) ⟨by decide, rfl⟩)
            (more_item (entry_quoted (by decide) hannotations)
              (more_item (entry_quoted (by decide) (text_quoted (by decide))) more_close))))), ?_⟩
  · simp [Element.parts, noteElement]
    exact ⟨rfl, rfl, rfl⟩
  · simp [Element.parts]
  · unfold noteText
    simp only [String.toList_append]
    decide +kernel

theorem spelling_scatteredText :
    Spelling.document scatteredModel.spelling scatteredText.toList := by
  have hknown : Spelling.list Spelling.text ["a.B", "a.B"] "[\"a.B\",\"a.B\"]".toList :=
    ⟨_, series_item (text_quoted (by decide))
      (more_item (text_quoted (by decide)) more_close), by simp⟩
  have helements : Spelling.list Element.spelling scatteredModel.elements
      ('[' :: packageText.toList ++ ',' :: noteText.toList ++ [']']) :=
    ⟨_, series_item spelling_packageText (more_item spelling_noteText more_close), by simp⟩
  refine ⟨[' '], _, ['\n'], by decide, ⟨["a.B", "a.B"], ?_,
    [("elements", Spelling.list Element.spelling scatteredModel.elements),
      ("known_types", Spelling.list Spelling.text ["a.B", "a.B"])], ⟨?_, ?_⟩, _,
    series_item (entry_quoted (by decide) helements)
      (more_item (entry_quoted (by decide) hknown) more_close), rfl⟩, by decide, ?_⟩
  · intro name
    simp [scatteredModel, knows]
  · simp [parts]
  · simp [parts]
  · unfold scatteredText
    simp

theorem ofDocument_scatteredText :
    scatteredModel.Sound ∧ Spelling.document scatteredModel.spelling scatteredText.toList ∧
      ∃ m, ofDocument scatteredText = .ok m ∧ scatteredModel.Same m := by
  have hsound : scatteredModel.Sound := sound_iff_dangling?.2 (by decide)
  exact ⟨hsound, spelling_scatteredText, ofDocument_of_spelling hsound spelling_scatteredText⟩

end Model

end ResolverGen
