/-
Payloads survive their text.

An annotation is written as its name and its entries between parentheses. Whatever entries present a
payload, in whatever order, and with a comma behind the last one or not, the text is read as an
annotation from which each backend reads that payload (`payloads_of_text`). Texts can have any
characters; only the numbers that are no versions and the targets that are empty are left out.
-/
import ResolverGen.Proofs.Argument.Annotation
import ResolverGen.Proofs.Payload.Layout

namespace ResolverGen

namespace Payload

/-! ### The payloads of the backends -/

/-- The column annotations that a backend can read: a version takes 64 bits, and there is only one
where columns have none. -/
def WritableColumn (b : Backend) (p : ColumnSpec) : Prop :=
  match b with
  | .sqlite => 0 ≤ p.version ∧ p.version < signedBound
  | .contentResolver => p.version = 1

/-- The entries of a column annotation. -/
def columnEntries (b : Backend) (p : ColumnSpec) : List Argument.Entry :=
  [⟨"name", .text p.name⟩, ⟨"key", .flag p.key⟩, ⟨"ignoreNull", .flag p.ignoreNull⟩] ++
    match b with
    | .sqlite => [⟨"version", .number p.version.toNat⟩]
    | .contentResolver => []

/-- Column annotations by their entries. -/
def columnLayout (b : Backend) : Layout ColumnSpec where
  fields := b.columnFields
  start := ⟨"", false, false, 1⟩
  valid := WritableColumn b
  entries := columnEntries b
  valid_start := by
    cases b with
    | sqlite => exact ⟨by decide, by decide⟩
    | contentResolver => rfl
  nodup := by cases b <;> decide
  plain := by cases b <;> decide
  reads := by
    intro p q hp hq
    cases b with
    | sqlite =>
      -- the other fields take any entry, but the version has to fit
      have hfits : fits q.version.toNat = true := by
        have hversion := hq.2
        rw [fits, Bool.and_eq_true, decide_eq_true_eq, decide_eq_true_eq]
        unfold signedBound at hversion ⊢
        omega
      have hread : number (.value (.literal (.integer q.version.toNat))) =
          .ok (q.version.toNat : Int) := by
        simp only [number, hfits, if_true]
      have hversion : 0 ≤ (q.version.toNat : Int) ∧ (q.version.toNat : Int) < signedBound :=
        ⟨Int.natCast_nonneg _, by rw [Int.toNat_of_nonneg hq.1]; exact hq.2⟩
      refine .cons ⟨rfl, _, rfl, hp, rfl⟩ (.cons ⟨rfl, _, rfl, hp, rfl⟩
        (.cons ⟨rfl, _, rfl, hp, rfl⟩
          (.cons ⟨rfl, { p with version := q.version.toNat }, ?_, ?_, rfl⟩ .nil)))
      · simp only [versionField, Argument.Value.literal, hread]
        rfl
      · exact hversion
    | contentResolver =>
      exact .cons ⟨rfl, _, rfl, hp, rfl⟩ (.cons ⟨rfl, _, rfl, hp, rfl⟩
        (.cons ⟨rfl, _, rfl, hp, rfl⟩ .nil))
  ext := by
    intro p q hp hq h
    obtain ⟨name, key, ignoreNull, version⟩ := p
    obtain ⟨name', key', ignoreNull', version'⟩ := q
    cases b with
    | sqlite =>
      have hversion : version.toNat = version'.toNat → version = version' := by
        have hp := hp.1
        have hq := hq.1
        dsimp only at hp hq
        omega
      simp [columnEntries] at h
      obtain ⟨rfl, rfl, rfl, h⟩ := h
      rw [hversion h]
    | contentResolver =>
      obtain rfl : version = 1 := hp
      obtain rfl : version' = 1 := hq
      simp [columnEntries] at h
      obtain ⟨rfl, rfl, rfl⟩ := h
      rfl

/-- The entries of a type annotation for a table. -/
def tableEntries (p : TableArguments) : List Argument.Entry :=
  [⟨"table", .text p.table⟩, ⟨"generateTableClass", .flag p.tableClass⟩]

/-- Type annotations for tables by their entries. -/
def tableLayout : Layout TableArguments where
  fields := tableFields
  start := ⟨"", false⟩
  valid := fun _ => True
  entries := tableEntries
  valid_start := trivial
  nodup := by decide
  plain := by decide
  reads := by
    intro p q hp hq
    exact .cons ⟨rfl, _, rfl, hp, rfl⟩ (.cons ⟨rfl, _, rfl, hp, rfl⟩ .nil)
  ext := by
    intro p q hp hq h
    obtain ⟨table, tableClass⟩ := p
    obtain ⟨table', tableClass'⟩ := q
    simpa [tableEntries] using h

/-- The entries of a type annotation for URIs. -/
def uriEntries (u : Uris) : List Argument.Entry :=
  [⟨"uri", .text u.common⟩, ⟨"insertUri", .text u.insert⟩, ⟨"updateUri", .text u.update⟩,
   ⟨"deleteUri", .text u.delete⟩]

/-- Type annotations for URIs by their entries. -/
def uriLayout : Layout Uris where
  fields := uriFields
  start := ⟨"", "", "", ""⟩
  valid := fun _ => True
  entries := uriEntries
  valid_start := trivial
  nodup := by decide
  plain := by decide
  reads := by
    intro u v hu hv
    exact .cons ⟨rfl, _, rfl, hu, rfl⟩ (.cons ⟨rfl, _, rfl, hu, rfl⟩
      (.cons ⟨rfl, _, rfl, hu, rfl⟩ (.cons ⟨rfl, _, rfl, hu, rfl⟩ .nil)))
  ext := by
    intro u v hu hv h
    obtain ⟨common, insert, update, delete⟩ := u
    obtain ⟨common', insert', update', delete'⟩ := v
    simpa [uriEntries] using h

end Payload

/-! ### Payloads of elements -/

theorem Model.element_annotate {m : Model} {id : ElementId} (hid : id < m.size) (a : Annotation) :
    (m.annotate id a).element id =
      { m.element id with annotations := (m.element id).annotations ++ [a] } := by
  have hid : id < m.elements.length := hid
  simp [element, annotate, update, hid]

/-- An annotation that is put on an element without one of its kind is found there. -/
theorem Element.annotation?_append {e : Element} {mark : String} {a : Annotation}
    (hfresh : e.isAnnotated mark = false) (hname : a.name = mark) :
    { e with annotations := e.annotations ++ [a] }.annotation? mark = some a := by
  have hnone : e.annotations.find? (·.denotes mark) = none := by
    simpa [isAnnotated, annotation?] using hfresh
  rw [annotation?, List.find?_append, hnone, Option.none_or, List.find?_cons,
    a.denotes_of_name_eq hname]

namespace Payload

variable {α : Type} {L : Layout α} {p : α} {es : List Argument.Entry}

theorem Layout.Presents.hasPlainKey (h : L.Presents p es) (hp : L.valid p) :
    ∀ e ∈ es, e.HasPlainKey := by
  intro e he
  obtain ⟨f, hf, hkey⟩ := List.mem_map.1 (Layout.key_mem_fields hp (h.sound e he))
  rw [Argument.Entry.HasPlainKey, ← hkey]
  exact L.plain f hf

/-- Arguments that present a payload are decoded to it. -/
theorem ofArguments_writeAll (hp : L.valid p) (comma : Bool) (h : L.Presents p es) :
    ofArguments L.fields L.start
      (((some (Argument.writeAll comma es)).filter (· ≠ [])).map String.ofList) = .ok p := by
  have hitems : (((some (Argument.writeAll comma es)).filter (· ≠ [])).map String.ofList).elim
      (.ok []) Argument.Item.ofText = .ok (es.map Argument.Entry.item) := by
    cases es with
    | nil => rfl
    | cons e es =>
      have hne : Argument.writeAll comma (e :: es) ≠ [] :=
        List.append_ne_nil_of_left_ne_nil e.write_ne_nil _
      rw [Option.filter_some, if_pos (decide_eq_true hne), Option.map_some, Option.elim_some,
        Argument.ofText_writeAll comma (h.hasPlainKey hp)]
  rw [ofArguments, hitems]
  dsimp only
  rw [Layout.decode_of_presents hp h]
  rfl

/-- **An annotation that presents a payload survives its text**: it is read, and where it is put on
an element without one of its kind the payload is read from the element. -/
theorem ofElement_write {m : Model} {id : ElementId} {mark : Code.ClassName} (hid : id < m.size)
    (hmark : Annotation.isName mark.qualified.toList = true)
    (hfresh : (m.element id).isAnnotated mark.qualified = false) (hp : L.valid p) (comma : Bool)
    (h : L.Presents p es) :
    ∃ a, Annotation.read (Argument.annotationText mark.qualified comma es) = .ok a ∧
      ofElement L.fields L.start (m.annotate id a) id mark = .ok p := by
  refine ⟨_, Annotation.read_annotationText hmark comma (h.hasPlainKey hp), ?_⟩
  rw [ofElement, Model.element_annotate hid]
  dsimp only
  rw [Element.annotation?_append hfresh rfl]
  dsimp only
  rw [ofArguments_writeAll hp comma h]
  rfl

theorem isName_marks (b : Backend) :
    Annotation.isName b.vocabulary.column.qualified.toList = true ∧
      Annotation.isName b.vocabulary.type.qualified.toList = true := by
  cases b <;> decide +kernel

end Payload

namespace Backend

open Payload

variable {m : Model} {id : ElementId}

/-- A table that has a name is where objects are stored. -/
theorem config_of_table {p : TableArguments}
    (h : ofElement tableFields ⟨"", false⟩ m id sqlite.vocabulary.type = .ok p)
    (htable : p.table ≠ "") : sqlite.config m id = .ok (.sqlite p.table p.tableClass) := by
  simp only [config, h]
  change (if p.table = "" then _ else _) = _
  rw [if_neg htable]
  rfl

/-- URIs of which every operation has one are where objects are stored. -/
theorem config_of_uris {uris : Uris}
    (h : ofElement uriFields ⟨"", "", "", ""⟩ m id contentResolver.vocabulary.type = .ok uris)
    (huris : ∀ op, preferSpecific uris.common (uris.specific op) ≠ "") :
    contentResolver.config m id = .ok (.contentResolver uris) := by
  have hmissing : uris.missing = [] := by
    rw [Uris.missing]
    split
    · next hcommon =>
      rw [List.filter_eq_nil_iff]
      intro op _ hown
      refine huris op ?_
      rw [preferSpecific, if_pos (of_decide_eq_true hown), hcommon]
    · rfl
  simp only [config, h, bind, Except.bind, hmissing]
  rfl

end Backend

open Payload in
/-- **Payloads survive their text.** A column annotation, or a type annotation of which nothing is
left open, may be written with the entries that present it in any order, without those that are as
they are anyway, and with a comma at the end or not. The text is read as an annotation; where that
is put on an element without one of its kind, the backend reads from the element what was
written. -/
theorem payloads_of_text (m : Model) (id : ElementId) (hid : id < m.size) (comma : Bool)
    (es : List Argument.Entry) :
    (∀ (b : Backend) (p : ColumnSpec),
      (m.element id).isAnnotated b.vocabulary.column.qualified = false →
      WritableColumn b p → (columnLayout b).Presents p es →
      ∃ a, Annotation.read
          (Argument.annotationText b.vocabulary.column.qualified comma es) = .ok a ∧
        b.columnSpec (m.annotate id a) id = .ok p) ∧
    (∀ p : TableArguments,
      (m.element id).isAnnotated Backend.sqlite.vocabulary.type.qualified = false →
      p.table ≠ "" → tableLayout.Presents p es →
      ∃ a, Annotation.read
          (Argument.annotationText Backend.sqlite.vocabulary.type.qualified comma es) = .ok a ∧
        Backend.sqlite.config (m.annotate id a) id = .ok (.sqlite p.table p.tableClass)) ∧
    (∀ uris : Uris,
      (m.element id).isAnnotated Backend.contentResolver.vocabulary.type.qualified = false →
      (∀ op, preferSpecific uris.common (uris.specific op) ≠ "") → uriLayout.Presents uris es →
      ∃ a, Annotation.read
          (Argument.annotationText Backend.contentResolver.vocabulary.type.qualified comma es) =
            .ok a ∧
        Backend.contentResolver.config (m.annotate id a) id = .ok (.contentResolver uris)) := by
  refine ⟨fun b p hfresh hp h => ?_, fun p hfresh htable h => ?_, fun uris hfresh huris h => ?_⟩
  · obtain ⟨a, hread, hpayload⟩ := ofElement_write hid (isName_marks b).1 hfresh hp comma h
    exact ⟨a, hread, hpayload⟩
  · obtain ⟨a, hread, hpayload⟩ :=
      ofElement_write hid (isName_marks .sqlite).2 hfresh trivial comma h
    exact ⟨a, hread, Backend.config_of_table hpayload htable⟩
  · obtain ⟨a, hread, hpayload⟩ :=
      ofElement_write hid (isName_marks .contentResolver).2 hfresh trivial comma h
    exact ⟨a, hread, Backend.config_of_uris hpayload huris⟩

/-- Names and addresses of any characters, the greatest version, entries out of order and left out,
and a comma at the end. -/
theorem payloads_of_text_any_characters :
    let m : Model := ⟨[], [Element.ofKind .field "x"]⟩
    (∃ a, Annotation.read (Argument.annotationText Backend.sqlite.vocabulary.column.qualified true
        [⟨"version", .number 9223372036854775807⟩, ⟨"key", .flag true⟩,
         ⟨"name", .text "a\"b\\ (é, @x)\n"⟩]) = .ok a ∧
      Backend.sqlite.columnSpec (m.annotate 0 a) 0 =
        .ok ⟨"a\"b\\ (é, @x)\n", true, false, 9223372036854775807⟩) ∧
    (∃ a, Annotation.read (Argument.annotationText
        Backend.contentResolver.vocabulary.column.qualified false
        [⟨"ignoreNull", .flag true⟩, ⟨"name", .text " ),"⟩, ⟨"key", .flag false⟩]) = .ok a ∧
      Backend.contentResolver.columnSpec (m.annotate 0 a) 0 = .ok ⟨" ),", false, true, 1⟩) ∧
    (∃ a, Annotation.read (Argument.annotationText Backend.sqlite.vocabulary.type.qualified true
        [⟨"generateTableClass", .flag true⟩, ⟨"table", .text "//\""⟩]) = .ok a ∧
      Backend.sqlite.config (m.annotate 0 a) 0 = .ok (.sqlite "//\"" true)) ∧
    (∃ a, Annotation.read (Argument.annotationText Backend.contentResolver.vocabulary.type.qualified
        false [⟨"deleteUri", .text "content://d"⟩, ⟨"uri", .text "\t"⟩]) = .ok a ∧
      Backend.contentResolver.config (m.annotate 0 a) 0 =
        .ok (.contentResolver ⟨"\t", "", "", "content://d"⟩)) := by
  have hid : 0 < (⟨[], [Element.ofKind .field "x"]⟩ : Model).size := by decide
  refine ⟨?_, ?_, ?_, ?_⟩
  · exact (payloads_of_text _ 0 hid _ _).1 .sqlite ⟨_, true, false, 9223372036854775807⟩ rfl
      ⟨by decide, by decide⟩ ⟨by decide, by decide, by decide⟩
  · exact (payloads_of_text _ 0 hid _ _).1 .contentResolver ⟨_, false, true, 1⟩ rfl rfl
      ⟨by decide, by decide, by decide⟩
  · exact (payloads_of_text _ 0 hid _ _).2.1 ⟨_, true⟩ rfl (by decide)
      ⟨by decide, by decide, by decide⟩
  · exact (payloads_of_text _ 0 hid _ _).2.2 ⟨_, "", "", _⟩ rfl
      (fun op => by cases op <;> decide) ⟨by decide, by decide, by decide⟩

end ResolverGen
