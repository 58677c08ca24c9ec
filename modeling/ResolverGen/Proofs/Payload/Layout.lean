/-
Payloads by their entries.

A `Layout` lists the entries of a payload, one for each field, and says that reading an entry puts
it in the place of the one that was there. A list of entries presents a payload if it has all its
entries, in any order, but for those that need not be written (`Layout.Presents`). Whatever entries
are left out, and in whatever order the others come, the payload is decoded from them
(`Layout.decode_of_presents`).
-/
import Mathlib.Data.List.Forall2
import Mathlib.Data.List.Nodup
import ResolverGen.Payload
import ResolverGen.Proofs.Argument.Items

namespace ResolverGen.Payload

/-- Puts an entry in the place of the one with its key. -/
def replace (e x : Argument.Entry) : Argument.Entry := if x.key = e.key then e else x

/-- A kind of payload with its entries. -/
structure Layout (α : Type) where
  fields : List (Field α)
  /-- The payload that nothing has been read for. -/
  start : α
  /-- Whether a payload can be written. -/
  valid : α → Prop
  entries : α → List Argument.Entry
  valid_start : valid start
  nodup : (fields.map (·.name)).Nodup
  plain : ∀ f ∈ fields, Argument.isPlain f.name.toList = true
  /-- Each field has an entry, and takes that of another payload instead of its own. -/
  reads : ∀ {a b}, valid a → valid b → List.Forall₂ (fun f e => f.name = e.key ∧
    ∃ c, f.read (.value (.literal e.value.literal)) a = .ok c ∧ valid c ∧
      entries c = (entries a).map (replace e)) fields (entries b)
  /-- The entries say all that there is to a payload. -/
  ext : ∀ {a b}, valid a → valid b → entries a = entries b → a = b

/-- Entries that say what a payload is: some of its entries, each once, and all of them but those
that are as at the start and not required. -/
structure Layout.Presents {α : Type} (L : Layout α) (p : α) (es : List Argument.Entry) : Prop where
  nodup : es.Nodup
  sound : ∀ e ∈ es, e ∈ L.entries p
  complete : ∀ e ∈ L.entries p, e ∉ es →
    e ∈ L.entries L.start ∧ ∀ f ∈ L.fields, f.name = e.key → f.required = false

theorem exists_of_mem_left {α β : Type} {r : α → β → Prop} {l : List α} {l' : List β}
    (h : List.Forall₂ r l l') {x : α} (hx : x ∈ l) : ∃ y ∈ l', r x y := by
  induction h with
  | nil => cases hx
  | cons hr _ ih =>
    rcases List.mem_cons.1 hx with rfl | hx
    · exact ⟨_, List.mem_cons_self, hr⟩
    · obtain ⟨y, hy, hr⟩ := ih hx
      exact ⟨y, List.mem_cons_of_mem _ hy, hr⟩

namespace Layout

variable {α : Type} {L : Layout α} {a b p : α} {e : Argument.Entry} {es : List Argument.Entry}

/-- The entries of a payload go by the names of the fields. -/
theorem map_key_entries (hb : L.valid b) :
    (L.entries b).map (·.key) = L.fields.map (·.name) := by
  have hnames : List.Forall₂ (· = ·) (L.fields.map (·.name)) ((L.entries b).map (·.key)) :=
    List.forall₂_map_left_iff.2 (List.forall₂_map_right_iff.2
      ((L.reads hb hb).imp fun f e h => h.1))
  rw [List.forall₂_eq_eq_eq] at hnames
  exact hnames.symm

theorem nodup_key_entries (hb : L.valid b) : ((L.entries b).map (·.key)).Nodup := by
  rw [map_key_entries hb]
  exact L.nodup

theorem key_mem_fields (hb : L.valid b) (he : e ∈ L.entries b) :
    e.key ∈ L.fields.map (·.name) := by
  rw [← map_key_entries hb]
  exact List.mem_map_of_mem he

/-- Every payload has an entry for each field. -/
theorem exists_entry (hb : L.valid b) {name : String} (h : name ∈ L.fields.map (·.name)) :
    ∃ y ∈ L.entries b, y.key = name := by
  rw [← map_key_entries hb] at h
  exact List.mem_map.1 h

/-- Entries of one payload with one key are the same. -/
theorem eq_of_key_eq (hb : L.valid b) {x y : Argument.Entry} (hx : x ∈ L.entries b)
    (hy : y ∈ L.entries b) (h : x.key = y.key) : x = y :=
  List.inj_on_of_nodup_map (nodup_key_entries hb) hx hy h

/-- The field that an entry is read by. -/
theorem exists_field (ha : L.valid a) (hb : L.valid b) (he : e ∈ L.entries b) :
    ∃ f, L.fields.find? (·.name = e.key) = some f ∧
      ∃ c, f.read (.value (.literal e.value.literal)) a = .ok c ∧ L.valid c ∧
        L.entries c = (L.entries a).map (replace e) := by
  obtain ⟨g, hg, hgname⟩ := List.mem_map.1 (key_mem_fields hb he)
  have hfound : (L.fields.find? (·.name = e.key)).isSome := by
    rw [List.find?_isSome]
    exact ⟨g, hg, decide_eq_true hgname⟩
  obtain ⟨f, hf⟩ := Option.isSome_iff_exists.1 hfound
  -- the entry that stands beside the field is the one with its name
  obtain ⟨x, hx, hfname, hread⟩ := exists_of_mem_left (L.reads ha hb) (List.mem_of_find?_eq_some hf)
  have hnamed : f.name = e.key := by simpa using List.find?_some hf
  have hkey : x.key = e.key := hfname.symm.trans hnamed
  rw [eq_of_key_eq hb hx he hkey] at hread
  exact ⟨f, hf, hread⟩

/-! ### Decoding -/

/-- A payload in the making: some entries have been taken, and the others are as at the start. -/
structure Takes (L : Layout α) (p : α) (taken : List Argument.Entry) (d : Draft α) : Prop where
  given : ∀ key, key ∈ d.given ↔ ∃ e ∈ taken, e.key = key
  faults : d.faults = []
  valid : L.valid d.value
  entries : ∀ x ∈ L.entries d.value,
    if x.key ∈ d.given then x ∈ L.entries p else x ∈ L.entries L.start

theorem takes_start (L : Layout α) (p : α) : L.Takes p [] ⟨[], [], L.start⟩ where
  given := by simp
  faults := rfl
  valid := L.valid_start
  entries := fun x hx => by simpa using hx

/-- An entry whose key is new takes the place of the one from the start. -/
theorem Takes.step {taken : List Argument.Entry} {d : Draft α} (h : L.Takes p taken d)
    (hp : L.valid p) (he : e ∈ L.entries p) (hnew : ∀ x ∈ taken, x.key ≠ e.key) :
    L.Takes p (taken ++ [e]) (d.take L.fields e.item) := by
  obtain ⟨f, hf, c, hread, hc, hentries⟩ := exists_field h.valid hp he
  have hnotgiven : e.key ∉ d.given := by
    intro hgiven
    obtain ⟨x, hx, hkey⟩ := (h.given e.key).1 hgiven
    exact hnew x hx hkey
  have htake : d.take L.fields e.item = { d with given := e.key :: d.given, value := c } := by
    have hcontains : d.given.contains e.key = false := by simpa using hnotgiven
    simp only [Argument.Entry.item, Draft.take, hf, hcontains, hread]
    rfl
  rw [htake]
  refine ⟨fun key => ?_, h.faults, hc, fun x hx => ?_⟩
  · rw [List.mem_cons, h.given]
    simp [or_and_right, exists_or, or_comm, eq_comm]
  · dsimp only at hx
    rw [hentries] at hx
    obtain ⟨y, hy, rfl⟩ := List.mem_map.1 hx
    have hy' := h.entries y hy
    -- the entry that is replaced is now the payload's, and every other one is as it was
    by_cases hkey : y.key = e.key
    · rw [replace, if_pos hkey, if_pos List.mem_cons_self]
      exact he
    · rw [replace, if_neg hkey]
      simpa [hkey] using hy'

/-- Entries with keys of their own are taken one after the other. -/
theorem Takes.run {taken : List Argument.Entry} {d : Draft α} (h : L.Takes p taken d)
    (hp : L.valid p) (hes : ∀ e ∈ es, e ∈ L.entries p)
    (hkeys : ((taken ++ es).map (·.key)).Nodup) :
    L.Takes p (taken ++ es) ((es.map Argument.Entry.item).foldl (Draft.take L.fields) d) := by
  induction es generalizing taken d with
  | nil => simpa using h
  | cons e es ih =>
    rw [List.forall_mem_cons] at hes
    have hnew : ∀ x ∈ taken, x.key ≠ e.key := by
      intro x hx hkey
      rw [List.map_append, List.map_cons] at hkeys
      exact List.disjoint_of_nodup_append hkeys (List.mem_map_of_mem hx)
        (hkey ▸ List.mem_cons_self)
    have hassoc : taken ++ e :: es = (taken ++ [e]) ++ es := by simp
    rw [hassoc] at hkeys ⊢
    exact ih (h.step hp hes.1 hnew) hes.2 hkeys

/-- A payload that has only entries of another one is that payload. -/
theorem eq_of_entries (ha : L.valid a) (hb : L.valid b)
    (h : ∀ x ∈ L.entries a, x ∈ L.entries b) : a = b := by
  have hkeys : (L.entries a).map (·.key) = (L.entries b).map (·.key) := by
    rw [map_key_entries ha, map_key_entries hb]
  have hlength : (L.entries a).length = (L.entries b).length := by
    simpa using congrArg List.length hkeys
  refine L.ext ha hb (List.ext_getElem hlength fun i hi hi' => ?_)
  refine eq_of_key_eq hb (h _ (List.getElem_mem hi)) (List.getElem_mem hi') ?_
  have hkey := congrArg (fun keys => keys[i]?) hkeys
  simpa [hi, hi'] using hkey

/-- **A payload is decoded from any entries that present it**, in any order. -/
theorem decode_of_presents (hp : L.valid p) (h : L.Presents p es) :
    decode L.fields L.start (es.map Argument.Entry.item) = .ok p := by
  have hkeys : (es.map (·.key)).Nodup :=
    h.nodup.map_on fun x hx y hy => eq_of_key_eq hp (h.sound x hx) (h.sound y hy)
  have htakes := (L.takes_start p).run hp h.sound (by simpa using hkeys)
  rw [List.nil_append] at htakes
  unfold decode
  dsimp only
  generalize (es.map Argument.Entry.item).foldl (Draft.take L.fields) ⟨[], [], L.start⟩ = d
    at htakes ⊢
  have hmissing : missing L.fields d.given = [] := by
    rw [missing, List.map_eq_nil_iff, List.filter_eq_nil_iff]
    intro f hf hmiss
    rw [Bool.and_eq_true, Bool.not_eq_true', List.contains_eq_mem, decide_eq_false_iff_not] at hmiss
    obtain ⟨y, hy, hkey⟩ := exists_entry hp (List.mem_map_of_mem hf)
    -- a required entry is among those that are written
    by_cases hwritten : y ∈ es
    · exact hmiss.2 ((htakes.given f.name).2 ⟨y, hwritten, hkey⟩)
    · rw [(h.complete y hy hwritten).2 f hf hkey.symm] at hmiss
      exact Bool.false_ne_true hmiss.1
  have hvalue : d.value = p := by
    refine eq_of_entries htakes.valid hp fun x hx => ?_
    have hx' := htakes.entries x hx
    split at hx'
    · exact hx'
    · next hgiven =>
      -- an entry that is left out is as at the start
      obtain ⟨y, hy, hkey⟩ := exists_entry hp (key_mem_fields htakes.valid hx)
      have hleft : y ∉ es := fun hy => hgiven ((htakes.given x.key).2 ⟨y, hy, hkey⟩)
      rw [← eq_of_key_eq L.valid_start (h.complete y hy hleft).1 hx' hkey]
      exact hy
  rw [htakes.faults, hmissing, hvalue]
  rfl

end Layout

end ResolverGen.Payload
