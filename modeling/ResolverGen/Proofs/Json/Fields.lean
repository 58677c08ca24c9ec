/-
Records are read from their entries.

While the entries of an object are read, those to come show the parts of which none has been given
yet (`Part.Left`); an entry of a part gives that part and one of another key changes nothing
(`Left.step`). So if the reader of every field puts what is shown of its part into the record
(`Record.Follows`), the whole record is read as it is written, whatever the order of its entries
(`Record.Follows.reads`).
-/
import Mathlib.Data.List.Forall2
import ResolverGen.Json.Record
import ResolverGen.Proofs.Json.Reading

namespace ResolverGen.Json

variable {α : Type} {a target : α} {parts : List (Part α)} {given : List String}
  {e : String × Spelling} {entries : List (String × Spelling)} {b cs rest : List Char}

/-! ### What is left to read -/

/-- Whether the entries to come show the parts of a record that have not been given. -/
structure Part.Left (parts : List (Part α)) (a : α) (given : List String)
    (entries : List (String × Spelling)) : Prop where
  once : ∀ p ∈ parts, p.key ∈ given → entries.filter (·.1 = p.key) = []
  known : ∀ p ∈ parts, p.key ∉ given → entries.filter (·.1 = p.key) = [(p.key, p.shown a)] ∨
    entries.filter (·.1 = p.key) = [] ∧ p.omissible a
  unknown : ∀ entry ∈ entries, (∃ p ∈ parts, p.key = entry.1) ∨ ∃ s, entry.2 = Spelling.text s

theorem Part.Shown.left (h : Part.Shown parts a entries) : Part.Left parts a [] entries :=
  ⟨fun _ _ hp => absurd hp List.not_mem_nil, fun p hp _ => h.known p hp, h.unknown⟩

/-- An entry is none of another key. -/
theorem filter_entry_of_ne {key : String} (h : key ≠ e.1) :
    (e :: entries).filter (·.1 = key) = entries.filter (·.1 = key) :=
  List.filter_cons_of_neg (by simpa using Ne.symm h)

namespace Part.Left

/-- An entry of a part shows that part, which has not been given before, and gives it. -/
theorem step {p : Part α} (h : Part.Left parts a given (e :: entries)) (hp : p ∈ parts)
    (hkey : p.key = e.1) :
    e.2 = p.shown a ∧ e.1 ∉ given ∧ Part.Left parts a (e.1 :: given) entries := by
  have hfilter (q : Part α) (hq : q.key = e.1) :
      (e :: entries).filter (·.1 = q.key) = e :: entries.filter (·.1 = q.key) :=
    List.filter_cons_of_pos (decide_eq_true hq.symm)
  -- of all the entries of the key this is the only one
  have hgiven (q : Part α) (hq : q ∈ parts) (hqkey : q.key = e.1) : q.key ∉ given := by
    intro hmem
    have hnone := h.once q hq hmem
    rw [hfilter q hqkey] at hnone
    cases hnone
  have hshown (q : Part α) (hq : q ∈ parts) (hqkey : q.key = e.1) :
      e.2 = q.shown a ∧ entries.filter (·.1 = q.key) = [] := by
    rcases h.known q hq (hgiven q hq hqkey) with hone | ⟨hnone, -⟩
    · rw [hfilter q hqkey, List.cons_eq_cons] at hone
      exact ⟨congrArg Prod.snd hone.1, hone.2⟩
    · rw [hfilter q hqkey] at hnone
      cases hnone
  refine ⟨(hshown p hp hkey).1, hkey ▸ hgiven p hp hkey, fun q hq hmem => ?_, fun q hq hmem => ?_,
    fun entry hentry => h.unknown entry (List.mem_cons_of_mem e hentry)⟩
  · by_cases hqkey : q.key = e.1
    · exact (hshown q hq hqkey).2
    · rw [← filter_entry_of_ne hqkey]
      exact h.once q hq ((List.mem_cons.1 hmem).resolve_left hqkey)
  · rw [List.mem_cons, not_or] at hmem
    rw [← filter_entry_of_ne hmem.1]
    exact h.known q hq hmem.2

/-- An entry of no part is a text, and gives nothing. -/
theorem skip (h : Part.Left parts a given (e :: entries)) (hkey : ∀ p ∈ parts, p.key ≠ e.1) :
    (∃ s, e.2 = Spelling.text s) ∧ Part.Left parts a given entries := by
  refine ⟨?_, fun q hq hmem => ?_, fun q hq hmem => ?_,
    fun entry hentry => h.unknown entry (List.mem_cons_of_mem e hentry)⟩
  · rcases h.unknown e List.mem_cons_self with ⟨p, hp, hpkey⟩ | htext
    · exact absurd hpkey (hkey p hp)
    · exact htext
  · rw [← filter_entry_of_ne (hkey q hq)]
    exact h.once q hq hmem
  · rw [← filter_entry_of_ne (hkey q hq)]
    exact h.known q hq hmem

/-- Behind the last entry every part has been given or left out. -/
theorem done (h : Part.Left parts a given []) : ∀ p ∈ parts, p.key ∈ given ∨ p.omissible a := by
  intro p hp
  by_cases hmem : p.key ∈ given
  · exact .inl hmem
  · rcases h.known p hp hmem with hone | ⟨-, homissible⟩
    · cases hone
    · exact .inr homissible

end Part.Left

/-! ### Reading the entries -/

theorem Reader.hasKey_close {first : Bool} (hb : Blanks b) (rest : List Char) :
    hasKey first (b ++ '\x7d' :: rest) = .ok (false, '\x7d' :: rest) := by
  rw [hasKey, bind_of_ok (peekSome_append hb (by decide) _), if_pos rfl]
  rfl

theorem Reader.hasKey_first (hb : Blanks b) (rest : List Char) :
    hasKey true (b ++ '"' :: rest) = .ok (true, '"' :: rest) := by
  rw [hasKey, bind_of_ok (peekSome_append hb (by decide) _), if_neg (by decide), if_pos rfl,
    if_pos rfl]
  rfl

theorem Reader.hasKey_next {b' : List Char} (hb : Blanks b) (hb' : Blanks b') (rest : List Char) :
    hasKey false (b ++ ',' :: (b' ++ '"' :: rest)) = .ok (true, '"' :: rest) := by
  rw [hasKey, bind_of_ok (peekSome_append hb (by decide) _), if_neg (by decide),
    if_neg (by decide), if_pos rfl, bind_of_ok (drop_cons _ _),
    bind_of_ok (peekSome_append hb' (by decide) _), if_pos rfl]
  rfl

theorem exists_entry_eq_cons (hcs : Spelling.entry e cs) : ∃ cs', cs = '"' :: cs' := by
  obtain ⟨key, b, b', value, ⟨body, -, rfl⟩, -, -, -, rfl⟩ := hcs
  exact ⟨_, rfl⟩

namespace Record

variable {r : Record α} {build : List String → α}

theorem checkGiven_ok {fields : List (Field α)}
    (h : ∀ f ∈ fields, f.required = true → f.name ∈ given) (cs : List Char) :
    checkGiven given fields cs = .ok ((), cs) := by
  induction fields with
  | nil => rfl
  | cons f fields ih =>
    rw [List.forall_mem_cons] at h
    have hgiven : (f.required && !given.contains f.name) = false := by
      cases hrequired : f.required with
      | false => rfl
      | true => simpa using h.1 hrequired
    rw [checkGiven, hgiven]
    exact ih h.2

/-- Whether the fields of a record are read from its parts: `build given` is the record in which the
parts of some keys have been given, and `target` the one that has them all. -/
structure Follows (r : Record α) (parts : List (Part α)) (a : α) (build : List String → α)
    (target : α) : Prop where
  fields : List.Forall₂ (fun f p => f.name = p.key ∧ (f.required = true → ¬p.omissible a) ∧
    ∀ given, Reads (f.read (build given)) (p.shown a) (build (p.key :: given))) r.fields parts
  start : build [] = r.start
  whole : ∀ given, (∀ p ∈ parts, p.key ∈ given ∨ p.omissible a) → build given = target

/-- What a part is in a record, if it has been given or left out as what the record has anyway. -/
theorem ite_given {β : Type} {key : String} {value start : β} (h : key ∈ given ∨ value = start) :
    (if key ∈ given then value else start) = value := by
  by_cases hkey : key ∈ given
  · rw [if_pos hkey]
  · rw [if_neg hkey, h.resolve_left hkey]

namespace Follows

variable (h : r.Follows parts a build target)

include h

theorem part {f : Field α} (hf : f ∈ r.fields) :
    ∃ p ∈ parts, f.name = p.key ∧ (f.required = true → ¬p.omissible a) ∧
      ∀ given, Reads (f.read (build given)) (p.shown a) (build (p.key :: given)) := by
  obtain ⟨i, hi, rfl⟩ := List.getElem_of_mem hf
  have hi' : i < parts.length := h.fields.length_eq ▸ hi
  exact ⟨parts[i], List.getElem_mem hi', h.fields.get hi hi'⟩

/-- The field of a key is that of a part of that key. -/
theorem field {key : String} {f : Field α} (hf : r.fields.find? (·.name = key) = some f) :
    ∃ p ∈ parts, p.key = key ∧
      ∀ given, Reads (f.read (build given)) (p.shown a) (build (key :: given)) := by
  obtain ⟨p, hp, hkey, -, hreads⟩ := h.part (List.mem_of_find?_eq_some hf)
  have hname : f.name = key := by simpa using List.find?_some hf
  rw [hname] at hkey
  subst hkey
  exact ⟨p, hp, rfl, hreads⟩

/-- A key without a field is that of no part. -/
theorem no_field {key : String} (hf : r.fields.find? (·.name = key) = none) :
    ∀ p ∈ parts, p.key ≠ key := by
  rintro p hp rfl
  obtain ⟨i, hi, rfl⟩ := List.getElem_of_mem hp
  have hi' : i < r.fields.length := h.fields.length_eq ▸ hi
  rw [List.find?_eq_none] at hf
  exact hf r.fields[i] (List.getElem_mem hi') (by simpa using (h.fields.get hi' hi).1)

/-- An entry gives its part, or nothing. -/
theorem entry (hleft : Part.Left parts a given (e :: entries)) (hcs : Spelling.entry e cs)
    (hrest : EndsValue rest) :
    ∃ given', Part.Left parts a given' entries ∧
      r.entry given (build given) (cs ++ rest) = .ok ((given', build given'), rest) := by
  obtain ⟨key, b, b', value, ⟨body, hbody, rfl⟩, hb, hb', hvalue, rfl⟩ := hcs
  have htext : '"' :: body ++ ['"'] ++ (b ++ ':' :: (b' ++ value)) ++ rest =
      '"' :: (body ++ '"' :: (b ++ ':' :: (b' ++ (value ++ rest)))) := by simp
  have hmark := Reader.mark_append hb (by decide : isBlank ':' = false) (b' ++ (value ++ rest))
  rw [htext, Record.entry, Reader.bind_of_ok (Reader.drop_cons _ _),
    Reader.bind_of_ok (Reader.textTail_chars hbody _)]
  cases hf : r.fields.find? (·.name = e.1) with
  | none =>
    -- nobody asks for the key
    obtain ⟨⟨s, hs⟩, hskip⟩ := hleft.skip (h.no_field hf)
    rw [hs] at hvalue
    refine ⟨given, hskip, ?_⟩
    dsimp only
    rw [Reader.bind_of_ok hmark,
      Reader.bind_of_ok ((reads_skip s).reads b' value rest hb' hvalue hrest)]
    rfl
  | some f =>
    obtain ⟨p, hp, hkey, hreads⟩ := h.field hf
    obtain ⟨hshown, hnew, hstep⟩ := hleft.step hp hkey
    rw [hshown] at hvalue
    refine ⟨e.1 :: given, hstep, ?_⟩
    have hcontains : given.contains e.1 = false := by simpa using hnew
    dsimp only
    rw [if_neg (by rw [hcontains]; decide)]
    show (Reader.mark ':' >>= fun _ => f.read (build given) >>= fun value =>
      pure (e.1 :: given, value)) _ = _
    rw [Reader.bind_of_ok hmark,
      Reader.bind_of_ok ((hreads given).reads b' value rest hb' hvalue hrest)]
    rfl

/-- Behind the last entry the record is whole. -/
theorem close (hleft : Part.Left parts a given []) {first : Bool} (hb : Blanks b) (fuel : Nat)
    (rest : List Char) :
    r.entries (fuel + 1) first given (build given) (b ++ '\x7d' :: rest) = .ok (target, rest) := by
  have hgiven : ∀ f ∈ r.fields, f.required = true → f.name ∈ given := by
    intro f hf hrequired
    obtain ⟨p, hp, hkey, hneeded, -⟩ := h.part hf
    rw [hkey]
    exact (hleft.done p hp).resolve_right (hneeded hrequired)
  rw [entries, Reader.bind_of_ok (Reader.hasKey_close hb rest), if_neg (by decide),
    Reader.bind_of_ok (checkGiven_ok hgiven _), h.whole given hleft.done]
  rfl

/-- The entries behind the first one, each of them behind a comma. -/
theorem more (hleft : Part.Left parts a given entries)
    (hcs : Spelling.more '\x7d' (entries.map Spelling.entry) cs) {fuel : Nat}
    (hfuel : cs.length < fuel) (rest : List Char) :
    r.entries fuel false given (build given) (cs ++ rest) = .ok (target, rest) := by
  -- what has been given grows with the entries, and the record with it
  induction entries generalizing cs fuel given with
  | nil =>
    cases hcs with
    | done hb =>
      cases fuel with
      | zero => exact absurd hfuel (Nat.not_lt_zero _)
      | succ fuel =>
        rw [List.append_assoc]
        exact h.close hleft hb fuel rest
  | cons e entries ih =>
    rw [List.map_cons] at hcs
    cases hcs with
    | @next b b' cs more _ _ hb hb' hentry hmore =>
      cases fuel with
      | zero => exact absurd hfuel (Nat.not_lt_zero _)
      | succ fuel =>
        have hlength : more.length < fuel := by
          simp only [List.length_append, List.length_cons] at hfuel
          omega
        obtain ⟨given', hleft', hread⟩ :=
          h.entry hleft hentry (endsValue_more (.inr rfl) hmore rest)
        obtain ⟨cs', hstart⟩ := exists_entry_eq_cons hentry
        have htext : b ++ ',' :: (b' ++ (cs ++ more)) ++ rest =
            b ++ ',' :: (b' ++ '"' :: (cs' ++ (more ++ rest))) := by simp [hstart]
        rw [htext, Record.entries, Reader.bind_of_ok (Reader.hasKey_next hb hb' _), if_pos rfl,
          ← List.cons_append, ← hstart, Reader.bind_of_ok hread]
        exact ih hleft' hmore hlength

/-- **A record is read as it is written.** -/
theorem reads : Reads r.read (Spelling.record parts a) target := by
  refine ⟨?_, ?_⟩
  · rintro cs ⟨entries, -, items, -, rfl⟩
    exact ⟨'\x7b', items, rfl, by decide, by decide⟩
  · rintro b cs rest hb ⟨entries, hshown, items, hitems, rfl⟩ -
    have hread : r.entries ((items ++ rest).length + 1) true [] r.start (items ++ rest) =
        .ok (target, rest) := by
      have hleft := hshown.left
      rw [← h.start]
      cases entries with
      | nil =>
        cases hitems with
        | none hb' =>
          rw [List.append_assoc]
          exact h.close hleft hb' _ rest
      | cons e entries =>
        rw [List.map_cons] at hitems
        cases hitems with
        | @first b' cs more _ _ hb' hentry hmore =>
          obtain ⟨given', hleft', hread⟩ :=
            h.entry hleft hentry (endsValue_more (.inr rfl) hmore rest)
          obtain ⟨cs', hstart⟩ := exists_entry_eq_cons hentry
          have htext : b' ++ (cs ++ more) ++ rest = b' ++ '"' :: (cs' ++ (more ++ rest)) := by
            simp [hstart]
          -- the first entry takes a character at least
          have hlength : more.length < (b' ++ '"' :: (cs' ++ (more ++ rest))).length := by
            simp only [List.length_append, List.length_cons]
            omega
          rw [htext, Record.entries, Reader.bind_of_ok (Reader.hasKey_first hb' _), if_pos rfl,
            ← List.cons_append, ← hstart, Reader.bind_of_ok hread]
          rw [hstart, List.cons_append]
          exact h.more hleft' hmore hlength rest
    rw [List.cons_append, Record.read, Reader.bind_of_ok (Reader.peekSome_append hb (by decide) _)]
    exact hread

end Follows

end Record

end ResolverGen.Json
