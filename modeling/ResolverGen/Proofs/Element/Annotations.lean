/-
Texts that are annotations.

An annotation is written `@name` or `@name(arguments)` with blanks around each part (`WrittenAs`),
and `Verdict` says without the reader what becomes of a text: which annotation it is, or which of
three conditions is the first that it breaks.

* `verdict_of_read` — reading gives the verdict on every text,
* `read_exact` — hence it gives nothing else, and an annotation that was read is read again from the
  text that it is printed as.
-/
import Mathlib.Data.List.DropRight
import Mathlib.Data.List.TakeWhile
import ResolverGen.Element.Annotation

namespace ResolverGen

/-! ### Trimming -/

namespace Unicode

/-- Whether a text has no blanks at its ends. -/
def IsTrimmed (cs : List Char) : Prop :=
  (∀ c ∈ cs.head?, isBlank c = false) ∧ ∀ c ∈ cs.getLast?, isBlank c = false

/-- Whether a text consists of blanks that trimming removes. -/
def Blanks (cs : List Char) : Prop := ∀ c ∈ cs, isBlank c = true

instance instDecidableIsTrimmed (cs : List Char) : Decidable (IsTrimmed cs) :=
  @instDecidableAnd _ _ (Option.decidableForallMem cs.head?) (Option.decidableForallMem cs.getLast?)

instance instDecidableBlanks (cs : List Char) : Decidable (Blanks cs) :=
  List.decidableBAll (fun c => isBlank c = true) cs

/-- Blanks around a text are trimmed. -/
theorem trim_append {b cs b' : List Char} (hb : Blanks b) (hcs : IsTrimmed cs)
    (hb' : Blanks b') : trim (b ++ (cs ++ b')) = cs := by
  have hfront : (b ++ (cs ++ b')).dropWhile isBlank = (cs ++ b').dropWhile isBlank :=
    List.dropWhile_append_of_pos hb
  rw [trim, hfront]
  cases cs with
  | nil =>
    have hnone : b'.dropWhile isBlank = [] := List.dropWhile_eq_nil_iff.2 hb'
    rw [List.nil_append, hnone]
    rfl
  | cons c cs =>
    have hc : isBlank c = false := hcs.1 c rfl
    have hkept : (c :: cs ++ b').dropWhile isBlank = c :: cs ++ b' := by simp [hc]
    have hback : (b'.reverse ++ (c :: cs).reverse).dropWhile isBlank =
        (c :: cs).reverse.dropWhile isBlank :=
      List.dropWhile_append_of_pos fun d hd => hb' d (List.mem_reverse.1 hd)
    rw [hkept, List.reverse_append, hback]
    -- what is left is the trimming of the text itself
    have htrim := trim_eq_self hcs.1 hcs.2
    rw [trim, List.dropWhile_cons_of_neg (by simp [hc])] at htrim
    exact htrim

theorem isTrimmed_append {c : Char} {cs ds : List Char} (hc : isBlank c = false)
    (hne : ds ≠ []) (hds : ∀ d ∈ ds.getLast?, isBlank d = false) : IsTrimmed (c :: cs ++ ds) := by
  refine ⟨fun d hd => ?_, fun d hd => ?_⟩
  · cases hd
    exact hc
  · rw [List.getLast?_append_of_ne_nil _ hne] at hd
    exact hds d hd

/-- Whether a text is `body` between blanks, where `body` has none at its ends. -/
def Trims (cs body : List Char) : Prop :=
  IsTrimmed body ∧ ∃ b b', Blanks b ∧ Blanks b' ∧ cs = b ++ (body ++ b')

theorem isTrimmed_trim (cs : List Char) : IsTrimmed (trim cs) := by
  set rest := cs.dropWhile isBlank with hrest
  have htrim : trim cs = rest.rdropWhile isBlank := rfl
  rw [htrim]
  refine ⟨fun c hc => ?_, fun c hc => ?_⟩
  · -- a text that starts with a prefix of another starts with the same character
    obtain ⟨tail, htail⟩ := List.rdropWhile_prefix isBlank rest
    have hhead : rest.head? = some c := by
      rw [← htail, List.head?_append, Option.mem_def.1 hc]
      rfl
    have hfirst := List.head?_dropWhile_not isBlank cs
    rw [← hrest, hhead] at hfirst
    exact hfirst
  · obtain ⟨hne, rfl⟩ := List.mem_getLast?_eq_getLast hc
    simpa using List.rdropWhile_last_not isBlank rest hne

/-- Trimming gives what stands between the blanks. -/
theorem trim_eq_iff {cs body : List Char} : trim cs = body ↔ Trims cs body := by
  constructor
  · rintro rfl
    set rest := cs.dropWhile isBlank with hrest
    refine ⟨isTrimmed_trim cs, cs.takeWhile isBlank, rest.rtakeWhile isBlank,
      fun c hc => List.mem_takeWhile_imp hc, fun c hc => List.mem_rtakeWhile_imp hc, ?_⟩
    calc cs = cs.takeWhile isBlank ++ rest := List.takeWhile_append_dropWhile.symm
      _ = cs.takeWhile isBlank ++ (rest.rdropWhile isBlank ++ rest.rtakeWhile isBlank) := by
        rw [List.rdropWhile_append_rtakeWhile]
  · rintro ⟨hbody, b, b', hb, hb', rfl⟩
    exact trim_append hb hbody hb'

end Unicode

open Unicode (Blanks IsTrimmed Trims)

namespace Annotation

/-! ### Names -/

/-- The name of a type: ASCII letters and digits, underscores, dollars and dots, but no dot at either
end. -/
structure IsTypeName (cs : List Char) : Prop where
  nonempty : cs ≠ []
  chars : ∀ c ∈ cs, ('a' ≤ c ∧ c ≤ 'z') ∨ ('A' ≤ c ∧ c ≤ 'Z') ∨ ('0' ≤ c ∧ c ≤ '9') ∨
    c = '_' ∨ c = '$' ∨ c = '.'
  noDotFirst : cs.head? ≠ some '.'
  noDotLast : cs.getLast? ≠ some '.'

variable {a : Annotation} {b cs body named name inner : List Char}

theorem between_iff (low high c : Char) :
    (decide (low.val ≤ c.val) && decide (c.val ≤ high.val)) = true ↔ low ≤ c ∧ c ≤ high := by
  rw [Bool.and_eq_true, decide_eq_true_eq, decide_eq_true_eq]
  exact Iff.rfl

theorem isNameChar_iff {c : Char} : isNameChar c = true ↔
    ('a' ≤ c ∧ c ≤ 'z') ∨ ('A' ≤ c ∧ c ≤ 'Z') ∨ ('0' ≤ c ∧ c ≤ '9') ∨
      c = '_' ∨ c = '$' ∨ c = '.' := by
  have hupper : c.isUpper = true ↔ 'A' ≤ c ∧ c ≤ 'Z' := decide_eq_true_iff
  have hlower : c.isLower = true ↔ 'a' ≤ c ∧ c ≤ 'z' := between_iff 'a' 'z' c
  have hdigit : c.isDigit = true ↔ '0' ≤ c ∧ c ≤ '9' := between_iff '0' '9' c
  show (c.isUpper || c.isLower || c.isDigit || c == '_' || c == '$' || c == '.') = true ↔ _
  simp only [Bool.or_eq_true, beq_iff_eq, hupper, hlower, hdigit, or_assoc]
  exact or_left_comm

theorem isName_iff : isName cs = true ↔ IsTypeName cs := by
  simp only [isName, Bool.and_eq_true, decide_eq_true_eq, List.all_eq_true, isNameChar_iff]
  constructor
  · rintro ⟨⟨⟨hne, hfirst⟩, hlast⟩, hchars⟩
    exact ⟨hne, hchars, hfirst, hlast⟩
  · rintro ⟨hne, hchars, hfirst, hlast⟩
    exact ⟨⟨⟨hne, hfirst⟩, hlast⟩, hchars⟩

theorem isBlank_of_isNameChar {c : Char} (h : isNameChar c = true) : Unicode.isBlank c = false := by
  have hchar : ∀ n, 'a'.toNat ≤ n ∧ n ≤ 'z'.toNat ∨ 'A'.toNat ≤ n ∧ n ≤ 'Z'.toNat ∨
      '0'.toNat ≤ n ∧ n ≤ '9'.toNat → Unicode.inRanges Unicode.blankRanges n = false := by
    intro n hn
    simp only [Unicode.blankRanges, Unicode.inRanges_cons, Unicode.inRanges_nil, Bool.or_false,
      Bool.or_eq_false_iff, Bool.and_eq_false_iff, decide_eq_false_iff_not]
    simp only [Char.reduceToNat] at hn
    omega
  rcases isNameChar_iff.1 h with hc | hc | hc | rfl | rfl | rfl
  · exact hchar c.toNat (.inl hc)
  · exact hchar c.toNat (.inr (.inl hc))
  · exact hchar c.toNat (.inr (.inr hc))
  all_goals decide

theorem isNameChar_of_isName (h : isName cs = true) : ∀ c ∈ cs, isNameChar c = true := by
  rw [isName, Bool.and_eq_true, List.all_eq_true] at h
  exact h.2

theorem isTrimmed_of_isName (h : isName cs = true) : IsTrimmed cs := by
  have hblank : ∀ c ∈ cs, Unicode.isBlank c = false := fun c hc =>
    isBlank_of_isNameChar (isNameChar_of_isName h c hc)
  exact ⟨fun c hc => hblank c (List.mem_of_mem_head? hc),
    fun c hc => hblank c (List.mem_of_getLast? hc)⟩

theorem not_mem_of_isName (h : isName cs = true) : '(' ∉ cs := fun hmem =>
  absurd (isNameChar_of_isName h '(' hmem) (by decide)

theorem not_mem_of_blanks (hb : Blanks b) : '(' ∉ b := fun hmem =>
  absurd (hb '(' hmem) (by decide)

/-! ### Parts of a text -/

theorem cutAtParen_of_not_mem (h : '(' ∉ cs) : cutAtParen cs = (cs, none) := by
  induction cs with
  | nil => rfl
  | cons c cs ih =>
    rw [List.mem_cons, not_or] at h
    rw [cutAtParen, if_neg (Ne.symm h.1), ih h.2]

theorem cutAtParen_append (h : '(' ∉ cs) : cutAtParen (cs ++ '(' :: inner) = (cs, some inner) := by
  induction cs with
  | nil => rfl
  | cons c cs ih =>
    rw [List.mem_cons, not_or] at h
    rw [List.cons_append, cutAtParen, if_neg (Ne.symm h.1), ih h.2]

theorem withoutClosing_append : withoutClosing (cs ++ [')']) = some cs := by
  rw [withoutClosing, List.reverse_append]
  simp

/-- What ends otherwise has no closing parenthesis at its end. -/
theorem withoutClosing_eq_none (h : cs.getLast? ≠ some ')') : withoutClosing cs = none := by
  rw [List.getLast?_eq_head?_reverse] at h
  unfold withoutClosing
  split
  · next rest hrev =>
    rw [hrev] at h
    exact absurd rfl h
  · rfl

/-- The name of an annotation and its arguments are trimmed of the blanks around the name. -/
theorem ofParts_blanks {b b' : List Char} {arguments : Option (List Char)}
    (hname : isName a.name.toList = true) (hb : Blanks b) (hb' : Blanks b')
    (harguments : a.arguments = (arguments.filter (· ≠ [])).map String.ofList) :
    ofParts (b ++ (a.name.toList ++ b')) arguments = .ok a := by
  rw [ofParts, Unicode.trim_append hb (isTrimmed_of_isName hname) hb', if_pos hname,
    String.ofList_toList, ← harguments]

theorem ofParts_eq_badName {arguments : Option (List Char)}
    (h : ¬IsTypeName (Unicode.trim named)) : ofParts named arguments = .error .badName :=
  if_neg fun hname => h (isName_iff.1 hname)

/-! ### The form of annotations -/

/-- How an annotation is written: `@name`, or `@name(arguments)`, with blanks around each of them. -/
inductive WrittenAs (a : Annotation) : List Char → Prop
  | bare {b b₁ b₂ : List Char} : a.arguments = none →
      Unicode.Blanks b → Unicode.Blanks b₁ → Unicode.Blanks b₂ →
      WrittenAs a (b ++ '@' :: (b₁ ++ (a.name.toList ++ b₂)))
  | applied {b b₁ b₂ b₃ b₄ b₅ arguments : List Char} :
      a.arguments = (if arguments = [] then none else some (String.ofList arguments)) →
      Unicode.IsTrimmed arguments →
      Unicode.Blanks b → Unicode.Blanks b₁ → Unicode.Blanks b₂ → Unicode.Blanks b₃ →
      Unicode.Blanks b₄ → Unicode.Blanks b₅ →
      WrittenAs a (b ++ '@' ::
        (b₁ ++ (a.name.toList ++ (b₂ ++ '(' :: (b₃ ++ (arguments ++ (b₄ ++ ')' :: b₅)))))))

/-- An annotation is read back as it is written. -/
theorem readChars_writtenAs (hname : isName a.name.toList = true) (h : a.WrittenAs cs) :
    readChars cs = .ok a := by
  have hparen := not_mem_of_isName hname
  rw [readChars]
  cases h with
  | @bare b b₁ b₂ harguments hb hb₁ hb₂ =>
    have hnonempty : a.name.toList ≠ [] := (isName_iff.1 hname).nonempty
    have hbody : IsTrimmed ('@' :: b₁ ++ a.name.toList) :=
      Unicode.isTrimmed_append (by decide) hnonempty (isTrimmed_of_isName hname).2
    have htext : b ++ '@' :: (b₁ ++ (a.name.toList ++ b₂)) =
        b ++ ('@' :: b₁ ++ a.name.toList ++ b₂) := by simp
    have hnot : '(' ∉ b₁ ++ a.name.toList := by
      rw [List.mem_append, not_or]
      exact ⟨not_mem_of_blanks hb₁, hparen⟩
    have hread : ofParts (b₁ ++ (a.name.toList ++ [])) none = .ok a :=
      ofParts_blanks hname hb₁ (fun _ h => absurd h List.not_mem_nil) harguments
    rw [List.append_nil] at hread
    rw [htext, Unicode.trim_append hb hbody hb₂, List.cons_append]
    simp only [cutAtParen_of_not_mem hnot, hread]
  | @applied b b₁ b₂ b₃ b₄ b₅ arguments harguments htrim hb hb₁ hb₂ hb₃ hb₄ hb₅ =>
    have hbody : IsTrimmed ('@' :: (b₁ ++ (a.name.toList ++
        (b₂ ++ '(' :: (b₃ ++ (arguments ++ b₄))))) ++ [')']) := by
      refine Unicode.isTrimmed_append (by decide) (by decide) fun c hc => ?_
      cases hc
      decide
    have htext : b ++ '@' :: (b₁ ++ (a.name.toList ++
        (b₂ ++ '(' :: (b₃ ++ (arguments ++ (b₄ ++ ')' :: b₅)))))) =
        b ++ ('@' :: (b₁ ++ (a.name.toList ++ (b₂ ++ '(' :: (b₃ ++ (arguments ++ b₄))))) ++ [')'] ++
          b₅) := by simp
    -- the first parenthesis is the one behind the name, whatever the arguments have
    have hnot : '(' ∉ b₁ ++ (a.name.toList ++ b₂) := by
      rw [List.mem_append, List.mem_append, not_or, not_or]
      exact ⟨not_mem_of_blanks hb₁, hparen, not_mem_of_blanks hb₂⟩
    have hparted : b₁ ++ (a.name.toList ++ (b₂ ++ '(' :: (b₃ ++ (arguments ++ b₄)))) ++ [')'] =
        b₁ ++ (a.name.toList ++ b₂) ++ '(' :: (b₃ ++ (arguments ++ b₄) ++ [')']) := by simp
    have hread : ofParts (b₁ ++ (a.name.toList ++ b₂)) (some arguments) = .ok a := by
      refine ofParts_blanks hname hb₁ hb₂ ?_
      rw [harguments, Option.filter_some]
      by_cases hempty : arguments = [] <;> simp [hempty]
    rw [htext, Unicode.trim_append hb hbody hb₅, List.cons_append, hparted]
    simp only [cutAtParen_append hnot, withoutClosing_append, Unicode.trim_append hb₃ htrim hb₄,
      hread]

theorem read_writtenAs (hname : isName a.name.toList = true) (h : a.WrittenAs cs) :
    read (String.ofList cs) = .ok a := by
  rw [read, String.toList_ofList, readChars_writtenAs hname h]

/-! ### What becomes of a text -/

/-- Whether a text starts with the mark of annotations, blanks apart. -/
def Marked (cs : List Char) : Prop := ∃ body, Trims cs ('@' :: body)

/-- Whether a marked text that opens a parenthesis ends with a closing one, blanks apart. -/
def Closed (cs : List Char) : Prop :=
  ∃ body, Trims cs ('@' :: body) ∧ ('(' ∈ body → body.getLast? = some ')')

/-- Whether what stands between the mark and the first parenthesis is a name, blanks apart. -/
def Named (cs : List Char) : Prop :=
  ∃ body name, Trims cs ('@' :: body) ∧ Trims (body.takeWhile (· ≠ '(')) name ∧ IsTypeName name

/-- What reading a text has to give: the annotation that it is, or else the first condition that it
breaks. -/
def Verdict (cs : List Char) : Except AnnotationFault Annotation → Prop
  | .ok a => IsTypeName a.name.toList ∧ a.WrittenAs cs
  | .error .missingMark => ¬Marked cs
  | .error .unbalanced => Marked cs ∧ ¬Closed cs
  | .error .badName => Marked cs ∧ Closed cs ∧ ¬Named cs

/-- What stands before the first parenthesis, and what stands behind it. -/
theorem exists_parted (h : '(' ∈ body) : ∃ inner, '(' ∉ body.takeWhile (· ≠ '(') ∧
    body = body.takeWhile (· ≠ '(') ++ '(' :: inner := by
  obtain ⟨named, inner, rfl, hnamed⟩ := List.eq_append_cons_of_mem h
  have htake : (named ++ '(' :: inner).takeWhile (· ≠ '(') = named := by
    rw [List.takeWhile_append_of_pos, List.takeWhile_cons_of_neg (by simp), List.append_nil]
    intro c hc
    simpa using fun heq : c = '(' => hnamed (heq ▸ hc)
  rw [htake]
  exact ⟨inner, hnamed, rfl⟩

/-- The closing parenthesis at the end is not the opening one, so it stands behind it. -/
theorem exists_closed (h : '(' ∈ body) (hlast : body.getLast? = some ')') :
    ∃ arguments, '(' ∉ body.takeWhile (· ≠ '(') ∧
      body = body.takeWhile (· ≠ '(') ++ '(' :: (arguments ++ [')']) := by
  obtain ⟨inner, hnamed, hparted⟩ := exists_parted h
  rw [hparted, List.getLast?_append, List.getLast?_cons] at hlast
  rcases List.eq_nil_or_concat inner with rfl | ⟨arguments, c, rfl⟩
  · cases hlast
  · rw [List.concat_eq_append] at hlast hparted
    rw [List.getLast?_append] at hlast
    cases hlast
    exact ⟨arguments, hnamed, hparted⟩

theorem takeWhile_of_not_mem (h : '(' ∉ body) : body.takeWhile (· ≠ '(') = body := by
  rw [List.takeWhile_eq_self_iff]
  intro c hc
  simpa using fun heq : c = '(' => h (heq ▸ hc)

theorem readChars_of_not_marked (h : ¬Marked cs) : readChars cs = .error .missingMark := by
  unfold readChars
  split
  · next body htrim => exact absurd ⟨body, Unicode.trim_eq_iff.1 htrim⟩ h
  · rfl

theorem readChars_of_not_closed (hmarked : Marked cs) (h : ¬Closed cs) :
    readChars cs = .error .unbalanced := by
  obtain ⟨body, hbody⟩ := hmarked
  have hopen : '(' ∈ body := by
    by_contra hnot
    exact h ⟨body, hbody, fun hmem => absurd hmem hnot⟩
  obtain ⟨inner, hnamed, hparted⟩ := exists_parted hopen
  have hlast : inner.getLast? ≠ some ')' := by
    intro hlast
    refine h ⟨body, hbody, fun _ => ?_⟩
    rw [hparted, List.getLast?_append, List.getLast?_cons, hlast]
    rfl
  rw [readChars, Unicode.trim_eq_iff.2 hbody, hparted]
  simp only [cutAtParen_append hnamed, withoutClosing_eq_none hlast]

theorem readChars_of_not_named (hclosed : Closed cs) (h : ¬Named cs) :
    readChars cs = .error .badName := by
  obtain ⟨body, hbody, hends⟩ := hclosed
  have hname : ¬IsTypeName (Unicode.trim (body.takeWhile (· ≠ '('))) := fun hname =>
    h ⟨body, _, hbody, Unicode.trim_eq_iff.1 rfl, hname⟩
  rw [readChars, Unicode.trim_eq_iff.2 hbody]
  by_cases hopen : '(' ∈ body
  · obtain ⟨arguments, hnamed, hparted⟩ := exists_closed hopen (hends hopen)
    rw [hparted]
    simp only [cutAtParen_append hnamed, withoutClosing_append, ofParts_eq_badName hname]
  · rw [takeWhile_of_not_mem hopen] at hname
    simp only [cutAtParen_of_not_mem hopen, ofParts_eq_badName hname]

/-- A text that keeps all conditions is an annotation. -/
theorem exists_writtenAs (hclosed : Closed cs) (hnamed : Named cs) :
    ∃ a : Annotation, IsTypeName a.name.toList ∧ a.WrittenAs cs := by
  obtain ⟨body, hbody, hends⟩ := hclosed
  obtain ⟨body', name, hbody', ⟨-, b₁, b₂, hb₁, hb₂, htake⟩, hname⟩ := hnamed
  obtain rfl : body = body' := by
    have heq := Unicode.trim_eq_iff.2 hbody
    rw [Unicode.trim_eq_iff.2 hbody'] at heq
    exact (List.cons_inj_right '@').1 heq.symm
  obtain ⟨-, b, b', hb, hb', rfl⟩ := hbody
  by_cases hopen : '(' ∈ body
  · obtain ⟨inner, -, hparted⟩ := exists_closed hopen (hends hopen)
    obtain ⟨arguments, harguments⟩ : ∃ arguments, Trims inner arguments :=
      ⟨_, Unicode.trim_eq_iff.1 rfl⟩
    obtain ⟨htrimmed, b₃, b₄, hb₃, hb₄, rfl⟩ := harguments
    let a : Annotation :=
      ⟨String.ofList name, if arguments = [] then none else some (String.ofList arguments)⟩
    have hlist : a.name.toList = name := String.toList_ofList
    have hwritten : a.WrittenAs _ := .applied rfl htrimmed hb hb₁ hb₂ hb₃ hb₄ hb'
    refine ⟨a, by rwa [hlist], ?_⟩
    rw [htake] at hparted
    rw [hlist] at hwritten
    simpa [hparted] using hwritten
  · let a : Annotation := ⟨String.ofList name, none⟩
    have hlist : a.name.toList = name := String.toList_ofList
    have hbehind : Blanks (b₂ ++ b') := fun c hc =>
      (List.mem_append.1 hc).elim (hb₂ c) (hb' c)
    have hwritten : a.WrittenAs _ := .bare rfl hb hb₁ hbehind
    refine ⟨a, by rwa [hlist], ?_⟩
    rw [takeWhile_of_not_mem hopen] at htake
    rw [hlist] at hwritten
    simpa [htake] using hwritten

/-- Reading gives what it has to. -/
theorem readChars_of_verdict {r : Except AnnotationFault Annotation} (h : Verdict cs r) :
    readChars cs = r := by
  match r, h with
  | .ok a, h => exact readChars_writtenAs (isName_iff.2 h.1) h.2
  | .error .missingMark, h => exact readChars_of_not_marked h
  | .error .unbalanced, h => exact readChars_of_not_closed h.1 h.2
  | .error .badName, h => exact readChars_of_not_named h.2.1 h.2.2

theorem exists_verdict (cs : List Char) : ∃ r, Verdict cs r := by
  by_cases hmarked : Marked cs
  · by_cases hclosed : Closed cs
    · by_cases hnamed : Named cs
      · obtain ⟨a, ha⟩ := exists_writtenAs hclosed hnamed
        exact ⟨.ok a, ha⟩
      · exact ⟨.error .badName, hmarked, hclosed, hnamed⟩
    · exact ⟨.error .unbalanced, hmarked, hclosed⟩
  · exact ⟨.error .missingMark, hmarked⟩

/-- There is one verdict on every text, and reading gives it. -/
theorem verdict_of_read {r : Except AnnotationFault Annotation} (h : readChars cs = r) :
    Verdict cs r := by
  obtain ⟨r', hverdict⟩ := exists_verdict cs
  rw [← h, readChars_of_verdict hverdict]
  exact hverdict

/-- A written annotation can be printed without any blanks around its parts. -/
theorem WrittenAs.render (h : a.WrittenAs cs) : a.WrittenAs a.render.toList := by
  have hnil : Blanks [] := fun c hc => absurd hc List.not_mem_nil
  cases h with
  | bare hnone =>
    have hwritten := WrittenAs.bare hnone hnil hnil hnil
    simpa [render, hnone] using hwritten
  | @applied _ _ _ _ _ _ arguments harguments htrimmed =>
    by_cases hempty : arguments = []
    · have hnone : a.arguments = none := by rw [harguments, if_pos hempty]
      have hwritten := WrittenAs.bare hnone hnil hnil hnil
      simpa [render, hnone] using hwritten
    · have hsome : a.arguments = some (String.ofList arguments) := by
        rw [harguments, if_neg hempty]
      have hwritten := WrittenAs.applied harguments htrimmed hnil hnil hnil hnil hnil hnil
      simpa [render, hsome] using hwritten

/-- **A text is read as the annotation that it writes, or refused for the first condition that it
breaks, and an annotation that was read is read again from its printed form.** -/
theorem read_exact (text : String) :
    (∀ r, read text = r ↔ Verdict text.toList r) ∧
      ∀ a, read text = .ok a → read a.render = .ok a := by
  refine ⟨fun r => ⟨verdict_of_read, readChars_of_verdict⟩, fun a hread => ?_⟩
  have hverdict : Verdict text.toList (.ok a) := verdict_of_read hread
  obtain ⟨hname, hwritten⟩ := hverdict
  exact readChars_writtenAs (isName_iff.2 hname) hwritten.render

theorem read_exact_spread : read "  @ a.B ( f(x, \"@\") )\n" = .ok ⟨"a.B", some "f(x, \"@\")"⟩ ∧
    Verdict "  @ a.B ( f(x, \"@\") )\n".toList (.ok ⟨"a.B", some "f(x, \"@\")"⟩) ∧
    read "@a.B(f(x, \"@\"))" = .ok ⟨"a.B", some "f(x, \"@\")"⟩ := by
  have hread : read "  @ a.B ( f(x, \"@\") )\n" = .ok ⟨"a.B", some "f(x, \"@\")"⟩ := by
    decide +kernel
  obtain ⟨hverdict, hprinted⟩ := read_exact "  @ a.B ( f(x, \"@\") )\n"
  exact ⟨hread, (hverdict _).1 hread, hprinted _ hread⟩

end Annotation

end ResolverGen
