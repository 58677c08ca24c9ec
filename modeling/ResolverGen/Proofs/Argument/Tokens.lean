/-
The tokens of written arguments.

`Cuts cs ts` says that a text is cut into tokens, whatever fuel there is beyond the length of the
text. A blank, a mark, a word or a literal in front takes one step (`Cuts.blank`, `Cuts.leaf`), so
that written entries are cut into the tokens of the entries (`cuts_writeAll`), which have no
brackets and are a list of trees as they are (`trees?_writeAll`).
-/
import ResolverGen.Proofs.Argument.Writing

namespace ResolverGen.Argument

open Unicode (startsName continuesName)

/-! ### What stands in front -/

section

variable {c : Char} {cs : List Char}

theorem spanNumber_eq_none (hdigit : c.isDigit = false) : spanNumber (c :: cs) = none := by
  have hzero : c ≠ '0' := by
    rintro rfl
    cases hdigit
  have hhex : ∀ d, Json.hexValue? c = some d → ¬d < 10 := by
    intro d hd
    unfold Json.hexValue? at hd
    rw [hdigit, if_neg Bool.false_ne_true] at hd
    split at hd
    · cases hd
      omega
    · split at hd
      · cases hd
        omega
      · cases hd
  have hdecimal : dropDecimal (c :: cs) = none := by
    rw [dropDecimal, hdigit]
    rfl
  have hdigits : spanDigits 10 0 false (c :: cs) = none := by
    rw [spanDigits]
    split
    · rfl
    · split
      · rfl
      · next d hd =>
        rw [if_neg (hhex d hd), hdigit]
        rfl
  have hinteger : spanInteger (c :: cs) = none := by
    rw [spanInteger]
    · exact hdigits
    all_goals
      rintro _ ⟨⟩
      exact hzero rfl
  rw [spanNumber, hdecimal, hinteger]
  rfl

theorem contains_markChars_of_isAlpha (h : c.isAlpha = true) : markChars.contains c = false := by
  have hmarks : markChars.all (fun d => !d.isAlpha) = true := by decide
  rw [List.all_eq_true] at hmarks
  rw [List.contains_eq_any_beq, List.any_eq_false]
  intro d hd hbeq
  have hd := hmarks d hd
  rw [beq_iff_eq] at hbeq
  rw [← hbeq, h] at hd
  cases hd

theorem isAscii_of_isAlphanum (h : c.isAlphanum = true) : c.toNat < 0x80 := by
  have h : (decide ('A'.val ≤ c.val ∧ c.val ≤ 'Z'.val) ||
      (decide ('a'.val ≤ c.val) && decide (c.val ≤ 'z'.val)) ||
      (decide ('0'.val ≤ c.val) && decide (c.val ≤ '9'.val))) = true := h
  simp only [Bool.or_eq_true, Bool.and_eq_true, decide_eq_true_eq] at h
  rcases h with (⟨-, h⟩ | ⟨-, h⟩) | ⟨-, h⟩ <;>
    exact Nat.lt_of_le_of_lt (UInt32.le_iff_toNat_le.1 h) (by decide)

/-- What can be seen of the letters and digits among the first characters is true of all of them. -/
theorem of_isAlphanum {p : Char → Bool} (h : c.isAlphanum = true)
    (hall : ∀ n < 0x80, (Char.ofNat n).isAlphanum = true → p (Char.ofNat n) = true) :
    p c = true := by
  have hc := hall c.toNat (isAscii_of_isAlphanum h)
  rw [Char.ofNat_toNat] at hc
  exact hc h

theorem isAlphanum_of_isAlpha (h : c.isAlpha = true) : c.isAlphanum = true := by
  rw [Char.isAlphanum, h, Bool.true_or]

theorem isDigit_of_isAlpha (h : c.isAlpha = true) : c.isDigit = false := by
  have hboth : (!(c.isAlpha && c.isDigit)) = true :=
    of_isAlphanum (p := fun c => !(c.isAlpha && c.isDigit)) (isAlphanum_of_isAlpha h) (by decide)
  rwa [h, Bool.true_and, Bool.not_eq_true'] at hboth

theorem startsName_of_isAlpha (h : c.isAlpha = true) : startsName c = true := by
  rw [startsName, if_pos (isAscii_of_isAlphanum (isAlphanum_of_isAlpha h)), h, Bool.true_or]

end

/-! ### Words -/

/-- The characters that literals start with, but for numbers. -/
def literalHeads : List Char := ['"', '\'', 'r', 'b', 'c']

/-- Whether a text is a word of letters that no literal starts with. -/
def isPlain : List Char → Bool
  | [] => false
  | c :: cs => c ∉ literalHeads && (c :: cs).all Char.isAlpha

section

variable {c : Char} {cs word rest : List Char}

theorem after?_eq_none {start : List Char} {d : Char} (hhead : start.head? = some d)
    (hne : d ≠ c) : Naming.after? start (c :: cs) = none := by
  cases start with
  | nil => cases hhead
  | cons e start =>
    cases hhead
    rw [Naming.after?, if_neg hne]

theorem literalStarts_eq_none (hc : c ∉ literalHeads) :
    (literalStarts.any fun start => (Naming.after? start.toList (c :: cs)).isSome) = false := by
  have hheads : literalStarts.all (fun start =>
      literalHeads.any fun d => start.toList.head? = some d) = true := by decide
  rw [List.all_eq_true] at hheads
  rw [List.any_eq_false]
  intro start hstart
  obtain ⟨d, hd, hhead⟩ := List.any_eq_true.1 (hheads start hstart)
  have hne : d ≠ c := by
    rintro rfl
    exact hc hd
  rw [after?_eq_none (of_decide_eq_true hhead) hne]
  exact Bool.false_ne_true

/-- What no other literal starts with may be a number. -/
theorem spanLiteral_eq_spanNumber (hc : c ∉ literalHeads) :
    spanLiteral (c :: cs) = spanNumber (c :: cs) := by
  rw [spanLiteral] <;> (rintro rfl; exact hc (by decide))

theorem startsMark_of_isAlpha (h : c.isAlpha = true) : startsMark (c :: cs) = false := by
  unfold startsMark
  split
  · rfl
  · rfl
  · rfl
  · next heq =>
    obtain ⟨rfl, rfl⟩ := List.cons.inj heq
    exact contains_markChars_of_isAlpha h

/-- A word in front that ends there. -/
theorem spanLeaf_word (hword : isPlain word = true)
    (hrest : ∀ c ∈ rest.head?, continuesName c = false) :
    spanLeaf (word ++ rest) = some (.word (String.ofList word), rest) := by
  cases word with
  | nil => cases hword
  | cons c cs =>
    simp only [isPlain, Bool.and_eq_true, decide_eq_true_eq, List.all_cons,
      List.all_eq_true] at hword
    obtain ⟨hfirst, hc, hcs⟩ := hword
    have hcontinues : ∀ d ∈ cs, continuesName d = true := fun d hd =>
      Unicode.continues_of_starts (startsName_of_isAlpha (hcs d hd))
    have hend : rest.takeWhile continuesName = [] ∧ rest.dropWhile continuesName = rest := by
      cases rest with
      | nil => exact ⟨rfl, rfl⟩
      | cons d rest => simp [hrest d rfl]
    have hname : spanName (c :: (cs ++ rest)) = some (c :: cs, rest) := by
      rw [spanName, if_pos (startsName_of_isAlpha hc), List.takeWhile_append_of_pos hcontinues,
        List.dropWhile_append_of_pos hcontinues, hend.1, hend.2, List.append_nil]
    -- what is left to see is that nothing that comes before plain words claims the first letter
    have hraw : Naming.after? "r#".toList (c :: (cs ++ rest)) = none := by
      refine after?_eq_none rfl ?_
      rintro rfl
      exact hfirst (by decide)
    have hliteral : spanLiteral (c :: (cs ++ rest)) = none := by
      rw [spanLiteral_eq_spanNumber hfirst, spanNumber_eq_none (isDigit_of_isAlpha hc)]
    have hmark : spanMark (c :: (cs ++ rest)) = none := by
      rw [spanMark, startsMark_of_isAlpha hc]
      rfl
    rw [List.cons_append, spanLeaf, hliteral, hmark, spanPlainWord, literalStarts_eq_none hfirst,
      spanWord, hraw, hname]
    rfl

end

/-! ### Marks and literals -/

section

variable {rest : List Char}

/-- An equals sign or a comma in front. -/
theorem spanLeaf_mark {c : Char} (hc : c = '=' ∨ c = ',') :
    spanLeaf (c :: rest) = some (.mark c (startsMark rest), rest) := by
  rcases hc with rfl | rfl
  · rw [spanLeaf, spanLiteral_eq_spanNumber (by decide), spanNumber_eq_none rfl]
    rfl
  · rw [spanLeaf, spanLiteral_eq_spanNumber (by decide), spanNumber_eq_none rfl]
    rfl

/-- The token of a value. -/
def Value.token : Value → Token
  | text value => .literal (.text value)
  | flag true => .word "true"
  | flag false => .word "false"
  | number value => .literal (.integer value)

theorem continuesName_of_endsValue (hrest : EndsValue rest) :
    ∀ c ∈ rest.head?, continuesName c = false := by
  intro c hc
  rw [hrest c hc]
  decide

/-- A value in front. -/
theorem spanLeaf_write (v : Value) (hrest : EndsValue rest) :
    spanLeaf (v.write ++ rest) = some (v.token, rest) := by
  cases v with
  | text value =>
    have hwritten : (Value.text value).write ++ rest =
        '"' :: (value.toList.flatMap escape ++ '"' :: rest) := by
      simp [Value.write]
    have hfuel : value.toList.length <
        (value.toList.flatMap escape ++ '"' :: rest).length + 1 := by
      have := length_le_flatMap_escape value.toList
      rw [List.length_append]
      omega
    rw [hwritten, spanLeaf, spanLiteral, spanLiteral.text, spanText,
      spanQuoted_flatMap_escape _ _ hfuel]
    simp only [Option.map_some, dropSuffix_of_endsValue hrest, String.ofList_toList]
    rfl
  | flag value =>
    cases value with
    | false => exact spanLeaf_word (by decide) (continuesName_of_endsValue hrest)
    | true => exact spanLeaf_word (by decide) (continuesName_of_endsValue hrest)
  | number value =>
    have hliteral : spanLiteral (Nat.toDigits 10 value ++ rest) =
        spanNumber (Nat.toDigits 10 value ++ rest) := by
      cases hdigits : Nat.toDigits 10 value with
      | nil => exact absurd hdigits Nat.toDigits_ne_nil
      | cons d ds =>
        have hd : d.isDigit = true :=
          Nat.isDigit_of_mem_toDigits (by decide) (by decide) (hdigits ▸ List.mem_cons_self)
        have hheads : literalHeads.all (fun c => !c.isDigit) = true := by decide
        rw [List.all_eq_true] at hheads
        refine spanLiteral_eq_spanNumber fun hmem => ?_
        have hhead := hheads d hmem
        rw [hd] at hhead
        cases hhead
    rw [Value.write, spanLeaf, hliteral, spanNumber_toDigits value hrest]
    rfl

end

/-! ### Whole texts -/

/-- A text is cut into tokens by any fuel beyond its length. -/
def Cuts (cs : List Char) (ts : List Token) : Prop :=
  ∀ fuel, cs.length < fuel → tokensFrom fuel cs = some ts

/-- Whether a character neither is blank nor starts a comment nor is a bracket. -/
def startsLeaf (c : Char) : Bool :=
  !isGap c && c ≠ '/' && (Delimiter.opened? c).isNone && (Delimiter.closed? c).isNone

section

variable {c : Char} {cs rest : List Char} {t : Token} {ts : List Token}

theorem startsLeaf_of_isAlphanum (h : c.isAlphanum = true) : startsLeaf c = true :=
  of_isAlphanum h (by decide)

theorem cuts_nil : Cuts [] [] := by
  intro fuel h
  cases fuel with
  | zero => cases h
  | succ fuel => rfl

theorem Cuts.blank (h : Cuts cs ts) : Cuts (' ' :: cs) ts := by
  intro fuel hfuel
  cases fuel with
  | zero => cases hfuel
  | succ fuel =>
    -- the same step skips the blank, so that it takes no fuel
    have hskip : skipGaps ((' ' :: cs).length + 1) (' ' :: cs) = skipGaps (cs.length + 1) cs := rfl
    rw [← h (fuel + 1) (Nat.lt_of_succ_lt hfuel), tokensFrom, tokensFrom, hskip]

/-- A token in front takes one step. -/
theorem Cuts.leaf (hc : startsLeaf c = true) (hleaf : spanLeaf (c :: cs) = some (t, rest))
    (hlength : rest.length ≤ cs.length) (h : Cuts rest ts) : Cuts (c :: cs) (t :: ts) := by
  simp only [startsLeaf, Bool.and_eq_true, Bool.not_eq_true', decide_eq_true_eq,
    Option.isNone_iff_eq_none] at hc
  obtain ⟨⟨⟨hgap, hslash⟩, hopened⟩, hclosed⟩ := hc
  intro fuel hfuel
  cases fuel with
  | zero => cases hfuel
  | succ fuel =>
    have hcomment : dropComment (c :: cs) = none := by
      rw [dropComment] <;> (rintro _ ⟨⟩; exact hslash rfl)
    have hdocument : spanDocument (c :: cs) = none := by
      rw [spanDocument] <;> (rintro _ ⟨⟩; exact hslash rfl)
    have hskip : skipGaps ((c :: cs).length + 1) (c :: cs) = c :: cs := by
      rw [skipGaps, hcomment]
      dsimp only
      rw [hgap, if_neg Bool.false_ne_true]
    rw [tokensFrom]
    dsimp only
    rw [hskip, hdocument]
    dsimp only [Option.filter_none]
    rw [hopened, hclosed, hleaf]
    dsimp only
    rw [h fuel (by rw [List.length_cons] at hfuel; omega)]
    rfl

/-- A token that a word starts takes one step. -/
theorem Cuts.word {word : List Char} (hword : ∀ c ∈ word.head?, startsLeaf c = true)
    (hne : word ≠ []) (hleaf : spanLeaf (word ++ rest) = some (t, rest)) (h : Cuts rest ts) :
    Cuts (word ++ rest) (t :: ts) := by
  cases word with
  | nil => exact absurd rfl hne
  | cons c cs =>
    have hlength : rest.length ≤ (cs ++ rest).length := by simp
    exact h.leaf (hword c rfl) hleaf hlength

end

/-! ### Entries -/

/-- Whether the keys of entries are words. -/
def Entry.HasPlainKey (e : Entry) : Prop := isPlain e.key.toList = true

/-- The tokens of an entry. -/
def Entry.tokens (e : Entry) : List Token := [.word e.key, .mark '=' false, e.value.token]

/-- The tokens of what stands behind an entry. -/
def tokensMore (comma : Bool) : List Entry → List Token
  | [] => if comma then [.mark ',' false] else []
  | e :: es => .mark ',' false :: (e.tokens ++ tokensMore comma es)

/-- The tokens of written entries. -/
def tokensAll (comma : Bool) : List Entry → List Token
  | [] => []
  | e :: es => e.tokens ++ tokensMore comma es

/-- A written entry starts with a letter. -/
theorem Entry.HasPlainKey.exists_write_eq_cons {e : Entry} (h : e.HasPlainKey) :
    ∃ c cs, e.write = c :: cs ∧ c.isAlpha = true := by
  unfold HasPlainKey at h
  cases hkey : e.key.toList with
  | nil =>
    rw [hkey] at h
    cases h
  | cons c cs =>
    simp only [hkey, isPlain, Bool.and_eq_true, List.all_cons] at h
    exact ⟨c, cs ++ " = ".toList ++ e.value.write, by rw [write, hkey]; rfl, h.2.1⟩

theorem startsLeaf_of_isPlain {word : List Char} (h : isPlain word = true) :
    word ≠ [] ∧ ∀ c ∈ word.head?, startsLeaf c = true := by
  cases word with
  | nil => cases h
  | cons c cs =>
    refine ⟨List.cons_ne_nil c cs, ?_⟩
    rintro d ⟨⟩
    simp only [isPlain, Bool.and_eq_true, List.all_cons] at h
    exact startsLeaf_of_isAlphanum (isAlphanum_of_isAlpha h.2.1)

theorem Value.startsLeaf_write (v : Value) :
    v.write ≠ [] ∧ ∀ c ∈ v.write.head?, startsLeaf c = true := by
  cases v with
  | text value =>
    refine ⟨by simp [write], ?_⟩
    rintro c ⟨⟩
    decide
  | flag value => cases value <;> exact startsLeaf_of_isPlain (by decide)
  | number value =>
    refine ⟨Nat.toDigits_ne_nil, fun c hc => startsLeaf_of_isAlphanum ?_⟩
    have hdigit : c.isDigit = true :=
      Nat.isDigit_of_mem_toDigits (by decide) (by decide) (List.mem_of_mem_head? hc)
    rw [Char.isAlphanum, hdigit, Bool.or_true]

theorem endsValue_writeMore (comma : Bool) (es : List Entry) : EndsValue (writeMore comma es) := by
  cases es with
  | nil =>
    cases comma with
    | false => rintro c ⟨⟩
    | true =>
      rintro c ⟨⟩
      rfl
  | cons e es =>
    rintro c ⟨⟩
    rfl

/-- An entry is cut into its tokens. -/
theorem Entry.cuts_write {e : Entry} (he : e.HasPlainKey) {rest : List Char} {ts : List Token}
    (hrest : EndsValue rest) (h : Cuts rest ts) : Cuts (e.write ++ rest) (e.tokens ++ ts) := by
  have hwritten : e.write ++ rest =
      e.key.toList ++ (' ' :: '=' :: ' ' :: (e.value.write ++ rest)) := by
    simp [Entry.write]
  have hvalue : Cuts (e.value.write ++ rest) (e.value.token :: ts) :=
    h.word e.value.startsLeaf_write.2 e.value.startsLeaf_write.1 (spanLeaf_write e.value hrest)
  have hequals : Cuts ('=' :: ' ' :: (e.value.write ++ rest))
      (.mark '=' false :: e.value.token :: ts) :=
    hvalue.blank.leaf (by decide) (spanLeaf_mark (.inl rfl)) (Nat.le_refl _)
  have hkey : spanLeaf (e.key.toList ++ (' ' :: '=' :: ' ' :: (e.value.write ++ rest))) =
      some (.word e.key, ' ' :: '=' :: ' ' :: (e.value.write ++ rest)) := by
    have hblank : ∀ c ∈ (' ' :: '=' :: ' ' :: (e.value.write ++ rest)).head?,
        continuesName c = false := by
      rintro c ⟨⟩
      rfl
    rw [spanLeaf_word he hblank, String.ofList_toList]
  rw [hwritten]
  exact hequals.blank.word (startsLeaf_of_isPlain he).2 (startsLeaf_of_isPlain he).1 hkey

theorem cuts_writeMore (comma : Bool) {es : List Entry} (hes : ∀ e ∈ es, e.HasPlainKey) :
    Cuts (writeMore comma es) (tokensMore comma es) := by
  induction es with
  | nil =>
    cases comma with
    | false => exact cuts_nil
    | true => exact cuts_nil.leaf (by decide) (spanLeaf_mark (.inr rfl)) (Nat.le_refl _)
  | cons e es ih =>
    rw [List.forall_mem_cons] at hes
    have hmore := e.cuts_write hes.1 (endsValue_writeMore comma es) (ih hes.2)
    have hwritten : writeMore comma (e :: es) =
        ',' :: ' ' :: (e.write ++ writeMore comma es) := by
      simp [writeMore]
    rw [hwritten]
    exact hmore.blank.leaf (by decide) (spanLeaf_mark (.inr rfl)) (Nat.le_refl _)

/-- Written entries are cut into their tokens. -/
theorem cuts_writeAll (comma : Bool) {es : List Entry} (hes : ∀ e ∈ es, e.HasPlainKey) :
    Cuts (writeAll comma es) (tokensAll comma es) := by
  cases es with
  | nil => exact cuts_nil
  | cons e es =>
    rw [List.forall_mem_cons] at hes
    exact e.cuts_write hes.1 (endsValue_writeMore comma es) (cuts_writeMore comma hes.2)

/-! ### Trees -/

/-- Whether a token is no bracket. -/
def Token.isLeaf : Token → Bool
  | .opening _ | .closing _ => false
  | _ => true

/-- The tree of a token that is no bracket. -/
def Token.tree : Token → Tree
  | .word name => .word name
  | .mark c joint => .mark c joint
  | .literal l => .literal l
  | .opening d => .group d []
  | .closing d => .group d []

theorem nestFrom_leaves {ts : List Token} (h : ∀ t ∈ ts, t.isLeaf = true) (before : List Tree) :
    nestFrom [] before ts = some (before.reverse ++ ts.map Token.tree) := by
  induction ts generalizing before with
  | nil => simp [nestFrom]
  | cons t ts ih =>
    rw [List.forall_mem_cons] at h
    have hstep : nestFrom [] before (t :: ts) = nestFrom [] (t.tree :: before) ts := by
      cases t with
      | opening d => cases h.1
      | closing d => cases h.1
      | _ => rfl
    rw [hstep, ih h.2]
    simp

theorem Entry.isLeaf_tokens (e : Entry) : ∀ t ∈ e.tokens, t.isLeaf = true := by
  have hvalue : e.value.token.isLeaf = true := by
    cases e.value with
    | flag value => cases value <;> rfl
    | _ => rfl
  rw [Entry.tokens, List.forall_mem_cons, List.forall_mem_cons, List.forall_mem_singleton]
  exact ⟨rfl, rfl, hvalue⟩

theorem isLeaf_tokensMore (comma : Bool) (es : List Entry) :
    ∀ t ∈ tokensMore comma es, t.isLeaf = true := by
  induction es with
  | nil => cases comma <;> simp [tokensMore, Token.isLeaf]
  | cons e es ih =>
    rw [tokensMore, List.forall_mem_cons, List.forall_mem_append]
    exact ⟨rfl, e.isLeaf_tokens, ih⟩

theorem isLeaf_tokensAll (comma : Bool) (es : List Entry) :
    ∀ t ∈ tokensAll comma es, t.isLeaf = true := by
  cases es with
  | nil => simp [tokensAll]
  | cons e es =>
    rw [tokensAll, List.forall_mem_append]
    exact ⟨e.isLeaf_tokens, isLeaf_tokensMore comma es⟩

/-- Written entries give the trees of their tokens. -/
theorem trees?_writeAll (comma : Bool) {es : List Entry} (hes : ∀ e ∈ es, e.HasPlainKey) :
    trees? (String.ofList (writeAll comma es)) =
      some ((tokensAll comma es).map Token.tree) := by
  have hmark : dropOrderMark (writeAll comma es) = writeAll comma es := by
    cases es with
    | nil => rfl
    | cons e es =>
      obtain ⟨c, cs, hwritten, hc⟩ := (hes e List.mem_cons_self).exists_write_eq_cons
      rw [writeAll, hwritten, List.cons_append, dropOrderMark]
      intro more heq
      rw [(List.cons.inj heq).1] at hc
      cases hc
  have hcuts := cuts_writeAll comma hes ((writeAll comma es).length + 1) (Nat.lt_succ_self _)
  simp only [trees?, String.toList_ofList]
  rw [hmark, hcuts, Option.bind_some, nest, nestFrom_leaves (isLeaf_tokensAll comma es)]
  rfl

end ResolverGen.Argument
