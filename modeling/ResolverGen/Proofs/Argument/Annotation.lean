/-
Annotations as they are written.

An annotation with entries is its name and, between parentheses, the entries. The name and the
entries have no blanks at their ends and the name has no parenthesis, so that the text is parted
where it was put together (`Annotation.read_annotationText`), whatever parentheses there are in the
entries.
-/
import Mathlib.Data.List.Basic
import ResolverGen.Proofs.Argument.Tokens
import ResolverGen.Proofs.Element.Annotations

namespace ResolverGen

namespace Argument

/-- How an annotation with entries is written. -/
def annotationText (name : String) (comma : Bool) (es : List Entry) : String :=
  String.ofList ('@' :: (name.toList ++ '(' :: (writeAll comma es ++ [')'])))

theorem isBlank_of_startsLeaf {c : Char} (h : startsLeaf c = true) :
    Unicode.isBlank c = false := by
  simp only [startsLeaf, isGap, Bool.and_eq_true, Bool.not_eq_true', Bool.or_eq_false_iff] at h
  exact h.1.1.1.1.1

/-- A value ends in a quote, a letter or a digit. -/
theorem Value.startsLeaf_getLast? (v : Value) : ∀ c ∈ v.write.getLast?, startsLeaf c = true := by
  cases v with
  | text value =>
    rw [write, List.getLast?_append]
    rintro c ⟨⟩
    decide
  | flag value =>
    intro c hc
    cases value with
    | false =>
      cases hc
      decide
    | true =>
      cases hc
      decide
  | number value =>
    intro c hc
    have hdigit : c.isDigit = true :=
      Nat.isDigit_of_mem_toDigits (by decide) (by decide) (List.mem_of_getLast? hc)
    refine startsLeaf_of_isAlphanum ?_
    rw [Char.isAlphanum, hdigit, Bool.or_true]

theorem Entry.write_ne_nil (e : Entry) : e.write ≠ [] := by
  rw [write]
  exact List.append_ne_nil_of_right_ne_nil _ e.value.startsLeaf_write.1

theorem Entry.startsLeaf_getLast? (e : Entry) : ∀ c ∈ e.write.getLast?, startsLeaf c = true := by
  intro c hc
  rw [write, List.getLast?_append_of_ne_nil _ e.value.startsLeaf_write.1] at hc
  exact e.value.startsLeaf_getLast? c hc

theorem startsLeaf_getLast?_writeMore (comma : Bool) (es : List Entry) :
    ∀ c ∈ (writeMore comma es).getLast?, startsLeaf c = true := by
  induction es with
  | nil =>
    intro c hc
    cases comma with
    | false => cases hc
    | true =>
      cases hc
      decide
  | cons e es ih =>
    intro c hc
    rw [writeMore, List.getLast?_append, Option.mem_def, Option.or_eq_some_iff] at hc
    rcases hc with hc | ⟨-, hc⟩
    · exact ih c hc
    · rw [List.getLast?_append_of_ne_nil _ e.write_ne_nil] at hc
      exact e.startsLeaf_getLast? c hc

/-- Written entries neither start nor end with a blank. -/
theorem trim_writeAll (comma : Bool) {es : List Entry} (hes : ∀ e ∈ es, e.HasPlainKey) :
    Unicode.trim (writeAll comma es) = writeAll comma es := by
  cases es with
  | nil => rfl
  | cons e es =>
    refine Unicode.trim_eq_self (fun c hc => ?_) (fun c hc => isBlank_of_startsLeaf ?_)
    · obtain ⟨d, ds, hwritten, hd⟩ := (hes e List.mem_cons_self).exists_write_eq_cons
      rw [writeAll, hwritten, List.cons_append, List.head?_cons] at hc
      cases hc
      exact isBlank_of_startsLeaf (startsLeaf_of_isAlphanum (isAlphanum_of_isAlpha hd))
    · rw [writeAll, List.getLast?_append, Option.mem_def, Option.or_eq_some_iff] at hc
      rcases hc with hc | ⟨-, hc⟩
      · exact startsLeaf_getLast?_writeMore comma es c hc
      · exact e.startsLeaf_getLast? c hc

end Argument

namespace Annotation

/-- A written annotation is read with its name and its entries, if there are any. -/
theorem read_annotationText {name : String} (hname : isName name.toList = true) (comma : Bool)
    {es : List Argument.Entry} (hes : ∀ e ∈ es, e.HasPlainKey) :
    read (Argument.annotationText name comma es) =
      .ok ⟨name, ((some (Argument.writeAll comma es)).filter (· ≠ [])).map String.ofList⟩ := by
  have htrimmed : Unicode.IsTrimmed (Argument.writeAll comma es) := by
    rw [← Argument.trim_writeAll comma hes]
    exact Unicode.isTrimmed_trim _
  have hnil : Unicode.Blanks [] := fun c hc => absurd hc List.not_mem_nil
  let a : Annotation :=
    ⟨name, ((some (Argument.writeAll comma es)).filter (· ≠ [])).map String.ofList⟩
  have harguments : a.arguments = if Argument.writeAll comma es = [] then none else
      some (String.ofList (Argument.writeAll comma es)) := by
    show ((some (Argument.writeAll comma es)).filter (· ≠ [])).map String.ofList = _
    rw [Option.filter_some]
    by_cases hempty : Argument.writeAll comma es = [] <;> simp [hempty]
  exact read_writtenAs (a := a) hname (.applied harguments htrimmed hnil hnil hnil hnil hnil hnil)

theorem denotes_of_name_eq {a : Annotation} {qualified : String} (h : a.name = qualified) :
    a.denotes qualified = true := by
  rw [denotes, decide_eq_true h, Bool.true_or]

end Annotation

end ResolverGen
