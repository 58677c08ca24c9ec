/-
What string literals are read as.

A literal is read as one token that stands for the text that it was written for
(`tokens?_encode`), although its characters are read twice: the backslashes of an escaped character
come in pairs or before another character than `u`, and a character that is written by its code is
none that ends a literal or a line.
-/
import ResolverGen.Proofs.Argument.Writing
import ResolverGen.Proofs.Code.Tokens
import ResolverGen.Code.Literal

namespace ResolverGen.Code

open Literal

/-! ### Codes -/

section

variable {d : Nat}

theorem escapeStep_marked (h : d < 16) :
    escapeStep .marked d.digitChar = some ([], .digits 1 d) := by
  have hmark : ∀ d < 16, d.digitChar ≠ 'u' := by decide
  rw [escapeStep, if_neg (hmark d h), Argument.hexValue?_digitChar h]
  rfl

theorem escapeStep_digits (h : d < 16) (count value : Nat) :
    escapeStep (.digits count value) d.digitChar =
      some (if count = 3 then ([16 * value + d], .plain)
        else ([], .digits (count + 1) (16 * value + d))) := by
  rw [escapeStep, Argument.hexValue?_digitChar h]
  rfl

end

/-- Four digits stand for the code that they are the digits of. -/
theorem process_hexDigits {n : Nat} (h : n < 0x10000) :
    process escapeStep .marked (hexDigits n) = some ([n], .plain) := by
  have hlt (k : Nat) : k % 16 < 16 := Nat.mod_lt k (by decide)
  have hvalue : 16 * (16 * (16 * (n / 4096 % 16) + n / 256 % 16) + n / 16 % 16) + n % 16 = n := by
    omega
  have hlast := process_singleton (escapeStep_digits (hlt n) 3
    (16 * (16 * (n / 4096 % 16) + n / 256 % 16) + n / 16 % 16))
  rw [hvalue] at hlast
  exact process_cons (escapeStep_marked (hlt _)) (process_cons (escapeStep_digits (hlt _) 1 _)
    (process_cons (escapeStep_digits (hlt _) 2 _) hlast))

theorem toNat_lt_of_isControl {c : Char} (h : isControl c = true) : c.toNat < 0xa0 := by
  simp only [isControl, Bool.or_eq_true, Bool.and_eq_true, decide_eq_true_eq] at h
  omega

/-! ### Characters -/

/-- The code of a character is no half of a pair, and one of the units of that character alone. -/
theorem toNat_notMem_unitsOf {c d : Char} (h : d.toNat < 0xd800) (hne : c ≠ d) :
    d.toNat ∉ unitsOf c := by
  have hcode : c.toNat ≠ d.toNat := fun heq => hne (Char.toNat_inj.1 heq)
  unfold unitsOf
  split
  · simpa using hcode.symm
  · simp
    omega

/-- Units stand for themselves in a literal, but for those of a few characters. -/
theorem process_text (read : List Nat) {us : List Nat}
    (h : ∀ d ∈ ['"', '\\', '\n', '\r'], d.toNat ∉ us) :
    process tokenStep (.text read) us = some ([], .text (read ++ us)) := by
  induction us generalizing read with
  | nil => simp [process]
  | cons u us ih =>
    have hne (d : Char) (hd : d ∈ ['"', '\\', '\n', '\r']) : u ≠ d.toNat :=
      fun heq => h d hd (heq ▸ List.mem_cons_self)
    have hstep : tokenStep (.text read) u = some ([], .text (read ++ [u])) := by
      rw [tokenStep, readText, if_neg (hne '"' (by simp)), if_neg (hne '\\' (by simp)), if_neg]
      exact not_or.2 ⟨hne '\n' (by simp), hne '\r' (by simp)⟩
    have hrest := ih (read ++ [u]) fun d hd hmem => h d hd (List.mem_cons_of_mem u hmem)
    simpa using process_cons hstep hrest

/-- A character that is written by its code is scanned as if it stood for itself. -/
theorem scans_code {c : Char} (h : c.toNat < 0x10000) {s t : TokenState} {ts : List Token}
    (hunits : process tokenStep s (unitsOf c) = some (ts, t)) :
    Scans s ('\\' :: 'u' :: hexDigits c.toNat) ts t := by
  have hstart : escapeStep .plain '\\' = some ([], .backslash) := rfl
  have hmark : escapeStep .backslash 'u' = some ([], .marked) := rfl
  have hunit : unitsOf c = [c.toNat] := if_pos h
  refine ⟨unitsOf c, ?_, hunits⟩
  rw [hunit]
  exact process_cons hstart (process_cons hmark (process_hexDigits h))

/-- A character is scanned as it is written in a literal. -/
theorem scans_escape (read : List Nat) (c : Char) :
    Scans (.text read) (escape c) [] (.text (read ++ unitsOf c)) := by
  unfold escape
  split_ifs with hquote hslash hfeed hreturn htab hcontrol
  · subst hquote
    exact ⟨_, rfl, rfl⟩
  · subst hslash
    exact ⟨_, rfl, rfl⟩
  · subst hfeed
    exact ⟨_, rfl, rfl⟩
  · subst hreturn
    exact ⟨_, rfl, rfl⟩
  · subst htab
    exact ⟨_, rfl, rfl⟩
  all_goals
    have hunits : process tokenStep (.text read) (unitsOf c) =
        some ([], .text (read ++ unitsOf c)) := by
      refine process_text read ?_
      simp only [List.mem_cons, List.not_mem_nil, or_false]
      rintro d (rfl | rfl | rfl | rfl)
      · exact toNat_notMem_unitsOf (by decide) hquote
      · exact toNat_notMem_unitsOf (by decide) hslash
      · exact toNat_notMem_unitsOf (by decide) hfeed
      · exact toNat_notMem_unitsOf (by decide) hreturn
  · exact scans_code (Nat.lt_trans (toNat_lt_of_isControl hcontrol) (by decide)) hunits
  · exact Scans.char hslash hunits

/-- Characters are scanned as they are written in a literal. -/
theorem scans_flatMap_escape (read : List Nat) (cs : List Char) :
    Scans (.text read) (cs.flatMap escape) [] (.text (read ++ codeUnits cs)) := by
  induction cs generalizing read with
  | nil => simpa [codeUnits] using scans_nil (.text read)
  | cons c cs ih =>
    have hrest := (scans_escape read c).append (ih (read ++ unitsOf c))
    rwa [List.append_assoc] at hrest

/-! ### Literals -/

/-- What is not empty is scanned behind the opening quote as anywhere in a literal. -/
theorem Scans.opened {cs : List Char} {read : List Nat} (h : Scans (.text []) cs [] (.text read))
    (hread : read ≠ []) : Scans .opened cs [] (.text read) := by
  obtain ⟨us, hus, hts⟩ := h
  refine ⟨us, hus, ?_⟩
  cases us with
  | nil =>
    cases hts
    exact absurd rfl hread
  | cons u us =>
    by_cases hquote : u = '"'.toNat
    · -- the quote would end the literal
      subst hquote
      obtain ⟨rest, -, heq⟩ := Option.map_eq_some_iff.1 hts
      cases heq
    · have hstep : tokenStep .opened u = tokenStep (.text []) u := if_neg hquote
      rwa [process, hstep]

/-- A text that is not empty is scanned behind a quote. -/
theorem scans_quote {cs : List Char} (h : cs ≠ []) :
    Scans .between ('"' :: cs.flatMap escape) [] (.text (codeUnits cs)) := by
  have hunits : codeUnits cs ≠ [] := fun hnil => h (codeUnits_injective hnil)
  have hopen : Scans .between ['"'] [] .opened := ⟨_, rfl, rfl⟩
  exact hopen.append ((scans_flatMap_escape [] cs).opened hunits)

/-- A literal that is not empty is scanned as the text that it is written for. -/
theorem scans_encode {cs : List Char} (h : cs ≠ []) :
    Scans .between (encode cs) [.text (codeUnits cs)] .between := by
  have hclose : Scans (.text (codeUnits cs)) ['"'] [.text (codeUnits cs)] .between := ⟨_, rfl, rfl⟩
  exact (scans_quote h).append hclose

theorem tokens?_encode (cs : List Char) : tokens? (encode cs) = some [.text (codeUnits cs)] := by
  by_cases h : cs = []
  · subst h
    rfl
  · exact (scans_encode h).tokens?_eq

/-- A text that looks like an escape itself, before a character that is written by its code. -/
example : (quote "\\u0041\x01" = "\"\\\\u0041\\u0001\"") ∧
    tokens? (quote "\\u0041\x01").toList = some [.text [0x5c, 0x75, 0x30, 0x30, 0x34, 0x31, 1]] := by
  decide +kernel

end ResolverGen.Code
