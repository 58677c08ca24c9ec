/-
Values of columns and cells of rows.

A column type admits values of its own kind, and null if it is not primitive. A cell holds an
integer of 64 bits, a real number of double precision, a text or bytes, or nothing; a truth value is
kept as 0 or 1. Every conversion between the two is partial, and defined only where nothing is lost:

* `exists_cell_of_admits` — what a column type admits can be kept in a cell,
* `read?_of_admits` — the cursor method of the type reads it back from there.
-/
import Mathlib.Data.Int.Cast.Lemmas
import ResolverGen.Entity.ColumnType

namespace ResolverGen

/-! ### Numbers -/

/-- Whether a number fits into some bits, one of them for the sign. -/
def inBits (bits : Nat) (n : Int) : Bool := -2 ^ (bits - 1) ≤ n && n < 2 ^ (bits - 1)

theorem inBits_mono {a b : Nat} {n : Int} (hab : a ≤ b) (h : inBits a n = true) :
    inBits b n = true := by
  simp only [inBits, Bool.and_eq_true, decide_eq_true_eq] at h ⊢
  have hpow : (2 : Int) ^ (a - 1) ≤ 2 ^ (b - 1) := by
    exact_mod_cast Nat.pow_le_pow_right (by omega) (by omega)
  omega

/-- A floating-point number. A finite one is its significand times a power of two, in lowest terms:
the significand is odd, or it is zero and so is the exponent. -/
inductive Floating where
  | nan
  | infinite (negative : Bool)
  | finite (negative : Bool) (significand : Nat) (exponent : Int)
deriving DecidableEq, Repr, Inhabited

/-- The finite numbers of a format: those below `2 ^ highest` that are a multiple of `2 ^ lowest` by
a significand of `precision` bits. -/
structure Format where
  precision : Nat
  lowest : Int
  highest : Int

namespace Format

/-- Numbers of 32 bits. -/
def single : Format := ⟨24, -149, 128⟩

/-- Numbers of 64 bits. -/
def double : Format := ⟨53, -1074, 1024⟩

/-- Whether a format has a number. -/
def has (f : Format) : Floating → Bool
  | .nan | .infinite _ => true
  | .finite _ significand exponent =>
    (significand % 2 = 1 || significand = 0 && exponent = 0) &&
      significand < 2 ^ f.precision && f.lowest ≤ exponent &&
      significand.log2 + exponent < f.highest

/-- A format with more room has all numbers of one with less. -/
theorem has_mono {f g : Format} (hprecision : f.precision ≤ g.precision)
    (hlowest : g.lowest ≤ f.lowest) (hhighest : f.highest ≤ g.highest) {x : Floating}
    (h : f.has x = true) : g.has x = true := by
  cases x with
  | nan => rfl
  | infinite => rfl
  | finite negative significand exponent =>
    simp only [has, Bool.and_eq_true, decide_eq_true_eq] at h ⊢
    obtain ⟨⟨⟨hreduced, hbits⟩, hlow⟩, hhigh⟩ := h
    have hpow : 2 ^ f.precision ≤ 2 ^ g.precision := Nat.pow_le_pow_right (by omega) hprecision
    exact ⟨⟨⟨hreduced, by omega⟩, by omega⟩, by omega⟩

theorem double_has_of_single {x : Floating} (h : single.has x = true) : double.has x = true :=
  has_mono (by decide) (by decide) (by decide) h

end Format

/-! ### Values -/

/-- A value that a program keeps in a column of an object. Texts are made of UTF-16 units. -/
inductive Value where
  | null
  | boolean (b : Bool)
  | integer (n : Int)
  | floating (x : Floating)
  | text (units : List UInt16)
  | bytes (bs : List UInt8)
deriving DecidableEq, Repr, Inhabited

namespace ColumnType

/-- The size of the integers of a column type. -/
def bits? : ColumnType → Option Nat
  | short | shortObject => some 16
  | integer | integerObject => some 32
  | long | longObject => some 64
  | _ => none

/-- The format of the floating-point numbers of a column type. -/
def format? : ColumnType → Option Format
  | float | floatObject => some .single
  | double | doubleObject => some .double
  | _ => none

/-- The values of a column type. -/
def admits (t : ColumnType) : Value → Bool
  | .null => t.isNullable
  | .boolean _ => t = boolean || t = booleanObject
  | .integer n => t.bits?.any (inBits · n)
  | .floating x => t.format?.any (·.has x)
  | .text _ => t = string
  | .bytes _ => t = byteArray

/-- What a column holds in an object that has just been made. -/
def initial : ColumnType → Value
  | .boolean => .boolean false
  | .short | .integer | .long => .integer 0
  | .float | .double => .floating (.finite false 0 0)
  | _ => .null

theorem initial_of_isNullable {t : ColumnType} (h : t.isNullable = true) : t.initial = .null := by
  cases t <;> first | rfl | cases h

end ColumnType

/-! ### Cells -/

/-- What a row holds in a column. -/
inductive Cell where
  | null
  | integer (n : Int)
  | real (x : Floating)
  | text (units : List UInt16)
  | blob (bs : List UInt8)
deriving DecidableEq, Repr, Inhabited

namespace Cell

/-- The cell that keeps a value. -/
def of? : Value → Option Cell
  | .null => some .null
  | .boolean b => some (.integer (if b then 1 else 0))
  | .integer n => if inBits 64 n then some (.integer n) else none
  | .floating x => if Format.double.has x then some (.real x) else none
  | .text units => some (.text units)
  | .bytes bs => some (.blob bs)

/-- The size of the integers that a cursor method reads. -/
def bitsRead? (method : String) : Option Nat :=
  if method = "getShort" then some 16
  else if method = "getInt" then some 32
  else if method = "getLong" then some 64
  else none

/-- The format of the floating-point numbers that a cursor method reads. -/
def formatRead? (method : String) : Option Format :=
  if method = "getFloat" then some .single
  else if method = "getDouble" then some .double
  else none

/-- What a cursor method reads from a cell. -/
def read? (method : String) : Cell → Option Value
  | .null => none
  | .integer n => if (bitsRead? method).any (inBits · n) then some (.integer n) else none
  | .real x => if (formatRead? method).any (·.has x) then some (.floating x) else none
  | .text units => if method = "getString" then some (.text units) else none
  | .blob bs => if method = "getBlob" then some (.bytes bs) else none

theorem of?_eq_null {v : Value} : of? v = some .null ↔ v = .null := by
  cases v <;> simp [of?]

end Cell

variable {t : ColumnType} {v : Value} {cell : Cell}

/-- The integers and reals of cells have room for those of all column types. -/
theorem exists_cell_of_admits (h : t.admits v = true) : ∃ cell, Cell.of? v = some cell := by
  cases v with
  | null => exact ⟨_, rfl⟩
  | boolean b => exact ⟨_, rfl⟩
  | integer n =>
    obtain ⟨bits, hbits, hn⟩ := (Option.any_eq_true _ _).1 h
    have hle : bits ≤ 64 := by cases t <;> cases hbits <;> decide
    exact ⟨.integer n, if_pos (inBits_mono hle hn)⟩
  | floating x =>
    obtain ⟨format, hformat, hx⟩ := (Option.any_eq_true _ _).1 h
    have hdouble : Format.double.has x = true := by
      cases t <;> cases hformat
      · exact Format.double_has_of_single hx
      · exact Format.double_has_of_single hx
      · exact hx
      · exact hx
    exact ⟨.real x, if_pos hdouble⟩
  | text units => exact ⟨_, rfl⟩
  | bytes bs => exact ⟨_, rfl⟩

/-- What a cursor gives for a value: a truth value comes back as a number. -/
def Value.raw : Value → Value
  | .boolean b => .integer (if b then 1 else 0)
  | v => v

/-- The cursor method of a column type loses nothing of the values of the type. -/
theorem read?_of_admits (h : t.admits v = true) (hv : v ≠ .null) (hcell : Cell.of? v = some cell) :
    cell.read? t.cursorMethod = some v.raw := by
  cases v with
  | null => exact absurd rfl hv
  | boolean b =>
    cases hcell
    have hmethod : t.cursorMethod = "getInt" := by
      cases t <;> first | rfl | cases h
    rw [hmethod]
    cases b <;> rfl
  | integer n =>
    obtain ⟨-, hcell⟩ := Option.ite_none_right_eq_some.1 hcell
    cases hcell
    obtain ⟨bits, hbits, hn⟩ := (Option.any_eq_true _ _).1 h
    have hmethod : Cell.bitsRead? t.cursorMethod = some bits := by
      cases t <;> cases hbits <;> decide
    rw [Cell.read?, hmethod, Option.any_some, hn, if_pos rfl]
    rfl
  | floating x =>
    obtain ⟨-, hcell⟩ := Option.ite_none_right_eq_some.1 hcell
    cases hcell
    obtain ⟨format, hformat, hx⟩ := (Option.any_eq_true _ _).1 h
    have hmethod : Cell.formatRead? t.cursorMethod = some format := by
      cases t <;> cases hformat <;> rfl
    rw [Cell.read?, hmethod, Option.any_some, hx, if_pos rfl]
    rfl
  | text units =>
    cases hcell
    have ht : t = .string := by simpa [ColumnType.admits] using h
    rw [ht]
    rfl
  | bytes bs =>
    cases hcell
    have ht : t = .byteArray := by simpa [ColumnType.admits] using h
    rw [ht]
    rfl

end ResolverGen
