import Mathlib.Data.Rat.Floor

set_option relaxedAutoImplicit false
set_option autoImplicit false

/-!
# Numbers that are read as integers

A function with an `int` parameter may be called from a language that has one type of numbers. The
binding between the two converts the argument. A whole number in range is taken as it is; how a
fraction, or a number out of range, is read is up to the binding, and a positive number may well be
read as zero.

## Main definitions

* `IntArg` — a conversion of numbers to 32-bit integers.
* `IntArg.toInt` — the value that the function gets.
* `IntArg.nearest` — the conversion to the nearest integer.

## Main results

* `IntArg.toInt_zero` — zero is read as zero.
-/

/-- How a binding reads a number as an `int`: a whole number in range as it is. -/
structure IntArg where
  read : ℚ → Int32
  read_toInt : ∀ n : Int32, read (n.toInt : ℚ) = n

namespace IntArg

/-- The value that a function gets for a number. -/
def toInt (conv : IntArg) (q : ℚ) : ℤ := (conv.read q).toInt

/-- Zero is read as zero. -/
@[simp]
lemma toInt_zero (conv : IntArg) : conv.toInt 0 = 0 :=
  congrArg Int32.toInt (conv.read_toInt 0)

/-- The integer next to a number; of two, the one further away from zero. -/
def round (q : ℚ) : ℤ := if 0 ≤ q then ⌊q + 1 / 2⌋ else ⌈q - 1 / 2⌉

/-- A whole number is next to itself. -/
lemma round_intCast (n : ℤ) : round (n : ℚ) = n := by
  rw [round]
  split_ifs
  · rw [Int.floor_intCast_add]
    norm_num
  · rw [sub_eq_add_neg, Int.ceil_intCast_add]
    norm_num

/-- The conversion to the nearest integer, which keeps the lower 32 bits. -/
def nearest : IntArg where
  read q := Int32.ofInt (round q)
  read_toInt n := by
    rw [round_intCast]
    exact Int32.ofInt_toInt n

end IntArg
