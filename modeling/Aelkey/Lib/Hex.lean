import Mathlib.Data.List.TakeWhile
import Mathlib.Data.Nat.Digits.Defs

set_option relaxedAutoImplicit false
set_option autoImplicit false

/-!
# Hexadecimal numbers in texts

Reading with `strtoul` in base 16, and writing with a minimal width of four digits, as lists of
characters.

## Main definitions

* `Hex.digit?` — the value of a hexadecimal digit.
* `Hex.strtoul` — the number at the beginning of a text.
* `Hex.format4` — a number with at least four digits, in lower or upper case.

## Main results

* `Hex.strtoul_of_digits` — reading a text of a few digits.
* `Hex.format4_upper_eq_iff` — the two cases agree on the numbers without a letter.
-/

namespace Hex

/-! ## Digits -/

/-- The value of a hexadecimal digit of either case. -/
def digit? (c : Char) : Option ℕ :=
  if 48 ≤ c.toNat ∧ c.toNat ≤ 57 then some (c.toNat - 48)
  else if 65 ≤ c.toNat ∧ c.toNat ≤ 70 then some (c.toNat - 55)
  else if 97 ≤ c.toNat ∧ c.toNat ≤ 102 then some (c.toNat - 87)
  else none

/-- A hexadecimal digit of either case. -/
def IsDigit (c : Char) : Prop := (digit? c).isSome

instance : DecidablePred IsDigit := fun c => inferInstanceAs (Decidable ((digit? c).isSome = true))

/-- The number that a list of digits stands for. -/
def value (s : List Char) : ℕ := s.foldl (fun acc c => acc * 16 + (digit? c).getD 0) 0

/-- The digit of a value below 16, in lower case. -/
def lowerDigit (d : ℕ) : Char := "0123456789abcdef".toList.getD d '0'

/-- The digit of a value below 16, in upper case. -/
def upperDigit (d : ℕ) : Char := "0123456789ABCDEF".toList.getD d '0'

/-- A digit is not one of the characters below `0`, nor a letter beyond `f`. -/
lemma IsDigit.toNat {c : Char} (h : IsDigit c) : 48 ≤ c.toNat ∧ c.toNat ≤ 102 := by
  unfold IsDigit digit? at h
  split_ifs at h with h₁ h₂ h₃
  · omega
  · omega
  · omega
  · cases h

/-- A digit has a value below 16. -/
lemma digit?_lt {c : Char} : (digit? c).getD 0 < 16 := by
  unfold digit?
  split_ifs with h₁ h₂ h₃
  · simp only [Option.getD_some]
    omega
  · simp only [Option.getD_some]
    omega
  · simp only [Option.getD_some]
    omega
  · simp

/-- The two cases of a digit agree on the values below ten. -/
lemma upperDigit_eq_lowerDigit {d : ℕ} (h : d < 16) : upperDigit d = lowerDigit d ↔ d ≤ 9 := by
  revert d
  decide

/-! ## Reading -/

/-- The characters that `strtoul` skips. -/
def isSpace (c : Char) : Bool := c.toNat = 32 || (9 ≤ c.toNat && c.toNat ≤ 13)

/-- The sign in front of a number: whether it is negative, and the rest. -/
def sign : List Char → Bool × List Char
  | '-' :: s => (true, s)
  | '+' :: s => (false, s)
  | s => (false, s)

/-- Skip `0x` in front of a digit. -/
def skipPrefix : List Char → List Char
  | '0' :: x :: c :: s =>
    if (x = 'x' ∨ x = 'X') ∧ IsDigit c then c :: s else '0' :: x :: c :: s
  | s => s

/-- `strtoul(s, nullptr, 16)` for an `unsigned long` of 64 bits: skip white space, a sign and `0x`,
and read the longest list of digits. A number that is too large is read as the largest one. -/
def strtoul (s : List Char) : ℕ :=
  let r := sign (s.dropWhile isSpace)
  let n := value ((skipPrefix r.2).takeWhile (fun c => IsDigit c))
  if 2 ^ 64 ≤ n then 2 ^ 64 - 1 else if r.1 then (2 ^ 64 - n) % 2 ^ 64 else n

/-- The conversion of an `unsigned long` to an `int` of 32 bits. -/
def toInt (n : ℕ) : ℤ := ((n : ℤ) + 2 ^ 31) % 2 ^ 32 - 2 ^ 31

/-- A list of digits stands for a number below the power of its length. -/
lemma value_lt (s : List Char) : value s < 16 ^ s.length := by
  have h : ∀ (s : List Char) (acc k : ℕ), acc < 16 ^ k →
      s.foldl (fun acc c => acc * 16 + (digit? c).getD 0) acc < 16 ^ (k + s.length) := by
    intro s
    induction s with
    | nil => exact fun acc k hacc => hacc
    | cons c s ih =>
      intro acc k hacc
      have hstep : acc * 16 + (digit? c).getD 0 < 16 ^ (k + 1) := by
        have hc := digit?_lt (c := c)
        rw [pow_succ]
        omega
      have hrest := ih _ (k + 1) hstep
      rw [List.foldl_cons, List.length_cons, Nat.add_comm s.length 1, ← Nat.add_assoc]
      exact hrest
  have hs := h s 0 0 (by norm_num)
  rwa [Nat.zero_add] at hs

/-- Nothing is skipped in front of a list of digits. -/
lemma strtoul_of_digits {s : List Char} (hs : ∀ c ∈ s, IsDigit c) (hlen : s.length ≤ 4) :
    strtoul s = value s := by
  have hspace : s.dropWhile isSpace = s := by
    cases s with
    | nil => rfl
    | cons c s =>
      have hc := (hs c (List.mem_cons_self ..)).toNat
      apply List.dropWhile_cons_of_neg
      simp only [isSpace, Bool.or_eq_true, Bool.and_eq_true, decide_eq_true_eq]
      omega
  have hsign : sign s = (false, s) := by
    cases s with
    | nil => rfl
    | cons c s =>
      have hc := (hs c (List.mem_cons_self ..)).toNat
      unfold sign
      split
      · next heq =>
        obtain ⟨rfl, -⟩ := List.cons.inj heq
        exact absurd hc (by decide)
      · next heq =>
        obtain ⟨rfl, -⟩ := List.cons.inj heq
        exact absurd hc (by decide)
      · rfl
  have hprefix : skipPrefix s = s := by
    unfold skipPrefix
    split
    · next x c t =>
      have hx := hs x (by simp)
      refine if_neg fun h => ?_
      rcases h.1 with rfl | rfl
      · exact absurd hx (by decide)
      · exact absurd hx (by decide)
    · rfl
  have htake : s.takeWhile (fun c => IsDigit c) = s :=
    List.takeWhile_eq_self_iff.mpr fun c hc => by simpa using hs c hc
  have hlt : value s < 16 ^ 4 := (value_lt s).trans_le (Nat.pow_le_pow_right (by norm_num) hlen)
  simp only [strtoul, hspace, hsign, hprefix, htake]
  rw [if_neg (by omega)]
  rfl

/-- A small number is converted to itself. -/
lemma toInt_of_lt {n : ℕ} (h : n < 2 ^ 31) : toInt n = n := by
  unfold toInt
  omega

/-! ## Writing -/

/-- The values of the last four digits of a number. -/
def lastDigits (n : ℕ) : List ℕ := [n / 4096 % 16, n / 256 % 16, n / 16 % 16, n % 16]

/-- A number in hexadecimal digits, filled with zeros to at least four of them. -/
def format4 (digit : ℕ → Char) (n : ℕ) : List Char :=
  ((Nat.digits 16 (n / 65536)).reverse ++ lastDigits n).map digit

/-- A number of 16 bits has four digits. -/
lemma format4_of_lt (digit : ℕ → Char) {n : ℕ} (h : n < 65536) :
    format4 digit n = (lastDigits n).map digit := by
  have hzero : n / 65536 = 0 := Nat.div_eq_of_lt h
  simp [format4, hzero]

/-- The digits of a number are below 16. -/
lemma lastDigits_lt {n d : ℕ} (h : d ∈ lastDigits n) : d < 16 := by
  simp only [lastDigits, List.mem_cons, List.not_mem_nil, or_false] at h
  rcases h with rfl | rfl | rfl | rfl <;> exact Nat.mod_lt _ (by norm_num)

/-- **The two cases agree** on a number of 16 bits iff it has no digit beyond 9. -/
lemma format4_upper_eq_iff {n : ℕ} (h : n < 65536) :
    format4 upperDigit n = format4 lowerDigit n ↔ ∀ d ∈ lastDigits n, d ≤ 9 := by
  rw [format4_of_lt _ h, format4_of_lt _ h]
  constructor
  · intro heq d hd
    exact (upperDigit_eq_lowerDigit (lastDigits_lt hd)).mp (List.map_inj_left.mp heq d hd)
  · intro hd
    exact List.map_congr_left fun d hmem =>
      (upperDigit_eq_lowerDigit (lastDigits_lt hmem)).mpr (hd d hmem)

end Hex
