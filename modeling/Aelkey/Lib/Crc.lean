import Mathlib.Data.List.Basic
import Mathlib.Data.BitVec

set_option relaxedAutoImplicit false
set_option autoImplicit false

/-!
# Reflected cyclic redundancy checks

The register of a reflected CRC of width `w` is fed one bit at a time: it is shifted down, and the
polynomial is added if the bit that leaves the register differs from the bit that is fed. Shifting
is linear in exclusive or, so that several bits can be added to the register at once before it is
shifted, and the effect of the low bits of the register can be looked up in a table.

## Main definitions

* `Crc.feedBit`, `Crc.serial` — feed one bit, and a list of bits.
* `Crc.shift`, `Crc.shifts` — feed zeros.
* `Crc.lowBits` — the bits of a word, the lowest first.

## Main results

* `Crc.shift_xor`, `Crc.shifts_xor` — shifting is linear.
* `Crc.serial_lowBits` — feeding the low bits of a word is adding the word and shifting.
* `Crc.shifts_split` — shifting splits into what the low bits do and a move of the rest.
-/

namespace Crc

variable {w : ℕ} (poly : BitVec w)

/-- Feed one bit: the register is shifted, and the polynomial is added if the bit that leaves
differs from the one that is fed. -/
def feedBit (c : BitVec w) (b : Bool) : BitVec w :=
  if c.getLsbD 0 = b then c >>> 1 else poly ^^^ (c >>> 1)

/-- Feed the bits of a list. -/
def serial (c : BitVec w) (bits : List Bool) : BitVec w := bits.foldl (feedBit poly) c

/-- Feed a zero. -/
def shift (c : BitVec w) : BitVec w := feedBit poly c false

/-- Feed `k` zeros. -/
def shifts (k : ℕ) (c : BitVec w) : BitVec w := (shift poly)^[k] c

/-- The `k` low bits of a word, the lowest first. -/
def lowBits : ℕ → BitVec w → List Bool
  | 0, _ => []
  | k + 1, x => x.getLsbD 0 :: lowBits k (x >>> 1)

/-- Feeding one list after another. -/
lemma serial_append (c : BitVec w) (bits bits' : List Bool) :
    serial poly c (bits ++ bits') = serial poly (serial poly c bits) bits' := List.foldl_append

/-! ## Shifting is linear -/

/-- The polynomial is added according to the bit that leaves. -/
lemma shift_eq (c : BitVec w) :
    shift poly c = (c >>> 1) ^^^ if c.getLsbD 0 then poly else 0#w := by
  unfold shift feedBit
  cases c.getLsbD 0
  · simp
  · simp [BitVec.xor_comm]

/-- Exclusive or in another order. -/
lemma xor_xor_xor_comm (a b c d : BitVec w) :
    (a ^^^ b) ^^^ (c ^^^ d) = (a ^^^ c) ^^^ (b ^^^ d) := by
  rw [BitVec.xor_assoc, BitVec.xor_assoc, ← BitVec.xor_assoc b c d, BitVec.xor_comm b c,
    BitVec.xor_assoc]

/-- **Shifting is linear.** -/
lemma shift_xor (a b : BitVec w) : shift poly (a ^^^ b) = shift poly a ^^^ shift poly b := by
  have hpoly : (if (a ^^^ b).getLsbD 0 then poly else 0#w) =
      (if a.getLsbD 0 then poly else 0#w) ^^^ if b.getLsbD 0 then poly else 0#w := by
    rw [BitVec.getLsbD_xor]
    cases a.getLsbD 0 <;> cases b.getLsbD 0 <;> simp
  rw [shift_eq, shift_eq, shift_eq, hpoly, BitVec.ushiftRight_xor_distrib, xor_xor_xor_comm]

/-- Shifting several times is linear. -/
lemma shifts_xor (k : ℕ) (a b : BitVec w) :
    shifts poly k (a ^^^ b) = shifts poly k a ^^^ shifts poly k b := by
  induction k generalizing a b with
  | zero => rfl
  | succ k ih => exact (congrArg (shifts poly k) (shift_xor poly a b)).trans (ih _ _)

/-- Feeding a bit is adding it to the lowest bit of the register and shifting: whatever is added,
only its lowest bit counts, and the rest of it is shifted along. -/
lemma shift_add (c x : BitVec w) :
    shift poly (c ^^^ x) = feedBit poly c (x.getLsbD 0) ^^^ (x >>> 1) := by
  have hlow : shift poly c ^^^ (if x.getLsbD 0 then poly else 0#w) =
      feedBit poly c (x.getLsbD 0) := by
    unfold shift feedBit
    have hcancel : poly ^^^ (c >>> 1) ^^^ poly = c >>> 1 := by
      rw [BitVec.xor_comm poly, BitVec.xor_assoc, BitVec.xor_self, BitVec.xor_zero]
    cases c.getLsbD 0 <;> cases x.getLsbD 0
    · simp
    · simp [BitVec.xor_comm poly]
    · simp
    · exact hcancel
  rw [shift_xor, shift_eq poly x, BitVec.xor_comm (x >>> 1), ← BitVec.xor_assoc, hlow]

/-! ## Several bits at once -/

/-- **Feeding the low bits of a word** is adding the word to the register and shifting, if the word
has no further bits. -/
lemma serial_lowBits {k : ℕ} (c : BitVec w) {x : BitVec w} (hx : x >>> k = 0#w) :
    serial poly c (lowBits k x) = shifts poly k (c ^^^ x) := by
  induction k generalizing c x with
  | zero =>
    have hzero : x = 0#w := by simpa using hx
    rw [hzero, BitVec.xor_zero]
    rfl
  | succ k ih =>
    have hrest : (x >>> 1) >>> k = 0#w := by
      rw [← BitVec.shiftRight_add, Nat.add_comm]
      exact hx
    calc
      serial poly c (lowBits (k + 1) x) =
          serial poly (feedBit poly c (x.getLsbD 0)) (lowBits k (x >>> 1)) := rfl
      _ = shifts poly k (feedBit poly c (x.getLsbD 0) ^^^ (x >>> 1)) := ih _ hrest
      _ = shifts poly k (shift poly (c ^^^ x)) := by rw [shift_add]

/-- A register whose low bits are zero moves down. -/
lemma shifts_of_low_zero {k : ℕ} {c : BitVec w} (hc : ∀ i < k, c.getLsbD i = false) :
    shifts poly k c = c >>> k := by
  induction k generalizing c with
  | zero => simp [shifts]
  | succ k ih =>
    have hshift : shift poly c = c >>> 1 := by
      rw [shift_eq, hc 0 (Nat.succ_pos k)]
      simp
    have hnext : ∀ i < k, (c >>> 1).getLsbD i = false := fun i hi => by
      rw [BitVec.getLsbD_ushiftRight]
      exact hc (1 + i) (by omega)
    calc
      shifts poly (k + 1) c = shifts poly k (shift poly c) := rfl
      _ = (c >>> 1) >>> k := by rw [hshift, ih hnext]
      _ = c >>> (k + 1) := by rw [← BitVec.shiftRight_add, Nat.add_comm]

/-- **Shifting splits** into what the bits of a mask do to the register and a move of the rest, if
the mask has the `k` low bits. -/
lemma shifts_split {k : ℕ} {mask : BitVec w} (hmask : ∀ i, mask.getLsbD i = decide (i < k))
    (c : BitVec w) : shifts poly k c = (c >>> k) ^^^ shifts poly k (c &&& mask) := by
  have hsplit : c = (c &&& ~~~mask) ^^^ (c &&& mask) := by
    refine BitVec.eq_of_getLsbD_eq fun i hi => ?_
    simp only [BitVec.getLsbD_xor, BitVec.getLsbD_and, BitVec.getLsbD_not, hi, hmask]
    cases c.getLsbD i <;> simp
  have hlow : ∀ i < k, (c &&& ~~~mask).getLsbD i = false := fun i hi => by
    simp [hmask, hi]
  have hhigh : (c &&& ~~~mask) >>> k = c >>> k := by
    refine BitVec.eq_of_getLsbD_eq fun i hi => ?_
    simp only [BitVec.getLsbD_ushiftRight, BitVec.getLsbD_and, BitVec.getLsbD_not, hmask]
    by_cases h : k + i < w
    · simp [h]
    · simp [BitVec.getLsbD_of_ge c (k + i) (Nat.not_lt.mp h)]
  calc
    shifts poly k c = shifts poly k ((c &&& ~~~mask) ^^^ (c &&& mask)) := by rw [← hsplit]
    _ = shifts poly k (c &&& ~~~mask) ^^^ shifts poly k (c &&& mask) := shifts_xor ..
    _ = (c >>> k) ^^^ shifts poly k (c &&& mask) := by rw [shifts_of_low_zero poly hlow, hhigh]

end Crc
