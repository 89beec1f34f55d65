import Aelkey.Lib.Crc
import Mathlib.Data.Fin.Basic

set_option relaxedAutoImplicit false
set_option autoImplicit false

/-!
# The checksum of `aelkey.util`

`source/aelkey_util.cc` has a table of 256 words, generated at compile time by eight steps of a
shift loop for each index, and computes the CRC-32 of a byte string by one lookup a byte.

## Main definitions

* `Aelkey.crc32Entry`, `Aelkey.crc32Table` — an entry of the table, and the table.
* `Aelkey.crc32`, `Aelkey.utilCrc32` — the checksum.
* `Aelkey.crc32Serial` — the reference: the reflected CRC-32, one bit at a time.

## Main results

* `Aelkey.crc32_eq_serial_and_append` — the checksum is that of the reference, for every seed, and
  the checksum of a part is the seed for the next.
-/

namespace Aelkey

/-- The polynomial, reflected. -/
def crc32Poly : BitVec 32 := 0xEDB88320#32

/-- One step of the loop of `crc32_entry`. -/
def crc32EntryStep (c : BitVec 32) : BitVec 32 :=
  if c &&& 1#32 ≠ 0#32 then crc32Poly ^^^ (c >>> 1) else c >>> 1

/-- `crc32_entry`. -/
def crc32Entry (i : ℕ) : BitVec 32 :=
  (List.range 8).foldl (fun c _ => crc32EntryStep c) (BitVec.ofNat 32 i)

/-- `make_crc32_table`. -/
def crc32Table : Vector (BitVec 32) 256 := Vector.ofFn fun i => crc32Entry i

/-- The index of a byte into the table is within its bounds. -/
lemma index_lt (c : BitVec 32) : (c &&& 0xFF#32).toNat < 256 := by
  rw [BitVec.toNat_and]
  exact Nat.lt_succ_of_le Nat.and_le_right

/-- The body of the loop of `crc32`, for the byte `b`. -/
def crc32Step (crc : BitVec 32) (b : UInt8) : BitVec 32 :=
  (crc >>> 8) ^^^
    crc32Table.get ⟨((crc ^^^ b.toBitVec.setWidth 32) &&& 0xFF#32).toNat, index_lt _⟩

/-- `crc32`, for the bytes of `data`. -/
def crc32 (data : List UInt8) (seed : BitVec 32) : BitVec 32 :=
  ~~~(data.foldl crc32Step (~~~seed))

/-- `util_crc32`. -/
def utilCrc32 (data : List UInt8) (seed : BitVec 32) : BitVec 32 := crc32 data seed

/-- The bits of a byte string in the order in which a reflected CRC takes them: the bytes one after
the other, each with its lowest bit first. -/
def bitsOf (data : List UInt8) : List Bool :=
  data.flatMap fun b => (List.range 8).map fun i => b.toBitVec.getLsbD i

/-- **The reference**: the bits are fed one by one into a register that is complemented before and
after. -/
def crc32Serial (data : List UInt8) (seed : BitVec 32) : BitVec 32 :=
  ~~~(Crc.serial crc32Poly (~~~seed) (bitsOf data))

/-! ## The table -/

/-- A step of the loop feeds a zero. -/
lemma crc32EntryStep_eq (c : BitVec 32) : crc32EntryStep c = Crc.shift crc32Poly c := by
  have hbit : c &&& 1#32 ≠ 0#32 ↔ c.getLsbD 0 = true := by
    rw [BitVec.and_one_eq_setWidth_ofBool_getLsbD]
    cases c.getLsbD 0 <;> decide
  unfold crc32EntryStep Crc.shift Crc.feedBit
  rw [if_congr hbit rfl rfl]
  cases c.getLsbD 0 <;> rfl

/-- An entry of the table is its index after eight zeros have been fed. -/
lemma crc32Entry_eq (i : ℕ) : crc32Entry i = Crc.shifts crc32Poly 8 (BitVec.ofNat 32 i) := by
  simp only [crc32Entry, crc32EntryStep_eq]
  rfl

/-- **A lookup** finds what eight zeros do to the low byte. -/
lemma crc32Table_get (c : BitVec 32) :
    crc32Table.get ⟨(c &&& 0xFF#32).toNat, index_lt c⟩ =
      Crc.shifts crc32Poly 8 (c &&& 0xFF#32) := by
  have hget : crc32Table.get ⟨(c &&& 0xFF#32).toNat, index_lt c⟩ =
      crc32Entry (c &&& 0xFF#32).toNat := by
    exact Vector.getElem_ofFn _
  rw [hget, crc32Entry_eq, BitVec.ofNat_toNat, BitVec.setWidth_eq]

/-! ## A byte -/

/-- The eight bits of a byte, as bits of the word it is widened to. -/
lemma lowBits_byte (b : UInt8) :
    Crc.lowBits 8 (b.toBitVec.setWidth 32) = (List.range 8).map fun i => b.toBitVec.getLsbD i := by
  simp [Crc.lowBits, List.range_succ]

/-- A byte has no more than eight bits. -/
lemma byte_shiftRight (b : UInt8) : b.toBitVec.setWidth 32 >>> 8 = 0#32 := by
  refine BitVec.eq_of_getLsbD_eq fun i hi => ?_
  rw [BitVec.getLsbD_ushiftRight, BitVec.getLsbD_setWidth,
    BitVec.getLsbD_of_ge b.toBitVec (8 + i) (by omega)]
  simp

/-- The mask of the index has the eight low bits. -/
lemma mask_getLsbD (i : ℕ) : (0xFF#32).getLsbD i = decide (i < 8) := by
  have hmask : (0xFF#32 : BitVec 32) = (BitVec.allOnes 8).setWidth 32 := by decide
  rw [hmask, BitVec.getLsbD_setWidth, BitVec.getLsbD_allOnes]
  by_cases h : i < 8
  · simp [h, show i < 32 by omega]
  · simp [h]

/-- **A lookup feeds a byte.** -/
lemma crc32Step_eq (crc : BitVec 32) (b : UInt8) :
    crc32Step crc b =
      Crc.serial crc32Poly crc ((List.range 8).map fun i => b.toBitVec.getLsbD i) := by
  have hmove : (crc ^^^ b.toBitVec.setWidth 32) >>> 8 = crc >>> 8 := by
    rw [BitVec.ushiftRight_xor_distrib, byte_shiftRight, BitVec.xor_zero]
  rw [← lowBits_byte, Crc.serial_lowBits crc32Poly crc (byte_shiftRight b),
    Crc.shifts_split crc32Poly mask_getLsbD, hmove, crc32Step, crc32Table_get]

/-! ## Byte strings -/

/-- The loop over the bytes feeds their bits. -/
lemma foldl_crc32Step (data : List UInt8) (crc : BitVec 32) :
    data.foldl crc32Step crc = Crc.serial crc32Poly crc (bitsOf data) := by
  induction data generalizing crc with
  | nil => rfl
  | cons b data ih =>
    have hbits : bitsOf (b :: data) =
        ((List.range 8).map fun i => b.toBitVec.getLsbD i) ++ bitsOf data := List.flatMap_cons
    rw [List.foldl_cons, ih, crc32Step_eq, hbits, Crc.serial_append]

/-- **The checksum is the bit-serial CRC-32, and can be chained.** For every byte string and every
seed it is the reflected CRC-32 computed one bit at a time, with the register complemented before
and after; and the checksum of two byte strings one after the other is that of the second with the
checksum of the first as its seed.

**Proof sketch.** A lookup does to the low byte of the register what feeding eight zeros does;
shifting is linear, so that the byte can be added before. Chaining complements the register
twice. -/
theorem crc32_eq_serial_and_append :
    (∀ data seed, utilCrc32 data seed = crc32Serial data seed) ∧
      ∀ a b seed, utilCrc32 (a ++ b) seed = utilCrc32 b (utilCrc32 a seed) := by
  constructor
  · intro data seed
    rw [utilCrc32, crc32, foldl_crc32Step, crc32Serial]
  · intro a b seed
    simp only [utilCrc32, crc32, List.foldl_append, BitVec.not_not]

/-- The check value of CRC-32: the checksum of the digits 1 to 9. -/
example : utilCrc32 [0x31, 0x32, 0x33, 0x34, 0x35, 0x36, 0x37, 0x38, 0x39] 0 = 0xCBF43926#32 := by
  decide +kernel

end Aelkey
