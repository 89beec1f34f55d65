import Mathlib.Algebra.Order.Floor.Semiring
import Mathlib.Algebra.Order.Field.Basic
import Mathlib.Tactic.Ring
import Mathlib.Tactic.Linarith

set_option relaxedAutoImplicit false
set_option autoImplicit false

/-!
# Bisection

A bisection narrows an interval: it tests the middle and goes on with the upper half if the middle
is below what is looked for, and else with the lower half. What holds of every point below holds of
the lower end in the end, and what holds of every other point holds of the upper end; nothing is
assumed about the order of the points for this.

## Main definitions

* `Bisect.Bracket` — an interval with its `mid`, its `width` and one step, `halve`.
* `Bisect.search` — a number of steps.

## Main results

* `Bisect.width_search` — the width after a number of steps.
* `Bisect.between_search` — what is known of the ends after a number of steps.
* `Bisect.exists_least_halvings` — the number of steps down to a tolerance.
-/

namespace Bisect

variable {K : Type*} [Field K]

/-- An interval. -/
structure Bracket (K : Type*) where
  lo : K
  hi : K

/-- The middle. -/
def Bracket.mid (b : Bracket K) : K := (b.lo + b.hi) / 2

/-- The width. -/
def Bracket.width (b : Bracket K) : K := b.hi - b.lo

/-- The upper half if the middle is below what is looked for, and else the lower half. -/
def Bracket.halve (b : Bracket K) (below : Prop) [Decidable below] : Bracket K :=
  if below then ⟨b.mid, b.hi⟩ else ⟨b.lo, b.mid⟩

/-- Halve the interval `n` times. -/
def search (below : K → Prop) [DecidablePred below] : ℕ → Bracket K → Bracket K
  | 0, b => b
  | n + 1, b => search below n (b.halve (below b.mid))

variable [LinearOrder K] [IsStrictOrderedRing K]

/-- A step halves the width. -/
lemma width_halve (b : Bracket K) (below : Prop) [Decidable below] :
    (b.halve below).width = b.width / 2 := by
  unfold Bracket.halve Bracket.width Bracket.mid
  split_ifs <;> ring

/-- The middle lies between the ends. -/
lemma mid_mem {b : Bracket K} (h : b.lo ≤ b.hi) : b.lo ≤ b.mid ∧ b.mid ≤ b.hi := by
  unfold Bracket.mid
  constructor <;> linarith

/-- The width after `n` steps. -/
lemma width_search (below : K → Prop) [DecidablePred below] (n : ℕ) (b : Bracket K) :
    (search below n b).width = b.width / 2 ^ n := by
  induction n generalizing b with
  | zero => rw [search, pow_zero, div_one]
  | succ n ih => rw [search, ih, width_halve, pow_succ', div_div]

/-- What is known of an interval: its ends are in order, and each has a property of its own. -/
structure Bracket.Between (b : Bracket K) (P Q : K → Prop) : Prop where
  le : b.lo ≤ b.hi
  lo : P b.lo
  hi : Q b.hi

/-- A step keeps what is known. -/
lemma Bracket.Between.halve {b : Bracket K} {P Q : K → Prop} (h : b.Between P Q) {below : Prop}
    [Decidable below] (hP : below → P b.mid) (hQ : ¬ below → Q b.mid) :
    (b.halve below).Between P Q := by
  obtain ⟨hlo, hhi⟩ := mid_mem h.le
  unfold Bracket.halve
  split_ifs with hbelow
  · exact ⟨hhi, hP hbelow, h.hi⟩
  · exact ⟨hlo, h.lo, hQ hbelow⟩

/-- **What is known of the ends after `n` steps**, if every point of the interval that is below has
the property of the lower end, and every other one that of the upper end. -/
lemma between_search {below : K → Prop} [DecidablePred below] {P Q : K → Prop} {l u : K}
    (hP : ∀ t, l ≤ t → t ≤ u → below t → P t) (hQ : ∀ t, l ≤ t → t ≤ u → ¬ below t → Q t) (n : ℕ)
    {b : Bracket K} (h : b.Between P Q) (hl : l ≤ b.lo) (hu : b.hi ≤ u) :
    (search below n b).Between P Q ∧ l ≤ (search below n b).lo ∧ (search below n b).hi ≤ u := by
  induction n generalizing b with
  | zero => exact ⟨h, hl, hu⟩
  | succ n ih =>
    obtain ⟨hlo, hhi⟩ := mid_mem h.le
    have hlm : l ≤ b.mid := hl.trans hlo
    have hmu : b.mid ≤ u := hhi.trans hu
    refine ih (h.halve (hP _ hlm hmu) (hQ _ hlm hmu)) ?_ ?_
    · unfold Bracket.halve
      split_ifs
      · exact hlm
      · exact hl
    · unfold Bracket.halve
      split_ifs
      · exact hu
      · exact hmu

/-- **The number of steps down to a tolerance**, with a bound for it. -/
lemma exists_least_halvings [FloorSemiring K] (w : K) {eps : K} (heps : 0 < eps) :
    ∃ n ≤ ⌈w / eps⌉₊, w / 2 ^ n ≤ eps ∧ ∀ m < n, eps < w / 2 ^ m := by
  classical
  have hreach : w / 2 ^ ⌈w / eps⌉₊ ≤ eps := by
    have hpow : ((⌈w / eps⌉₊ : ℕ) : K) ≤ 2 ^ ⌈w / eps⌉₊ := by
      exact_mod_cast Nat.lt_two_pow_self.le
    rw [div_le_iff₀ (by positivity), mul_comm, ← div_le_iff₀ heps]
    exact (Nat.le_ceil _).trans hpow
  have hex : ∃ n, w / 2 ^ n ≤ eps := ⟨_, hreach⟩
  exact ⟨Nat.find hex, Nat.find_min' hex hreach, Nat.find_spec hex,
    fun m hm => not_le.mp (Nat.find_min hex hm)⟩

end Bisect
