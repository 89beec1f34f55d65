import Mathlib.Algebra.Ring.Basic
import Mathlib.Algebra.GroupWithZero.Basic
import Mathlib.Data.List.Basic
import Mathlib.Tactic.Ring

set_option relaxedAutoImplicit false
set_option autoImplicit false

/-!
# Exponential smoothing

A stage of exponential smoothing moves its output towards the input by the fraction `α` of the
distance. Its first output is the first input. Two stages in a row make a filter with two poles.
The question of this file is when the second stage makes a difference.

## Main definitions

* `Ema.smooth`, `Ema.stage` — one output, and all outputs of a stage.
* `Ema.cascade` — two stages in a row.
* `Ema.Constant`, `Ema.FirstChange` — inputs that do not change, and the first one that does.

## Main results

* `Ema.cascade_eq_stage_iff` — the second stage makes no difference iff `α` is `0` or `1` or the
  inputs do not change.
-/

namespace Ema

variable {K : Type*}

/-- The inputs do not change. -/
def Constant : List K → Prop
  | [] => True
  | x :: xs => ∀ y ∈ xs, y = x

/-- The input at `k` is the first one that differs from the input at the start. -/
def FirstChange (xs : List K) (k : ℕ) : Prop :=
  (∃ x, xs[k]? = some x ∧ xs.head? ≠ some x) ∧ ∀ j < k, xs[j]? = xs.head?

/-- Inputs that do not change have no first change. -/
lemma Constant.not_firstChange {xs : List K} (h : Constant xs) (k : ℕ) : ¬ FirstChange xs k := by
  intro ⟨⟨x, hx, hne⟩, _⟩
  cases xs with
  | nil => cases hx
  | cons y ys =>
    apply hne
    cases k with
    | zero => exact hx
    | succ k =>
      have hmem : x ∈ ys := List.mem_of_getElem? hx
      rw [h x hmem, List.head?_cons]

variable [CommRing K] (α : K)

/-- The output for the input `new`, after `prev` or as the first one. -/
def smooth : Option K → K → K
  | none, new => new
  | some prev, new => prev + α * (new - prev)

/-- The outputs of a stage after the output `prev?`. -/
def stageFrom : Option K → List K → List K
  | _, [] => []
  | prev?, x :: xs => smooth α prev? x :: stageFrom (some (smooth α prev? x)) xs

/-- The outputs of a stage. -/
def stage (xs : List K) : List K := stageFrom α none xs

/-- The outputs of the second of two stages. -/
def cascade (xs : List K) : List K := stage α (stage α xs)

section NoZeroDivisors

variable [NoZeroDivisors K] {α}

/-- The output stays where it is. -/
lemma smooth_eq_prev_iff {prev new : K} :
    smooth α (some prev) new = prev ↔ α = 0 ∨ new = prev := by
  rw [smooth, add_eq_left, mul_eq_zero, sub_eq_zero]

/-- The output is the input. -/
lemma smooth_eq_new_iff {prev new : K} :
    smooth α (some prev) new = new ↔ α = 1 ∨ new = prev := by
  have hdiff : smooth α (some prev) new - new = (α - 1) * (new - prev) := by
    rw [smooth]
    ring
  rw [← sub_eq_zero, hdiff, mul_eq_zero, sub_eq_zero, sub_eq_zero]

/-- The outputs stay where they are. -/
lemma forall_stageFrom_eq_iff {prev : K} {xs : List K} :
    (∀ y ∈ stageFrom α (some prev) xs, y = prev) ↔ α = 0 ∨ ∀ x ∈ xs, x = prev := by
  induction xs with
  | nil => simp [stageFrom]
  | cons x xs ih =>
    rw [stageFrom, List.forall_mem_cons, List.forall_mem_cons, smooth_eq_prev_iff]
    constructor
    · intro ⟨hhead, htail⟩
      rw [smooth_eq_prev_iff.mpr hhead, ih] at htail
      tauto
    · intro h
      have hhead : α = 0 ∨ x = prev := h.imp_right And.left
      refine ⟨hhead, ?_⟩
      rw [smooth_eq_prev_iff.mpr hhead, ih]
      exact h.imp_right And.right

/-- The outputs are the inputs. -/
lemma stageFrom_eq_self_iff {prev : K} {xs : List K} :
    stageFrom α (some prev) xs = xs ↔ α = 1 ∨ ∀ x ∈ xs, x = prev := by
  induction xs generalizing prev with
  | nil => simp [stageFrom]
  | cons x xs ih =>
    rw [stageFrom, List.cons_eq_cons, List.forall_mem_cons, smooth_eq_new_iff]
    constructor
    · intro ⟨hhead, htail⟩
      rw [ih] at htail
      obtain hone | rfl := hhead
      · exact .inl hone
      · rw [smooth_eq_new_iff.mpr (.inr rfl)] at htail
        exact htail.imp_right (And.intro rfl)
    · intro h
      have hhead : α = 1 ∨ x = prev := h.imp_right And.left
      refine ⟨hhead, ih.mpr ?_⟩
      rw [smooth_eq_new_iff.mpr hhead]
      exact h.imp_right fun ⟨hx, hxs⟩ y hy => (hxs y hy).trans hx.symm

/-- **When the second stage makes no difference.** -/
theorem cascade_eq_stage_iff {xs : List K} :
    cascade α xs = stage α xs ↔ α = 0 ∨ α = 1 ∨ Constant xs := by
  cases xs with
  | nil => simp [cascade, stage, stageFrom, Constant]
  | cons x xs =>
    -- both stages begin with `x`
    have hstage : stage α (x :: xs) = x :: stageFrom α (some x) xs := rfl
    have hcascade : cascade α (x :: xs) =
        x :: stageFrom α (some x) (stageFrom α (some x) xs) := rfl
    rw [hstage, hcascade, List.cons_eq_cons, stageFrom_eq_self_iff, forall_stageFrom_eq_iff,
      Constant]
    tauto

end NoZeroDivisors

end Ema
