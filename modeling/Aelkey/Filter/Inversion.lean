import Mathlib.Order.Bounds.Basic
import Mathlib.Order.Monotone.Defs
import Aelkey.Filter.Easing

set_option relaxedAutoImplicit false
set_option autoImplicit false

/-!
# Inverting a shape

What `invert_ease` says about a value: the bisection ends after the least number of halvings that
reaches the tolerance, with an interval around a preimage of the value, and its result is an end of
this interval. For a shape that does not fall, every other preimage is close to the result, or is
joined to the interval by a stretch on which the shape does not change.

## Main definitions

* `Aelkey.Easing.Enclosure` — an interval of a given width that encloses a value, and has the result
  as an end.

## Main results

* `Aelkey.Easing.Enclosure.near_or_flat` — where the preimages are.
* `Aelkey.Easing.invertEase_enclosure` — the number of steps, and the interval at the end.
-/

namespace Aelkey.Easing

open Bisect

variable {E : Type}

/-! ## What an interval around a value says -/

/-- An interval of the width `w` at whose ends `f` is on both sides of `y`. The result `r` is one of
the ends. -/
structure Enclosure (f : ℚ → ℚ) (y w r : ℚ) where
  lo : ℚ
  hi : ℚ
  nonneg : 0 ≤ lo
  le : lo ≤ hi
  le_one : hi ≤ 1
  width : hi - lo = w
  below : f lo ≤ y
  above : y ≤ f hi
  result : r = lo ∨ r = hi

/-- The function `f` is `y` all the way from `a` to `b`. -/
def FlatOn (f : ℚ → ℚ) (y a b : ℚ) : Prop := ∀ u ∈ Set.Icc a b, f u = y

/-- A function that does not fall, and is `y` at both ends of an interval, is `y` on all of it. -/
lemma FlatOn.of_ends {f : ℚ → ℚ} (hmono : MonotoneOn f (Set.Icc 0 1)) {y a b : ℚ} (ha : 0 ≤ a)
    (hb : b ≤ 1) (hfa : f a = y) (hfb : f b = y) : FlatOn f y a b := by
  intro u hu
  have hau : a ≤ u := hu.1
  have hub : u ≤ b := hu.2
  have hu01 : u ∈ Set.Icc (0 : ℚ) 1 := ⟨ha.trans hau, hub.trans hb⟩
  have hlower : f a ≤ f u := hmono ⟨ha, hau.trans hu01.2⟩ hu01 hau
  have hupper : f u ≤ f b := hmono hu01 ⟨hu01.1.trans hub, hb⟩ hub
  rw [hfa] at hlower
  rw [hfb] at hupper
  exact le_antisymm hupper hlower

namespace Enclosure

variable {f : ℚ → ℚ} {y w r : ℚ}

/-- The points of the interval are close to the result. -/
lemma abs_sub_le (e : Enclosure f y w r) {t : ℚ} (hlo : e.lo ≤ t) (hhi : t ≤ e.hi) :
    |t - r| ≤ w := by
  have hwidth : e.hi - e.lo = w := e.width
  rw [abs_le]
  obtain hr | hr := e.result
  · constructor <;> linarith
  · constructor <;> linarith

/-- **Where the preimages are** for a shape that does not fall: close to the result, or at the other
end of a flat stretch that begins at the interval. -/
lemma near_or_flat (e : Enclosure f y w r) (hmono : MonotoneOn f (Set.Icc 0 1)) {t : ℚ}
    (ht : t ∈ Set.Icc (0 : ℚ) 1) (hft : f t = y) :
    |t - r| ≤ w ∨ (t < e.lo ∧ FlatOn f y t e.lo) ∨ (e.hi < t ∧ FlatOn f y e.hi t) := by
  have hlo_mem : e.lo ∈ Set.Icc (0 : ℚ) 1 := ⟨e.nonneg, e.le.trans e.le_one⟩
  have hhi_mem : e.hi ∈ Set.Icc (0 : ℚ) 1 := ⟨e.nonneg.trans e.le, e.le_one⟩
  rcases lt_or_ge t e.lo with hlo | hlo
  · -- `f` has reached `y` at `t` already, and is not above it at `e.lo`
    right; left
    have hreach : y ≤ f e.lo := hft.symm.trans_le (hmono ht hlo_mem hlo.le)
    exact ⟨hlo, .of_ends hmono ht.1 hlo_mem.2 hft (le_antisymm e.below hreach)⟩
  rcases lt_or_ge e.hi t with hhi | hhi
  · right; right
    have hreach : f e.hi ≤ y := (hmono hhi_mem ht hhi.le).trans_eq hft
    exact ⟨hhi, .of_ends hmono hhi_mem.1 ht.2 (le_antisymm hreach e.above) hft⟩
  · left
    exact e.abs_sub_le hlo hhi

end Enclosure

/-! ## The loop -/

/-- More fuel does not change the result of the loop. -/
lemma invertLoop_mono {fn : ℚ → Option ℚ} {y eps : ℚ} {fuel more : ℕ} (hle : fuel ≤ more)
    {s s' : Bisection} (h : invertLoop fn y eps fuel s = some s') :
    invertLoop fn y eps more s = some s' := by
  induction fuel generalizing more s with
  | zero =>
    by_cases hgo : eps < s.hi - s.lo
    · rw [invertLoop, if_pos hgo] at h
      cases h
    · rw [invertLoop, if_neg hgo] at h
      cases more <;> rw [invertLoop, if_neg hgo, h]
  | succ fuel ih =>
    obtain ⟨more, rfl⟩ : ∃ k, more = k + 1 := ⟨more - 1, by omega⟩
    rw [invertLoop] at h ⊢
    by_cases hgo : eps < s.hi - s.lo
    · rw [if_pos hgo] at h ⊢
      obtain ⟨s₁, hstep, hrest⟩ := Option.bind_eq_some_iff.mp h
      rw [hstep]
      exact ih (Nat.le_of_succ_le_succ hle) hrest
    · rw [if_neg hgo] at h ⊢
      exact h

/-- The interval of a bisection that began with the unit interval encloses the value, if the
function has it between its ends. -/
def Bisection.enclosure {f : ℚ → ℚ} {y : ℚ} (hzero : f 0 ≤ y) (hone : y ≤ f 1) {n : ℕ}
    {s : Bisection} (hs : s.Inv)
    (hsearch : s.bracket = search (f · < y) n ({} : Bisection).bracket) :
    Enclosure f y (1 / 2 ^ n) s.mid :=
  have hstart : ({} : Bisection).bracket.Between (f · ≤ y) (y ≤ f ·) :=
    ⟨inv_start.le, hzero, hone⟩
  have hbetween : s.bracket.Between (f · ≤ y) (y ≤ f ·) := by
    rw [hsearch]
    exact (between_search (fun _ _ _ h => le_of_lt h) (fun _ _ _ h => not_lt.mp h) n hstart
      le_rfl le_rfl).1
  have hwidth : s.bracket.width = 1 / 2 ^ n := by
    rw [hsearch, width_search]
    exact congrArg (· / 2 ^ n) (sub_zero (1 : ℚ))
  { lo := s.lo
    hi := s.hi
    nonneg := hs.nonneg
    le := hs.le
    le_one := hs.le_one
    width := hwidth
    below := hbetween.lo
    above := hbetween.hi
    result := hs.mid }

/-- **The bisection of `invert_ease`.** It ends after exactly the least number of steps that reaches
the tolerance, whatever further fuel there is. The result is an end of an interval around the value,
and tells every preimage of a shape that does not fall, up to the tolerance and flat stretches. -/
theorem invertEase_enclosure {fn : Option (EaseFn E)} {f : ℚ → ℚ}
    (hf : ∀ t ∈ Set.Icc (0 : ℚ) 1, callFn fn none t = some (f t)) {y eps : ℚ} (hzero : f 0 ≤ y)
    (hone : y ≤ f 1) (heps : 0 < eps) :
    ∃ n : ℕ, IsLeast {m : ℕ | 1 / 2 ^ m ≤ eps} n ∧ ∃ s : Bisection,
      (∀ fuel, n ≤ fuel → invertLoop (callFn fn none) y eps fuel {} = some s) ∧ s.iter = n ∧
      invertEase fn y eps = some s.mid ∧
      ∃ e : Enclosure f y (1 / 2 ^ n) s.mid, MonotoneOn f (Set.Icc 0 1) →
        ∀ t ∈ Set.Icc (0 : ℚ) 1, f t = y →
          |t - s.mid| ≤ eps ∨ (t < e.lo ∧ FlatOn f y t e.lo) ∨ (e.hi < t ∧ FlatOn f y e.hi t) := by
  obtain ⟨n, hbound, hreach, hleast⟩ := exists_least_halvings 1 heps
  have hwidth : ({} : Bisection).bracket.width = 1 := sub_zero 1
  obtain ⟨s, hloop, hs, hiter, hsearch⟩ := invertLoop_spec hf y le_rfl inv_start
    (hwidth.symm ▸ hreach) (hwidth.symm ▸ hleast)
  have hfuel (fuel : ℕ) (h : n ≤ fuel) : invertLoop (callFn fn none) y eps fuel {} = some s :=
    invertLoop_mono h hloop
  refine ⟨n, ⟨hreach, ?_⟩, s, hfuel, ?_, ?_, s.enclosure hzero hone hs hsearch, ?_⟩
  · intro m hm
    by_contra hlt
    exact absurd hm (not_le.mpr (hleast m (not_le.mp hlt)))
  · rw [hiter]
    exact Nat.zero_add n
  · rw [invertEase, hfuel _ hbound]
    rfl
  · intro hmono t ht hft
    obtain hnear | hflat := (s.enclosure hzero hone hs hsearch).near_or_flat hmono ht hft
    · exact .inl (hnear.trans hreach)
    · exact .inr hflat

/-- The smoothstep easing is inverted at one half with a tolerance of one quarter. -/
theorem invertEase_enclosure_smoothstep :
    ∃ n : ℕ, IsLeast {m : ℕ | 1 / 2 ^ m ≤ (1 / 4 : ℚ)} n ∧ ∃ s : Bisection, s.iter = n ∧
      invertEase (some (easeSmoothstep : EaseFn Unit)) (1 / 2) (1 / 4) = some s.mid ∧
      Nonempty (Enclosure (fun t => t * t * (3 - 2 * t)) (1 / 2) (1 / 2 ^ n) s.mid) := by
  let f : ℚ → ℚ := fun t => t * t * (3 - 2 * t)
  have hf : ∀ t ∈ Set.Icc (0 : ℚ) 1,
      callFn (some (easeSmoothstep : EaseFn Unit)) none t = some (f t) := fun _ _ => rfl
  have hzero : f 0 ≤ 1 / 2 := by norm_num [f]
  have hone : 1 / 2 ≤ f 1 := by norm_num [f]
  have heps : (0 : ℚ) < 1 / 4 := by norm_num
  obtain ⟨n, hn, s, -, hiter, hresult, e, -⟩ := invertEase_enclosure hf hzero hone heps
  exact ⟨n, hn, s, hiter, hresult, ⟨e⟩⟩

end Aelkey.Easing
