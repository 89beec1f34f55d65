import Mathlib.Data.Rat.Floor
import Aelkey.Lib.Table
import Aelkey.Lib.Bisect

set_option relaxedAutoImplicit false
set_option autoImplicit false

/-!
# Easing

The easing part of `aelkey_filter.lua`: a channel moves from `init` to `target` in the course of
`duration`, along a shaping function. One function, `easing`, asks for the value of a channel,
resets the channel, or changes how it goes on, depending on which of its arguments are given.

## Main definitions

* `Aelkey.Easing.EaseFn` — shaping functions, with `easeLinear`, `easePoly`, `easeSmoothstep` and
  `easeSmootherstep`.
* `Aelkey.Easing.Channel`, `Aelkey.Easing.Args` — the record of a channel and the arguments of a
  call.
* `Aelkey.Easing.invertEase` — the bisection that looks for the time at which a shape has a value.
* `Aelkey.Easing.easing` — the function itself.

## Main results

* `Aelkey.Easing.Shaping` — a shaping function rises from zero to one; the instances do.
* `Aelkey.Easing.invertEase_spec` — the bisection ends, and encloses the value.

## Design

Numbers are rational, and an exponent is a natural number. `ease_exp` is left out: it is not
rational, and does not reach one. A call that raises an error, or a loop that does not end, is
`none`. The extra arguments of a call, which are handed to the shaping function, are one value of
the type `E`, if there are any. Divisions by zero are not modelled. The log is left out.
-/

namespace Aelkey.Easing

open Bisect

variable {E : Type}

/-! ## Shaping functions -/

/-- A shaping function takes a time and the extra arguments of the call. `none` is an error. -/
abbrev EaseFn (E : Type) := ℚ → Option E → Option ℚ

/-- `ease_linear`. -/
def easeLinear : EaseFn E := fun t _ => some t

/-- `ease_poly`. There is no arithmetic on an exponent that is `nil`. -/
def easePoly : EaseFn ℕ
  | t, some n => some (t ^ n)
  | _, none => none

/-- `ease_smoothstep`. -/
def easeSmoothstep : EaseFn E := fun t _ => some (t * t * (3 - 2 * t))

/-- `ease_smootherstep`. -/
def easeSmootherstep : EaseFn E := fun t _ => some (t * t * t * (t * (6 * t - 15) + 10))

/-! ## Inverting a shape -/

/-- The local variables of `invert_ease`. -/
structure Bisection where
  lo : ℚ := 0
  hi : ℚ := 1
  mid : ℚ := 0
  iter : ℕ := 0

/-- The body of the loop. -/
def bisectStep (fn : ℚ → Option ℚ) (y : ℚ) (s : Bisection) : Option Bisection :=
  let mid := 1 / 2 * (s.lo + s.hi)
  (fn mid).map fun v =>
    if v < y then { s with iter := s.iter + 1, mid := mid, lo := mid }
    else { s with iter := s.iter + 1, mid := mid, hi := mid }

/-- The loop, for at most `fuel` steps. -/
def invertLoop (fn : ℚ → Option ℚ) (y invEps : ℚ) : ℕ → Bisection → Option Bisection
  | 0, s => if invEps < s.hi - s.lo then none else some s
  | fuel + 1, s =>
    if invEps < s.hi - s.lo then (bisectStep fn y s).bind (invertLoop fn y invEps fuel) else some s

/-- `fn(t, ...)`. It is an error if there is no function. -/
def callFn (fn : Option (EaseFn E)) (extra : Option E) (t : ℚ) : Option ℚ := fn.bind (· t extra)

/-- `invert_ease`. It has no extra arguments to hand on. The loop ends within the given number of
steps, if it ends. -/
def invertEase (fn : Option (EaseFn E)) (y invEps : ℚ) : Option ℚ :=
  (invertLoop (callFn fn none) y invEps ⌈1 / invEps⌉₊ {}).map (·.mid)

/-- `compute_normalized`. -/
def computeNormalized (init target value : ℚ) : ℚ :=
  let span := target - init
  if span = 0 then 1 else (value - init) / span

/-! ## Channels -/

/-- The record of a channel. -/
structure Channel (E : Type) where
  init : ℚ
  target : ℚ
  duration : Option ℚ
  easeFn : Option (EaseFn E)
  invEps : ℚ
  startTime : ℚ
  lastTime : ℚ
  lastValue : ℚ

/-- The arguments of `easing`, apart from the id. -/
structure Args (E : Type) where
  target : Option ℚ := none
  init : Option ℚ := none
  duration : Option ℚ := none
  easeFn : Option (EaseFn E) := none
  invEps : Option ℚ := none
  extra : Option E := none

/-- The way in which a call ends: with an error, with `nil, nil`, or with a value and a time. -/
inductive Outcome
  | raised
  | nil
  | value (v dt : ℚ)
deriving DecidableEq

/-- `INV_EPS`. -/
def defaultInvEps : ℚ := 1 / 100000

/-- The direction for a target that is not binary. -/
def inferTarget (target pivot otherwise : ℚ) : ℚ :=
  if target ≠ 0 ∧ target ≠ 1 then
    if target > pivot then 1 else if target < pivot then 0 else otherwise
  else target

/-- The call asks for the value. -/
def Args.IsQuery (a : Args E) : Prop :=
  a.target.isNone ∧ a.init.isNone ∧ a.duration.isNone ∧ a.easeFn.isNone

instance (a : Args E) : Decidable a.IsQuery := inferInstanceAs (Decidable (_ ∧ _))

/-- `tnorm`, cut off at both ends. -/
def clampUnit (tnorm : ℚ) : ℚ :=
  let tnorm := if tnorm < 0 then 0 else tnorm
  if tnorm > 1 then 1 else tnorm

/-- A clamped time lies in the unit interval. -/
lemma clampUnit_mem (t : ℚ) : clampUnit t ∈ Set.Icc (0 : ℚ) 1 := by
  simp only [clampUnit]
  split_ifs <;> constructor <;> linarith

/-- A time in the unit interval is not clamped. -/
lemma clampUnit_of_mem {t : ℚ} (h : t ∈ Set.Icc (0 : ℚ) 1) : clampUnit t = t := by
  rw [clampUnit, if_neg (not_lt.mpr h.1), if_neg (not_lt.mpr h.2)]

/-- A query of a channel. -/
def query (c : Channel E) (tnow : ℚ) (extra : Option E) : Channel E × Outcome :=
  match c.duration, c.easeFn with
  | some duration, some easeFn =>
    let dt := tnow - c.lastTime
    let c := { c with lastTime := tnow }
    let tnorm := clampUnit ((tnow - c.startTime) / duration)
    match easeFn tnorm extra with
    | none => (c, .raised)
    | some y =>
      let value := c.init + (c.target - c.init) * y
      ({ c with lastValue := value }, .value value dt)
  | _, _ => (c, .nil)

/-- The channel after an initialisation or a reset. A target that is `nil` cannot be compared. -/
def initialise (c? : Option (Channel E)) (tnow init : ℚ) (a : Args E) : Option (Channel E) :=
  (a.target <|> c?.map (·.target)).map fun target =>
    { init := init
      target := inferTarget target init 1
      duration := a.duration <|> c?.bind (·.duration)
      easeFn := a.easeFn <|> c?.bind (·.easeFn)
      invEps := (a.invEps <|> c?.map (·.invEps)).getD defaultInvEps
      startTime := tnow
      lastTime := tnow
      lastValue := init }

/-- `new_target`. -/
def Channel.newTarget (c : Channel E) (a : Args E) : ℚ :=
  inferTarget (a.target.getD c.target) c.lastValue c.target

/-- `new_fn`. -/
def Channel.newFn (c : Channel E) (a : Args E) : Option (EaseFn E) := a.easeFn <|> c.easeFn

/-- `new_duration`. -/
def Channel.newDuration (c : Channel E) (a : Args E) : Option ℚ := a.duration <|> c.duration

/-- `new_inv_eps`. -/
def Channel.newInvEps (c : Channel E) (a : Args E) : ℚ := a.invEps.getD c.invEps

/-- The position of a channel that goes on, in the direction in which it goes on. -/
def Channel.norm (c : Channel E) (a : Args E) : ℚ :=
  let norm := computeNormalized c.init c.target c.lastValue
  if c.newTarget a ≠ c.target then 1 - norm else norm

/-- The channel after an update. -/
def update (c : Channel E) (tnow : ℚ) (a : Args E) : Option (Channel E) :=
  (invertEase (c.newFn a) (c.norm a) (c.newInvEps a)).bind fun t0 =>
    (c.newDuration a).map fun newDuration =>
      { init := c.lastValue
        target := c.newTarget a
        duration := some newDuration
        easeFn := c.newFn a
        invEps := c.newInvEps a
        startTime := tnow - t0 * newDuration
        lastTime := tnow
        lastValue := c.lastValue }

/-- `easing`, with the channels in `easing_state`. -/
def easing (st : Table String (Channel E)) (tnow : ℚ) (id : String) (a : Args E) :
    Table String (Channel E) × Outcome :=
  if a.IsQuery then
    match st.lookup id with
    | none => (st, .nil)
    | some c =>
      let (c, out) := query c tnow a.extra
      (st.insert id c, out)
  else
    match a.init with
    | some init =>
      match initialise (st.lookup id) tnow init a with
      | none => (st, .raised)
      | some c => (st.insert id c, .value init 0)
    | none =>
      match st.lookup id with
      | none => (st, .nil)
      | some c =>
        match update c tnow a with
        | none => (st, .raised)
        | some c' => (st.insert id c', .value c.lastValue 0)

/-! ## The bisection -/

/-- The interval that is left. -/
def Bisection.bracket (s : Bisection) : Bracket ℚ := ⟨s.lo, s.hi⟩

/-- What the loop keeps: it stays within the unit interval, and `mid` is an end of what is left. -/
structure Bisection.Inv (s : Bisection) : Prop where
  nonneg : 0 ≤ s.lo
  le : s.lo ≤ s.hi
  le_one : s.hi ≤ 1
  mid : s.mid = s.lo ∨ s.mid = s.hi

/-- The body halves the interval, and keeps the invariant. -/
lemma bisectStep_spec {fn : ℚ → Option ℚ} {f : ℚ → ℚ}
    (hf : ∀ t ∈ Set.Icc (0 : ℚ) 1, fn t = some (f t)) {s : Bisection} (hs : s.Inv) (y : ℚ) :
    ∃ s', bisectStep fn y s = some s' ∧ s'.Inv ∧ s'.iter = s.iter + 1 ∧
      s'.bracket = s.bracket.halve (f s.bracket.mid < y) := by
  have hmid : 1 / 2 * (s.lo + s.hi) = s.bracket.mid := by
    rw [Bracket.mid, Bisection.bracket]
    ring
  obtain ⟨hlo, hhi⟩ := mid_mem (b := s.bracket) hs.le
  have hnonneg : 0 ≤ s.bracket.mid := hs.nonneg.trans hlo
  have hle_one : s.bracket.mid ≤ 1 := hhi.trans hs.le_one
  simp only [bisectStep, Bracket.halve, hmid, hf _ ⟨hnonneg, hle_one⟩, Option.map_some]
  by_cases hbelow : f s.bracket.mid < y
  · rw [if_pos hbelow, if_pos hbelow]
    exact ⟨_, rfl, ⟨hnonneg, hhi, hs.le_one, .inl rfl⟩, rfl, rfl⟩
  · rw [if_neg hbelow, if_neg hbelow]
    exact ⟨_, rfl, ⟨hs.nonneg, hlo, hle_one, .inr rfl⟩, rfl, rfl⟩

/-- **The loop** ends after the least number of steps that reaches the tolerance, if it has fuel for
them. The interval is then the one that the bisection of the library finds. -/
lemma invertLoop_spec {fn : ℚ → Option ℚ} {f : ℚ → ℚ}
    (hf : ∀ t ∈ Set.Icc (0 : ℚ) 1, fn t = some (f t)) (y : ℚ) {eps : ℚ} {n fuel : ℕ}
    (hfuel : n ≤ fuel) {s : Bisection} (hs : s.Inv) (hn : s.bracket.width / 2 ^ n ≤ eps)
    (hleast : ∀ m < n, eps < s.bracket.width / 2 ^ m) :
    ∃ s', invertLoop fn y eps fuel s = some s' ∧ s'.Inv ∧ s'.iter = s.iter + n ∧
      s'.bracket = search (f · < y) n s.bracket := by
  induction n generalizing fuel s with
  | zero =>
    rw [pow_zero, div_one] at hn
    have hstop : ¬ eps < s.hi - s.lo := not_lt.mpr hn
    refine ⟨s, ?_, hs, rfl, rfl⟩
    cases fuel <;> rw [invertLoop, if_neg hstop]
  | succ n ih =>
    obtain ⟨fuel, rfl⟩ : ∃ k, fuel = k + 1 := ⟨fuel - 1, by omega⟩
    have hgo : eps < s.hi - s.lo := by
      simpa [Bracket.width, Bisection.bracket] using hleast 0 n.succ_pos
    obtain ⟨s₁, hstep, hs₁, hiter, hbracket⟩ := bisectStep_spec hf hs y
    have hwidth (m : ℕ) : s₁.bracket.width / 2 ^ m = s.bracket.width / 2 ^ (m + 1) := by
      rw [hbracket, width_halve, div_div, ← pow_succ']
    have hleast' (m : ℕ) (hm : m < n) : eps < s₁.bracket.width / 2 ^ m :=
      (hleast (m + 1) (Nat.succ_lt_succ hm)).trans_eq (hwidth m).symm
    obtain ⟨s', hloop, hs', hiter', hbracket'⟩ :=
      ih (Nat.le_of_succ_le_succ hfuel) hs₁ ((hwidth n).trans_le hn) hleast'
    refine ⟨s', ?_, hs', ?_, ?_⟩
    · rw [invertLoop, if_pos hgo, hstep]
      exact hloop
    · rw [hiter', hiter, Nat.add_right_comm, Nat.add_assoc]
    · rw [hbracket', hbracket, search]

/-- The invariant at the start. -/
lemma inv_start : ({} : Bisection).Inv := ⟨le_rfl, zero_le_one, le_rfl, .inl rfl⟩

/-- The time `t` inverts `f` at `y` up to `eps`: it is an end of an interval no longer than `eps`,
at whose ends `f` is on both sides of `y`, unless they are those of the unit interval. -/
def Inverts (f : ℚ → ℚ) (y eps t : ℚ) : Prop :=
  ∃ lo hi, (t = lo ∨ t = hi) ∧ 0 ≤ lo ∧ lo ≤ hi ∧ hi ≤ 1 ∧ hi - lo ≤ eps ∧
    (lo = 0 ∨ f lo < y) ∧ (hi = 1 ∨ y ≤ f hi)

/-- **The result of the bisection** inverts the function up to the tolerance. -/
lemma invertEase_spec {fn : Option (EaseFn E)} {f : ℚ → ℚ}
    (hf : ∀ t ∈ Set.Icc (0 : ℚ) 1, callFn fn none t = some (f t)) (y : ℚ) {eps : ℚ}
    (heps : 0 < eps) :
    ∃ t, invertEase fn y eps = some t ∧ Inverts f y eps t := by
  obtain ⟨n, hn, hreach, hleast⟩ := exists_least_halvings 1 heps
  have hwidth : ({} : Bisection).bracket.width = 1 := sub_zero 1
  have hreach' : ({} : Bisection).bracket.width / 2 ^ n ≤ eps := hwidth.symm ▸ hreach
  obtain ⟨s, hloop, hs, -, hbracket⟩ :=
    invertLoop_spec hf y hn inv_start hreach' (hwidth.symm ▸ hleast)
  have hbetween : s.bracket.Between (fun t => t = 0 ∨ f t < y) (fun t => t = 1 ∨ y ≤ f t) := by
    rw [hbracket]
    exact (between_search (fun _ _ _ h => .inr h) (fun _ _ _ h => .inr (not_lt.mp h)) n
      ⟨inv_start.le, .inl rfl, .inl rfl⟩ le_rfl le_rfl).1
  refine ⟨s.mid, ?_, s.lo, s.hi, hs.mid, hs.nonneg, hs.le, hs.le_one, ?_, hbetween.lo, hbetween.hi⟩
  · rw [invertEase, hloop]
    rfl
  · have hwidth' := width_search (f · < y) n ({} : Bisection).bracket
    rw [← hbracket] at hwidth'
    exact hwidth'.trans_le hreach'

/-- If the first call of the function raises an error, then there is no result. -/
lemma invertEase_eq_none {fn : Option (EaseFn E)} (hfn : callFn fn none (1 / 2) = none) (y : ℚ)
    {eps : ℚ} (hone : eps < 1) : invertEase fn y eps = none := by
  have hloop (fuel : ℕ) : invertLoop (callFn fn none) y eps fuel {} = none := by
    have hgo : eps < ({} : Bisection).hi - ({} : Bisection).lo := hone.trans_eq (sub_zero 1).symm
    have hmid : 1 / 2 * (({} : Bisection).lo + ({} : Bisection).hi) = 1 / 2 := by norm_num
    cases fuel with
    | zero => rw [invertLoop, if_pos hgo]
    | succ fuel =>
      rw [invertLoop, if_pos hgo]
      simp only [bisectStep, hmid, hfn, Option.map_none, Option.bind_none]
  rw [invertEase, hloop, Option.map_none]

/-! ## Shapes -/

/-- With these extra arguments the function is `f` on the unit interval, and rises from zero to one
there. -/
structure Shaping (fn : EaseFn E) (extra : Option E) (f : ℚ → ℚ) : Prop where
  eq : ∀ t ∈ Set.Icc (0 : ℚ) 1, fn t extra = some (f t)
  mono : MonotoneOn f (Set.Icc 0 1)
  zero : f 0 = 0
  one : f 1 = 1

/-- The values of a shape lie between zero and one. -/
lemma Shaping.mem {fn : EaseFn E} {extra : Option E} {f : ℚ → ℚ} (h : Shaping fn extra f) {t : ℚ}
    (ht : t ∈ Set.Icc (0 : ℚ) 1) : f t ∈ Set.Icc (0 : ℚ) 1 := by
  have hleft : (0 : ℚ) ∈ Set.Icc (0 : ℚ) 1 := Set.left_mem_Icc.mpr zero_le_one
  have hright : (1 : ℚ) ∈ Set.Icc (0 : ℚ) 1 := Set.right_mem_Icc.mpr zero_le_one
  exact ⟨h.zero ▸ h.mono hleft ht ht.1, h.one ▸ h.mono ht hright ht.2⟩

/-- The linear shape, with any extra arguments. -/
lemma shaping_easeLinear (extra : Option E) : Shaping easeLinear extra id where
  eq _ _ := rfl
  mono := monotone_id.monotoneOn _
  zero := rfl
  one := rfl

/-- The polynomial shape, whose exponent is an extra argument. -/
lemma shaping_easePoly {n : ℕ} (hn : n ≠ 0) : Shaping easePoly (some n) (· ^ n) where
  eq _ _ := rfl
  mono := fun _ ha _ _ hab => pow_le_pow_left₀ ha.1 hab n
  zero := zero_pow hn
  one := one_pow n

/-- Without an exponent `ease_poly` raises an error. -/
lemma easePoly_none (t : ℚ) : easePoly t none = none := rfl

/-- The smoothstep shape, with any extra arguments. -/
lemma shaping_easeSmoothstep (extra : Option E) :
    Shaping easeSmoothstep extra (fun t => t * t * (3 - 2 * t)) where
  eq _ _ := rfl
  mono := by
    intro a ha b hb hab
    -- nothing is negative in the difference if it is written in `a`, `d` and `e`
    obtain ⟨d, hd⟩ : ∃ d, d = b - a := ⟨_, rfl⟩
    obtain ⟨e, he⟩ : ∃ e, e = 1 - b := ⟨_, rfl⟩
    have ha0 : 0 ≤ a := ha.1
    have hd0 : 0 ≤ d := hd ▸ sub_nonneg.mpr hab
    have he0 : 0 ≤ e := he ▸ sub_nonneg.mpr hb.2
    have hdiff : b * b * (3 - 2 * b) - a * a * (3 - 2 * a) =
        3 * d ^ 2 * e + d ^ 3 + 6 * a * d * e + 3 * a * d ^ 2 := by
      rw [hd, he]
      ring
    exact sub_nonneg.mp (hdiff ▸ by positivity)
  zero := by norm_num
  one := by norm_num

/-- The smootherstep shape, with any extra arguments. -/
lemma shaping_easeSmootherstep (extra : Option E) :
    Shaping easeSmootherstep extra (fun t => t * t * t * (t * (6 * t - 15) + 10)) where
  eq _ _ := rfl
  mono := by
    intro a ha b hb hab
    obtain ⟨d, hd⟩ : ∃ d, d = b - a := ⟨_, rfl⟩
    obtain ⟨e, he⟩ : ∃ e, e = 1 - b := ⟨_, rfl⟩
    have ha0 : 0 ≤ a := ha.1
    have hd0 : 0 ≤ d := hd ▸ sub_nonneg.mpr hab
    have he0 : 0 ≤ e := he ▸ sub_nonneg.mpr hb.2
    have hdiff : b * b * b * (b * (6 * b - 15) + 10) - a * a * a * (a * (6 * a - 15) + 10) =
        10 * d ^ 3 * e ^ 2 + 5 * d ^ 4 * e + d ^ 5 +
          a * (30 * d ^ 2 * e ^ 2 + 20 * d ^ 3 * e + 5 * d ^ 4) +
          a ^ 2 * (30 * d * e ^ 2 + 30 * d ^ 2 * e + 10 * d ^ 3) := by
      rw [hd, he]
      ring
    exact sub_nonneg.mp (hdiff ▸ by positivity)
  zero := by norm_num
  one := by norm_num

end Aelkey.Easing
