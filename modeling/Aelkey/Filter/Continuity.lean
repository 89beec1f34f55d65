import Mathlib.Tactic.Positivity
import Aelkey.Filter.Easing
import Aelkey.Lib.Run

set_option relaxedAutoImplicit false
set_option autoImplicit false

/-!
# Updates of a channel in motion

An update of an easing channel takes the value at which the channel is as the new `init`, so that
the channel sets out from there; but it also moves the start time back by the time at which the
shape has covered the way so far, as if the channel still came from the old `init`. The way so far
is counted twice, and the channel jumps ahead, unless it is at rest at one of the ends of its way.
The time is found by a bisection that calls the shaping function without the extra arguments.

## Main definitions

* `Aelkey.Easing.Session`, `Aelkey.Easing.easingStep` — the channels under calls of `easing`, with
  the values returned last.
* `Aelkey.Easing.Legal` — the calls that are considered.
* `Aelkey.Easing.NoJump` — an update does not raise an error, and the channel goes on from where it
  was.
* `Aelkey.Easing.AtRest` — an update finds the channel at an end of its way.

## Main results

* `Aelkey.Easing.Session.Inv` — the invariant of all channels.
* `Aelkey.Easing.noJump_of_atRest` — a run in which all updates find their channels at rest.
* `Aelkey.Easing.atRest_iff_forall_noJump` — for shapes without jumps, no other update goes on from
  where the channel was whatever the tolerance is.
* `Aelkey.Easing.not_noJump_linear` — an update halfway.
-/

namespace Aelkey.Easing

variable {E : Type}

/-! ## Sessions -/

/-- The channels, and for each the value that the last call has returned. -/
structure Session (E : Type) where
  channels : Table String (Channel E) := ∅
  returned : Table String ℚ := ∅

/-- A call of `easing` at the time `now`. -/
structure Action (E : Type) where
  id : String
  now : ℚ
  args : Args E

/-- One call. -/
def easingStep (s : Session E) (a : Action E) : Session E :=
  match easing s.channels a.now a.id a.args with
  | (channels, .value v _) => { channels := channels, returned := s.returned.insert a.id v }
  | (channels, _) => { s with channels := channels }

/-- The call is an update. -/
def Args.IsUpdate (a : Args E) : Prop := ¬ a.IsQuery ∧ a.init = none

/-- The calls that are considered: durations are positive, tolerances lie between zero and one, a
channel starts between zero and one with a target of its own or an older one, and a function that is
called or taken over is a shape with the extra arguments of the call. -/
structure Legal (s : Session E) (a : Action E) : Prop where
  duration : ∀ d, a.args.duration = some d → 0 < d
  invEps : ∀ eps, a.args.invEps = some eps → 0 < eps ∧ eps < 1
  init : ∀ v, a.args.init = some v →
    v ∈ Set.Icc (0 : ℚ) 1 ∧ (a.args.target = none → a.id ∈ s.channels)
  query : a.args.IsQuery → ∀ c fn, s.channels.lookup a.id = some c → c.easeFn = some fn →
    ∃ f, Shaping fn a.args.extra f
  update : a.args.IsUpdate → ∀ c, s.channels.lookup a.id = some c →
    (∃ d, c.newDuration a.args = some d) ∧
      ∃ fn f, c.newFn a.args = some fn ∧ Shaping fn a.args.extra f

/-- Over an interval of the length `eps` the function changes by at most `B`. -/
def VariesBy (f : ℚ → ℚ) (eps B : ℚ) : Prop := ∀ x, 0 ≤ x → x + eps ≤ 1 → f (x + eps) - f x ≤ B

/-- **An update does not make the channel jump.** It does not raise an error, and a query at the
same time returns a value that differs from the value returned last before the update by no more
than the shape changes within the tolerance. -/
def NoJump (s : Session E) (a : Action E) : Prop :=
  a.args.IsUpdate → ∀ c fn f, s.channels.lookup a.id = some c → c.newFn a.args = some fn →
    Shaping fn a.args.extra f →
      (easing s.channels a.now a.id a.args).2 ≠ .raised ∧
        ∃ last v dt, s.returned.lookup a.id = some last ∧
          (easing (easingStep s a).channels a.now a.id { extra := a.args.extra }).2 = .value v dt ∧
            ∀ B, VariesBy f (c.newInvEps a.args) B → |v - last| ≤ B

/-- The channel is at its new target, or at the end of its way that is not the new target. -/
def Channel.Rests (c : Channel E) (a : Args E) : Prop :=
  c.lastValue = c.newTarget a ∨
    (if c.newTarget a = c.target then c.lastValue = c.init else c.lastValue = c.target)

/-- If the call is an update, then its function does not depend on the extra arguments of the call,
and the channel is at rest. -/
def AtRest (s : Session E) (a : Action E) : Prop :=
  a.args.IsUpdate → ∀ c fn, s.channels.lookup a.id = some c → c.newFn a.args = some fn →
    (∀ t ∈ Set.Icc (0 : ℚ) 1, fn t none = fn t a.args.extra) ∧ c.Rests a.args

/-! ## The cases of `easing` -/

section

variable {st : Table String (Channel E)} {id : String} {c : Channel E} {a : Args E} {now : ℚ}

/-- A query of a channel. -/
lemma easing_query (ha : a.IsQuery) (hc : st.lookup id = some c) :
    easing st now id a = (st.insert id (query c now a.extra).1, (query c now a.extra).2) := by
  rw [easing, if_pos ha, hc]

/-- An initialisation, or a reset. -/
lemma easing_initialise {v : ℚ} (ha : a.init = some v)
    (hc : initialise (st.lookup id) now v a = some c) :
    easing st now id a = (st.insert id c, .value v 0) := by
  have hquery : ¬ a.IsQuery := fun h => by simp [Args.IsQuery, ha] at h
  rw [easing, if_neg hquery]
  simp only [ha, hc]

/-- An update of a channel. -/
lemma easing_update {c' : Channel E} (ha : a.IsUpdate) (hc : st.lookup id = some c)
    (hc' : update c now a = some c') :
    easing st now id a = (st.insert id c', .value c.lastValue 0) := by
  rw [easing, if_neg ha.1]
  simp only [ha.2, hc, hc']

/-- An update of a channel whose function raises an error. -/
lemma easing_update_none (ha : a.IsUpdate) (hc : st.lookup id = some c)
    (hc' : update c now a = none) : easing st now id a = (st, .raised) := by
  rw [easing, if_neg ha.1]
  simp only [ha.2, hc, hc']

/-- A query or an update of a channel that there is not. -/
lemma easing_unknown (ha : a.init = none) (hc : st.lookup id = none) :
    easing st now id a = (st, .nil) := by
  unfold easing
  split_ifs <;> simp only [ha, hc]

end

/-! ## The invariant -/

/-- What holds of a channel: it is on its way between two points of the unit interval, the second of
which is an end of it. -/
structure Channel.Inv (c : Channel E) : Prop where
  duration : ∀ d, c.duration = some d → 0 < d
  invEps : 0 < c.invEps ∧ c.invEps < 1
  target : c.target = 0 ∨ c.target = 1
  init : c.init ∈ Set.Icc (0 : ℚ) 1
  position : ∃ y ∈ Set.Icc (0 : ℚ) 1, c.lastValue = c.init + (c.target - c.init) * y

/-- What holds of all channels. The value of a channel is the one that the last call has returned.
-/
def Session.Inv (s : Session E) : Prop :=
  ∀ id c, s.channels.lookup id = some c → c.Inv ∧ s.returned.lookup id = some c.lastValue

/-- A target that is inferred is binary. -/
lemma inferTarget_binary (target pivot : ℚ) {otherwise : ℚ} (h : otherwise = 0 ∨ otherwise = 1) :
    inferTarget target pivot otherwise = 0 ∨ inferTarget target pivot otherwise = 1 := by
  unfold inferTarget
  split_ifs with hbinary
  · exact .inr rfl
  · exact .inl rfl
  · exact h
  · exact not_and_or.mp hbinary |>.imp not_ne_iff.mp not_ne_iff.mp

/-- A new target is an end of the unit interval. -/
lemma newTarget_binary {c : Channel E} (h : c.Inv) (a : Args E) :
    c.newTarget a = 0 ∨ c.newTarget a = 1 := inferTarget_binary _ _ h.target

/-- A point between two points of the unit interval is one, too. -/
lemma between_mem_Icc {a b y : ℚ} (ha : a ∈ Set.Icc (0 : ℚ) 1) (hb : b = 0 ∨ b = 1)
    (hy : y ∈ Set.Icc (0 : ℚ) 1) : a + (b - a) * y ∈ Set.Icc (0 : ℚ) 1 := by
  have hb' : b ∈ Set.Icc (0 : ℚ) 1 := by
    rcases hb with rfl | rfl
    · exact Set.left_mem_Icc.mpr zero_le_one
    · exact Set.right_mem_Icc.mpr zero_le_one
  have heq : a + (b - a) * y = (1 - y) * a + y * b := by ring
  have hy' : 0 ≤ 1 - y := sub_nonneg.mpr hy.2
  rw [heq]
  constructor
  · exact add_nonneg (mul_nonneg hy' ha.1) (mul_nonneg hy.1 hb'.1)
  · have h₁ : (1 - y) * a ≤ (1 - y) * 1 := mul_le_mul_of_nonneg_left ha.2 hy'
    have h₂ : y * b ≤ y * 1 := mul_le_mul_of_nonneg_left hb'.2 hy.1
    linarith

/-- The value that was returned last lies in the unit interval. -/
lemma Channel.Inv.lastValue_mem {c : Channel E} (h : c.Inv) : c.lastValue ∈ Set.Icc (0 : ℚ) 1 := by
  obtain ⟨y, hy, heq⟩ := h.position
  exact heq ▸ between_mem_Icc h.init h.target hy

/-- One more value that is returned. -/
lemma Session.Inv.insert {s : Session E} (h : s.Inv) (id : String) {c : Channel E} (hc : c.Inv) :
    Session.Inv ⟨s.channels.insert id c, s.returned.insert id c.lastValue⟩ := by
  intro id' c' hc'
  simp only [Table.lookup_insert] at hc' ⊢
  split_ifs at hc' ⊢ with hid
  · obtain rfl : c = c' := Option.some.inj hc'
    exact ⟨hc, rfl⟩
  · exact h id' c' hc'

/-- A query, if the channel is complete and the function does not raise an error. -/
lemma query_eq {c : Channel E} {d : ℚ} {fn : EaseFn E} (hd : c.duration = some d)
    (hfn : c.easeFn = some fn) {now y : ℚ} {extra : Option E}
    (hy : fn (clampUnit ((now - c.startTime) / d)) extra = some y) :
    query c now extra =
      ({ c with lastTime := now, lastValue := c.init + (c.target - c.init) * y },
        .value (c.init + (c.target - c.init) * y) (now - c.lastTime)) := by
  simp only [query, hd, hfn, hy]

/-- A query of a channel keeps the invariant. -/
lemma query_spec {c : Channel E} (h : c.Inv) {extra : Option E}
    (hshape : ∀ fn, c.easeFn = some fn → ∃ f, Shaping fn extra f) (now : ℚ) :
    query c now extra = (c, .nil) ∨
      ∃ c' dt, query c now extra = (c', .value c'.lastValue dt) ∧ c'.Inv := by
  cases hd : c.duration with
  | none => exact .inl (by simp only [query, hd])
  | some d =>
    cases hfn : c.easeFn with
    | none => exact .inl (by simp only [query, hd, hfn])
    | some fn =>
      obtain ⟨f, hf⟩ := hshape fn hfn
      have ht := clampUnit_mem ((now - c.startTime) / d)
      refine .inr ⟨_, _, query_eq hd hfn (hf.eq _ ht), h.duration, h.invEps, h.target, h.init, ?_⟩
      exact ⟨_, hf.mem ht, rfl⟩

/-- What holds of an argument that is given, and of the value it falls back on. -/
lemma forall_orElse {α : Type} {P : α → Prop} {o o' : Option α} (h : ∀ x, o = some x → P x)
    (h' : ∀ x, o' = some x → P x) : ∀ x, (o <|> o') = some x → P x := by
  cases o with
  | none => exact h'
  | some y => exact h

/-- The same for an argument with a default. -/
lemma getD_of_forall {α : Type} {P : α → Prop} {o : Option α} {d : α} (h : ∀ x, o = some x → P x)
    (hd : P d) : P (o.getD d) := by
  cases o with
  | none => exact hd
  | some y => exact h y rfl

/-- An initialisation keeps the invariant. -/
lemma initialise_spec {s : Session E} (h : s.Inv) {a : Action E} (hlegal : Legal s a) {v : ℚ}
    (hv : a.args.init = some v) :
    ∃ c, initialise (s.channels.lookup a.id) a.now v a.args = some c ∧ c.lastValue = v ∧ c.Inv := by
  obtain ⟨hmem, htarget⟩ := hlegal.init v hv
  obtain ⟨target, ht⟩ :
      ∃ t, (a.args.target <|> (s.channels.lookup a.id).map (·.target)) = some t := by
    cases hgiven : a.args.target with
    | some t => exact ⟨t, rfl⟩
    | none =>
      obtain ⟨c, hc⟩ := Table.mem_iff_lookup.mp (htarget hgiven)
      exact ⟨c.target, by rw [hc]; rfl⟩
  rw [initialise, ht]
  refine ⟨_, rfl, rfl, forall_orElse hlegal.duration ?_, getD_of_forall
    (P := fun eps => 0 < eps ∧ eps < 1) (forall_orElse hlegal.invEps ?_) ?_,
    inferTarget_binary _ _ (.inr rfl), hmem, 0, Set.left_mem_Icc.mpr zero_le_one, ?_⟩
  · intro d hd
    obtain ⟨c, hc, hd⟩ := Option.bind_eq_some_iff.mp hd
    exact (h _ c hc).1.duration d hd
  · intro eps heps
    obtain ⟨c, hc, rfl⟩ := Option.map_eq_some_iff.mp heps
    exact (h _ c hc).1.invEps
  · norm_num [defaultInvEps]
  · rw [mul_zero, add_zero]

/-! ## Updates -/

/-- The position lies between zero and one. -/
lemma norm_mem {c : Channel E} (h : c.Inv) (a : Args E) : c.norm a ∈ Set.Icc (0 : ℚ) 1 := by
  have hnorm : computeNormalized c.init c.target c.lastValue ∈ Set.Icc (0 : ℚ) 1 := by
    simp only [computeNormalized]
    split_ifs with hspan
    · exact Set.right_mem_Icc.mpr zero_le_one
    · obtain ⟨y, hy, heq⟩ := h.position
      have hdiv : (c.lastValue - c.init) / (c.target - c.init) = y := by
        rw [heq, add_sub_cancel_left, mul_div_cancel_left₀ y hspan]
      exact hdiv ▸ hy
  simp only [Channel.norm]
  split_ifs
  · exact ⟨sub_nonneg.mpr hnorm.2, sub_le_self 1 hnorm.1⟩
  · exact hnorm

/-- The channel after an update that starts `t` of its duration `d` ago. -/
def Channel.resumed (c : Channel E) (a : Args E) (now t d : ℚ) : Channel E where
  init := c.lastValue
  target := c.newTarget a
  duration := some d
  easeFn := c.newFn a
  invEps := c.newInvEps a
  startTime := now - t * d
  lastTime := now
  lastValue := c.lastValue

/-- **An update**, if the function does not raise an error without the extra arguments. -/
lemma update_spec {c : Channel E} {a : Args E} {fn : EaseFn E} {f : ℚ → ℚ} {d : ℚ}
    (hfn : c.newFn a = some fn) (hf : ∀ t ∈ Set.Icc (0 : ℚ) 1, fn t none = some (f t))
    (hd : c.newDuration a = some d) (heps : 0 < c.newInvEps a) (now : ℚ) :
    ∃ t, update c now a = some (c.resumed a now t d) ∧ Inverts f (c.norm a) (c.newInvEps a) t := by
  have hcall : ∀ t ∈ Set.Icc (0 : ℚ) 1, callFn (c.newFn a) none t = some (f t) := by
    rw [hfn]
    exact hf
  obtain ⟨t, hinv, hinverts⟩ := invertEase_spec hcall (c.norm a) heps
  refine ⟨t, ?_, hinverts⟩
  rw [update, hinv, hd]
  rfl

/-- Whatever the function does, an update has one of two results. -/
lemma update_eq (c : Channel E) (a : Args E) {d : ℚ} (hd : c.newDuration a = some d) (now : ℚ) :
    update c now a = none ∨ ∃ t, update c now a = some (c.resumed a now t d) := by
  cases hinv : invertEase (c.newFn a) (c.norm a) (c.newInvEps a) with
  | none => exact .inl (by rw [update, hinv]; rfl)
  | some t => exact .inr ⟨t, by rw [update, hinv, hd]; rfl⟩

/-- An update keeps the invariant. -/
lemma Channel.Inv.resumed {c : Channel E} (h : c.Inv) {a : Args E} {d : ℚ} (hd : 0 < d)
    (heps : 0 < c.newInvEps a ∧ c.newInvEps a < 1) (now t : ℚ) : (c.resumed a now t d).Inv where
  duration := fun _ hd' => Option.some.inj hd' ▸ hd
  invEps := heps
  target := newTarget_binary h a
  init := h.lastValue_mem
  position := ⟨0, Set.left_mem_Icc.mpr zero_le_one, by rw [mul_zero, add_zero]; rfl⟩

/-- The parameters with which a channel goes on. -/
lemma Legal.parameters {s : Session E} {a : Action E} (hl : Legal s a) {c : Channel E} (h : c.Inv) :
    (∀ d, c.newDuration a.args = some d → 0 < d) ∧
      0 < c.newInvEps a.args ∧ c.newInvEps a.args < 1 :=
  ⟨forall_orElse hl.duration h.duration,
    getD_of_forall (P := fun eps => 0 < eps ∧ eps < 1) hl.invEps h.invEps⟩

/-- **The invariant is kept** by every call that is considered. -/
lemma Session.Inv.easingStep {s : Session E} (h : s.Inv) {a : Action E} (hl : Legal s a) :
    (Easing.easingStep s a).Inv := by
  unfold Easing.easingStep
  cases hinit : a.args.init with
  | some v =>
    obtain ⟨c, hc, hlast, hinv⟩ := initialise_spec h hl hinit
    rw [easing_initialise hinit hc, ← hlast]
    exact h.insert a.id hinv
  | none =>
    cases hc : s.channels.lookup a.id with
    | none =>
      rw [easing_unknown hinit hc]
      exact h
    | some c =>
      obtain ⟨hinv, hret⟩ := h _ c hc
      by_cases hquery : a.args.IsQuery
      · rw [easing_query hquery hc]
        obtain hnil | ⟨c', dt, heq, hinv'⟩ :=
          query_spec hinv (fun fn hfn => hl.query hquery c fn hc hfn) a.now
        · rw [hnil]
          intro id c' hc'
          rw [Table.lookup_insert] at hc'
          split_ifs at hc' with hid
          · obtain rfl : c = c' := Option.some.inj hc'
            exact ⟨hinv, by rw [hid]; exact hret⟩
          · exact h id c' hc'
        · rw [heq]
          exact h.insert a.id hinv'
      · have hup : a.args.IsUpdate := ⟨hquery, hinit⟩
        obtain ⟨⟨d, hd⟩, -⟩ := hl.update hup c hc
        obtain ⟨hdur, heps⟩ := hl.parameters hinv
        obtain hnone | ⟨t, ht⟩ := update_eq c a.args hd a.now
        · rw [easing_update_none hup hc hnone]
          exact h
        · rw [easing_update hup hc ht]
          exact h.insert a.id (hinv.resumed (hdur d hd) heps a.now t)

/-! ## The way so far -/

/-- A time that inverts a function lies in the unit interval. -/
lemma Inverts.mem {f : ℚ → ℚ} {y eps t : ℚ} (h : Inverts f y eps t) : t ∈ Set.Icc (0 : ℚ) 1 := by
  obtain ⟨lo, hi, rfl | rfl, hlo, hle, hhi, -⟩ := h
  · exact ⟨hlo, hle.trans hhi⟩
  · exact ⟨hlo.trans hle, hhi⟩

/-- The time that inverts a shape at zero is no longer than the tolerance. -/
lemma Inverts.le_of_zero {f : ℚ → ℚ} {eps t : ℚ} (h : Inverts f 0 eps t)
    (hf : ∀ t ∈ Set.Icc (0 : ℚ) 1, 0 ≤ f t) : t ≤ eps := by
  obtain ⟨lo, hi, ht, hlo, hle, hhi, hwidth, hbelow, -⟩ := h
  have hzero : lo = 0 := hbelow.resolve_right (not_lt.mpr (hf lo ⟨hlo, hle.trans hhi⟩))
  rw [hzero, sub_zero] at hwidth
  rcases ht with rfl | rfl
  · exact hle.trans hwidth
  · exact hwidth

/-- The shape is nearly as large at the time that inverts it as the position is. -/
lemma Inverts.le_value {fn : EaseFn E} {extra : Option E} {f : ℚ → ℚ} {y eps t B : ℚ}
    (h : Inverts f y eps t) (hf : Shaping fn extra f) (hy : y ≤ 1) (heps : 0 < eps ∧ eps < 1)
    (hB : VariesBy f eps B) : y - B ≤ f t := by
  obtain ⟨lo, hi, ht, hlo, hle, hhi, hwidth, -, habove⟩ := h
  have hlo' : lo ∈ Set.Icc (0 : ℚ) 1 := ⟨hlo, hle.trans hhi⟩
  have hhi' : hi ∈ Set.Icc (0 : ℚ) 1 := ⟨hlo.trans hle, hhi⟩
  have hyhi : y ≤ f hi := by
    rcases habove with rfl | habove
    · exact hy.trans_eq hf.one.symm
    · exact habove
  have hflo : f lo ≤ f t := by
    rcases ht with rfl | rfl
    · exact le_rfl
    · exact hf.mono hlo' hhi' hle
  -- an interval of the full length around the one that is left
  suffices hchange : f hi - f lo ≤ B by linarith
  rcases le_total (lo + eps) 1 with hfits | hover
  · have hmono := hf.mono hhi' ⟨by linarith, hfits⟩ (by linarith : hi ≤ lo + eps)
    have hvaries := hB lo hlo hfits
    linarith
  · have hvaries := hB (1 - eps) (sub_nonneg.mpr heps.2.le) (sub_add_cancel 1 eps).le
    rw [sub_add_cancel] at hvaries
    have hmono₁ := hf.mono hhi' (Set.right_mem_Icc.mpr zero_le_one) hhi
    have hmono₂ := hf.mono ⟨by linarith, by linarith⟩ hlo' (by linarith : 1 - eps ≤ lo)
    linarith

/-- A channel is at rest iff it is at its new target or has covered none of its way. -/
lemma Channel.Inv.rests_iff {c : Channel E} (h : c.Inv) (a : Args E) :
    c.Rests a ↔ c.lastValue = c.newTarget a ∨ c.norm a = 0 := by
  obtain ⟨y, -, hpos⟩ := h.position
  unfold Channel.Rests
  by_cases htarget : c.newTarget a = c.target
  · have hnorm : c.norm a = computeNormalized c.init c.target c.lastValue :=
      if_neg (not_not.mpr htarget)
    rw [if_pos htarget, hnorm, htarget]
    by_cases hspan : c.target - c.init = 0
    · -- there is no way
      have hlast : c.lastValue = c.target := by rw [hpos, hspan]; linarith
      exact iff_of_true (.inl hlast) (.inl hlast)
    · rw [computeNormalized, if_neg hspan, div_eq_zero_iff, sub_eq_zero]
      exact or_congr_right ⟨.inl, fun hor => hor.resolve_right hspan⟩
  · have hnorm : c.norm a = 1 - computeNormalized c.init c.target c.lastValue := if_pos htarget
    rw [if_neg htarget, hnorm]
    by_cases hspan : c.target - c.init = 0
    · have hlast : c.lastValue = c.target := by rw [hpos, hspan]; linarith
      rw [computeNormalized, if_pos hspan, sub_self]
      exact iff_of_true (.inr hlast) (.inr rfl)
    · rw [computeNormalized, if_neg hspan, sub_eq_zero, @eq_comm ℚ 1,
        div_eq_one_iff_eq hspan]
      exact or_congr_right sub_left_inj.symm

section Update

variable {s : Session E} (hs : s.Inv) {a : Action E} (hl : Legal s a) (hup : a.args.IsUpdate)
  {c : Channel E} {fn : EaseFn E} {f : ℚ → ℚ} (hc : s.channels.lookup a.id = some c)
  (hfn : c.newFn a.args = some fn) (hf : Shaping fn a.args.extra f)
  (hsame : ∀ t ∈ Set.Icc (0 : ℚ) 1, fn t none = fn t a.args.extra)

/-! ## Updates at rest -/

include hs hl hup hc hfn hf hsame in
/-- **A query right after an update.** The shape is added to the value as if it had to be covered
again. -/
lemma query_resumed :
    ∃ t, Inverts f (c.norm a.args) (c.newInvEps a.args) t ∧
      (easing s.channels a.now a.id a.args).2 = .value c.lastValue 0 ∧
        (easing (easingStep s a).channels a.now a.id { extra := a.args.extra }).2 =
          .value (c.lastValue + (c.newTarget a.args - c.lastValue) * f t) 0 := by
  obtain ⟨hinv, -⟩ := hs _ c hc
  obtain ⟨⟨d, hd⟩, -⟩ := hl.update hup c hc
  obtain ⟨hdur, heps⟩ := hl.parameters hinv
  obtain ⟨t, ht, hinverts⟩ :=
    update_spec hfn (fun t ht => (hsame t ht).trans (hf.eq t ht)) hd heps.1 a.now
  refine ⟨t, hinverts, by rw [easing_update hup hc ht], ?_⟩
  have hstep : (easingStep s a).channels.lookup a.id = some (c.resumed a.args a.now t d) := by
    rw [easingStep, easing_update hup hc ht]
    exact AList.lookup_insert _
  have hquery : ({ extra := a.args.extra } : Args E).IsQuery := ⟨rfl, rfl, rfl, rfl⟩
  have htime : (a.now - (a.now - t * d)) / d = t := by
    rw [sub_sub_cancel, mul_div_cancel_right₀ t (hdur d hd).ne']
  have hy : fn (clampUnit ((a.now - (c.resumed a.args a.now t d).startTime) / d)) a.args.extra =
      some (f t) := by
    rw [Channel.resumed, htime, clampUnit_of_mem hinverts.mem]
    exact hf.eq t hinverts.mem
  rw [easing_query hquery hstep, query_eq rfl hfn hy]
  exact congrArg _ (sub_self a.now)

/-- A channel at rest hardly moves.

**Proof sketch.** At its target it does not move at all. If it has covered none of its way, then the
time that the bisection finds is no longer than the tolerance, and the shape starts at zero. -/
lemma Channel.Inv.abs_le_of_rests {c : Channel E} (h : c.Inv) {a : Args E} (hrests : c.Rests a)
    {fn : EaseFn E} {extra : Option E} {f : ℚ → ℚ} (hf : Shaping fn extra f) {eps t B : ℚ}
    (ht : Inverts f (c.norm a) eps t) (heps : 0 < eps ∧ eps < 1) (hB : VariesBy f eps B) :
    |(c.newTarget a - c.lastValue) * f t| ≤ B := by
  have hstart : f eps ≤ B := by
    have hvaries := hB 0 le_rfl (by linarith)
    rwa [zero_add, hf.zero, sub_zero] at hvaries
  have hmem : eps ∈ Set.Icc (0 : ℚ) 1 := ⟨heps.1.le, heps.2.le⟩
  rcases (h.rests_iff a).mp hrests with htarget | hnorm
  · rw [htarget, sub_self, zero_mul, abs_zero]
    exact (hf.mem hmem).1.trans hstart
  · rw [hnorm] at ht
    have hle : f t ≤ f eps := hf.mono ht.mem hmem (ht.le_of_zero fun t ht => (hf.mem ht).1)
    have hway : |c.newTarget a - c.lastValue| ≤ 1 := by
      obtain ⟨hlast₀, hlast₁⟩ := h.lastValue_mem
      rw [abs_le]
      rcases newTarget_binary h a with hnew | hnew <;> rw [hnew] <;> constructor <;> linarith
    calc |(c.newTarget a - c.lastValue) * f t|
        = |c.newTarget a - c.lastValue| * f t := by rw [abs_mul, abs_of_nonneg (hf.mem ht.mem).1]
      _ ≤ 1 * f t := mul_le_mul_of_nonneg_right hway (hf.mem ht.mem).1
      _ ≤ B := by rw [one_mul]; exact hle.trans hstart

include hs hl in
/-- An update of a channel at rest does not make it jump. -/
lemma noJump_of_atRest_step (hrest : AtRest s a) : NoJump s a := by
  intro hup c fn f hc hfn hf
  obtain ⟨hinv, hret⟩ := hs _ c hc
  obtain ⟨hsame, hrests⟩ := hrest hup c fn hc hfn
  obtain ⟨t, ht, hup', hquery⟩ := query_resumed hs hl hup hc hfn hf hsame
  refine ⟨by rw [hup']; exact Outcome.noConfusion, _, _, _, hret, hquery, fun B hB => ?_⟩
  rw [add_sub_cancel_left]
  exact hinv.abs_le_of_rests hrests hf ht (hl.parameters hinv).2 hB

/-! ## Updates in motion -/

/-- A shape without jumps: it changes by as little as is asked for over short intervals. -/
def Gradual (f : ℚ → ℚ) : Prop := ∀ B, 0 < B → ∃ eps, 0 < eps ∧ eps < 1 ∧ VariesBy f eps B

/-- The call with another tolerance. -/
def Action.withInvEps (a : Action E) (eps : ℚ) : Action E :=
  { a with args := { a.args with invEps := some eps } }

include hl in
/-- An update remains legal with another tolerance. -/
lemma Legal.withInvEps {eps : ℚ} (heps : 0 < eps ∧ eps < 1) : Legal s (a.withInvEps eps) where
  duration := hl.duration
  invEps := fun _ he => Option.some.inj he ▸ heps
  init := hl.init
  query := hl.query
  update := hl.update

include hs hl hup hc hfn hf hsame in
/-- A channel that is not at rest jumps by nearly as much as its position is, as a part of the way
that it still has to go. -/
lemma NoJump.le_of_variesBy {B : ℚ} (hB : VariesBy f (c.newInvEps a.args) B) (h : NoJump s a) :
    |c.newTarget a.args - c.lastValue| * (c.norm a.args - B) ≤ B := by
  obtain ⟨hinv, hret⟩ := hs _ c hc
  obtain ⟨-, heps⟩ := hl.parameters hinv
  obtain ⟨t, ht, -, hquery⟩ := query_resumed hs hl hup hc hfn hf hsame
  obtain ⟨-, last, v, dt, hlast, hv, hbound⟩ := h hup c fn f hc hfn hf
  obtain rfl : c.lastValue = last := Option.some.inj (hret.symm.trans hlast)
  obtain ⟨rfl, -⟩ := Outcome.value.inj (hquery.symm.trans hv)
  have hjump := hbound B hB
  rw [add_sub_cancel_left, abs_mul, abs_of_nonneg (hf.mem ht.mem).1] at hjump
  have hvalue := ht.le_value hf (norm_mem hinv a.args).2 heps hB
  exact (mul_le_mul_of_nonneg_left hvalue (abs_nonneg _)).trans hjump

include hs hl hup hc hfn hf hsame in
/-- **No other update is continuous.** If the shape is gradual, and the function does not depend on
the extra arguments, then an update with any tolerance goes on from where the channel was iff it
finds the channel at rest. -/
lemma atRest_iff_forall_noJump (hgradual : Gradual f) :
    (∀ eps, 0 < eps ∧ eps < 1 → NoJump s (a.withInvEps eps)) ↔ AtRest s a := by
  obtain ⟨hinv, -⟩ := hs _ c hc
  constructor
  · rintro h - c' fn' hc' hfn'
    obtain rfl : c = c' := Option.some.inj (hc.symm.trans hc')
    obtain rfl : fn = fn' := Option.some.inj (hfn.symm.trans hfn')
    refine ⟨hsame, (hinv.rests_iff a.args).mpr ?_⟩
    by_contra hmoves
    obtain ⟨htarget, hnorm⟩ := not_or.mp hmoves
    have hway : 0 < |c.newTarget a.args - c.lastValue| :=
      abs_pos.mpr (sub_ne_zero.mpr (Ne.symm htarget))
    have hnorm' : 0 < c.norm a.args := (norm_mem hinv a.args).1.lt_of_ne' hnorm
    -- a tolerance for which neither side of the bound is large
    obtain ⟨eps, heps, hone, hB⟩ := hgradual (min (c.norm a.args / 2)
      (|c.newTarget a.args - c.lastValue| * c.norm a.args / 4)) (by positivity)
    have hle : |c.newTarget a.args - c.lastValue| * (c.norm a.args - _) ≤ _ :=
      NoJump.le_of_variesBy hs (hl.withInvEps ⟨heps, hone⟩) hup hc hfn hf hsame hB
        (h eps ⟨heps, hone⟩)
    generalize |c.newTarget a.args - c.lastValue| = way at hway hle
    generalize c.norm a.args = norm at hnorm' hle
    have hpos := mul_pos hway hnorm'
    have hhalf : way * (norm / 2) ≤ way * (norm - min (norm / 2) (way * norm / 4)) := by
      refine mul_le_mul_of_nonneg_left ?_ hway.le
      linarith [min_le_left (norm / 2) (way * norm / 4)]
    have hquarter := hhalf.trans (hle.trans (min_le_right _ _))
    linarith
  · intro hrest eps heps
    exact noJump_of_atRest_step hs (hl.withInvEps heps) hrest

include hs hl hup hc hfn hf in
/-- An update raises an error if the function does so without the extra arguments. -/
lemma not_noJump_of_raises (hraises : fn (1 / 2) none = none) : ¬ NoJump s a := by
  intro h
  obtain ⟨hraised, -⟩ := h hup c fn f hc hfn hf
  obtain ⟨-, -, hone⟩ := hl.parameters (hs _ c hc).1
  have hcall : callFn (c.newFn a.args) none (1 / 2) = none := by rw [hfn]; exact hraises
  have hnone : update c a.now a.args = none := by
    rw [update, invertEase_eq_none hcall _ hone, Option.bind_none]
  exact hraised (by rw [easing_update_none hup hc hnone])

end Update

/-- An update of a channel with `ease_poly` raises an error, whatever the exponent is. -/
lemma not_noJump_easePoly {s : Session ℕ} (hs : s.Inv) {a : Action ℕ} (hl : Legal s a)
    (hup : a.args.IsUpdate) {c : Channel ℕ} (hc : s.channels.lookup a.id = some c)
    (hfn : c.newFn a.args = some easePoly) {n : ℕ} (hextra : a.args.extra = some n) (hn : n ≠ 0) :
    ¬ NoJump s a :=
  not_noJump_of_raises hs hl hup hc hfn (hextra ▸ shaping_easePoly hn) (easePoly_none _)

/-! ## Runs -/

/-- There is no channel at the start. -/
lemma inv_empty : ({} : Session E).Inv := fun _ _ h => by simp at h

/-- **Easing is continuous across updates that find the channel at rest.** In every run of
initialisations, queries and updates of any channels, from none: if at every update the function
does not depend on the extra arguments of the call, and the channel is at its new target, or at the
other end of its way, then no update raises an error, and a query at the same time returns a value
that differs from the value returned last before the update by no more than the shape changes within
the tolerance. -/
theorem noJump_of_atRest (as : List (Action E)) (hlegal : Run.EachStep easingStep Legal {} as)
    (hrest : Run.EachStep easingStep AtRest {} as) : Run.EachStep easingStep NoJump {} as :=
  Run.eachStep_of_step (fun _ _ hs h => hs.easingStep h.1)
    (fun _ _ hs h => noJump_of_atRest_step hs h.1 h.2) inv_empty
    (Run.eachStep_and.mpr ⟨hlegal, hrest⟩)

/-- A channel starts on its way from zero to one. -/
def start : Action ℕ :=
  ⟨"x", 0, { target := some 1, init := some 0, duration := some 1, easeFn := some easeLinear }⟩

/-- The channel of `start`, if it was asked for its value for the last time at the time `t`. -/
def startedChannel (t value : ℚ) : Channel ℕ where
  init := 0
  target := inferTarget 1 0 1
  duration := some 1
  easeFn := some easeLinear
  invEps := defaultInvEps
  startTime := 0
  lastTime := t
  lastValue := value

/-- The start of the example is legal. -/
lemma legal_start (s : Session ℕ) : Legal s start where
  duration := by rintro d ⟨⟩; exact one_pos
  invEps := by rintro eps ⟨⟩
  init := by rintro v ⟨⟩; exact ⟨Set.left_mem_Icc.mpr zero_le_one, by rintro ⟨⟩⟩
  query := by rintro ⟨⟨⟩, -⟩
  update := by rintro ⟨-, ⟨⟩⟩

/-- An update of a channel with the linear shape. -/
lemma legal_update_linear {s : Session ℕ} {a : Action ℕ} {t value : ℚ} (ha : a.args.IsUpdate)
    (hc : s.channels.lookup a.id = some (startedChannel t value)) (hfn : a.args.easeFn = none)
    (hd : ∀ d, a.args.duration = some d → 0 < d)
    (heps : ∀ eps, a.args.invEps = some eps → 0 < eps ∧ eps < 1) : Legal s a where
  duration := hd
  invEps := heps
  init := fun v hv => by simp [ha.2] at hv
  query := fun h => absurd h ha.1
  update := by
    rintro - c hc'
    obtain rfl : startedChannel t value = c := Option.some.inj (hc.symm.trans hc')
    refine ⟨?_, easeLinear, id, ?_, shaping_easeLinear _⟩
    · cases hd' : a.args.duration with
      | none => exact ⟨1, by rw [Channel.newDuration, hd']; rfl⟩
      | some d => exact ⟨d, by rw [Channel.newDuration, hd']; rfl⟩
    · rw [Channel.newFn, hfn]
      rfl

/-- The duration is changed before the channel has moved. -/
theorem noJump_of_atRest_start :
    Run.EachStep easingStep NoJump {} [start, ⟨"x", 0, { duration := some 2 }⟩] := by
  have hup : ({ duration := some 2 } : Args ℕ).IsUpdate := ⟨by simp [Args.IsQuery], rfl⟩
  refine noJump_of_atRest _ ⟨legal_start _, legal_update_linear hup rfl rfl ?_ ?_, trivial⟩
    ⟨?_, ?_, trivial⟩
  · rintro d ⟨⟩
    exact two_pos
  · rintro eps ⟨⟩
  · rintro ⟨-, ⟨⟩⟩
  · rintro - c fn hc hfn
    obtain rfl : startedChannel 0 0 = c := Option.some.inj hc
    obtain rfl : easeLinear = fn := Option.some.inj hfn
    exact ⟨fun _ _ => rfl, .inr (by decide +kernel)⟩

/-- The target is confirmed halfway, with another tolerance. -/
def changedHalfway : List (Action ℕ) :=
  [start, ⟨"x", 1 / 2, {}⟩, ⟨"x", 1 / 2, { target := some 1, invEps := some (1 / 16) }⟩]

/-- **An update halfway.** The channel is halfway to its target when it is told to go on to the same
target; at the same time it is at 23/32. -/
theorem not_noJump_linear :
    Run.EachStep easingStep Legal {} changedHalfway ∧
      ¬ Run.EachStep easingStep NoJump {} changedHalfway := by
  have hup : ({ target := some 1, invEps := some (1 / 16) } : Args ℕ).IsUpdate :=
    ⟨by simp [Args.IsQuery], rfl⟩
  constructor
  · refine ⟨legal_start _, ⟨?_, ?_, ?_, ?_, ?_⟩, legal_update_linear hup rfl rfl ?_ ?_, trivial⟩
    · rintro d ⟨⟩
    · rintro eps ⟨⟩
    · rintro v ⟨⟩
    · rintro - c fn hc hfn
      obtain rfl : startedChannel 0 0 = c := Option.some.inj hc
      obtain rfl : easeLinear = fn := Option.some.inj hfn
      exact ⟨id, shaping_easeLinear _⟩
    · rintro ⟨hquery, -⟩
      exact absurd ⟨rfl, rfl, rfl, rfl⟩ hquery
    · rintro d ⟨⟩
    · rintro eps ⟨⟩
      norm_num
  · rintro ⟨-, -, hjump, -⟩
    obtain ⟨-, last, v, dt, hlast, hv, hB⟩ :=
      hjump hup _ easeLinear id rfl rfl (shaping_easeLinear _)
    have hlast' := hlast.symm.trans
      (by decide +kernel : (easingStep (easingStep {} start) ⟨"x", 1 / 2, {}⟩).returned.lookup "x" =
        some (1 / 2))
    have hv' := hv.symm.trans
      (by decide +kernel : (easing (changedHalfway.foldl easingStep {}).channels (1 / 2) "x" {}).2 =
        .value (23 / 32) 0)
    obtain rfl : last = 1 / 2 := Option.some.inj hlast'
    obtain ⟨rfl, -⟩ := Outcome.value.inj hv'
    have hvaries : VariesBy id (1 / 16) (1 / 16) := fun x _ _ => (add_sub_cancel_left x _).le
    exact absurd (hB (1 / 16) hvaries) (by norm_num)

end Aelkey.Easing
