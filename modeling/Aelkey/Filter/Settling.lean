import Aelkey.Filter.Continuity
import Mathlib.Order.Interval.Set.UnorderedInterval

set_option relaxedAutoImplicit false
set_option autoImplicit false

/-!
# Easing arrives

A channel may jump when it is updated, but it jumps ahead: what a call returns lies between what the
last call has returned and the target, and the target is reached when the duration is over. This
needs a clock that does not go back, and a shape that stays the same from one query to the next.

## Main definitions

* `Aelkey.Easing.Clocked`, `Aelkey.Easing.clockedStep` — a session with its clock, and the times at
  which its channels were set on their way.
* `Aelkey.Easing.Timely` — the calls that are considered.
* `Aelkey.Easing.Steady` — a call does not turn back or overshoot, and finds a channel at its target
  that has had its time.

## Main results

* `Aelkey.Easing.invertEase_mem` — the inversion stays in the unit interval, whatever it inverts.
* `Aelkey.Easing.steady_of_timely` — every call of a run is steady.
-/

namespace Aelkey.Easing

variable {E : Type}

/-! ## Sessions with a clock -/

/-- A session with the time of the last call, and for each channel the time of the last call that
was no query. -/
structure Clocked (E : Type) where
  session : Session E := {}
  now : ℚ
  begun : Table String ℚ := ∅

/-- One call. -/
def clockedStep (w : Clocked E) (a : Action E) : Clocked E where
  session := easingStep w.session a
  now := a.now
  begun := if a.args.IsQuery then w.begun else w.begun.insert a.id a.now

/-- The calls that are considered: the clock does not go back, and all queries of a channel have the
same extra arguments. -/
structure Timely (extra : String → Option E) (w : Clocked E) (a : Action E) : Prop where
  legal : Legal w.session a
  clock : w.now ≤ a.now
  same : a.args.IsQuery → a.args.extra = extra a.id

/-- **A call is steady**: unless it starts the channel anew, what it returns lies between what has
been returned last and the target; and a query finds the channel at its target if its duration has
passed since it was set on its way. -/
structure Steady (w : Clocked E) (a : Action E) : Prop where
  ahead : a.args.init = none → ∀ v dt,
    (easing w.session.channels a.now a.id a.args).2 = .value v dt →
      ∃ last c, w.session.returned.lookup a.id = some last ∧
        (easingStep w.session a).channels.lookup a.id = some c ∧ v ∈ Set.uIcc last c.target
  settled : a.args.IsQuery → ∀ c d fn b, w.session.channels.lookup a.id = some c →
    c.duration = some d → c.easeFn = some fn → w.begun.lookup a.id = some b → b + d ≤ a.now →
      ∃ dt, (easing w.session.channels a.now a.id a.args).2 = .value c.target dt

/-! ## The inversion -/

/-- The body of the loop keeps its invariant, whatever the function is. -/
lemma bisectStep_inv {fn : ℚ → Option ℚ} {y : ℚ} {s s' : Bisection} (hs : s.Inv)
    (h : bisectStep fn y s = some s') : s'.Inv := by
  obtain ⟨v, hv, hs'⟩ := Option.map_eq_some_iff.mp h
  have hconst : ∀ t ∈ Set.Icc (0 : ℚ) 1, (fun _ : ℚ => some v) t = some ((fun _ => v) t) :=
    fun _ _ => rfl
  obtain ⟨s'', hstep, hinv, -⟩ := bisectStep_spec hconst hs y
  obtain rfl : s' = s'' := hs'.symm.trans (Option.some.inj hstep)
  exact hinv

/-- So does the loop. -/
lemma invertLoop_inv {fn : ℚ → Option ℚ} {y eps : ℚ} {fuel : ℕ} {s s' : Bisection} (hs : s.Inv)
    (h : invertLoop fn y eps fuel s = some s') : s'.Inv := by
  induction fuel generalizing s with
  | zero =>
    rw [invertLoop] at h
    split_ifs at h
    exact Option.some.inj h ▸ hs
  | succ fuel ih =>
    rw [invertLoop] at h
    split_ifs at h
    · obtain ⟨s₁, hstep, hloop⟩ := Option.bind_eq_some_iff.mp h
      exact ih (bisectStep_inv hs hstep) hloop
    · exact Option.some.inj h ▸ hs

/-- **The inversion stays in the unit interval**, whatever it inverts. -/
lemma invertEase_mem {fn : Option (EaseFn E)} {y eps t : ℚ} (h : invertEase fn y eps = some t) :
    t ∈ Set.Icc (0 : ℚ) 1 := by
  obtain ⟨s, hloop, rfl⟩ := Option.map_eq_some_iff.mp h
  have hs : s.Inv := invertLoop_inv inv_start hloop
  rcases hs.mid with hmid | hmid
  · exact hmid ▸ ⟨hs.nonneg, hs.le.trans hs.le_one⟩
  · exact hmid ▸ ⟨hs.nonneg.trans hs.le, hs.le_one⟩

/-! ## The invariant -/

/-- A channel that was set on its way at the time `begun` is where its shape had it when it was
asked last. -/
structure Channel.Timed (c : Channel E) (extra : Option E) (now begun : ℚ) : Prop where
  last : c.lastTime ≤ now
  past : begun ≤ now
  start : c.startTime ≤ begun
  position : c.lastValue = c.init ∨ ∃ d fn y, c.duration = some d ∧ c.easeFn = some fn ∧
    fn (clampUnit ((c.lastTime - c.startTime) / d)) extra = some y ∧
      c.lastValue = c.init + (c.target - c.init) * y

/-- What holds of a session with its clock. -/
structure Clocked.Inv (extra : String → Option E) (w : Clocked E) : Prop where
  session : w.session.Inv
  timed : ∀ id c, w.session.channels.lookup id = some c →
    ∃ b, w.begun.lookup id = some b ∧ c.Timed (extra id) w.now b

/-- The clock goes on. -/
lemma Channel.Timed.mono {c : Channel E} {extra : Option E} {now now' begun begun' : ℚ}
    (h : c.Timed extra now begun) (hnow : now ≤ now') (hbegun : begun ≤ begun')
    (hle : begun' ≤ now') : c.Timed extra now' begun' :=
  ⟨h.last.trans hnow, hle, h.start.trans hbegun, h.position⟩

/-- Clamping keeps the order of times. -/
lemma clampUnit_mono : Monotone clampUnit := by
  intro s t hst
  simp only [clampUnit]
  split_ifs <;> linarith

/-- A time after the end is clamped to it. -/
lemma clampUnit_of_one_le {t : ℚ} (h : 1 ≤ t) : clampUnit t = 1 := by
  simp only [clampUnit]
  split_ifs <;> linarith

/-- A point further on the way lies between a point and the end of the way. -/
lemma further_mem_uIcc {a b y y' : ℚ} (hy : y ≤ y') (hone : y' ≤ 1) :
    a + (b - a) * y' ∈ Set.uIcc (a + (b - a) * y) b := by
  have hend : a + (b - a) * 1 = b := by ring
  rw [Set.mem_uIcc]
  rcases le_total a b with hab | hab
  · have hspan : 0 ≤ b - a := sub_nonneg.mpr hab
    refine .inl ⟨add_le_add_right (mul_le_mul_of_nonneg_left hy hspan) a, ?_⟩
    exact (add_le_add_right (mul_le_mul_of_nonneg_left hone hspan) a).trans_eq hend
  · have hspan : b - a ≤ 0 := sub_nonpos.mpr hab
    refine .inr ⟨?_, add_le_add_right (mul_le_mul_of_nonpos_left hy hspan) a⟩
    exact hend.symm.trans_le (add_le_add_right (mul_le_mul_of_nonpos_left hone hspan) a)

section Query

variable {c : Channel E} {extra : Option E} {now now' begun d : ℚ} {fn : EaseFn E} {f : ℚ → ℚ}
  (hd : c.duration = some d) (hfn : c.easeFn = some fn) (hf : Shaping fn extra f)

include hd hfn hf

/-- **A query goes ahead**: the clock has not gone back, and the shape rises. -/
lemma Channel.Timed.query (h : c.Timed extra now begun) (hpos : 0 < d) (hnow : now ≤ now') :
    ∃ c' v dt, Easing.query c now' extra = (c', .value v dt) ∧ c'.Timed extra now' begun ∧
      c'.target = c.target ∧ v ∈ Set.uIcc c.lastValue c.target := by
  have hmem := clampUnit_mem ((now' - c.startTime) / d)
  refine ⟨_, _, _, query_eq hd hfn (hf.eq _ hmem),
    ⟨le_rfl, h.past.trans hnow, h.start, .inr ⟨d, fn, _, hd, hfn, hf.eq _ hmem, rfl⟩⟩, rfl, ?_⟩
  have hone := (hf.mem hmem).2
  rcases h.position with hinit | ⟨d', fn', y, hd', hfn', hy, hlast⟩
  · have hzero := (hf.mem hmem).1
    have hstart : c.init + (c.target - c.init) * 0 = c.lastValue := by
      rw [hinit, mul_zero, add_zero]
    exact hstart ▸ further_mem_uIcc hzero hone
  · obtain rfl : d = d' := Option.some.inj (hd.symm.trans hd')
    obtain rfl : fn = fn' := Option.some.inj (hfn.symm.trans hfn')
    have hmem' := clampUnit_mem ((c.lastTime - c.startTime) / d)
    obtain rfl : f _ = y := Option.some.inj ((hf.eq _ hmem').symm.trans hy)
    have htime : (c.lastTime - c.startTime) / d ≤ (now' - c.startTime) / d :=
      div_le_div_of_nonneg_right (sub_le_sub_right (h.last.trans hnow) _) hpos.le
    rw [hlast]
    exact further_mem_uIcc (hf.mono hmem' hmem (clampUnit_mono htime)) hone

/-- **A query settles** once the duration has passed: the shape ends at one. -/
lemma Channel.Timed.query_settled (h : c.Timed extra now begun) (hpos : 0 < d)
    (hend : begun + d ≤ now') :
    ∃ c' dt, Easing.query c now' extra = (c', .value c.target dt) := by
  have htime : 1 ≤ (now' - c.startTime) / d := by
    rw [one_le_div hpos]
    linarith [h.start]
  have hone : fn (clampUnit ((now' - c.startTime) / d)) extra = some 1 := by
    rw [clampUnit_of_one_le htime, hf.eq 1 (Set.right_mem_Icc.mpr zero_le_one), hf.one]
  have hvalue : c.init + (c.target - c.init) * 1 = c.target := by ring
  exact ⟨_, _, hvalue ▸ query_eq hd hfn hone⟩

end Query

/-- A channel that is started is where it starts. -/
lemma timed_initialise {c? : Option (Channel E)} {c : Channel E} {now v : ℚ} {a : Args E}
    (h : initialise c? now v a = some c) (extra : Option E) : c.Timed extra now now := by
  obtain ⟨target, -, rfl⟩ := Option.map_eq_some_iff.mp h
  exact ⟨le_rfl, le_rfl, le_rfl, .inl rfl⟩

/-- A channel that is updated goes on from where it was. -/
lemma timed_update {c c' : Channel E} {now : ℚ} {a : Args E} (h : update c now a = some c')
    (hd : ∀ d, c.newDuration a = some d → 0 < d) (extra : Option E) : c'.Timed extra now now := by
  obtain ⟨t, ht, h⟩ := Option.bind_eq_some_iff.mp h
  obtain ⟨d, hd', rfl⟩ := Option.map_eq_some_iff.mp h
  have hback : 0 ≤ t * d := mul_nonneg (invertEase_mem ht).1 (hd d hd').le
  exact ⟨le_rfl, le_rfl, sub_le_self _ hback, .inl rfl⟩

/-! ## One call -/

section Step

variable {extra : String → Option E} {w : Clocked E} {a : Action E}

/-- **What a call does**: it returns no value and changes nothing, or it sets its channel and
returns a value that lies ahead.

**Proof sketch.** A query is one of a channel whose shape is that of the query before. An update
returns what was returned last. -/
lemma Clocked.Inv.easing_cases (h : w.Inv extra) (ht : Timely extra w a) :
    (∃ channels out, easing w.session.channels a.now a.id a.args = (channels, out) ∧
      (∀ v dt, out ≠ .value v dt) ∧
        ∀ id, channels.lookup id = w.session.channels.lookup id) ∨
    ∃ c v dt b, easing w.session.channels a.now a.id a.args =
        (w.session.channels.insert a.id c, .value v dt) ∧
      (clockedStep w a).begun.lookup a.id = some b ∧ c.Timed (extra a.id) a.now b ∧
        (a.args.init = none →
          ∃ last, w.session.returned.lookup a.id = some last ∧ v ∈ Set.uIcc last c.target) := by
  have hbegun : ¬ a.args.IsQuery → (clockedStep w a).begun.lookup a.id = some a.now := by
    intro hquery
    rw [clockedStep, if_neg hquery, AList.lookup_insert]
  cases hinit : a.args.init with
  | some v =>
    obtain ⟨c, hc, -⟩ := initialise_spec h.session ht.legal hinit
    have hquery : ¬ a.args.IsQuery := fun hq => by simp [Args.IsQuery, hinit] at hq
    exact .inr ⟨c, v, 0, a.now, easing_initialise hinit hc, hbegun hquery, timed_initialise hc _,
      fun hnone => by cases hnone⟩
  | none =>
    cases hc : w.session.channels.lookup a.id with
    | none => exact .inl ⟨_, _, easing_unknown hinit hc, fun _ _ hv => (by cases hv), fun _ => rfl⟩
    | some c =>
      obtain ⟨hinv, hret⟩ := h.session _ c hc
      obtain ⟨b, hb, htimed⟩ := h.timed _ c hc
      by_cases hquery : a.args.IsQuery
      · have hsame : ∀ id, (w.session.channels.insert a.id c).lookup id =
            w.session.channels.lookup id := by
          intro id
          rw [Table.lookup_insert]
          split_ifs with hid
          · rw [hid, hc]
          · rfl
        rw [easing_query hquery hc]
        cases hd : c.duration with
        | none => exact .inl ⟨_, .nil, by simp only [query, hd], fun _ _ hv => (by cases hv), hsame⟩
        | some d =>
          cases hfn : c.easeFn with
          | none =>
            exact .inl ⟨_, .nil, by simp only [query, hd, hfn], fun _ _ hv => (by cases hv), hsame⟩
          | some fn =>
            obtain ⟨f, hf⟩ := ht.legal.query hquery c fn hc hfn
            rw [ht.same hquery] at hf ⊢
            obtain ⟨c', v, dt, heq, htimed', htarget, hv⟩ :=
              htimed.query hd hfn hf (hinv.duration d hd) ht.clock
            rw [heq]
            refine .inr ⟨c', v, dt, b, rfl, ?_, htimed', fun _ => ⟨_, hret, htarget ▸ hv⟩⟩
            rw [clockedStep, if_pos hquery, hb]
      · have hup : a.args.IsUpdate := ⟨hquery, hinit⟩
        cases hupdate : update c a.now a.args with
        | none =>
          exact .inl ⟨_, _, easing_update_none hup hc hupdate, fun _ _ hv => (by cases hv),
            fun _ => rfl⟩
        | some c' =>
          exact .inr ⟨c', c.lastValue, 0, a.now, easing_update hup hc hupdate, hbegun hquery,
            timed_update hupdate (ht.legal.parameters hinv).1 _,
            fun _ => ⟨_, hret, Set.left_mem_uIcc⟩⟩

/-- Every call keeps the invariant. -/
lemma Clocked.Inv.step (h : w.Inv extra) (ht : Timely extra w a) : (clockedStep w a).Inv extra := by
  refine ⟨h.session.easingStep ht.legal, ?_⟩
  -- the channels that the call does not set
  have hold : ∀ id c, w.session.channels.lookup id = some c →
      ∃ b, (clockedStep w a).begun.lookup id = some b ∧ c.Timed (extra id) a.now b := by
    intro id c hc
    obtain ⟨b, hb, htimed⟩ := h.timed id c hc
    have hle : b ≤ a.now := htimed.past.trans ht.clock
    by_cases hquery : a.args.IsQuery
    · refine ⟨b, ?_, htimed.mono ht.clock le_rfl hle⟩
      rw [clockedStep, if_pos hquery, hb]
    · simp only [clockedStep, if_neg hquery, Table.lookup_insert]
      split_ifs
      · exact ⟨a.now, rfl, htimed.mono ht.clock hle le_rfl⟩
      · exact ⟨b, hb, htimed.mono ht.clock le_rfl hle⟩
  rcases h.easing_cases ht with ⟨channels, out, heq, hout, hsame⟩ | ⟨c, v, dt, b, heq, hb, hc, -⟩
  · have hchannels : (clockedStep w a).session.channels = channels := by
      simp only [clockedStep, easingStep, heq]
    intro id c hc
    rw [hchannels, hsame] at hc
    exact hold id c hc
  · intro id c' hc'
    simp only [clockedStep, easingStep, heq, Table.lookup_insert] at hc'
    split_ifs at hc' with hid
    · obtain rfl : c = c' := Option.some.inj hc'
      exact ⟨b, hid ▸ hb, hid ▸ hc⟩
    · exact hold id c' hc'

/-- Every call is steady. -/
lemma Clocked.Inv.steady (h : w.Inv extra) (ht : Timely extra w a) : Steady w a := by
  constructor
  · intro hinit v dt hv
    rcases h.easing_cases ht with ⟨channels, out, heq, hout, -⟩ | ⟨c, v', dt', b, heq, -, -, hahead⟩
    · rw [heq] at hv
      exact absurd hv (hout v dt)
    · obtain ⟨last, hlast, hmem⟩ := hahead hinit
      rw [heq] at hv
      obtain ⟨rfl, rfl⟩ := Outcome.value.inj hv
      refine ⟨last, c, hlast, ?_, hmem⟩
      simp only [easingStep, heq, AList.lookup_insert]
  · intro hquery c d fn b hc hd hfn hb hend
    obtain ⟨b', hb', htimed⟩ := h.timed _ c hc
    obtain rfl : b = b' := Option.some.inj (hb.symm.trans hb')
    obtain ⟨f, hf⟩ := ht.legal.query hquery c fn hc hfn
    rw [easing_query hquery hc, ht.same hquery]
    rw [ht.same hquery] at hf
    obtain ⟨c', dt, heq⟩ :=
      htimed.query_settled hd hfn hf ((h.session _ c hc).1.duration d hd) hend
    exact ⟨dt, by rw [heq]⟩

end Step

/-- **A channel never turns back and never overshoots, and it arrives in time.** In every run of
initialisations, queries and updates of any channels with shapes, positive durations and tolerances
between zero and one, on a clock that does not go back and with the same extra arguments in all
queries of a channel: every value that a query or an update returns lies between the value that was
returned last for the channel and its target, and a query returns the target if the duration has
passed since the last call for the channel that was no query.

**Proof sketch.** The invariant says that a channel is where its shape had it when it was asked
last, or has not been asked yet; the shape rises, and the clock does not go back. An update starts
at most one duration ago, so that it does not arrive later than one that starts at its own time. -/
theorem steady_of_timely (extra : String → Option E) (t : ℚ) (as : List (Action E))
    (htimely : Run.EachStep clockedStep (Timely extra) { now := t } as) :
    Run.EachStep clockedStep Steady { now := t } as :=
  Run.eachStep_of_step (I := Clocked.Inv extra) (fun _ _ h ht => h.step ht)
    (fun _ _ h ht => h.steady ht) ⟨inv_empty, fun _ _ hc => by simp at hc⟩ htimely

/-- A query of a channel with the linear shape. -/
lemma timely_query_linear {w : Clocked ℕ} {a : Action ℕ} {t value : ℚ} (ha : a.args = {})
    (hc : w.session.channels.lookup a.id = some (startedChannel t value)) (hclock : w.now ≤ a.now) :
    Timely (fun _ => none) w a where
  clock := hclock
  same := fun _ => by rw [ha]
  legal := by
    have hquery : a.args.IsQuery := by rw [ha]; exact ⟨rfl, rfl, rfl, rfl⟩
    refine ⟨?_, ?_, ?_, ?_, fun hup => absurd hquery hup.1⟩
    · rw [ha]
      rintro d ⟨⟩
    · rw [ha]
      rintro eps ⟨⟩
    · rw [ha]
      rintro v ⟨⟩
    · rintro - c fn hc' hfn
      obtain rfl : startedChannel t value = c := Option.some.inj (hc.symm.trans hc')
      obtain rfl : easeLinear = fn := Option.some.inj hfn
      exact ⟨id, shaping_easeLinear _⟩

/-- A channel is asked halfway and at the end of its way, and is then sent back. -/
theorem steady_of_timely_back :
    Run.EachStep clockedStep Steady { now := 0 }
      [start, ⟨"x", 1 / 2, {}⟩, ⟨"x", 1, {}⟩, ⟨"x", 3 / 2, { target := some 0 }⟩] := by
  have hup : ({ target := some 0 } : Args ℕ).IsUpdate := ⟨by simp [Args.IsQuery], rfl⟩
  refine steady_of_timely (fun _ => none) 0 _ ⟨⟨legal_start _, le_rfl, fun _ => rfl⟩,
    timely_query_linear (t := 0) rfl rfl ?_,
    timely_query_linear (t := 1 / 2) rfl rfl ?_,
    ⟨legal_update_linear (t := 1) hup rfl rfl ?_ ?_, ?_, fun _ => rfl⟩, trivial⟩
  · exact (by norm_num : (0 : ℚ) ≤ 1 / 2)
  · exact (by norm_num : (1 / 2 : ℚ) ≤ 1)
  · rintro d ⟨⟩
  · rintro eps ⟨⟩
  · exact (by norm_num : (1 : ℚ) ≤ 3 / 2)

end Aelkey.Easing
