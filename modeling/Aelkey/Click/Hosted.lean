import Aelkey.Click.Accounting
import Aelkey.Loop.Heartbeat

set_option relaxedAutoImplicit false
set_option autoImplicit false

/-!
# Clicks are counted on the real scheduler

`Aelkey.Click.Accounting` has the module next to a heartbeat that is delivered while it is armed.
Here the heartbeat is a timer of the scheduler, which also serves all other code, and is delivered by
the loop from a batch of events in which some may be stale.

## Main definitions

* `Aelkey.Click.clickClient` — the module as a client of the scheduler.
* `Aelkey.Click.Offered` — the calls of other code.

## Main results

* `Aelkey.Click.accounted_iff_undisturbed` — clicks and actions agree, and the scheduler has the
  timer of the pending burst, iff no other code calls `tick(0)` during a burst.
-/

namespace Aelkey.Click

open Ticks

variable {β γ : Type*}

/-- The time of a call of `aelkey.tick`. -/
def Call.time : Call β γ → Option ℚ
  | .tick interval => some interval
  | _ => none

/-- The module as a client of the scheduler: its heartbeat is `click_handler`. -/
def clickClient [DecidableEq β] (conv : IntArg) : Client (Watch β γ) (Op β γ) where
  step := step conv
  ticks w op := times conv Call.time (op.run w.clicker).2
  beat := .heartbeat
  interval w := if w.armed then some (conv.toInt w.clicker.interval).toNat else none

/-- What other code may call: `detect` with a downward-closed set of actions, and `configure` between
bursts, with a window and an interval that are positive, the interval also as `aelkey.tick` reads
it. The handler is local. -/
def Offered (conv : IntArg) (w : Watch β γ) : Op β γ → Prop
  | .heartbeat => False
  | .detect button single double triple => Admissible w (.detect button single double triple)
  | .configure opts => Admissible w (.configure opts) ∧ Armable conv w (.configure opts)

/-- Clicks and actions agree, and a pending burst is not older than the threshold. -/
structure Counted (w : Watch β γ) : Prop where
  accounted : Accounted w
  inWindow : w.clicker.pending = true → (w.clicker.tickCount : ℤ) ≤ w.clicker.threshold

instance (conv : IntArg) (w : Watch β γ) : DecidablePred (Offered conv w)
  | .heartbeat => .isFalse id
  | .detect button single double triple =>
    inferInstanceAs (Decidable (Admissible w (.detect button single double triple)))
  | .configure opts =>
    inferInstanceAs (Decidable (Admissible w (.configure opts) ∧ Armable conv w (.configure opts)))

/-! ## The times that the module asks for -/

/-- A call follows the heartbeat by its time. -/
lemma arms_eq_time (conv : IntArg) (armed : Bool) (c : Call β γ) :
    Call.arms conv armed c = (Call.time c).elim armed fun q => decide (0 < conv.toInt q) := by
  cases c <;> rfl

/-- The calls stop the heartbeat or start it with the interval of the module, which stays. -/
structure Timed (m : Clicker β γ) (r : Clicker β γ × List (Call β γ)) : Prop where
  interval : r.1.interval = m.interval
  time : ∀ c ∈ r.2, ∀ q ∈ c.time, q = 0 ∨ q = m.interval

/-- Two operations after each other. -/
lemma Timed.trans {m : Clicker β γ} {r₁ r₂ : Clicker β γ × List (Call β γ)} (h₁ : Timed m r₁)
    (h₂ : Timed r₁.1 r₂) : Timed m (r₂.1, r₁.2 ++ r₂.2) where
  interval := h₂.interval.trans h₁.interval
  time c hc := by
    rcases List.mem_append.mp hc with hc | hc
    · exact h₁.time c hc
    · rw [← h₁.interval]
      exact h₂.time c hc

/-- An operation without calls. -/
lemma timed_silent {m m' : Clicker β γ} (h : m'.interval = m.interval) : Timed m (m', []) :=
  ⟨h, fun _ hc => absurd hc List.not_mem_nil⟩

/-- Calls of actions and a `reset`. -/
lemma timed_reset {m m' : Clicker β γ} (h : m'.interval = m.interval) {calls : List (Call β γ)}
    (hcalls : ∀ c ∈ calls, c.time = none) : Timed m ((reset m').1, calls ++ (reset m').2) where
  interval := h
  time c hc q hq := by
    rcases List.mem_append.mp hc with hc | hc
    · rw [hcalls c hc] at hq
      cases hq
    · obtain rfl := List.mem_singleton.mp hc
      exact .inl (Option.some.inj hq).symm

/-- The call of an action is no call of `aelkey.tick`. -/
lemma time_of_mem_act {call : γ → Option β → Call β γ} (h : ∀ f code, (call f code).time = none)
    {action : Option γ} {code : Option β} {c : Call β γ} (hc : c ∈ act call action code) :
    c.time = none := by
  rcases action with _ | f
  · cases hc
  · obtain rfl := List.mem_singleton.mp hc
    exact h f code

/-- The heartbeat. -/
lemma timed_clickHandler (m : Clicker β γ) : Timed m (clickHandler m) := by
  rw [clickHandler]
  dsimp only
  split_ifs with h₁ h₂ h₃ h₄
  · exact timed_reset rfl fun c hc => time_of_mem_act (fun _ _ => rfl) hc
  · exact timed_reset rfl fun c hc => time_of_mem_act (fun _ _ => rfl) hc
  · exact timed_reset rfl fun c hc => time_of_mem_act (fun _ _ => rfl) hc
  · exact timed_reset rfl fun c hc => absurd hc List.not_mem_nil
  · exact timed_silent rfl

/-- A click of another button. -/
lemma timed_flush [DecidableEq β] (m : Clicker β γ) (b : β) : Timed m (flush m b) := by
  rw [flush]
  dsimp only
  split_ifs
  · exact timed_reset rfl fun c hc => time_of_mem_act (fun _ _ => rfl) hc
  · exact timed_reset rfl fun c hc => time_of_mem_act (fun _ _ => rfl) hc
  · exact timed_reset rfl fun c hc => absurd hc List.not_mem_nil
  · exact timed_silent rfl

/-- The first click of a burst. -/
lemma timed_firstClick (m : Clicker β γ) (b : β) (single double triple : Option γ) :
    Timed m (firstClick m b single double triple) := by
  rw [firstClick]
  dsimp only
  split_ifs
  · exact timed_reset rfl fun c hc => time_of_mem_act (fun _ _ => rfl) hc
  · refine ⟨rfl, fun c hc q hq => ?_⟩
    obtain rfl := List.mem_singleton.mp hc
    exact .inr (Option.some.inj hq).symm

/-- A later click of a burst. -/
lemma timed_nextClick (m : Clicker β γ) (b : β) : Timed m (nextClick m b) := by
  rw [nextClick]
  dsimp only
  split_ifs
  · exact timed_reset rfl fun c hc => time_of_mem_act (fun _ _ => rfl) hc
  · exact timed_reset rfl fun c hc => time_of_mem_act (fun _ _ => rfl) hc
  · exact timed_silent rfl
  · exact timed_silent rfl
  · exact timed_silent rfl

/-- A click. -/
lemma timed_detect [DecidableEq β] (m : Clicker β γ) (b : β) (single double triple : Option γ) :
    Timed m (detect m b single double triple) := by
  rw [detect]
  split_ifs
  · exact (timed_flush m b).trans (timed_firstClick _ b single double triple)
  · exact (timed_flush m b).trans (timed_nextClick _ b)

/-! ## The module on the scheduler -/

variable [DecidableEq β] {conv : IntArg}

/-- Operations that ask for the interval only arm the heartbeat by their calls of `aelkey.tick`. -/
lemma interval_step {w : Watch β γ} (hk : Keeps conv w.clicker) {op : Op β γ}
    (h : Timed w.clicker (op.run w.clicker)) :
    (clickClient conv).interval (step conv w op) =
      ticksTimer ((clickClient conv).interval w) ((clickClient conv).ticks w op) := by
  have harms : (step conv w op).armed = (op.run w.clicker).2.foldl
      (fun b c => (Call.time c).elim b fun q => decide (0 < conv.toInt q)) w.armed := by
    simp only [step, ← arms_eq_time]
  have hinterval : (step conv w op).clicker.interval = w.clicker.interval := h.interval
  simp only [clickClient]
  rw [ticksTimer_times hk.armable h.time, harms, hinterval]

/-- **The laws of the module**: clicks and actions agree between its operations, and its calls of
`aelkey.tick` arm the heartbeat. -/
lemma lawful_clickClient : (clickClient (β := β) (γ := γ) conv).Lawful
    (fun w => Accounted w ∧ Keeps conv w.clicker) (Offered conv) where
  op w op hw hop := by
    cases op with
    | heartbeat => exact absurd hop id
    | detect button single double triple => exact accounted_step hw.1 hw.2 hop trivial
    | configure opts => exact accounted_step hw.1 hw.2 hop.1 hop.2
  interval_op w op hw hop := by
    cases op with
    | heartbeat => exact absurd hop id
    | detect button single double triple =>
      exact interval_step hw.2 (timed_detect w.clicker button single double triple)
    | configure opts =>
      have harmed : w.armed = false := by
        rw [← Bool.not_eq_true, hw.1.armed_iff, hop.1.1]
        exact Bool.false_ne_true
      simp [clickClient, step, Op.run, harmed, times, ticksTimer]
  beat w hw harmed := by
    have hadm : Admissible w .heartbeat := by
      by_contra hoff
      have hoff' : w.armed = false := Bool.not_eq_true _ ▸ hoff
      simp [clickClient, hoff'] at harmed
    exact accounted_step hw.1 hw.2 hadm trivial
  interval_beat w hw _ := interval_step hw.2 (timed_clickHandler w.clicker)

/-- **Clicks are counted exactly on the real scheduler.** Along every run of clicks with
downward-closed sets of actions, of configurations between bursts with a window and an interval that
are positive, the interval also as `aelkey.tick` reads it, of other code that calls `aelkey.tick`,
and of the loop with its batches of events, where callbacks return and do not call the module: in
all states clicks and actions agree, a pending burst is not older than the threshold, and the
scheduler has exactly one timer for the heartbeat, set to the interval, while a burst is pending and
none otherwise, iff no other code calls `tick(0)` while a burst is pending.

**Proof sketch.** The laws of the module are its accounting step and the times that it asks for; the
host delivers a heartbeat only while it is armed. -/
theorem accounted_iff_undisturbed (conv : IntArg) (handler : ℕ) (xs : List (HostAction (Op β γ)))
    (h : Run.EachStep ((clickClient conv).hostStep (.function handler))
      (Client.Legal (.function handler) (Offered conv)) ⟨start, {}⟩ xs) :
    Run.Always ((clickClient conv).hostStep (.function handler))
        (fun w => Counted w.own ∧ (clickClient conv).Beats (.function handler) w) ⟨start, {}⟩ xs ↔
      Run.EachStep ((clickClient conv).hostStep (.function handler)) (clickClient conv).Undisturbed
        ⟨start, {}⟩ xs :=
  Client.always_beats_iff lawful_clickClient (J := Counted)
    (fun _ hw => ⟨hw.1, hw.2.inWindow⟩) (accounted_start conv) rfl h

/-- Two clicks with three actions, whose heartbeats expire at an interval of 100 in a window of 200;
a third click, of another button, is still pending when other code sets a timer of its own. -/
def hostedClicks : List (HostAction (Op ℕ ℕ)) :=
  [.op (.configure { window := some 200, interval := some 100 }) .above,
    .op (.detect 1 (some 10) (some 20) (some 30)) .above,
    .op (.detect 1 (some 10) (some 20) (some 30)) .above, .wait [1], .deliver true true .above,
    .finish, .op (.detect 2 (some 11) (some 21) none) .above, .wait [1, 2],
    .deliver true true .above, .finish, .tick 50 (some (.function 1)) .above]

/-- The clicks of the example are counted, until other code ends all timers during the burst. -/
theorem accounted_iff_undisturbed_burst :
    Run.Always ((clickClient .nearest).hostStep (.function 0))
        (fun w => Counted w.own ∧ (clickClient .nearest).Beats (.function 0) w) ⟨start, {}⟩
        hostedClicks ∧
      ¬ Run.Always ((clickClient .nearest).hostStep (.function 0))
        (fun w => Counted w.own ∧ (clickClient .nearest).Beats (.function 0) w) ⟨start, {}⟩
        (hostedClicks ++ [.tick 0 none .above]) := by
  refine ⟨(accounted_iff_undisturbed .nearest 0 hostedClicks (by decide +kernel)).mpr
    (by decide +kernel), fun h => ?_⟩
  exact absurd ((accounted_iff_undisturbed .nearest 0 _ (by decide +kernel)).mp h)
    (by decide +kernel)

end Aelkey.Click
