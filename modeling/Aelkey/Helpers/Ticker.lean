import Aelkey.Loop.TimerTable

set_option relaxedAutoImplicit false
set_option autoImplicit false

/-!
# The ticker

`aelkey_ticker.lua` keeps a flag `active` next to the timer of its handler. `start` sets the flag,
calls `fn` if the ticker is immediate, and then arms the timer, whatever `fn` has done to the flag
in the meantime. This file has one ticker under all its calls, with those that wait for `fn`.

## Main definitions

* `Aelkey.Ticker`, `Aelkey.Ticker.new` — an instance.
* `Aelkey.Ticker.Running`, `Aelkey.Ticker.tickerStep` — an instance with its timer and the calls in
  progress.
* `Aelkey.Ticker.ArmedWhileActive` — the timer is armed iff the ticker is active.
* `Aelkey.Ticker.ArmsActive` — a `start` that ends finds the ticker still active.

## Main results

* `Aelkey.Ticker.armedWhileActive_iff_armsActive` — the first holds between the calls of `start` in
  every state of a run iff the second holds at every step.
* `Aelkey.Ticker.not_armedWhileActive_stop` — an immediate ticker whose `fn` stops it.

## Design

What `fn` does is part of the run: the calls that follow a call of `fn`, up to its return, are those
that `fn` makes. `aelkey.tick` is the map from keys to intervals of the scheduler, in which an
interval that is not positive cancels. An interval is the integer that the scheduler gets, after the
conversion to the `int` that `core_tick` takes. The registry of `set` is left out.
-/

namespace Aelkey

/-- An instance. Of `fn` only matters whether it is there; the handler is a function of its own. -/
structure Ticker where
  intervalMs : ℤ
  immediate : Bool
  fn : Bool
  active : Bool
  handler : ℕ

namespace Ticker

open Ticks

/-! ## One ticker -/

/-- The options of `new`. -/
structure Opts where
  interval : Option ℤ := none
  immediate : Option Bool := none
  fn : Bool := true

/-- `new`. -/
def new (opts : Opts) (handler : ℕ) : Ticker where
  intervalMs := opts.interval.getD 20
  immediate := opts.immediate.getD false
  fn := opts.fn
  active := false
  handler := handler

/-- The calls that wait for `fn` to return. -/
inductive Waiting
  | start
  | handler
deriving DecidableEq

/-- An instance, the timers by their keys, and the calls that wait for `fn`, the innermost first. -/
structure Running where
  self : Ticker
  timers : Table TickKey ℕ := ∅
  waiting : List Waiting := []

/-- `aelkey.tick(ms, self.handler)`, where `ms` is the time after its conversion to a C `int`. -/
def Running.tick (r : Running) (ms : ℤ) : Running :=
  { r with timers := setKey r.timers ms.toNat (some (.function r.self.handler)) }

/-- The timer of the handler is armed. -/
def Running.Armed (r : Running) : Prop := .function r.self.handler ∈ r.timers

instance (r : Running) : Decidable r.Armed := inferInstanceAs (Decidable (_ ∈ _))

/-- Set the flag. -/
def Running.setActive (r : Running) (active : Bool) : Running :=
  { r with self := { r.self with active := active } }

/-- A call of a method, a delivery of the timer, or the return of the innermost call of `fn`. -/
inductive TickerAction
  | start
  | stop
  | reset
  | deliver
  | fnReturns
deriving DecidableEq

/-- `start`, up to its call of `fn`. -/
def Running.start (r : Running) : Running :=
  if r.self.active then r
  else
    let r := r.setActive true
    if r.self.immediate ∧ r.self.fn then { r with waiting := .start :: r.waiting }
    else r.tick r.self.intervalMs

/-- `stop`. -/
def Running.stop (r : Running) : Running :=
  if !r.self.active then r else (r.setActive false).tick 0

/-- `reset`. -/
def Running.reset (r : Running) : Running := (r.tick 0).setActive false

/-- The handler, up to its call of `fn`. -/
def Running.handler (r : Running) : Running :=
  if r.self.active ∧ r.self.fn then { r with waiting := .handler :: r.waiting } else r

/-- The rest of the innermost call that waits for `fn`. -/
def Running.fnReturns (r : Running) : Running :=
  match r.waiting with
  | [] => r
  | .start :: waiting => { r with waiting := waiting }.tick r.self.intervalMs
  | .handler :: waiting => { r with waiting := waiting }

/-- One action. The event loop delivers a timer that is armed, and only when no call is in
progress. -/
def tickerStep (r : Running) : TickerAction → Running
  | .start => r.start
  | .stop => r.stop
  | .reset => r.reset
  | .deliver => if r.waiting = [] ∧ r.Armed then r.handler else r
  | .fnReturns => r.fnReturns

/-- **The timer is armed exactly while the ticker is active**, whenever no call of the ticker is in
progress; `stop` and `reset` are done at once, so that only calls of `start` can be. -/
def ArmedWhileActive (r : Running) : Prop :=
  .start ∉ r.waiting → (r.Armed ↔ r.self.active = true)

/-- If the step ends a call of `start` that is within no other one, so that it arms the timer, then
the ticker is active exactly if the interval is positive. -/
def ArmsActive (r : Running) : TickerAction → Prop
  | .start => r.self.active = false → ¬ (r.self.immediate = true ∧ r.self.fn = true) →
      .start ∉ r.waiting → 0 < r.self.intervalMs
  | .fnReturns => ∀ waiting, r.waiting = .start :: waiting → .start ∉ waiting →
      (r.self.active = true ↔ 0 < r.self.intervalMs)
  | _ => True

instance (r : Running) : Decidable (ArmedWhileActive r) := inferInstanceAs (Decidable (_ → _))

/-! ## Steps -/

/-- `tick` arms the timer iff the interval is positive. -/
lemma armed_tick (r : Running) (ms : ℤ) : (r.tick ms).Armed ↔ 0 < ms := by
  unfold Running.tick Running.Armed setKey
  split_ifs with h
  · simp only [AList.mem_erase, ne_eq, not_true_eq_false, false_and, false_iff]
    omega
  · simp only [AList.mem_insert, true_or, true_iff]
    omega

/-- Setting the flag does not touch the timer. -/
lemma armed_setActive (r : Running) (active : Bool) : (r.setActive active).Armed ↔ r.Armed := Iff.rfl

/-- `tick` does not touch the flag. -/
lemma active_tick (r : Running) (ms : ℤ) : (r.tick ms).self.active = r.self.active := rfl

/-- `stop` ends the timer, if the timer is armed exactly while the ticker is active. -/
lemma not_armed_stop {r : Running} (h : ArmedWhileActive r) (hwaiting : .start ∉ r.waiting) :
    ¬ r.stop.Armed := by
  unfold Running.stop
  split_ifs with hactive
  · rw [h hwaiting]
    simpa using hactive
  · rw [armed_tick]
    exact Int.lt_irrefl 0

/-- A timer calls `fn` only while the ticker is active. -/
lemma active_of_handler {r : Running} (h : r.handler.waiting ≠ r.waiting) :
    r.self.active = true := by
  unfold Running.handler at h
  split_ifs at h with hcalls
  · exact hcalls.1
  · exact absurd rfl h

/-- A call of `start` that arms the timer decides about the timer by the interval alone. -/
lemma armedWhileActive_start_iff {r : Running} (h : ArmedWhileActive r) :
    ArmedWhileActive r.start ↔ ArmsActive r .start := by
  by_cases hactive : r.self.active = true
  · rw [Running.start, if_pos hactive]
    exact iff_of_true h fun hoff => absurd (hoff.symm.trans hactive) Bool.false_ne_true
  · have hoff : r.self.active = false := Bool.not_eq_true _ ▸ hactive
    by_cases hfires : r.self.immediate = true ∧ r.self.fn = true
    · -- `fn` is called first
      have hstart : r.start = { r.setActive true with waiting := .start :: r.waiting } := by
        rw [Running.start, if_neg hactive]
        exact if_pos hfires
      rw [hstart]
      exact iff_of_true (fun hw => absurd (List.mem_cons_self ..) hw) fun _ hn => absurd hfires hn
    · have hstart : r.start = (r.setActive true).tick r.self.intervalMs := by
        rw [Running.start, if_neg hactive]
        exact if_neg hfires
      rw [hstart, ArmedWhileActive, armed_tick, active_tick]
      simp only [ArmsActive, hoff, hfires, not_false_eq_true, forall_const]
      exact forall_congr' fun _ => iff_true_right rfl

/-- So does the return of `fn` to a call of `start`, whatever `fn` has done to the flag. -/
lemma armedWhileActive_fnReturns_iff {r : Running} (h : ArmedWhileActive r) :
    ArmedWhileActive r.fnReturns ↔ ArmsActive r .fnReturns := by
  simp only [Running.fnReturns, ArmsActive]
  split
  · next hw => exact iff_of_true h fun waiting hc => by simp [hw] at hc
  · next waiting hw =>
    rw [ArmedWhileActive, armed_tick, active_tick]
    simp only [hw, List.cons.injEq, true_and, forall_eq']
    exact forall_congr' fun _ => iff_comm
  · next waiting hw =>
    refine iff_of_true (fun hnot => h ?_) fun waiting' hc => by simp [hw] at hc
    rw [hw]
    simpa using hnot

/-- A step keeps the timer armed exactly while the ticker is active iff a call of `start` that it
ends finds the ticker active.

**Proof sketch.** `stop` and `reset` clear both, and a delivery changes neither. -/
lemma armedWhileActive_step_iff {r : Running} (h : ArmedWhileActive r) (a : TickerAction) :
    ArmedWhileActive (tickerStep r a) ↔ ArmsActive r a := by
  cases a with
  | start => exact armedWhileActive_start_iff h
  | stop =>
    refine iff_of_true ?_ trivial
    simp only [tickerStep, Running.stop]
    split_ifs with hactive
    · exact h
    · intro _
      rw [armed_tick, active_tick]
      exact iff_of_false (Int.lt_irrefl 0) Bool.false_ne_true
  | reset =>
    refine iff_of_true (fun _ => ?_) trivial
    rw [tickerStep, Running.reset, armed_setActive, armed_tick]
    exact iff_of_false (Int.lt_irrefl 0) Bool.false_ne_true
  | deliver =>
    refine iff_of_true ?_ trivial
    simp only [tickerStep, Running.handler]
    split_ifs
    · exact fun hw => h fun hmem => hw (List.mem_cons_of_mem _ hmem)
    · exact h
    · exact h
  | fnReturns => exact armedWhileActive_fnReturns_iff h

/-! ## Runs -/

/-- A new ticker, with nothing armed. -/
def fresh (opts : Opts) (handler : ℕ) : Running := { self := new opts handler }

/-- **When a ticker's timer is armed exactly while it is active.** For every ticker and every run of
`start`, `stop`, `reset` and deliveries of the timer, with calls of the same ticker by `fn` in any
nesting: in all states of the run in which no call of the ticker is in progress the timer is armed
iff the ticker is active, if and only if every call of `start` that arms the timer, within no other
one, finds the ticker active exactly if the interval is positive. -/
theorem armedWhileActive_iff_armsActive (opts : Opts) (handler : ℕ) (as : List TickerAction) :
    Run.Always tickerStep ArmedWhileActive (fresh opts handler) as ↔
      Run.EachStep tickerStep ArmsActive (fresh opts handler) as :=
  Run.always_iff_eachStep_of_step (I := fun _ => True) (fun _ _ _ _ _ => trivial)
    (fun _ a _ h => armedWhileActive_step_iff h a) trivial
    (fun _ => iff_of_false (AList.notMem_empty _) Bool.false_ne_true) as

/-- **An immediate ticker that stops itself at once.** Its `fn` stops it, and `start` arms the timer
all the same; no call is left in progress. -/
theorem not_armedWhileActive_stop :
    ([.start, .stop, .fnReturns].foldl tickerStep (fresh { immediate := true } 1)).waiting = [] ∧
      ¬ Run.Always tickerStep ArmedWhileActive (fresh { immediate := true } 1)
        [.start, .stop, .fnReturns] := by
  decide

end Ticker

end Aelkey
