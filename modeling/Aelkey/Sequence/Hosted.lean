import Aelkey.Sequence.Protocol
import Aelkey.Loop.Heartbeat

set_option relaxedAutoImplicit false
set_option autoImplicit false

/-!
# Sessions on the real scheduler

`Aelkey.Sequence.Protocol` has an instance next to a heartbeat. Here the heartbeat is a timer of the
scheduler, which serves other instances and other code, too.

## Main definitions

* `Aelkey.Sequence.Protocol.seqClient` — an instance as a client of the scheduler.

## Main results

* `Aelkey.Sequence.Protocol.proper_iff_undisturbed` — the sessions follow the protocol, and the
  scheduler has the timer of the current one, iff no other code calls `tick(0)` during a session.
-/

namespace Aelkey.Sequence.Protocol

open Ticks

variable {β γ : Type*}

/-- The time of a call of `aelkey.tick`. -/
def time : Call γ → Option ℚ
  | .tick interval => some interval
  | _ => none

/-- An instance as a client of the scheduler: its heartbeat is its handler. -/
def seqClient [DecidableEq β] (conv : IntArg) : Client (Tracked β γ) (Op β γ) where
  step := step conv
  ticks m op := times conv time (op.run m.seq).2
  beat := .heartbeat
  interval m := if m.armed then some (conv.toInt m.seq.intervalMs).toNat else none

/-- Other code does not call the handler. -/
def Offered (_ : Tracked β γ) : Op β γ → Prop
  | .heartbeat => False
  | .detect _ _ | .reset => True

instance (m : Tracked β γ) : DecidablePred (Offered m)
  | .heartbeat => .isFalse id
  | .detect _ _ | .reset => .isTrue trivial

/-! ## The times that an instance asks for -/

/-- A call follows the heartbeat by its time. -/
lemma arms_eq_time (conv : IntArg) (armed : Bool) (c : Call γ) :
    arms conv armed c = (time c).elim armed fun q => decide (0 < conv.toInt q) := by
  cases c <;> rfl

/-- The calls stop the heartbeat or start it with `interval`. -/
def Timed (interval : ℚ) (calls : List (Call γ)) : Prop :=
  ∀ c ∈ calls, ∀ q ∈ time c, q = 0 ∨ q = interval

/-- Calls of callbacks are no calls of `aelkey.tick`. -/
lemma timed_of_time_none {interval : ℚ} {calls : List (Call γ)} (h : ∀ c ∈ calls, time c = none) :
    Timed interval calls := by
  intro c hc q hq
  rw [h c hc] at hq
  cases hq

/-- No calls. -/
lemma timed_nil {interval : ℚ} : Timed interval ([] : List (Call γ)) :=
  fun _ hc => absurd hc List.not_mem_nil

/-- The call of a callback, if it is there. -/
lemma timed_callback (interval : ℚ) (call : γ → Call γ) (h : ∀ f, time (call f) = none)
    (o : Option γ) : Timed interval (o.map call).toList := by
  apply timed_of_time_none
  rcases o with _ | f
  · exact fun _ hc => absurd hc List.not_mem_nil
  · exact fun c hc => List.mem_singleton.mp hc ▸ h f

/-- Calls after each other. -/
lemma Timed.append {interval : ℚ} {calls calls' : List (Call γ)} (h : Timed interval calls)
    (h' : Timed interval calls') : Timed interval (calls ++ calls') := by
  intro c hc
  exact (List.mem_append.mp hc).elim (h c) (h' c)

/-- A call of `aelkey.tick`. -/
lemma timed_tick {interval q : ℚ} (h : q = 0 ∨ q = interval) :
    Timed interval [(.tick q : Call γ)] := by
  intro c hc q' hq'
  obtain rfl := List.mem_singleton.mp hc
  exact Option.some.inj hq' ▸ h

/-- `reset` stops the heartbeat. -/
lemma timed_reset (interval : ℚ) (self : Seq β γ) : Timed interval (reset self).2 := by
  have hforced : Timed interval (if self.stream && self.active then
      (self.timeoutFn.map Call.timeoutFn).toList else []) := by
    split_ifs
    · exact timed_callback _ _ (fun _ => rfl) self.timeoutFn
    · exact timed_nil
  exact (timed_tick (.inl rfl)).append hforced

/-- The heartbeat. -/
lemma timed_handler (interval : ℚ) (self : Seq β γ) : Timed interval (handler self).2 := by
  rw [handler]
  dsimp only
  split_ifs
  · exact (timed_callback _ _ (fun _ => rfl) self.timeoutFn).append (timed_reset interval _)
  · exact timed_nil

/-- A match. -/
lemma timed_matchEnd (interval : ℚ) (self : Seq β γ) (f : γ) :
    Timed interval (matchEnd self f).2 := by
  rw [matchEnd]
  dsimp only
  split_ifs
  · exact timed_callback _ Call.matchFn (fun _ => rfl) (some f)
  · exact (timed_callback _ Call.matchFn (fun _ => rfl) (some f)).append
      (timed_reset interval _)

variable [DecidableEq β]

/-- The second half of `detect`. -/
lemma timed_detectAdvance (interval : ℚ) (self : Seq β γ) (b : β) :
    Timed interval (detectAdvance self b).2 := by
  rw [detectAdvance]
  dsimp only
  split
  · exact timed_matchEnd interval _ _
  · exact timed_nil

/-- **Every operation** stops the heartbeat or starts it with the interval of the instance. -/
lemma timed_run (self : Seq β γ) (op : Op β γ) : Timed self.intervalMs (op.run self).2 := by
  cases op with
  | heartbeat => exact timed_handler _ self
  | reset => exact timed_reset _ self
  | detect b fns =>
    rw [Op.run, detect]
    dsimp only
    split_ifs
    · exact timed_nil
    · exact timed_nil
    · have hstart := (timed_callback self.intervalMs Call.startFn (fun _ => rfl)
        (some fns.startFn)).append (timed_tick (.inr rfl))
      split
      · exact hstart.append (timed_matchEnd _ _ _)
      · exact hstart.append (timed_detectAdvance _ _ b)
    · exact timed_detectAdvance _ _ b

/-! ## An instance on the scheduler -/

variable {conv : IntArg}

variable (conv) in
/-- What a step does to the instance and its heartbeat does not depend on the session. -/
lemma step_run (m : Tracked β γ) (op : Op β γ) :
    (step conv m op).seq = (op.run m.seq).1 ∧
      (step conv m op).armed = (op.run m.seq).2.foldl (arms conv) m.armed := by
  rw [step]
  split
  · exact ⟨rfl, rfl⟩
  · split_ifs <;> exact ⟨rfl, rfl⟩

/-- Every operation arms the heartbeat by its calls of `aelkey.tick`. -/
lemma interval_step {m : Tracked β γ} (h : Proper m) (hk : Keeps conv m) (op : Op β γ) :
    (seqClient conv).interval (step conv m op) =
      ticksTimer ((seqClient conv).interval m) ((seqClient conv).ticks m op) := by
  have hconf := hk.sameConfig h op
  obtain ⟨hseq, hstep⟩ := step_run conv m op
  have harms : (op.run m.seq).2.foldl (arms conv) m.armed = (op.run m.seq).2.foldl
      (fun b c => (time c).elim b fun q => decide (0 < conv.toInt q)) m.armed := by
    simp only [← arms_eq_time]
  simp only [seqClient]
  rw [ticksTimer_times hk.armable (timed_run m.seq op), hstep, harms, hseq, hconf.intervalMs]

/-- **The laws of an instance**: its sessions follow the protocol between its operations, and its
calls of `aelkey.tick` arm the heartbeat. -/
lemma lawful_seqClient : (seqClient (β := β) (γ := γ) conv).Lawful
    (fun m => Proper m ∧ Keeps conv m) Offered where
  op _ op hm _ := proper_step op hm.1 hm.2
  interval_op _ op hm _ := interval_step hm.1 hm.2 op
  beat _ hm _ := proper_step .heartbeat hm.1 hm.2
  interval_beat _ hm _ := interval_step hm.1 hm.2 .heartbeat

/-- **Sessions on the real scheduler.** For every configuration with a window and an interval that
are positive, the interval also as the `int` of `aelkey.tick`, and every list of patterns, along
every run of presses, each with three callbacks that return and do not call the instance, of `reset`
calls, of other code that calls `aelkey.tick` but not with the handler, and of the loop with its
batches of events: in all states all sessions follow the protocol, and the scheduler has exactly one
timer for the heartbeat, set to the interval, while a session is active and none otherwise, iff no
other code calls `tick(0)` during a session.

**Proof sketch.** The laws of the instance are the protocol step and the times that it asks for. -/
theorem proper_iff_undisturbed (conv : IntArg) (handler : ℕ) (opts : Opts)
    (patterns : List (List β)) (hw : 0 < (new opts patterns : Seq β γ).windowMs)
    (hi : 0 < (new opts patterns : Seq β γ).intervalMs)
    (harm : 0 < conv.toInt (new opts patterns : Seq β γ).intervalMs)
    (xs : List (HostAction (Op β γ)))
    (h : Run.EachStep ((seqClient conv).hostStep (.function handler))
      (Client.Legal (.function handler) Offered) ⟨start opts patterns, {}⟩ xs) :
    Run.Always ((seqClient conv).hostStep (.function handler))
        (fun w => Proper w.own ∧ (seqClient conv).Beats (.function handler) w)
        ⟨start opts patterns, {}⟩ xs ↔
      Run.EachStep ((seqClient conv).hostStep (.function handler)) (seqClient conv).Undisturbed
        ⟨start opts patterns, {}⟩ xs :=
  Client.always_beats_iff lawful_seqClient (J := Proper) (fun _ hm => hm.1)
    (proper_start opts patterns hw hi harm) rfl h

/-- A session that goes on after a heartbeat and ends by the next two, in a window of 20 with an
interval of 10, and one that a match ends; other code has a timer that expires with the first. -/
def hostedPresses : List (HostAction (Op ℕ ℕ)) :=
  [.tick 10 (some (.function 1)) .above, .op (.detect 1 ⟨10, 20, 30⟩) .above, .wait [1, 2],
    .deliver true true .above, .finish, .deliver true true .above, .finish, .wait [2],
    .deliver true true .above, .finish, .wait [2], .deliver true true .above, .finish,
    .op (.detect 1 ⟨10, 20, 30⟩) .above, .op (.detect 2 ⟨10, 20, 30⟩) .above,
    .tick 0 none .above, .op (.detect 1 ⟨10, 20, 30⟩) .above]

/-- The sessions of the example follow the protocol, until other code ends all timers during one. -/
theorem proper_iff_undisturbed_presses :
    Run.Always ((seqClient .nearest).hostStep (.function 0))
        (fun w => Proper w.own ∧ (seqClient .nearest).Beats (.function 0) w)
        ⟨start { window := some 20, interval := some 10 } [[1, 2]], {}⟩ hostedPresses ∧
      ¬ Run.Always ((seqClient .nearest).hostStep (.function 0))
        (fun w => Proper w.own ∧ (seqClient .nearest).Beats (.function 0) w)
        ⟨start { window := some 20, interval := some 10 } [[1, 2]], {}⟩
        (hostedPresses ++ [.tick 0 none .above]) := by
  refine ⟨(proper_iff_undisturbed .nearest 0 _ _ (by decide +kernel) (by decide +kernel)
    (by decide +kernel) hostedPresses (by decide +kernel)).mpr (by decide +kernel), fun h => ?_⟩
  exact absurd ((proper_iff_undisturbed .nearest 0 _ _ (by decide +kernel) (by decide +kernel)
    (by decide +kernel) _ (by decide +kernel)).mp h) (by decide +kernel)

end Aelkey.Sequence.Protocol
