import Aelkey.Click.Errors
import Aelkey.Sequence.Protocol

set_option relaxedAutoImplicit false
set_option autoImplicit false

/-!
# Callbacks of the sequence matcher that raise an error

`handler` calls `timeout_fn` before it forgets it and resets the instance. The scheduler swallows an
error of `timeout_fn` and keeps the timer, so that the session is still active at the next
heartbeat. This file has the functions of `aelkey_sequence.lua` with callbacks that may raise an
error; with callbacks that return they are those of `Aelkey.Sequence.Model`.

## Main definitions

* `Aelkey.Sequence.Raising.handler`, `Aelkey.Sequence.Raising.reset`,
  `Aelkey.Sequence.Raising.detect` — the functions.
* `Aelkey.Sequence.Raising.Beat`, `Aelkey.Sequence.Raising.step` — an instance under its heartbeat.
* `Aelkey.Sequence.Raising.CalledOnce` — the heartbeat calls `timeout_fn` at most once in a session,
  and ends it.
* `Aelkey.Sequence.Raising.Returns` — the `timeout_fn` that a heartbeat calls returns.

## Main results

* `Aelkey.Sequence.Raising.handler_returns`, `Aelkey.Sequence.Raising.detect_returns` — callbacks
  that return.
* `Aelkey.Sequence.Raising.heartbeats_iff_return` — when the heartbeats of both modules call user
  code at most once.
* `Aelkey.Sequence.Raising.not_heartbeats_failing` — callbacks that fail.
-/

namespace Aelkey.Sequence

variable {β γ : Type*}

/-- `clear_patterns`. -/
def clearPatterns (self : Seq β γ) : Seq β γ := { self with patterns := [], progress := [] }

namespace Raising

open Abort

/-! ## The functions -/

/-- The callback that `reset` forces in stream mode. -/
def forcedCall (self : Seq β γ) : Option (Call γ) :=
  if self.stream && self.active then self.timeoutFn.map .timeoutFn else none

/-- The end of `reset`. -/
def cleared (self : Seq β γ) : Seq β γ :=
  { clearProgress self with
    tickCount := 0
    active := false
    matchFn := none
    timeoutFn := none
    startFn := none }

/-- `reset`. -/
def reset (raises : Call γ → Bool) (self : Seq β γ) : Outcome (Seq β γ) (Call γ) :=
  (Outcome.ret (self, [.tick 0])).andThen fun self =>
    (Outcome.call raises self (forcedCall self)).andThen fun self => .ret (cleared self, [])

/-- The beginning of `handler`. -/
def beat (self : Seq β γ) : Seq β γ := { self with tickCount := self.tickCount + 1 }

/-- The session has timed out. -/
def Overdue (self : Seq β γ) : Prop := self.active = true ∧ self.threshold < self.tickCount

instance (self : Seq β γ) : Decidable (Overdue self) := instDecidableAnd

/-- `handler`. -/
def handler (raises : Call γ → Bool) (self : Seq β γ) : Outcome (Seq β γ) (Call γ) :=
  let self := beat self
  if Overdue self then
    (Outcome.call raises self (self.timeoutFn.map .timeoutFn)).andThen fun self =>
      reset raises { self with timeoutFn := none }
  else .ret (self, [])

/-- The end of `detect` when a pattern has been completed and there is a `match_fn`. -/
def matchEnd (raises : Call γ → Bool) (self : Seq β γ) (f : γ) : Outcome (Seq β γ) (Call γ) :=
  (Outcome.call raises self (some (.matchFn f))).andThen fun self =>
    let self := clearProgress self
    if self.stream then .ret (self, []) else reset raises self

section Detect

variable [DecidableEq β]

/-- The second half of `detect`: advance the patterns. -/
def detectAdvance (raises : Call γ → Bool) (self : Seq β γ) (button : β) :
    Outcome (Seq β γ) (Call γ) :=
  let scan := advanceLoop button self.patterns self.progress
  let self := { self with progress := scan.progress }
  match scan.completed, self.matchFn with
  | true, some f => matchEnd raises self f
  | _, _ => .ret (self, [])

/-- `detect`. -/
def detect (raises : Call γ → Bool) (self : Seq β γ) (button : β)
    (matchCb timeoutCb startCb : Option γ) : Outcome (Seq β γ) (Call γ) :=
  if self.patterns.length = 0 then .ret (self, [])
  else if !self.active then
    let scan := startLoop button self.patterns self.progress
    let self := { self with progress := scan.progress }
    if !scan.startsAny then .ret (self, [])
    else
      let self := { self with
        active := true
        matchFn := matchCb
        timeoutFn := timeoutCb
        startFn := startCb
        tickCount := 0 }
      (Outcome.call raises self (self.startFn.map .startFn)).andThen fun self =>
        (Outcome.ret (self, [.tick self.intervalMs])).andThen fun self =>
          match scan.completed, self.matchFn with
          | true, some f => matchEnd raises self f
          | _, _ => detectAdvance raises self button
  else detectAdvance raises { self with tickCount := 0 } button

end Detect

/-! ## Callbacks that return -/

section Returns

variable {raises : Call γ → Bool}

/-- With callbacks that return, `reset` is that of the module without errors. -/
lemma reset_returns (h : ∀ c, raises c = false) (self : Seq β γ) :
    reset raises self = .ret (Sequence.reset self) := by
  rw [reset, Outcome.ret_andThen]
  simp only [Outcome.call_andThen_of_total h, forcedCall, Sequence.reset, cleared]
  split_ifs <;> simp [Outcome.ret]

/-- With callbacks that return, `handler` is that of the module without errors. -/
lemma handler_returns (h : ∀ c, raises c = false) (self : Seq β γ) :
    handler raises self = .ret (Sequence.handler self) := by
  simp only [handler, Sequence.handler, Outcome.call_andThen_of_total h, reset_returns h, Overdue,
    beat]
  split_ifs <;> rfl

/-- The same for the end of a match. -/
lemma matchEnd_returns (h : ∀ c, raises c = false) (self : Seq β γ) (f : γ) :
    matchEnd raises self f = .ret (Sequence.matchEnd self f) := by
  simp only [matchEnd, Sequence.matchEnd, Outcome.call_andThen_of_total h, reset_returns h]
  split_ifs <;> rfl

variable [DecidableEq β]

/-- The same for the second half of `detect`. -/
lemma detectAdvance_returns (h : ∀ c, raises c = false) (self : Seq β γ) (button : β) :
    detectAdvance raises self button = .ret (Sequence.detectAdvance self button) := by
  unfold detectAdvance Sequence.detectAdvance
  dsimp only
  cases (advanceLoop button self.patterns self.progress).completed with
  | false => rfl
  | true =>
    cases hm : self.matchFn with
    | none => rfl
    | some f => exact matchEnd_returns h _ f

/-- With callbacks that return, `detect` is that of the module without errors. -/
lemma detect_returns (h : ∀ c, raises c = false) (self : Seq β γ) (button : β)
    (matchCb timeoutCb startCb : Option γ) :
    detect raises self button matchCb timeoutCb startCb =
      .ret (Sequence.detect self button matchCb timeoutCb startCb) := by
  unfold detect Sequence.detect
  dsimp only
  split_ifs
  · rfl
  · rfl
  · rw [Outcome.call_andThen_of_total h, Outcome.ret_andThen]
    dsimp only
    cases (startLoop button self.patterns self.progress).completed with
    | false =>
      simp only [detectAdvance_returns h, Outcome.ret, List.append_assoc]
    | true =>
      cases hm : matchCb with
      | none => simp only [detectAdvance_returns h, Outcome.ret, List.append_assoc]
      | some f => simp only [matchEnd_returns h, Outcome.ret, List.append_assoc]
  · exact detectAdvance_returns h _ _

end Returns

/-! ## Runs -/

/-- An operation of an instance. -/
inductive Op (β γ : Type*)
  | detect (button : β) (matchCb timeoutCb startCb : Option γ)
  | heartbeat
  | reset
  | configure (opts : Opts)
  | addPattern (pat : List β)
  | clearPatterns

/-- An operation, with the calls of user code that raise an error in it. -/
structure Action (β γ : Type*) where
  op : Op β γ
  raises : Call γ → Bool

/-- An instance, whether its heartbeat is armed, and the number of callbacks that the heartbeat has
called in the current session. -/
structure Beat (β γ : Type*) where
  seq : Seq β γ
  armed : Bool
  called : ℕ

/-- One operation. The heartbeat comes while it is armed; an error is swallowed, and leaves the
heartbeat as it is. A press outside of a session begins the next one. -/
def step [DecidableEq β] (conv : IntArg) (b : Beat β γ) (a : Action β γ) : Beat β γ :=
  match a.op with
  | .detect button matchCb timeoutCb startCb =>
    let o := detect a.raises b.seq button matchCb timeoutCb startCb
    { seq := o.state
      armed := o.calls.foldl (Protocol.arms conv) b.armed
      called := if b.seq.active then b.called else 0 }
  | .heartbeat =>
    if b.armed then
      let o := handler a.raises b.seq
      { seq := o.state
        armed := o.calls.foldl (Protocol.arms conv) b.armed
        called := b.called + o.calls.countP Protocol.isCallback }
    else b
  | .reset =>
    let o := reset a.raises b.seq
    { b with
      seq := o.state
      armed := o.calls.foldl (Protocol.arms conv) b.armed }
  | .configure opts => { b with seq := configure b.seq opts }
  | .addPattern pat => { b with seq := addPattern b.seq pat }
  | .clearPatterns => { b with seq := clearPatterns b.seq }

/-- A new instance. -/
def start (opts : Opts) : Beat β γ := ⟨new opts [], false, 0⟩

/-- **The heartbeat calls `timeout_fn` at most once in a session, and after it the session is
over.** -/
def CalledOnce (b : Beat β γ) : Prop := OnceBefore b.called (b.seq.active = false)

instance (b : Beat β γ) : Decidable (CalledOnce b) :=
  inferInstanceAs (Decidable (OnceBefore _ _))

/-- If the operation is a heartbeat that finds the session timed out, `timeout_fn` returns. -/
def Returns (b : Beat β γ) (a : Action β γ) : Prop :=
  match a.op with
  | .heartbeat => b.armed = true → Overdue (beat b.seq) →
      ∀ f ∈ b.seq.timeoutFn, a.raises (.timeoutFn f) = false
  | _ => True

/-! ## Steps -/

/-- Without a `timeout_fn`, `reset` calls nothing. -/
lemma reset_of_none (raises : Call γ → Bool) {self : Seq β γ} (h : self.timeoutFn = none) :
    reset raises self = .ret (cleared self, [.tick 0]) := by
  have hforced : forcedCall self = none := by
    rw [forcedCall, h]
    split_ifs <;> rfl
  rw [reset, Outcome.ret_andThen]
  dsimp only
  rw [hforced, Outcome.call_none_andThen]
  rfl

/-- `reset` does not begin a session. -/
lemma active_reset (raises : Call γ → Bool) {self : Seq β γ} (h : self.active = false) :
    (reset raises self).state.active = false := by
  have hforced : forcedCall self = none := by simp [forcedCall, h]
  rw [reset, Outcome.ret_andThen]
  dsimp only
  rw [hforced, Outcome.call_none_andThen]
  rfl

section Runs

variable [DecidableEq β] {conv : IntArg}

/-- A heartbeat calls `timeout_fn` at most once in a session iff `timeout_fn`, if it is called,
returns.

**Proof sketch.** A `timeout_fn` that returns is forgotten before the reset, which ends the session.
After an error the session is still active. -/
lemma calledOnce_heartbeat_iff {b : Beat β γ} (h : CalledOnce b) (raises : Call γ → Bool) :
    CalledOnce (step conv b ⟨.heartbeat, raises⟩) ↔ Returns b ⟨.heartbeat, raises⟩ := by
  simp only [step, Returns, handler]
  by_cases harmed : b.armed = true
  · rw [if_pos harmed]
    by_cases hdue : Overdue (beat b.seq)
    · have hactive : ¬ b.seq.active = false := by
        rw [show b.seq.active = true from hdue.1]
        exact Bool.noConfusion
      have hfn : (beat b.seq).timeoutFn = b.seq.timeoutFn := rfl
      simp only [harmed, hdue, forall_const, ↓reduceIte, hfn]
      rcases hf : b.seq.timeoutFn with _ | f
      · -- there is nothing to call
        rw [Option.map_none, Outcome.call_none_andThen, reset_of_none _ rfl]
        exact iff_of_true (h.mono fun _ => rfl) (by simp)
      rw [Option.map_some]
      cases hraises : raises (.timeoutFn f) with
      | false =>
        -- `timeout_fn` returns, and the instance is reset
        rw [Outcome.call_andThen_of_returns hraises, reset_of_none _ rfl]
        refine iff_of_true ?_ (by simpa using hraises)
        show OnceBefore (b.called + 1) _
        exact (h.called_iff hactive).mpr rfl
      | true =>
        -- `timeout_fn` raises an error, and the session is left active
        rw [Outcome.call_andThen_of_raises hraises]
        refine iff_of_false ?_ (by simp [hraises])
        show ¬ OnceBefore (b.called + 1) (b.seq.active = false)
        rw [h.called_iff hactive]
        exact hactive
    · simp only [hdue, ↓reduceIte, false_imp_iff, implies_true, iff_true]
      exact h
  · rw [if_neg harmed]
    exact iff_of_true h fun h' => absurd h' harmed

/-- An operation keeps the number of callbacks that the heartbeat calls iff the `timeout_fn` that a
heartbeat calls returns. -/
lemma calledOnce_step_iff {b : Beat β γ} (h : CalledOnce b) (a : Action β γ) :
    CalledOnce (step conv b a) ↔ Returns b a := by
  obtain ⟨op, raises⟩ := a
  cases op with
  | heartbeat => exact calledOnce_heartbeat_iff h raises
  | detect button matchCb timeoutCb startCb =>
    refine iff_of_true ?_ trivial
    simp only [step, CalledOnce]
    split_ifs with hactive
    · -- a session is active, so that the heartbeat has called nothing
      rw [h.eq_zero (by simp [hactive])]
      exact onceBefore_zero _
    · exact onceBefore_zero _
  | reset => exact iff_of_true (h.mono fun hend => active_reset raises hend) trivial
  | configure opts => exact iff_of_true h trivial
  | addPattern pat =>
    refine iff_of_true (h.mono fun hend => ?_) trivial
    simp only [step, addPattern]
    split_ifs <;> exact hend
  | clearPatterns => exact iff_of_true h trivial

/-- **When the heartbeat calls `timeout_fn` at most once in a session**, and ends the session with
it: iff every `timeout_fn` that the heartbeat calls returns. -/
lemma calledOnce_iff_returns (conv : IntArg) (opts : Opts) (as : List (Action β γ)) :
    Run.Always (step conv) CalledOnce (start opts) as ↔
      Run.EachStep (step conv) Returns (start opts) as := by
  have hstart : CalledOnce (start opts : Beat β γ) := onceBefore_zero _
  have hstep : ∀ (b : Beat β γ) (a : Action β γ), True → CalledOnce b →
      (CalledOnce (step conv b a) ↔ Returns b a) := fun b a _ h => calledOnce_step_iff h a
  exact Run.always_iff_eachStep_of_step (I := fun _ => True) (fun _ _ _ _ _ => trivial) hstep
    trivial hstart as

/-- **When a callback is not called again by the heartbeat.** For the click helper and for every
instance of the sequence matcher, and every run of their operations and heartbeats in which each
call of user code may return or raise an error: the heartbeat calls at most one action of a burst,
or `timeout_fn` at most once in a session, and the burst or session is over after it, if and only if
whatever the heartbeat calls returns. -/
theorem heartbeats_iff_return (conv : IntArg) :
    (∀ as : List (Click.Raising.Action β γ),
      Run.Always (Click.Raising.step conv) Click.Raising.CalledOnce Click.Raising.start as ↔
        Run.EachStep (Click.Raising.step conv) Click.Raising.Returns Click.Raising.start as) ∧
      ∀ (opts : Opts) (as : List (Action β γ)),
        Run.Always (step conv) CalledOnce (start opts) as ↔
          Run.EachStep (step conv) Returns (start opts) as :=
  ⟨Click.Raising.calledOnce_iff_returns conv, calledOnce_iff_returns conv⟩

end Runs

/-- **Callbacks that fail are called again**: the action of a single click, and the `timeout_fn` of
a session, by the heartbeat after the one that has called them first. -/
theorem not_heartbeats_failing :
    ¬ Run.Always (Click.Raising.step .nearest) Click.Raising.CalledOnce
        (Click.Raising.start : Click.Raising.Beat ℕ ℕ)
        (⟨.detect 1 (some 10) (some 20) none, fun _ => false⟩ ::
          List.replicate 18 ⟨.heartbeat, fun _ => true⟩) ∧
      ¬ Run.Always (step .nearest) CalledOnce (start {} : Beat ℕ ℕ)
        (⟨.addPattern [1, 2], fun _ => false⟩ :: ⟨.detect 1 none (some 10) none, fun _ => false⟩ ::
          List.replicate 27 ⟨.heartbeat, fun _ => true⟩) := by
  exact ⟨by decide +kernel, by decide +kernel⟩

end Raising

end Aelkey.Sequence
