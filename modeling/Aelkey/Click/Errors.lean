import Aelkey.Click.Accounting
import Aelkey.Lib.Abort

set_option relaxedAutoImplicit false
set_option autoImplicit false

/-!
# Actions of the click helper that raise an error

`click_handler` calls the action of a burst before it resets the module. The scheduler swallows an
error of the action and keeps the timer, so that the burst is still pending at the next heartbeat.
This file has the functions of `aelkey_click.lua` with actions that may raise an error; with actions
that return they are those of `Aelkey.Click.Model`.

## Main definitions

* `Aelkey.Click.Raising.clickHandler`, `Aelkey.Click.Raising.detect` — the functions.
* `Aelkey.Click.Raising.Beat`, `Aelkey.Click.Raising.step` — the module under its heartbeat.
* `Aelkey.Click.Raising.CalledOnce` — the heartbeat calls at most one action of a burst, and ends
  it.
* `Aelkey.Click.Raising.Returns` — the action that a heartbeat calls returns.

## Main results

* `Aelkey.Click.Raising.clickHandler_returns`, `Aelkey.Click.Raising.detect_returns` — actions that
  return.
* `Aelkey.Click.Raising.calledOnce_iff_returns` — when the heartbeat calls an action at most once.
-/

namespace Aelkey.Click.Raising

open Abort

variable {β γ : Type*}

/-! ## The functions -/

/-- The action that a timeout of the burst calls. -/
def timeoutCall (m : Clicker β γ) : Option (Call β γ) :=
  if m.clickCount = 1 ∧ m.singleAction.isSome then m.singleAction.map (.single · m.lastCode)
  else if m.clickCount = 2 ∧ m.doubleAction.isSome then m.doubleAction.map (.double · m.lastCode)
  else if m.clickCount = 3 ∧ m.tripleAction.isSome then m.tripleAction.map (.triple · m.lastCode)
  else none

/-- The beginning of `click_handler`. -/
def beat (m : Clicker β γ) : Clicker β γ := { m with tickCount := m.tickCount + 1 }

/-- The window of the pending burst is over. -/
def Overdue (m : Clicker β γ) : Prop := m.pending = true ∧ m.threshold < m.tickCount

instance (m : Clicker β γ) : Decidable (Overdue m) := instDecidableAnd

/-- `click_handler`. -/
def clickHandler (raises : Call β γ → Bool) (m : Clicker β γ) :
    Outcome (Clicker β γ) (Call β γ) :=
  let m := beat m
  if Overdue m then (Outcome.call raises m (timeoutCall m)).andThen fun m => .ret (Click.reset m)
  else .ret (m, [])

/-- The action that a click of another button calls. -/
def flushCall (m : Clicker β γ) : Option (Call β γ) :=
  if m.clickCount = 1 ∧ m.singleAction.isSome then m.singleAction.map (.single · m.lastCode)
  else if m.clickCount = 2 ∧ m.doubleAction.isSome then m.doubleAction.map (.double · m.lastCode)
  else none

/-- The branch of `M.detect` for the first click of a burst. -/
def firstClick (raises : Call β γ → Bool) (m : Clicker β γ) (button : β)
    (single double triple : Option γ) : Outcome (Clicker β γ) (Call β γ) :=
  let m := { m with
    singleAction := single
    doubleAction := double
    tripleAction := triple
    lastCode := some button
    clickCount := 1
    tickCount := 0
    pending := true }
  if m.doubleAction.isNone ∧ m.tripleAction.isNone then
    (Outcome.call raises m (m.singleAction.map (.single · (some button)))).andThen fun m =>
      .ret (Click.reset m)
  else .ret (m, [.tick m.interval])

/-- The branch of `M.detect` for the later clicks of a burst. -/
def nextClick (raises : Call β γ → Bool) (m : Clicker β γ) (button : β) :
    Outcome (Clicker β γ) (Call β γ) :=
  if m.tickCount ≤ m.threshold then
    let m := { m with clickCount := m.clickCount + 1 }
    if m.clickCount = 2 ∧ m.tripleAction.isNone then
      (Outcome.call raises m (m.doubleAction.map (.double · (some button)))).andThen fun m =>
        .ret (Click.reset m)
    else if m.clickCount = 3 then
      if m.tripleAction.isSome then
        (Outcome.call raises m (m.tripleAction.map (.triple · (some button)))).andThen fun m =>
          .ret (Click.reset m)
      else .ret (m, [])
    else .ret (m, [])
  else .ret (m, [])

section Detect

variable [DecidableEq β]

/-- The beginning of `M.detect`: a click of another button flushes the pending burst. -/
def flush (raises : Call β γ → Bool) (m : Clicker β γ) (button : β) :
    Outcome (Clicker β γ) (Call β γ) :=
  if m.pending ∧ some button ≠ m.lastCode then
    (Outcome.call raises m (flushCall m)).andThen fun m => .ret (Click.reset m)
  else .ret (m, [])

/-- `M.detect`. -/
def detect (raises : Call β γ → Bool) (m : Clicker β γ) (button : β)
    (single double triple : Option γ) : Outcome (Clicker β γ) (Call β γ) :=
  (flush raises m button).andThen fun m =>
    if !m.pending then firstClick raises m button single double triple
    else nextClick raises m button

end Detect

/-! ## Actions that return -/

section Returns

variable {raises : Call β γ → Bool}

/-- The calls of `click_handler` when the window is over. -/
lemma toList_timeoutCall (m : Clicker β γ) :
    (timeoutCall m).toList =
      if m.clickCount = 1 ∧ m.singleAction.isSome then act .single m.singleAction m.lastCode
      else if m.clickCount = 2 ∧ m.doubleAction.isSome then act .double m.doubleAction m.lastCode
      else if m.clickCount = 3 ∧ m.tripleAction.isSome then act .triple m.tripleAction m.lastCode
      else [] := by
  unfold timeoutCall
  split_ifs <;> rfl

/-- The calls of a flush. -/
lemma toList_flushCall (m : Clicker β γ) :
    (flushCall m).toList =
      if m.clickCount = 1 ∧ m.singleAction.isSome then act .single m.singleAction m.lastCode
      else if m.clickCount = 2 ∧ m.doubleAction.isSome then act .double m.doubleAction m.lastCode
      else [] := by
  unfold flushCall
  split_ifs <;> rfl

/-- A call that returns, and then a reset. -/
lemma call_reset (h : ∀ c, raises c = false) (m : Clicker β γ) (o : Option (Call β γ)) :
    ((Outcome.call raises m o).andThen fun m => .ret (Click.reset m)) =
      .ret ((Click.reset m).1, o.toList ++ (Click.reset m).2) := by
  rw [Outcome.call_andThen_of_total h]
  rfl

/-- With actions that return, `click_handler` is that of the module without errors. -/
lemma clickHandler_returns (h : ∀ c, raises c = false) (m : Clicker β γ) :
    clickHandler raises m = .ret (Click.clickHandler m) := by
  simp only [clickHandler, Click.clickHandler, call_reset h, toList_timeoutCall, Overdue, beat]
  split_ifs <;> rfl

/-- The same for the first click of a burst. -/
lemma firstClick_returns (h : ∀ c, raises c = false) (m : Clicker β γ) (button : β)
    (single double triple : Option γ) :
    firstClick raises m button single double triple =
      .ret (Click.firstClick m button single double triple) := by
  simp only [firstClick, Click.firstClick, call_reset h]
  split_ifs <;> rfl

/-- The same for the later clicks. -/
lemma nextClick_returns (h : ∀ c, raises c = false) (m : Clicker β γ) (button : β) :
    nextClick raises m button = .ret (Click.nextClick m button) := by
  simp only [nextClick, Click.nextClick, call_reset h]
  split_ifs <;> rfl

variable [DecidableEq β]

/-- The same for a click of another button. -/
lemma flush_returns (h : ∀ c, raises c = false) (m : Clicker β γ) (button : β) :
    flush raises m button = .ret (Click.flush m button) := by
  simp only [flush, Click.flush, call_reset h, toList_flushCall]
  split_ifs <;> rfl

/-- With actions that return, `M.detect` is that of the module without errors. -/
lemma detect_returns (h : ∀ c, raises c = false) (m : Clicker β γ) (button : β)
    (single double triple : Option γ) :
    detect raises m button single double triple =
      .ret (Click.detect m button single double triple) := by
  rw [detect, flush_returns h, Outcome.ret_andThen]
  simp only [Click.detect, firstClick_returns h, nextClick_returns h]
  split_ifs <;> rfl

end Returns

/-! ## Runs -/

/-- An operation of the module. -/
inductive Op (β γ : Type*)
  | detect (button : β) (single double triple : Option γ)
  | heartbeat
  | reset
  | configure (opts : Opts)

/-- An operation, with the calls of user code that raise an error in it. -/
structure Action (β γ : Type*) where
  op : Op β γ
  raises : Call β γ → Bool

/-- The module, whether its heartbeat is armed, and the number of actions that the heartbeat has
called in the current burst. -/
structure Beat (β γ : Type*) where
  clicker : Clicker β γ
  armed : Bool
  called : ℕ

/-- The call of an action, not of `aelkey.tick`. -/
def isAction : Call β γ → Bool
  | .tick _ => false
  | _ => true

section Runs

variable [DecidableEq β]

/-- A click begins a new burst: none is pending, or the flush has ended it. -/
def Begins (raises : Call β γ → Bool) (m : Clicker β γ) (button : β) : Prop :=
  (flush raises m button).raised = false ∧ (flush raises m button).state.pending = false

instance (raises : Call β γ → Bool) (m : Clicker β γ) (button : β) :
    Decidable (Begins raises m button) := instDecidableAnd

/-- One operation. The heartbeat comes while it is armed; an error is swallowed, and leaves the
heartbeat as it is. -/
def step (conv : IntArg) (b : Beat β γ) (a : Action β γ) : Beat β γ :=
  match a.op with
  | .detect button single double triple =>
    let o := detect a.raises b.clicker button single double triple
    { clicker := o.state
      armed := o.calls.foldl (Call.arms conv) b.armed
      called := if Begins a.raises b.clicker button then 0 else b.called }
  | .heartbeat =>
    if b.armed then
      let o := clickHandler a.raises b.clicker
      { clicker := o.state
        armed := o.calls.foldl (Call.arms conv) b.armed
        called := b.called + o.calls.countP isAction }
    else b
  | .reset =>
    let r := Click.reset b.clicker
    { b with
      clicker := r.1
      armed := r.2.foldl (Call.arms conv) b.armed }
  | .configure opts => { b with clicker := configure b.clicker opts }

/-- The module before the first click. -/
def start : Beat β γ := ⟨{}, false, 0⟩

/-- **The heartbeat calls at most one action of a burst, and after it the burst is over.** -/
def CalledOnce (b : Beat β γ) : Prop := OnceBefore b.called (b.clicker.pending = false)

instance (b : Beat β γ) : Decidable (CalledOnce b) :=
  inferInstanceAs (Decidable (OnceBefore _ _))

/-- If the operation is a heartbeat that finds the window over, the action that it calls returns. -/
def Returns (b : Beat β γ) (a : Action β γ) : Prop :=
  match a.op with
  | .heartbeat => b.armed = true → Overdue (beat b.clicker) →
      ∀ c ∈ timeoutCall (beat b.clicker), a.raises c = false
  | _ => True

/-! ## Steps -/

variable {conv : IntArg}

omit [DecidableEq β] in
/-- What a timeout calls is an action. -/
lemma isAction_timeoutCall {m : Clicker β γ} {c : Call β γ} (h : timeoutCall m = some c) :
    isAction c = true := by
  unfold timeoutCall at h
  split_ifs at h
  all_goals
    obtain ⟨f, -, rfl⟩ := Option.map_eq_some_iff.mp h
    rfl

/-- While no burst is pending, a click begins one. -/
lemma begins_of_not_pending (raises : Call β γ → Bool) {m : Clicker β γ} (h : m.pending = false)
    (button : β) : Begins raises m button := by
  have hflush : flush raises m button = .ret (m, []) := by
    rw [flush, if_neg]
    rintro ⟨hpending, -⟩
    exact absurd (h.symm.trans hpending) Bool.false_ne_true
  rw [Begins, hflush]
  exact ⟨rfl, h⟩

/-- A heartbeat calls at most one action of a burst iff the action, if it calls one, returns.

**Proof sketch.** An action that returns is followed by a reset. After an error the burst is still
pending. -/
lemma calledOnce_heartbeat_iff {b : Beat β γ} (h : CalledOnce b) (raises : Call β γ → Bool) :
    CalledOnce (step conv b ⟨.heartbeat, raises⟩) ↔ Returns b ⟨.heartbeat, raises⟩ := by
  simp only [step, Returns, clickHandler]
  by_cases harmed : b.armed = true
  · rw [if_pos harmed]
    by_cases hdue : Overdue (beat b.clicker)
    · have hpending : ¬ b.clicker.pending = false := by
        rw [show b.clicker.pending = true from hdue.1]
        exact Bool.noConfusion
      simp only [harmed, hdue, forall_const, ↓reduceIte]
      rcases hcall : timeoutCall (beat b.clicker) with _ | c
      · -- there is no action to call
        rw [Outcome.call_none_andThen]
        exact iff_of_true (h.mono fun _ => rfl) (by simp)
      have hact : isAction c = true := isAction_timeoutCall hcall
      have hone : ∀ l : List (Call β γ), l.countP isAction = 0 →
          (c :: l).countP isAction = 1 := by
        intro l hl
        rw [List.countP_cons_of_pos hact, hl]
      cases hraises : raises c with
      | false =>
        -- the action returns, and the module is reset
        rw [Outcome.call_andThen_of_returns hraises]
        refine iff_of_true ?_ (by simpa using hraises)
        show OnceBefore (b.called + (c :: (Click.reset (beat b.clicker)).2).countP isAction) _
        rw [hone _ rfl]
        exact (h.called_iff hpending).mpr rfl
      | true =>
        -- the action raises an error, and the burst is left pending
        rw [Outcome.call_andThen_of_raises hraises]
        refine iff_of_false ?_ (by simp [hraises])
        show ¬ OnceBefore (b.called + [c].countP isAction) (b.clicker.pending = false)
        rw [hone _ rfl, h.called_iff hpending]
        exact hpending
    · simp only [hdue, ↓reduceIte, false_imp_iff, implies_true, iff_true]
      exact h
  · rw [if_neg harmed]
    exact iff_of_true h fun h' => absurd h' harmed

/-- An operation keeps the number of actions that the heartbeat calls iff the action that a
heartbeat calls returns. -/
lemma calledOnce_step_iff {b : Beat β γ} (h : CalledOnce b) (a : Action β γ) :
    CalledOnce (step conv b a) ↔ Returns b a := by
  obtain ⟨op, raises⟩ := a
  cases op with
  | heartbeat => exact calledOnce_heartbeat_iff h raises
  | detect button single double triple =>
    refine iff_of_true ?_ trivial
    simp only [step, CalledOnce]
    split_ifs with hbegins
    · exact onceBefore_zero _
    · -- a burst is pending, so that the heartbeat has called nothing
      have hpending : ¬ b.clicker.pending = false := fun h =>
        hbegins (begins_of_not_pending raises h button)
      rw [h.eq_zero hpending]
      exact onceBefore_zero _
  | reset => exact iff_of_true (h.mono fun _ => rfl) trivial
  | configure opts => exact iff_of_true h trivial

/-- **When the heartbeat calls an action of a burst at most once**, and ends the burst with it: iff
every action that the heartbeat calls returns. -/
lemma calledOnce_iff_returns (conv : IntArg) (as : List (Action β γ)) :
    Run.Always (step conv) CalledOnce start as ↔ Run.EachStep (step conv) Returns start as := by
  have hstart : CalledOnce (start : Beat β γ) := onceBefore_zero _
  have hstep : ∀ (b : Beat β γ) (a : Action β γ), True → CalledOnce b →
      (CalledOnce (step conv b a) ↔ Returns b a) := fun b a _ h => calledOnce_step_iff h a
  exact Run.always_iff_eachStep_of_step (I := fun _ => True) (fun _ _ _ _ _ => trivial) hstep
    trivial hstart as

end Runs

end Aelkey.Click.Raising
