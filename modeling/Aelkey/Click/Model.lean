import Mathlib.Data.List.Basic
import Mathlib.Data.Rat.Floor

set_option relaxedAutoImplicit false
set_option autoImplicit false

/-!
# The click helper

`aelkey_click.lua`: `detect` feeds one click of a button together with the actions for one, two and
three clicks. The first click of a burst stores its button and its actions; later clicks of the same
button count up. A burst is resolved by reaching the highest level that has an action, by a click of
another button, or by the heartbeat.

## Main definitions

* `Aelkey.Click.Clicker` — the local variables of the module.
* `Aelkey.Click.detect`, `Aelkey.Click.clickHandler`, `Aelkey.Click.reset`,
  `Aelkey.Click.configure` — its functions.

## Design

Buttons are values of an arbitrary type `β`; the actions are names of an arbitrary type `γ`. Every
function returns the calls it makes, in order. `aelkey.tick` takes the interval of the heartbeat, a
number of milliseconds; an interval of zero stops it, so the division in `configure` is only used
for other intervals.
-/

namespace Aelkey.Click

variable {β γ : Type*} [DecidableEq β]

/-- A call made by the module: an action with the button it is given, or `aelkey.tick`. -/
inductive Call (β γ : Type*)
  | single (f : γ) (code : Option β)
  | double (f : γ) (code : Option β)
  | triple (f : γ) (code : Option β)
  | tick (interval : ℚ)
deriving DecidableEq

/-- The options of `configure`. -/
structure Opts where
  window : Option ℚ := none
  interval : Option ℚ := none

/-- The local variables of the module. -/
structure Clicker (β γ : Type*) where
  windowMs : ℚ := 250
  interval : ℚ := 15
  threshold : ℤ := 16
  tickCount : ℕ := 0
  clickCount : ℕ := 0
  pending : Bool := false
  lastCode : Option β := none
  singleAction : Option γ := none
  doubleAction : Option γ := none
  tripleAction : Option γ := none

/-- `update_threshold`. -/
def updateThreshold (m : Clicker β γ) : Clicker β γ :=
  { m with threshold := ⌊m.windowMs / m.interval⌋ }

/-- `M.configure`. -/
def configure (m : Clicker β γ) (opts : Opts) : Clicker β γ :=
  updateThreshold { m with
    windowMs := opts.window.getD m.windowMs
    interval := opts.interval.getD m.interval }

/-- `M.reset`: forget the burst and stop the heartbeat. -/
def reset (m : Clicker β γ) : Clicker β γ × List (Call β γ) :=
  ({ m with
      tickCount := 0
      clickCount := 0
      pending := false
      lastCode := none
      singleAction := none
      doubleAction := none
      tripleAction := none },
    [.tick 0])

/-- The call of an action, if it is there. -/
def act (call : γ → Option β → Call β γ) (action : Option γ) (code : Option β) :
    List (Call β γ) := (action.map (call · code)).toList

/-- `click_handler`, called by the heartbeat. -/
def clickHandler (m : Clicker β γ) : Clicker β γ × List (Call β γ) :=
  let m := { m with tickCount := m.tickCount + 1 }
  if m.pending ∧ m.threshold < m.tickCount then
    let calls :=
      if m.clickCount = 1 ∧ m.singleAction.isSome then act .single m.singleAction m.lastCode
      else if m.clickCount = 2 ∧ m.doubleAction.isSome then act .double m.doubleAction m.lastCode
      else if m.clickCount = 3 ∧ m.tripleAction.isSome then act .triple m.tripleAction m.lastCode
      else []
    let r := reset m
    (r.1, calls ++ r.2)
  else (m, [])

/-- The beginning of `M.detect`: a click of another button flushes the pending burst. -/
def flush (m : Clicker β γ) (button : β) : Clicker β γ × List (Call β γ) :=
  if m.pending ∧ some button ≠ m.lastCode then
    let calls :=
      if m.clickCount = 1 ∧ m.singleAction.isSome then act .single m.singleAction m.lastCode
      else if m.clickCount = 2 ∧ m.doubleAction.isSome then act .double m.doubleAction m.lastCode
      else []
    let r := reset m
    (r.1, calls ++ r.2)
  else (m, [])

/-- The branch of `M.detect` for the first click of a burst. -/
def firstClick (m : Clicker β γ) (button : β) (single double triple : Option γ) :
    Clicker β γ × List (Call β γ) :=
  let m := { m with
    singleAction := single
    doubleAction := double
    tripleAction := triple
    lastCode := some button
    clickCount := 1
    tickCount := 0
    pending := true }
  if m.doubleAction.isNone ∧ m.tripleAction.isNone then
    let r := reset m
    (r.1, act .single m.singleAction (some button) ++ r.2)
  else (m, [.tick m.interval])

/-- The branch of `M.detect` for the later clicks of a burst. -/
def nextClick (m : Clicker β γ) (button : β) : Clicker β γ × List (Call β γ) :=
  if m.tickCount ≤ m.threshold then
    let m := { m with clickCount := m.clickCount + 1 }
    if m.clickCount = 2 ∧ m.tripleAction.isNone then
      let r := reset m
      (r.1, act .double m.doubleAction (some button) ++ r.2)
    else if m.clickCount = 3 then
      if m.tripleAction.isSome then
        let r := reset m
        (r.1, act .triple m.tripleAction (some button) ++ r.2)
      else (m, [])
    else (m, [])
  else (m, [])

/-- `M.detect`. -/
def detect (m : Clicker β γ) (button : β) (single double triple : Option γ) :
    Clicker β γ × List (Call β γ) :=
  let flushed := flush m button
  let r :=
    if !flushed.1.pending then firstClick flushed.1 button single double triple
    else nextClick flushed.1 button
  (r.1, flushed.2 ++ r.2)

omit [DecidableEq β] in
/-- The module's own threshold is the one that `configure` computes. -/
lemma updateThreshold_default : updateThreshold ({} : Clicker β γ) = {} := by
  have h : ⌊(250 : ℚ) / 15⌋ = 16 := by norm_num [Int.floor_eq_iff]
  simp [updateThreshold, h]

end Aelkey.Click
