import Mathlib.Data.List.Basic
import Mathlib.Data.Rat.Floor

set_option relaxedAutoImplicit false
set_option autoImplicit false

/-!
# The sequence matcher

`aelkey_sequence.lua`: an instance holds a list of button patterns and, for each, how many of its
buttons have been seen. `detect` feeds one button press. The first press of a pattern starts a
session and a heartbeat; a press that completes a pattern calls `match_fn`; a session without
presses is ended by the heartbeat.

## Main definitions

* `Aelkey.Sequence.Seq` — an instance.
* `Aelkey.Sequence.startLoop`, `Aelkey.Sequence.advanceLoop` — the two loops of `detect`.
* `Aelkey.Sequence.detect`, `Aelkey.Sequence.handler`, `Aelkey.Sequence.reset` — its operations.

## Design

The callbacks are names of an arbitrary type `γ`, and every operation returns the calls it makes,
in order. The heartbeat calls `handler`; an interval of zero never starts it, so the division by
the interval in `configure` is only used for other intervals.
-/

namespace Aelkey.Sequence

variable {β γ : Type*} [DecidableEq β]

/-- A call made by an operation. -/
inductive Call (γ : Type*)
  | matchFn (f : γ)
  | timeoutFn (f : γ)
  | startFn (f : γ)
  | tick (interval : ℚ)
deriving DecidableEq

/-- The options of `configure`. -/
structure Opts where
  window : Option ℚ := none
  interval : Option ℚ := none
  stream : Option Bool := none

/-- An instance. -/
structure Seq (β γ : Type*) where
  windowMs : ℚ := 500
  intervalMs : ℚ := 20
  stream : Bool := false
  threshold : ℤ := 25
  tickCount : ℕ := 0
  active : Bool := false
  patterns : List (List β) := []
  progress : List ℕ := []
  matchFn : Option γ := none
  timeoutFn : Option γ := none
  startFn : Option γ := none

/-- `configure`. -/
def configure (self : Seq β γ) (opts : Opts) : Seq β γ :=
  let windowMs := opts.window.getD self.windowMs
  let intervalMs := opts.interval.getD self.intervalMs
  { self with
    windowMs := windowMs
    intervalMs := intervalMs
    stream := opts.stream.getD self.stream
    threshold := ⌊windowMs / intervalMs⌋ }

/-- Set every entry of `progress` to 0. -/
def clearProgress (self : Seq β γ) : Seq β γ :=
  { self with progress := self.progress.map fun _ => 0 }

/-- `reset`. -/
def reset (self : Seq β γ) : Seq β γ × List (Call γ) :=
  let forced :=
    if self.stream && self.active then (self.timeoutFn.map Call.timeoutFn).toList else []
  ({ clearProgress self with
      tickCount := 0
      active := false
      matchFn := none
      timeoutFn := none
      startFn := none },
    .tick 0 :: forced)

/-- `add_pattern`: an empty pattern is ignored. -/
def addPattern (self : Seq β γ) (pat : List β) : Seq β γ :=
  if pat.length = 0 then self
  else { self with patterns := self.patterns ++ [pat], progress := self.progress ++ [0] }

/-- `handler`, called by the heartbeat. -/
def handler (self : Seq β γ) : Seq β γ × List (Call γ) :=
  let self := { self with tickCount := self.tickCount + 1 }
  if self.active ∧ self.threshold < self.tickCount then
    let calls := (self.timeoutFn.map Call.timeoutFn).toList
    let r := reset { self with timeoutFn := none }
    (r.1, calls ++ r.2)
  else (self, [])

/-- What a loop over the patterns leaves behind. -/
structure Scan where
  progress : List ℕ
  startsAny : Bool
  completed : Bool

/-- One more pattern in front of what a loop has left behind. -/
def Scan.cons (n : ℕ) (starts : Bool) (r : Scan) : Scan :=
  ⟨n :: r.progress, starts || r.startsAny, r.completed⟩

/-- The loop of `detect` that looks for the patterns a press can start. -/
def startLoop (button : β) : List (List β) → List ℕ → Scan
  | pat :: pats, _ :: ns =>
    if pat[0]? = some button then
      if pat.length = 1 then ⟨1 :: ns, true, true⟩
      else (startLoop button pats ns).cons 1 true
    else (startLoop button pats ns).cons 0 false
  | _, ns => ⟨ns, false, false⟩

/-- The loop of `detect` that advances the patterns. -/
def advanceLoop (button : β) : List (List β) → List ℕ → Scan
  | pat :: pats, idx :: ns =>
    if 0 < idx then
      if pat[idx]? = some button then
        if idx + 1 = pat.length then ⟨(idx + 1) :: ns, false, true⟩
        else (advanceLoop button pats ns).cons (idx + 1) false
      else (advanceLoop button pats ns).cons idx false
    else if pat[0]? = some button then
      if pat.length = 1 then ⟨1 :: ns, false, true⟩
      else (advanceLoop button pats ns).cons 1 false
    else (advanceLoop button pats ns).cons idx false
  | _, ns => ⟨ns, false, false⟩

/-- The end of `detect` when a pattern has been completed and there is a `match_fn`. -/
def matchEnd (self : Seq β γ) (f : γ) : Seq β γ × List (Call γ) :=
  let self := clearProgress self
  if self.stream then (self, [.matchFn f])
  else
    let r := reset self
    (r.1, .matchFn f :: r.2)

/-- The second half of `detect`: advance the patterns. -/
def detectAdvance (self : Seq β γ) (button : β) : Seq β γ × List (Call γ) :=
  let scan := advanceLoop button self.patterns self.progress
  let self := { self with progress := scan.progress }
  match scan.completed, self.matchFn with
  | true, some f => matchEnd self f
  | _, _ => (self, [])

/-- `detect`. -/
def detect (self : Seq β γ) (button : β) (matchCb timeoutCb startCb : Option γ) :
    Seq β γ × List (Call γ) :=
  if self.patterns.length = 0 then (self, [])
  else if !self.active then
    let scan := startLoop button self.patterns self.progress
    let self := { self with progress := scan.progress }
    if !scan.startsAny then (self, [])
    else
      let self := { self with
        active := true
        matchFn := matchCb
        timeoutFn := timeoutCb
        startFn := startCb
        tickCount := 0 }
      let calls := (self.startFn.map Call.startFn).toList ++ [.tick self.intervalMs]
      match scan.completed, self.matchFn with
      | true, some f =>
        let r := matchEnd self f
        (r.1, calls ++ r.2)
      | _, _ =>
        let r := detectAdvance self button
        (r.1, calls ++ r.2)
  else detectAdvance { self with tickCount := 0 } button

/-- `new`, for the options `opts` and a list of patterns. -/
def new (opts : Opts) (patterns : List (List β)) : Seq β γ :=
  patterns.foldl addPattern (configure {} opts)

end Aelkey.Sequence
