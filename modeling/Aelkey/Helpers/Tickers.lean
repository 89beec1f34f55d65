import Aelkey.Helpers.Ticker
import Aelkey.Loop.TickCalls

set_option relaxedAutoImplicit false
set_option autoImplicit false

/-!
# Tickers and the timers of the loop

`aelkey_ticker.lua` hands out instances and keeps those that `set` has made in a registry. All of
them share the scheduler (`source/tick_scheduler.h`) with the other calls of `aelkey.tick`. An
instance remembers its interval and whether it is active, and the scheduler has the timer; nothing
but the order of the calls keeps the two together. This file has any number of tickers, their
registry, and the loop with its timers, under all calls.

## Main definitions

* `Aelkey.Tickers` — the instances, the registry, the loop, and the calls that wait for `fn`.
* `Aelkey.Tickers.step` — a call of a method or of the registry, a call of `aelkey.tick` by other
  code, and what the loop does.
* `Aelkey.Tickers.AllConfigured` — a ticker that is active has one timer, set to its interval, and
  one that is not has none.
* `Aelkey.Tickers.Keeps` — what a step must not do.

## Main results

* `Aelkey.Tickers.allConfigured_iff_keeps` — the first holds in every state of a run iff the second
  holds at every step.

## Design

An instance is known by its handler, a function that `new` has just made, which no timer can have
yet. An interval is the integer that `aelkey.tick` gets, after its conversion to the `int` that
`core_tick` takes, so that zero stands for every time that is converted to zero. `timerfd_settime`
refuses a negative time. An error of `fn` ends the call that waits for it; if the error ends an
outer call, too, then this is a further step. Of the past, a state has what `aelkey.tick` was last
called with for each handler: no step depends on it, but it says what `fn` has done to its ticker.
-/

namespace Aelkey

open Ticks Ticker

/-- The options of `set`. -/
structure SetOpts extends Opts where
  id : Option String := none

/-- The key of the handler. -/
def Ticker.key (self : Ticker) : TickKey := .function self.handler

/-! ## The tickers -/

/-- The instances by their handlers, `instances`, the loop with its timers, and the calls that wait
for `fn`, the innermost first; and, for each handler, the time that `aelkey.tick` was last called
with. -/
structure Tickers where
  made : Table ℕ Ticker := ∅
  instances : Table String ℕ := ∅
  loop : TimerLoop := {}
  waiting : List (Waiting × ℕ) := []
  asked : Table ℕ ℤ := ∅

namespace Tickers

/-- What `aelkey.tick` was last called with for each handler, after one more call. The call
`tick(0)` is one for each of them. -/
def ask (asked : Table ℕ ℤ) (ms : ℤ) : Option TickKey → Table ℕ ℤ
  | none => if ms = 0 then ∅ else asked
  | some (.name _ _) => asked
  | some (.function h) => asked.insert h ms

/-- The time that `aelkey.tick` was last called with for a handler, zero if it never was. -/
def lastAsked (s : Tickers) (h : ℕ) : ℤ := (s.asked.lookup h).getD 0

/-- `aelkey.tick`. -/
def tick (s : Tickers) (ms : ℤ) (key : Option TickKey) (a : NewTimer) : Tickers :=
  { s with loop := callTick s.loop ms key a, asked := ask s.asked ms key }

/-- The fields of an instance are assigned. -/
def assign (s : Tickers) (self : Ticker) : Tickers :=
  { s with made := s.made.insert self.handler self }

/-- A call of `fn` begins. -/
def callFn (s : Tickers) (w : Waiting) (self : Ticker) : Tickers :=
  { s with waiting := (w, self.handler) :: s.waiting }

/-- What is done with the instance of a handler. -/
def withInstance (s : Tickers) (handler : ℕ) (f : Ticker → Tickers) : Tickers :=
  match s.made.lookup handler with
  | some self => f self
  | none => s

/-- `start`, up to its call of `fn`. -/
def start (s : Tickers) (a : NewTimer) (self : Ticker) : Tickers :=
  if self.active then s
  else
    let self := { self with active := true }
    let s := s.assign self
    if self.immediate ∧ self.fn then s.callFn .start self
    else s.tick self.intervalMs (some self.key) a

/-- `stop`. -/
def stop (s : Tickers) (a : NewTimer) (self : Ticker) : Tickers :=
  if !self.active then s
  else (s.assign { self with active := false }).tick 0 (some self.key) a

/-- `reset`. -/
def reset (s : Tickers) (a : NewTimer) (self : Ticker) : Tickers :=
  (s.tick 0 (some self.key) a).assign { self with active := false }

/-- The handler, up to its call of `fn`. -/
def handler (s : Tickers) (self : Ticker) : Tickers :=
  if self.active ∧ self.fn then s.callFn .handler self else s

/-- What `set` assigns to an instance that exists. -/
def update (opts : SetOpts) (inst : Ticker) : Ticker :=
  { inst with
    fn := inst.fn || opts.fn
    intervalMs := opts.interval.getD inst.intervalMs
    immediate := opts.immediate.getD inst.immediate }

/-- `set`. Without an id it only prints a warning. -/
def set (s : Tickers) (opts : SetOpts) (handler : ℕ) : Tickers :=
  match opts.id with
  | none => s
  | some id =>
    match s.instances.lookup id with
    | none =>
      { s.assign (Ticker.new opts.toOpts handler) with
        instances := s.instances.insert id handler }
    | some h => s.withInstance h fun inst => s.assign (update opts inst)

/-- `start_global` and `stop_global`: a method of the instance of an id, if there is one. -/
def global (s : Tickers) (id : String) (f : Ticker → Tickers) : Tickers :=
  match s.instances.lookup id with
  | some h => s.withInstance h f
  | none => s

/-- `start_global`. -/
def startGlobal (s : Tickers) (id : String) (a : NewTimer) : Tickers := s.global id (s.start a)

/-- `stop_global`. -/
def stopGlobal (s : Tickers) (id : String) (a : NewTimer) : Tickers := s.global id (s.stop a)

/-- The next event of the batch is handled. If it calls a handler, the handler is run up to its call
of `fn`. -/
def deliver (s : Tickers) (readOk callable : Bool) : Tickers :=
  let s := { s with loop := timerStep s.loop (.deliver readOk callable) }
  match s.loop.running with
  | some d => if d.called ∧ d.cb.isFunction then s.withInstance d.cb.fn s.handler else s
  | none => s

/-- The rest of the innermost call that waits for `fn`. -/
def fnReturns (s : Tickers) (a : NewTimer) : Tickers :=
  match s.waiting with
  | [] => s
  | (.start, h) :: waiting =>
    let s := { s with waiting := waiting }
    s.withInstance h fun self => s.tick self.intervalMs (some self.key) a
  | (.handler, _) :: waiting => { s with waiting := waiting }

/-- An error of `fn` ends the innermost call that waits for it. -/
def fnRaises (s : Tickers) : Tickers := { s with waiting := s.waiting.tail }

/-- A call of `new`, of `set`, of a method, or of `aelkey.tick` by other code; a step of the loop;
and the end of the innermost call of `fn`. -/
inductive Call
  | new (opts : Opts) (handler : ℕ)
  | set (opts : SetOpts) (handler : ℕ)
  | startGlobal (id : String) (a : NewTimer)
  | stopGlobal (id : String) (a : NewTimer)
  | start (handler : ℕ) (a : NewTimer)
  | stop (handler : ℕ) (a : NewTimer)
  | reset (handler : ℕ) (a : NewTimer)
  | tick (ms : ℤ) (key : Option TickKey) (a : NewTimer)
  | wait (ready : List ℤ)
  | deliver (readOk callable : Bool)
  | finish
  | fnReturns (a : NewTimer)
  | fnRaises

/-- One step. The loop goes on when no call is in progress. -/
def step (s : Tickers) : Call → Tickers
  | .new opts handler => s.assign (Ticker.new opts handler)
  | .set opts handler => s.set opts handler
  | .startGlobal id a => s.startGlobal id a
  | .stopGlobal id a => s.stopGlobal id a
  | .start handler a => s.withInstance handler (s.start a)
  | .stop handler a => s.withInstance handler (s.stop a)
  | .reset handler a => s.withInstance handler (s.reset a)
  | .tick ms key a => s.tick ms key a
  | .wait ready =>
    if s.waiting = [] then { s with loop := timerStep s.loop (.wait ready) } else s
  | .deliver readOk callable =>
    if s.waiting = [] ∧ s.loop.running = none then s.deliver readOk callable else s
  | .finish => if s.waiting = [] then { s with loop := timerStep s.loop .finish } else s
  | .fnReturns a => s.fnReturns a
  | .fnRaises => s.fnRaises

/-- A descriptor that the kernel may give to a new timer. -/
def Unused (s : Tickers) (a : NewTimer) : Prop := 0 ≤ a.fd ∧ a.fd ∉ s.loop.kernel.files

/-- A function that has just been made: it is the handler of no instance, and no timer has it. -/
def Fresh (s : Tickers) (handler : ℕ) : Prop :=
  handler ∉ s.made ∧ ¬ s.loop.tick.callbacks.Holds (· = (TickKey.function handler).cb)

/-- What the kernel and the language grant. -/
def Legal (s : Tickers) : Call → Prop
  | .new _ handler | .set _ handler => s.Fresh handler
  | .startGlobal _ a | .stopGlobal _ a | .start _ a | .stop _ a | .reset _ a | .tick _ _ a
  | .fnReturns a => s.Unused a
  | .wait _ | .deliver _ _ | .finish | .fnRaises => True

/-- **A ticker and its timer.** A ticker that is active has one timer, which is set to its interval;
one that is not active has none. -/
def Configured (l : TimerLoop) (self : Ticker) : Prop :=
  (timersOf l self.key).map l.armed.lookup =
    if self.active then [some (timerSpec self.intervalMs false)] else []

/-- No call of `start` of the instance waits for `fn`. -/
def Idle (s : Tickers) (h : ℕ) : Prop := (.start, h) ∉ s.waiting

/-- Every ticker is as it is configured, except while a call of its `start` waits for `fn`. -/
def AllConfigured (s : Tickers) : Prop :=
  s.made.All fun h self => s.Idle h → Configured s.loop self

/-- If `start` arms the timer at once, then for an interval that is positive. -/
def StartsPositive (s : Tickers) (h : ℕ) : Prop :=
  ∀ self ∈ s.made.lookup h, s.Idle h → self.active = false →
    ¬ (self.immediate = true ∧ self.fn = true) → 0 < self.intervalMs

/-- The instance whose call of `start` the end of the innermost call of `fn` ends, unless that call
of `start` is within another one of the instance. -/
def ended (s : Tickers) : Option ℕ :=
  match s.waiting with
  | (.start, h) :: waiting => if (.start, h) ∈ waiting then none else some h
  | _ => none

/-- The instance whose call of `start` ends has the property `Q`. -/
def EndsStart (s : Tickers) (Q : Ticker → Prop) : Prop :=
  ∀ h ∈ s.ended, ∀ self ∈ s.made.lookup h, Q self

/-- A time to call `aelkey.tick` with for the handler of a ticker: its interval, which is positive,
while the ticker is active, and one that cancels otherwise. -/
def Suits (self : Ticker) (ms : ℤ) : Prop :=
  if self.active then 0 < ms ∧ ms = self.intervalMs else ms ≤ 0

/-- **What keeps the tickers configured.** `set` changes no interval of a ticker that is active.
`start` arms a timer for a positive interval only, and so does `start` after `fn`, which finds the
ticker active then and only then. No other code calls `tick(0)` while a ticker is active, or `tick`
for the handler of a ticker with anything but what the ticker has. An error of `fn` ends `start`
only after `fn` has made up for the timer that is not armed: it has stopped its ticker or reset it,
or, where the ticker is active, the last call of `aelkey.tick` has armed it for its interval, as a
`start` within `fn` does. -/
def Keeps (s : Tickers) : Call → Prop
  | .set opts _ => ∀ id ∈ opts.id, ∀ h ∈ s.instances.lookup id, ∀ self ∈ s.made.lookup h,
      s.Idle h → self.active = true → ∀ i ∈ opts.interval, i = self.intervalMs
  | .startGlobal id _ => ∀ h ∈ s.instances.lookup id, s.StartsPositive h
  | .start h _ => s.StartsPositive h
  | .tick ms none _ => ms = 0 → s.made.All fun h self => s.Idle h → self.active = false
  | .tick ms (some (.function h)) _ => ∀ self ∈ s.made.lookup h, s.Idle h → Suits self ms
  | .fnReturns _ => s.EndsStart fun self => self.active = true ↔ 0 < self.intervalMs
  | .fnRaises => s.EndsStart fun self => Suits self (s.lastAsked self.handler)
  | _ => True

instance (s : Tickers) (a : NewTimer) : Decidable (s.Unused a) := instDecidableAnd

instance (s : Tickers) (handler : ℕ) : Decidable (s.Fresh handler) := instDecidableAnd

instance (l : TimerLoop) (self : Ticker) : Decidable (Configured l self) := instDecidableEqList _ _

instance (s : Tickers) (h : ℕ) : Decidable (s.Idle h) := instDecidableNot

instance (self : Ticker) (ms : ℤ) : Decidable (Suits self ms) :=
  inferInstanceAs (Decidable (if self.active then 0 < ms ∧ ms = self.intervalMs else ms ≤ 0))

instance (s : Tickers) : Decidable s.AllConfigured := inferInstanceAs (Decidable (Table.All _ _))

instance (s : Tickers) (h : ℕ) : Decidable (s.StartsPositive h) :=
  inferInstanceAs (Decidable (∀ self ∈ s.made.lookup h, _))

instance (s : Tickers) (Q : Ticker → Prop) [DecidablePred Q] : Decidable (s.EndsStart Q) :=
  inferInstanceAs (Decidable (∀ h ∈ s.ended, _))

instance decidableLegal (s : Tickers) : ∀ a : Call, Decidable (Legal s a)
  | .new _ handler | .set _ handler => inferInstanceAs (Decidable (s.Fresh handler))
  | .startGlobal _ a | .stopGlobal _ a | .start _ a | .stop _ a | .reset _ a | .tick _ _ a
  | .fnReturns a => inferInstanceAs (Decidable (s.Unused a))
  | .wait _ | .deliver _ _ | .finish | .fnRaises => .isTrue trivial

instance decidableKeeps (s : Tickers) : ∀ a : Call, Decidable (Keeps s a)
  | .set opts _ => inferInstanceAs (Decidable (∀ id ∈ opts.id, ∀ h ∈ s.instances.lookup id,
      ∀ self ∈ s.made.lookup h, s.Idle h → self.active = true →
        ∀ i ∈ opts.interval, i = self.intervalMs))
  | .startGlobal id _ =>
    inferInstanceAs (Decidable (∀ h ∈ s.instances.lookup id, s.StartsPositive h))
  | .start h _ => inferInstanceAs (Decidable (s.StartsPositive h))
  | .tick ms none _ =>
    inferInstanceAs (Decidable (ms = 0 → s.made.All fun h self => s.Idle h → self.active = false))
  | .tick ms (some (.function h)) _ =>
    inferInstanceAs (Decidable (∀ self ∈ s.made.lookup h, s.Idle h → Suits self ms))
  | .fnReturns _ =>
    inferInstanceAs (Decidable (s.EndsStart fun self => self.active = true ↔ 0 < self.intervalMs))
  | .fnRaises =>
    inferInstanceAs (Decidable (s.EndsStart fun self => Suits self (s.lastAsked self.handler)))
  | .new _ _ | .stopGlobal _ _ | .stop _ _ | .reset _ _ | .tick _ (some (.name _ _)) _ | .wait _
  | .deliver _ _ | .finish => .isTrue trivial

/-! ## One ticker -/

/-- What a ticker says of its timer. -/
def Fits (self : Ticker) (timer : Option ℕ) : Prop :=
  timer.map (Nat.cast : ℕ → ℤ) = if self.active then some self.intervalMs else none

/-- A ticker is as it is configured iff its interval is in the table while it is active. -/
lemma configured_iff {l : TimerLoop} (hl : TableInv l) (self : Ticker) :
    Configured l self ↔ Fits self (l.table.lookup self.key) := by
  rw [Configured, map_timersOf hl, Fits]
  rcases l.table.lookup self.key with _ | ms
  · split_ifs <;> simp
  · split_ifs
    · simp only [Option.map_some, Option.toList_some, List.cons.injEq, Option.some.injEq, and_true]
      exact ⟨timerSpec_injective_int, fun h => h ▸ rfl⟩
    · simp

/-- The interval of a ticker suits it iff the ticker is active exactly if the interval is
positive. -/
lemma suits_intervalMs (self : Ticker) :
    Suits self self.intervalMs ↔ (self.active = true ↔ 0 < self.intervalMs) := by
  unfold Suits
  split_ifs with hactive <;> simp [hactive]

/-- Zero suits a ticker that is not active. -/
lemma suits_zero {self : Ticker} (hoff : self.active = false) : Suits self 0 := by
  simp [Suits, hoff]

/-- A ticker fits the timer of a call of `aelkey.tick` iff the time of the call suits it. -/
lemma fits_tickTimer (self : Ticker) (ms : ℤ) : Fits self (tickTimer ms) ↔ Suits self ms := by
  unfold Fits tickTimer Suits
  by_cases hms : 0 < ms
  · rw [if_pos hms, Option.map_some, Int.toNat_of_nonneg hms.le]
    split_ifs
    · simp [hms]
    · simpa using hms
  · rw [if_neg hms, Option.map_none]
    split_ifs
    · simp [hms]
    · simpa using hms

/-- The instance `h` is as it is configured, in terms of the table of intervals. -/
def Settled (s : Tickers) (h : ℕ) : Prop :=
  s.Idle h → ∀ self ∈ s.made.lookup h, Fits self (s.loop.table.lookup (.function h))

/-- **The invariant.** The timer table is a map, an instance is known by its handler, and its timer
is that of the last call of `aelkey.tick` for the handler. -/
structure Inv (s : Tickers) : Prop where
  table : TableInv s.loop
  handler : ∀ h, ∀ self ∈ s.made.lookup h, self.handler = h
  asked : ∀ h, s.loop.table.lookup (.function h) = tickTimer (s.lastAsked h)

/-- All instances are configured iff each is settled. -/
lemma allConfigured_iff {s : Tickers} (hs : Inv s) : AllConfigured s ↔ ∀ h, Settled s h := by
  refine forall_congr' fun h => ⟨fun hc hidle self hself => ?_, fun hc self hself hidle => ?_⟩
  · have hfits := (configured_iff hs.table self).mp (hc self hself hidle)
    rwa [Ticker.key, hs.handler h self hself] at hfits
  · rw [configured_iff hs.table, Ticker.key, hs.handler h self hself]
    exact hc hidle self hself

/-- What is done with one instance: the others, their timers and their calls are left alone. -/
structure Acts (h : ℕ) (s s' : Tickers) : Prop where
  made : ∀ x, x ≠ h → s'.made.lookup x = s.made.lookup x
  table : ∀ x, x ≠ h →
    s'.loop.table.lookup (.function x) = s.loop.table.lookup (.function x)
  waiting : ∀ x, x ≠ h → (s'.Idle x ↔ s.Idle x)

/-- An action on one instance settles all iff it settles this one. -/
lemma Acts.settled_iff {h : ℕ} {s s' : Tickers} (ha : Acts h s s') (hs : ∀ x, Settled s x) :
    (∀ x, Settled s' x) ↔ Settled s' h := by
  refine ⟨fun hall => hall h, fun hh x => ?_⟩
  by_cases hx : x = h
  · exact hx ▸ hh
  · intro hidle self hself
    rw [ha.table x hx]
    exact hs x ((ha.waiting x hx).mp hidle) self (ha.made x hx ▸ hself)

/-- Doing nothing. -/
lemma Acts.rfl (h : ℕ) (s : Tickers) : Acts h s s :=
  ⟨fun _ _ => Eq.refl _, fun _ _ => Eq.refl _, fun _ _ => Iff.rfl⟩

/-- Two actions on one instance. -/
lemma Acts.trans {h : ℕ} {s s' s'' : Tickers} (ha : Acts h s s') (ha' : Acts h s' s'') :
    Acts h s s'' where
  made x hx := (ha'.made x hx).trans (ha.made x hx)
  table x hx := (ha'.table x hx).trans (ha.table x hx)
  waiting x hx := (ha'.waiting x hx).trans (ha.waiting x hx)

/-- Assigning the fields of an instance. -/
lemma acts_assign (s : Tickers) (self : Ticker) : Acts self.handler s (s.assign self) where
  made x hx := by rw [assign, Table.lookup_insert, if_neg hx]
  table _ _ := rfl
  waiting _ _ := Iff.rfl

/-- A call of `aelkey.tick` for the handler of an instance. -/
lemma acts_tick (s : Tickers) (ms : ℤ) (h : ℕ) (a : NewTimer) :
    Acts h s (s.tick ms (some (.function h)) a) where
  made _ _ := rfl
  table x hx := by
    have hne : TickKey.function x ≠ .function h := fun he => hx (TickKey.function.inj he)
    rw [tick, lookup_callTick, if_neg hne]
  waiting _ _ := Iff.rfl

/-- A call of `fn` of an instance. -/
lemma acts_callFn (s : Tickers) (w : Waiting) (self : Ticker) :
    Acts self.handler s (s.callFn w self) where
  made _ _ := rfl
  table _ _ := rfl
  waiting x hx := by simp [Idle, callFn, hx]

/-! ## The invariant under the parts of a step -/

/-- The invariant after an assignment. -/
lemma Inv.assign {s : Tickers} (hs : Inv s) (self : Ticker) : Inv (s.assign self) where
  table := hs.table
  handler h self' hself' := by
    rw [Tickers.assign, Table.lookup_insert] at hself'
    split_ifs at hself' with hh
    · rw [hh, ← Option.some.inj hself']
    · exact hs.handler h self' hself'
  asked := hs.asked

/-- A call of `aelkey.tick` changes the timer of a handler as it changes the last call for it. -/
lemma Inv.asked_tick {s : Tickers} (hs : Inv s) (ms : ℤ) (key : Option TickKey) (a : NewTimer)
    (h : ℕ) :
    (s.tick ms key a).loop.table.lookup (.function h) =
      tickTimer ((s.tick ms key a).lastAsked h) := by
  rcases key with _ | ⟨name, hname⟩ | h'
  · by_cases hms : ms = 0
    · simp [tick, callTick, setKey, lastAsked, ask, hms, tickTimer]
    · have htable : (s.tick ms none a).loop.table = s.loop.table := by simp [tick, callTick, hms]
      have hasked : (s.tick ms none a).asked = s.asked := if_neg hms
      rw [htable, lastAsked, hasked]
      exact hs.asked h
  · rw [tick, lookup_callTick, if_neg TickKey.noConfusion]
    exact hs.asked h
  · rw [tick, lookup_callTick]
    simp only [TickKey.function.injEq, lastAsked, ask, Table.lookup_insert]
    split_ifs
    · rfl
    · exact hs.asked h

/-- The invariant after a call of `aelkey.tick`. -/
lemma Inv.tick {s : Tickers} (hs : Inv s) (ms : ℤ) (key : Option TickKey) {a : NewTimer}
    (ha : s.Unused a) : Inv (s.tick ms key a) where
  table := tableInv_callTick hs.table ms key ha.1 ha.2
  handler := hs.handler
  asked := hs.asked_tick ms key a

/-- The invariant says nothing about the calls in progress. -/
lemma Inv.of_waiting {s : Tickers} (hs : Inv s) (waiting : List (Waiting × ℕ)) :
    Inv { s with waiting := waiting } := ⟨hs.table, hs.handler, hs.asked⟩

/-- After an assignment the instance is what has been assigned. -/
lemma lookup_assign (s : Tickers) (self : Ticker) :
    (s.assign self).made.lookup self.handler = some self := by
  rw [assign, Table.lookup_insert, if_pos rfl]

/-- After an assignment the instance is settled iff what has been assigned fits its timer. -/
lemma settled_assign (s : Tickers) (self : Ticker) :
    Settled (s.assign self) self.handler ↔
      (s.Idle self.handler → Fits self (s.loop.table.lookup self.key)) := by
  refine forall_congr' fun _ => ?_
  rw [lookup_assign]
  exact ⟨fun h => h self rfl, fun h self' hself' => Option.some.inj hself' ▸ h⟩

/-- After a call of `aelkey.tick` for the handler of an instance, its timer is that of the call. -/
lemma settled_tick {s : Tickers} {h : ℕ} {self : Ticker} (hself : s.made.lookup h = some self)
    (ms : ℤ) (a : NewTimer) :
    Settled (s.tick ms (some (.function h)) a) h ↔
      (s.Idle h → Suits self ms) := by
  rw [← fits_tickTimer]
  refine forall_congr' fun _ => ?_
  rw [tick, lookup_callTick, if_pos rfl, hself]
  exact ⟨fun hall => hall self rfl, fun hfits self' hself' => Option.some.inj hself' ▸ hfits⟩

/-- A state in which every instance has the fields, the calls of `start` and the timer that it had
is settled where the old one was. -/
lemma settled_of_same {s s' : Tickers} (hall : ∀ x, Settled s x) (hmade : s'.made = s.made)
    (hidle : ∀ x, s'.Idle x ↔ s.Idle x)
    (htable : ∀ x, s'.loop.table.lookup (.function x) = s.loop.table.lookup (.function x)) (x : ℕ) :
    Settled s' x := by
  rw [Settled, hidle, hmade, htable]
  exact hall x

/-! ## Methods -/

section Methods

variable {s : Tickers} {self : Ticker} {a : NewTimer} (hs : Inv s)
  (hself : s.made.lookup self.handler = some self) (ha : s.Unused a)

include hs ha in
/-- The invariant after `start`. -/
lemma inv_start : Inv (s.start a self) := by
  unfold start
  dsimp only
  split_ifs
  · exact hs
  · exact (hs.assign _).of_waiting _
  · exact (hs.assign _).tick _ _ ha

/-- `start` acts on its instance. -/
lemma acts_start : Acts self.handler s (s.start a self) := by
  unfold start
  dsimp only
  split_ifs
  · exact Acts.rfl _ _
  · exact (acts_assign s { self with active := true }).trans (acts_callFn _ _ _)
  · exact (acts_assign s { self with active := true }).trans (acts_tick _ _ _ _)

include hself in
/-- `start` leaves its instance settled iff it arms the timer for a positive interval, if at all. -/
lemma settled_start (hold : Settled s self.handler) :
    Settled (s.start a self) self.handler ↔ s.StartsPositive self.handler := by
  have hpos : s.StartsPositive self.handler ↔ (s.Idle self.handler → self.active = false →
      ¬ (self.immediate = true ∧ self.fn = true) → 0 < self.intervalMs) := by
    rw [StartsPositive, hself]
    exact ⟨fun h => h self rfl, fun h self' hself' => Option.some.inj hself' ▸ h⟩
  rw [hpos]
  unfold start
  dsimp only
  split_ifs with hactive hfires
  · exact iff_of_true hold fun _ hoff => absurd (hoff.symm.trans hactive) Bool.false_ne_true
  · exact iff_of_true (fun hidle => absurd (List.mem_cons_self ..) hidle) fun _ _ hn =>
      absurd hfires hn
  · have hoff : self.active = false := Bool.eq_false_iff.mpr hactive
    refine (settled_tick (lookup_assign s { self with active := true }) self.intervalMs a).trans
      (forall_congr' fun _ => (suits_intervalMs _).trans ?_)
    simp [hoff, hfires]

include hs ha in
/-- The invariant after `stop`. -/
lemma inv_stop : Inv (s.stop a self) := by
  unfold stop
  split_ifs
  · exact hs
  · exact (hs.assign _).tick _ _ ha

/-- `stop` acts on its instance. -/
lemma acts_stop : Acts self.handler s (s.stop a self) := by
  unfold stop
  split_ifs
  · exact Acts.rfl _ _
  · exact (acts_assign s { self with active := false }).trans (acts_tick _ _ _ _)

/-- `stop` leaves its instance settled. -/
lemma settled_stop (hold : Settled s self.handler) : Settled (s.stop a self) self.handler := by
  unfold stop
  split_ifs
  · exact hold
  · exact (settled_tick (lookup_assign s { self with active := false }) 0 a).mpr fun _ =>
      suits_zero rfl

include hs ha in
/-- The invariant after `reset`. -/
lemma inv_reset : Inv (s.reset a self) := (hs.tick _ _ ha).assign _

/-- `reset` acts on its instance. -/
lemma acts_reset : Acts self.handler s (s.reset a self) :=
  (acts_tick s 0 self.handler a).trans (acts_assign _ { self with active := false })

/-- `reset` leaves its instance settled. -/
lemma settled_reset : Settled (s.reset a self) self.handler := by
  refine (settled_assign _ { self with active := false }).mpr fun _ => ?_
  have htimer : (s.tick 0 (some self.key) a).loop.table.lookup self.key = tickTimer 0 := by
    rw [tick, lookup_callTick, if_pos rfl]
  exact htimer ▸ (fits_tickTimer { self with active := false } 0).mpr (suits_zero rfl)

end Methods

/-- What is done with the instance of a handler.

**Proof sketch.** There is no such instance, and nothing is done, or `f` acts on it. -/
lemma withInstance_spec {s : Tickers} (hs : Inv s) (hall : ∀ x, Settled s x) (h : ℕ)
    {f : Ticker → Tickers} {C : Prop} (hC : s.made.lookup h = none → C)
    (hf : ∀ self, s.made.lookup self.handler = some self → self.handler = h →
      Inv (f self) ∧ Acts self.handler s (f self) ∧ (Settled (f self) self.handler ↔ C)) :
    Inv (s.withInstance h f) ∧ ((∀ x, Settled (s.withInstance h f) x) ↔ C) := by
  unfold withInstance
  split
  · next self hself =>
    obtain rfl := hs.handler h self hself
    obtain ⟨hinv, hacts, hsettled⟩ := hf self hself rfl
    exact ⟨hinv, (hacts.settled_iff hall).trans hsettled⟩
  · next hnone => exact ⟨hs, iff_of_true hall (hC hnone)⟩

/-- A call of `start`. -/
lemma withInstance_start {s : Tickers} (hs : Inv s) (hall : ∀ x, Settled s x) (h : ℕ)
    {a : NewTimer} (ha : s.Unused a) :
    Inv (s.withInstance h (s.start a)) ∧
      ((∀ x, Settled (s.withInstance h (s.start a)) x) ↔ s.StartsPositive h) := by
  refine withInstance_spec hs hall h (fun hnone self hself => ?_) fun self hself hh => ?_
  · rw [hnone] at hself
    cases hself
  · exact ⟨inv_start hs ha, acts_start, hh ▸ settled_start hself (hall _)⟩

/-- A call of `stop`. -/
lemma withInstance_stop {s : Tickers} (hs : Inv s) (hall : ∀ x, Settled s x) (h : ℕ)
    {a : NewTimer} (ha : s.Unused a) :
    Inv (s.withInstance h (s.stop a)) ∧
      ((∀ x, Settled (s.withInstance h (s.stop a)) x) ↔ True) :=
  withInstance_spec hs hall h (fun _ => trivial) fun _ _ _ =>
    ⟨inv_stop hs ha, acts_stop, iff_true_intro (settled_stop (hall _))⟩

/-- A call of `reset`. -/
lemma withInstance_reset {s : Tickers} (hs : Inv s) (hall : ∀ x, Settled s x) (h : ℕ)
    {a : NewTimer} (ha : s.Unused a) :
    Inv (s.withInstance h (s.reset a)) ∧
      ((∀ x, Settled (s.withInstance h (s.reset a)) x) ↔ True) :=
  withInstance_spec hs hall h (fun _ => trivial) fun _ _ _ =>
    ⟨inv_reset hs ha, acts_reset, iff_true_intro settled_reset⟩

/-! ## The registry -/

/-- A new instance has no timer. -/
lemma assign_new {s : Tickers} (hs : Inv s) (hall : ∀ x, Settled s x) (opts : Opts) {handler : ℕ}
    (hfresh : s.Fresh handler) : ∀ x, Settled (s.assign (Ticker.new opts handler)) x := by
  refine ((acts_assign s (Ticker.new opts handler)).settled_iff hall).mpr ?_
  refine (settled_assign s (Ticker.new opts handler)).mpr fun _ => ?_
  have hnone : s.loop.table.lookup (.function handler) = none := by
    by_contra hne
    obtain ⟨ms, hms⟩ := Option.ne_none_iff_exists'.mp hne
    obtain ⟨fd, hfd⟩ := hs.table.timer _ ms hms
    exact hfresh.2 ⟨fd, _, hfd, rfl⟩
  exact hnone ▸ rfl

/-- An assignment of `set` to a ticker that fits its timer makes no difference iff the ticker is not
active or its interval stays. -/
lemma fits_update {opts : SetOpts} {inst : Ticker} {timer : Option ℕ} (h : Fits inst timer) :
    Fits (update opts inst) timer ↔
      (inst.active = true → ∀ i ∈ opts.interval, i = inst.intervalMs) := by
  rw [Fits, h]
  simp only [update]
  split_ifs with hactive
  · rcases opts.interval with _ | i
    · simp [hactive]
    · simp [hactive, eq_comm]
  · simp [hactive]

/-- A call of `set`. -/
lemma set_spec {s : Tickers} (hs : Inv s) (hall : ∀ x, Settled s x) (opts : SetOpts) {handler : ℕ}
    (hfresh : s.Fresh handler) :
    Inv (s.set opts handler) ∧
      ((∀ x, Settled (s.set opts handler) x) ↔ Keeps s (.set opts handler)) := by
  unfold set
  simp only [Keeps]
  split
  · next hid => exact ⟨hs, iff_of_true hall (by simp [hid])⟩
  · next id hid =>
    simp only [hid, Option.mem_def, Option.some.injEq, forall_eq']
    split
    · next hnone =>
      have hinv := hs.assign (Ticker.new opts.toOpts handler)
      exact ⟨⟨hinv.table, hinv.handler, hinv.asked⟩,
        iff_of_true (assign_new hs hall opts.toOpts hfresh) (by simp [hnone])⟩
    · next h hh =>
      simp only [hh, Option.some.injEq, forall_eq']
      refine withInstance_spec hs hall h (by simp +contextual) fun self hself hhandler => ?_
      refine ⟨hs.assign _, acts_assign s (update opts self), ?_⟩
      rw [← hhandler, hself]
      refine (settled_assign s (update opts self)).trans ?_
      simp only [Option.some.injEq, forall_eq']
      exact forall_congr' fun hidle => fits_update (hall self.handler hidle self hself)

/-- A method that is called by the id of its instance. -/
lemma global_spec {s : Tickers} (hs : Inv s) (hall : ∀ x, Settled s x) (id : String)
    {f : Ticker → Tickers} {C : ℕ → Prop}
    (hf : ∀ h, Inv (s.withInstance h f) ∧ ((∀ x, Settled (s.withInstance h f) x) ↔ C h)) :
    Inv (s.global id f) ∧
      ((∀ x, Settled (s.global id f) x) ↔ ∀ h ∈ s.instances.lookup id, C h) := by
  unfold global
  split
  · next h hh => simpa [hh] using hf h
  · next hnone => exact ⟨hs, iff_of_true hall (by simp [hnone])⟩

/-! ## Calls of `aelkey.tick` by other code -/

/-- A call of `aelkey.tick` by other code: `tick(0)` ends all timers, a call for a handler sets that
of its instance, and a call for a name sets none of an instance. -/
lemma tick_spec {s : Tickers} (hs : Inv s) (hall : ∀ x, Settled s x) (ms : ℤ)
    (key : Option TickKey) {a : NewTimer} (ha : s.Unused a) :
    Inv (s.tick ms key a) ∧ ((∀ x, Settled (s.tick ms key a) x) ↔ Keeps s (.tick ms key a)) := by
  refine ⟨hs.tick ms key ha, ?_⟩
  rcases key with _ | ⟨name, hname⟩ | h
  · by_cases hms : ms = 0
    · have hempty : (s.tick ms none a).loop.table = ∅ := by simp [tick, callTick, setKey, hms]
      simp only [Keeps, hms, forall_const]
      rw [hms] at hempty
      refine forall_congr' fun x => ?_
      rw [Settled, hempty, AList.lookup_empty]
      constructor
      · intro hx self hself hidle
        simpa [Fits] using hx hidle self hself
      · intro hx hidle self hself
        simp [Fits, hx self hself hidle]
    · have htable : (s.tick ms none a).loop.table = s.loop.table := by simp [tick, callTick, hms]
      exact iff_of_true (settled_of_same hall rfl (fun _ => Iff.rfl) fun _ => by rw [htable])
        fun h => absurd h hms
  · refine iff_of_true (settled_of_same hall rfl (fun _ => Iff.rfl) fun h => ?_) trivial
    rw [tick, lookup_callTick, if_neg TickKey.noConfusion]
  · refine ((acts_tick s ms h a).settled_iff hall).trans ?_
    simp only [Keeps]
    rcases hself : s.made.lookup h with _ | self
    · exact iff_of_true (fun _ self hself' => by simp [tick, hself] at hself') (by simp)
    · simpa using settled_tick hself ms a

/-! ## The loop and the end of `fn` -/

/-- A step of the loop calls no `tick`. -/
lemma loop_spec {s : Tickers} (hs : Inv s) (hall : ∀ x, Settled s x) {l : TimerLoop}
    (hl : TableInv l) (htable : l.table = s.loop.table) :
    Inv { s with loop := l } ∧ ∀ x, Settled { s with loop := l } x :=
  ⟨⟨hl, hs.handler, fun h => htable ▸ hs.asked h⟩,
    settled_of_same hall rfl (fun _ => Iff.rfl) fun _ => by rw [htable]⟩

/-- A handler that calls `fn` sets no timer. -/
lemma handler_spec {s : Tickers} (hs : Inv s) (hall : ∀ x, Settled s x) (h : ℕ) :
    Inv (s.withInstance h s.handler) ∧ ∀ x, Settled (s.withInstance h s.handler) x := by
  have hcall : ∀ self, Inv (s.handler self) ∧ ∀ x, Settled (s.handler self) x := by
    intro self
    unfold handler
    split_ifs
    · exact ⟨hs.of_waiting _,
        settled_of_same hall rfl (fun _ => by simp [Idle, callFn]) fun _ => rfl⟩
    · exact ⟨hs, hall⟩
  unfold withInstance
  split
  · next self _ => exact hcall self
  · exact ⟨hs, hall⟩

/-- The handling of an event. -/
lemma deliver_spec {s : Tickers} (hs : Inv s) (hall : ∀ x, Settled s x) (readOk callable : Bool) :
    Inv (s.deliver readOk callable) ∧ ∀ x, Settled (s.deliver readOk callable) x := by
  have htable : (timerStep s.loop (.deliver readOk callable)).table = s.loop.table := by
    simp only [timerStep]
    split <;> rfl
  obtain ⟨hinv, hsettled⟩ := loop_spec hs hall
    (tableInv_step (a := .deliver readOk callable) hs.table trivial) htable
  unfold deliver
  dsimp only
  split
  · split_ifs
    · exact handler_spec hinv hsettled _
    · exact ⟨hinv, hsettled⟩
  · exact ⟨hinv, hsettled⟩

/-- Which call of `start` ends. -/
lemma endsStart_iff {s : Tickers} {h : ℕ} {waiting : List (Waiting × ℕ)}
    (hw : s.waiting = (.start, h) :: waiting) (Q : Ticker → Prop) :
    s.EndsStart Q ↔ ((.start, h) ∉ waiting → ∀ self ∈ s.made.lookup h, Q self) := by
  simp only [EndsStart, ended, hw]
  split_ifs with hin <;> simp [hin]

/-- A call of `start` that leaves the waiting calls acts on its instance. -/
lemma acts_leave {s : Tickers} {h : ℕ} {waiting : List (Waiting × ℕ)}
    (hw : s.waiting = (.start, h) :: waiting) : Acts h s { s with waiting := waiting } where
  made _ _ := rfl
  table _ _ := rfl
  waiting x hx := by simp [Idle, hw, hx]

/-- The return of `fn`, to `start` or to the handler. -/
lemma fnReturns_spec {s : Tickers} (hs : Inv s) (hall : ∀ x, Settled s x) {a : NewTimer}
    (ha : s.Unused a) :
    Inv (s.fnReturns a) ∧ ((∀ x, Settled (s.fnReturns a) x) ↔ Keeps s (.fnReturns a)) := by
  unfold fnReturns
  simp only [Keeps]
  split
  · next hw => exact ⟨hs, iff_of_true hall (by simp [EndsStart, ended, hw])⟩
  · next h waiting hw =>
    have hleave := acts_leave hw
    rw [endsStart_iff hw]
    unfold withInstance
    dsimp only
    split
    · next self hself =>
      obtain rfl := hs.handler h self hself
      refine ⟨(hs.of_waiting waiting).tick _ _ ha,
        ((hleave.trans (acts_tick _ self.intervalMs _ a)).settled_iff hall).trans ?_⟩
      have htick := settled_tick (s := { s with waiting := waiting }) hself self.intervalMs a
      simp only [hself, Option.mem_def, Option.some.injEq, forall_eq']
      exact htick.trans (forall_congr' fun _ => suits_intervalMs self)
    · next hnone =>
      refine ⟨hs.of_waiting waiting, (hleave.settled_iff hall).trans ?_⟩
      exact iff_of_true (fun _ self hself => by simp [hnone] at hself) (by simp [hnone])
  · next h waiting hw =>
    refine ⟨hs.of_waiting waiting, iff_of_true ?_ (by simp [EndsStart, ended, hw])⟩
    exact settled_of_same hall rfl (fun _ => by simp [Idle, hw]) fun _ => rfl

/-- An error of `fn`. -/
lemma fnRaises_spec {s : Tickers} (hs : Inv s) (hall : ∀ x, Settled s x) :
    Inv s.fnRaises ∧ ((∀ x, Settled s.fnRaises x) ↔ Keeps s .fnRaises) := by
  refine ⟨hs.of_waiting _, ?_⟩
  simp only [Keeps, fnRaises]
  rcases hw : s.waiting with _ | ⟨⟨w, h⟩, waiting⟩
  · refine iff_of_true ?_ (by simp [EndsStart, ended, hw])
    exact settled_of_same hall rfl (fun _ => by simp [Idle, hw]) fun _ => rfl
  · cases w with
    | start =>
      rw [endsStart_iff hw]
      refine ((acts_leave hw).settled_iff hall).trans (forall_congr' fun _ => ?_)
      refine forall_congr' fun self => forall_congr' fun hself => ?_
      rw [hs.asked h, fits_tickTimer, hs.handler h self hself]
    | handler =>
      refine iff_of_true ?_ (by simp [EndsStart, ended, hw])
      exact settled_of_same hall rfl (fun _ => by simp [Idle, hw]) fun _ => rfl

/-! ## Runs -/

/-- **The step lemma.** A step keeps the invariant, and it keeps all tickers settled iff it meets the
condition. -/
lemma step_spec {s : Tickers} {c : Call} (hs : Inv s) (hall : ∀ x, Settled s x) (hc : Legal s c) :
    Inv (step s c) ∧ ((∀ x, Settled (step s c) x) ↔ Keeps s c) := by
  cases c with
  | new opts handler => exact ⟨hs.assign _, iff_of_true (assign_new hs hall opts hc) trivial⟩
  | set opts handler => exact set_spec hs hall opts hc
  | startGlobal id a => exact global_spec hs hall id fun h => withInstance_start hs hall h hc
  | stopGlobal id a =>
    have h := global_spec hs hall id fun h => withInstance_stop hs hall h hc
    exact ⟨h.1, h.2.trans (iff_true_intro fun _ _ => trivial)⟩
  | start h a => exact withInstance_start hs hall h hc
  | stop h a => exact withInstance_stop hs hall h hc
  | reset h a => exact withInstance_reset hs hall h hc
  | tick ms key a => exact tick_spec hs hall ms key hc
  | wait ready =>
    have htable : (timerStep s.loop (.wait ready)).table = s.loop.table := by
      simp only [timerStep]
      split <;> rfl
    have h := loop_spec hs hall (tableInv_step (a := .wait ready) hs.table trivial) htable
    simp only [step]
    split_ifs
    · exact ⟨h.1, iff_of_true h.2 trivial⟩
    · exact ⟨hs, iff_of_true hall trivial⟩
  | deliver readOk callable =>
    have h := deliver_spec hs hall readOk callable
    simp only [step]
    split_ifs
    · exact ⟨h.1, iff_of_true h.2 trivial⟩
    · exact ⟨hs, iff_of_true hall trivial⟩
  | finish =>
    have htable : (timerStep s.loop .finish).table = s.loop.table := by
      simp only [timerStep]
      split <;> rfl
    have h := loop_spec hs hall (tableInv_step (a := .finish) hs.table trivial) htable
    simp only [step]
    split_ifs
    · exact ⟨h.1, iff_of_true h.2 trivial⟩
    · exact ⟨hs, iff_of_true hall trivial⟩
  | fnReturns a => exact fnReturns_spec hs hall hc
  | fnRaises => exact fnRaises_spec hs hall

/-- **When the tickers run as they are configured.** Any number of tickers, those of the registry
and others, share the scheduler with other code that calls `aelkey.tick`, and `fn` calls them in any
nesting and may raise errors. In all states of a run every ticker whose `start` does not wait for
`fn` has exactly one timer, set to its interval, while it is active, and none otherwise, if and only
if every step keeps to the rules: no interval is changed while its ticker is active, no timer is
armed for a ticker that is not active, or with an interval that is not positive, no other code ends
or sets the timer of a ticker, and an error of `fn` ends a `start` only if the last call of
`aelkey.tick` for the handler suits the ticker.

**Proof sketch.** A call acts on one instance and its timer, or on none; only `tick(0)` ends the
timers of all. What `aelkey.tick` does to the scheduler is what it does to the table of
intervals. -/
theorem allConfigured_iff_keeps (cs : List Call) (h : Run.EachStep step Legal {} cs) :
    Run.Always step AllConfigured {} cs ↔ Run.EachStep step Keeps {} cs := by
  have hstart : Inv {} := ⟨tableInv_empty, by simp, fun _ => rfl⟩
  refine Run.always_iff_eachStep_of (I := Inv) (fun s c hs hp hc _ => ?_) (fun s c hs hp hc => ?_)
    hstart (by simp [AllConfigured, Table.All]) h
  · exact (step_spec hs ((allConfigured_iff hs).mp hp) hc).1
  · obtain ⟨hinv, hkeeps⟩ := step_spec hs ((allConfigured_iff hs).mp hp) hc
    rw [allConfigured_iff hinv]
    exact hkeeps

/-- A ticker of the registry is started, and so is an immediate one whose `fn` stops the first and
gives it another interval. The timer of the first expires between two starts of it. -/
def scrollCalls : List Call :=
  [.set { id := some "scroll", interval := some 30 } 1, .startGlobal "scroll" { fd := 3 },
    .wait [3], .deliver true true, .fnReturns { fd := 4 }, .finish,
    .new { immediate := some true } 2, .start 2 { fd := 4 }, .stopGlobal "scroll" { fd := 4 },
    .set { id := some "scroll", interval := some 10 } 5, .fnReturns { fd := 4 },
    .startGlobal "scroll" { fd := 5 }]

/-- The tickers of the example run as they are configured, until `set` changes the interval of the
one that is active. -/
theorem allConfigured_iff_keeps_scroll :
    Run.Always step AllConfigured {} scrollCalls ∧
      ¬ Run.Always step AllConfigured {}
        (scrollCalls ++ [.set { id := some "scroll", interval := some 20 } 5]) := by
  refine ⟨(allConfigured_iff_keeps scrollCalls (by decide)).mpr (by decide), fun h => ?_⟩
  exact absurd ((allConfigured_iff_keeps _ (by decide)).mp h) (by decide)

end Tickers

end Aelkey
