import Aelkey.Lib.IntArg
import Aelkey.Loop.TickCalls
import Mathlib.Data.List.MinMax

set_option relaxedAutoImplicit false
set_option autoImplicit false

/-!
# A module with a heartbeat, hosted by the loop

`aelkey_click.lua` and `aelkey_sequence.lua` give a function of their own to `aelkey.tick` and count
its calls. Seen from such a module there is a heartbeat that is armed or not. This file has the
module together with the scheduler that keeps its timer (`source/tick_scheduler.h`), the batch of
`epoll_wait` and other code that calls `aelkey.tick`, and says when the heartbeat that the module
sees is the timer that the scheduler has.

## Main definitions

* `Aelkey.Ticks.Client` — a module with a heartbeat.
* `Aelkey.Ticks.Hosted`, `Aelkey.Ticks.Client.hostStep` — the module and the loop.
* `Aelkey.Ticks.Client.Beats` — the scheduler has the timer that the module sees.
* `Aelkey.Ticks.Client.Undisturbed` — no other code ends all timers while the heartbeat is armed.

## Main results

* `Aelkey.Ticks.Client.always_beats_iff` — the timer is there in all states of a run, with whatever
  the operations of the module keep, iff the module is undisturbed.

## Design

Other code does not pass the handler to `aelkey.tick` (`Aelkey.Ticks.Client.Legal`). The handler of
`aelkey_click.lua` is local, so that it cannot; that of `aelkey_sequence.lua` is the field `handler`
of the instance, so that for it this is an assumption. The times that a module asks for are read as
`core_tick` reads its `int`. The module is known by laws only: what its operations keep, and that
they arm the heartbeat by their calls of `aelkey.tick`. A call of the handler is one step, at the
delivery of its timer.
-/

namespace Aelkey.Ticks

variable {μ ο : Type*}

/-! ## Several calls of `tick` -/

/-- How the kernel picks the descriptor of a new timer: one that is not in use. -/
structure Alloc where
  pick : Kernel → NewTimer
  nonneg : ∀ k, 0 ≤ (pick k).fd
  unused : ∀ k, (pick k).fd ∉ k.files

/-- A descriptor above all that are in use. -/
def Alloc.above : Alloc where
  pick k := { fd := k.files.keys.foldr max 0 + 1 }
  nonneg k := by
    have h : ∀ l : List ℤ, 0 ≤ l.foldr max 0 := by
      intro l
      induction l with
      | nil => exact le_refl 0
      | cons fd l ih => exact le_max_of_le_right ih
    have hfiles := h k.files.keys
    show 0 ≤ k.files.keys.foldr max 0 + 1
    omega
  unused k hfd := by
    have h := List.le_max_of_le' 0 (AList.mem_keys.mp hfd) (le_refl _)
    dsimp only at h
    omega

/-- Calls of `aelkey.tick` for one key. -/
def callTicks (a : Alloc) (key : TickKey) (l : TimerLoop) (calls : List ℤ) : TimerLoop :=
  calls.foldl (fun l ms => callTick l ms (some key) (a.pick l.kernel)) l

/-- The timer that calls for a key leave. -/
def ticksTimer (timer : Option ℕ) (calls : List ℤ) : Option ℕ :=
  calls.foldl (fun _ ms => tickTimer ms) timer

/-- Calls of `aelkey.tick` keep the invariant of the timer table. -/
lemma tableInv_callTicks (a : Alloc) (key : TickKey) {l : TimerLoop} (hl : TableInv l)
    (calls : List ℤ) : TableInv (callTicks a key l calls) := by
  induction calls generalizing l with
  | nil => exact hl
  | cons ms calls ih =>
    exact ih (tableInv_callTick hl ms (some key) (a.nonneg l.kernel) (a.unused l.kernel))

/-- The interval of a key after calls for it. -/
lemma lookup_callTicks (a : Alloc) (key : TickKey) (l : TimerLoop) (calls : List ℤ) :
    (callTicks a key l calls).table.lookup key = ticksTimer (l.table.lookup key) calls := by
  induction calls generalizing l with
  | nil => rfl
  | cons ms calls ih =>
    have hcons : callTicks a key l (ms :: calls) =
        callTicks a key (callTick l ms (some key) (a.pick l.kernel)) calls := rfl
    rw [hcons, ih, lookup_callTick, if_pos rfl]
    rfl

/-- The times of those calls that are calls of `aelkey.tick`, as `core_tick` reads them. -/
def times {κ : Type*} (conv : IntArg) (time : κ → Option ℚ) (calls : List κ) : List ℤ :=
  calls.filterMap fun c => (time c).map conv.toInt

/-- Calls that stop a heartbeat or start it with its interval leave the timer of the interval iff
the last of them has started it. -/
lemma ticksTimer_times {κ : Type*} {conv : IntArg} {time : κ → Option ℚ} {interval : ℚ}
    (hpos : 0 < conv.toInt interval) {calls : List κ}
    (h : ∀ c ∈ calls, ∀ q ∈ time c, q = 0 ∨ q = interval) (armed : Bool) :
    ticksTimer (if armed then some (conv.toInt interval).toNat else none) (times conv time calls) =
      if calls.foldl (fun b c => (time c).elim b fun q => decide (0 < conv.toInt q)) armed then
        some (conv.toInt interval).toNat
      else none := by
  induction calls generalizing armed with
  | nil => rfl
  | cons c calls ih =>
    obtain ⟨hc, hrest⟩ := List.forall_mem_cons.mp h
    rw [List.foldl_cons, ← ih hrest]
    rcases htime : time c with _ | q
    · have hcons : times conv time (c :: calls) = times conv time calls := by simp [times, htime]
      rw [hcons]
      rfl
    · have hcons : times conv time (c :: calls) = conv.toInt q :: times conv time calls := by
        simp [times, htime]
      rw [hcons]
      rcases hc q htime with rfl | rfl
      · simp [ticksTimer, tickTimer]
      · simp [ticksTimer, tickTimer, hpos]

/-! ## The module and the loop -/

/-- A module with a heartbeat: what an operation does and which times it passes to `aelkey.tick`
with the handler, the operation that is the handler, and the interval of the heartbeat while it is
armed. -/
structure Client (μ ο : Type*) where
  step : μ → ο → μ
  ticks : μ → ο → List ℤ
  beat : ο
  interval : μ → Option ℕ

/-- The module and the loop. -/
structure Hosted (μ : Type*) where
  own : μ
  loop : TimerLoop := {}

/-- An operation of the module, a call of `aelkey.tick` by other code, or what the loop does. -/
inductive HostAction (ο : Type*)
  | op (o : ο) (a : Alloc)
  | tick (ms : ℤ) (key : Option TickKey) (a : Alloc)
  | wait (ready : List ℤ)
  | deliver (readOk callable : Bool) (a : Alloc)
  | finish

namespace Client

variable (C : Client μ ο) (key : TickKey)

/-- An operation, with its calls of `aelkey.tick`. -/
def act (a : Alloc) (w : Hosted μ) (o : ο) : Hosted μ where
  own := C.step w.own o
  loop := callTicks a key w.loop (C.ticks w.own o)

/-- One step. The handling of an event whose callback is the handler calls it. -/
def hostStep (w : Hosted μ) : HostAction ο → Hosted μ
  | .op o a => C.act key a w o
  | .tick ms other a => { w with loop := callTick w.loop ms other (a.pick w.loop.kernel) }
  | .wait ready => { w with loop := timerStep w.loop (.wait ready) }
  | .deliver readOk callable a =>
    if w.loop.running = none then
      let w := { w with loop := timerStep w.loop (.deliver readOk callable) }
      match w.loop.running with
      | some d => if d.called ∧ d.cb = key.cb then C.act key a w C.beat else w
      | none => w
    else w
  | .finish => { w with loop := timerStep w.loop .finish }

/-- **The heartbeat that the module sees is a timer of the scheduler**: one that is set to the
interval if it is armed, and none otherwise. -/
def Beats (w : Hosted μ) : Prop :=
  (timersOf w.loop key).map w.loop.armed.lookup =
    ((C.interval w.own).map fun ms : ℕ => some (timerSpec ms false)).toList

/-- The operations of the module are called as `G` says, and other code does not have the
handler. -/
def Legal (G : μ → ο → Prop) (w : Hosted μ) : HostAction ο → Prop
  | .op o _ => G w.own o
  | .tick _ other _ => other ≠ some key
  | .wait _ | .deliver _ _ _ | .finish => True

/-- No other code calls `tick(0)` while the heartbeat is armed. -/
def Undisturbed (w : Hosted μ) : HostAction ο → Prop
  | .tick ms none _ => ms = 0 → C.interval w.own = none
  | _ => True

instance decidableLegal {G : μ → ο → Prop} [∀ m o, Decidable (G m o)] (w : Hosted μ) :
    ∀ x : HostAction ο, Decidable (Legal key G w x)
  | .op o _ => inferInstanceAs (Decidable (G w.own o))
  | .tick _ other _ => inferInstanceAs (Decidable (other ≠ some key))
  | .wait _ | .deliver _ _ _ | .finish => .isTrue trivial

instance decidableUndisturbed (w : Hosted μ) : ∀ x : HostAction ο, Decidable (Undisturbed C w x)
  | .tick ms none _ => inferInstanceAs (Decidable (ms = 0 → C.interval w.own = none))
  | .tick _ (some _) _ | .op _ _ | .wait _ | .deliver _ _ _ | .finish => .isTrue trivial

/-! ## The laws of a module -/

/-- What a module keeps: an operation that is called as `G` says keeps `I`, and it arms the
heartbeat by its calls of `aelkey.tick`; so does the handler, while the heartbeat is armed. -/
structure Lawful (I : μ → Prop) (G : μ → ο → Prop) : Prop where
  op : ∀ m o, I m → G m o → I (C.step m o)
  interval_op : ∀ m o, I m → G m o →
    C.interval (C.step m o) = ticksTimer (C.interval m) (C.ticks m o)
  beat : ∀ m, I m → (C.interval m).isSome → I (C.step m C.beat)
  interval_beat : ∀ m, I m → (C.interval m).isSome →
    C.interval (C.step m C.beat) = ticksTimer (C.interval m) (C.ticks m C.beat)

variable {C key} {I : μ → Prop} {G : μ → ο → Prop}

/-- The scheduler has the timer that the module sees iff the table of intervals has it. -/
lemma beats_iff {w : Hosted μ} (hl : TableInv w.loop) :
    C.Beats key w ↔ w.loop.table.lookup key = C.interval w.own := by
  rw [Beats, map_timersOf hl]
  rcases w.loop.table.lookup key with _ | ms <;> rcases C.interval w.own with _ | ms'
  · simp
  · simp
  · simp
  · simp only [Option.map_some, Option.toList_some, List.cons.injEq, Option.some.injEq, and_true]
    exact ⟨timerSpec_injective, fun h => h ▸ rfl⟩

/-- **The invariant.** The timer table is a map, and the module keeps `I`. -/
structure HostInv (I : μ → Prop) (w : Hosted μ) : Prop where
  table : TableInv w.loop
  own : I w.own

/-- An operation that follows the laws keeps the invariant and the timer. -/
lemma act_spec {w : Hosted μ} (hw : HostInv I w) (hb : C.Beats key w) (a : Alloc) {o : ο}
    (hI : I (C.step w.own o))
    (hinterval : C.interval (C.step w.own o) = ticksTimer (C.interval w.own) (C.ticks w.own o)) :
    HostInv I (C.act key a w o) ∧ C.Beats key (C.act key a w o) := by
  have htable := tableInv_callTicks a key hw.table (C.ticks w.own o)
  refine ⟨⟨htable, hI⟩, (beats_iff htable).mpr ?_⟩
  show (callTicks a key w.loop (C.ticks w.own o)).table.lookup key = C.interval (C.step w.own o)
  rw [lookup_callTicks, (beats_iff hw.table).mp hb, hinterval]

/-- A step of the loop that calls no `tick` keeps the invariant and the timer. -/
lemma loop_spec {w : Hosted μ} (hw : HostInv I w) (hb : C.Beats key w) {x : TimerAction}
    (hx : Ticks.Legal w.loop x) (htable : (timerStep w.loop x).table = w.loop.table) :
    HostInv I { w with loop := timerStep w.loop x } ∧
      C.Beats key { w with loop := timerStep w.loop x } := by
  have hl := tableInv_step hw.table hx
  refine ⟨⟨hl, hw.own⟩, (beats_iff hl).mpr ?_⟩
  rw [htable]
  exact (beats_iff hw.table).mp hb

/-- A callback that is delivered is that of a key in the table. -/
lemma lookup_of_deliver {l : TimerLoop} (hl : TableInv l) (hr : l.running = none)
    {readOk callable : Bool} {d : Delivery}
    (hd : (timerStep l (.deliver readOk callable)).running = some d) (hkey : d.cb = key.cb) :
    (l.table.lookup key).isSome := by
  simp only [timerStep, hr] at hd
  split at hd
  · obtain ⟨key', ms, hcb, hms, -⟩ := hl.entry d.fd d.cb (dispatchEvent_some hd)
    rw [TickKey.cb_injective (hkey.symm.trans hcb), hms]
    rfl
  · rw [hr] at hd
    cases hd

/-- The handling of an event calls the handler only while the heartbeat is armed. -/
lemma deliver_spec (hC : C.Lawful I G) {w : Hosted μ} (hw : HostInv I w) (hb : C.Beats key w)
    (readOk callable : Bool) (a : Alloc) :
    HostInv I (C.hostStep key w (.deliver readOk callable a)) ∧
      C.Beats key (C.hostStep key w (.deliver readOk callable a)) := by
  have htable : (timerStep w.loop (.deliver readOk callable)).table = w.loop.table := by
    simp only [timerStep]
    split <;> rfl
  obtain ⟨hw', hb'⟩ := loop_spec (x := .deliver readOk callable) hw hb trivial htable
  unfold hostStep
  dsimp only
  split_ifs with hr
  · split
    · next d hd =>
      split_ifs with hcall
      · have harmed : (C.interval w.own).isSome := by
          rw [← (beats_iff hw.table).mp hb]
          exact lookup_of_deliver hw.table hr hd hcall.2
        exact act_spec hw' hb' a (hC.beat w.own hw.own harmed)
          (hC.interval_beat w.own hw.own harmed)
      · exact ⟨hw', hb'⟩
    · exact ⟨hw', hb'⟩
  · exact ⟨hw, hb⟩

/-- Other code that calls `aelkey.tick` leaves the heartbeat alone, unless it ends all timers. -/
lemma tick_spec {w : Hosted μ} (hw : HostInv I w) (hb : C.Beats key w) (ms : ℤ)
    {other : Option TickKey} (hother : other ≠ some key) (a : Alloc) :
    HostInv I (C.hostStep key w (.tick ms other a)) ∧
      (C.Beats key (C.hostStep key w (.tick ms other a)) ↔
        C.Undisturbed w (.tick ms other a)) := by
  have htable := tableInv_callTick hw.table ms other (a.nonneg w.loop.kernel)
    (a.unused w.loop.kernel)
  have hold := (beats_iff hw.table).mp hb
  refine ⟨⟨htable, hw.own⟩, (beats_iff htable).trans ?_⟩
  show (callTick w.loop ms other (a.pick w.loop.kernel)).table.lookup key = C.interval w.own ↔ _
  rcases other with _ | other
  · by_cases hms : ms = 0
    · simp [callTick, setKey, hms, Undisturbed, eq_comm]
    · simp [callTick, hms, Undisturbed, hold]
  · have hne : key ≠ other := fun he => hother (he ▸ rfl)
    rw [lookup_callTick, if_neg hne]
    exact iff_of_true hold trivial

/-- **The step lemma.** A step keeps the invariant, and it keeps the timer iff it does not disturb
the module. -/
lemma hostStep_spec (hC : C.Lawful I G) {w : Hosted μ} {x : HostAction ο} (hw : HostInv I w)
    (hb : C.Beats key w) (hx : Legal key G w x) :
    HostInv I (C.hostStep key w x) ∧
      (C.Beats key (C.hostStep key w x) ↔ C.Undisturbed w x) := by
  cases x with
  | op o a =>
    obtain ⟨hw', hb'⟩ := act_spec hw hb a (hC.op w.own o hw.own hx)
      (hC.interval_op w.own o hw.own hx)
    exact ⟨hw', iff_of_true hb' trivial⟩
  | tick ms other a => exact tick_spec hw hb ms hx a
  | wait ready =>
    have htable : (timerStep w.loop (.wait ready)).table = w.loop.table := by
      simp only [timerStep]
      split <;> rfl
    obtain ⟨hw', hb'⟩ := loop_spec (x := .wait ready) hw hb trivial htable
    exact ⟨hw', iff_of_true hb' trivial⟩
  | deliver readOk callable a =>
    obtain ⟨hw', hb'⟩ := deliver_spec hC hw hb readOk callable a
    exact ⟨hw', iff_of_true hb' trivial⟩
  | finish =>
    have htable : (timerStep w.loop .finish).table = w.loop.table := by
      simp only [timerStep]
      split <;> rfl
    obtain ⟨hw', hb'⟩ := loop_spec (x := .finish) hw hb trivial htable
    exact ⟨hw', iff_of_true hb' trivial⟩

/-- **When a module has its heartbeat.** Along every legal run of a module that follows its laws,
with any other code that calls `aelkey.tick`: in all states the scheduler has exactly the timer that
the module sees, and what follows from the invariant of the module holds, iff no other code ends all
timers while the heartbeat is armed.

**Proof sketch.** A delivery calls the handler only for a timer of the table, stale events in the
batch included, and thus only while the heartbeat is armed; so the laws apply. -/
lemma always_beats_iff (hC : C.Lawful I G) {J : μ → Prop} (hJ : ∀ m, I m → J m) {m : μ}
    (hm : I m) (hstart : C.interval m = none) {xs : List (HostAction ο)}
    (h : Run.EachStep (C.hostStep key) (Legal key G) ⟨m, {}⟩ xs) :
    Run.Always (C.hostStep key) (fun w => J w.own ∧ C.Beats key w) ⟨m, {}⟩ xs ↔
      Run.EachStep (C.hostStep key) C.Undisturbed ⟨m, {}⟩ xs := by
  have hinv : HostInv I ⟨m, {}⟩ := ⟨tableInv_empty, hm⟩
  have hbeats : C.Beats key ⟨m, {}⟩ := by
    rw [beats_iff hinv.table]
    exact hstart.symm
  refine Run.always_iff_eachStep_of (I := HostInv I) (fun w x hw hp hx _ => ?_)
    (fun w x hw hp hx => ?_) hinv ⟨hJ m hm, hbeats⟩ h
  · exact (hostStep_spec hC hw hp.2 hx).1
  · obtain ⟨hw', hb'⟩ := hostStep_spec hC hw hp.2 hx
    exact (and_iff_right (hJ _ hw'.own)).trans hb'

end Client

end Aelkey.Ticks
