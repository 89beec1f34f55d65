import Aelkey.Loop.Ticks
import Mathlib.Algebra.Ring.Int.Defs

set_option relaxedAutoImplicit false
set_option autoImplicit false

/-!
# The timer table is a map in which the last call wins

`core_tick` (`source/aelkey_core.cc`) may be called by any script, also by the callback of a timer
that is being delivered, while events that `epoll_wait` has already returned wait in the batch of
`loop_start`. This file has the scheduler together with the batch and the running callback, and
compares `callbacks_` with the map that the calls of `tick` ask for.

## Main definitions

* `Aelkey.Ticks.TickKey` — a key of a timer: a function or a name that is not empty.
* `Aelkey.Ticks.setKey` — what a call of `tick` does to the map from keys to intervals.
* `Aelkey.Ticks.TimerLoop`, `Aelkey.Ticks.timerStep` — the scheduler under calls and deliveries.
* `Aelkey.Ticks.TimerLoop.Registered` — the kernel has the event of a timer, with a live payload.
* `Aelkey.Ticks.TimerMap` — the entries of `callbacks_` are those of the map, and are registered.
* `Aelkey.Ticks.Serves` — other keys are left alone, and a callback runs for a key of the map.

## Main results

* `Aelkey.Ticks.lastCallWins` — both hold along every run in which `timerfd_create` returns
  descriptors that are not in use and the timers can be set.

## Design

The map that the calls ask for, and the descriptors that `EPOLL_CTL_ADD` was refused for, are
carried next to the state of the program, which never reads them. An unregistered timer stays open,
so its number is not given to another timer. The payload of a cancelled timer is marked dead and
stays allocated, so that the pointers in the batch can be followed. Whether `EPOLL_CTL_ADD` succeeds
is left open; a timer that it is refused for keeps its entry, and never expires.
-/

namespace Aelkey.Ticks

/-! ## Keys and intervals -/

/-- A key of a timer: the name of a global that is not empty, or a function. -/
inductive TickKey
  | name (s : String) (nonempty : s ≠ "")
  | function (fn : ℕ)
deriving DecidableEq

/-- The argument of `tick` for a key. -/
def TickKey.arg : TickKey → TickArg
  | .name s _ => .name s
  | .function fn => .function fn

/-- The callback that `core_tick` makes of a key. -/
def TickKey.cb (key : TickKey) : TickCb := key.arg.key

/-- The second argument of `tick` for a key or for nothing. -/
def tickArg : Option TickKey → TickArg
  | some key => key.arg
  | none => .nil

/-- `struct timespec`. -/
structure Timespec where
  sec : ℤ
  nsec : ℤ
deriving DecidableEq

/-- `struct itimerspec`. -/
structure Itimerspec where
  interval : Timespec
  value : Timespec
deriving DecidableEq

/-- The setting that `schedule` computes: the timer expires after `ms` milliseconds, and then after
each further `ms` unless it is for a single expiry. -/
def timerSpec (ms : ℤ) (oneshot : Bool) : Itimerspec :=
  let value : Timespec := { sec := ms / 1000, nsec := (ms % 1000) * 1000000 }
  { interval := if oneshot then { sec := 0, nsec := 0 } else value, value := value }

/-- **The abstract timer table.** The map from keys to intervals after a call of `tick`: `tick(0)`
clears it, `tick(0, key)` removes the key, and `tick(ms, key)` sets it. -/
def setKey (table : Table TickKey ℕ) (ms : ℕ) : Option TickKey → Table TickKey ℕ
  | none => if ms = 0 then ∅ else table
  | some key => if ms = 0 then table.erase key else table.insert key ms

/-! ## The scheduler under calls and deliveries -/

/-- A call of `handle_event` that has found a callback: the descriptor, its copy of the callback,
and whether the callback is called. -/
structure Delivery where
  fd : ℤ
  cb : TickCb
  called : Bool
deriving DecidableEq

/-- The kernel with the settings of the timers, the scheduler, what is left of the batch of
`epoll_wait`, and the delivery that is under way. `table` is the map that the calls so far ask
for, and `refused` has the timers that could not be added to the interest set. -/
structure TimerLoop where
  kernel : Kernel := Epoll.Kernel.empty
  armed : Table ℤ Itimerspec := ∅
  tick : TickScheduler := {}
  batch : List PayloadPtr := []
  running : Option Delivery := none
  table : Table TickKey ℕ := ∅
  refused : List ℤ := []

/-- A call of `tick`, a return of `epoll_wait` with descriptors that are ready, the handling of the
next event of the batch up to the call of its callback, and the return of the callback. -/
inductive TimerAction
  | tick (ms : ℕ) (key : Option TickKey) (a : TimerAnswer)
  | wait (ready : List ℤ)
  | deliver (readOk callable : Bool)
  | finish

/-- `MAX_EVENTS`. -/
def maxEvents : ℕ := 64

/-- The call of `timerfd_settime` by `core_tick` that succeeds: the descriptor and its setting. -/
def tickArms (k : Kernel) (t : TickScheduler) (ms : ℤ) (cb : TickArg) (a : TimerAnswer) :
    Option (ℤ × Itimerspec) :=
  match cb with
  | .nil => none
  | cb =>
    let (k, t) := t.cancelMatching k cb.key
    if ms = 0 then none
    else
      let (_, _, fd) := t.schedule k cb.key a
      if fd < 0 then none else some (fd, timerSpec ms cb.key.oneshot)

/-- The settings of the timers after a call of `timerfd_settime`. -/
def arm (armed : Table ℤ Itimerspec) : Option (ℤ × Itimerspec) → Table ℤ Itimerspec
  | some (fd, spec) => armed.insert fd spec
  | none => armed

/-- The timers that `EPOLL_CTL_ADD` has been refused for, after a call of `timerfd_settime`. -/
def refuse (refused : List ℤ) (epollRefused : Bool) : Option (ℤ × Itimerspec) → List ℤ
  | some (fd, _) => if epollRefused then fd :: refused else refused
  | none => refused

/-- `handle_event` up to the call of the callback. A function is called; a name is looked up, and is
called if the global of that name is a function. -/
def handleEvent (t : TickScheduler) (payload : EpollPayload) (readOk callable : Bool) :
    Option Delivery :=
  if !readOk then none
  else
    match t.callbacks.lookup payload.fd with
    | some cb => some ⟨payload.fd, cb, cb.isFunction || (cb.name ≠ "" && callable)⟩
    | none => none

/-- What `loop_start` does with an event of the batch: a payload that is marked dead is skipped. -/
def dispatchEvent (t : TickScheduler) (p : PayloadPtr) (readOk callable : Bool) : Option Delivery :=
  match t.base.deref p with
  | some payload => if payload.dead then none else handleEvent t payload readOk callable
  | none => none

/-- `handle_event` after the callback. -/
def finishEvent (k : Kernel) (t : TickScheduler) (d : Delivery) : Kernel × TickScheduler :=
  if d.cb.oneshot then
    let (k, base) := unregisterFd k t.base d.fd
    (k, { t with base := base })
  else (k, t)

/-- One step of the program. The next event of the batch is handled when no callback is running, and
`epoll_wait` is called when the batch is empty. -/
def timerStep (l : TimerLoop) : TimerAction → TimerLoop
  | .tick ms key a =>
    let (kernel, tick) := coreTick l.kernel l.tick ms (tickArg key) a
    { l with
      kernel := kernel
      armed := arm l.armed (tickArms l.kernel l.tick ms (tickArg key) a)
      tick := tick
      table := setKey l.table ms key
      refused :=
        refuse l.refused a.epollRefused (tickArms l.kernel l.tick ms (tickArg key) a) }
  | .wait ready =>
    match l.running, l.batch with
    | none, [] =>
      { l with
        batch := (ready.take maxEvents).filterMap fun fd =>
          (l.kernel.interest.lookup fd).map (·.data) }
    | _, _ => l
  | .deliver readOk callable =>
    match l.running, l.batch with
    | none, p :: batch =>
      { l with batch := batch, running := dispatchEvent l.tick p readOk callable }
    | _, _ => l
  | .finish =>
    match l.running with
    | some d =>
      let (kernel, tick) := finishEvent l.kernel l.tick d
      { l with kernel := kernel, tick := tick, running := none }
    | none => l

/-- `timerfd_create` returns a descriptor that is not in use, and the timer can be set. -/
def Legal (l : TimerLoop) : TimerAction → Prop
  | .tick ms (some _) a => ms ≠ 0 → 0 ≤ a.fd ∧ a.fd ∉ l.kernel.files ∧ a.setOk = true
  | _ => True

instance decidableLegal : ∀ (l : TimerLoop) (a : TimerAction), Decidable (Legal l a)
  | l, .tick ms (some _) a =>
    inferInstanceAs (Decidable (ms ≠ 0 → 0 ≤ a.fd ∧ a.fd ∉ l.kernel.files ∧ a.setOk = true))
  | _, .tick _ none _ => .isTrue trivial
  | _, .wait _ => .isTrue trivial
  | _, .deliver _ _ => .isTrue trivial
  | _, .finish => .isTrue trivial

/-- The interest set has an event for the timer, with a pointer to its payload, which is alive. -/
def TimerLoop.Registered (l : TimerLoop) (fd : ℤ) : Prop :=
  ∃ n, l.tick.base.pollfds.lookup fd = some n ∧ n.payload.fd = fd ∧ n.payload.dead = false ∧
    l.kernel.interest.lookup fd = some ⟨1, ⟨fd, n.addr⟩⟩

/-- **The refinement.** Every entry of `callbacks_` is for a key, a key is in the map with an
interval iff it has an entry whose timer is set to that interval, no key has two entries, an entry
is registered unless `EPOLL_CTL_ADD` was refused for it, and a payload is alive iff it is that of an
entry. -/
structure TimerMap (l : TimerLoop) : Prop where
  entry : ∀ fd cb, l.tick.callbacks.lookup fd = some cb → ∃ key, cb = TickKey.cb key
  timer : ∀ key ms, l.table.lookup key = some ms ↔ ∃ fd,
    l.tick.callbacks.lookup fd = some key.cb ∧ l.armed.lookup fd = some (timerSpec ms false)
  single : ∀ fd fd' cb, l.tick.callbacks.lookup fd = some cb →
    l.tick.callbacks.lookup fd' = some cb → fd = fd'
  registered : ∀ fd ∈ l.tick.callbacks, fd ∉ l.refused → l.Registered fd
  alive : ∀ fd n, l.tick.base.pollfds.lookup fd = some n →
    (n.payload.dead = false ↔ fd ∈ l.tick.callbacks)

/-- All there is about a descriptor: its callback, its setting, its payload, and its event in the
interest set. -/
def TimerLoop.timerAt (l : TimerLoop) (fd : ℤ) :
    Option TickCb × Option Itimerspec × Option PollNode × Option EpollEvent :=
  (l.tick.callbacks.lookup fd, l.armed.lookup fd, l.tick.base.pollfds.lookup fd,
    l.kernel.interest.lookup fd)

/-- **What a step does to keys.** A call of `tick` for a key leaves the timers of all other keys as
they are. The payload of the next event of the batch is allocated, and a callback that is called is
that of a key of the map. -/
def Serves (l : TimerLoop) (a : TimerAction) : Prop :=
  match a with
  | .tick _ (some key) _ => ∀ other, other ≠ key → ∀ fd,
      (l.tick.callbacks.lookup fd = some other.cb ∨
        (timerStep l a).tick.callbacks.lookup fd = some other.cb) →
      (timerStep l a).timerAt fd = l.timerAt fd
  | .deliver _ _ => l.running = none →
      (∀ p, l.batch.head? = some p → (l.tick.base.deref p).isSome) ∧
      ∀ d, (timerStep l a).running = some d → d.called = true →
        ∃ key ms, d.cb = key.cb ∧ l.table.lookup key = some ms
  | _ => True

/-! ## Keys -/

/-- Keys with one callback are the same. -/
lemma TickKey.cb_injective {key key' : TickKey} (h : key.cb = key'.cb) : key = key' := by
  cases key <;> cases key' <;> simp_all [TickKey.cb, TickKey.arg, TickArg.key]

/-- The loop of `cancel_matching` finds the timers of the key and no others. -/
lemma TickKey.isKeyOf_cb (key key' : TickKey) : key.cb.isKeyOf key'.cb = true ↔ key' = key := by
  cases key with
  | name s hs =>
    cases key' with
    | name s' hs' =>
      rw [TickKey.name.injEq]
      exact decide_eq_true_iff
    | function fn' => simp [TickKey.cb, TickKey.arg, TickArg.key, TickCb.isKeyOf]
  | function fn =>
    cases key' with
    | name s' hs' => simp [TickKey.cb, TickKey.arg, TickArg.key, TickCb.isKeyOf]
    | function fn' =>
      rw [TickKey.function.injEq]
      exact decide_eq_true_iff

/-- A timer that a key asks for is periodic. -/
lemma TickKey.cb_oneshot (key : TickKey) : key.cb.oneshot = false := key_oneshot key.arg

/-- `core_tick` for a key cancels the timers of the key, and schedules one unless the interval
is 0. -/
lemma coreTick_key (k : Kernel) (t : TickScheduler) (ms : ℤ) (key : TickKey) (a : TimerAnswer) :
    coreTick k t ms key.arg a =
      if ms = 0 then t.cancelMatching k key.cb
      else
        let r := t.cancelMatching k key.cb
        ((r.2.schedule r.1 key.cb a).1, (r.2.schedule r.1 key.cb a).2.1) := by
  cases key <;> rfl

/-- The timer that `core_tick` sets for a key. -/
lemma tickArms_key (k : Kernel) (t : TickScheduler) (ms : ℤ) (key : TickKey) (a : TimerAnswer) :
    tickArms k t ms key.arg a =
      if ms = 0 then none
      else
        let r := t.cancelMatching k key.cb
        let fd := (r.2.schedule r.1 key.cb a).2.2
        if fd < 0 then none else some (fd, timerSpec ms false) := by
  cases key <;> rfl

/-- The setting of a timer tells its interval. -/
lemma timerSpec_injective {ms ms' : ℕ} (h : timerSpec ms false = timerSpec ms' false) :
    ms = ms' := by
  simp only [timerSpec, Itimerspec.mk.injEq, Timespec.mk.injEq] at h
  omega

/-! ## Cancelling -/

/-- What a loop that cancels the timers with the property `p` does: it closes nothing, and for the
timers it picks it clears the interest set and `callbacks_` and marks the payloads dead. -/
structure Cancelled (p : TickCb → Bool) (k : Kernel) (t : TickScheduler) (k' : Kernel)
    (t' : TickScheduler) : Prop where
  files : k'.files = k.files
  callbacks : ∀ fd, t'.callbacks.lookup fd = (t.callbacks.lookup fd).filter fun cb => !p cb
  pollfds : ∀ fd, t'.base.pollfds.lookup fd =
    if fd ∈ t.timersWhere p then
      (t.base.pollfds.lookup fd).map fun n => { n with payload := { n.payload with dead := true } }
    else t.base.pollfds.lookup fd
  interest : ∀ fd, k'.interest.lookup fd =
    if fd ∈ t.timersWhere p then none else k.interest.lookup fd

/-- Retiring a descriptor twice changes nothing more. -/
lemma unregisterAll_lookup (k : Kernel) (d : DispatcherBase) (fds : List ℤ) (fd : ℤ) :
    (TickScheduler.unregisterAll k d fds).2.pollfds.lookup fd =
        (if fd ∈ fds then
          (d.pollfds.lookup fd).map fun n => { n with payload := { n.payload with dead := true } }
        else d.pollfds.lookup fd) ∧
      (TickScheduler.unregisterAll k d fds).1.interest.lookup fd =
        if fd ∈ fds then none else k.interest.lookup fd := by
  induction fds generalizing k d with
  | nil => simp [TickScheduler.unregisterAll]
  | cons x fds ih =>
    obtain ⟨hp, hi⟩ := ih (unregisterFd k d x).1 (unregisterFd k d x).2
    have hcons : TickScheduler.unregisterAll k d (x :: fds) =
        TickScheduler.unregisterAll (unregisterFd k d x).1 (unregisterFd k d x).2 fds := rfl
    rw [hcons, hp, hi]
    simp only [unregisterFd, DispatcherBase.lookup_retire, Epoll.Kernel.ctlDel_interest,
      Table.lookup_erase, List.mem_cons]
    by_cases hx : fd = x
    · subst hx
      by_cases hm : fd ∈ fds
      · simp [hm, Function.comp_def]
      · simp [hm]
    · simp [hx]

/-- A loop picks a timer by its callback. -/
lemma mem_timersWhere_iff {t : TickScheduler} {p : TickCb → Bool} {fd : ℤ} {cb : TickCb}
    (h : t.callbacks.lookup fd = some cb) : fd ∈ t.timersWhere p ↔ p cb = true := by
  rw [TickScheduler.mem_timersWhere]
  constructor
  · intro ⟨cb', hcb', hp⟩
    rw [h] at hcb'
    exact Option.some.inj hcb' ▸ hp
  · intro hp
    exact ⟨cb, h, hp⟩

/-- The callbacks that are left after the timers with the property `p` are taken out. -/
lemma lookup_callbacks_cancelled (t : TickScheduler) (p : TickCb → Bool) (fd : ℤ) :
    ((t.timersWhere p).foldl (fun c fd => c.erase fd) t.callbacks).lookup fd =
      (t.callbacks.lookup fd).filter fun cb => !p cb := by
  rw [Table.lookup_foldl_erase_keys]
  rcases hcb : t.callbacks.lookup fd with _ | cb
  · simp
  · by_cases hp : p cb = true
    · simp [mem_timersWhere_iff hcb, hp, Option.filter]
    · simp [mem_timersWhere_iff hcb, hp, Option.filter]

/-- `cancel_matching` cancels the timers that match. -/
lemma cancelMatching_cancelled (k : Kernel) (t : TickScheduler) (key : TickCb) :
    Cancelled key.isKeyOf k t (t.cancelMatching k key).1 (t.cancelMatching k key).2 where
  files := TickScheduler.unregisterAll_files k t.base _
  callbacks fd := lookup_callbacks_cancelled t key.isKeyOf fd
  pollfds fd := (unregisterAll_lookup k t.base _ fd).1
  interest fd := (unregisterAll_lookup k t.base _ fd).2

/-- `cancel_all` cancels all timers. -/
lemma cancelAll_cancelled (k : Kernel) (t : TickScheduler) :
    Cancelled (fun _ => true) k t (t.cancelAll k).1 (t.cancelAll k).2 where
  files := TickScheduler.unregisterAll_files k t.base _
  callbacks fd := by
    rcases h : t.callbacks.lookup fd with _ | cb <;> simp [TickScheduler.cancelAll]
  pollfds fd := (unregisterAll_lookup k t.base _ fd).1
  interest fd := (unregisterAll_lookup k t.base _ fd).2

/-! ## Scheduling -/

/-- What `schedule` does when the kernel grants what it asks for: the new timer is open and has a
callback. It is in the interest set with an allocated payload that is alive, unless that is
`refused`, and then it has neither event nor payload. Other descriptors are left as they are. -/
structure Scheduled (fd : ℤ) (cb : TickCb) (refused : Bool) (k : Kernel) (t : TickScheduler)
    (k' : Kernel) (t' : TickScheduler) : Prop where
  files : k'.files = k.files.insert fd timerName
  callbacks : t'.callbacks = t.callbacks.insert fd cb
  pollfds : ∀ x, x ≠ fd → t'.base.pollfds.lookup x = t.base.pollfds.lookup x
  interest : ∀ x, x ≠ fd → k'.interest.lookup x = k.interest.lookup x
  alive : ∀ n, t'.base.pollfds.lookup fd = some n → n.payload.dead = false
  valid : ∀ ev, k'.interest.lookup fd = some ev → (t'.base.deref ev.data).isSome
  registered : refused = false → ∃ n, t'.base.pollfds.lookup fd = some n ∧ n.payload.fd = fd ∧
    n.payload.dead = false ∧ k'.interest.lookup fd = some ⟨1, ⟨fd, n.addr⟩⟩

/-- `schedule` with a descriptor that is not in use and has no payload. -/
lemma schedule_scheduled {k : Kernel} {t : TickScheduler} {cb : TickCb} {a : TimerAnswer}
    (hfd : 0 ≤ a.fd) (hnew : a.fd ∉ k.files) (hset : a.setOk = true)
    (hpoll : t.base.pollfds.lookup a.fd = none) :
    Scheduled a.fd cb a.epollRefused k t (t.schedule k cb a).1 (t.schedule k cb a).2.1 ∧
      (t.schedule k cb a).2.2 = a.fd := by
  have hnot : ¬ (a.fd < 0 ∨ a.fd ∈ k.files) := not_or.mpr ⟨by omega, hnew⟩
  have hopen : (k.openFile timerName a.fd).2 = a.fd := by
    simp only [Epoll.Kernel.openFile, if_neg hnot]
  have hneg : ¬ (k.openFile timerName a.fd).2 < 0 := by omega
  obtain ⟨-, -, -, hfiles⟩ := Epoll.Kernel.openFile_of_nonneg hneg
  have hclosed : k.interest.lookup a.fd = none := AList.lookup_eq_none.mpr fun h =>
    hnew (k.interest_open a.fd h)
  have hem := DispatcherBase.emplaced_of_none hpoll
  have hsched : t.schedule k cb a =
      ((registerFd (k.openFile timerName a.fd).1 t.base a.fd 1 a.epollRefused).1,
        { base := (registerFd (k.openFile timerName a.fd).1 t.base a.fd 1 a.epollRefused).2
          callbacks := t.callbacks.insert a.fd cb }, a.fd) := by
    simp only [TickScheduler.schedule, hopen, hset, Bool.not_true, Bool.false_eq_true, ↓reduceIte,
      if_neg (not_lt.mpr hfd)]
  rw [hsched]
  refine ⟨?_, rfl⟩
  obtain ⟨-, hf, hi, hd⟩ | ⟨hrefused, hk, hd⟩ :=
    registerFd_cases (k.openFile timerName a.fd).1 t.base a.fd 1 a.epollRefused
  · -- the descriptor is in the interest set
    refine
      { files := hf.trans hfiles
        callbacks := rfl
        pollfds := fun x hx => ?_
        interest := fun x hx => ?_
        alive := fun n hn => ?_
        valid := fun ev hev => ?_
        registered := fun hr => ?_ }
    · rw [hd, DispatcherBase.emplace, Table.lookup_insert, if_neg hx]
    · rw [hi, Table.lookup_insert, if_neg hx, Epoll.Kernel.openFile_interest]
    · rw [hd, DispatcherBase.emplace, Table.lookup_insert, if_pos rfl, hem] at hn
      rw [← Option.some.inj hn]
    · rw [hi, Table.lookup_insert, if_pos rfl] at hev
      rw [← Option.some.inj hev, hd]
      simp [DispatcherBase.deref, DispatcherBase.emplace]
    · refine ⟨t.base.emplaced a.fd, ?_, ?_, ?_, ?_⟩
      · rw [hd, DispatcherBase.emplace, Table.lookup_insert, if_pos rfl]
      · rw [hem]
      · rw [hem]
      · rw [hi, Table.lookup_insert, if_pos rfl]
  · -- it was refused, and its payload is erased
    refine
      { files := (congrArg Epoll.Kernel.files hk).trans hfiles
        callbacks := rfl
        pollfds := fun x hx => ?_
        interest := fun x hx => ?_
        alive := fun n hn => ?_
        valid := fun ev hev => ?_
        registered := fun hr => ?_ }
    · rw [hd]
      dsimp only
      rw [Table.lookup_erase, if_neg hx, DispatcherBase.emplace, Table.lookup_insert, if_neg hx]
    · rw [hk, Epoll.Kernel.openFile_interest]
    · rw [hd] at hn
      simp at hn
    · rw [hk, Epoll.Kernel.openFile_interest, hclosed] at hev
      exact absurd hev (by simp)
    · have hopened : a.fd ∈ (k.openFile timerName a.fd).1.files := by
        rw [hfiles, AList.mem_insert]
        exact .inl rfl
      have hunwatched : a.fd ∉ (k.openFile timerName a.fd).1.interest := by
        rw [Epoll.Kernel.openFile_interest]
        exact AList.lookup_eq_none.mp hclosed
      rcases hrefused with h | h | h
      · exact absurd hopened h
      · exact absurd h hunwatched
      · exact absurd (hr.symm.trans h) Bool.false_ne_true

/-! ## The refinement along runs -/

/-- **The invariant.** The entries of `callbacks_` are those of the map and are registered, unless
that was refused; what has an entry or a payload is open, every pointer in the interest set and in
the batch is to an allocated payload, and no timer is for a single expiry. -/
structure TableInv (l : TimerLoop) : Prop where
  entry : ∀ fd cb, l.tick.callbacks.lookup fd = some cb → ∃ key ms, cb = key.cb ∧
    l.table.lookup key = some ms ∧ l.armed.lookup fd = some (timerSpec ms false)
  timer : ∀ key ms, l.table.lookup key = some ms → ∃ fd, l.tick.callbacks.lookup fd = some key.cb
  single : ∀ fd fd' cb, l.tick.callbacks.lookup fd = some cb →
    l.tick.callbacks.lookup fd' = some cb → fd = fd'
  registered : ∀ fd ∈ l.tick.callbacks, fd ∉ l.refused → l.Registered fd
  alive : ∀ fd n, l.tick.base.pollfds.lookup fd = some n →
    (n.payload.dead = false ↔ fd ∈ l.tick.callbacks)
  opened : ∀ fd cb, l.tick.callbacks.lookup fd = some cb → fd ∈ l.kernel.files
  allocated : ∀ fd n, l.tick.base.pollfds.lookup fd = some n → fd ∈ l.kernel.files
  watched : ∀ fd ev, l.kernel.interest.lookup fd = some ev → (l.tick.base.deref ev.data).isSome
  fetched : ∀ p ∈ l.batch, (l.tick.base.deref p).isSome
  periodic : ∀ d, l.running = some d → d.cb.oneshot = false

/-- The invariant has the refinement in it. -/
lemma TableInv.timerMap {l : TimerLoop} (h : TableInv l) : TimerMap l where
  entry fd cb hcb := by
    obtain ⟨key, ms, hkey, -⟩ := h.entry fd cb hcb
    exact ⟨key, hkey⟩
  timer key ms := by
    constructor
    · intro hms
      obtain ⟨fd, hfd⟩ := h.timer key ms hms
      obtain ⟨key', ms', hkey, hms', harmed⟩ := h.entry fd key.cb hfd
      obtain rfl := TickKey.cb_injective hkey
      rw [hms] at hms'
      exact ⟨fd, hfd, Option.some.inj hms' ▸ harmed⟩
    · intro ⟨fd, hfd, harmed⟩
      obtain ⟨key', ms', hkey, hms', harmed'⟩ := h.entry fd key.cb hfd
      obtain rfl := TickKey.cb_injective hkey
      rw [harmed] at harmed'
      rw [hms', timerSpec_injective (Option.some.inj harmed')]
  single := h.single
  registered := h.registered
  alive := h.alive

/-- Cancelling frees no payload. -/
lemma Cancelled.deref_isSome {p : TickCb → Bool} {k k' : Kernel} {t t' : TickScheduler}
    (h : Cancelled p k t k' t') {q : PayloadPtr} (hq : (t.base.deref q).isSome) :
    (t'.base.deref q).isSome := by
  obtain ⟨n, hn, ha⟩ := DispatcherBase.deref_isSome.mp hq
  apply DispatcherBase.deref_isSome.mpr
  rw [h.pollfds]
  split_ifs
  · exact ⟨_, congrArg _ hn, ha⟩
  · exact ⟨n, hn, ha⟩

/-- The callbacks that are left are those without the property. -/
lemma Cancelled.lookup_iff {p : TickCb → Bool} {k k' : Kernel} {t t' : TickScheduler}
    (h : Cancelled p k t k' t') {fd : ℤ} {cb : TickCb} :
    t'.callbacks.lookup fd = some cb ↔ t.callbacks.lookup fd = some cb ∧ p cb = false := by
  rw [h.callbacks, Option.filter_eq_some_iff, Bool.not_eq_true']

/-- A timer that is not picked by a cancelling loop is left as it is. -/
lemma Cancelled.timer_eq {p : TickCb → Bool} {k k' : Kernel} {t t' : TickScheduler}
    (h : Cancelled p k t k' t') {fd : ℤ} {cb : TickCb} (hcb : t.callbacks.lookup fd = some cb)
    (hp : p cb = false) :
    t'.callbacks.lookup fd = t.callbacks.lookup fd ∧
      t'.base.pollfds.lookup fd = t.base.pollfds.lookup fd ∧
      k'.interest.lookup fd = k.interest.lookup fd := by
  have hpick : fd ∉ t.timersWhere p := by
    rw [mem_timersWhere_iff hcb, hp]
    exact Bool.false_ne_true
  refine ⟨(h.lookup_iff.mpr ⟨hcb, hp⟩).trans hcb.symm, ?_, ?_⟩
  · rw [h.pollfds, if_neg hpick]
  · rw [h.interest, if_neg hpick]

/-- Cancelling the timers of the keys that are taken out of the map keeps the invariant. -/
lemma tableInv_cancel {l : TimerLoop} (hl : TableInv l) {p : TickCb → Bool} {k' : Kernel}
    {t' : TickScheduler} (h : Cancelled p l.kernel l.tick k' t') {table' : Table TickKey ℕ}
    (htable : ∀ key ms, table'.lookup key = some ms ↔
      l.table.lookup key = some ms ∧ p key.cb = false) :
    TableInv { l with kernel := k', tick := t', table := table' } where
  entry fd cb hcb := by
    obtain ⟨hold, hp⟩ := h.lookup_iff.mp hcb
    obtain ⟨key, ms, rfl, hms, harmed⟩ := hl.entry fd cb hold
    exact ⟨key, ms, rfl, (htable key ms).mpr ⟨hms, hp⟩, harmed⟩
  timer key ms hms := by
    obtain ⟨hold, hp⟩ := (htable key ms).mp hms
    obtain ⟨fd, hfd⟩ := hl.timer key ms hold
    exact ⟨fd, h.lookup_iff.mpr ⟨hfd, hp⟩⟩
  single fd fd' cb hcb hcb' := hl.single fd fd' cb (h.lookup_iff.mp hcb).1 (h.lookup_iff.mp hcb').1
  registered fd hfd hr := by
    obtain ⟨cb, hcb⟩ := Table.mem_iff_lookup.mp hfd
    obtain ⟨hold, hp⟩ := h.lookup_iff.mp hcb
    obtain ⟨-, hpoll, hint⟩ := h.timer_eq hold hp
    obtain ⟨n, hn, hnfd, hdead, hev⟩ := hl.registered fd (Table.mem_of_lookup hold) hr
    exact ⟨n, hpoll.trans hn, hnfd, hdead, hint.trans hev⟩
  alive fd n hn := by
    rw [Table.mem_iff_lookup]
    simp only [h.lookup_iff]
    rw [h.pollfds] at hn
    split_ifs at hn with hpick
    · obtain ⟨n, -, rfl⟩ := Option.map_eq_some_iff.mp hn
      obtain ⟨cb, hcb, hp⟩ := TickScheduler.mem_timersWhere.mp hpick
      constructor
      · intro hdead
        cases hdead
      · intro ⟨cb', hcb', hp'⟩
        rw [hcb] at hcb'
        rw [← Option.some.inj hcb', hp] at hp'
        cases hp'
    · rw [hl.alive fd n hn, Table.mem_iff_lookup]
      constructor
      · intro ⟨cb, hcb⟩
        exact ⟨cb, hcb, Bool.eq_false_iff.mpr fun hp => hpick ((mem_timersWhere_iff hcb).mpr hp)⟩
      · rintro ⟨cb, hcb, -⟩
        exact ⟨cb, hcb⟩
  opened fd cb hcb := by
    rw [h.files]
    exact hl.opened fd cb (h.lookup_iff.mp hcb).1
  allocated fd n hn := by
    rw [h.files]
    rw [h.pollfds] at hn
    split_ifs at hn
    · obtain ⟨n, hold, -⟩ := Option.map_eq_some_iff.mp hn
      exact hl.allocated fd n hold
    · exact hl.allocated fd n hn
  watched fd ev hev := by
    rw [h.interest] at hev
    split_ifs at hev
    exact h.deref_isSome (hl.watched fd ev hev)
  fetched q hq := h.deref_isSome (hl.fetched q hq)
  periodic := hl.periodic

/-- What is not open has no payload. -/
lemma TableInv.no_payload {l : TimerLoop} (h : TableInv l) {fd : ℤ} (hfd : fd ∉ l.kernel.files) :
    l.tick.base.pollfds.lookup fd = none := by
  by_contra hne
  obtain ⟨n, hn⟩ := Option.ne_none_iff_exists'.mp hne
  exact hfd (h.allocated fd n hn)

/-- Scheduling a timer frees no payload. -/
lemma Scheduled.deref_isSome {fd : ℤ} {cb : TickCb} {refused : Bool} {k k' : Kernel}
    {t t' : TickScheduler} (h : Scheduled fd cb refused k t k' t')
    (hpoll : t.base.pollfds.lookup fd = none) {q : PayloadPtr}
    (hq : (t.base.deref q).isSome) : (t'.base.deref q).isSome := by
  obtain ⟨n, hn, ha⟩ := DispatcherBase.deref_isSome.mp hq
  have hne : q.fd ≠ fd := fun he => by
    rw [he, hpoll] at hn
    cases hn
  exact DispatcherBase.deref_isSome.mpr ⟨n, (h.pollfds q.fd hne).trans hn, ha⟩

/-- The callbacks after a timer has been scheduled are the old ones and that of the timer. -/
lemma Scheduled.lookup_iff {fd : ℤ} {cb : TickCb} {refused : Bool} {k k' : Kernel}
    {t t' : TickScheduler} (h : Scheduled fd cb refused k t k' t') {x : ℤ} {cb' : TickCb} :
    t'.callbacks.lookup x = some cb' ↔
      x = fd ∧ cb = cb' ∨ x ≠ fd ∧ t.callbacks.lookup x = some cb' := by
  rw [h.callbacks, Table.lookup_insert]
  by_cases hx : x = fd <;> simp [hx]

/-- The open files after a timer has been scheduled. -/
lemma Scheduled.mem_files {fd : ℤ} {cb : TickCb} {refused : Bool} {k k' : Kernel}
    {t t' : TickScheduler} (h : Scheduled fd cb refused k t k' t') {x : ℤ} :
    x ∈ k'.files ↔ x = fd ∨ x ∈ k.files := by
  rw [h.files, AList.mem_insert]

/-- A key that is not in the map has no timer. -/
lemma TableInv.no_timer {l : TimerLoop} (hl : TableInv l) {key : TickKey}
    (hkey : l.table.lookup key = none) (x : ℤ) : l.tick.callbacks.lookup x ≠ some key.cb := by
  intro hx
  obtain ⟨key', ms', he, hms', -⟩ := hl.entry x key.cb hx
  rw [← TickKey.cb_injective he, hkey] at hms'
  cases hms'

/-- Scheduling a timer for a key that is not in the map keeps the invariant. -/
lemma tableInv_schedule {l : TimerLoop} (hl : TableInv l) {key : TickKey} {ms : ℕ} {fd : ℤ}
    {refused : Bool} {k' : Kernel} {t' : TickScheduler} (hkey : l.table.lookup key = none)
    (hfd : fd ∉ l.kernel.files) (h : Scheduled fd key.cb refused l.kernel l.tick k' t')
    {table' : Table TickKey ℕ} (htable : ∀ key', table'.lookup key' =
      if key' = key then some ms else l.table.lookup key') :
    TableInv { l with
      kernel := k'
      armed := l.armed.insert fd (timerSpec ms false)
      tick := t'
      table := table'
      refused := if refused then fd :: l.refused else l.refused } where
  entry x cb hx := by
    dsimp only
    obtain ⟨rfl, rfl⟩ | ⟨hne, hx⟩ := h.lookup_iff.mp hx
    · refine ⟨key, ms, rfl, ?_, ?_⟩
      · rw [htable, if_pos rfl]
      · rw [Table.lookup_insert, if_pos rfl]
    · obtain ⟨key', ms', rfl, hms', harmed⟩ := hl.entry x cb hx
      have hkeys : key' ≠ key := fun hk => hl.no_timer hkey x (hk ▸ hx)
      refine ⟨key', ms', rfl, ?_, ?_⟩
      · rw [htable, if_neg hkeys, hms']
      · rw [Table.lookup_insert, if_neg hne, harmed]
  timer key' ms' hms' := by
    dsimp only at hms'
    rw [htable] at hms'
    split_ifs at hms' with he
    · exact ⟨fd, h.lookup_iff.mpr (.inl ⟨rfl, he ▸ rfl⟩)⟩
    · obtain ⟨x, hx⟩ := hl.timer key' ms' hms'
      have hne : x ≠ fd := fun hxf => hfd (hxf ▸ hl.opened x key'.cb hx)
      exact ⟨x, h.lookup_iff.mpr (.inr ⟨hne, hx⟩)⟩
  single x y cb hx hy := by
    obtain ⟨rfl, rfl⟩ | ⟨-, hx⟩ := h.lookup_iff.mp hx
    · obtain ⟨rfl, -⟩ | ⟨-, hy⟩ := h.lookup_iff.mp hy
      · rfl
      · exact absurd hy (hl.no_timer hkey y)
    · obtain ⟨-, rfl⟩ | ⟨-, hy⟩ := h.lookup_iff.mp hy
      · exact absurd hx (hl.no_timer hkey x)
      · exact hl.single x y cb hx hy
  registered x hx hr := by
    have hkept : x ∉ l.refused := fun hmem => hr (by dsimp only; split_ifs <;> simp [hmem])
    obtain ⟨cb, hcb⟩ := Table.mem_iff_lookup.mp hx
    obtain ⟨rfl, -⟩ | ⟨hne, hold⟩ := h.lookup_iff.mp hcb
    · have hgranted : refused = false := by
        by_contra hrefused
        rw [Bool.not_eq_false] at hrefused
        exact hr (by simp [hrefused])
      exact h.registered hgranted
    · obtain ⟨n, hn, hnfd, hdead, hev⟩ := hl.registered x (Table.mem_of_lookup hold) hkept
      exact ⟨n, (h.pollfds x hne).trans hn, hnfd, hdead, (h.interest x hne).trans hev⟩
  alive x n hn := by
    rw [Table.mem_iff_lookup]
    simp only [h.lookup_iff]
    by_cases hx : x = fd
    · subst hx
      exact iff_of_true (h.alive n hn) ⟨key.cb, .inl ⟨rfl, rfl⟩⟩
    · have hold := h.pollfds x hx ▸ hn
      simpa [hx, Table.mem_iff_lookup] using hl.alive x n hold
  opened x cb hx := by
    rw [h.mem_files]
    exact (h.lookup_iff.mp hx).imp And.left fun hold => hl.opened x cb hold.2
  allocated x n hn := by
    rw [h.mem_files]
    by_cases hx : x = fd
    · exact .inl hx
    · exact .inr (hl.allocated x n (h.pollfds x hx ▸ hn))
  watched x ev hev := by
    by_cases hx : x = fd
    · subst hx
      exact h.valid ev hev
    · exact h.deref_isSome (hl.no_payload hfd) (hl.watched x ev (h.interest x hx ▸ hev))
  fetched q hq := h.deref_isSome (hl.no_payload hfd) (hl.fetched q hq)
  periodic := hl.periodic

/-- A call of `tick` for a key cancels the timers of the key, and schedules one unless the interval
is 0. -/
lemma timerStep_tick_key {l : TimerLoop} (hl : TableInv l) {ms : ℕ} {key : TickKey}
    {a : TimerAnswer} (ha : Legal l (.tick ms (some key) a)) :
    ∃ k t, Cancelled key.cb.isKeyOf l.kernel l.tick k t ∧
      TableInv { l with kernel := k, tick := t, table := l.table.erase key } ∧
      (ms = 0 ∧ timerStep l (.tick ms (some key) a) =
          { l with kernel := k, tick := t, table := l.table.erase key } ∨
        a.fd ∉ l.kernel.files ∧ ∃ k' t', Scheduled a.fd key.cb a.epollRefused k t k' t' ∧
          timerStep l (.tick ms (some key) a) =
            { l with
              kernel := k'
              armed := l.armed.insert a.fd (timerSpec ms false)
              tick := t'
              table := l.table.insert key ms
              refused := if a.epollRefused then a.fd :: l.refused else l.refused }) := by
  have hc := cancelMatching_cancelled l.kernel l.tick key.cb
  have hinv : TableInv { l with
      kernel := (l.tick.cancelMatching l.kernel key.cb).1
      tick := (l.tick.cancelMatching l.kernel key.cb).2
      table := l.table.erase key } := by
    refine tableInv_cancel hl hc fun key' ms' => ?_
    rw [Table.lookup_erase, Bool.eq_false_iff, ne_eq, TickKey.isKeyOf_cb]
    split_ifs with he <;> simp [he]
  refine ⟨_, _, hc, hinv, ?_⟩
  by_cases hms : ms = 0
  · refine .inl ⟨hms, ?_⟩
    simp only [timerStep, tickArg, coreTick_key, tickArms_key, hms, Nat.cast_zero, ↓reduceIte, arm,
      setKey, refuse]
  · obtain ⟨hnonneg, hnew, hset⟩ := ha hms
    refine .inr ⟨hnew, ?_⟩
    have hnew' : a.fd ∉ (l.tick.cancelMatching l.kernel key.cb).1.files := hc.files.symm ▸ hnew
    obtain ⟨hs, hfd⟩ := schedule_scheduled hnonneg hnew' hset (hinv.no_payload hnew')
    have hms' : (ms : ℤ) ≠ 0 := Int.natCast_ne_zero.mpr hms
    refine ⟨_, _, hs, ?_⟩
    simp only [timerStep, tickArg, coreTick_key, tickArms_key, if_neg hms', hfd,
      if_neg (not_lt.mpr hnonneg), arm, setKey, if_neg hms, refuse]

/-- A delivery copies the callback of its descriptor. -/
lemma dispatchEvent_some {t : TickScheduler} {p : PayloadPtr} {readOk callable : Bool}
    {d : Delivery} (h : dispatchEvent t p readOk callable = some d) :
    t.callbacks.lookup d.fd = some d.cb := by
  unfold dispatchEvent handleEvent at h
  split at h
  · split_ifs at h
    split at h
    · next payload _ cb hcb =>
      rw [← Option.some.inj h]
      exact hcb
    · cases h
  · cases h

/-- **The step lemma.** Every step keeps the invariant.

**Proof sketch.** A call of `tick` cancels timers, which marks their payloads dead and frees none,
and then may schedule a timer on a number that nothing has used. What `epoll_wait` returns comes
from the interest set. No timer is for a single expiry, so the end of a callback does nothing. -/
lemma tableInv_step {l : TimerLoop} {a : TimerAction} (hl : TableInv l) (ha : Legal l a) :
    TableInv (timerStep l a) := by
  cases a with
  | tick ms key a =>
    cases key with
    | none =>
      by_cases hms : ms = 0
      · subst hms
        exact tableInv_cancel hl (cancelAll_cancelled l.kernel l.tick) (by simp [setKey])
      · have hms' : (ms : ℤ) ≠ 0 := Int.natCast_ne_zero.mpr hms
        simp only [timerStep, tickArg, coreTick, tickArms, arm, refuse, setKey, if_neg hms',
          if_neg hms]
        exact hl
    | some key =>
      obtain ⟨k, t, hc, hinv, ⟨-, hstep⟩ | ⟨hnew, k', t', hs, hstep⟩⟩ := timerStep_tick_key hl ha
      · rw [hstep]
        exact hinv
      · rw [hstep]
        refine tableInv_schedule hinv (by simp) (hc.files.symm ▸ hnew) hs fun key' => ?_
        rw [Table.lookup_insert, Table.lookup_erase]
        split_ifs <;> rfl
  | wait ready =>
    simp only [timerStep]
    split
    · refine { hl with fetched := fun p hp => ?_ }
      obtain ⟨fd, -, hp⟩ := List.mem_filterMap.mp hp
      obtain ⟨ev, hev, rfl⟩ := Option.map_eq_some_iff.mp hp
      exact hl.watched fd ev hev
    · exact hl
  | deliver readOk callable =>
    simp only [timerStep]
    split
    · next p batch hr hb =>
      refine
        { hl with
          fetched := fun q hq => hl.fetched q (hb ▸ List.mem_cons_of_mem p hq)
          periodic := fun d hd => ?_ }
      obtain ⟨key, ms, hkey, -⟩ := hl.entry d.fd d.cb (dispatchEvent_some hd)
      rw [hkey]
      exact key.cb_oneshot
    · exact hl
  | finish =>
    simp only [timerStep]
    split
    · next d hd =>
      simp only [finishEvent, hl.periodic d hd, Bool.false_eq_true, ↓reduceIte]
      exact { hl with periodic := fun d hd => by cases hd }
    · exact hl

/-- Every step serves the keys: it touches no other key, and calls a callback for a key of the map
only. -/
lemma serves_step {l : TimerLoop} {a : TimerAction} (hl : TableInv l) (ha : Legal l a) :
    Serves l a := by
  cases a with
  | tick ms key a =>
    cases key with
    | none => trivial
    | some key =>
      intro other hother fd hfd
      have hp : key.cb.isKeyOf other.cb = false := by
        rw [Bool.eq_false_iff, ne_eq, TickKey.isKeyOf_cb]
        exact hother
      obtain ⟨k, t, hc, -, ⟨-, hstep⟩ | ⟨hnew, k', t', hs, hstep⟩⟩ := timerStep_tick_key hl ha
      · rw [hstep] at hfd ⊢
        have hcb : l.tick.callbacks.lookup fd = some other.cb :=
          hfd.elim id fun h => (hc.lookup_iff.mp h).1
        obtain ⟨hcalls, hpoll, hint⟩ := hc.timer_eq hcb hp
        simp only [TimerLoop.timerAt, hcalls, hpoll, hint]
      · rw [hstep] at hfd ⊢
        have hcb : l.tick.callbacks.lookup fd = some other.cb := by
          refine hfd.elim id fun h => ?_
          obtain ⟨-, hkey⟩ | ⟨-, h⟩ := hs.lookup_iff.mp h
          · exact absurd (TickKey.cb_injective hkey).symm hother
          · exact (hc.lookup_iff.mp h).1
        have hne : fd ≠ a.fd := fun he => hnew (he ▸ hl.opened fd other.cb hcb)
        obtain ⟨hcalls, hpoll, hint⟩ := hc.timer_eq hcb hp
        simp only [TimerLoop.timerAt, hs.callbacks, Table.lookup_insert, if_neg hne,
          hs.pollfds fd hne, hs.interest fd hne, hcalls, hpoll, hint]
  | wait ready => trivial
  | deliver readOk callable =>
    intro hr
    refine ⟨fun p hp => hl.fetched p (List.mem_of_mem_head? hp), fun d hd _ => ?_⟩
    simp only [timerStep, hr] at hd
    split at hd
    · next p batch _ hb =>
      obtain ⟨key, ms, hkey, hms, -⟩ := hl.entry d.fd d.cb (dispatchEvent_some hd)
      exact ⟨key, ms, hkey, hms⟩
    · rw [hr] at hd
      cases hd
  | finish => trivial

/-- **The last call of `tick` for a key wins.** For every run of calls of `tick`, returns of
`epoll_wait`, deliveries and returns of callbacks, in every order, in which `timerfd_create` returns
descriptors that are not in use and the timers can be set: in every state the entries of
`callbacks_` are those of the map that the calls ask for, one for each key; each of them for which
`EPOLL_CTL_ADD` was not refused has an event in the interest set, with a pointer to a payload that
is alive, and no other payload is; every call leaves the timers of other keys as they are; and a
callback is called only for a key that is in the map then. -/
theorem lastCallWins (as : List TimerAction) (h : Run.EachStep timerStep Legal {} as) :
    Run.Always timerStep TimerMap {} as ∧ Run.EachStep timerStep Serves {} as := by
  have hstart : TableInv {} :=
    { entry := by simp
      timer := by simp
      single := by simp
      registered := by simp
      alive := by simp
      opened := by simp
      allocated := by simp
      watched := by simp [Epoll.Kernel.empty]
      fetched := by simp
      periodic := by simp }
  exact ⟨(Run.always_of_step (fun _ _ hl ha => tableInv_step hl ha) hstart h).mono
      fun _ hl => hl.timerMap,
    Run.eachStep_of_step (fun _ _ hl ha => tableInv_step hl ha)
      (fun _ _ hl ha => serves_step hl ha) hstart h⟩

/-- Two timers are ready at once. The callback of the first one replaces its own timer and cancels
the other, whose event is already in the batch. -/
def exampleCalls : List TimerAction :=
  let blink : TickKey := .name "blink" (by decide)
  [.tick 10 (some blink) ⟨3, true, false⟩, .tick 20 (some (.function 1)) ⟨4, true, false⟩,
    .wait [3, 4], .deliver true true, .tick 0 (some (.function 1)) ⟨5, true, false⟩,
    .tick 30 (some blink) ⟨5, true, false⟩, .finish, .deliver true true]

/-- The stale event calls nothing, and one timer is left for the key. -/
theorem lastCallWins_stale :
    (exampleCalls.foldl timerStep {}).running = none ∧
      Run.Always timerStep TimerMap {} exampleCalls ∧
      Run.EachStep timerStep Serves {} exampleCalls := by
  exact ⟨by decide, lastCallWins exampleCalls (by decide)⟩

end Aelkey.Ticks
