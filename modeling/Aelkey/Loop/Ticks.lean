import Aelkey.Device.Changes
import Mathlib.Data.List.Sort

set_option relaxedAutoImplicit false
set_option autoImplicit false

/-!
# Timers, hidraw devices and the descriptors they leave

`TickScheduler` (`source/tick_scheduler.h`) and `DispatcherHidraw` close a descriptor in
`on_unregister` only, which `flush_deferred` calls. In `loop_start` (`source/aelkey_loop.cc`) the
call of `flush_deferred` is commented out, so a descriptor that has been unregistered stays open.

## Main definitions

* `Aelkey.Ticks.TickScheduler` — the scheduler, with `schedule`, `cancel_matching` and `cancel_all`.
* `Aelkey.Ticks.coreTick` — `core_tick`.
* `Aelkey.Ticks.loopStep` — a run of `loop_start`: the calls of scripts and the turns of the loop.
* `Aelkey.Ticks.Bounded` — what is open is in use, or was unregistered in the last two iterations.

## Main results

* `Aelkey.Ticks.bounded_iff_settled` — the bound holds along a run iff no iteration ends while there
  are descriptors that were unregistered in the iteration before it.
* `Aelkey.Ticks.not_bounded_replaced` — a timer is replaced, and the loop turns twice.

## Design

A timer has no path, so its file has the empty name; `open` does not succeed for an empty path. The
expiry of a timer runs its callback, whose calls are actions of their own. How many descriptors were
unregistered, in this iteration and in the one before it, is counted next to the state.
-/

namespace Aelkey.Ticks

open Device

/-! ## The scheduler -/

/-- `TickCb`: a callback by its function or by its name. -/
structure TickCb where
  isFunction : Bool := false
  fn : ℕ := 0
  name : String := ""
  oneshot : Bool := false
deriving DecidableEq

/-- `TickScheduler`. -/
structure TickScheduler where
  base : DispatcherBase := { type := "tick" }
  callbacks : Table ℤ TickCb := ∅

/-- The answers of the kernel to `schedule`: the number of the new descriptor, and whether the
timer can be set and the descriptor be added to the interest set. -/
structure TimerAnswer where
  fd : ℤ
  setOk : Bool
  epollRefused : Bool

/-- The name of the file behind a timer. -/
def timerName : String := ""

/-- The condition of the loop of `cancel_matching`: both are functions and the same, or both are
names and the same. -/
def TickCb.isKeyOf (key existing : TickCb) : Bool :=
  if key.isFunction && existing.isFunction then existing.fn = key.fn
  else if !key.isFunction && !existing.isFunction then existing.name = key.name
  else false

namespace TickScheduler

/-- `schedule`: the descriptor of the new timer, or -1. -/
def schedule (k : Kernel) (t : TickScheduler) (cb : TickCb) (a : TimerAnswer) :
    Kernel × TickScheduler × ℤ :=
  let (k, fd) := k.openFile timerName a.fd
  if fd < 0 then (k, t, -1)
  else if !a.setOk then (k.close fd, t, -1)
  else
    let (k, base) := registerFd k t.base fd 1 a.epollRefused
    (k, { base := base, callbacks := t.callbacks.insert fd cb }, fd)

/-- The timers whose callback has the property `p`, in the order in which a loop over `callbacks_`
visits them. -/
def timersWhere (t : TickScheduler) (p : TickCb → Bool) : List ℤ :=
  ((t.callbacks.entries.filter fun e => p e.2).map (·.1)).insertionSort (· ≤ ·)

/-- The calls of `unregister_fd` by a loop. -/
def unregisterAll (k : Kernel) (d : DispatcherBase) (fds : List ℤ) : Kernel × DispatcherBase :=
  fds.foldl (fun r fd => unregisterFd r.1 r.2 fd) (k, d)

/-- `cancel_matching`. -/
def cancelMatching (k : Kernel) (t : TickScheduler) (key : TickCb) : Kernel × TickScheduler :=
  let fds := t.timersWhere key.isKeyOf
  let (k, base) := unregisterAll k t.base fds
  (k, { base := base, callbacks := fds.foldl (fun c fd => c.erase fd) t.callbacks })

/-- `cancel_all`. -/
def cancelAll (k : Kernel) (t : TickScheduler) : Kernel × TickScheduler :=
  let (k, base) := unregisterAll k t.base (t.timersWhere fun _ => true)
  (k, { base := base, callbacks := ∅ })

/-- `handle_event` after the callback: a timer that fires once is unregistered. -/
def expired (k : Kernel) (t : TickScheduler) (fd : ℤ) : Kernel × TickScheduler :=
  match t.callbacks.lookup fd with
  | some cb =>
    if cb.oneshot then
      let (k, base) := unregisterFd k t.base fd
      (k, { t with base := base })
    else (k, t)
  | none => (k, t)

end TickScheduler

/-- The second argument of `tick`: nothing, a string, a function, or anything else. -/
inductive TickArg
  | nil
  | name (s : String)
  | function (fn : ℕ)
  | other

/-- The key that `core_tick` makes of its argument. -/
def TickArg.key : TickArg → TickCb
  | .name s => { name := s }
  | .function fn => { isFunction := true, fn := fn }
  | .nil | .other => {}

/-- `core_tick`. -/
def coreTick (k : Kernel) (t : TickScheduler) (ms : ℤ) (cb : TickArg) (a : TimerAnswer) :
    Kernel × TickScheduler :=
  match cb with
  | .nil => if ms = 0 then t.cancelAll k else (k, t)
  | cb =>
    let (k, t) := t.cancelMatching k cb.key
    if ms = 0 then (k, t)
    else
      let (k, t, _) := t.schedule k cb.key a
      (k, t)

/-- The timers that a call of `core_tick` unregisters. -/
def tickCancels (t : TickScheduler) (ms : ℤ) (cb : TickArg) : List ℤ :=
  match cb with
  | .nil => if ms = 0 then t.timersWhere fun _ => true else []
  | cb => t.timersWhere cb.key.isKeyOf

/-- The timer that an expiry unregisters. -/
def expiryCancels (t : TickScheduler) (fd : ℤ) : List ℤ :=
  match t.callbacks.lookup fd with
  | some cb => if cb.oneshot then [fd] else []
  | none => []

/-! ## The loop -/

/-- How many descriptors were unregistered in the current iteration and in the one before it. -/
structure Window where
  now : ℕ := 0
  before : ℕ := 0
deriving DecidableEq

/-- The number for both iterations. -/
def Window.total (v : Window) : ℕ := v.now + v.before

/-- More descriptors are unregistered. -/
def Window.add (v : Window) (n : ℕ) : Window := { v with now := v.now + n }

/-- An iteration ends. -/
def Window.next (v : Window) : Window := { now := 0, before := v.now }

/-- The program while `loop_start` runs, with the counts of unregistered timers and of detached
hidraw devices. -/
structure Loop where
  device : State := {}
  tick : TickScheduler := {}
  timers : Window := {}
  hidraws : Window := {}

/-- A declaration of a hidraw device. -/
abbrev HidrawDecl := { decl : InputDecl // decl.type = .hidraw }

/-- A call of `tick`, the expiry of a timer, a hidraw device that is attached or detached, and the
end of an iteration. -/
inductive LoopAction
  | tick (ms : ℤ) (cb : TickArg) (a : TimerAnswer)
  | expire (fd : ℤ)
  | attach (decl : HidrawDecl) (a : Attempt)
  | detach (devId : String)
  | endIteration

/-- One step of the program. At the end of an iteration `loop_start` does nothing. -/
def loopStep (l : Loop) : LoopAction → Loop
  | .tick ms cb a =>
    let (kernel, tick) := coreTick l.device.kernel l.tick ms cb a
    { l with
      device := { l.device with kernel := kernel }
      tick := tick
      timers := l.timers.add (tickCancels l.tick ms cb).length }
  | .expire fd =>
    let (kernel, tick) := l.tick.expired l.device.kernel fd
    { l with
      device := { l.device with kernel := kernel }
      tick := tick
      timers := l.timers.add (expiryCancels l.tick fd).length }
  | .attach decl a =>
    match matchDecl l.device decl.1 a with
    | (s, some devnode) => { l with device := (Device.attach s devnode decl.1 a).1 }
    | (s, none) => { l with device := s }
  | .detach devId =>
    match Device.detach l.device devId devId with
    | (s, some _) => { l with device := s, hidraws := l.hidraws.add 1 }
    | (s, none) => { l with device := s }
  | .endIteration => { l with timers := l.timers.next, hidraws := l.hidraws.next }

/-- The open descriptors of timers. -/
def openTimers (k : Kernel) : ℕ :=
  Table.weight (fun name => if name = timerName then 1 else 0) k.files

/-- The open descriptors of hidraw devices: those that have a path. -/
def openHidraws (k : Kernel) : ℕ :=
  Table.weight (fun name => if name = timerName then 0 else 1) k.files

/-- **The bound.** A timer that is open has an entry in `callbacks_`, or was unregistered in the
last two iterations; a hidraw device that is open is attached, or was detached in the last two
iterations. -/
structure Bounded (l : Loop) : Prop where
  timers : openTimers l.device.kernel ≤ l.tick.callbacks.entries.length + l.timers.total
  hidraws : openHidraws l.device.kernel ≤ l.device.inputMap.entries.length + l.hidraws.total

instance (l : Loop) : Decidable (Bounded l) :=
  decidable_of_iff
    (openTimers l.device.kernel ≤ l.tick.callbacks.entries.length + l.timers.total ∧
      openHidraws l.device.kernel ≤ l.device.inputMap.entries.length + l.hidraws.total)
    ⟨fun h => ⟨h.1, h.2⟩, fun h => ⟨h.timers, h.hidraws⟩⟩

/-- The end of an iteration finds no descriptor that was unregistered in the iteration before. -/
def Settled (l : Loop) : LoopAction → Prop
  | .endIteration => l.timers.before = 0 ∧ l.hidraws.before = 0
  | _ => True

/-! ## What the scheduler does to its tables -/

namespace TickScheduler

/-- The timers that a loop picks. -/
lemma mem_timersWhere {t : TickScheduler} {p : TickCb → Bool} {fd : ℤ} :
    fd ∈ t.timersWhere p ↔ ∃ cb, t.callbacks.lookup fd = some cb ∧ p cb = true := by
  rw [timersWhere, List.mem_insertionSort, List.mem_map]
  constructor
  · rintro ⟨⟨fd, cb⟩, he, rfl⟩
    obtain ⟨hmem, hp⟩ := List.mem_filter.mp he
    exact ⟨cb, AList.mem_lookup_iff.mpr hmem, hp⟩
  · intro ⟨cb, hl, hp⟩
    exact ⟨⟨fd, cb⟩, List.mem_filter.mpr ⟨AList.mem_lookup_iff.mp hl, hp⟩, rfl⟩

/-- No timer is picked twice. -/
lemma nodup_timersWhere (t : TickScheduler) (p : TickCb → Bool) : (t.timersWhere p).Nodup := by
  rw [timersWhere, (List.perm_insertionSort _ _).nodup_iff]
  apply List.Nodup.sublist (List.filter_sublist.map _)
  exact t.callbacks.nodupKeys

/-- Unregistering closes nothing. -/
lemma unregisterAll_files (k : Kernel) (d : DispatcherBase) (fds : List ℤ) :
    (unregisterAll k d fds).1.files = k.files := by
  induction fds generalizing k d with
  | nil => rfl
  | cons fd fds ih => exact ih (unregisterFd k d fd).1 (unregisterFd k d fd).2

/-- `cancel_matching` takes the timers it unregisters out of `callbacks_` and closes nothing. -/
lemma cancelMatching_cases (k : Kernel) (t : TickScheduler) (key : TickCb) :
    (t.cancelMatching k key).1.files = k.files ∧
      (t.cancelMatching k key).2.callbacks.entries.length + (t.timersWhere key.isKeyOf).length =
        t.callbacks.entries.length ∧
      ∀ fd cb, (t.cancelMatching k key).2.callbacks.lookup fd = some cb →
        t.callbacks.lookup fd = some cb := by
  refine ⟨unregisterAll_files k t.base _, ?_, fun fd cb h => Table.lookup_of_foldl_erase h⟩
  refine Table.length_foldl_erase (nodup_timersWhere t key.isKeyOf) fun fd hfd => ?_
  obtain ⟨cb, hl, -⟩ := mem_timersWhere.mp hfd
  exact Table.mem_of_lookup hl

/-- `cancel_all` unregisters every timer of `callbacks_` and closes nothing. -/
lemma cancelAll_cases (k : Kernel) (t : TickScheduler) :
    (t.cancelAll k).1.files = k.files ∧
      (t.cancelAll k).2.callbacks.entries.length + (t.timersWhere fun _ => true).length =
        t.callbacks.entries.length ∧
      ∀ fd cb, (t.cancelAll k).2.callbacks.lookup fd = some cb →
        t.callbacks.lookup fd = some cb := by
  refine ⟨unregisterAll_files k t.base _, ?_, fun fd cb h => by simp [cancelAll] at h⟩
  rw [timersWhere, List.length_insertionSort, List.length_map, List.filter_true]
  exact Nat.zero_add _

/-- `schedule` either leaves what is open and what is scheduled as it is, or opens a timer and gives
it an entry. -/
lemma schedule_cases (k : Kernel) (t : TickScheduler) (cb : TickCb) (a : TimerAnswer) :
    (∀ w, Table.weight w (t.schedule k cb a).1.files = Table.weight w k.files) ∧
        (∀ fd, fd ∈ (t.schedule k cb a).1.files ↔ fd ∈ k.files) ∧
        (t.schedule k cb a).2.1 = t ∨
      ∃ fd, fd ∉ k.files ∧ (t.schedule k cb a).1.files = k.files.insert fd timerName ∧
        (t.schedule k cb a).2.1.callbacks = t.callbacks.insert fd cb := by
  unfold schedule
  dsimp only
  by_cases hneg : (k.openFile timerName a.fd).2 < 0
  · rw [if_pos hneg, Epoll.Kernel.openFile_of_neg hneg]
    exact .inl ⟨fun _ => rfl, fun _ => Iff.rfl, rfl⟩
  obtain ⟨hfd, -, hunused, hfiles⟩ := Epoll.Kernel.openFile_of_nonneg hneg
  rw [if_neg hneg, hfd]
  by_cases hset : (!a.setOk) = true
  · -- the timer cannot be set and is closed again
    rw [if_pos hset]
    refine .inl ⟨fun w => ?_, fun fd => ?_, rfl⟩
    · have hl : (k.files.insert a.fd timerName).lookup a.fd = some timerName := by
        rw [Table.lookup_insert, if_pos rfl]
      have herase := Table.weight_erase w hl
      have hinsert := Table.weight_insert w hunused timerName
      rw [Epoll.Kernel.close_files, hfiles]
      omega
    · rw [Epoll.Kernel.close_files, hfiles, AList.mem_erase, AList.mem_insert]
      refine ⟨fun h => h.2.resolve_left h.1, fun h => ⟨?_, .inr h⟩⟩
      rintro rfl
      exact hunused h
  · rw [if_neg hset]
    exact .inr ⟨a.fd, hunused, by rw [registerFd_files, hfiles], rfl⟩

end TickScheduler

/-! ## What the hidraw backend does to its tables -/

/-- Attaching a hidraw device fails and leaves everything as it is, or opens its node and enters it
into the map. -/
lemma attach_hidraw (s : State) (devnode : String) (decl : HidrawDecl) (a : Attempt) :
    (Device.attach s devnode decl.1 a).1.kernel.files = s.kernel.files ∧
        (Device.attach s devnode decl.1 a).1.inputMap = s.inputMap ∨
      ∃ (fd : ℤ) (decl' : HidrawDecl), fd ∉ s.kernel.files ∧ decl'.1.id ∉ s.inputMap ∧
        (Device.attach s devnode decl.1 a).1.kernel.files = s.kernel.files.insert fd devnode ∧
        (Device.attach s devnode decl.1 a).1.inputMap = s.inputMap.insert decl'.1.id decl'.1 := by
  obtain ⟨decl, ht⟩ := decl
  rw [Device.attach]
  by_cases hin : decl.id ∈ s.inputMap
  · rw [if_pos hin]
    exact .inl ⟨rfl, rfl⟩
  rw [if_neg hin]
  have hback : backendAttach s devnode decl a = hidrawAttach s devnode decl a := by
    simp only [backendAttach, ht]
  rw [hback]
  unfold hidrawAttach hidrawOpen
  dsimp only
  by_cases hneg : (s.kernel.openFile devnode (a.openFd s.kernel)).2 < 0
  · simp only [hneg, ↓reduceIte, Epoll.Kernel.openFile_of_neg hneg]
    exact .inl ⟨rfl, rfl⟩
  · obtain ⟨hfd, -, hunused, hfiles⟩ := Epoll.Kernel.openFile_of_nonneg hneg
    simp only [hneg, ↓reduceIte]
    refine .inr ⟨a.openFd s.kernel, ⟨{ decl with devnode := devnode, fd := _ }, ht⟩, hunused, hin,
      ?_, rfl⟩
    rw [registerFd_files, hfiles]

/-- Detaching an attached hidraw device takes it out of the map and closes nothing. -/
lemma detach_hidraw {s : State} {devId : String} {decl : InputDecl} (ht : decl.type = .hidraw)
    (hl : s.inputMap.lookup devId = some decl) :
    ∃ s', Device.detach s devId devId = (s', some decl) ∧ s'.kernel.files = s.kernel.files ∧
      s'.inputMap = s.inputMap.erase devId := by
  refine ⟨{ hidrawRemove s devId with
    inputMap := s.inputMap.erase devId
    frames := s.frames.erase devId }, ?_, ?_, rfl⟩
  · simp only [Device.detach, hl, backendDetach, ht, hidrawRemove]
    split <;> rfl
  · unfold hidrawRemove
    split <;> rfl

/-! ## The bound along runs -/

/-- **The invariant.** While nothing has left the window, the open timers are those of `callbacks_`
and those of the window, and the open hidraw devices are the attached ones and those of the
window. -/
structure Counted (l : Loop) : Prop where
  timers : openTimers l.device.kernel = l.tick.callbacks.entries.length + l.timers.total
  hidraws : openHidraws l.device.kernel = l.device.inputMap.entries.length + l.hidraws.total
  opened : ∀ fd cb, l.tick.callbacks.lookup fd = some cb → fd ∈ l.device.kernel.files
  periodic : ∀ fd cb, l.tick.callbacks.lookup fd = some cb → cb.oneshot = false
  types : ∀ id decl, l.device.inputMap.lookup id = some decl → decl.type = .hidraw

/-- No key that `core_tick` makes is for a single expiry. -/
lemma key_oneshot (cb : TickArg) : cb.key.oneshot = false := by
  cases cb <;> rfl

/-- The steps of `schedule` keep the counts: a new timer is open and has an entry. -/
lemma counted_schedule {l : Loop} (hl : Counted l) (cb : TickArg) (a : TimerAnswer) :
    Counted { l with
      device := { l.device with kernel := (l.tick.schedule l.device.kernel cb.key a).1 }
      tick := (l.tick.schedule l.device.kernel cb.key a).2.1 } := by
  obtain ⟨hweight, hmem, htick⟩ | ⟨fd, hunused, hfiles, hcb⟩ :=
    TickScheduler.schedule_cases l.device.kernel l.tick cb.key a
  · rw [htick]
    exact
      { timers := (hweight _).trans hl.timers
        hidraws := (hweight _).trans hl.hidraws
        opened := fun fd cb' h => (hmem fd).mpr (hl.opened fd cb' h)
        periodic := hl.periodic
        types := hl.types }
  · have hnew : fd ∉ l.tick.callbacks := fun h => by
      obtain ⟨cb', hl'⟩ := Table.mem_iff_lookup.mp h
      exact hunused (hl.opened fd cb' hl')
    refine
      { timers := ?_
        hidraws := ?_
        opened := fun fd' cb' h => ?_
        periodic := fun fd' cb' h => ?_
        types := hl.types }
    · have hold := hl.timers
      rw [openTimers] at hold ⊢
      dsimp only
      rw [hfiles, hcb, Table.weight_insert _ hunused, Table.length_insert hnew, if_pos rfl, hold]
      omega
    · have hold := hl.hidraws
      rw [openHidraws] at hold ⊢
      dsimp only
      rw [hfiles, Table.weight_insert _ hunused, if_pos rfl, hold]
      omega
    · dsimp only at h ⊢
      rw [hcb, Table.lookup_insert] at h
      rw [hfiles, AList.mem_insert]
      split_ifs at h with he
      · exact .inl he
      · exact .inr (hl.opened fd' cb' h)
    · dsimp only at h
      rw [hcb, Table.lookup_insert] at h
      split_ifs at h
      · rw [← Option.some.inj h]
        exact key_oneshot cb
      · exact hl.periodic fd' cb' h

/-- A loop that unregisters timers and takes them out of `callbacks_` keeps the counts. -/
lemma counted_cancel {l : Loop} (hl : Counted l) {k : Kernel} {t : TickScheduler} {n : ℕ}
    (hfiles : k.files = l.device.kernel.files)
    (hlen : t.callbacks.entries.length + n = l.tick.callbacks.entries.length)
    (hsub : ∀ fd cb, t.callbacks.lookup fd = some cb → l.tick.callbacks.lookup fd = some cb) :
    Counted { l with
      device := { l.device with kernel := k }, tick := t, timers := l.timers.add n } := by
  refine
    { timers := ?_
      hidraws := ?_
      opened := fun fd cb h => hfiles ▸ hl.opened fd cb (hsub fd cb h)
      periodic := fun fd cb h => hl.periodic fd cb (hsub fd cb h)
      types := hl.types }
  · have hold := hl.timers
    simp only [openTimers, hfiles, Window.total, Window.add] at hold ⊢
    omega
  · simpa only [openHidraws, hfiles] using hl.hidraws

/-- Every call of `tick` keeps the counts.

**Proof sketch.** A call without a callback cancels all timers or does nothing. Another call cancels
the timers of its key, and then may schedule one. -/
lemma counted_tick {l : Loop} (hl : Counted l) (ms : ℤ) (cb : TickArg) (a : TimerAnswer) :
    Counted (loopStep l (.tick ms cb a)) := by
  have hkey : ∀ cb : TickArg, Counted (loopStep l (.tick ms cb a)) ∨ cb = .nil := by
    intro cb
    obtain ⟨hfiles, hlen, hsub⟩ :=
      TickScheduler.cancelMatching_cases l.device.kernel l.tick cb.key
    have hc := counted_cancel hl hfiles hlen hsub
    have hs := counted_schedule hc cb a
    cases cb with
    | nil => exact .inr rfl
    | name _ | function _ | other =>
      left
      simp only [loopStep, coreTick, tickCancels]
      split_ifs
      · exact hc
      · exact hs
  rcases hkey cb with h | rfl
  · exact h
  · by_cases hms : ms = 0
    · obtain ⟨hfiles, hlen, hsub⟩ := TickScheduler.cancelAll_cases l.device.kernel l.tick
      simp only [loopStep, coreTick, tickCancels, hms, ↓reduceIte]
      exact counted_cancel hl hfiles hlen hsub
    · simp only [loopStep, coreTick, tickCancels, hms, ↓reduceIte]
      exact hl

/-- Attaching a hidraw device keeps the counts. -/
lemma counted_attach {l : Loop} (hl : Counted l) (decl : HidrawDecl) (a : Attempt) :
    Counted (loopStep l (.attach decl a)) := by
  simp only [loopStep, matchDecl, decl.2]
  by_cases hfound : a.found = ""
  · simp only [hfound, ↓reduceIte]
    exact hl
  simp only [hfound, ↓reduceIte]
  obtain ⟨hfiles, hmap⟩ | ⟨fd, decl', hunused, hfresh, hfiles, hmap⟩ :=
    attach_hidraw l.device a.found decl a
  · exact
      { timers := by simpa only [openTimers, hfiles] using hl.timers
        hidraws := by simpa only [openHidraws, hfiles, hmap] using hl.hidraws
        opened := fun fd cb h => hfiles ▸ hl.opened fd cb h
        periodic := hl.periodic
        types := fun id decl h => hl.types id decl (hmap ▸ h) }
  · have hname : a.found ≠ timerName := hfound
    refine
      { timers := ?_
        hidraws := ?_
        opened := fun fd' cb h => ?_
        periodic := hl.periodic
        types := fun id decl h => ?_ }
    · have hold := hl.timers
      rw [openTimers] at hold ⊢
      dsimp only
      rw [hfiles, Table.weight_insert _ hunused, if_neg hname, hold]
      omega
    · have hold := hl.hidraws
      rw [openHidraws] at hold ⊢
      dsimp only
      rw [hfiles, hmap, Table.weight_insert _ hunused, Table.length_insert hfresh, if_neg hname,
        hold]
      omega
    · dsimp only
      rw [hfiles, AList.mem_insert]
      exact .inr (hl.opened fd' cb h)
    · dsimp only at h
      rw [hmap, Table.lookup_insert] at h
      split_ifs at h
      · rw [← Option.some.inj h]
        exact decl'.2
      · exact hl.types id decl h

/-- Detaching a hidraw device keeps the counts. -/
lemma counted_detach {l : Loop} (hl : Counted l) (devId : String) :
    Counted (loopStep l (.detach devId)) := by
  rcases hlookup : l.device.inputMap.lookup devId with _ | decl
  · simp only [loopStep, Device.detach, hlookup]
    exact hl
  · obtain ⟨s, hd, hfiles, hmap⟩ := detach_hidraw (hl.types devId decl hlookup) hlookup
    simp only [loopStep, hd]
    refine
      { timers := by simpa only [openTimers, hfiles] using hl.timers
        hidraws := ?_
        opened := fun fd cb h => hfiles ▸ hl.opened fd cb h
        periodic := hl.periodic
        types := fun id decl h => ?_ }
    · have hold := hl.hidraws
      have hlen := Table.length_erase hlookup
      simp only [openHidraws, hfiles, hmap, Window.total, Window.add] at hold ⊢
      omega
    · rw [hmap, Table.lookup_erase] at h
      split_ifs at h
      exact hl.types id decl h

/-- Every step that leaves the window settled keeps the counts. -/
lemma counted_step {l : Loop} {a : LoopAction} (hl : Counted l) (ha : Settled l a) :
    Counted (loopStep l a) := by
  cases a with
  | tick ms cb a => exact counted_tick hl ms cb a
  | expire fd =>
    simp only [loopStep, TickScheduler.expired, expiryCancels]
    split
    · next cb hcb =>
      simp only [hl.periodic fd cb hcb, Bool.false_eq_true, ↓reduceIte]
      exact hl
    · exact hl
  | attach decl a => exact counted_attach hl decl a
  | detach devId => exact counted_detach hl devId
  | endIteration =>
    have ht := hl.timers
    have hh := hl.hidraws
    simp only [Window.total, ha.1, ha.2, Nat.add_zero] at ht hh
    exact
      { timers := by simpa only [loopStep, Window.total, Window.next, Nat.zero_add] using ht
        hidraws := by simpa only [loopStep, Window.total, Window.next, Nat.zero_add] using hh
        opened := hl.opened
        periodic := hl.periodic
        types := hl.types }

/-- From a counted state a step keeps the bound iff it leaves the window settled. -/
lemma bounded_step_iff {l : Loop} (hl : Counted l) (a : LoopAction) :
    Bounded (loopStep l a) ↔ Settled l a := by
  have hkept : Settled l a → Bounded (loopStep l a) := fun ha =>
    ⟨(counted_step hl ha).timers.le, (counted_step hl ha).hidraws.le⟩
  refine ⟨fun h => ?_, hkept⟩
  cases a with
  | endIteration =>
    have ht := hl.timers
    have hh := hl.hidraws
    have ht' := h.timers
    have hh' := h.hidraws
    simp only [loopStep, Window.total, Window.next] at ht hh ht' hh'
    exact ⟨by omega, by omega⟩
  | tick | expire | attach | detach => trivial

/-- **No accumulation of dead descriptors, as long as the window is settled.** For every run with
any calls of `tick`, expiries, and hidraw devices attached and detached: in every state the open
timers are at most the entries of `callbacks_` and the timers unregistered in the last two
iterations, and the open hidraw devices at most the attached ones and those detached in the last two
iterations, if and only if at the end of every iteration there is no timer and no hidraw device that
was unregistered in the iteration before it.

**Proof sketch.** Nothing closes a timer or a hidraw device, so what is open is counted exactly by
the tables and the window until a descriptor leaves the window. -/
theorem bounded_iff_settled (as : List LoopAction) :
    Run.Always loopStep Bounded {} as ↔ Run.EachStep loopStep Settled {} as :=
  Run.always_iff_eachStep_of_step (I := Counted) (fun _ _ hl _ ha => counted_step hl ha)
    (fun _ a hl _ => bounded_step_iff hl a)
    { timers := rfl
      hidraws := rfl
      opened := by simp
      periodic := by simp
      types := by simp }
    ⟨le_rfl, le_rfl⟩ as

/-- A timer is started and replaced, and the loop turns twice. -/
def exampleTicks : List LoopAction :=
  [.tick 10 (.name "blink") ⟨3, true, false⟩, .tick 20 (.name "blink") ⟨4, true, false⟩,
    .endIteration, .endIteration]

/-- The descriptor of the replaced timer is still open. -/
theorem not_bounded_replaced :
    openTimers (exampleTicks.foldl loopStep {}).device.kernel = 2 ∧
      (exampleTicks.foldl loopStep {}).tick.callbacks.entries.length = 1 ∧
      ¬ Run.Always loopStep Bounded {} exampleTicks := by
  decide

end Aelkey.Ticks
