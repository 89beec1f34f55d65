import Aelkey.Loop.TimerTable

set_option relaxedAutoImplicit false
set_option autoImplicit false

/-!
# Calls of `tick` as they come from Lua

Scripts and the tickers of `aelkey_ticker.lua` call `aelkey.tick` with any integer. For a time that
is not negative this is a step of the timer table; `timerfd_settime` refuses a negative one, so that
the call ends the timers of its key and opens none.

## Main definitions

* `Aelkey.Ticks.callTick` — a call of `core_tick` for any number of milliseconds.
* `Aelkey.Ticks.timersOf` — the timers of a key.

## Main results

* `Aelkey.Ticks.tableInv_callTick` — a call keeps the invariant of the timer table.
* `Aelkey.Ticks.map_timersOf` — how the timers of a key are set is what the table of intervals says.
-/

namespace Aelkey.Ticks

/-- The descriptor of a new timer, and whether the interest set refuses it. -/
structure NewTimer where
  fd : ℤ
  epollRefused : Bool := false

/-- The answers of the kernel to a timer of `ms` milliseconds. -/
def NewTimer.answer (a : NewTimer) (ms : ℤ) : TimerAnswer := ⟨a.fd, 0 ≤ ms, a.epollRefused⟩

/-- `core_tick` in the loop, for any number of milliseconds. -/
def callTick (l : TimerLoop) (ms : ℤ) (key : Option TickKey) (a : NewTimer) : TimerLoop :=
  let (kernel, tick) := coreTick l.kernel l.tick ms (tickArg key) (a.answer ms)
  { l with
    kernel := kernel
    armed := arm l.armed (tickArms l.kernel l.tick ms (tickArg key) (a.answer ms))
    tick := tick
    table := if ms = 0 ∨ key.isSome then setKey l.table ms.toNat key else l.table
    refused := refuse l.refused (a.answer ms).epollRefused
      (tickArms l.kernel l.tick ms (tickArg key) (a.answer ms)) }

/-- The timers of a key. -/
def timersOf (l : TimerLoop) (key : TickKey) : List ℤ := l.tick.timersWhere (· = key.cb)

/-- The setting of a timer tells its time, also where no timer can be set to it. -/
lemma timerSpec_injective_int {ms ms' : ℤ} (h : timerSpec ms false = timerSpec ms' false) :
    ms = ms' := by
  simp only [timerSpec, Itimerspec.mk.injEq, Timespec.mk.injEq] at h
  omega

/-- For a time that is not negative the call is that of the timer table. -/
lemma callTick_natCast (l : TimerLoop) (ms : ℕ) (key : Option TickKey) (a : NewTimer) :
    callTick l ms key a = timerStep l (.tick ms key (a.answer ms)) := by
  simp only [callTick, timerStep, TimerLoop.mk.injEq, true_and]
  cases key with
  | some key => simp
  | none =>
    by_cases hms : ms = 0
    · simp [hms]
    · simp [setKey, hms]

/-- A timer that cannot be set is closed again. -/
lemma schedule_refused (k : Kernel) (t : TickScheduler) (cb : TickCb) {a : TimerAnswer}
    (hfd : 0 ≤ a.fd) (hnew : a.fd ∉ k.files) (hset : a.setOk = false) :
    t.schedule k cb a = ((k.openFile timerName a.fd).1.close a.fd, t, -1) := by
  have hnot : ¬ (a.fd < 0 ∨ a.fd ∈ k.files) := not_or.mpr ⟨by omega, hnew⟩
  have hopen : (k.openFile timerName a.fd).2 = a.fd := by
    simp only [Epoll.Kernel.openFile, if_neg hnot]
  simp only [TickScheduler.schedule, hopen, hset, Bool.not_false, ↓reduceIte,
    if_neg (not_lt.mpr hfd)]

/-- A file that is opened and closed at once is not open, and the others are as they were. -/
lemma openFile_close {k : Kernel} {fd : ℤ} (hfd : 0 ≤ fd) (hnew : fd ∉ k.files) :
    (∀ x, x ∈ ((k.openFile timerName fd).1.close fd).files ↔ x ∈ k.files) ∧
      ∀ x, ((k.openFile timerName fd).1.close fd).interest.lookup x = k.interest.lookup x := by
  have hnot : ¬ (fd < 0 ∨ fd ∈ k.files) := not_or.mpr ⟨by omega, hnew⟩
  have hclosed : k.interest.lookup fd = none := AList.lookup_eq_none.mpr fun h =>
    hnew (k.interest_open fd h)
  refine ⟨fun x => ?_, fun x => ?_⟩
  · have hfiles : (k.openFile timerName fd).1.files = k.files.insert fd timerName := by
      simp only [Epoll.Kernel.openFile, if_neg hnot]
    rw [Epoll.Kernel.close_files, hfiles, AList.mem_erase, AList.mem_insert]
    refine ⟨fun h => h.2.resolve_left h.1, fun h => ⟨?_, .inr h⟩⟩
    rintro rfl
    exact hnew h
  · rw [Epoll.Kernel.close_interest, Epoll.Kernel.openFile_interest, Table.lookup_erase]
    split_ifs with hx
    · rw [hx, hclosed]
    · rfl

/-- The invariant of the timer table looks at the open files and the interest set by lookups. -/
lemma TableInv.of_kernel {l : TimerLoop} (hl : TableInv l) {k : Kernel}
    (hfiles : ∀ fd, fd ∈ k.files ↔ fd ∈ l.kernel.files)
    (hinterest : ∀ fd, k.interest.lookup fd = l.kernel.interest.lookup fd) :
    TableInv { l with kernel := k } :=
  { hl with
    registered := fun fd hfd hr => by
      obtain ⟨n, hn, hnfd, hdead, hev⟩ := hl.registered fd hfd hr
      exact ⟨n, hn, hnfd, hdead, (hinterest fd).trans hev⟩
    opened := fun fd cb h => (hfiles fd).mpr (hl.opened fd cb h)
    allocated := fun fd n h => (hfiles fd).mpr (hl.allocated fd n h)
    watched := fun fd ev h => hl.watched fd ev ((hinterest fd).symm.trans h) }

/-- The invariant holds at the start. -/
lemma tableInv_empty : TableInv {} where
  entry := by simp
  timer := by simp
  single := by simp
  registered := by simp
  alive := by simp
  opened := by simp
  allocated := by simp
  watched := by simp [Epoll.Kernel.empty]
  fetched := by simp
  periodic := by simp

/-- A call of `aelkey.tick` keeps the invariant of the timer table.

**Proof sketch.** For a time that is not negative this is a step of the timer table. For a negative
one the timers of the key are cancelled, as by `tick(0)`, and the new timer is opened and closed. -/
lemma tableInv_callTick {l : TimerLoop} (hl : TableInv l) (ms : ℤ) (key : Option TickKey)
    {a : NewTimer} (hfd : 0 ≤ a.fd) (hnew : a.fd ∉ l.kernel.files) :
    TableInv (callTick l ms key a) := by
  by_cases hms : 0 ≤ ms
  · obtain ⟨n, rfl⟩ := Int.eq_ofNat_of_zero_le hms
    rw [callTick_natCast]
    apply tableInv_step hl
    cases key with
    | none => trivial
    | some key => exact fun _ => ⟨hfd, hnew, decide_eq_true hms⟩
  · have hne : ms ≠ 0 := by omega
    cases key with
    | none =>
      simp only [callTick, tickArg, coreTick, tickArms, arm, refuse, hne, Option.isSome_none,
        Bool.false_eq_true, or_self, ↓reduceIte]
      exact hl
    | some key =>
      have hset : (a.answer ms).setOk = false := decide_eq_false hms
      have hnat : ms.toNat = 0 := by omega
      have hcancel : TableInv (timerStep l (.tick 0 (some key) (a.answer 0))) :=
        tableInv_step hl fun h => absurd rfl h
      have hnew' : a.fd ∉ (l.tick.cancelMatching l.kernel key.cb).1.files :=
        (cancelMatching_cancelled l.kernel l.tick key.cb).files.symm ▸ hnew
      simp only [timerStep, tickArg, coreTick_key, tickArms_key, Nat.cast_zero, ↓reduceIte, arm,
        setKey, refuse] at hcancel
      simp only [callTick, tickArg, coreTick_key, tickArms_key, if_neg hne, Option.isSome_some,
        or_true, ↓reduceIte, hnat, setKey, refuse, schedule_refused _ _ _ hfd hnew' hset]
      obtain ⟨hfiles, hinterest⟩ := openFile_close hfd hnew'
      exact hcancel.of_kernel hfiles hinterest

/-- The timer that a call for a key leaves: none, unless the time is positive. -/
def tickTimer (ms : ℤ) : Option ℕ := if 0 < ms then some ms.toNat else none

/-- The intervals after a call for a key. -/
lemma lookup_callTick (l : TimerLoop) (ms : ℤ) (key key' : TickKey) (a : NewTimer) :
    (callTick l ms (some key) a).table.lookup key' =
      if key' = key then tickTimer ms else l.table.lookup key' := by
  have htable : (callTick l ms (some key) a).table = setKey l.table ms.toNat (some key) := by
    simp [callTick]
  rw [htable, setKey, tickTimer]
  by_cases hms : 0 < ms
  · have hne : ms.toNat ≠ 0 := by omega
    rw [if_neg hne, if_pos hms, Table.lookup_insert]
  · have hz : ms.toNat = 0 := by omega
    rw [if_pos hz, if_neg hms, Table.lookup_erase]

/-- **The settings of the timers of a key** are what the table of intervals says. -/
lemma map_timersOf {l : TimerLoop} (hl : TableInv l) (key : TickKey) :
    (timersOf l key).map l.armed.lookup =
      ((l.table.lookup key).map fun ms : ℕ => some (timerSpec ms false)).toList := by
  have hmem : ∀ fd, fd ∈ timersOf l key ↔ l.tick.callbacks.lookup fd = some key.cb := by
    intro fd
    rw [timersOf, TickScheduler.mem_timersWhere]
    simp
  rcases hms : l.table.lookup key with _ | ms
  · have hnil : timersOf l key = [] :=
      List.eq_nil_iff_forall_not_mem.mpr fun fd h => hl.no_timer hms fd ((hmem fd).mp h)
    rw [hnil]
    rfl
  · obtain ⟨fd, hfd, harmed⟩ := (hl.timerMap.timer key ms).mp hms
    have hnodup : (timersOf l key).Nodup := l.tick.nodup_timersWhere _
    have hperm : (timersOf l key).Perm [fd] := by
      refine (List.perm_ext_iff_of_nodup hnodup (List.nodup_singleton fd)).mpr fun fd' => ?_
      rw [hmem, List.mem_singleton]
      exact ⟨fun h => hl.single fd' fd key.cb h hfd, fun h => h ▸ hfd⟩
    rw [List.perm_singleton.mp hperm]
    simp [harmed]

end Aelkey.Ticks
