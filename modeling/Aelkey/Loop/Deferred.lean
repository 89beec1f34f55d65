import Aelkey.Loop.Dispatcher

set_option relaxedAutoImplicit false
set_option autoImplicit false

/-!
# Deferred unregistration

A dispatcher that closes its descriptors in `on_unregister` keeps an unregistered descriptor open
until `flush_deferred` has been called twice: the first call changes the list that is filled, and
the second one works through the list in which the descriptor has been noted.

## Main definitions

* `Aelkey.Deferred.flushCalls` — the calls of `on_unregister` by `flush_deferred`.
* `Aelkey.Deferred.Ledger`, `Aelkey.Deferred.ledgerStep` — a dispatcher with what it has
  registered, unregistered and closed so far.
* `Aelkey.Deferred.ClosedLate` — every unregistration is closed once, by the second flush after it.
* `Aelkey.Deferred.SparesLive` — a flush closes nothing that is registered.

## Main results

* `Aelkey.Deferred.closedLate_of_legal` — both hold along every run.

## Design

A registration is a call of `register_fd` that the kernel accepts; a refused one leaves no payload.
The rest of the program may open and close files of its own at any time. What has been registered,
unregistered and closed is kept next to the dispatcher, with the number of flushes at that time.
-/

namespace Aelkey.Deferred

/-! ## Runs -/

/-- The calls of `on_unregister` by `flush_deferred`, in order. -/
def flushCalls (d : DispatcherBase) : List ℤ :=
  (d.deferredUnregs d.previous).filter (· ∈ d.pollfds)

/-- A dispatcher with the kernel; the descriptors that are registered; the number of flushes so far;
every unregistration with the number of flushes before it; and every call of `on_unregister` with
the number of the flush that has made it. -/
structure Ledger where
  kernel : Kernel
  base : DispatcherBase
  live : List ℤ := []
  flushes : ℕ := 0
  unregistered : List (ℤ × ℕ) := []
  closed : List (ℤ × ℕ) := []

/-- A descriptor is opened and registered, or unregistered; the deferred list is flushed; the rest
of the program opens and closes files. -/
inductive Action
  | register (name : String) (fd : ℤ) (events : ℕ) (refused : Bool)
  | unregister (fd : ℤ)
  | flush
  | others (kernel : Kernel)

/-- One step of a run. -/
def ledgerStep (l : Ledger) : Action → Ledger
  | .register name fd events refused =>
    let (kernel, fd) := l.kernel.openFile name fd
    let (kernel, base) := registerFd kernel l.base fd events refused
    { l with
      kernel := kernel
      base := base
      live := if refused then l.live else fd :: l.live }
  | .unregister fd =>
    let (kernel, base) := unregisterFd l.kernel l.base fd
    { l with
      kernel := kernel
      base := base
      live := l.live.erase fd
      unregistered := l.unregistered ++ [(fd, l.flushes)] }
  | .flush =>
    let (kernel, base) := flushDeferred true l.kernel l.base
    { l with
      kernel := kernel
      base := base
      flushes := l.flushes + 1
      closed := l.closed ++ (flushCalls l.base).map (·, l.flushes + 1) }
  | .others kernel => { l with kernel := kernel }

/-- The descriptors that the dispatcher has opened and not closed: those that are registered, and
those of the two deferred lists. -/
def Ledger.held (l : Ledger) : List ℤ :=
  l.live ++ (l.base.deferredUnregs l.base.previous ++ l.base.deferredUnregs l.base.cycle)

/-- The kernel hands out no descriptor that is open; a registration is unregistered at most once;
the rest of the program does not close the descriptors of the dispatcher. -/
def Legal (l : Ledger) : Action → Prop
  | .register _ fd _ _ => 0 ≤ fd ∧ fd ∉ l.kernel.files
  | .unregister fd => fd ∈ l.live
  | .flush => True
  | .others kernel => ∀ fd ∈ l.held, fd ∈ kernel.files

/-- **Every unregistration is closed once, by the second flush after it**: the calls of
`on_unregister` are those for the unregistrations that two flushes have followed, each made by the
second of these flushes. -/
def ClosedLate (l : Ledger) : Prop :=
  l.closed = (l.unregistered.filter fun e => e.2 + 2 ≤ l.flushes).map fun e => (e.1, e.2 + 2)

/-- A flush does not call `on_unregister` for a descriptor that is registered. -/
def SparesLive (l : Ledger) : Action → Prop
  | .flush => ∀ fd ∈ flushCalls l.base, fd ∉ l.live
  | _ => True

/-- A new dispatcher. -/
def start (kernel : Kernel) (type : String) : Ledger := { kernel := kernel, base := { type := type } }

/-! ## Flushing -/

/-- The loop of `flush_deferred` makes the calls of `on_unregister`. -/
lemma flushList_eq (closes : Bool) (d : DispatcherBase) (k : Kernel) :
    flushList closes d k (d.deferredUnregs d.previous) =
      (flushCalls d).foldl (onUnregister closes) k := by
  rw [flushList, flushCalls, List.foldl_filter]
  simp

/-- What is open after a loop that closes descriptors. -/
lemma mem_files_closeAll (fds : List ℤ) (k : Kernel) (x : ℤ) :
    x ∈ (fds.foldl (onUnregister true) k).files ↔ x ∈ k.files ∧ x ∉ fds := by
  induction fds generalizing k with
  | nil => simp
  | cons fd fds ih =>
    rw [List.foldl_cons, ih, onUnregister, if_pos rfl, Epoll.Kernel.close_files, AList.mem_erase,
      List.mem_cons, not_or]
    tauto

/-! ## The invariant -/

/-- **The invariant.** The unregistrations are those that have been closed, those of the older
deferred list, from before the last flush, and those of the current one, from after it. The
descriptors that the dispatcher holds are different, have a payload, and are open. -/
structure Inv (l : Ledger) : Prop where
  parts : ∃ old before now, l.unregistered = old ++ before ++ now ∧
    (∀ e ∈ old, e.2 + 2 ≤ l.flushes) ∧ (∀ e ∈ before, e.2 + 1 = l.flushes) ∧
    (∀ e ∈ now, e.2 = l.flushes) ∧ l.closed = old.map (fun e => (e.1, e.2 + 2)) ∧
    before.map (·.1) = l.base.deferredUnregs l.base.previous ∧
    now.map (·.1) = l.base.deferredUnregs l.base.cycle
  nodup : l.held.Nodup
  payload : ∀ fd ∈ l.held, fd ∈ l.base.pollfds
  opened : ∀ fd ∈ l.held, fd ∈ l.kernel.files

/-- The deferred list that is not current is another one. -/
lemma previous_ne (d : DispatcherBase) : d.previous ≠ d.cycle := by
  unfold DispatcherBase.previous
  have h : ∀ c : Fin 2, c + 1 ≠ c := by decide
  exact h d.cycle

/-- The list after the next one is the list itself. -/
lemma previous_add_one (d : DispatcherBase) : d.previous + 1 = d.cycle := by
  unfold DispatcherBase.previous
  have h : ∀ c : Fin 2, c + 1 + 1 = c := by decide
  exact h d.cycle

/-- By the invariant, every unregistration that two flushes have followed has been closed. -/
lemma Inv.closedLate {l : Ledger} (h : Inv l) : ClosedLate l := by
  obtain ⟨old, before, now, hun, hold, hbefore, hnow, hclosed, -, -⟩ := h.parts
  have hnone : ∀ part : List (ℤ × ℕ), (∀ e ∈ part, l.flushes ≤ e.2 + 1) →
      part.filter (fun e => e.2 + 2 ≤ l.flushes) = [] := by
    intro part hpart
    rw [List.filter_eq_nil_iff]
    intro e he
    have := hpart e he
    simp only [decide_eq_true_eq]
    omega
  rw [ClosedLate, hclosed, hun, List.filter_append, List.filter_append,
    List.filter_eq_self.mpr (by simpa using hold),
    hnone before fun e he => (hbefore e he).ge,
    hnone now fun e he => (hnow e he) ▸ Nat.le_succ _, List.append_nil, List.append_nil]

/-- By the invariant, a flush closes the older deferred list. -/
lemma Inv.flushCalls_eq {l : Ledger} (h : Inv l) :
    flushCalls l.base = l.base.deferredUnregs l.base.previous := by
  rw [flushCalls, List.filter_eq_self]
  intro fd hfd
  refine decide_eq_true (h.payload fd ?_)
  exact List.mem_append_right _ (List.mem_append_left _ hfd)

/-- By the invariant, a flush spares what is registered. -/
lemma Inv.sparesLive {l : Ledger} (h : Inv l) (a : Action) : SparesLive l a := by
  cases a with
  | flush =>
    intro fd hfd hlive
    rw [h.flushCalls_eq] at hfd
    exact List.disjoint_of_nodup_append h.nodup hlive (List.mem_append_left _ hfd)
  | register | unregister | others => trivial

/-! ## Steps -/

/-- An opened descriptor that the kernel accepts gets a payload; a refused one loses it. The other
payloads, the deferred lists and the open files stay. -/
lemma registerFd_spec (l : Ledger) (name : String) {fd : ℤ} (hpos : 0 ≤ fd)
    (hnew : fd ∉ l.kernel.files) (events : ℕ) (refused : Bool) :
    let k := (l.kernel.openFile name fd).1
    (l.kernel.openFile name fd).2 = fd ∧
      (∀ x ∈ l.kernel.files, x ∈ (registerFd k l.base fd events refused).1.files) ∧
      fd ∈ (registerFd k l.base fd events refused).1.files ∧
      (∀ x ≠ fd, x ∈ l.base.pollfds → x ∈ (registerFd k l.base fd events refused).2.pollfds) ∧
      (refused = false → fd ∈ (registerFd k l.base fd events refused).2.pollfds) ∧
      (registerFd k l.base fd events refused).2.deferredUnregs = l.base.deferredUnregs ∧
      (registerFd k l.base fd events refused).2.cycle = l.base.cycle := by
  intro k
  have hopen : (l.kernel.openFile name fd).2 = fd := by
    rw [Epoll.Kernel.openFile, if_neg (by simp [hnew, hpos])]
  have hsucceeds : ¬ (l.kernel.openFile name fd).2 < 0 := by omega
  obtain ⟨-, -, -, hfiles⟩ := Epoll.Kernel.openFile_of_nonneg hsucceeds
  have hset : fd ∉ k.interest := by
    rw [Epoll.Kernel.openFile_interest]
    exact fun h => hnew (l.kernel.interest_open fd h)
  have hmem : fd ∈ k.files := by
    rw [hfiles]
    exact (AList.mem_insert _).mpr (.inl rfl)
  have hold : ∀ x ∈ l.kernel.files, x ∈ k.files := by
    intro x hx
    rw [hfiles]
    exact (AList.mem_insert _).mpr (.inr hx)
  refine ⟨hopen, ?_⟩
  obtain ⟨-, hf, -, hd⟩ | ⟨hc, hf, hd⟩ := registerFd_cases k l.base fd events refused
  · rw [hf, hd]
    refine ⟨hold, hmem, fun x _ hx => ?_, fun _ => ?_, rfl, rfl⟩
    · exact (AList.mem_insert _).mpr (.inr hx)
    · exact (AList.mem_insert _).mpr (.inl rfl)
  · have hrefused : refused = true := by tauto
    rw [hf, hd]
    refine ⟨hold, hmem, fun x hne hx => ?_, fun h => ?_, rfl, rfl⟩
    · exact AList.mem_erase.mpr ⟨hne, (AList.mem_insert _).mpr (.inr hx)⟩
    · rw [hrefused] at h
      cases h

/-- A registration keeps the invariant: a descriptor that was not open is not one that is held. -/
lemma Inv.register {l : Ledger} (h : Inv l) (name : String) {fd : ℤ} (hpos : 0 ≤ fd)
    (hnew : fd ∉ l.kernel.files) (events : ℕ) (refused : Bool) :
    Inv (ledgerStep l (.register name fd events refused)) := by
  obtain ⟨hopen, hold, hfd, hpay, hpay', hlists, hcycle⟩ :=
    registerFd_spec l name hpos hnew events refused
  have hheld : fd ∉ l.held := fun hm => hnew (h.opened fd hm)
  have hne : ∀ x ∈ l.held, x ≠ fd := fun x hx hxfd => hheld (hxfd ▸ hx)
  have hheld' : (ledgerStep l (.register name fd events refused)).held =
      if refused then l.held else fd :: l.held := by
    simp only [ledgerStep, Ledger.held, DispatcherBase.previous, hopen, hlists, hcycle]
    cases refused <;> simp
  refine ⟨?_, ?_, ?_, ?_⟩
  · simpa only [ledgerStep, DispatcherBase.previous, hopen, hlists, hcycle] using h.parts
  · rw [hheld']
    cases refused with
    | true => exact h.nodup
    | false => exact List.nodup_cons.mpr ⟨hheld, h.nodup⟩
  · rw [hheld']
    simp only [ledgerStep, hopen]
    cases refused with
    | true => exact fun x hx => hpay x (hne x hx) (h.payload x hx)
    | false =>
      exact List.forall_mem_cons.mpr
        ⟨hpay' rfl, fun x hx => hpay x (hne x hx) (h.payload x hx)⟩
  · rw [hheld']
    simp only [ledgerStep, hopen]
    cases refused with
    | true => exact fun x hx => hold x (h.opened x hx)
    | false => exact List.forall_mem_cons.mpr ⟨hfd, fun x hx => hold x (h.opened x hx)⟩

/-- Marking a payload dead takes no payload away. -/
lemma mem_retire {d : DispatcherBase} {fd x : ℤ} :
    x ∈ (d.retire fd).pollfds ↔ x ∈ d.pollfds := by
  rw [← AList.lookup_isSome, ← AList.lookup_isSome, DispatcherBase.lookup_retire]
  split_ifs with hx
  · rw [hx, Option.isSome_map]
  · rfl

/-- A descriptor with a payload goes to the end of the current list. -/
lemma retire_of_mem {d : DispatcherBase} {fd : ℤ} (h : fd ∈ d.pollfds) :
    (d.retire fd).cycle = d.cycle ∧
      (d.retire fd).deferredUnregs d.cycle = d.deferredUnregs d.cycle ++ [fd] ∧
      (d.retire fd).deferredUnregs d.previous = d.deferredUnregs d.previous := by
  obtain ⟨n, hn⟩ := Table.mem_iff_lookup.mp h
  unfold DispatcherBase.retire
  simp only [hn]
  exact ⟨trivial, Function.update_self .., Function.update_of_ne (previous_ne d) ..⟩

/-- An unregistration keeps the invariant: the descriptor goes into the current list. -/
lemma Inv.unregister {l : Ledger} (h : Inv l) {fd : ℤ} (hlive : fd ∈ l.live) :
    Inv (ledgerStep l (.unregister fd)) := by
  obtain ⟨old, before, now, hun, hold, hbefore, hnow, hclosed, hb, hn⟩ := h.parts
  obtain ⟨hcycle, hcur, hprev⟩ := retire_of_mem (h.payload fd (List.mem_append_left _ hlive))
  have hprevious : (l.base.retire fd).previous = l.base.previous := by
    rw [DispatcherBase.previous, hcycle, DispatcherBase.previous]
  -- the same descriptors are held, one of them in another place
  have hperm : (ledgerStep l (.unregister fd)).held.Perm l.held := by
    show (l.live.erase fd ++ ((l.base.retire fd).deferredUnregs (l.base.retire fd).previous ++
      (l.base.retire fd).deferredUnregs (l.base.retire fd).cycle)).Perm l.held
    rw [hprevious, hcycle, hcur, hprev, ← List.append_assoc, ← List.append_assoc]
    apply (List.perm_append_singleton fd _).trans
    rw [List.append_assoc, ← List.cons_append]
    exact (List.perm_cons_erase hlive).symm.append_right _
  refine ⟨⟨old, before, now ++ [(fd, l.flushes)], ?_, hold, hbefore, ?_, hclosed, ?_, ?_⟩,
    hperm.nodup_iff.mpr h.nodup, ?_, ?_⟩
  · simp only [ledgerStep, hun, List.append_assoc]
  · intro e he
    rcases List.mem_append.mp he with he | he
    · exact hnow e he
    · rw [List.mem_singleton.mp he]
      rfl
  · simp only [ledgerStep, unregisterFd, hprevious, hprev, hb]
  · simp only [ledgerStep, unregisterFd, hcycle, hcur, List.map_append, hn, List.map_cons,
      List.map_nil]
  · intro x hx
    exact mem_retire.mpr (h.payload x (hperm.mem_iff.mp hx))
  · intro x hx
    exact h.opened x (hperm.mem_iff.mp hx)

/-- A flush exchanges the lists and empties the older one. -/
lemma flushDeferred_lists (closes : Bool) (k : Kernel) (d : DispatcherBase) :
    (flushDeferred closes k d).2.cycle = d.previous ∧
      (flushDeferred closes k d).2.previous = d.cycle ∧
      (flushDeferred closes k d).2.deferredUnregs d.cycle = d.deferredUnregs d.cycle ∧
      (flushDeferred closes k d).2.deferredUnregs d.previous = [] :=
  ⟨rfl, previous_add_one d, Function.update_of_ne (previous_ne d).symm .., Function.update_self ..⟩

/-- What is held after a flush. -/
lemma held_flush (l : Ledger) :
    (ledgerStep l .flush).held = l.live ++ l.base.deferredUnregs l.base.cycle := by
  obtain ⟨hcycle, hprevious, hcur, hprev⟩ := flushDeferred_lists true l.kernel l.base
  simp only [Ledger.held, ledgerStep, hcycle, hprevious, hcur, hprev, List.append_nil]

/-- By the invariant, what is held after a flush has been held before, and has not been closed by
the flush. -/
lemma Inv.mem_held_flush {l : Ledger} (h : Inv l) {fd : ℤ} (hfd : fd ∈ (ledgerStep l .flush).held) :
    fd ∈ l.held ∧ fd ∉ flushCalls l.base := by
  have hnodup := h.nodup
  rw [held_flush] at hfd
  rw [h.flushCalls_eq]
  obtain ⟨-, hlists, hdisj⟩ := List.nodup_append'.mp hnodup
  rcases List.mem_append.mp hfd with hfd | hfd
  · exact ⟨List.mem_append_left _ hfd, fun hmem => hdisj hfd (List.mem_append_left _ hmem)⟩
  · exact ⟨List.mem_append_right _ (List.mem_append_right _ hfd),
      fun hmem => List.disjoint_of_nodup_append hlists hmem hfd⟩

/-- A flush keeps the invariant: it closes the older list and exchanges the lists. -/
lemma Inv.flush {l : Ledger} (h : Inv l) : Inv (ledgerStep l .flush) := by
  obtain ⟨old, before, now, hun, hold, hbefore, hnow, hclosed, hb, hn⟩ := h.parts
  obtain ⟨hcycle, hprevious, hcur, hprev⟩ := flushDeferred_lists true l.kernel l.base
  refine ⟨⟨old ++ before, now, [], ?_, ?_, ?_, ?_, ?_, ?_, ?_⟩, ?_, ?_, ?_⟩
  · rw [List.append_nil]
    exact hun
  · intro e he
    show e.2 + 2 ≤ l.flushes + 1
    rcases List.mem_append.mp he with he | he
    · have := hold e he
      omega
    · have := hbefore e he
      omega
  · intro e he
    show e.2 + 1 = l.flushes + 1
    rw [hnow e he]
  · simp
  · -- the calls of this flush are those for the older list
    show l.closed ++ (flushCalls l.base).map (·, l.flushes + 1) = _
    rw [hclosed, h.flushCalls_eq, ← hb, List.map_append, List.map_map]
    congr 1
    refine List.map_congr_left fun e he => ?_
    have := hbefore e he
    simp only [Function.comp_apply, Prod.mk.injEq, true_and]
    omega
  · simp only [ledgerStep, hprevious, hcur, hn]
  · simp only [ledgerStep, hcycle, hprev, List.map_nil]
  · rw [held_flush]
    refine h.nodup.sublist ?_
    exact (List.sublist_append_right _ _).append_left _
  · exact fun fd hfd => h.payload fd (h.mem_held_flush hfd).1
  · intro fd hfd
    obtain ⟨hheld, hspared⟩ := h.mem_held_flush hfd
    show fd ∈ (flushList true l.base l.kernel (l.base.deferredUnregs l.base.previous)).files
    rw [flushList_eq, mem_files_closeAll]
    exact ⟨h.opened fd hheld, hspared⟩

/-- Every legal step keeps the invariant. -/
lemma Inv.step {l : Ledger} (h : Inv l) (a : Action) (ha : Legal l a) : Inv (ledgerStep l a) := by
  cases a with
  | register name fd events refused => exact h.register name ha.1 ha.2 events refused
  | unregister fd => exact h.unregister ha
  | flush => exact h.flush
  | others kernel => exact ⟨h.parts, h.nodup, h.payload, ha⟩

/-- **Deferred unregistration closes once and late.** In every run in which descriptors that are
newly opened are registered, registrations are unregistered at most once, and the deferred list is
flushed, while the rest of the program opens and closes files of its own: at every time, the calls
of `on_unregister` made so far are exactly those for the unregistrations that at least two flushes
have followed, one for each, made by the second of these flushes; and no flush makes a call for a
descriptor that is registered.

**Proof sketch.** The unregistrations since the last flush are those of the current list, and the
ones from between the last two flushes are those of the other list. A descriptor of either list is
open, so that its number is not handed out again before it is closed. -/
theorem closedLate_of_legal (kernel : Kernel) (type : String) (as : List Action)
    (has : Run.EachStep ledgerStep Legal (start kernel type) as) :
    Run.Always ledgerStep ClosedLate (start kernel type) as ∧
      Run.EachStep ledgerStep SparesLive (start kernel type) as := by
  have hstart : Inv (start kernel type) :=
    ⟨⟨[], [], [], rfl, by simp, by simp, by simp, rfl, rfl, rfl⟩, by simp [Ledger.held, start],
      by simp [Ledger.held, start], by simp [Ledger.held, start]⟩
  exact ⟨(Run.always_of_step (fun _ a h ha => h.step a ha) hstart has).mono
      fun _ h => h.closedLate,
    Run.eachStep_of_step (fun _ a h ha => h.step a ha) (fun _ a h _ => h.sparesLive a) hstart has⟩

/-- Descriptor 3 is registered, unregistered, closed by the second flush, and registered again. -/
theorem closedLate_of_legal_reopened :
    let as := [.register "/dev/hidraw0" 3 1 false, .unregister 3, .flush, .flush,
      .register "/dev/hidraw1" 3 1 false]
    Run.EachStep ledgerStep Legal (start Epoll.Kernel.empty "hidraw") as ∧
      Run.Always ledgerStep ClosedLate (start Epoll.Kernel.empty "hidraw") as ∧
      Run.EachStep ledgerStep SparesLive (start Epoll.Kernel.empty "hidraw") as := by
  have h : Run.EachStep ledgerStep Legal (start Epoll.Kernel.empty "hidraw")
      [.register "/dev/hidraw0" 3 1 false, .unregister 3, .flush, .flush,
        .register "/dev/hidraw1" 3 1 false] := by
    refine ⟨⟨by decide, by decide⟩, ?_, trivial, trivial, ⟨by decide, by decide⟩, trivial⟩
    show (3 : ℤ) ∈ _
    decide
  exact ⟨h, closedLate_of_legal _ _ _ h⟩

end Aelkey.Deferred
