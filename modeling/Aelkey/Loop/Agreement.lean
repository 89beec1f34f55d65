import Aelkey.Loop.Dispatcher

set_option relaxedAutoImplicit false
set_option autoImplicit false

/-!
# Agreement of `pollfds_` with the interest set

A dispatcher that watches a descriptor should hold a live payload for it, and the other way round.
The runs here interleave the dispatcher's operations with `open` and `close` in any order. The
table and the interest set do not agree along every run: `emplace` does not replace a dead payload
that is still in the map, so a descriptor number that comes back is added to the interest set
under a payload that `loop_start` skips. The result is the exact condition.

## Main definitions

* `Aelkey.Watch`, `Aelkey.Watch.step` — the kernel and one dispatcher, and the operations on them.
* `Aelkey.Watch.Agrees` — interest set and live payloads are the same descriptors.
* `Aelkey.Watch.Sound` — what a step should achieve: agreement, delivery of every event, and a
  live payload for every accepted registration.
* `Aelkey.Watch.Rearmable` — the condition on the state before a step under which it does.

## Main results

* `Aelkey.Watch.sound_iff_rearmable` — a run is sound iff all its steps are rearmable.
-/

namespace Aelkey

/-- The kernel together with one dispatcher. -/
structure Watch where
  kernel : Kernel
  disp : DispatcherBase

namespace Watch

open DispatcherBase

/-- The operations on a dispatcher and its descriptors. `fd` in `openFile` is the number the
kernel picks; `refused` is the kernel's answer to an addition that its rules would allow. -/
inductive Op
  | openFile (name : String) (fd : ℤ)
  | closeFd (fd : ℤ)
  | registerFd (fd : ℤ) (events : ℕ) (refused : Bool)
  | unregisterFd (fd : ℤ)
  | flushDeferred
  | onAddFd (fd : ℤ) (events : ℕ) (refused : Bool)
  | onRemoveFd (fd : ℤ)

/-- A pair of kernel and dispatcher as a state. -/
def ofPair (p : Kernel × DispatcherBase) : Watch := ⟨p.1, p.2⟩

/-- One operation, for a dispatcher whose `on_unregister` closes descriptors or not. -/
def step (closes : Bool) (s : Watch) : Op → Watch
  | .openFile name fd => { s with kernel := (s.kernel.openFile name fd).1 }
  | .closeFd fd => { s with kernel := s.kernel.close fd }
  | .registerFd fd events refused => ofPair (Aelkey.registerFd s.kernel s.disp fd events refused)
  | .unregisterFd fd => ofPair (Aelkey.unregisterFd s.kernel s.disp fd)
  | .flushDeferred => ofPair (Aelkey.flushDeferred closes s.kernel s.disp)
  | .onAddFd fd events refused => ofPair (Aelkey.onAddFd s.kernel s.disp fd events refused)
  | .onRemoveFd fd => ofPair (Aelkey.onRemoveFd s.kernel s.disp fd)

/-- Nothing is open and the dispatcher holds no payload. -/
def init (type : String) : Watch := ⟨Epoll.Kernel.empty, { type := type }⟩

/-- The dispatcher holds a payload for `fd` that is not dead. -/
def Live (s : Watch) (fd : ℤ) : Prop :=
  ∃ p, s.disp.getPayload fd = some p ∧ p.dead = false

/-- A descriptor is in the interest set iff the dispatcher holds a live payload for it. -/
def Agrees (s : Watch) : Prop :=
  ∀ fd, fd ∈ s.kernel.interest ↔ s.Live fd

/-- Every event of a watched descriptor reaches `handle_event` with the payload of that
descriptor. -/
def Delivers (s : Watch) : Prop :=
  ∀ fd ∈ s.kernel.interest, loopDispatch s.kernel s.disp fd = some ⟨s.disp.type, fd, false⟩

/-- The descriptor a step asks the kernel to watch, if the kernel's rules allow it and the kernel
does not refuse. -/
def accepted (s : Watch) : Op → Option ℤ
  | .registerFd fd _ refused | .onAddFd fd _ refused =>
    if fd ∈ s.kernel.files ∧ refused = false then some fd else none
  | _ => none

/-- What a step should achieve: the table agrees with the interest set, every event is delivered,
and a descriptor whose registration the kernel accepts is watched under a live payload. -/
structure Sound (closes : Bool) (s : Watch) (op : Op) : Prop where
  agrees : (step closes s op).Agrees
  delivers : (step closes s op).Delivers
  rearms : ∀ fd, s.accepted op = some fd → (step closes s op).Live fd

/-- The condition under which a step is sound, on the state before it. A registration is for a
descriptor without payload, or for one with a dead payload if it fails anyway; for the libusb
callback a live payload is fine as well. A descriptor is closed, directly or by a flush, only when
its payload is not live. -/
def Rearmable (closes : Bool) (s : Watch) : Op → Prop
  | .registerFd fd _ refused =>
    s.disp.getPayload fd = none ∨ ¬ s.Live fd ∧ (fd ∉ s.kernel.files ∨ refused = true)
  | .onAddFd fd _ refused =>
    s.disp.getPayload fd = none ∨ s.Live fd ∨ fd ∉ s.kernel.files ∨ refused = true
  | .closeFd fd => ¬ s.Live fd
  | .flushDeferred =>
    closes = true → ∀ fd ∈ s.disp.deferredUnregs s.disp.previous, ¬ s.Live fd
  | .openFile _ _ | .unregisterFd _ | .onRemoveFd _ => True

/-- The pointers in the kernel point at the nodes of `pollfds_`, which name their own descriptor
and this dispatcher. -/
structure Linked (s : Watch) : Prop where
  data : ∀ fd ev n, s.kernel.interest.lookup fd = some ev → s.disp.pollfds.lookup fd = some n →
    ev.data = ⟨fd, n.addr⟩
  self : ∀ fd n, s.disp.pollfds.lookup fd = some n →
    n.payload.fd = fd ∧ n.payload.dispatcher = s.disp.type

/-! ## Live payloads after the operations -/

/-- A live payload is a live node. -/
lemma live_iff {s : Watch} {fd : ℤ} :
    s.Live fd ↔ ∃ n, s.disp.pollfds.lookup fd = some n ∧ n.payload.dead = false := by
  simp [Live, getPayload]

/-- The dispatcher holds no payload iff it has no node. -/
lemma getPayload_eq_none {d : DispatcherBase} {fd : ℤ} :
    d.getPayload fd = none ↔ d.pollfds.lookup fd = none := by
  simp [getPayload]

/-- With agreement and valid pointers every event is delivered. -/
lemma Linked.delivers {s : Watch} (hl : s.Linked) (ha : s.Agrees) : s.Delivers := by
  intro fd hfd
  obtain ⟨ev, hev⟩ := Table.mem_iff_lookup.mp hfd
  obtain ⟨n, hn, hdead⟩ := live_iff.mp ((ha fd).mp hfd)
  obtain ⟨hself, htype⟩ := hl.self fd n hn
  have hd : s.disp.deref ev.data = some n.payload := by
    rw [hl.data fd ev n hev hn]
    simp [deref, hn]
  obtain ⟨addr, ⟨dispatcher, fd', dead⟩⟩ := n
  simp only at hself htype hdead
  subst hself htype hdead
  simp [loopDispatch, hev, hd]

/-- After retiring a descriptor, exactly the other live payloads are live. -/
lemma live_unregisterFd (s : Watch) (fd x : ℤ) :
    (ofPair (Aelkey.unregisterFd s.kernel s.disp fd)).Live x ↔ x ≠ fd ∧ s.Live x := by
  rw [live_iff, live_iff]
  simp only [ofPair, Aelkey.unregisterFd, lookup_retire]
  by_cases hx : x = fd
  · subst hx; cases s.disp.pollfds.lookup x <;> simp
  · simp [hx]

/-- `unregister_fd` keeps agreement and pointers. -/
lemma unregisterFd_keeps {s : Watch} (ha : s.Agrees) (hl : s.Linked) (fd : ℤ) :
    (ofPair (Aelkey.unregisterFd s.kernel s.disp fd)).Agrees ∧
      (ofPair (Aelkey.unregisterFd s.kernel s.disp fd)).Linked := by
  refine ⟨fun x => ?_, ?_, ?_⟩
  · rw [live_unregisterFd, ← ha x]
    exact AList.mem_erase
  · intro x ev n hev hn
    simp only [ofPair, Aelkey.unregisterFd, Epoll.Kernel.ctlDel_interest, Table.lookup_erase,
      lookup_retire] at hev hn
    by_cases hx : x = fd
    · simp [hx] at hev
    · rw [if_neg hx] at hev hn
      exact hl.data x ev n hev hn
  · intro x n hn
    have htype : (s.disp.retire fd).type = s.disp.type := by
      unfold retire; split <;> rfl
    simp only [ofPair, Aelkey.unregisterFd, lookup_retire] at hn ⊢
    rw [htype]
    by_cases hx : x = fd
    · rw [if_pos hx] at hn
      obtain ⟨m, hm, rfl⟩ := Option.map_eq_some_iff.mp hn
      rw [hx]
      exact hl.self fd m hm
    · rw [if_neg hx] at hn
      exact hl.self x n hn

/-- `emplace` on a key without node adds a live payload and keeps all others. -/
lemma emplace_lookup {d : DispatcherBase} {fd : ℤ} (x : ℤ) :
    (d.emplace fd).pollfds.lookup x = if x = fd then some (d.emplaced fd) else
      d.pollfds.lookup x := Table.lookup_insert _ _ _ _

/-- `register_fd` accepted for a descriptor without payload: agreement and pointers are kept, and
the descriptor is live. -/
lemma registerFd_accepted {s : Watch} (ha : s.Agrees) (hl : s.Linked) {fd : ℤ}
    (hfd : s.disp.pollfds.lookup fd = none) {events : ℕ} {refused : Bool}
    (hint : (Aelkey.registerFd s.kernel s.disp fd events refused).1.interest =
      s.kernel.interest.insert fd ⟨events, ⟨fd, (s.disp.emplaced fd).addr⟩⟩)
    (hd : (Aelkey.registerFd s.kernel s.disp fd events refused).2 = s.disp.emplace fd) :
    (ofPair (Aelkey.registerFd s.kernel s.disp fd events refused)).Agrees ∧
      (ofPair (Aelkey.registerFd s.kernel s.disp fd events refused)).Linked ∧
      (ofPair (Aelkey.registerFd s.kernel s.disp fd events refused)).Live fd := by
  have hlive : ∀ x, (ofPair (Aelkey.registerFd s.kernel s.disp fd events refused)).Live x ↔
      x = fd ∨ s.Live x := by
    intro x
    rw [live_iff, live_iff]
    simp only [ofPair, hd, emplace_lookup, emplaced_of_none hfd]
    by_cases hx : x = fd
    · simp [hx]
    · simp [hx]
  refine ⟨fun x => ?_, ⟨?_, ?_⟩, (hlive fd).mpr (.inl rfl)⟩
  · rw [hlive, ← ha x]
    simp only [ofPair, hint]
    exact AList.mem_insert _
  · intro x ev n hev hn
    simp only [ofPair, hint, hd, Table.lookup_insert, emplace_lookup] at hev hn
    by_cases hx : x = fd
    · rw [if_pos hx] at hev hn
      obtain rfl := Option.some.inj hev
      obtain rfl := Option.some.inj hn
      rw [hx]
    · rw [if_neg hx] at hev hn
      exact hl.data x ev n hev hn
  · intro x n hn
    simp only [ofPair, hd, emplace_lookup, emplaced_of_none hfd] at hn ⊢
    by_cases hx : x = fd
    · rw [if_pos hx] at hn
      obtain rfl := Option.some.inj hn
      exact ⟨hx.symm, rfl⟩
    · rw [if_neg hx] at hn
      exact hl.self x n hn

/-- The nodes after a `register_fd` that the kernel turned down: the one of the descriptor is
gone. -/
lemma lookup_registerFd_refused {s : Watch} {fd : ℤ} {events : ℕ} {refused : Bool}
    (hd : (Aelkey.registerFd s.kernel s.disp fd events refused).2 =
      { s.disp.emplace fd with pollfds := (s.disp.emplace fd).pollfds.erase fd }) (x : ℤ) :
    (Aelkey.registerFd s.kernel s.disp fd events refused).2.pollfds.lookup x =
      if x = fd then none else s.disp.pollfds.lookup x := by
  rw [hd]
  simp only [Table.lookup_erase, emplace_lookup]
  by_cases hx : x = fd
  · rw [if_pos hx, if_pos hx]
  · rw [if_neg hx, if_neg hx, if_neg hx]

/-- `register_fd` turned down for a descriptor that is not live: agreement and pointers are
kept. -/
lemma registerFd_refused {s : Watch} (ha : s.Agrees) (hl : s.Linked) {fd : ℤ}
    (hfd : ¬ s.Live fd) {events : ℕ} {refused : Bool}
    (hk : (Aelkey.registerFd s.kernel s.disp fd events refused).1 = s.kernel)
    (hd : (Aelkey.registerFd s.kernel s.disp fd events refused).2 =
      { s.disp.emplace fd with pollfds := (s.disp.emplace fd).pollfds.erase fd }) :
    (ofPair (Aelkey.registerFd s.kernel s.disp fd events refused)).Agrees ∧
      (ofPair (Aelkey.registerFd s.kernel s.disp fd events refused)).Linked := by
  have hlook := lookup_registerFd_refused hd
  have htype : (Aelkey.registerFd s.kernel s.disp fd events refused).2.type = s.disp.type := by
    rw [hd]; rfl
  refine ⟨fun x => ?_, ⟨fun x ev n hev hn => ?_, fun x n hn => ?_⟩⟩
  · simp only [live_iff, ofPair, hk, hlook]
    by_cases hx : x = fd
    · subst hx
      simpa [ha x] using hfd
    · simp only [if_neg hx]
      exact (ha x).trans live_iff
  · simp only [ofPair, hk, hlook] at hev hn
    by_cases hx : x = fd
    · simp [hx] at hn
    · rw [if_neg hx] at hn
      exact hl.data x ev n hev hn
  · simp only [ofPair, hlook, htype] at hn ⊢
    by_cases hx : x = fd
    · simp [hx] at hn
    · rw [if_neg hx] at hn
      exact hl.self x n hn

/-- What a registration that meets the condition of `register_fd` achieves. -/
lemma registerFd_keeps {s : Watch} (ha : s.Agrees) (hl : s.Linked) (fd : ℤ) (events : ℕ)
    (refused : Bool) (hC : s.disp.getPayload fd = none ∨
      ¬ s.Live fd ∧ (fd ∉ s.kernel.files ∨ refused = true)) :
    (ofPair (Aelkey.registerFd s.kernel s.disp fd events refused)).Agrees ∧
      (ofPair (Aelkey.registerFd s.kernel s.disp fd events refused)).Linked ∧
      (fd ∈ s.kernel.files ∧ refused = false →
        (ofPair (Aelkey.registerFd s.kernel s.disp fd events refused)).Live fd) := by
  have hdead : ¬ s.Live fd := by
    rcases hC with h | h
    · rintro ⟨p, hp, -⟩
      simp [h] at hp
    · exact h.1
  rcases registerFd_cases s.kernel s.disp fd events refused with
    ⟨hyes, -, hint, hd⟩ | ⟨hno, hk, hd⟩
  · have hnone : s.disp.pollfds.lookup fd = none := by
      rcases hC with h | ⟨-, h | h⟩
      · exact getPayload_eq_none.mp h
      · exact absurd hyes.1 h
      · simp [hyes.2.2] at h
    obtain ⟨h1, h2, h3⟩ := registerFd_accepted ha hl hnone hint hd
    exact ⟨h1, h2, fun _ => h3⟩
  · obtain ⟨h1, h2⟩ := registerFd_refused ha hl hdead hk hd
    refine ⟨h1, h2, ?_⟩
    intro ⟨hopen, href⟩
    rcases hno with h | h | h
    · exact absurd hopen h
    · exact absurd ((ha fd).mp h) hdead
    · simp [href] at h

/-! ## The step lemma -/

/-- A step that only shrinks the interest set by descriptors that are not live keeps agreement and
pointers, if it keeps the nodes. -/
lemma keeps_of_same_nodes {s t : Watch} (ha : s.Agrees) (hl : s.Linked)
    (hnodes : t.disp.pollfds = s.disp.pollfds) (htype : t.disp.type = s.disp.type)
    (hsub : ∀ x v, t.kernel.interest.lookup x = some v → s.kernel.interest.lookup x = some v)
    (hkeep : ∀ x v, s.Live x → s.kernel.interest.lookup x = some v →
      t.kernel.interest.lookup x = some v) : t.Agrees ∧ t.Linked := by
  have hlive : ∀ x, t.Live x ↔ s.Live x := fun x => by rw [live_iff, live_iff, hnodes]
  refine ⟨fun x => ?_, ⟨fun x ev n hev hn => ?_, fun x n hn => ?_⟩⟩
  · rw [hlive]
    constructor
    · intro hx
      obtain ⟨v, hv⟩ := Table.mem_iff_lookup.mp hx
      exact (ha x).mp (Table.mem_of_lookup (hsub x v hv))
    · intro hx
      obtain ⟨v, hv⟩ := Table.mem_iff_lookup.mp ((ha x).mpr hx)
      exact Table.mem_of_lookup (hkeep x v hx hv)
  · rw [hnodes] at hn
    exact hl.data x ev n (hsub x ev hev) hn
  · rw [hnodes] at hn
    rw [htype]
    exact hl.self x n hn

/-- Opening a file keeps agreement and pointers. -/
lemma openFile_keeps {closes : Bool} {s : Watch} (ha : s.Agrees) (hl : s.Linked)
    (name : String) (fd : ℤ) :
    (step closes s (.openFile name fd)).Agrees ∧ (step closes s (.openFile name fd)).Linked := by
  refine keeps_of_same_nodes ha hl rfl rfl ?_ ?_
  · intro x v hv
    simpa [step] using hv
  · intro x v _ hv
    simpa [step] using hv

/-- Closing a descriptor that is not live keeps agreement and pointers. -/
lemma closeFd_keeps {closes : Bool} {s : Watch} (ha : s.Agrees) (hl : s.Linked) {fd : ℤ}
    (hfd : ¬ s.Live fd) :
    (step closes s (.closeFd fd)).Agrees ∧ (step closes s (.closeFd fd)).Linked := by
  refine keeps_of_same_nodes ha hl rfl rfl ?_ ?_
  · intro x v hv
    simp only [step, Epoll.Kernel.close_interest, Table.lookup_erase] at hv
    split_ifs at hv
    exact hv
  · intro x v hx hv
    have hne : x ≠ fd := fun h => hfd (h ▸ hx)
    simpa [step, Table.lookup_erase, hne] using hv

/-- A flush that closes no live descriptor keeps agreement and pointers. -/
lemma flushDeferred_keeps {closes : Bool} {s : Watch} (ha : s.Agrees) (hl : s.Linked)
    (hflush : closes = true → ∀ fd ∈ s.disp.deferredUnregs s.disp.previous, ¬ s.Live fd) :
    (step closes s .flushDeferred).Agrees ∧ (step closes s .flushDeferred).Linked := by
  refine keeps_of_same_nodes ha hl rfl rfl ?_ ?_
  · intro x v hv
    exact ((mem_interest_flushList _ _ _ _ _ _).mp hv).1
  · intro x v hx hv
    refine (mem_interest_flushList _ _ _ _ _ _).mpr ⟨hv, ?_⟩
    intro ⟨hcl, hmem, _⟩
    exact hflush hcl x hmem hx

/-- What the libusb callback for a new descriptor achieves: it registers the descriptor, if it has
no payload. -/
lemma onAddFd_keeps {s : Watch} (ha : s.Agrees) (hl : s.Linked) (fd : ℤ) (events : ℕ)
    (refused : Bool) (hC : s.disp.getPayload fd = none ∨ s.Live fd ∨ fd ∉ s.kernel.files ∨
      refused = true) :
    (ofPair (Aelkey.onAddFd s.kernel s.disp fd events refused)).Agrees ∧
      (ofPair (Aelkey.onAddFd s.kernel s.disp fd events refused)).Linked ∧
      (fd ∈ s.kernel.files ∧ refused = false →
        (ofPair (Aelkey.onAddFd s.kernel s.disp fd events refused)).Live fd) := by
  cases hp : s.disp.getPayload fd with
  | none =>
    have hstep : Aelkey.onAddFd s.kernel s.disp fd events refused =
        Aelkey.registerFd s.kernel s.disp fd (pollMask events) refused := by
      simp [onAddFd, hp]
    rw [hstep]
    exact registerFd_keeps ha hl fd (pollMask events) refused (.inl hp)
  | some p =>
    have hstep : ofPair (Aelkey.onAddFd s.kernel s.disp fd events refused) = s := by
      simp [onAddFd, hp, ofPair]
    rw [hstep]
    refine ⟨ha, hl, ?_⟩
    intro ⟨hopen, href⟩
    obtain hnone | hlive | hclosed | href' := hC
    · simp [hp] at hnone
    · exact hlive
    · exact absurd hopen hclosed
    · simp [href] at href'

/-- The libusb callback for a closed descriptor keeps agreement and pointers. -/
lemma onRemoveFd_keeps {s : Watch} (ha : s.Agrees) (hl : s.Linked) (fd : ℤ) :
    (ofPair (Aelkey.onRemoveFd s.kernel s.disp fd)).Agrees ∧
      (ofPair (Aelkey.onRemoveFd s.kernel s.disp fd)).Linked := by
  unfold onRemoveFd
  split_ifs
  · exact unregisterFd_keeps ha hl fd
  · exact ⟨ha, hl⟩

/-- **A rearmable step keeps agreement and pointers**, and makes an accepted descriptor live.

**Proof sketch.** One case per operation. Opening changes neither side; closing and flushing only
take descriptors out of the interest set that have no live payload; the others are the lemmas
above. -/
lemma rearmable_keeps {closes : Bool} {s : Watch} (ha : s.Agrees) (hl : s.Linked) {op : Op}
    (hC : Rearmable closes s op) :
    (step closes s op).Agrees ∧ (step closes s op).Linked ∧
      ∀ fd, s.accepted op = some fd → (step closes s op).Live fd := by
  -- only registrations are accepted
  have hnever (hnone : s.accepted op = none)
      (h : (step closes s op).Agrees ∧ (step closes s op).Linked) :
      (step closes s op).Agrees ∧ (step closes s op).Linked ∧
        ∀ fd, s.accepted op = some fd → (step closes s op).Live fd := by
    refine ⟨h.1, h.2, ?_⟩
    intro fd hfd
    rw [hnone] at hfd
    cases hfd
  have hreg {fd' : ℤ} {refused : Bool}
      (h : fd' ∈ s.kernel.files ∧ refused = false → (step closes s op).Live fd') (fd : ℤ)
      (hfd : (if fd' ∈ s.kernel.files ∧ refused = false then some fd' else none) = some fd) :
      (step closes s op).Live fd := by
    split_ifs at hfd with hc
    obtain rfl := Option.some.inj hfd
    exact h hc
  cases op with
  | openFile name fd => exact hnever rfl (openFile_keeps ha hl name fd)
  | closeFd fd => exact hnever rfl (closeFd_keeps ha hl hC)
  | registerFd fd events refused =>
    obtain ⟨hagrees, hlinked, hlive⟩ := registerFd_keeps ha hl fd events refused hC
    exact ⟨hagrees, hlinked, hreg hlive⟩
  | unregisterFd fd => exact hnever rfl (unregisterFd_keeps ha hl fd)
  | flushDeferred => exact hnever rfl (flushDeferred_keeps ha hl hC)
  | onAddFd fd events refused =>
    obtain ⟨hagrees, hlinked, hlive⟩ := onAddFd_keeps ha hl fd events refused hC
    exact ⟨hagrees, hlinked, hreg hlive⟩
  | onRemoveFd fd => exact hnever rfl (onRemoveFd_keeps ha hl fd)

/-- `register_fd` of a live descriptor, or of a descriptor with a dead payload that the kernel
accepts, breaks agreement. -/
lemma not_agrees_registerFd {closes : Bool} {s : Watch} (ha : s.Agrees) {fd : ℤ} {events : ℕ}
    {refused : Bool} (hC : ¬ Rearmable closes s (.registerFd fd events refused)) :
    ¬ (step closes s (.registerFd fd events refused)).Agrees := by
  simp only [Rearmable, not_or, not_and_or, not_not] at hC
  obtain ⟨hsome, hbad⟩ := hC
  intro hagree
  have hiff := hagree fd
  rw [live_iff] at hiff
  rcases registerFd_cases s.kernel s.disp fd events refused with
    ⟨⟨hopen, hnot, href⟩, -, hint, hd⟩ | ⟨hno, hk, hd⟩
  · -- added under the node that was there, whose payload is dead
    obtain ⟨n, hn⟩ := Option.ne_none_iff_exists'.mp (mt getPayload_eq_none.mpr hsome)
    have hdead : n.payload.dead = true := by
      by_contra hne
      exact hnot ((ha fd).mpr (live_iff.mpr ⟨n, hn, by simpa using hne⟩))
    simp only [step, ofPair, hint, hd, emplace_lookup, ↓reduceIte, emplaced_of_some hn,
      AList.mem_insert, true_or, true_iff] at hiff
    obtain ⟨m, hm, hm'⟩ := hiff
    obtain rfl := Option.some.inj hm
    simp [hdead] at hm'
  · -- turned down: the node is gone, and the descriptor was already watched
    have hlive : s.Live fd := by
      rcases hbad with h | ⟨hopen, href⟩
      · exact h
      · rcases hno with h | h | h
        · exact absurd hopen h
        · exact (ha fd).mp h
        · exact absurd h href
    simp only [step, ofPair, hk, lookup_registerFd_refused hd] at hiff
    obtain ⟨n, hn, -⟩ := hiff.mp ((ha fd).mpr hlive)
    simp at hn

/-- **A step is sound exactly when it is rearmable.**

**Proof sketch.** One direction is `rearmable_keeps`. For the other, closing a live descriptor,
directly or by a flush, leaves a live payload outside the interest set; registering is
`not_agrees_registerFd`; and the libusb guard leaves a dead payload dead. -/
lemma sound_iff {closes : Bool} {s : Watch} (ha : s.Agrees) (hl : s.Linked) (op : Op) :
    Sound closes s op ↔ Rearmable closes s op := by
  constructor
  · rintro ⟨hagree, -, hrearm⟩
    cases op with
    | openFile name fd => trivial
    | closeFd fd =>
      intro hlive
      have h := (hagree fd).mpr hlive
      simp [step] at h
    | registerFd fd events refused =>
      by_contra hC
      exact not_agrees_registerFd ha hC hagree
    | unregisterFd fd => trivial
    | flushDeferred =>
      intro hcl fd hmem hlive
      obtain ⟨v, hv⟩ := Table.mem_iff_lookup.mp ((hagree fd).mpr hlive)
      obtain ⟨n, hn, -⟩ := live_iff.mp hlive
      exact ((mem_interest_flushList _ _ _ _ _ _).mp hv).2 ⟨hcl, hmem, Table.mem_of_lookup hn⟩
    | onAddFd fd events refused =>
      by_contra hC
      simp only [Rearmable, not_or, not_not] at hC
      obtain ⟨hsome, hdead, hopen, href⟩ := hC
      have h := hrearm fd (by simp [accepted, hopen, href])
      obtain ⟨p, hp⟩ := Option.ne_none_iff_exists'.mp hsome
      simp only [step, onAddFd, hp, Option.isSome_some, ↓reduceIte] at h
      exact hdead h
    | onRemoveFd fd => trivial
  · intro hC
    obtain ⟨h1, h2, h3⟩ := rearmable_keeps ha hl hC
    exact ⟨h1, h2.delivers h1, h3⟩

/-! ## Runs -/

/-- At the start the table and the interest set are empty. -/
lemma init_keeps (type : String) : (init type).Agrees ∧ (init type).Linked := by
  refine ⟨fun fd => ?_, ⟨?_, ?_⟩⟩
  · rw [live_iff]
    simp [init, Epoll.Kernel.empty]
  · intro fd ev n hev
    simp [init, Epoll.Kernel.empty] at hev
  · intro fd n hn
    simp [init] at hn

/-- **When the dispatcher table agrees with epoll.** For every kind of dispatcher and every run of
its operations with `open` and `close` from the start, all steps are sound iff all of them are
rearmable.

**Proof sketch.** `sound_iff` at every step; a sound step is rearmable, so it keeps agreement and
pointers (`rearmable_keeps`) for the next one. -/
theorem sound_iff_rearmable (closes : Bool) (type : String) (ops : List Op) :
    Run.EachStep (step closes) (Sound closes) (init type) ops ↔
      Run.EachStep (step closes) (Rearmable closes) (init type) ops := by
  refine Run.eachStep_congr (I := fun s => s.Agrees ∧ s.Linked) ?_ ?_ (init_keeps type) ops
  · intro s op ⟨ha, hl⟩ hsound
    obtain ⟨h1, h2, -⟩ := rearmable_keeps ha hl ((sound_iff ha hl op).mp hsound)
    exact ⟨h1, h2⟩
  · intro s op ⟨ha, hl⟩
    exact sound_iff ha hl op

/-- A device on descriptor 5 is unplugged, and the number comes back for the next device. -/
def reusedFd : List Op :=
  [.openFile "/dev/input/event3" 5, .registerFd 5 1 false, .unregisterFd 5, .closeFd 5,
    .openFile "/dev/input/event4" 5, .registerFd 5 1 false]

/-- After `reusedFd` the kernel watches descriptor 5, but the payload it points at is still the
dead one of the first device, and `loop_start` drops every event of the second. -/
theorem not_sound_reusedFd :
    ¬ Run.EachStep (step false) (Sound false) (init "evdev") reusedFd ∧
      5 ∈ (reusedFd.foldl (step false) (init "evdev")).kernel.interest ∧
      loopDispatch (reusedFd.foldl (step false) (init "evdev")).kernel
        (reusedFd.foldl (step false) (init "evdev")).disp 5 = none := by
  refine ⟨?_, by decide, by decide⟩
  rintro ⟨-, -, -, -, -, ⟨hagree, -, -⟩, -⟩
  obtain ⟨n, hn, hdead⟩ := live_iff.mp ((hagree 5).mp (by decide))
  have hnode : n = ⟨0, ⟨"evdev", 5, true⟩⟩ := Option.some.inj (hn.symm.trans (by decide))
  simp [hnode] at hdead

end Watch

end Aelkey
