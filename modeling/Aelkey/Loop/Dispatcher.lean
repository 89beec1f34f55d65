import Aelkey.Lib.Epoll
import Aelkey.Lib.Run

set_option relaxedAutoImplicit false
set_option autoImplicit false

/-!
# The dispatcher base: descriptors, payloads and deferred closing

`DispatcherBase` (`source/dispatcher.cc`) keeps one payload per descriptor in `pollfds_` and gives
the kernel a pointer to it. `loop_start` (`source/aelkey_loop.cc`) follows the pointer of every
reported event and skips the payload if it is marked dead. This file has these functions as the
source computes them, and the libusb guard around them (`source/dispatcher_libusb.h`).

## Main definitions

* `Aelkey.DispatcherBase` — `pollfds_`, `cycle_` and `deferred_unregs_`.
* `Aelkey.registerFd`, `Aelkey.unregisterFd`, `Aelkey.flushDeferred` — the three operations.
* `Aelkey.onAddFd`, `Aelkey.onRemoveFd` — the libusb callbacks.
* `Aelkey.loopDispatch` — the payload `loop_start` hands to `handle_event` for one event.

## Design

A node of the C++ map is a payload together with an address: `emplace` on a present key keeps the
node, `erase` frees it, and a pointer in the kernel to a freed node finds nothing. Only hidraw and
the tick scheduler override `on_unregister`, both with `close(fd)`; the flag `closes` says which
kind of dispatcher is meant.
-/

namespace Aelkey

/-- `EpollPayload`; the dispatcher is named by its `type()`. -/
structure EpollPayload where
  dispatcher : String
  fd : ℤ
  dead : Bool
deriving DecidableEq

/-- A node of `pollfds_`: its address and the payload stored in it. -/
structure PollNode where
  addr : ℕ
  payload : EpollPayload
deriving DecidableEq

/-- The pointer the kernel keeps for a descriptor: the address of the node under that key. -/
structure PayloadPtr where
  fd : ℤ
  addr : ℕ
deriving DecidableEq

/-- `struct epoll_event`: the event mask and the user data. -/
structure EpollEvent where
  events : ℕ
  data : PayloadPtr
deriving DecidableEq

/-- The kernel as the dispatchers see it: files are named by their path. -/
abbrev Kernel := Epoll.Kernel String EpollEvent

/-- The deferred list that is current at first. -/
def firstCycle : Fin 2 := 0

/-- `DispatcherBase`. `nextAddr` is where the next map node will be allocated. -/
structure DispatcherBase where
  type : String
  pollfds : Table ℤ PollNode := ∅
  cycle : Fin 2 := firstCycle
  deferredUnregs : Fin 2 → List ℤ := fun _ => []
  nextAddr : ℕ := 0

namespace DispatcherBase

/-- `(cycle_ + 1) % 2`: the deferred list that is not current. -/
def previous (d : DispatcherBase) : Fin 2 := d.cycle + 1

/-- `get_payload`. -/
def getPayload (d : DispatcherBase) (fd : ℤ) : Option EpollPayload :=
  (d.pollfds.lookup fd).map PollNode.payload

/-- The payload behind a pointer, if the node is still allocated. -/
def deref (d : DispatcherBase) (p : PayloadPtr) : Option EpollPayload :=
  match d.pollfds.lookup p.fd with
  | some n => if n.addr = p.addr then some n.payload else none
  | none => none

/-- The node `pollfds_.emplace(fd, payload)` returns: the present one, or a new one holding the
payload. -/
def emplaced (d : DispatcherBase) (fd : ℤ) : PollNode :=
  (d.pollfds.lookup fd).getD ⟨d.nextAddr, ⟨d.type, fd, false⟩⟩

/-- `pollfds_.emplace(fd, payload)`: a present key keeps its node and its payload. -/
def emplace (d : DispatcherBase) (fd : ℤ) : DispatcherBase :=
  { d with pollfds := d.pollfds.insert fd (d.emplaced fd), nextAddr := d.nextAddr + 1 }

/-- Mark the payload of `fd` dead and note `fd` in the current deferred list. -/
def retire (d : DispatcherBase) (fd : ℤ) : DispatcherBase :=
  match d.pollfds.lookup fd with
  | some n =>
    { d with
      pollfds := d.pollfds.insert fd { n with payload := { n.payload with dead := true } }
      deferredUnregs :=
        Function.update d.deferredUnregs d.cycle (d.deferredUnregs d.cycle ++ [fd]) }
  | none => d

end DispatcherBase

open DispatcherBase

/-- `register_fd`: emplace a payload, add the descriptor, and erase the payload if that fails. -/
def registerFd (k : Kernel) (d : DispatcherBase) (fd : ℤ) (events : ℕ) (refused : Bool) :
    Kernel × DispatcherBase :=
  match k.ctlAdd fd ⟨events, ⟨fd, (d.emplaced fd).addr⟩⟩ refused with
  | some k' => (k', d.emplace fd)
  | none => (k, { d.emplace fd with pollfds := (d.emplace fd).pollfds.erase fd })

/-- `unregister_fd`: remove the descriptor from the interest set and mark its payload dead. -/
def unregisterFd (k : Kernel) (d : DispatcherBase) (fd : ℤ) : Kernel × DispatcherBase :=
  (k.ctlDel fd, d.retire fd)

/-- `on_unregister`: nothing in the base class, `close(fd)` in the overriding ones. -/
def onUnregister (closes : Bool) (k : Kernel) (fd : ℤ) : Kernel :=
  if closes then k.close fd else k

/-- The loop of `flush_deferred` over one deferred list. -/
def flushList (closes : Bool) (d : DispatcherBase) (k : Kernel) (fds : List ℤ) : Kernel :=
  fds.foldl (fun k fd => if fd ∈ d.pollfds then onUnregister closes k fd else k) k

/-- `flush_deferred`: run `on_unregister` for the older list, clear it and make it current. The
payloads stay in `pollfds_`. -/
def flushDeferred (closes : Bool) (k : Kernel) (d : DispatcherBase) : Kernel × DispatcherBase :=
  (flushList closes d k (d.deferredUnregs d.previous),
    { d with
      deferredUnregs := Function.update d.deferredUnregs d.previous []
      cycle := d.previous })

/-- The event mask `on_add_fd` derives from the poll flags (`POLLIN` is 1, `POLLOUT` is 4, and the
epoll flags have the same values). -/
def pollMask (events : ℕ) : ℕ :=
  (if events &&& 1 ≠ 0 then 1 else 0) ||| (if events &&& 4 ≠ 0 then 4 else 0)

/-- `DispatcherLibUSB::on_add_fd`: a descriptor that has a payload, even a dead one, is skipped. -/
def onAddFd (k : Kernel) (d : DispatcherBase) (fd : ℤ) (events : ℕ) (refused : Bool) :
    Kernel × DispatcherBase :=
  if (d.getPayload fd).isSome then (k, d) else registerFd k d fd (pollMask events) refused

/-- `DispatcherLibUSB::on_remove_fd`. -/
def onRemoveFd (k : Kernel) (d : DispatcherBase) (fd : ℤ) : Kernel × DispatcherBase :=
  if (d.getPayload fd).isSome then unregisterFd k d fd else (k, d)

/-- What `loop_start` does with an event reported for `fd`: follow the pointer given at
registration, and hand the payload to `handle_event` unless it is dead. -/
def loopDispatch (k : Kernel) (d : DispatcherBase) (fd : ℤ) : Option EpollPayload :=
  match k.interest.lookup fd with
  | some ev =>
    match d.deref ev.data with
    | some p => if p.dead then none else some p
    | none => none
  | none => none

/-! ## Lookups -/

namespace DispatcherBase

/-- The payload of a descriptor that has none after `emplace`: the new one. -/
lemma emplaced_of_none {d : DispatcherBase} {fd : ℤ} (h : d.pollfds.lookup fd = none) :
    d.emplaced fd = ⟨d.nextAddr, ⟨d.type, fd, false⟩⟩ := by
  simp [emplaced, h]

/-- The payload of a descriptor that has one after `emplace`: the one it had. -/
lemma emplaced_of_some {d : DispatcherBase} {fd : ℤ} {n : PollNode}
    (h : d.pollfds.lookup fd = some n) : d.emplaced fd = n := by
  simp [emplaced, h]

/-- A pointer to an allocated payload. -/
lemma deref_isSome {d : DispatcherBase} {p : PayloadPtr} :
    (d.deref p).isSome ↔ ∃ n, d.pollfds.lookup p.fd = some n ∧ n.addr = p.addr := by
  unfold deref
  split
  · next n hn =>
    split_ifs with ha
    · simp [hn, ha]
    · simp [hn, ha]
  · next hn => simp [hn]

/-- Retiring a descriptor marks its own payload dead and touches no other. -/
lemma lookup_retire (d : DispatcherBase) (fd x : ℤ) :
    (d.retire fd).pollfds.lookup x =
      if x = fd then
        (d.pollfds.lookup fd).map fun n => { n with payload := { n.payload with dead := true } }
      else d.pollfds.lookup x := by
  unfold retire
  split
  · next n hn =>
    dsimp only
    rw [Table.lookup_insert]
    split_ifs with hx
    · rw [hn]; rfl
    · rfl
  · next hn =>
    split_ifs with hx
    · rw [hx, hn]; rfl
    · rfl

end DispatcherBase

/-- The two outcomes of `register_fd`. Accepted, the descriptor is in the interest set under the
node that `emplace` returned; refused, the node of the descriptor is gone. -/
lemma registerFd_cases (k : Kernel) (d : DispatcherBase) (fd : ℤ) (events : ℕ) (refused : Bool) :
    (fd ∈ k.files ∧ fd ∉ k.interest ∧ refused = false) ∧
        (registerFd k d fd events refused).1.files = k.files ∧
        (registerFd k d fd events refused).1.interest =
          k.interest.insert fd ⟨events, ⟨fd, (d.emplaced fd).addr⟩⟩ ∧
        (registerFd k d fd events refused).2 = d.emplace fd ∨
      (fd ∉ k.files ∨ fd ∈ k.interest ∨ refused = true) ∧
        (registerFd k d fd events refused).1 = k ∧
        (registerFd k d fd events refused).2 =
          { d.emplace fd with pollfds := (d.emplace fd).pollfds.erase fd } := by
  unfold registerFd
  split
  · next k' hk =>
    obtain ⟨hc, hf, hi⟩ := Epoll.Kernel.ctlAdd_some hk
    exact .inl ⟨hc, hf, hi, rfl⟩
  · next hk => exact .inr ⟨Epoll.Kernel.ctlAdd_none.mp hk, rfl, rfl⟩

/-- Flushing opens nothing and adds nothing to the interest set: a descriptor is in the set
afterwards iff it was and its number was not closed by the flush. -/
lemma mem_interest_flushList (closes : Bool) (d : DispatcherBase) (fds : List ℤ) (k : Kernel)
    (x : ℤ) (v : EpollEvent) :
    (flushList closes d k fds).interest.lookup x = some v ↔
      k.interest.lookup x = some v ∧ ¬ (closes = true ∧ x ∈ fds ∧ x ∈ d.pollfds) := by
  induction fds generalizing k with
  | nil => simp [flushList]
  | cons fd fds ih =>
    have hcons : flushList closes d k (fd :: fds) =
        flushList closes d (if fd ∈ d.pollfds then onUnregister closes k fd else k) fds := rfl
    rw [hcons, ih]
    by_cases hfd : fd ∈ d.pollfds
    · cases closes with
      | false => simp [hfd, onUnregister]
      | true =>
        rw [if_pos hfd]
        simp only [onUnregister, ↓reduceIte, Epoll.Kernel.close_interest, Table.lookup_erase,
          true_and, List.mem_cons]
        by_cases hx : x = fd
        · subst hx; simp [hfd]
        · simp [hx]
    · rw [if_neg hfd]
      by_cases hx : x = fd
      · subst hx; simp [hfd]
      · simp [hx]

end Aelkey
