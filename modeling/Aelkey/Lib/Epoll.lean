import Aelkey.Lib.Table

set_option relaxedAutoImplicit false
set_option autoImplicit false

/-!
# Open files and an epoll interest set

The part of a Unix kernel an event loop depends on: which descriptors are open, and which of them
are in the interest set of one epoll instance, each with the user data given at registration. Only
descriptors that are open can be in the set, which is a field of the state. The open-file
description behind a descriptor has no duplicates, so closing the descriptor removes it from the
set.

What the kernel decides for itself is an argument: the number a new descriptor gets, and whether
an `EPOLL_CTL_ADD` that the rules allow is refused all the same (no memory, no watches left).

## Main definitions

* `Epoll.Kernel` — open files and interest set.
* `Epoll.Kernel.openFile`, `Epoll.Kernel.close` — `open(2)` and `close(2)`.
* `Epoll.Kernel.ctlAdd`, `Epoll.Kernel.ctlDel` — `EPOLL_CTL_ADD` and `EPOLL_CTL_DEL`.
-/

namespace Epoll

/-- The open files (descriptor to name) and the interest set (descriptor to user data). -/
structure Kernel (ν ρ : Type*) where
  files : Table ℤ ν
  interest : Table ℤ ρ
  interest_open : ∀ fd ∈ interest, fd ∈ files

namespace Kernel

variable {ν ρ : Type*}

/-- Nothing is open. -/
def empty : Kernel ν ρ := ⟨∅, ∅, fun _ h => absurd h (AList.notMem_empty _)⟩

/-- `open(2)` with the number `fd` the kernel picks. A number that is negative or in use is not
one the kernel can pick: the call then fails. The result is the descriptor or `-1`. -/
def openFile (k : Kernel ν ρ) (name : ν) (fd : ℤ) : Kernel ν ρ × ℤ :=
  if fd < 0 ∨ fd ∈ k.files then (k, -1)
  else
    ({ k with
        files := k.files.insert fd name
        interest_open := fun x h => (AList.mem_insert _).mpr (.inr (k.interest_open x h)) }, fd)

/-- `close(2)`: the descriptor leaves the open files and the interest set. -/
def close (k : Kernel ν ρ) (fd : ℤ) : Kernel ν ρ where
  files := k.files.erase fd
  interest := k.interest.erase fd
  interest_open x h := by
    obtain ⟨hne, hx⟩ := AList.mem_erase.mp h
    exact AList.mem_erase.mpr ⟨hne, k.interest_open x hx⟩

/-- `EPOLL_CTL_ADD`: fails for a descriptor that is not open or already in the set, and may be
refused otherwise. -/
def ctlAdd (k : Kernel ν ρ) (fd : ℤ) (data : ρ) (refused : Bool) : Option (Kernel ν ρ) :=
  if h : fd ∈ k.files ∧ fd ∉ k.interest ∧ refused = false then
    some
      { k with
        interest := k.interest.insert fd data
        interest_open := fun x hx => by
          rcases (AList.mem_insert _).mp hx with rfl | hx
          · exact h.1
          · exact k.interest_open x hx }
  else none

/-- `EPOLL_CTL_DEL`. Its result is ignored by every caller. -/
def ctlDel (k : Kernel ν ρ) (fd : ℤ) : Kernel ν ρ where
  files := k.files
  interest := k.interest.erase fd
  interest_open x h := k.interest_open x (AList.mem_erase.mp h).2

/-- An `open(2)` that fails changes nothing. -/
lemma openFile_of_neg {k : Kernel ν ρ} {name : ν} {fd : ℤ} (h : (k.openFile name fd).2 < 0) :
    (k.openFile name fd).1 = k := by
  unfold openFile at h ⊢
  split_ifs at h ⊢ with hc
  · rfl
  · exact absurd (.inl h) hc

/-- An `open(2)` that succeeds returns an unused number and makes it name the file. -/
lemma openFile_of_nonneg {k : Kernel ν ρ} {name : ν} {fd : ℤ}
    (h : ¬ (k.openFile name fd).2 < 0) :
    (k.openFile name fd).2 = fd ∧ 0 ≤ fd ∧ fd ∉ k.files ∧
      (k.openFile name fd).1.files = k.files.insert fd name := by
  unfold openFile at h ⊢
  split_ifs at h ⊢ with hc
  · exact absurd (by decide : (-1 : ℤ) < 0) h
  · obtain ⟨hfd, hnew⟩ := not_or.mp hc
    exact ⟨rfl, by omega, hnew, rfl⟩

/-- Opening a file leaves the interest set alone. -/
@[simp] lemma openFile_interest (k : Kernel ν ρ) (name : ν) (fd : ℤ) :
    (k.openFile name fd).1.interest = k.interest := by
  unfold openFile
  split_ifs <;> rfl

/-- The open files after a `close(2)`. -/
@[simp] lemma close_files (k : Kernel ν ρ) (fd : ℤ) : (k.close fd).files = k.files.erase fd := rfl

/-- The interest set after a `close(2)`. -/
@[simp] lemma close_interest (k : Kernel ν ρ) (fd : ℤ) :
    (k.close fd).interest = k.interest.erase fd := rfl

/-- The open files after an `EPOLL_CTL_DEL`. -/
@[simp] lemma ctlDel_files (k : Kernel ν ρ) (fd : ℤ) : (k.ctlDel fd).files = k.files := rfl

/-- The interest set after an `EPOLL_CTL_DEL`. -/
@[simp] lemma ctlDel_interest (k : Kernel ν ρ) (fd : ℤ) :
    (k.ctlDel fd).interest = k.interest.erase fd := rfl

/-- What an accepted `EPOLL_CTL_ADD` requires and does. -/
lemma ctlAdd_some {k k' : Kernel ν ρ} {fd : ℤ} {data : ρ} {refused : Bool}
    (h : k.ctlAdd fd data refused = some k') :
    (fd ∈ k.files ∧ fd ∉ k.interest ∧ refused = false) ∧
      k'.files = k.files ∧ k'.interest = k.interest.insert fd data := by
  unfold ctlAdd at h
  split_ifs at h with hc
  obtain rfl := Option.some.inj h
  exact ⟨hc, rfl, rfl⟩

/-- An `EPOLL_CTL_ADD` fails iff the descriptor is not open, is in the set, or is refused. -/
lemma ctlAdd_none {k : Kernel ν ρ} {fd : ℤ} {data : ρ} {refused : Bool} :
    k.ctlAdd fd data refused = none ↔ fd ∉ k.files ∨ fd ∈ k.interest ∨ refused = true := by
  unfold ctlAdd
  split_ifs with hc
  · simpa using ⟨hc.1, hc.2.1, by simp [hc.2.2]⟩
  · simpa [imp_iff_not_or, or_assoc] using hc

end Kernel

end Epoll
