import Aelkey.Device.Consistency
import Mathlib.Data.String.Basic

set_option relaxedAutoImplicit false
set_option autoImplicit false

/-!
# Leaving the loop

When `loop_start` (`source/aelkey_loop.cc`) has been stopped it detaches every device that is still
attached, destroys the output devices and closes the epoll descriptor. The loop over the ids ignores
what `detach` returns; the invariant of the tables is what makes every call succeed. A descriptor of
an evdev device is closed with it, one of a hidraw device is not: so the descriptors that stay open
are those of all hidraw devices there have been.

## Main definitions

* `Aelkey.Device.tearDown` — the cleanup of `loop_start`.
* `Aelkey.Device.LoopAct`, `Aelkey.Device.loopStep` — what happens to the devices, with the cleanup.
* `Aelkey.Device.Ledger` — which descriptors are open.

## Main results

* `Aelkey.Device.detachAll_cases` — detaching a list of attached ids.
* `Aelkey.Device.tearDown_run` — after the cleanup nothing is attached, and a
  descriptor is open iff a hidraw device has been attached under it.

## Design

The process may enter the loop again, so the cleanup is an action like the others. The signal
handlers and the epoll descriptor itself are left out; closing it empties the interest set.
-/

namespace Aelkey.Device

/-! ## The cleanup -/

/-- The ids of the attached devices, in the order of the map. -/
def sortedIds (s : State) : List String := s.inputMap.keys.mergeSort fun a b => decide (a ≤ b)

/-- Detach the devices of a list of ids. -/
def detachAll (s : State) (ids : List String) : State :=
  ids.foldl (fun s id => (detach s id id).1) s

/-- `close` of the epoll descriptor: no descriptor is watched any more. -/
def closeEpoll (k : Kernel) : Kernel :=
  ⟨k.files, ∅, fun _ h => absurd h (AList.notMem_empty _)⟩

/-- The cleanup of `loop_start`. -/
def tearDown (s : State) : State :=
  let s := detachAll s (sortedIds s)
  { s with uinputDevices := ∅, kernel := closeEpoll s.kernel }

/-- What happens to the devices, with the cleanup. -/
inductive LoopAct
  | act (a : Action)
  | tearDown

/-- One of these. -/
def loopStep (script : Script) (s : State) : LoopAct → State
  | .act a => step script s a
  | .tearDown => tearDown s

/-! ## Detaching a list of ids -/

/-- No device is attached, and no table has an entry of one. -/
structure Detached (s : State) : Prop where
  inputMap : ∀ id, id ∉ s.inputMap
  evdev : ∀ fd, fd ∉ s.evdev.devices
  idev : ∀ fd, fd ∉ s.evdev.idevMap
  hidraw : ∀ fd, fd ∉ s.hidraw.devices
  libusb : ∀ id, id ∉ s.libusb.devices
  gatt : ∀ id, id ∉ s.gatt.gattPaths

/-- What detaching the devices of a list of ids does. -/
structure DetachesAll (script : Script) (s s' : State) (ids : List String) : Prop where
  core : Core script s'
  inputMap : ∀ id, s'.inputMap.lookup id = if id ∈ ids then none else s.inputMap.lookup id
  files : ∀ fd, fd ∈ s'.kernel.files ↔ fd ∈ s.kernel.files ∧
    ¬ ∃ id ∈ ids, ∃ decl, AttachedAs s id .evdev decl ∧ decl.fd = fd
  inputDecls : s'.inputDecls = s.inputDecls
  notes : s'.notes = s.notes

section Cleanup

variable {script : Script} {s : State}

/-- The open descriptors after a detach. -/
lemma Detaches.mem_files {s' : State} {decl : InputDecl} {freed : String} {noted : Bool}
    (hd : Detaches script s s' decl freed noted) (fd : ℤ) :
    fd ∈ s'.kernel.files ↔ fd ∈ s.kernel.files ∧ ¬ (decl.type = .evdev ∧ fd = decl.fd) := by
  rw [Table.mem_iff_lookup, Table.mem_iff_lookup, hd.files]
  split_ifs with h
  · simp [h]
  · simp [h]

/-- **Detaching attached devices one after the other** succeeds for each of them.

**Proof sketch.** Induction on the list: the first one is attached, so its detach succeeds and keeps
the invariant, and the others stay attached as they are. -/
lemma detachAll_cases {ids : List String} (hn : ids.Nodup) (hc : Core script s)
    (hin : ∀ id ∈ ids, id ∈ s.inputMap) : DetachesAll script s (detachAll s ids) ids := by
  induction ids generalizing s with
  | nil => exact ⟨hc, fun _ => by simp [detachAll], fun _ => by simp [detachAll], rfl, rfl⟩
  | cons id ids ih =>
    obtain ⟨hfresh, hnodup⟩ := List.nodup_cons.mp hn
    obtain ⟨hid, hids⟩ := List.forall_mem_cons.mp hin
    obtain ⟨decl, hl⟩ := Table.mem_iff_lookup.mp hid
    obtain rfl := hc.ids id decl hl
    obtain ⟨s', removed, he, -, -, hd⟩ := detach_cases hc hl decl.id
    have hstep : detachAll s (decl.id :: ids) = detachAll s' ids := by
      simp [detachAll, he]
    have hrest := ih hnodup (hd.core hc) fun id hmem => by
      rw [hd.inputMap]
      exact AList.mem_erase.mpr ⟨fun he => hfresh (he ▸ hmem), hids id hmem⟩
    rw [hstep]
    refine ⟨hrest.core, fun id => ?_, fun fd => ?_, hrest.inputDecls.trans hd.inputDecls,
      hrest.notes.trans (hd.notes.trans (if_neg Bool.false_ne_true))⟩
    · rw [hrest.inputMap, hd.lookup]
      by_cases hmem : id ∈ ids
      · simp [hmem]
      · by_cases he : id = decl.id <;> simp [hmem, he]
    · rw [hrest.files, hd.mem_files, and_assoc]
      refine and_congr_right fun _ => ?_
      rw [← not_or]
      refine not_congr ⟨?_, ?_⟩
      · rintro (⟨ht, rfl⟩ | ⟨id, hmem, d, ha, hfd⟩)
        · exact ⟨decl.id, List.mem_cons_self, decl, ⟨hl, ht⟩, rfl⟩
        · exact ⟨id, List.mem_cons_of_mem _ hmem, d, ((hd.attachedAs _ _ _).mp ha).2, hfd⟩
      · rintro ⟨id, hmem, d, ha, hfd⟩
        rcases List.mem_cons.mp hmem with rfl | hmem
        · obtain rfl : d = decl := Option.some.inj (ha.1.symm.trans hl)
          exact .inl ⟨ha.2, hfd.symm⟩
        · exact .inr ⟨id, hmem, d,
            (hd.attachedAs _ _ _).mpr ⟨fun he => hfresh (he ▸ hmem), ha⟩, hfd⟩

/-- The ids of the attached devices are listed once each. -/
lemma mem_sortedIds (id : String) : id ∈ sortedIds s ↔ id ∈ s.inputMap := by
  rw [sortedIds, List.mem_mergeSort]
  exact AList.mem_keys.symm

/-- If no device is attached, the tables are empty. -/
lemma Core.detached (hc : Core script s) (hnone : ∀ id, id ∉ s.inputMap) : Detached s := by
  have hno : ∀ id type, ¬ ∃ decl, AttachedAs s id type decl :=
    fun id type ⟨decl, hl, _⟩ => hnone id (Table.mem_of_lookup hl)
  have hev : ∀ fd, fd ∉ s.evdev.devices := by
    intro fd hmem
    obtain ⟨id, hid⟩ := Table.mem_iff_lookup.mp hmem
    obtain ⟨decl, ha, -⟩ := (hc.evdev fd id).mp hid
    exact hno id .evdev ⟨decl, ha⟩
  constructor
  case inputMap => exact hnone
  case evdev => exact hev
  case idev => exact fun fd hmem => hev fd ((hc.idev fd).mp hmem)
  case hidraw =>
    intro fd hmem
    obtain ⟨stored, hstored⟩ := Table.mem_iff_lookup.mp hmem
    obtain ⟨decl, ha, -⟩ := (hc.hidraw fd stored.id).mp ⟨stored, hstored, rfl⟩
    exact hno stored.id .hidraw ⟨decl, ha⟩
  case libusb => exact fun id hmem => hno id .libusb ((hc.libusb id).mp hmem)
  case gatt => exact fun id hmem => hno id .gatt ((hc.gatt id).mp hmem)

/-- Detaching all attached devices leaves none. -/
lemma DetachesAll.detached {s' : State} (hall : DetachesAll script s s' (sortedIds s)) :
    Detached s' := by
  refine hall.core.detached fun id => ?_
  rw [← AList.lookup_eq_none, hall.inputMap]
  split_ifs with hmem
  · rfl
  · exact AList.lookup_eq_none.mpr fun hin => hmem ((mem_sortedIds id).mpr hin)

/-- **The cleanup detaches all devices.** -/
lemma tearDown_cases (hc : Core script s) :
    DetachesAll script s (tearDown s) (sortedIds s) := by
  have hn : (sortedIds s).Nodup :=
    (List.mergeSort_perm _ _).nodup_iff.mpr s.inputMap.nodupKeys
  have hall := detachAll_cases hn hc fun id => (mem_sortedIds id).mp
  have hu : Untouched (detachAll s (sortedIds s)) (tearDown s) := { Untouched.refl _ with }
  exact { hall with core := hu.core hall.core }

end Cleanup

/-! ## The descriptors -/

/-- The open descriptors are those of the attached evdev devices and those in `H`, which has the
descriptors of the attached hidraw devices. -/
structure Ledger (H : ℤ → Prop) (s : State) : Prop where
  files : ∀ fd, fd ∈ s.kernel.files ↔ H fd ∨ fd ∈ s.evdev.devices
  apart : ∀ fd, H fd → fd ∉ s.evdev.devices
  listed : ∀ fd ∈ s.hidraw.devices, H fd

section Descriptors

variable {script : Script} {s s' : State} {H H' : ℤ → Prop}

/-- Which set it is does not depend on how it is written. -/
lemma Ledger.congr (h : Ledger H s) (he : ∀ fd, H fd ↔ H' fd) : Ledger H' s :=
  (funext fun fd => propext (he fd) : H = H') ▸ h

/-- Membership in a table after one entry has been added under a condition. -/
lemma mem_of_lookup_if {ν : Type*} {t t' : Table ℤ ν} {c : Prop} [Decidable c] {key : ℤ} {v : ν}
    (h : ∀ fd, t'.lookup fd = if c ∧ fd = key then some v else t.lookup fd) (fd : ℤ) :
    fd ∈ t' ↔ c ∧ fd = key ∨ fd ∈ t := by
  rw [← AList.lookup_isSome, ← AList.lookup_isSome, h]
  split_ifs with hnew
  · simp [hnew]
  · simp [hnew]

/-- Membership in a table after one entry has been removed under a condition. -/
lemma mem_of_lookup_if_none {ν : Type*} {t t' : Table ℤ ν} {c : Prop} [Decidable c] {key : ℤ}
    (h : ∀ fd, t'.lookup fd = if c ∧ fd = key then none else t.lookup fd) (fd : ℤ) :
    fd ∈ t' ↔ ¬ (c ∧ fd = key) ∧ fd ∈ t := by
  rw [← AList.lookup_isSome, ← AList.lookup_isSome, h]
  split_ifs with hgone
  · simp [hgone]
  · simp [hgone]

/-- The attached hidraw devices after devices have been attached. -/
lemma Opens.hidraw_mono (ho : Opens script s s') {fd : ℤ} (h : fd ∈ s.hidraw.devices) :
    fd ∈ s'.hidraw.devices := by
  induction ho with
  | refl => exact h
  | untouched hu _ ih => exact ih (by rwa [hu.hidraw])
  | attaches ha _ ih =>
    obtain ⟨stored, -, hlookup⟩ := ha.hidraw
    exact ih ((mem_of_lookup_if hlookup fd).mpr (.inr h))

/-- Attaching devices adds their descriptors. -/
lemma Opens.ledger (ho : Opens script s s') (h : Ledger H s) :
    Ledger (fun fd => H fd ∨ fd ∈ s'.hidraw.devices) s' := by
  induction ho generalizing H with
  | refl => exact h.congr fun fd => (or_iff_left_of_imp (h.listed fd)).symm
  | @untouched s s' s'' hu ho ih =>
    have hfiles : ∀ fd, fd ∈ s'.kernel.files ↔ fd ∈ s.kernel.files := fun fd => by
      rw [Table.mem_iff_lookup, Table.mem_iff_lookup, hu.files]
    refine ih ⟨fun fd => ?_, fun fd => ?_, fun fd => ?_⟩
    · rw [hfiles, hu.evdev, h.files]
    · rw [hu.evdev]
      exact h.apart fd
    · rw [hu.hidraw]
      exact h.listed fd
  | @attaches s s' s'' decl ha ho ih =>
    obtain ⟨devnode, hfiles⟩ := ha.files
    obtain ⟨stored, -, hhidraw⟩ := ha.hidraw
    have hunused : decl.type.isNode = true → ¬ (H decl.fd ∨ decl.fd ∈ s.evdev.devices) := by
      intro hnode
      rw [← h.files, ← AList.lookup_eq_none]
      exact (ha.unused hnode).2
    have hmid : Ledger (fun fd => H fd ∨ fd ∈ s'.hidraw.devices) s' := by
      refine ⟨fun fd => ?_, fun fd => ?_, fun fd => .inr⟩
      · rw [mem_of_lookup_if hfiles, mem_of_lookup_if ha.evdev, mem_of_lookup_if hhidraw, h.files]
        have hlisted := h.listed fd
        cases ht : decl.type <;> simp [DeviceType.isNode] <;> tauto
      · rw [mem_of_lookup_if ha.evdev, mem_of_lookup_if hhidraw]
        have hlisted := h.listed fd
        have hapart := h.apart fd
        rintro hH (⟨ht, rfl⟩ | hev)
        · have hno := hunused (by rw [ht]; rfl)
          rcases hH with hH | ⟨ht', -⟩ | hH
          · exact hno (.inl hH)
          · rw [ht] at ht'
            cases ht'
          · exact hno (.inl (hlisted hH))
        · rcases hH with hH | ⟨ht, rfl⟩ | hH
          · exact hapart hH hev
          · exact hunused (by rw [ht]; rfl) (.inr hev)
          · exact hapart (hlisted hH) hev
    refine (ih hmid).congr fun fd => ?_
    rw [or_assoc, or_iff_right_of_imp ho.hidraw_mono]

/-- Detaching a device closes the descriptor of an evdev device and no other. -/
lemma Detaches.ledger {decl : InputDecl} {freed : String} {noted : Bool} (hc : Core script s)
    (hd : Detaches script s s' decl freed noted) (h : Ledger H s) : Ledger H s' := by
  refine ⟨fun fd => ?_, fun fd hH => ?_, fun fd hmem => ?_⟩
  · rw [hd.mem_files, mem_of_lookup_if_none hd.evdev, h.files]
    have hkeep : H fd → ¬ (decl.type = .evdev ∧ fd = decl.fd) := by
      rintro hH ⟨ht, rfl⟩
      exact h.apart _ hH
        (Table.mem_of_lookup ((hc.evdev _ _).mpr ⟨decl, ⟨hd.entry, ht⟩, rfl⟩))
    tauto
  · rw [mem_of_lookup_if_none hd.evdev]
    exact fun hev => h.apart fd hH hev.2
  · exact h.listed fd ((mem_of_lookup_if_none hd.hidraw fd).mp hmem).2

/-- The cleanup leaves the descriptors of `H` open. -/
lemma DetachesAll.ledger (hc : Core script s) (hall : DetachesAll script s s' (sortedIds s))
    (h : Ledger H s) : Ledger H s' := by
  have hnone := hall.detached
  have hev : ∀ fd, (∃ id ∈ sortedIds s, ∃ decl, AttachedAs s id .evdev decl ∧ decl.fd = fd) ↔
      fd ∈ s.evdev.devices := by
    intro fd
    rw [Table.mem_iff_lookup]
    refine exists_congr fun id => ?_
    rw [hc.evdev, and_iff_right_of_imp]
    rintro ⟨decl, ⟨hl, -⟩, -⟩
    exact (mem_sortedIds id).mpr (Table.mem_of_lookup hl)
  refine ⟨fun fd => ?_, fun fd _ => hnone.evdev fd, fun fd hmem => absurd hmem (hnone.hidraw fd)⟩
  rw [hall.files, hev, h.files, or_iff_left (hnone.evdev fd)]
  have hapart := h.apart fd
  tauto

/-- The invariant of the tables holds with the cleanup among the actions. -/
lemma consistent_loopStep (s : State) (a : LoopAct) (hc : Consistent script s) :
    Consistent script (loopStep script s a) := by
  cases a with
  | act a => exact consistent_step s a hc
  | tearDown =>
    have hall := tearDown_cases hc.toCore
    exact ⟨hall.core, by rw [loopStep, hall.inputDecls]; exact hc.inputDecls⟩

/-- **Every action opens the descriptors of hidraw devices for good.** -/
lemma ledger_loopStep (hc : Consistent script s) (h : Ledger H s) (a : LoopAct) :
    Ledger (fun fd => H fd ∨ fd ∈ (loopStep script s a).hidraw.devices) (loopStep script s a) := by
  have hsame : ∀ {t : State}, Ledger H t → Ledger (fun fd => H fd ∨ fd ∈ t.hidraw.devices) t :=
    fun ht => ht.congr fun fd => (or_iff_left_of_imp (ht.listed fd)).symm
  cases a with
  | tearDown => exact hsame ((tearDown_cases hc.toCore).ledger hc.toCore h)
  | act a =>
    rcases step_cases hc a with ⟨-, ho⟩ | ⟨-, hu, -⟩ | ⟨-, decl, freed, -, hd⟩
    · exact ho.ledger h
    · have ho : Opens script s (step script s a) := hu.opens
      exact ho.ledger h
    · exact hsame (hd.ledger hc.toCore h)

/-- The descriptors after a run: those of all hidraw devices there have been stay open. -/
lemma ledger_run (as : List LoopAct) :
    ∀ (H : ℤ → Prop) (s : State), Consistent script s → Ledger H s →
      Ledger (fun fd => H fd ∨ ∃ t ∈ as.scanl (loopStep script) s, fd ∈ t.hidraw.devices)
        (as.foldl (loopStep script) s) := by
  induction as with
  | nil =>
    intro H s _ h
    refine h.congr fun fd => ?_
    simpa using h.listed fd
  | cons a as ih =>
    intro H s hc h
    refine (ih _ _ (consistent_loopStep s a hc) (ledger_loopStep hc h a)).congr fun fd => ?_
    have hfirst : fd ∈ (loopStep script s a).hidraw.devices →
        ∃ t ∈ as.scanl (loopStep script) (loopStep script s a), fd ∈ t.hidraw.devices :=
      fun hmem => ⟨_, by cases as <;> simp [List.scanl_cons], hmem⟩
    have hlisted := h.listed fd
    simp only [List.scanl_cons, List.mem_cons, exists_eq_or_imp]
    tauto

end Descriptors

/-! ## What is left -/

/-- No device is attached, no output device is open, and no descriptor is watched. -/
structure Idle (s : State) : Prop extends Detached s where
  uinput : ∀ id, id ∉ s.uinputDevices
  interest : ∀ fd, fd ∉ s.kernel.interest

/-- **Leaving the loop** after any run, in which it may have been left before: nothing stays
attached, and a descriptor is open iff at some time a hidraw device was attached under it.

**Proof sketch.** The tables belong together, so every detach of the cleanup succeeds. A descriptor
is open only while an evdev device has it, or because a hidraw device had it: such a descriptor is
never closed, so the kernel does not hand it out again. -/
theorem tearDown_run (script : Script) (as : List LoopAct) :
    Idle (tearDown (as.foldl (loopStep script) {})) ∧
      ∀ fd, fd ∈ (tearDown (as.foldl (loopStep script) {})).kernel.files ↔
        ∃ s ∈ as.scanl (loopStep script) {}, fd ∈ s.hidraw.devices := by
  have hinit : Consistent script {} := consistent_init
  have hc := (Run.always_of_inv consistent_loopStep hinit as).last
  have hall := tearDown_cases hc.toCore
  have hfirst : Ledger (fun _ => False) {} :=
    ⟨fun fd => iff_of_false (AList.notMem_empty fd) (by simp), by simp, by simp⟩
  have hledger := hall.ledger hc.toCore (ledger_run as _ {} consistent_init hfirst)
  refine ⟨{ hall.detached with uinput := ?_, interest := ?_ }, fun fd => ?_⟩
  · exact fun id => AList.notMem_empty id
  · exact fun fd => AList.notMem_empty fd
  · rw [hledger.files, or_iff_left (hall.detached.evdev fd), false_or]

end Aelkey.Device
