import Aelkey.Usb.Model

set_option relaxedAutoImplicit false
set_option autoImplicit false

/-!
# A disconnect seen by several transfers

When a device disappears, every transfer of it completes on its own, and `dispatch_libusb` detaches
the device each time and dereferences the result. The result is empty once the device has been
detached, by an earlier completion or by `close_device`.

## Main definitions

* `Aelkey.Usb.Handled` — no empty result is dereferenced, and every removal is notified once.
* `Aelkey.Usb.StillAttached` — a device that the switch detaches is still attached.

## Main results

* `Aelkey.Usb.handled_iff_stillAttached` — a run is handled iff every device that a completion
  detaches is still attached.
* `Aelkey.Usb.not_handled_twoTransfers` — two transfers see the same disconnect.
-/

namespace Aelkey.Usb

open Device

/-- **A disconnect is handled:** `dispatch_libusb` has dereferenced no empty result, and has
notified the removal of every attached device, which its map node stands for, at most once. -/
structure Handled (u : System) : Prop where
  deref : u.emptyDerefs = 0
  once : u.removals.Nodup

/-- If the switch of `dispatch_libusb` detaches a device, the id it reads is still attached. -/
def StillAttached (u : System) : UsbAction → Prop
  | .finish answer =>
    ∀ t status tr, u.running = some (t, status) → u.transfers.lookup t = some tr →
      branch u (declId u tr answer.stale) status answer.descriptorOk = .detach →
        declId u tr answer.stale ∈ u.device.inputMap
  | _ => True

/-- Every attached device is a libusb device with a handle and a map node of its own, and no removal
of it has been notified. -/
structure Mirrored (u : System) : Prop where
  types : ∀ id decl, u.device.inputMap.lookup id = some decl →
    decl.type = .libusb ∧ id ∈ u.device.libusb.devices
  nodes : ∀ id, id ∈ u.nodes ↔ id ∈ u.device.inputMap
  present : ∀ id n, u.nodes.lookup id = some n → n < u.nextNode ∧ n ∉ u.removals
  inj : ∀ id id' n, u.nodes.lookup id = some n → u.nodes.lookup id' = some n → id = id'
  past : ∀ n ∈ u.removals, n < u.nextNode

/-! ## The device layer -/

/-- Attaching a libusb device: it fails and changes nothing, or enters the device with its handle.
-/
lemma attach_libusb (s : State) (decl : LibusbDecl) (a : Attempt) :
    attach s decl.1.id decl.1 a = (s, decl.1, false) ∨
      ∃ handle, decl.1.id ∉ s.inputMap ∧ attach s decl.1.id decl.1 a =
        ({ s with
            libusb := { devices := s.libusb.devices.insert decl.1.id handle }
            inputMap := s.inputMap.insert decl.1.id decl.1 }, decl.1, true) := by
  obtain ⟨decl, ht⟩ := decl
  have hback : backendAttach s decl.id decl a = libusbAttach s decl a := by
    simp only [backendAttach, ht]
  dsimp only
  rw [attach, hback]
  by_cases hin : decl.id ∈ s.inputMap
  · exact .inl (if_pos hin)
  rw [if_neg hin, libusbAttach]
  rcases a.handle with _ | handle
  · exact .inl rfl
  · by_cases hclaim : (!a.claimOk) = true
    · simp only [hclaim, ↓reduceIte, true_or]
    · simp only [hclaim, Bool.false_eq_true, ↓reduceIte]
      exact .inr ⟨handle, hin, rfl⟩

/-- Detaching an attached libusb device takes it and its handle away. -/
lemma detach_libusb {s : State} {id : String} {decl : InputDecl}
    (hl : s.inputMap.lookup id = some decl) (ht : decl.type = .libusb)
    (hh : id ∈ s.libusb.devices) (freed : String) :
    ∃ s', detach s id freed = (s', some decl) ∧ s'.inputMap = s.inputMap.erase id ∧
      s'.libusb.devices = s.libusb.devices.erase id := by
  obtain ⟨handle, hhandle⟩ := Table.mem_iff_lookup.mp hh
  refine ⟨{ s with
    libusb := { devices := s.libusb.devices.erase id }
    inputMap := s.inputMap.erase id
    frames := s.frames.erase freed }, ?_, rfl, rfl⟩
  simp only [detach, hl, backendDetach, ht, libusbDetach, hhandle]

/-- Detaching an id that is not attached has no result and changes nothing. -/
lemma detach_absent {s : State} {id : String} (hl : s.inputMap.lookup id = none)
    (freed : String) : detach s id freed = (s, none) := by
  simp only [detach, hl]

/-! ## What the functions do to the map nodes -/

section Steps

variable {u : System}

/-- The devices, their map nodes and what was notified are the same in both states. -/
structure SameDevices (u u' : System) : Prop where
  device : u'.device = u.device
  nodes : u'.nodes = u.nodes
  nextNode : u'.nextNode = u.nextNode
  emptyDerefs : u'.emptyDerefs = u.emptyDerefs
  removals : u'.removals = u.removals

/-- No function that acts on a transfer touches the devices. -/
lemma sameDevices_refl (u : System) : SameDevices u u := ⟨rfl, rfl, rfl, rfl, rfl⟩

/-- Submitting a transfer. -/
lemma libusbSubmitTransfer_same (t : ℕ) (ok : Bool) :
    SameDevices u (libusbSubmitTransfer u t ok).1 := by
  unfold libusbSubmitTransfer
  split
  · exact sameDevices_refl u
  · split_ifs <;> exact ⟨rfl, rfl, rfl, rfl, rfl⟩

/-- Destroying a transfer. -/
lemma destroyTransfer_same (t : ℕ) : SameDevices u (destroyTransfer u t) := by
  unfold destroyTransfer
  split <;> exact ⟨rfl, rfl, rfl, rfl, rfl⟩

/-- A switch that detaches nothing. -/
lemma finishDispatch_same {t : ℕ} {tr : Transfer} {status : Status} {answer : Answer}
    (hb : branch u (declId u tr answer.stale) status answer.descriptorOk ≠ .detach) :
    SameDevices u (finishDispatch u t tr status answer) := by
  unfold finishDispatch
  dsimp only
  split
  · have hsame := libusbSubmitTransfer_same (u := u) t answer.submitOk
    rcases hr : libusbSubmitTransfer u t answer.submitOk with ⟨v, _ | _⟩ <;> rw [hr] at hsame
    · have hd := destroyTransfer_same (u := v) t
      exact ⟨hd.device.trans hsame.device, hd.nodes.trans hsame.nodes,
        hd.nextNode.trans hsame.nextNode, hd.emptyDerefs.trans hsame.emptyDerefs,
        hd.removals.trans hsame.removals⟩
    · exact hsame
  · next hdetach => exact absurd hdetach hb
  · exact destroyTransfer_same t

/-- What holds of the devices holds in every state with the same ones. -/
lemma SameDevices.handled_iff {u' : System} (h : SameDevices u u') :
    Handled u' ↔ Handled u := by
  constructor
  · exact fun hu => ⟨h.emptyDerefs ▸ hu.deref, h.removals ▸ hu.once⟩
  · exact fun hu => ⟨h.emptyDerefs.trans hu.deref, h.removals.symm ▸ hu.once⟩

/-- What mirrors the devices does so in every state with the same ones. -/
lemma SameDevices.mirrored {u' : System} (h : SameDevices u u') (hu : Mirrored u) :
    Mirrored u' := by
  obtain ⟨hdev, hnodes, hnext, -, hrem⟩ := h
  constructor
  case types =>
    rw [hdev]
    exact hu.types
  case nodes =>
    rw [hdev, hnodes]
    exact hu.nodes
  case present =>
    rw [hnodes, hnext, hrem]
    exact hu.present
  case inj =>
    rw [hnodes]
    exact hu.inj
  case past =>
    rw [hrem, hnext]
    exact hu.past

/-- A device is detached, and its removal may be notified. -/
lemma Mirrored.detached {u' : System} (hu : Mirrored u) {id : String}
    (hmap : u'.device.inputMap = u.device.inputMap.erase id)
    (hdev : u'.device.libusb.devices = u.device.libusb.devices.erase id)
    (hnodes : u'.nodes = u.nodes.erase id) (hnext : u'.nextNode = u.nextNode)
    (hrem : ∀ n, n ∈ u'.removals → n ∈ u.removals ∨ u.nodes.lookup id = some n) :
    Mirrored u' := by
  have hlookup : ∀ id' n, u'.nodes.lookup id' = some n →
      id' ≠ id ∧ u.nodes.lookup id' = some n := by
    intro id' n hl
    rw [hnodes, Table.lookup_erase] at hl
    split_ifs at hl with he
    exact ⟨he, hl⟩
  constructor
  case types =>
    intro id' decl hl
    rw [hmap, Table.lookup_erase] at hl
    split_ifs at hl with he
    obtain ⟨ht, hh⟩ := hu.types id' decl hl
    exact ⟨ht, hdev ▸ AList.mem_erase.mpr ⟨he, hh⟩⟩
  case nodes =>
    intro id'
    rw [hnodes, hmap, AList.mem_erase, AList.mem_erase, hu.nodes]
  case present =>
    intro id' n hl
    obtain ⟨hne, hl⟩ := hlookup id' n hl
    obtain ⟨hlt, hnot⟩ := hu.present id' n hl
    refine ⟨hnext ▸ hlt, fun hn => ?_⟩
    rcases hrem n hn with hold | hnew
    · exact hnot hold
    · exact hne (hu.inj id' id n hl hnew)
  case inj =>
    intro id₁ id₂ n h₁ h₂
    exact hu.inj id₁ id₂ n (hlookup id₁ n h₁).2 (hlookup id₂ n h₂).2
  case past =>
    intro n hn
    rw [hnext]
    rcases hrem n hn with hold | hnew
    · exact hu.past n hold
    · exact (hu.present id n hnew).1

/-- **What the detach of the switch does:** to an attached device, it is detached and its removal is
notified; otherwise the empty result is dereferenced. -/
lemma detachGone_cases (hu : Mirrored u) (id stale : String) :
    id ∉ u.device.inputMap ∧
        detachGone u id stale = { u with emptyDerefs := u.emptyDerefs + 1 } ∨
      ∃ n, u.nodes.lookup id = some n ∧ id ∈ u.device.inputMap ∧
        (detachGone u id stale).removals = u.removals ++ [n] ∧
        (detachGone u id stale).emptyDerefs = u.emptyDerefs ∧
        Mirrored (detachGone u id stale) := by
  rcases hl : u.device.inputMap.lookup id with _ | decl
  · refine .inl ⟨AList.lookup_eq_none.mp hl, ?_⟩
    simp only [detachGone, detach_absent hl]
  · right
    have hin : id ∈ u.device.inputMap := Table.mem_of_lookup hl
    obtain ⟨n, hn⟩ := Table.mem_iff_lookup.mp ((hu.nodes id).mpr hin)
    obtain ⟨ht, hh⟩ := hu.types id decl hl
    obtain ⟨s, hd, hmap, hdev⟩ := detach_libusb hl ht hh stale
    simp only [detachGone, hd, hn, Option.toList_some]
    refine ⟨n, rfl, hin, rfl, trivial, ?_⟩
    refine hu.detached hmap hdev rfl rfl fun n' hn' => ?_
    rcases List.mem_append.mp hn' with hold | hnew
    · exact .inl hold
    · exact .inr (by rw [List.mem_singleton.mp hnew, hn])

end Steps

/-! ## The step lemmas -/

section Run

variable {u : System}

/-- **The switch** leaves the devices alone or detaches the one whose id is read. -/
lemma usbStep_finish_cases (u : System) (answer : Answer) :
    SameDevices u (usbStep u (.finish answer)) ∧ StillAttached u (.finish answer) ∨
      ∃ id, (StillAttached u (.finish answer) ↔ id ∈ u.device.inputMap) ∧
        usbStep u (.finish answer) = detachGone { u with running := none } id answer.stale := by
  rcases hr : u.running with _ | ⟨t, status⟩
  · refine .inl ⟨?_, fun t status tr h => by simp [hr] at h⟩
    simp only [usbStep, hr]
    exact sameDevices_refl u
  rcases hl : u.transfers.lookup t with _ | tr
  · refine .inl ⟨?_, fun t' status' tr h hl' => ?_⟩
    · simp only [usbStep, hr, hl]
      exact ⟨rfl, rfl, rfl, rfl, rfl⟩
    · obtain ⟨rfl, -⟩ := Prod.mk.inj (Option.some.inj (hr.symm.trans h))
      simp [hl] at hl'
  have hattached : StillAttached u (.finish answer) ↔
      (branch u (declId u tr answer.stale) status answer.descriptorOk = .detach →
        declId u tr answer.stale ∈ u.device.inputMap) :=
    forall_running_iff hr hl fun status tr =>
      branch u (declId u tr answer.stale) status answer.descriptorOk = .detach →
        declId u tr answer.stale ∈ u.device.inputMap
  by_cases hb : branch u (declId u tr answer.stale) status answer.descriptorOk = .detach
  · refine .inr ⟨declId u tr answer.stale, ?_, ?_⟩
    · rw [hattached]
      exact ⟨fun h => h hb, fun h _ => h⟩
    · rw [usbStep_finish answer hr hl]
      unfold finishDispatch
      dsimp only
      split
      · next hsubmit => exact absurd (hb.symm.trans hsubmit) (by simp)
      · rfl
      · next hdestroy => exact absurd (hb.symm.trans hdestroy) (by simp)
  · have hsame := finishDispatch_same (u := { u with running := none }) (t := t) hb
    refine .inl ⟨?_, hattached.mpr fun h => absurd h hb⟩
    rw [usbStep_finish answer hr hl]
    exact ⟨hsame.device, hsame.nodes, hsame.nextNode, hsame.emptyDerefs, hsame.removals⟩

/-- An attach or a close keeps the map nodes and notifies nothing. -/
lemma usbStep_devices (hu : Mirrored u) {a : UsbAction}
    (ha : (∃ decl att, a = .attach decl att) ∨ ∃ devId, a = .close devId) :
    Mirrored (usbStep u a) ∧ (usbStep u a).emptyDerefs = u.emptyDerefs ∧
      (usbStep u a).removals = u.removals := by
  rcases ha with ⟨decl, att, rfl⟩ | ⟨devId, rfl⟩
  · rcases attach_libusb u.device decl att with h | ⟨handle, hfresh, h⟩
    · simp only [usbStep, h]
      exact ⟨hu, trivial, trivial⟩
    simp only [usbStep, h]
    refine ⟨⟨fun id d hl => ?_, fun id => ?_, fun id n hl => ?_, fun id id' n hl hl' => ?_,
      fun n hn => (hu.past n hn).trans (Nat.lt_succ_self _)⟩, trivial, trivial⟩
    · dsimp only at hl
      rw [Table.lookup_insert] at hl
      rw [AList.mem_insert]
      split_ifs at hl with he
      · rw [← Option.some.inj hl]
        exact ⟨decl.2, .inl he⟩
      · exact ⟨(hu.types id d hl).1, .inr (hu.types id d hl).2⟩
    · rw [AList.mem_insert, AList.mem_insert, hu.nodes]
    · dsimp only at hl
      rw [Table.lookup_insert] at hl
      split_ifs at hl
      · obtain rfl : u.nextNode = n := Option.some.inj hl
        exact ⟨Nat.lt_succ_self _, fun hn => lt_irrefl _ (hu.past _ hn)⟩
      · exact ⟨(hu.present id n hl).1.trans (Nat.lt_succ_self _), (hu.present id n hl).2⟩
    · dsimp only at hl hl'
      rw [Table.lookup_insert] at hl hl'
      split_ifs at hl hl' with he he' he'
      · rw [he, he']
      · obtain rfl : u.nextNode = n := Option.some.inj hl
        exact absurd (hu.present id' _ hl').1 (lt_irrefl _)
      · obtain rfl : u.nextNode = n := Option.some.inj hl'
        exact absurd (hu.present id _ hl).1 (lt_irrefl _)
      · exact hu.inj id id' n hl hl'
  · rcases hl : u.device.inputMap.lookup devId with _ | decl
    · simp only [usbStep, detach_absent hl]
      exact ⟨hu, trivial, trivial⟩
    obtain ⟨ht, hh⟩ := hu.types devId decl hl
    obtain ⟨s, hd, hmap, hdev⟩ := detach_libusb hl ht hh devId
    simp only [usbStep, hd]
    exact ⟨hu.detached hmap hdev rfl rfl fun n hn => .inl hn, trivial, trivial⟩

/-- **The step lemma:** the map nodes stay, and a step keeps a disconnect handled iff the device
that it detaches is still attached.

**Proof sketch.** An attached device has a result to dereference and a map node whose removal has
not been notified; one that is not attached has no result. -/
lemma handled_step (hu : Mirrored u) (hh : Handled u) (a : UsbAction) :
    Mirrored (usbStep u a) ∧ (Handled (usbStep u a) ↔ StillAttached u a) := by
  have hkept : SameDevices u (usbStep u a) → StillAttached u a →
      Mirrored (usbStep u a) ∧ (Handled (usbStep u a) ↔ StillAttached u a) := fun hs ha =>
    ⟨hs.mirrored hu, iff_of_true (hs.handled_iff.mpr hh) ha⟩
  have hdevices : (∃ decl att, a = .attach decl att) ∨ (∃ devId, a = .close devId) →
      StillAttached u a →
      Mirrored (usbStep u a) ∧ (Handled (usbStep u a) ↔ StillAttached u a) := fun h ha => by
    obtain ⟨hm, hderef, hrem⟩ := usbStep_devices hu h
    exact ⟨hm, iff_of_true ⟨hderef.trans hh.deref, hrem ▸ hh.once⟩ ha⟩
  cases a with
  | attach decl att => exact hdevices (.inl ⟨decl, att, rfl⟩) trivial
  | close devId => exact hdevices (.inr ⟨devId, rfl⟩) trivial
  | submit devId allocOk submitOk =>
    refine hkept ?_ trivial
    simp only [usbStep, usbSubmitTransfer]
    split
    · split_ifs <;> exact ⟨rfl, rfl, rfl, rfl, rfl⟩
    · exact sameDevices_refl u
  | cancel t =>
    refine hkept ?_ trivial
    simp only [usbStep, libusbCancelTransfer]
    split
    · exact sameDevices_refl u
    · split_ifs <;> exact ⟨rfl, rfl, rfl, rfl, rfl⟩
  | resubmit t submitOk => exact hkept (libusbSubmitTransfer_same t submitOk) trivial
  | complete t status =>
    refine hkept ?_ trivial
    simp only [usbStep, startDispatch]
    split
    · split_ifs <;> exact ⟨rfl, rfl, rfl, rfl, rfl⟩
    · exact sameDevices_refl u
  | finish answer =>
    rcases usbStep_finish_cases u answer with ⟨hs, ha⟩ | ⟨id, hiff, hstep⟩
    · exact hkept hs ha
    have hu' : Mirrored { u with running := none } :=
      ⟨hu.types, hu.nodes, hu.present, hu.inj, hu.past⟩
    rw [hiff, hstep]
    rcases detachGone_cases hu' id answer.stale with ⟨hnot, h⟩ | ⟨n, hn, hin, hrem, hderef, hm⟩
    · rw [h]
      refine ⟨⟨hu.types, hu.nodes, hu.present, hu.inj, hu.past⟩, iff_of_false (fun h => ?_) hnot⟩
      exact absurd h.deref (Nat.succ_ne_zero _)
    · refine ⟨hm, iff_of_true ⟨hderef.trans hh.deref, ?_⟩ hin⟩
      rw [hrem]
      exact List.nodup_append.mpr ⟨hh.once, List.nodup_singleton n, fun x hx y hy hxy =>
        (hu.present id n hn).2 (by rwa [← List.mem_singleton.mp hy, ← hxy])⟩

end Run

/-- **A disconnect is handled exactly as long as the devices that completions detach are still
attached.** For every run, with any number of transfers that complete in any order with any
statuses, and devices attached and closed meanwhile: in every state `dispatch_libusb` has
dereferenced no empty result and has notified the removal of every attach at most once, if and only
if at every completion that takes one of the two detaching branches the id read through the
declaration of the transfer is still attached.

**Proof sketch.** The step lemma along the run, with the map nodes as invariant. -/
theorem handled_iff_stillAttached (as : List UsbAction) :
    Run.Always usbStep Handled {} as ↔ Run.EachStep usbStep StillAttached {} as :=
  Run.always_iff_eachStep_of_step (I := Mirrored) (fun _ a hu hh _ => (handled_step hu hh a).1)
    (fun _ a hu hh => (handled_step hu hh a).2)
    ⟨by simp, by simp, by simp, by simp, by simp⟩ ⟨rfl, List.nodup_nil⟩ as

/-- Two transfers of a device are in flight when it disappears, and both complete. The map node is
gone at the second completion; its memory still reads as the id. -/
def exampleUnplug : List UsbAction :=
  [.attach examplePad openAttempt, .submit "pad" true true, .submit "pad" true true,
    .complete 0 .noDevice, .finish ⟨true, true, "pad"⟩,
    .complete 1 .noDevice, .finish ⟨true, true, "pad"⟩]

/-- The second completion dereferences an empty result. -/
theorem not_handled_twoTransfers :
    (exampleUnplug.foldl usbStep {}).emptyDerefs = 1 ∧
      ¬ Run.Always usbStep Handled {} exampleUnplug := by
  have hlast : (exampleUnplug.foldl usbStep {}).emptyDerefs = 1 := by decide
  refine ⟨hlast, fun h => ?_⟩
  have hderef := h.last.deref
  rw [hlast] at hderef
  exact absurd hderef one_ne_zero

end Aelkey.Usb
