import Aelkey.Device.Manager
import Aelkey.Lib.Run
import Mathlib.Algebra.Order.Ring.Nat

set_option relaxedAutoImplicit false
set_option autoImplicit false

/-!
# Asynchronous USB transfers

`usb_submit_transfer`, the functions `cancel` and `resubmit` of the handle it returns, and the
completion callback `dispatch_libusb` (`source/aelkey_usb.cc`), with libusb devices that are
attached and closed meanwhile.

## Main definitions

* `Aelkey.Usb.Transfer` — a `libusb_transfer`, and whether it is in flight and has been freed.
* `Aelkey.Usb.System` — the transfers, next to the device layer.
* `Aelkey.Usb.branch` — the case of the switch of `dispatch_libusb`.
* `Aelkey.Usb.usbStep` — one step of a run.

## Design

libusb completes a transfer only while it is in flight, with any status, and refuses to submit one
that is (`LIBUSB_ERROR_BUSY`). A completion is two steps, the call of the Lua callback and the
switch behind it, so that the calls of the callback come between them; libusb runs no second
callback meanwhile. `user_data` points to the declaration inside a node of `input_map`. A node is a
number that is not used again, and once it has been erased what its id reads as is an answer of the
environment. A use of a freed transfer is recorded, and so is a dereference of an empty `optional`;
the run goes on without an effect of it.

A transfer that `usb_submit_transfer` cannot submit is destroyed before the script has a handle of
it, so it gets no number.
-/

namespace Aelkey.Usb

open Device

/-! ## The state -/

/-- `libusb_transfer_status`. -/
inductive Status
  | completed
  | error
  | timedOut
  | cancelled
  | stall
  | noDevice
  | overflow
deriving DecidableEq

/-- A transfer: the id of the declaration that `user_data` points to and the map node the
declaration is in, whether libusb has the transfer in flight, and how often it has been freed. -/
structure Transfer where
  devId : String
  node : ℕ
  flying : Bool
  frees : ℕ
deriving DecidableEq

/-- What is done with a transfer that has been freed. -/
inductive Misuse
  | submit
  | cancel
  | complete
deriving DecidableEq

/-- The device layer with the map nodes of the attached devices, and all transfers by number.
`running` is the transfer whose callback runs, with its status. `removals` are the map nodes for
which `dispatch_libusb` has notified a removal. -/
structure System where
  device : State := {}
  nodes : Table String ℕ := ∅
  nextNode : ℕ := 0
  transfers : Table ℕ Transfer := ∅
  nextTransfer : ℕ := 0
  running : Option (ℕ × Status) := none
  misused : List (Misuse × ℕ) := []
  emptyDerefs : ℕ := 0
  removals : List ℕ := []

/-- A declaration of a libusb device. -/
abbrev LibusbDecl := { decl : InputDecl // decl.type = .libusb }

/-- The answers to the switch of `dispatch_libusb`: whether the transfer can be submitted, whether
the descriptor of the device can be read, and what the id in an erased map node reads as. -/
structure Answer where
  submitOk : Bool
  descriptorOk : Bool
  stale : String

/-- A device is attached or closed, a transfer is submitted, its handle is used, or libusb completes
a transfer: `complete` calls the callback and `finish` is the switch behind the call. -/
inductive UsbAction
  | attach (decl : LibusbDecl) (a : Attempt)
  | close (devId : String)
  | submit (devId : String) (allocOk submitOk : Bool)
  | cancel (t : ℕ)
  | resubmit (t : ℕ) (submitOk : Bool)
  | complete (t : ℕ) (status : Status)
  | finish (answer : Answer)

/-! ## Transfers -/

/-- Change a transfer. -/
def System.setTransfer (u : System) (t : ℕ) (tr : Transfer) : System :=
  { u with transfers := u.transfers.insert t tr }

/-- `libusb_submit_transfer`, and whether it succeeds. -/
def libusbSubmitTransfer (u : System) (t : ℕ) (ok : Bool) : System × Bool :=
  match u.transfers.lookup t with
  | none => (u, false)
  | some tr =>
    if 0 < tr.frees then ({ u with misused := u.misused ++ [(.submit, t)] }, false)
    else if tr.flying || !ok then (u, false)
    else (u.setTransfer t { tr with flying := true }, true)

/-- `libusb_cancel_transfer`: the transfer completes later, if it is in flight. -/
def libusbCancelTransfer (u : System) (t : ℕ) : System :=
  match u.transfers.lookup t with
  | none => u
  | some tr => if 0 < tr.frees then { u with misused := u.misused ++ [(.cancel, t)] } else u

/-- `destroy_transfer`. -/
def destroyTransfer (u : System) (t : ℕ) : System :=
  match u.transfers.lookup t with
  | none => u
  | some tr => u.setTransfer t { tr with frees := tr.frees + 1 }

/-- `usb_submit_transfer`. -/
def usbSubmitTransfer (u : System) (devId : String) (allocOk submitOk : Bool) : System :=
  match u.device.libusb.devices.lookup devId, u.nodes.lookup devId with
  | some _, some node =>
    if !allocOk || !submitOk then u
    else
      System.setTransfer { u with nextTransfer := u.nextTransfer + 1 } u.nextTransfer
        ⟨devId, node, true, 0⟩
  | _, _ => u

/-! ## The completion callback -/

/-- The start of `dispatch_libusb` up to the end of the Lua callback: the transfer has left the
flight. -/
def startDispatch (u : System) (t : ℕ) (status : Status) : System :=
  match u.running, u.transfers.lookup t with
  | none, some tr =>
    if !tr.flying then u
    else if 0 < tr.frees then
      System.setTransfer { u with misused := u.misused ++ [(.complete, t)] } t
        { tr with flying := false }
    else System.setTransfer { u with running := some (t, status) } t { tr with flying := false }
  | _, _ => u

/-- `decl->id`, read through `user_data`. -/
def declId (u : System) (tr : Transfer) (stale : String) : String :=
  if u.nodes.lookup tr.devId = some tr.node then tr.devId else stale

/-- The three cases of the switch. -/
inductive Branch
  | submit
  | detach
  | destroy
deriving DecidableEq

/-- The switch of `dispatch_libusb`: a transfer with a transient status is submitted again, a device
that is gone is detached, and a transfer that failed or was cancelled is destroyed. -/
def branch (u : System) (id : String) (status : Status) (descriptorOk : Bool) : Branch :=
  match status with
  | .completed | .overflow | .timedOut => .submit
  | .noDevice => .detach
  | .cancelled | .error | .stall =>
    match u.device.libusb.devices.lookup id with
    | some _ => if descriptorOk then .destroy else .detach
    | none => .detach

/-- The calls of `detach` and `notify_state_change` in the switch. -/
def detachGone (u : System) (id stale : String) : System :=
  match detach u.device id stale with
  | (s, some _) =>
    { u with
      device := s
      nodes := u.nodes.erase id
      removals := u.removals ++ (u.nodes.lookup id).toList }
  | (s, none) => { u with device := s, emptyDerefs := u.emptyDerefs + 1 }

/-- The switch of `dispatch_libusb`, for the transfer `t`. -/
def finishDispatch (u : System) (t : ℕ) (tr : Transfer) (status : Status) (answer : Answer) :
    System :=
  let id := declId u tr answer.stale
  match branch u id status answer.descriptorOk with
  | .submit =>
    match libusbSubmitTransfer u t answer.submitOk with
    | (u, true) => u
    | (u, false) => destroyTransfer u t
  | .detach => detachGone u id answer.stale
  | .destroy => destroyTransfer u t

/-! ## Runs -/

/-- One step. -/
def usbStep (u : System) : UsbAction → System
  | .attach decl a =>
    match attach u.device decl.1.id decl.1 a with
    | (s, decl, true) =>
      { u with
        device := s
        nodes := u.nodes.insert decl.id u.nextNode
        nextNode := u.nextNode + 1 }
    | (s, _, false) => { u with device := s }
  | .close devId =>
    match detach u.device devId devId with
    | (s, some _) => { u with device := s, nodes := u.nodes.erase devId }
    | (s, none) => { u with device := s }
  | .submit devId allocOk submitOk => usbSubmitTransfer u devId allocOk submitOk
  | .cancel t => libusbCancelTransfer u t
  | .resubmit t submitOk => (libusbSubmitTransfer u t submitOk).1
  | .complete t status => startDispatch u t status
  | .finish answer =>
    match u.running with
    | none => u
    | some (t, status) =>
      match u.transfers.lookup t with
      | none => { u with running := none }
      | some tr => finishDispatch { u with running := none } t tr status answer

section Running

variable {u : System} {t : ℕ} {status : Status} {tr : Transfer}

/-- The switch is for the transfer whose callback has run. -/
lemma usbStep_finish (answer : Answer) (hr : u.running = some (t, status))
    (hl : u.transfers.lookup t = some tr) :
    usbStep u (.finish answer) =
      finishDispatch { u with running := none } t tr status answer := by
  simp only [usbStep, hr, hl]

/-- A statement about the transfer whose callback runs is about one transfer. -/
lemma forall_running_iff (hr : u.running = some (t, status)) (hl : u.transfers.lookup t = some tr)
    (Q : Status → Transfer → Prop) :
    (∀ t' status' tr', u.running = some (t', status') → u.transfers.lookup t' = some tr' →
      Q status' tr') ↔ Q status tr := by
  constructor
  · exact fun h => h t status tr hr hl
  · intro h t' status' tr' hr' hl'
    obtain ⟨rfl, rfl⟩ := Prod.mk.inj (Option.some.inj (hr.symm.trans hr'))
    obtain rfl : tr = tr' := Option.some.inj (hl.symm.trans hl')
    exact h

end Running

/-- A libusb device. -/
def examplePad : LibusbDecl := ⟨{ id := "pad", type := .libusb }, rfl⟩

/-- libusb opens the device under a handle. -/
def openAttempt : Attempt := ⟨"", fun _ => -1, false, false, false, false, some 1, true, false⟩

end Aelkey.Usb
