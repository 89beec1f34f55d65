import Aelkey.Device.Manager
import Mathlib.Algebra.Order.BigOperators.Group.List
import Mathlib.Algebra.Order.Group.Nat

set_option relaxedAutoImplicit false
set_option autoImplicit false

/-!
# Matching declarations with the devices of the system

The `match` functions of the evdev and hidraw backends (`source/device_backend_evdev.cc`,
`source/device_backend_hidraw.cc`) enumerate the devices of a udev subsystem and return the node of
the first one that fits the declaration. The libusb backend looks for its device only when it opens
it, by vendor and product. This file has these searches over an explicit list of devices, and the
answers they give the loops over the declarations.

## Main definitions

* `Aelkey.Device.SysDevice` — a device of the system.
* `Aelkey.Device.matchString` — `match_string` of `device_helpers.cc`.
* `Aelkey.Device.evdevMatch`, `Aelkey.Device.hidrawMatch` — whether a device fits a declaration.
* `Aelkey.Device.findNode` — what `match` of the two backends finds.
* `Aelkey.Device.answers` — the answers for a list of devices all of which can be opened.

## Main results

* `Aelkey.Device.matchDecl_answers`, `Aelkey.Device.backendAttach_answers` — match and attach with
  these answers.
* `Aelkey.Device.matched_mono`, `Aelkey.Device.opens_mono` — more devices can be attached if more
  are present.

## Design

The devices are listed in the order in which udev enumerates them. `std::regex` is a parameter; it
has no answer for a pattern that is no regular expression.
-/

namespace Aelkey.Device

/-- A device of the system: what udev tells about it, and what the device itself answers. -/
structure SysDevice extends UdevDevice where
  /-- libevdev, hidraw or libusb takes it for a device of theirs -/
  accepted : Bool
  bus : ℤ
  vendor : ℤ
  product : ℤ
  name : Option String
  phys : Option String
  uniq : Option String
  interface : ℤ
  codes : List (ℤ × ℤ)
deriving DecidableEq

/-- What else may differ between systems: the regular expressions, the descriptors the kernel
picks, and answers on which attaching does not depend. -/
structure World where
  regexMatch : String → String → Option Bool
  pick : Kernel → ℤ
  pick_unused : ∀ k, 0 ≤ pick k ∧ pick k ∉ k.files
  hasFF : InputDecl → Bool
  grabOk : InputDecl → Bool
  epollRefused : InputDecl → Bool
  busUp : Bool

/-! ## The searches -/

/-- `looks_like_regex`. -/
def looksLikeRegex (s : String) : Bool :=
  match s.toList with
  | [] => false
  | c :: l =>
    c = '^' || (c :: l).getLast? = some '$' || (findSub ".*".toList (c :: l)).isSome ||
      (findSub ".+".toList (c :: l)).isSome

/-- `match_string`. -/
def matchString (w : World) (pattern value : String) : Bool :=
  if pattern = "" then true
  else if looksLikeRegex pattern then (w.regexMatch pattern value).getD (pattern = value)
  else pattern = value

/-- Whether an evdev device fits a declaration. -/
def evdevMatch (w : World) (decl : InputDecl) (dev : SysDevice) : Bool :=
  dev.accepted &&
  (decl.bus = 0 || dev.bus = decl.bus) &&
  (decl.vendor = 0 || dev.vendor = decl.vendor) &&
  (decl.product = 0 || dev.product = decl.product) &&
  (decl.name = "" || matchString w decl.name (dev.name.getD "")) &&
  (decl.phys = "" || matchString w decl.phys (dev.phys.getD "")) &&
  (decl.uniq = "" || matchString w decl.uniq (dev.uniq.getD "")) &&
  decl.capabilities.all fun cap => cap ∈ dev.codes

/-- Whether a hidraw device fits a declaration. A device that does not tell its name fits no
declaration with a name; one that does not tell its path or serial number is given the benefit of
the doubt. -/
def hidrawMatch (w : World) (decl : InputDecl) (dev : SysDevice) : Bool :=
  dev.accepted &&
  (decl.bus = 0 || dev.bus = decl.bus) &&
  (decl.vendor = 0 || dev.vendor % 65536 = decl.vendor) &&
  (decl.product = 0 || dev.product % 65536 = decl.product) &&
  (decl.name = "" || (dev.name.map (matchString w decl.name)).getD false) &&
  (decl.phys = "" || (dev.phys.map (matchString w decl.phys)).getD true) &&
  (decl.uniq = "" || (dev.uniq.map (matchString w decl.uniq)).getD true) &&
  (decl.interface < 0 || dev.interface = decl.interface)

/-- `enumerate_and_match`: the first result that is not empty. -/
def enumerateAndMatch (subsystem : Subsystem) (matcher : SysDevice → String) :
    List SysDevice → String
  | [] => ""
  | dev :: devs =>
    if dev.subsystem = some subsystem ∧ matcher dev ≠ "" then matcher dev
    else enumerateAndMatch subsystem matcher devs

/-- The node of a device that fits, as the two backends pass it to the enumeration. -/
def nodeIf (fits : SysDevice → Bool) (dev : SysDevice) : String :=
  match dev.node with
  | none => ""
  | some node => if fits dev then node else ""

/-- The node that `match` of the evdev or hidraw backend finds, empty for none. -/
def findNode (w : World) (devs : List SysDevice) (decl : InputDecl) : String :=
  match decl.type with
  | .evdev => enumerateAndMatch .input (nodeIf (evdevMatch w decl)) devs
  | .hidraw => enumerateAndMatch .hidraw (nodeIf (hidrawMatch w decl)) devs
  | .libusb | .gatt | .other => ""

/-- `libusb_open_device_with_vid_pid`, with the arguments cut to 16 bits. -/
def openVidPid (devs : List SysDevice) (decl : InputDecl) : Option ℕ :=
  devs.findIdx? fun dev => dev.subsystem = some .usb && dev.accepted &&
    dev.vendor = decl.vendor % 65536 && dev.product = decl.product % 65536

/-- The answers when the devices `devs` are present and all of them can be opened. -/
def answers (w : World) (devs : List SysDevice) : Answers := fun _ decl =>
  { found := findNode w devs decl
    openFd := w.pick
    initOk := true
    hasFF := w.hasFF decl
    grabOk := w.grabOk decl
    epollRefused := w.epollRefused decl
    handle := openVidPid devs decl
    claimOk := true
    busUp := w.busUp }

/-! ## Match and attach with these answers -/

/-- The types whose devices come and go with udev events. -/
def DeviceType.udevVisible : DeviceType → Bool
  | .evdev | .hidraw | .libusb => true
  | .gatt | .other => false

/-- What `DeviceManager::match` returns for a declaration of one of these types. -/
def matched (w : World) (devs : List SysDevice) (decl : InputDecl) : Option String :=
  if decl.type = .libusb then some decl.id
  else if findNode w devs decl = "" then none
  else some (findNode w devs decl)

/-- Whether `attach` succeeds for a declaration that matches: the libusb backend opens its device
by vendor and product, the others open the node they have found. -/
def opens (devs : List SysDevice) (decl : InputDecl) : Bool :=
  decl.type ≠ .libusb || (openVidPid devs decl).isSome

section Searches

variable {w : World} {devs devs' : List SysDevice} {decl : InputDecl}

/-- The enumeration finds something iff some device of the subsystem fits. -/
lemma enumerateAndMatch_ne_empty {subsystem : Subsystem} {matcher : SysDevice → String} :
    enumerateAndMatch subsystem matcher devs ≠ "" ↔
      ∃ dev ∈ devs, dev.subsystem = some subsystem ∧ matcher dev ≠ "" := by
  induction devs with
  | nil => simp [enumerateAndMatch]
  | cons dev devs ih =>
    rw [enumerateAndMatch]
    split_ifs with h
    · exact iff_of_true h.2 ⟨dev, List.mem_cons_self, h⟩
    · rw [ih, List.exists_mem_cons_iff, or_iff_right h]

/-- With more devices present, a declaration still matches. -/
lemma matched_mono (hsub : devs ⊆ devs') (h : (matched w devs decl).isSome = true) :
    (matched w devs' decl).isSome = true := by
  have hfind : findNode w devs decl ≠ "" → findNode w devs' decl ≠ "" := by
    unfold findNode
    split
    · simp only [enumerateAndMatch_ne_empty]
      intro ⟨dev, hmem, hdev⟩
      exact ⟨dev, hsub hmem, hdev⟩
    · simp only [enumerateAndMatch_ne_empty]
      intro ⟨dev, hmem, hdev⟩
      exact ⟨dev, hsub hmem, hdev⟩
    all_goals exact id
  unfold matched at h ⊢
  by_cases hlib : decl.type = .libusb
  · rw [if_pos hlib]
    rfl
  · rw [if_neg hlib] at h ⊢
    have hfound : findNode w devs decl ≠ "" := by
      intro hnone
      rw [if_pos hnone] at h
      cases h
    rw [if_neg (hfind hfound)]
    rfl

/-- With more devices present, a device can still be opened. -/
lemma opens_mono (hsub : devs ⊆ devs') (h : opens devs decl = true) : opens devs' decl = true := by
  simp only [opens, openVidPid, Bool.or_eq_true, List.findIdx?_isSome, List.any_eq_true] at h ⊢
  exact h.imp_right fun ⟨dev, hmem, hdev⟩ => ⟨dev, hsub hmem, hdev⟩

/-- Without devices nothing can be attached. -/
lemma not_attachable_nil : ¬ ((matched w [] decl).isSome = true ∧ opens [] decl = true) := by
  by_cases hlib : decl.type = .libusb
  · simp [opens, openVidPid, hlib]
  · have hnone : findNode w [] decl = "" := by
      unfold findNode
      split <;> rfl
    simp [matched, hlib, hnone]

/-- `match` with these answers. -/
lemma matchDecl_answers (hvis : decl.type.udevVisible = true) (s : State) (i : ℕ) :
    matchDecl s decl (answers w devs i decl) = (s, matched w devs decl) := by
  cases ht : decl.type with
  | evdev =>
    simp only [matchDecl, answers, matched, ht, reduceCtorEq, ↓reduceIte]
    rfl
  | hidraw =>
    simp only [matchDecl, answers, matched, ht, reduceCtorEq, ↓reduceIte]
    rfl
  | libusb => simp only [matchDecl, matched, ht, ↓reduceIte]
  | gatt => cases ht ▸ hvis
  | other => cases ht ▸ hvis

/-- `attach` of a backend with these answers. -/
lemma backendAttach_answers (w : World) (devs : List SysDevice)
    (hvis : decl.type.udevVisible = true) (s : State) (node : String) (i : ℕ) :
    (backendAttach s node decl (answers w devs i decl)).2.2 = opens devs decl := by
  obtain ⟨hpos, hunused⟩ := w.pick_unused s.kernel
  have hopen : (s.kernel.openFile node (w.pick s.kernel)).2 = w.pick s.kernel := by
    rw [Epoll.Kernel.openFile, if_neg (by simp [hunused, hpos.not_gt])]
  have hneg : ¬ w.pick s.kernel < 0 := hpos.not_gt
  cases ht : decl.type with
  | evdev => simp [backendAttach, ht, evdevOpen, answers, hopen, hneg, opens]
  | hidraw => simp [backendAttach, ht, hidrawAttach, hidrawOpen, answers, hopen, hneg, opens]
  | libusb =>
    simp only [backendAttach, ht, libusbAttach, answers, opens]
    cases openVidPid devs decl <;> simp
  | gatt => cases ht ▸ hvis
  | other => cases ht ▸ hvis

end Searches

/-! ## An example -/

/-- A descriptor that is larger than all open ones. -/
def freshFd (k : Kernel) : ℤ := (k.files.keys.map Int.natAbs).sum + 1

/-- The descriptor is not open. -/
lemma freshFd_unused (k : Kernel) : 0 ≤ freshFd k ∧ freshFd k ∉ k.files := by
  refine ⟨by unfold freshFd; omega, fun hin => ?_⟩
  have hle : (freshFd k).natAbs ≤ (k.files.keys.map Int.natAbs).sum :=
    List.le_sum_of_mem (List.mem_map_of_mem (AList.mem_keys.mp hin))
  unfold freshFd at hle
  omega

/-- A system without regular expressions. -/
def plainWorld : World where
  regexMatch _ _ := none
  pick := freshFd
  pick_unused := freshFd_unused
  hasFF _ := false
  grabOk _ := true
  epollRefused _ := false
  busUp := false

end Aelkey.Device
