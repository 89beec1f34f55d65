import Aelkey.Device.Consistency
import Aelkey.Device.Match

set_option relaxedAutoImplicit false
set_option autoImplicit false

/-!
# Hotplug and start-up

Devices are attached in two ways. At start-up `attach_inputs_from_decls` tries every declaration.
In an add event `handle_udev_add` looks for the first declaration whose match is the announced
device, and stops there. So a device that two declarations match is attached twice at start-up and
once by its event. The match of a libusb declaration is its id, which the event compares with the
syspath of the device. This file says exactly when the two ways lead to the same attached ids.

## Main definitions

* `Aelkey.Device.startUp`, `Aelkey.Device.hotplug` — the two ways as runs.
* `Aelkey.Device.Attachable` — a declaration matches and its device can be opened.
* `Aelkey.Device.FirstHit` — a declaration is the first one that hits an announced device.

## Main results

* `Aelkey.Device.hotplug_eq_startUp_iff` — the two ways attach the same ids iff every attachable
  declaration is the first hit of some add event.
* `Aelkey.Device.hotplug_ne_startUp_libusb` — a libusb device is never attached by its event.
-/

namespace Aelkey.Device

/-! ## The two ways -/

/-- The devices of `devs` that have arrived, in the order of enumeration. -/
def presentOf (devs arrived : List SysDevice) : List SysDevice := devs.filter (· ∈ arrived)

/-- The add events of the devices `order`, which arrive one after another after those in
`arrived`. -/
def addEvents (w : World) (devs : List SysDevice) : List SysDevice → List SysDevice → List Action
  | _, [] => []
  | arrived, dev :: order =>
    let present := presentOf devs (arrived ++ [dev])
    .udevAdd dev.toUdevDevice (fun _ => answers w present) (answers w present) ::
      addEvents w devs (arrived ++ [dev]) order

/-- All devices are opened while all are present. -/
def startUp (w : World) (creatable : OutputDecl → Bool) (devs : List SysDevice) : List Action :=
  [.openAll creatable (answers w devs)]

/-- All devices are opened while none is present, and then the devices are announced. -/
def hotplug (w : World) (creatable : OutputDecl → Bool) (devs order : List SysDevice) :
    List Action :=
  .openAll creatable (answers w []) :: addEvents w devs [] order

/-- The ids that are attached after a run. -/
def attachedIds (script : Script) (as : List Action) : Set String :=
  {id | id ∈ (as.foldl (step script) {}).inputMap}

/-! ## The condition -/

/-- The declarations as `parse_inputs_from_lua` leaves them. -/
def parsed (script : Script) : List InputDecl :=
  (script.inputs.filter fun decl => decl.id ≠ "").map InputDecl.spec

/-- With the devices `devs` present, the declaration matches and its device can be opened. -/
def Attachable (w : World) (devs : List SysDevice) (decl : InputDecl) : Prop :=
  (matched w devs decl).isSome = true ∧ opens devs decl = true

/-- With the devices `devs` present, the match of the declaration is the announced device. -/
def hits (w : World) (devs : List SysDevice) (dev : UdevDevice) (decl : InputDecl) : Bool :=
  match matched w devs decl with
  | some found => eventNode dev decl.type = some found
  | none => false

/-- With the devices `devs` present, `decl` is the first declaration that hits the announced device,
and it can be opened. -/
def FirstHit (w : World) (devs : List SysDevice) (dev : UdevDevice) (decls : List InputDecl)
    (decl : InputDecl) : Prop :=
  decls.find? (hits w devs dev) = some decl ∧ opens devs decl = true

section Loops

variable {w : World} {script : Script} {devs : List SysDevice}

/-- The ids after a declaration has been attached. -/
lemma mem_attachAndNotify {decl : InputDecl} (hdecl : Declared script decl)
    (hvis : decl.type.udevVisible = true) (s : State) (node : String) (i : ℕ) (id : String) :
    id ∈ (attachAndNotify script s node decl (answers w devs i decl)).1.inputMap ↔
      id ∈ s.inputMap ∨ opens devs decl = true ∧ decl.id = id := by
  unfold attachAndNotify attach
  by_cases hin : decl.id ∈ s.inputMap
  · rw [if_pos hin]
    exact ⟨.inl, fun h => h.elim (fun h => h) fun h => h.2 ▸ hin⟩
  rw [if_neg hin]
  have hcases := backendAttach_cases node (answers w devs i decl) hin hdecl
  have hok := backendAttach_answers w devs hvis s node i
  rcases hr : backendAttach s node decl (answers w devs i decl) with ⟨s₁, decl₁, ok⟩
  rw [hr] at hcases hok
  dsimp only at hok
  obtain ⟨hspec, ⟨rfl, hu⟩ | ⟨rfl, hmap, -, -⟩⟩ := hcases
  · have hmap : s₁.inputMap = s.inputMap := hu.inputMap
    simp [hmap, ← hok]
  · have hid : decl₁.spec.id = decl.spec.id := congrArg InputDecl.id hspec
    change decl₁.id = decl.id at hid
    simp only [AList.mem_insert, hid, ← hok, true_and]
    rw [show s₁.inputMap = s.inputMap from hmap, or_comm, eq_comm]

/-- The ids after the loop of `attach_inputs_from_decls`.

**Proof sketch.** Induction on the declarations: each of them is attached if it is attachable,
whatever the ones before it have done. -/
lemma mem_visitDecls_all (decls : List InputDecl)
    (hdecls : ∀ decl ∈ decls, Declared script decl ∧ decl.type.udevVisible = true) :
    ∀ (s : State) (i : ℕ) (id : String),
      id ∈ (visitDecls script (answers w devs) (fun _ => true) (fun _ _ found => .attach found)
          false s i decls).1.inputMap ↔
        id ∈ s.inputMap ∨ ∃ decl ∈ decls, Attachable w devs decl ∧ decl.id = id := by
  induction decls with
  | nil => simp [visitDecls]
  | cons decl decls ih =>
    intro s i id
    obtain ⟨⟨hdecl, hvis⟩, hrest⟩ := List.forall_mem_cons.mp hdecls
    rw [visitDecls]
    simp only [Bool.not_true, Bool.false_eq_true, ↓reduceIte, matchDecl_answers hvis,
      List.exists_mem_cons_iff]
    rcases hm : matched w devs decl with _ | found
    · have hnot : ¬ Attachable w devs decl := by simp [Attachable, hm]
      dsimp only
      rw [ih hrest]
      simp [hnot]
    · have hiff : Attachable w devs decl ↔ opens devs decl = true := by simp [Attachable, hm]
      dsimp only
      rw [ih hrest, mem_attachAndNotify hdecl hvis, hiff, or_assoc]

/-- The ids after the loop of `handle_udev_add`.

**Proof sketch.** Induction on the declarations: those that do not hit the device are skipped, and
the first one that does ends the loop, attached or not. -/
lemma mem_visitDecls_first (dev : UdevDevice) (decls : List InputDecl)
    (hdecls : ∀ decl ∈ decls, Declared script decl ∧ decl.type.udevVisible = true) :
    ∀ (s : State) (i : ℕ) (id : String),
      id ∈ (visitDecls script (answers w devs) (fun _ => true) (fun s decl found =>
          if eventNode dev decl.type = some found then
            if decl.id ∈ s.inputMap then .stop else .attach found
          else .skip) true s i decls).1.inputMap ↔
        id ∈ s.inputMap ∨ ∃ decl, FirstHit w devs dev decls decl ∧ decl.id = id := by
  induction decls with
  | nil => simp [visitDecls, FirstHit]
  | cons decl decls ih =>
    intro s i id
    obtain ⟨⟨hdecl, hvis⟩, hrest⟩ := List.forall_mem_cons.mp hdecls
    rw [visitDecls]
    simp only [Bool.not_true, Bool.false_eq_true, ↓reduceIte, matchDecl_answers hvis, FirstHit,
      List.find?_cons]
    have hhits : hits w devs dev decl = match matched w devs decl with
      | some found => decide (eventNode dev decl.type = some found)
      | none => false := rfl
    rcases hm : matched w devs decl with _ | found
    · rw [hm] at hhits
      rw [hhits]
      exact ih hrest s (i + 1) id
    · rw [hm] at hhits
      by_cases hev : eventNode dev decl.type = some found
      · simp only [hhits, hev, decide_true, ↓reduceIte]
        by_cases hin : decl.id ∈ s.inputMap
        · -- the device is attached already
          simp only [hin, ↓reduceIte, Option.some_inj]
          constructor
          · exact .inl
          · rintro (h | ⟨_, ⟨rfl, -⟩, rfl⟩)
            · exact h
            · exact hin
        · simp only [hin, ↓reduceIte, Option.some_inj, mem_attachAndNotify hdecl hvis]
          refine or_congr_right ⟨fun h => ⟨decl, ⟨rfl, h.1⟩, h.2⟩, ?_⟩
          rintro ⟨_, ⟨rfl, ho⟩, hid⟩
          exact ⟨ho, hid⟩
      · simp only [hhits, hev, decide_false, ↓reduceIte]
        exact ih hrest s (i + 1) id

end Loops

/-! ## The events -/

section Events

variable {w : World} {script : Script} {devs : List SysDevice} {s : State}

/-- The first hit does not depend on what a declaration remembers of earlier attaches. -/
lemma exists_firstHit_map (dev : UdevDevice) (decls : List InputDecl) (id : String) :
    (∃ decl, FirstHit w devs dev (decls.map InputDecl.spec) decl ∧ decl.id = id) ↔
      ∃ decl, FirstHit w devs dev decls decl ∧ decl.id = id := by
  have hfind : (decls.map InputDecl.spec).find? (hits w devs dev) =
      (decls.find? (hits w devs dev)).map InputDecl.spec := List.find?_map ..
  unfold FirstHit
  rw [hfind]
  constructor
  · intro ⟨_, ⟨he, ho⟩, hid⟩
    obtain ⟨decl, hdecl, rfl⟩ := Option.map_eq_some_iff.mp he
    exact ⟨decl, ⟨hdecl, ho⟩, hid⟩
  · intro ⟨decl, ⟨he, ho⟩, hid⟩
    exact ⟨decl.spec, ⟨by rw [he]; rfl, ho⟩, hid⟩

/-- The declarations in a state have the types of the script. -/
lemma visible_of_map_spec (hvis : ∀ decl ∈ script.inputs, decl.type.udevVisible = true)
    (hspec : s.inputDecls.map InputDecl.spec = parsed script) :
    ∀ decl ∈ s.inputDecls, decl.type.udevVisible = true := by
  intro decl hmem
  have hin : decl.spec ∈ parsed script := hspec ▸ List.mem_map_of_mem hmem
  obtain ⟨decl₀, h₀, he⟩ := List.mem_map.mp hin
  have htype : decl₀.spec.type = decl.spec.type := congrArg InputDecl.type he
  exact htype ▸ hvis decl₀ (List.mem_filter.mp h₀).1

/-- Opening all devices attaches what is attachable. -/
lemma openAll_spec (w : World) (devs : List SysDevice)
    (hvis : ∀ decl ∈ script.inputs, decl.type.udevVisible = true) (creatable : OutputDecl → Bool) :
    (∀ id, id ∈ (step script {} (.openAll creatable (answers w devs))).inputMap ↔
        ∃ decl ∈ parsed script, Attachable w devs decl ∧ decl.id = id) ∧
      (step script {} (.openAll creatable (answers w devs))).inputDecls.map InputDecl.spec =
        parsed script := by
  have hparsed : (parseDecls script {}).inputDecls.map InputDecl.spec = parsed script := by
    simp only [parseDecls, parsed, List.map_map]
    rfl
  have hdecls : ∀ decl ∈ (parseDecls script {}).inputDecls, Declared script decl :=
    parseDecls_declared {}
  have hboth : ∀ decl ∈ (parseDecls script {}).inputDecls,
      Declared script decl ∧ decl.type.udevVisible = true :=
    fun decl hmem => ⟨hdecls decl hmem, visible_of_map_spec hvis hparsed decl hmem⟩
  have hempty :
      ¬ (({} : State).inputMap.entries ≠ [] ∨ ({} : State).uinputDevices.entries ≠ []) := by
    rintro (h | h) <;> exact h rfl
  simp only [step, openAll]
  rw [if_neg hempty]
  constructor
  · intro id
    refine (mem_visitDecls_all (parseDecls script {}).inputDecls hboth
      (createOutputsFromDecls creatable (parseDecls script {})) 0 id).trans ?_
    exact or_iff_right (AList.notMem_empty id)
  · exact (visitDecls_opens _ _ _ _ _ _ 0 hdecls).2.trans hparsed

/-- An add event attaches its first hit. -/
lemma udevAdd_spec (devs : List SysDevice)
    (hvis : ∀ decl ∈ script.inputs, decl.type.udevVisible = true)
    (hc : Consistent script s) (hspec : s.inputDecls.map InputDecl.spec = parsed script)
    (dev : UdevDevice) (watchAns : String → Answers) :
    (∀ id, id ∈ (step script s (.udevAdd dev watchAns (answers w devs))).inputMap ↔
        id ∈ s.inputMap ∨ ∃ decl, FirstHit w devs dev (parsed script) decl ∧ decl.id = id) ∧
      (step script s (.udevAdd dev watchAns (answers w devs))).inputDecls.map InputDecl.spec =
        parsed script := by
  simp only [step, handleUdevAdd]
  by_cases hsub : dev.subsystem = none
  · rw [if_pos hsub]
    refine ⟨fun id => (or_iff_left ?_).symm, hspec⟩
    rintro ⟨decl, ⟨hfind, -⟩, -⟩
    have hit := List.find?_some hfind
    have hnone : eventNode dev decl.type = none := by simp [eventNode, hsub]
    simp only [hits, hnone] at hit
    split at hit <;> simp at hit
  rw [if_neg hsub]
  obtain ⟨hu, hi⟩ := watched_untouched script dev watchAns s
  have hboth : ∀ decl ∈ (watched script dev watchAns s).inputDecls,
      Declared script decl ∧ decl.type.udevVisible = true := by
    rw [hi]
    exact fun decl hmem => ⟨hc.inputDecls decl hmem, visible_of_map_spec hvis hspec decl hmem⟩
  constructor
  · intro id
    apply (mem_visitDecls_first dev _ hboth _ 0 id).trans
    rw [hi, ← hspec, exists_firstHit_map]
    exact or_congr_left (by rw [← hu.inputMap]; rfl)
  · refine (visitDecls_opens _ _ _ _ _ _ 0 fun decl hmem => (hboth decl hmem).1).2.trans ?_
    rw [← hspec, ← hi]

/-- The ids after a sequence of add events: one more device has arrived at each of them.

**Proof sketch.** Induction on the devices that arrive. -/
lemma mem_foldl_addEvents (hvis : ∀ decl ∈ script.inputs, decl.type.udevVisible = true)
    (order : List SysDevice) :
    ∀ (s : State) (arrived : List SysDevice), Consistent script s →
      s.inputDecls.map InputDecl.spec = parsed script → ∀ id,
      (id ∈ ((addEvents w devs arrived order).foldl (step script) s).inputMap ↔
        id ∈ s.inputMap ∨ ∃ pre dev post, order = pre ++ dev :: post ∧
          ∃ decl, FirstHit w (presentOf devs (arrived ++ pre ++ [dev])) dev.toUdevDevice
            (parsed script) decl ∧ decl.id = id) := by
  induction order with
  | nil => simp [addEvents]
  | cons dev order ih =>
    intro s arrived hc hspec id
    rw [addEvents, List.foldl_cons]
    obtain ⟨hmem, hspec'⟩ := udevAdd_spec (presentOf devs (arrived ++ [dev])) hvis hc hspec
      dev.toUdevDevice fun _ => answers w (presentOf devs (arrived ++ [dev]))
    rw [ih _ _ (consistent_step _ _ hc) hspec', hmem, or_assoc]
    apply or_congr_right
    constructor
    · rintro (hfirst | ⟨pre, dev', post, rfl, h⟩)
      · exact ⟨[], dev, order, rfl, by simpa using hfirst⟩
      · exact ⟨dev :: pre, dev', post, rfl, by simpa using h⟩
    · rintro ⟨_ | ⟨dev₀, pre⟩, dev', post, he, h⟩
      · obtain ⟨rfl, rfl⟩ := List.cons.inj he
        exact .inl (by simpa using h)
      · obtain ⟨rfl, rfl⟩ := List.cons.inj he
        exact .inr ⟨pre, dev', post, rfl, by simpa using h⟩

end Events

/-- A libusb declaration is hit by the event of a usb device whose syspath is the id of the
declaration, and by no other event. -/
theorem hits_libusb {w : World} {devs : List SysDevice} {dev : UdevDevice} {decl : InputDecl}
    (ht : decl.type = .libusb) :
    hits w devs dev decl = true ↔ dev.subsystem = some .usb ∧ dev.syspath = some decl.id := by
  unfold hits
  rw [matched, if_pos ht]
  rcases hsub : dev.subsystem with _ | subsystem
  · simp [eventNode, hsub]
  · cases subsystem <;> simp [eventNode, hsub, ht, byNode]

/-! ## The exact condition -/

/-- Two declarations of a script with distinct ids that have one id are the same. -/
lemma parsed_eq_of_id {script : Script} (hdistinct : (script.inputs.map (·.id)).Nodup)
    {decl decl' : InputDecl} (h : decl ∈ parsed script) (h' : decl' ∈ parsed script)
    (hid : decl.id = decl'.id) : decl = decl' := by
  obtain ⟨d, hd, rfl⟩ := List.mem_map.mp h
  obtain ⟨d', hd', rfl⟩ := List.mem_map.mp h'
  exact congrArg InputDecl.spec (List.inj_on_of_nodup_map hdistinct (List.mem_filter.mp hd).1
    (List.mem_filter.mp hd').1 hid)

/-- What an event attaches is attachable when all devices are present: a search that finds a device
among some of them finds one among all. -/
lemma FirstHit.attachable {w : World} {devs present : List SysDevice} {dev : UdevDevice}
    {decls : List InputDecl} {decl : InputDecl} (hsub : present ⊆ devs)
    (h : FirstHit w present dev decls decl) : decl ∈ decls ∧ Attachable w devs decl := by
  refine ⟨List.mem_of_find?_eq_some h.1, matched_mono hsub ?_, opens_mono hsub h.2⟩
  have hit := List.find?_some h.1
  unfold hits at hit
  split at hit
  · next he => rw [he]; rfl
  · cases hit

section Ways

variable {w : World} {creatable : OutputDecl → Bool} {script : Script}
  (hvis : ∀ decl ∈ script.inputs, decl.type.udevVisible = true) (devs order : List SysDevice)
include hvis

/-- The ids that are attached at start-up. -/
lemma mem_startUp (id : String) :
    id ∈ attachedIds script (startUp w creatable devs) ↔
      ∃ decl ∈ parsed script, Attachable w devs decl ∧ decl.id = id :=
  (openAll_spec w devs hvis creatable).1 id

/-- The ids that are attached by the events. -/
lemma mem_hotplug (id : String) :
    id ∈ attachedIds script (hotplug w creatable devs order) ↔
      ∃ pre dev post, order = pre ++ dev :: post ∧
        ∃ decl, FirstHit w (presentOf devs (pre ++ [dev])) dev.toUdevDevice (parsed script) decl ∧
          decl.id = id := by
  obtain ⟨hmem, hspec⟩ := openAll_spec w [] hvis creatable
  have hc : Consistent script (step script {} (.openAll creatable (answers w []))) :=
    consistent_step _ _ consistent_init
  apply (mem_foldl_addEvents hvis order _ [] hc hspec id).trans
  rw [hmem]
  apply or_iff_right
  rintro ⟨decl, -, ha, -⟩
  exact not_attachable_nil ha

end Ways

/-- **Hotplug agrees with start-up iff every attachable declaration is the first hit of some add
event.** The devices may arrive in any order; `order` is the order of their events.

**Proof sketch.** What an event attaches is attachable when all devices are present. So the two sets
differ only by declarations that are attachable and attached by no event, and these are those that
are never a first hit. -/
theorem hotplug_eq_startUp_iff (w : World) (creatable : OutputDecl → Bool) (script : Script)
    (hdistinct : (script.inputs.map (·.id)).Nodup)
    (hvis : ∀ decl ∈ script.inputs, decl.type.udevVisible = true) (devs order : List SysDevice) :
    attachedIds script (hotplug w creatable devs order) =
        attachedIds script (startUp w creatable devs) ↔
      ∀ decl ∈ parsed script, Attachable w devs decl →
        ∃ pre dev post, order = pre ++ dev :: post ∧
          FirstHit w (presentOf devs (pre ++ [dev])) dev.toUdevDevice (parsed script) decl := by
  constructor
  · intro heq decl hdecl ha
    have hin : decl.id ∈ attachedIds script (hotplug w creatable devs order) := by
      rw [heq, mem_startUp hvis]
      exact ⟨decl, hdecl, ha, rfl⟩
    obtain ⟨pre, dev, post, horder, decl', hfirst, hid⟩ := (mem_hotplug hvis devs order _).mp hin
    have hdecl' := (hfirst.attachable (List.filter_subset_self devs)).1
    exact ⟨pre, dev, post, horder, parsed_eq_of_id hdistinct hdecl' hdecl hid ▸ hfirst⟩
  · intro hall
    ext id
    rw [mem_hotplug hvis, mem_startUp hvis]
    constructor
    · rintro ⟨pre, dev, post, -, decl, hfirst, hid⟩
      obtain ⟨hdecl, ha⟩ := hfirst.attachable (List.filter_subset_self devs)
      exact ⟨decl, hdecl, ha, hid⟩
    · intro ⟨decl, hdecl, ha, hid⟩
      obtain ⟨pre, dev, post, horder, hfirst⟩ := hall decl hdecl ha
      exact ⟨pre, dev, post, horder, decl, hfirst, hid⟩

/-! ## A gamepad that is plugged in, and a keyboard that is declared twice -/

/-- The statement for one keyboard. -/
theorem hotplug_eq_startUp_iff_keyboard :
    let script : Script := ⟨[{ id := "kbd", type := .evdev }], [], fun _ => false⟩
    let dev : SysDevice := ⟨⟨some .input, some "/dev/input/event0", some "/sys/devices/input0"⟩,
      true, 3, 1133, 49948, some "Keyboard", none, none, -1, []⟩
    attachedIds script (hotplug plainWorld (fun _ => true) [dev] [dev]) =
        attachedIds script (startUp plainWorld (fun _ => true) [dev]) ↔
      ∀ decl ∈ parsed script, Attachable plainWorld [dev] decl →
        ∃ pre d post, [dev] = pre ++ d :: post ∧
          FirstHit plainWorld (presentOf [dev] (pre ++ [d])) d.toUdevDevice (parsed script) decl :=
  hotplug_eq_startUp_iff plainWorld _ _ (by decide) (by decide) _ _

/-- A gamepad declared for libusb by its vendor and product. -/
def usbScript : Script :=
  ⟨[{ id := "pad", type := .libusb, vendor := 1118, product := 654, interface := 0 }], [],
    fun _ => false⟩

/-- The gamepad. -/
def usbPad : SysDevice :=
  ⟨⟨some .usb, some "/dev/bus/usb/001/004", some "/sys/devices/pci0000:00/usb1/1-1"⟩, true, 3, 1118,
    654, none, none, none, -1, []⟩

/-- A keyboard declared twice, once to be read and once for its leds. -/
def overlapScript : Script :=
  ⟨[{ id := "keys", type := .evdev, vendor := 1133 }, { id := "leds", type := .evdev }], [],
    fun _ => false⟩

/-- The keyboard. -/
def keyboard : SysDevice :=
  ⟨⟨some .input, some "/dev/input/event0", some "/sys/devices/pci0000:00/usb1/1-2/event0"⟩, true, 3,
    1133, 49948, some "Keyboard", none, none, -1, []⟩

/-- The gamepad is attached at start-up but not by its event, and of the two declarations of the
keyboard its event attaches only the first. -/
theorem hotplug_ne_startUp_libusb :
    attachedIds usbScript (hotplug plainWorld (fun _ => true) [usbPad] [usbPad]) ≠
        attachedIds usbScript (startUp plainWorld (fun _ => true) [usbPad]) ∧
      attachedIds overlapScript (hotplug plainWorld (fun _ => true) [keyboard] [keyboard]) ≠
        attachedIds overlapScript (startUp plainWorld (fun _ => true) [keyboard]) := by
  constructor
  · intro h
    have hstart : "pad" ∈ ((startUp plainWorld (fun _ => true) [usbPad]).foldl (step usbScript)
        {}).inputMap := by decide
    have hplug : "pad" ∉ ((hotplug plainWorld (fun _ => true) [usbPad] [usbPad]).foldl
        (step usbScript) {}).inputMap := by decide
    exact hplug ((Set.ext_iff.mp h "pad").mpr hstart)
  · intro h
    have hstart : "leds" ∈ ((startUp plainWorld (fun _ => true) [keyboard]).foldl
        (step overlapScript) {}).inputMap := by decide
    have hplug : "leds" ∉ ((hotplug plainWorld (fun _ => true) [keyboard] [keyboard]).foldl
        (step overlapScript) {}).inputMap := by decide
    exact hplug ((Set.ext_iff.mp h "leds").mpr hstart)

end Aelkey.Device
