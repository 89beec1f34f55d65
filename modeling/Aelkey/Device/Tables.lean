import Aelkey.Device.Consistency

set_option relaxedAutoImplicit false
set_option autoImplicit false

/-!
# The tables mirror `input_map`

Everything the backends and dispatchers keep about attached devices agrees with `input_map` in every
reachable state, with one exception. `DeviceManager::detach` gets a reference to the device id; in a
hang-up this is a reference into the map entry, and `frames.erase` reads it after the entry is gone.

## Main definitions

* `Aelkey.Device.Mirrors` — the tables mirror `input_map`.
* `Aelkey.Device.Intact` — the freed id of a hang-up still reads as the id of the device.

## Main results

* `Aelkey.Device.mirrors_iff_intact` — the tables mirror the map in all states of a run iff every
  hang-up of an attached device finds its freed id intact.
* `Aelkey.Device.not_mirrors_longId` — they do not if the memory of a long id has been reused.
-/

namespace Aelkey.Device

/-- The tables mirror `input_map`: an entry is stored under its own id, the tables by descriptor
relate the descriptors and the ids of the attached devices of their type, and the tables by id have
the ids of these devices as keys. -/
structure Mirrors (s : State) : Prop where
  ids : ∀ id decl, s.inputMap.lookup id = some decl → decl.id = id
  evdev : ∀ fd id, s.evdev.devices.lookup fd = some id ↔
    ∃ decl, AttachedAs s id .evdev decl ∧ decl.fd = fd
  idev : ∀ fd, fd ∈ s.evdev.idevMap ↔ fd ∈ s.evdev.devices
  frames : ∀ id, id ∈ s.frames ↔ ∃ decl, AttachedAs s id .evdev decl
  hidraw : ∀ fd id, (∃ stored, s.hidraw.devices.lookup fd = some stored ∧ stored.id = id) ↔
    ∃ decl, AttachedAs s id .hidraw decl ∧ decl.fd = fd
  libusb : ∀ id, id ∈ s.libusb.devices ↔ ∃ decl, AttachedAs s id .libusb decl
  gatt : ∀ id, id ∈ s.gatt.gattPaths ↔ ∃ decl, AttachedAs s id .gatt decl

/-- If the action is a hang-up of an attached device, the id in the freed map entry still reads as
the id of the device. -/
def Intact (s : State) : Action → Prop
  | .evdevHangup fd freed => ∀ id, s.evdev.devices.lookup fd = some id → freed = id
  | _ => True

section Frames

variable {script : Script} {s s' : State}

/-- With the invariant, the frame buffers are all that remains to be checked. -/
lemma mirrors_iff (hc : Core script s) :
    Mirrors s ↔ ∀ id, id ∈ s.frames ↔ ∃ decl, AttachedAs s id .evdev decl :=
  ⟨Mirrors.frames, fun hf => ⟨hc.ids, hc.evdev, hc.idev, hf, hc.hidraw, hc.libusb, hc.gatt⟩⟩

/-- The frame buffers after an attach. -/
lemma Attaches.mem_frames {decl : InputDecl} (ha : Attaches script s s' decl) (id : String) :
    id ∈ s'.frames ↔ decl.type = .evdev ∧ id = decl.id ∨ id ∈ s.frames := by
  rw [← AList.lookup_isSome, ← AList.lookup_isSome, ha.frames]
  split_ifs with hnew
  · simp [hnew]
  · simp [hnew]

/-- Attaching devices keeps the frame buffers in step. -/
lemma Opens.frames (ho : Opens script s s')
    (hf : ∀ id, id ∈ s.frames ↔ ∃ decl, AttachedAs s id .evdev decl) :
    ∀ id, id ∈ s'.frames ↔ ∃ decl, AttachedAs s' id .evdev decl := by
  induction ho with
  | refl => exact hf
  | untouched h _ ih => exact ih (by simpa only [AttachedAs, h.frames, h.inputMap] using hf)
  | attaches h _ ih => exact ih (h.idTable hf h.mem_frames)

/-- Detaching a device keeps the frame buffers in step if they lose the one under its id.

**Proof sketch.** A device of another type has no buffer to lose. -/
lemma Detaches.frames_mirror {decl : InputDecl} {noted : Bool}
    (hd : Detaches script s s' decl decl.id noted)
    (hf : ∀ id, id ∈ s.frames ↔ ∃ decl, AttachedAs s id .evdev decl) :
    ∀ id, id ∈ s'.frames ↔ ∃ decl, AttachedAs s' id .evdev decl := by
  refine hd.idTable hf fun id => ?_
  rw [hd.frames]
  refine and_congr_left fun hid => not_congr ⟨?_, And.right⟩
  rintro rfl
  obtain ⟨d, ha⟩ := (hf decl.id).mp hid
  exact ⟨Option.some.inj (ha.1.symm.trans hd.entry) ▸ ha.2, rfl⟩

/-- Only a hang-up removes the buffer under another name than the id of the device, and it is of an
evdev device. -/
lemma intact_iff (hc : Core script s) {a : Action} {decl : InputDecl} {freed : String}
    (h : detached s a = some (decl.id, freed)) (hl : s.inputMap.lookup decl.id = some decl) :
    (Intact s a ↔ freed = decl.id) ∧ (freed = decl.id ∨ decl.type = .evdev) := by
  cases a with
  | openAll => cases h
  | openOne => cases h
  | udevAdd => cases h
  | close devId =>
    cases h
    simp [Intact]
  | udevRemove dev =>
    simp only [detached] at h
    split_ifs at h
    obtain ⟨d, -, he⟩ := Option.map_eq_some_iff.mp h
    obtain ⟨hid, hfreed⟩ := Prod.mk.inj he
    simp [Intact, ← hid, hfreed]
  | evdevHangup fd freed' =>
    obtain ⟨id, he, hpair⟩ := Option.map_eq_some_iff.mp h
    cases hpair
    obtain ⟨d, ha, -⟩ := (hc.evdev fd decl.id).mp he
    have hd : d = decl := Option.some.inj (ha.1.symm.trans hl)
    simp [Intact, he, ← hd, ha.2]

/-- An action that detaches nothing has no freed id. -/
lemma intact_of_none (hc : Core script s) {a : Action}
    (h : ∀ target, detached s a = some target → target.1 ∉ s.inputMap) : Intact s a := by
  cases a with
  | evdevHangup fd freed =>
    intro id he
    obtain ⟨d, ha, -⟩ := (hc.evdev fd id).mp he
    exact absurd (Table.mem_of_lookup ha.1) (h (id, freed) (by simp [detached, he]))
  | _ => trivial

/-- One action keeps the tables in step iff the id it frees is intact.

**Proof sketch.** If the freed id of a hang-up reads as something else, the buffer of the device is
still there, but the device is not. -/
lemma mirrors_step_iff (hc : Consistent script s) (hm : Mirrors s) (a : Action) :
    Mirrors (step script s a) ↔ Intact s a := by
  rw [mirrors_iff (consistent_step s a hc).toCore]
  rcases step_cases hc a with ⟨hopen, ho⟩ | ⟨-, hu, hnone⟩ | ⟨-, decl, freed, hdet, hd⟩
  · apply iff_of_true (ho.frames hm.frames)
    cases a with
    | evdevHangup => cases hopen
    | _ => trivial
  · have ho : Opens script s (step script s a) := hu.opens
    exact iff_of_true (ho.frames hm.frames) (intact_of_none hc.toCore hnone)
  · obtain ⟨hiff, htype⟩ := intact_iff hc.toCore hdet hd.entry
    rw [hiff]
    constructor
    · intro hf
      by_contra hne
      have hin : decl.id ∈ s.frames :=
        (hm.frames decl.id).mpr ⟨decl, hd.entry, htype.resolve_left hne⟩
      obtain ⟨d, ha⟩ := (hf decl.id).mp ((hd.frames decl.id).mpr ⟨Ne.symm hne, hin⟩)
      exact ((hd.attachedAs _ _ _).mp ha).1 rfl
    · rintro rfl
      exact hd.frames_mirror hm.frames

/-- Nothing is attached at first. -/
lemma mirrors_init : Mirrors {} := by
  have hc : Core ⟨[], [], fun _ => false⟩ {} := core_init
  rw [mirrors_iff hc]
  simp [AttachedAs]

end Frames

/-- **The tables mirror `input_map` in all states of a run iff no hang-up of an attached device
finds its freed id overwritten.** -/
theorem mirrors_iff_intact (script : Script) (as : List Action) :
    Run.Always (step script) Mirrors {} as ↔ Run.EachStep (step script) Intact {} as :=
  Run.always_iff_eachStep_of_step (I := Consistent script)
    (fun s a hc _ _ => consistent_step s a hc) (fun _ a hc hm => mirrors_step_iff hc hm a)
    consistent_init mirrors_init as

/-! ## A hang-up after which the freed id is gone -/

/-- A script with one keyboard. -/
def longIdScript : Script :=
  ⟨[{ id := "kbd-left-of-the-desk", type := .evdev }], [], fun _ => false⟩

/-- Everything succeeds: `event0` is found and opened under descriptor 3. -/
def attempt0 : Attempt where
  found := "/dev/input/event0"
  openFd _ := 3
  initOk := true
  hasFF := false
  grabOk := true
  epollRefused := false
  handle := none
  claimOk := true
  busUp := true

/-- The keyboard is opened, and its node hangs up. The id is too long to be stored inside the map
entry, and its memory is empty when `frames.erase` reads it. -/
def longId : List Action := [.openAll (fun _ => true) fun _ _ => attempt0, .evdevHangup 3 ""]

/-- After `longId` nothing is attached, but a frame buffer is left. -/
theorem not_mirrors_longId : ¬ Run.Always (step longIdScript) Mirrors {} longId := by
  intro h
  have hin : "kbd-left-of-the-desk" ∈ (longId.foldl (step longIdScript) {}).frames := by decide
  obtain ⟨decl, ha, -⟩ := (h.last.frames _).mp hin
  have hnone : (longId.foldl (step longIdScript) {}).inputMap.lookup "kbd-left-of-the-desk" =
      none := by decide
  rw [hnone] at ha
  cases ha

end Aelkey.Device
