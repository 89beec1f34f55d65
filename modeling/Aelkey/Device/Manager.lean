import Aelkey.Device.State

set_option relaxedAutoImplicit false
set_option autoImplicit false

/-!
# Attaching and detaching devices

`DeviceManager` (`source/device_manager.cc`) with its four backends and the two dispatchers that
open device nodes, and the five ways in which devices come and go: `open_device`, `close_device`,
the udev events, and a hang-up of an evdev node.

## Main definitions

* `Aelkey.Device.matchDecl`, `Aelkey.Device.attach`, `Aelkey.Device.detach` — `DeviceManager`.
* `Aelkey.Device.openAll`, `Aelkey.Device.openOne`, `Aelkey.Device.closeDevice` — the Lua functions.
* `Aelkey.Device.handleUdevAdd`, `Aelkey.Device.handleUdevRemove`,
  `Aelkey.Device.handleEvdevHangup` — the events.
* `Aelkey.Device.Action`, `Aelkey.Device.step` — all of them as one step function.

## Design

`attach` works on a reference into `input_decls`; here it returns the changed declaration, which the
loops put back. `handle_event` of evdev passes `detach` a reference to the id inside the map entry
that `detach` erases before it reads the id once more; what the freed string reads as is an argument
of the event. `loop_start` does not call `flush_deferred` (the call is commented out there), so the
descriptor of a detached hidraw device is never closed.
-/

namespace Aelkey.Device

/-! ## The dispatchers -/

/-- `EPOLLIN | EPOLLHUP | EPOLLERR`. -/
def evdevMask : ℕ := 25

/-- `DispatcherEvdev::open_device`. -/
def evdevOpen (s : State) (devnode : String) (decl : InputDecl) (a : Attempt) :
    State × InputDecl × Bool :=
  let (kernel, fd) := s.kernel.openFile devnode (a.openFd s.kernel)
  let decl := { decl with fd := fd }
  if fd < 0 then ({ s with kernel := kernel }, decl, false)
  else if !a.initOk then ({ s with kernel := kernel.close fd }, { decl with fd := -1 }, false)
  else
    let haptics :=
      if a.hasFF then Haptics.registerSink s.haptics decl.id fd else s.haptics
    -- the first attempt to grab clears the flag again if it succeeds
    let grabNeeded :=
      if decl.grab then s.evdev.grabNeeded.insert fd (!a.grabOk) else s.evdev.grabNeeded
    let (kernel, base) := registerFd kernel s.evdev.base fd evdevMask a.epollRefused
    ({ s with
        kernel := kernel
        haptics := haptics
        frames := s.frames.insert decl.id []
        evdev :=
          { base := base
            devices := s.evdev.devices.insert fd decl.id
            idevMap := s.evdev.idevMap.insert fd ⟨a.hasFF⟩
            grabNeeded := grabNeeded } },
      decl, true)

/-- `DispatcherEvdev::close_device`. -/
def evdevClose (s : State) (decl : InputDecl) : State × InputDecl :=
  if 0 ≤ decl.fd then
    let (kernel, base) := unregisterFd s.kernel s.evdev.base decl.fd
    ({ s with
        kernel := kernel.close decl.fd
        evdev :=
          { base := base
            devices := s.evdev.devices.erase decl.fd
            idevMap := s.evdev.idevMap.erase decl.fd
            grabNeeded := s.evdev.grabNeeded.erase decl.fd } },
      { decl with fd := -1 })
  else
    ({ s with evdev := { s.evdev with idevMap := s.evdev.idevMap.erase decl.fd } }, decl)

/-- `DispatcherHidraw::open_device`. -/
def hidrawOpen (s : State) (devnode : String) (decl : InputDecl) (a : Attempt) : State × ℤ :=
  let (kernel, fd) := s.kernel.openFile devnode (a.openFd s.kernel)
  if fd < 0 then ({ s with kernel := kernel }, -1)
  else
    let (kernel, base) := registerFd kernel s.hidraw.base fd 1 a.epollRefused
    ({ s with
        kernel := kernel
        hidraw := { base := base, devices := s.hidraw.devices.insert fd decl } },
      fd)

/-- The first descriptor, in the order of the map, under which `devices_` has the device `id`. -/
def hidrawFind (devices : Table ℤ InputDecl) (id : String) : Option ℤ :=
  ((devices.entries.filter fun e => e.2.id = id).map (·.1)).min?

/-- `DispatcherHidraw::remove_device`. The descriptor is closed by `on_unregister` only. -/
def hidrawRemove (s : State) (id : String) : State :=
  match hidrawFind s.hidraw.devices id with
  | some fd =>
    let (kernel, base) := unregisterFd s.kernel s.hidraw.base fd
    { s with
      kernel := kernel
      hidraw := { base := base, devices := s.hidraw.devices.erase fd } }
  | none => s

/-! ## The backends -/

/-- `lazy_init` of the gatt backend. -/
def gattInit (s : State) (a : Attempt) : State :=
  { s with gatt := { s.gatt with conn := s.gatt.conn || a.busUp } }

/-- The position of the first occurrence of `pat`. -/
def findSub (pat : List Char) : List Char → Option ℕ
  | [] => if pat = [] then some 0 else none
  | c :: l => if pat <+: c :: l then some 0 else (findSub pat l).map (· + 1)

/-- `gatt_path` of `DeviceBackendGATT::attach`: the device path of a characteristic, else the path
itself. -/
def gattPath (devnode : String) : String :=
  if (findSub "/char".toList devnode.toList).isSome then
    match findSub "/service".toList devnode.toList with
    | some pos => String.ofList (devnode.toList.take pos)
    | none => ""
  else devnode

/-- `DeviceManager::match`: the backend's `match`. An empty string is no match, except that libusb
passes the id through. -/
def matchDecl (s : State) (decl : InputDecl) (a : Attempt) : State × Option String :=
  match decl.type with
  | .evdev | .hidraw => (s, if a.found = "" then none else some a.found)
  | .libusb => (s, some decl.id)
  | .gatt =>
    let s := gattInit s a
    (s, if s.gatt.conn then if a.found = "" then none else some a.found else none)
  | .other => (s, none)

/-- `DeviceBackendHidraw::attach`. -/
def hidrawAttach (s : State) (devnode : String) (decl : InputDecl) (a : Attempt) :
    State × InputDecl × Bool :=
  let (s, fd) := hidrawOpen s devnode decl a
  if fd < 0 then (s, decl, false) else (s, { decl with devnode := devnode, fd := fd }, true)

/-- `DeviceBackendLibUSB::attach`. -/
def libusbAttach (s : State) (decl : InputDecl) (a : Attempt) : State × InputDecl × Bool :=
  match a.handle with
  | none => (s, decl, false)
  | some handle =>
    if !a.claimOk then (s, decl, false)
    else ({ s with libusb := { devices := s.libusb.devices.insert decl.id handle } }, decl, true)

/-- `DeviceBackendGATT::attach`. -/
def gattAttach (s : State) (devnode : String) (decl : InputDecl) (a : Attempt) :
    State × InputDecl × Bool :=
  let s := gattInit s a
  if !s.gatt.conn ∨ devnode = "" then (s, decl, false)
  else
    ({ s with
        gatt := { s.gatt with gattPaths := s.gatt.gattPaths.insert decl.id (gattPath devnode) } },
      { decl with devnode := devnode }, true)

/-- The `attach` of the backend of the declaration's type. -/
def backendAttach (s : State) (devnode : String) (decl : InputDecl) (a : Attempt) :
    State × InputDecl × Bool :=
  match decl.type with
  | .evdev => evdevOpen s devnode decl a
  | .hidraw => hidrawAttach s devnode decl a
  | .libusb => libusbAttach s decl a
  | .gatt => gattAttach s devnode decl a
  | .other => (s, decl, false)

/-- `DeviceBackendLibUSB::detach`. -/
def libusbDetach (s : State) (id : String) : State × Bool :=
  match s.libusb.devices.lookup id with
  | none => (s, false)
  | some _ => ({ s with libusb := { devices := s.libusb.devices.erase id } }, true)

/-- `DeviceBackendGATT::detach`, for an id in `input_map`. -/
def gattDetach (s : State) (id : String) : State × Bool :=
  if !s.gatt.conn then (s, false)
  else ({ s with gatt := { s.gatt with gattPaths := s.gatt.gattPaths.erase id } }, true)

/-- The `detach` of the backend of the type of `decl`, the entry of the id in `input_map`. The
result has the entry as the backend leaves it. -/
def backendDetach (s : State) (id : String) (decl : InputDecl) : State × InputDecl × Bool :=
  match decl.type with
  | .evdev =>
    let r := evdevClose s decl
    (r.1, r.2, true)
  | .hidraw => (hidrawRemove s id, decl, true)
  | .libusb =>
    let r := libusbDetach s id
    (r.1, decl, r.2)
  | .gatt =>
    let r := gattDetach s id
    (r.1, decl, r.2)
  | .other => (s, decl, false)

/-! ## The manager -/

/-- `DeviceManager::attach`. The map entry is a copy of the declaration as the backend leaves it. -/
def attach (s : State) (devnode : String) (decl : InputDecl) (a : Attempt) :
    State × InputDecl × Bool :=
  if decl.id ∈ s.inputMap then (s, decl, false)
  else
    match backendAttach s devnode decl a with
    | (s, decl, true) => ({ s with inputMap := s.inputMap.insert decl.id decl }, decl, true)
    | (s, decl, false) => (s, decl, false)

/-- `DeviceManager::detach`. The last line reads the argument `dev_id` once more, after the map
entry has been erased: it is then `devId'`. -/
def detach (s : State) (devId devId' : String) : State × Option InputDecl :=
  match s.inputMap.lookup devId with
  | none => (s, none)
  | some decl =>
    match backendDetach s devId decl with
    | (s, decl, true) =>
      ({ s with inputMap := s.inputMap.erase devId, frames := s.frames.erase devId' }, some decl)
    | (s, _, false) => (s, none)

/-- `DispatcherUdev::notify_state_change`, for the list of notifications made so far. -/
def notify (script : Script) (notes : List Note) (decl : InputDecl) (state : String) : List Note :=
  if decl.onState = "" ∨ !script.isFunction decl.onState then notes
  else notes ++ [⟨decl.onState, decl.id, state⟩]

/-- Attach a declaration that matches, remember its node and notify: the common part of
`attach_inputs_from_decls`, `device_open` and `handle_udev_add`. -/
def attachAndNotify (script : Script) (s : State) (devnode : String) (decl : InputDecl)
    (a : Attempt) : State × InputDecl × Bool :=
  match attach s devnode decl a with
  | (s, decl, true) =>
    let decl := { decl with devnode := devnode }
    ({ s with notes := notify script s.notes decl "add" }, decl, true)
  | (s, decl, false) => (s, decl, false)

/-- Detach a device and notify, unless its id is empty: the common part of `handle_udev_remove` and
`handle_event`. -/
def detachAndNotify (script : Script) (s : State) (devId devId' : String) : State :=
  match detach s devId devId' with
  | (s, some removed) =>
    if removed.id = "" then s else { s with notes := notify script s.notes removed "remove" }
  | (s, none) => s

/-! ## The loops over the declarations -/

/-- What a loop does with a declaration that matches. -/
inductive Visit
  | skip
  | attach (devnode : String)
  | stop

/-- A loop over the declarations from position `i` on: match the ones that are `wanted` and let
`visit` decide about those that match. With `single` the loop ends after the first attempt. The
result has the declarations as they are then, and whether the last attempt succeeded. -/
def visitDecls (script : Script) (ans : Answers) (wanted : InputDecl → Bool)
    (visit : State → InputDecl → String → Visit) (single : Bool) :
    State → ℕ → List InputDecl → State × List InputDecl × Bool
  | s, _, [] => (s, [], false)
  | s, i, decl :: decls =>
    let skip := fun s : State =>
      let r := visitDecls script ans wanted visit single s (i + 1) decls
      (r.1, decl :: r.2.1, r.2.2)
    if !wanted decl then skip s
    else
      match matchDecl s decl (ans i decl) with
      | (s, none) => skip s
      | (s, some matched) =>
        match visit s decl matched with
        | .skip => skip s
        | .stop => (s, decl :: decls, false)
        | .attach devnode =>
          let r := attachAndNotify script s devnode decl (ans i decl)
          if single then (r.1, r.2.1 :: decls, r.2.2)
          else
            let r' := visitDecls script ans wanted visit single r.1 (i + 1) decls
            (r'.1, r.2.1 :: r'.2.1, r.2.2)

/-- Run such a loop on `input_decls`. -/
def visitInputs (script : Script) (ans : Answers) (wanted : InputDecl → Bool)
    (visit : State → InputDecl → String → Visit) (single : Bool) (s : State) : State × Bool :=
  let r := visitDecls script ans wanted visit single s 0 s.inputDecls
  ({ r.1 with inputDecls := r.2.1 }, r.2.2)

/-- `AelkeyState::attach_inputs_from_decls`. -/
def attachInputsFromDecls (script : Script) (ans : Answers) (s : State) : State :=
  (visitInputs script ans (fun _ => true) (fun _ _ matched => .attach matched) false s).1

/-! ## `open_device` and `close_device` -/

/-- `parse_outputs_from_lua` and `parse_inputs_from_lua`. -/
def parseDecls (script : Script) (s : State) : State :=
  { s with
    outputDecls := script.outputs.filter fun out => out.id ≠ ""
    inputDecls := (script.inputs.filter fun decl => decl.id ≠ "").map InputDecl.spec }

/-- `create_outputs_from_decls`, where `creatable` says which output devices can be created. -/
def createOutputsFromDecls (creatable : OutputDecl → Bool) (s : State) : State :=
  { s with
    uinputDevices := s.outputDecls.foldl (fun devices out =>
      if out.id = "" ∨ out.id ∈ devices then devices
      else if creatable out then devices.insert out.id () else devices) s.uinputDevices }

/-- `device_open` without an argument. -/
def openAll (script : Script) (creatable : OutputDecl → Bool) (ans : Answers) (s : State) :
    State × Bool :=
  if s.inputMap.entries ≠ [] ∨ s.uinputDevices.entries ≠ [] then (s, true)
  else
    (attachInputsFromDecls script ans (createOutputsFromDecls creatable (parseDecls script s)),
      true)

/-- `device_open` for one device. -/
def openOne (script : Script) (creatable : OutputDecl → Bool) (ans : Answers) (devId : String)
    (s : State) : State × Bool :=
  let s :=
    if s.inputDecls = [] ∧ s.outputDecls = [] then
      createOutputsFromDecls creatable (parseDecls script s)
    else s
  visitInputs script ans (fun decl => decl.id = devId) (fun _ _ matched => .attach matched) true s

/-- `device_close`. -/
def closeDevice (devId : String) (s : State) : State × Bool :=
  match detach s devId devId with
  | (s, some removed) => (s, removed.id ≠ "")
  | (s, none) => (s, false)

/-! ## Events -/

/-- Whether the declarations of a type are identified by the device node in events of a
subsystem. -/
def byNode (type : DeviceType) (subsystem : Subsystem) : Bool :=
  (type = .evdev && subsystem = .input) || (type = .hidraw && subsystem = .hidraw)

/-- The string of a udev device that identifies it to declarations of a type, if the device is of
the subsystem of the type: the device node, or the syspath for libusb. -/
def eventNode (dev : UdevDevice) (type : DeviceType) : Option String :=
  match dev.subsystem with
  | none => none
  | some subsystem =>
    if byNode type subsystem then some (dev.node.getD "")
    else if type = .libusb ∧ subsystem = .usb then dev.syspath
    else none

/-- The watchlist part of `handle_udev_add`, for one declaration. -/
def watchAddDecl (script : Script) (dev : UdevDevice) (a : Attempt) (s : State)
    (decl : InputDecl) : State × InputDecl :=
  match matchDecl s decl a with
  | (s, some matched) =>
    if eventNode dev decl.type = some matched then
      let decl := { decl with devnode := matched, onState := s.watch.onWatchlist }
      ({ s with watch := { s.watch with notes := notify script s.watch.notes decl "add" } }, decl)
    else (s, decl)
  | (s, none) => (s, decl)

/-- The watchlist part of `handle_udev_add`, for the declarations of one entry. -/
def watchAddDecls (script : Script) (dev : UdevDevice) (ans : Answers) :
    State → ℕ → List InputDecl → State × List InputDecl
  | s, _, [] => (s, [])
  | s, i, decl :: decls =>
    let r := watchAddDecl script dev (ans i decl) s decl
    let r' := watchAddDecls script dev ans r.1 (i + 1) decls
    (r'.1, r.2 :: r'.2)

/-- The watchlist part of `handle_udev_add`. -/
def watchAdd (script : Script) (dev : UdevDevice) (ans : String → Answers) :
    State → List (String × List InputDecl) → State × List (String × List InputDecl)
  | s, [] => (s, [])
  | s, entry :: entries =>
    let r := watchAddDecls script dev (ans entry.1) s 0 entry.2
    let r' := watchAdd script dev ans r.1 entries
    (r'.1, (entry.1, r.2) :: r'.2)

/-- `handle_udev_add`. -/
def handleUdevAdd (script : Script) (dev : UdevDevice) (watchAns : String → Answers)
    (ans : Answers) (s : State) : State :=
  if dev.subsystem = none then s
  else
    let r := watchAdd script dev watchAns s s.watch.watchMap
    let s := { r.1 with watch := { r.1.watch with watchMap := r.2 } }
    (visitInputs script ans (fun _ => true) (fun s decl matched =>
      if eventNode dev decl.type = some matched then
        if decl.id ∈ s.inputMap then .stop else .attach matched
      else .skip) true s).1

/-- The watchlist part of `handle_udev_remove`, for one declaration. -/
def watchRemoveDecl (script : Script) (dev : UdevDevice) (w : Watch) (decl : InputDecl) :
    Watch × InputDecl :=
  if eventNode dev decl.type = some decl.devnode then
    let decl := { decl with onState := w.onWatchlist }
    ({ w with notes := notify script w.notes decl "remove" }, { decl with devnode := "" })
  else (w, decl)

/-- The watchlist part of `handle_udev_remove`. -/
def watchRemove (script : Script) (dev : UdevDevice) (w : Watch) : Watch :=
  w.watchMap.foldl (fun w entry =>
    let r := entry.2.foldl (fun p decl =>
      let r := watchRemoveDecl script dev p.1 decl
      (r.1, p.2 ++ [r.2])) (w, ([] : List InputDecl))
    { r.1 with watchMap := r.1.watchMap ++ [(entry.1, r.2)] }) { w with watchMap := [] }

/-- The first declaration that remembers the device of an event. -/
def remembered (dev : UdevDevice) (decls : List InputDecl) : Option InputDecl :=
  decls.find? fun decl => eventNode dev decl.type = some decl.devnode

/-- `handle_udev_remove`. -/
def handleUdevRemove (script : Script) (dev : UdevDevice) (s : State) : State :=
  if dev.subsystem = none then s
  else
    let s := { s with watch := watchRemove script dev s.watch }
    match remembered dev s.inputDecls with
    | some decl => detachAndNotify script s decl.id decl.id
    | none => s

/-- `DispatcherEvdev::handle_event` for `EPOLLHUP` or `EPOLLERR`. The id inside the map entry reads
as `freed` after `detach` has erased the entry. -/
def handleEvdevHangup (script : Script) (fd : ℤ) (freed : String) (s : State) : State :=
  match s.evdev.devices.lookup fd with
  | none => s
  | some id =>
    match s.inputMap.lookup id with
    | none => s
    | some decl => detachAndNotify script s decl.id freed

/-! ## Steps -/

/-- What happens to the device layer, with what the world answers. -/
inductive Action
  | openAll (creatable : OutputDecl → Bool) (ans : Answers)
  | openOne (creatable : OutputDecl → Bool) (ans : Answers) (devId : String)
  | close (devId : String)
  | udevAdd (dev : UdevDevice) (watchAns : String → Answers) (ans : Answers)
  | udevRemove (dev : UdevDevice)
  | evdevHangup (fd : ℤ) (freed : String)

/-- One action. -/
def step (script : Script) (s : State) : Action → State
  | .openAll creatable ans => (openAll script creatable ans s).1
  | .openOne creatable ans devId => (openOne script creatable ans devId s).1
  | .close devId => (closeDevice devId s).1
  | .udevAdd dev watchAns ans => handleUdevAdd script dev watchAns ans s
  | .udevRemove dev => handleUdevRemove script dev s
  | .evdevHangup fd freed => handleEvdevHangup script fd freed s

end Aelkey.Device
