import Aelkey.Haptics.Model
import Aelkey.Loop.Dispatcher

set_option relaxedAutoImplicit false
set_option autoImplicit false

/-!
# Declarations and the tables of the device layer

`AelkeyState` (`source/aelkey_state.h`) has the parsed declarations, the attached inputs and their
frame buffers. The dispatchers and backends keep tables of their own: evdev and hidraw by file
descriptor, libusb and gatt by device id. This file has all of them, and what the rest of the world
may answer while a declaration is processed.

## Main definitions

* `Aelkey.Device.InputDecl` — `InputDecl` of `device_declarations.h`.
* `Aelkey.Device.State` — the tables of the device layer, with the kernel.
* `Aelkey.Device.Attempt` — the answers of the kernel and the libraries.
* `Aelkey.Device.Script` — the Lua globals the layer reads.

## Design

The type of a declaration is a string in the source; the backends are registered under four names,
and every other string acts alike. Notifications are recorded, not run: the callbacks do not call
back into the device layer.
-/

namespace Aelkey.Device

/-- The type of a declaration: one of the names of the registered backends, or any other. -/
inductive DeviceType
  | evdev
  | hidraw
  | libusb
  | gatt
  | other
deriving DecidableEq

/-- `InputDecl`. -/
structure InputDecl where
  id : String
  type : DeviceType
  vendor : ℤ := 0
  product : ℤ := 0
  bus : ℤ := 0
  interface : ℤ := -1
  name : String := ""
  phys : String := ""
  uniq : String := ""
  grab : Bool := false
  capabilities : List (ℤ × ℤ) := []
  service : ℤ := 0
  characteristic : ℤ := 0
  devnode : String := ""
  onEvent : String := ""
  onState : String := ""
  fd : ℤ := -1
deriving DecidableEq

/-- A declaration as its parser returns it: without a node and a descriptor. -/
def InputDecl.spec (decl : InputDecl) : InputDecl := { decl with devnode := "", fd := -1 }

/-- `OutputDecl`, as far as the opening of devices reads it. -/
structure OutputDecl where
  id : String
deriving DecidableEq

/-- What the device layer reads of the Lua state: the tables `inputs` and `outputs`, and which
globals are functions. -/
structure Script where
  inputs : List InputDecl
  outputs : List OutputDecl
  isFunction : String → Bool

/-- `struct input_event`. -/
structure InputEvent where
  sec : ℤ
  usec : ℤ
  type : ℕ
  code : ℕ
  value : ℤ
deriving DecidableEq

/-- A handle of libevdev. -/
structure Idev where
  hasFF : Bool
deriving DecidableEq

/-- A notification handed to a state callback. -/
structure Note where
  callback : String
  device : String
  state : String
deriving DecidableEq

/-- `DispatcherEvdev`. -/
structure DispatcherEvdev where
  base : DispatcherBase := { type := "evdev" }
  devices : Table ℤ String := ∅
  idevMap : Table ℤ Idev := ∅
  grabNeeded : Table ℤ Bool := ∅

/-- `DispatcherHidraw`. -/
structure DispatcherHidraw where
  base : DispatcherBase := { type := "hidraw" }
  devices : Table ℤ InputDecl := ∅

/-- `DeviceBackendLibUSB`: the handles by device id. -/
structure BackendLibUSB where
  devices : Table String ℕ := ∅

/-- `DeviceBackendGATT`: whether there is a connection, and the paths by device id. -/
structure BackendGATT where
  conn : Bool := false
  gattPaths : Table String String := ∅

/-- The watchlist of `aelkey.daemon`, in the order of its keys, with the notifications it has
made. -/
structure Watch where
  watchMap : List (String × List InputDecl) := []
  onWatchlist : String := ""
  notes : List Note := []

/-- The tables of the device layer, the kernel, and the notifications made for normal devices. -/
structure State where
  kernel : Kernel := Epoll.Kernel.empty
  evdev : DispatcherEvdev := {}
  hidraw : DispatcherHidraw := {}
  libusb : BackendLibUSB := {}
  gatt : BackendGATT := {}
  haptics : Haptics.Dispatcher := {}
  inputMap : Table String InputDecl := ∅
  frames : Table String (List InputEvent) := ∅
  inputDecls : List InputDecl := []
  outputDecls : List OutputDecl := []
  uinputDevices : Table String Unit := ∅
  watch : Watch := {}
  notes : List Note := []

/-- What the kernel and the libraries answer while one declaration is processed. -/
structure Attempt where
  /-- the device node or object path a search finds, empty for none -/
  found : String
  /-- the descriptor `open` returns, if it is unused -/
  openFd : Kernel → ℤ
  /-- `libevdev_new_from_fd` succeeds -/
  initOk : Bool
  /-- the device has force feedback -/
  hasFF : Bool
  /-- the grab succeeds at once -/
  grabOk : Bool
  /-- `EPOLL_CTL_ADD` is refused although its rules allow it -/
  epollRefused : Bool
  /-- the handle of `libusb_open_device_with_vid_pid` -/
  handle : Option ℕ
  /-- the interface can be claimed -/
  claimOk : Bool
  /-- `dbus_bus_get` succeeds -/
  busUp : Bool

/-- The answers for a list of declarations, by position. -/
abbrev Answers := ℕ → InputDecl → Attempt

/-- The subsystem of a udev device. -/
inductive Subsystem
  | input
  | hidraw
  | usb
  | other
deriving DecidableEq

/-- What the udev events read of a device. -/
structure UdevDevice where
  subsystem : Option Subsystem
  node : Option String
  syspath : Option String
deriving DecidableEq

end Aelkey.Device
