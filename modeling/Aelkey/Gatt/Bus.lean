import Aelkey.Device.Match
import Aelkey.Lib.Hex
import Mathlib.Data.List.Sort

set_option relaxedAutoImplicit false
set_option autoImplicit false

/-!
# The gatt backend on the bus

`DeviceBackendGATT` (`source/device_backend_gatt.h`, `source/device_backend_gatt.cc`): the search
for object paths in the managed objects of BlueZ, the paths that the Lua functions build, the
subscriptions made by `attach`, and the dispatch of notifications.

## Main definitions

* `Aelkey.Gatt.ManagedObject`, `Aelkey.Gatt.Message` — what the bus delivers.
* `Aelkey.Gatt.resolveGattPaths` — `resolve_gatt_paths`, with its three scans.
* `Aelkey.Gatt.resolveCharPath` — `resolve_char_path`.
* `Aelkey.Gatt.notifyTargets` — the characteristics that `attach` subscribes.
* `Aelkey.Gatt.processOneMessage` — `process_one_message`.

## Design

A reply of `GetManagedObjects` is a list of objects with a list of interfaces each; of an interface
the searches read its name and, of a device, three properties. The dictionary of an interface has
every property once. Paths are strings, and are searched as lists of characters.
-/

namespace Aelkey.Gatt

open Device

/-! ## Managed objects -/

/-- The properties of `org.bluez.Device1` that the search reads, empty if absent. -/
structure DeviceProps where
  name : String := ""
  aliasName : String := ""
  address : String := ""
deriving DecidableEq

/-- An interface of an object, by its name: `org.bluez.Device1`, `org.bluez.GattService1`,
`org.bluez.GattCharacteristic1`, or any other. -/
inductive Interface
  | device (props : DeviceProps)
  | service
  | characteristic
  | other (name : String)
deriving DecidableEq

/-- An entry of the reply of `GetManagedObjects`. -/
structure ManagedObject where
  path : String
  interfaces : List Interface
deriving DecidableEq

/-- The properties of the device, if the object is one. -/
def Interface.props : Interface → Option DeviceProps
  | .device props => some props
  | _ => none

/-- The inner loop of `get_matching_devices`: the properties, if there is a device interface. -/
def ManagedObject.deviceProps (o : ManagedObject) : Option DeviceProps :=
  (o.interfaces.filterMap Interface.props).getLast?

/-! ## The search -/

/-- The conditions of `get_matching_devices` on a device. -/
def deviceMatches (w : World) (decl : InputDecl) (props : DeviceProps) : Bool :=
  (decl.uniq ≠ "" && matchString w decl.uniq props.address) ||
    (decl.name ≠ "" &&
      (matchString w decl.name props.name || matchString w decl.name props.aliasName))

/-- `get_matching_devices`. -/
def getMatchingDevices (w : World) (decl : InputDecl) (tree : List ManagedObject) : List String :=
  tree.filterMap fun o =>
    match o.deviceProps with
    | some props => if deviceMatches w decl props then some o.path else none
    | none => none

/-- `strstr(path, key)` and `strtoul` behind the key: the handle in a path, if the key occurs. -/
def handleAt (key path : String) : Option ℤ :=
  (findSub key.toList path.toList).map fun pos =>
    Hex.toInt (Hex.strtoul (path.toList.drop (pos + key.length)))

/-- The common loops of `get_matching_services` and `get_matching_characteristics`: the objects with
the interface below the parents whose handle is the wanted one, or any if that is zero. -/
def getMatchingChildren (iface : Interface) (key : String) (wanted : ℤ) (parents : List String)
    (tree : List ManagedObject) : List String :=
  parents.flatMap fun parent =>
    tree.flatMap fun o =>
      o.interfaces.filterMap fun i =>
        if i = iface ∧ findSub parent.toList o.path.toList = some 0 then
          match handleAt key o.path with
          | some handle => if wanted = 0 ∨ handle = wanted then some o.path else none
          | none => none
        else none

/-- `get_matching_services`. -/
def getMatchingServices (decl : InputDecl) (devices : List String) (tree : List ManagedObject) :
    List String :=
  getMatchingChildren .service "service" decl.service devices tree

/-- `get_matching_characteristics`. -/
def getMatchingCharacteristics (decl : InputDecl) (services : List String)
    (tree : List ManagedObject) : List String :=
  getMatchingChildren .characteristic "char" decl.characteristic services tree

/-- `resolve_gatt_paths`, for the reply of the bus, if there is one. With `collect` a result list is
passed; the second component is what is stored in it, if anything. -/
def resolveGattPaths (w : World) (reply : Option (List ManagedObject)) (decl : InputDecl)
    (collect : Bool) : String × Option (List String) :=
  match reply with
  | none => ("", none)
  | some tree =>
    match getMatchingDevices w decl tree with
    | [] => ("", none)
    | device :: devices =>
      if decl.service = 0 ∧ !collect then (device, none)
      else
        match getMatchingServices decl (device :: devices) tree with
        | [] => ("", none)
        | service :: services =>
          if decl.characteristic = 0 ∧ !collect then (service, none)
          else
            let characteristics := getMatchingCharacteristics decl (service :: services) tree
            let found := if collect then some characteristics else none
            if decl.service = 0 then (device, found)
            else if decl.characteristic = 0 then (service, found)
            else (characteristics.headD "", found)

/-! ## Paths -/

/-- `GattPathType`. -/
inductive GattPathType
  | device
  | service
  | characteristic
deriving DecidableEq

/-- `classify_gatt_path`. -/
def classifyGattPath (path : String) : GattPathType :=
  if (findSub "/char".toList path.toList).isSome then .characteristic
  else if (findSub "/service".toList path.toList).isSome then .service
  else .device

/-- `derive_device_path_from_char_path`. -/
def deriveDevicePathFromCharPath (charPath : String) : String :=
  match findSub "/service".toList charPath.toList with
  | some pos => String.ofList (charPath.toList.take pos)
  | none => ""

/-- What `attach` stores in `gatt_paths_`, by the type of the path it attaches. -/
lemma gattPath_eq (devnode : String) :
    gattPath devnode =
      match classifyGattPath devnode with
      | .characteristic => deriveDevicePathFromCharPath devnode
      | .service | .device => devnode := by
  unfold gattPath classifyGattPath
  split_ifs <;> rfl

/-- `get_gatt_path`. -/
def getGattPath (s : State) (id : String) : String := (s.gatt.gattPaths.lookup id).getD ""

/-- `resolve_char_path`; an override that is not given is -1. -/
def resolveCharPath (s : State) (id : String) (service characteristic : ℤ) : String :=
  let gp := getGattPath s id
  if gp = "" then ""
  else if service ≤ 0 ∧ characteristic ≤ 0 then gp
  else if service ≤ 0 ∨ characteristic ≤ 0 then ""
  else
    String.ofList (gp.toList ++ "/service".toList ++ Hex.format4 Hex.upperDigit service.toNat ++
      "/char".toList ++ Hex.format4 Hex.upperDigit characteristic.toNat)

/-! ## Subscriptions -/

/-- The characteristics that `attach` subscribes: the path itself if it is a characteristic, else
those the search finds and which support notifications. -/
def notifyTargets (w : World) (reply : Option (List ManagedObject)) (supportsNotify : String → Bool)
    (decl : InputDecl) (devnode : String) : List String :=
  match classifyGattPath devnode with
  | .characteristic => [devnode]
  | .service | .device =>
    ((resolveGattPaths w reply decl true).2.getD []).filter supportsNotify

/-- The manager's `attach` for a gatt device. -/
lemma attach_gatt (s : State) (devnode : String) {decl : InputDecl} (a : Attempt)
    (ht : decl.type = .gatt) :
    attach s devnode decl a =
      if decl.id ∈ s.inputMap then (s, decl, false)
      else if (gattInit s a).gatt.conn = false ∨ devnode = "" then (gattInit s a, decl, false)
      else
        ({ gattInit s a with
            gatt :=
              { conn := true
                gattPaths := s.gatt.gattPaths.insert decl.id (gattPath devnode) }
            inputMap := s.inputMap.insert decl.id { decl with devnode := devnode } },
          { decl with devnode := devnode }, true) := by
  have hback : backendAttach s devnode decl a = gattAttach s devnode decl a := by
    simp only [backendAttach, ht]
  rw [attach, hback, gattAttach]
  by_cases hfail : (gattInit s a).gatt.conn = false ∨ devnode = ""
  · simp only [Bool.not_eq_eq_eq_not, Bool.not_true, hfail, ↓reduceIte]
  · obtain ⟨hoff, hne⟩ := not_or.mp hfail
    have hconn : (gattInit s a).gatt.conn = true := by simpa using hoff
    simp only [hconn, hne, Bool.not_true, Bool.false_eq_true, Bool.true_eq_false, or_self,
      ↓reduceIte]
    rfl

/-! ## Notifications -/

/-- A value of the dictionary of a message, as far as `process_one_message` tells them apart. -/
inductive Variant
  | bytes (b : List UInt8)
  | other
deriving DecidableEq

/-- A message: its path, its first argument if that is a string, and the entries of its dictionary;
a key that is no string and a value that is no variant are absent. -/
structure Message where
  path : Option String
  interface : Option String
  dict : List (Option String × Option Variant)
deriving DecidableEq

/-- A call of a Lua function with an event table. -/
structure LuaCall where
  callback : String
  device : String
  path : String
  data : List UInt8
  size : ℕ
  status : String
deriving DecidableEq

/-- The loop of `process_one_message` over the dictionary: the bytes of every `Value`. -/
def messageBytes (dict : List (Option String × Option Variant)) : List UInt8 :=
  dict.flatMap fun e =>
    match e with
    | (some key, some (.bytes b)) => if key = "Value" then b else []
    | _ => []

/-- The event table for a declaration, handed to its callback. -/
def eventFor (path : String) (bytes : List UInt8) (decl : InputDecl) : LuaCall :=
  ⟨decl.onEvent, decl.id, path, bytes, bytes.length, "ok"⟩

/-- The loop of `process_one_message` over `input_map`. -/
def dispatchLoop (script : Script) (path : String) (bytes : List UInt8) :
    List InputDecl → List LuaCall
  | [] => []
  | decl :: decls =>
    if decl.type ≠ .gatt then dispatchLoop script path bytes decls
    else if decl.onEvent ≠ "" then
      if !script.isFunction decl.onEvent then dispatchLoop script path bytes decls
      -- the loop is left after the first gatt device
      else [eventFor path bytes decl]
    else []

/-- The attached devices in the order of their ids, as a loop over `input_map` visits them. -/
def inputsInOrder (s : State) : List InputDecl :=
  ((s.inputMap.entries.map fun e => (e.1, e.2)).insertionSort fun a b => a.1 ≤ b.1).map (·.2)

/-- `process_one_message`. -/
def processOneMessage (script : Script) (s : State) (msg : Message) : List LuaCall :=
  match msg.path with
  | none => []
  | some path =>
    if msg.interface ≠ some "org.bluez.GattCharacteristic1" then []
    else dispatchLoop script path (messageBytes msg.dict) (inputsInOrder s)

end Aelkey.Gatt
