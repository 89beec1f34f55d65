import Aelkey.Gatt.Bus

set_option relaxedAutoImplicit false
set_option autoImplicit false

/-!
# Where a notification is delivered

The loop of `process_one_message` over `input_map` never looks at the path of the message: it hands
the event to the first gatt device in the order of the ids and stops. So an event is delivered to
exactly the devices it concerns only if those are the first gatt device alone.

## Main definitions

* `Aelkey.Gatt.Contains` — a path is another path or an ancestor of it.
* `Aelkey.Gatt.Carries` — a message is a notification of a value on a path.
* `Aelkey.Gatt.gattInputs` — the attached gatt devices in the order of their ids.

## Main results

* `Aelkey.Gatt.delivered_iff_first` — the calls are those for the devices that contain the path iff
  these are the first gatt device alone.
* `Aelkey.Gatt.not_delivered_twoDevices` — a notification of the second device.
-/

namespace Aelkey.Gatt

open Device

/-- The object path `p` is `a` or below it. -/
def Contains (a p : String) : Prop := p = a ∨ (a ++ "/").toList <+: p.toList

instance (a p : String) : Decidable (Contains a p) :=
  inferInstanceAs (Decidable (_ ∨ _))

/-- The message is a `PropertiesChanged` signal of a characteristic at `p` with the new value
`bytes`: its dictionary has one entry `Value`. -/
structure Carries (msg : Message) (p : String) (bytes : List UInt8) : Prop where
  path : msg.path = some p
  interface : msg.interface = some "org.bluez.GattCharacteristic1"
  value : msg.dict.filter (fun e => e.1 = some "Value") = [(some "Value", some (.bytes bytes))]

/-- The attached gatt devices, in the order of their ids. -/
def gattInputs (s : State) : List InputDecl :=
  (inputsInOrder s).filter fun decl => decl.type = .gatt

/-- The devices that a notification on `p` concerns. -/
def recipients (s : State) (p : String) : List InputDecl :=
  (gattInputs s).filter fun decl => Contains decl.devnode p

/-- The loop visits exactly the attached devices. -/
lemma mem_inputsInOrder {s : State} {decl : InputDecl} :
    decl ∈ inputsInOrder s ↔ ∃ id, s.inputMap.lookup id = some decl := by
  simp only [inputsInOrder, List.mem_map, List.mem_insertionSort]
  constructor
  · rintro ⟨_, ⟨e, he, rfl⟩, rfl⟩
    exact ⟨e.1, AList.mem_lookup_iff.mpr he⟩
  · intro ⟨id, hid⟩
    exact ⟨(id, decl), ⟨⟨id, decl⟩, AList.mem_lookup_iff.mp hid, rfl⟩, rfl⟩

/-- The gatt devices are the attached devices of this type. -/
lemma mem_gattInputs {s : State} {decl : InputDecl} :
    decl ∈ gattInputs s ↔ (∃ id, s.inputMap.lookup id = some decl) ∧ decl.type = .gatt := by
  rw [gattInputs, List.mem_filter, mem_inputsInOrder, decide_eq_true_eq]

/-- Entries of a dictionary without a `Value` add no byte. -/
lemma messageBytes_eq (dict : List (Option String × Option Variant)) :
    messageBytes dict = messageBytes (dict.filter fun e => e.1 = some "Value") := by
  induction dict with
  | nil => rfl
  | cons e dict ih =>
    by_cases he : e.1 = some "Value"
    · rw [List.filter_cons_of_pos (by simpa using he)]
      simp only [messageBytes, List.flatMap_cons] at ih ⊢
      rw [ih]
    · rw [List.filter_cons_of_neg (by simpa using he), ← ih]
      obtain ⟨_ | key, v⟩ := e
      · simp [messageBytes]
      · have hkey : key ≠ "Value" := fun h => he (by rw [h])
        rcases v with _ | (_ | _) <;> simp [messageBytes, hkey]

/-- The bytes of a notification are those of its value. -/
lemma messageBytes_of_carries {msg : Message} {p : String} {bytes : List UInt8}
    (h : Carries msg p bytes) : messageBytes msg.dict = bytes := by
  rw [messageBytes_eq, h.value]
  simp [messageBytes]

/-- **The loop calls the first gatt device** and no other. -/
lemma dispatchLoop_eq (script : Script) (p : String) (bytes : List UInt8) (decls : List InputDecl)
    (h : ∀ decl ∈ decls, decl.type = .gatt → decl.onEvent ≠ "" ∧ script.isFunction decl.onEvent) :
    dispatchLoop script p bytes decls =
      ((decls.filter fun decl => decl.type = .gatt).take 1).map (eventFor p bytes) := by
  induction decls with
  | nil => rfl
  | cons decl decls ih =>
    obtain ⟨hdecl, hrest⟩ := List.forall_mem_cons.mp h
    rw [dispatchLoop]
    by_cases ht : decl.type = .gatt
    · obtain ⟨hne, hfun⟩ := hdecl ht
      rw [if_neg (not_not.mpr ht), if_pos hne, if_neg (by simp [hfun]),
        List.filter_cons_of_pos (by simpa using ht)]
      rfl
    · rw [if_pos ht, ih hrest, List.filter_cons_of_neg (by simpa using ht)]

/-- What `process_one_message` calls for a notification. -/
lemma processOneMessage_eq {script : Script} {s : State} {msg : Message} {p : String}
    {bytes : List UInt8} (hmsg : Carries msg p bytes)
    (hfun : ∀ decl ∈ gattInputs s, decl.onEvent ≠ "" ∧ script.isFunction decl.onEvent) :
    processOneMessage script s msg = ((gattInputs s).take 1).map (eventFor p bytes) := by
  have hloop := dispatchLoop_eq script p bytes (inputsInOrder s) fun decl hd ht =>
    hfun decl (List.mem_filter.mpr ⟨hd, by simpa using ht⟩)
  simp only [processOneMessage, hmsg.path, hmsg.interface, ne_eq, not_true_eq_false, ↓reduceIte,
    messageBytes_of_carries hmsg, hloop]
  rfl

/-- **A notification is delivered to the devices it concerns iff these are the first gatt device
alone.** For every set of attached gatt devices with a callback each and every notification of a
value on a path: the calls are, up to their order, one for each device that contains the path, with
its id, the path and the bytes, if and only if the devices that contain the path are the first gatt
device in the order of the ids and no other, or there is no gatt device at all.

**Proof sketch.** The loop calls the first gatt device whatever the path is. The call for it is the
only expected one iff it is the only recipient: the calls name the device by its id, and the ids are
different. -/
theorem delivered_iff_first {script : Script} {s : State} {msg : Message} {p : String}
    {bytes : List UInt8} (hmsg : Carries msg p bytes)
    (hids : ∀ id decl, s.inputMap.lookup id = some decl → decl.id = id)
    (hfun : ∀ decl ∈ gattInputs s, decl.onEvent ≠ "" ∧ script.isFunction decl.onEvent) :
    (processOneMessage script s msg).Perm ((recipients s p).map (eventFor p bytes)) ↔
      recipients s p = (gattInputs s).take 1 := by
  rw [processOneMessage_eq hmsg hfun]
  constructor
  · intro h
    rcases hg : gattInputs s with _ | ⟨first, others⟩
    · rw [recipients, hg]
      rfl
    · rw [hg] at h
      have hone : (recipients s p).map (eventFor p bytes) = [eventFor p bytes first] :=
        List.perm_singleton.mp h.symm
      obtain ⟨decl, hdecl, heq⟩ := List.map_eq_singleton_iff.mp hone
      have hid : decl.id = first.id := congrArg LuaCall.device heq
      have hmem : decl ∈ gattInputs s := by
        have : decl ∈ recipients s p := by simp [hdecl]
        exact (List.mem_filter.mp this).1
      obtain ⟨⟨k, hk⟩, -⟩ := mem_gattInputs.mp hmem
      obtain ⟨⟨k', hk'⟩, -⟩ := mem_gattInputs.mp (hg ▸ List.mem_cons_self .. : first ∈ gattInputs s)
      have hkk : k = k' := by rw [← hids k decl hk, hid, hids k' first hk']
      have heq' : decl = first := by
        rw [hkk, hk'] at hk
        exact (Option.some.inj hk).symm
      rw [hdecl, heq']
      rfl
  · intro h
    rw [h]

/-- The path of an example device, by the last digit of its address. -/
def examplePath (n : String) : String := "/org/bluez/hci0/dev_00_00_00_00_00_0" ++ n

/-- A gatt device with the callback `on_gatt`, attached at device level. -/
def exampleInput (id n : String) : InputDecl :=
  { id := id, type := .gatt, devnode := examplePath n, onEvent := "on_gatt" }

/-- A characteristic of an example device. -/
def exampleChar (n : String) : String := examplePath n ++ "/service0010/char0011"

/-- The characteristic has the new value 1, 2. -/
def exampleMessage (n : String) : Message where
  path := some (exampleChar n)
  interface := some "org.bluez.GattCharacteristic1"
  dict := [(some "Value", some (.bytes [1, 2]))]

/-- A state in which the given devices are attached. -/
def exampleState (decls : List InputDecl) : State :=
  { inputMap := decls.foldl (fun t decl => t.insert decl.id decl) ∅ }

/-- One device is attached and receives its notification. -/
theorem delivered_iff_first_oneDevice :
    (processOneMessage ⟨[], [], fun _ => true⟩ (exampleState [exampleInput "pad" "1"])
      (exampleMessage "1")).Perm
        ((recipients (exampleState [exampleInput "pad" "1"]) (exampleChar "1")).map
          (eventFor (exampleChar "1") [1, 2])) := by
  refine (delivered_iff_first ⟨by decide, rfl, by decide⟩ ?_ (by decide)).mpr (by decide)
  intro id decl h
  simp only [exampleState, List.foldl_cons, List.foldl_nil, Table.lookup_insert] at h
  split_ifs at h with hid
  · rw [hid, ← Option.some.inj h]
  · simp at h

/-- `pad` and `wheel` are attached to different devices. A notification of the device of `wheel` is
handed to `pad`. -/
theorem not_delivered_twoDevices :
    processOneMessage ⟨[], [], fun _ => true⟩
        (exampleState [exampleInput "pad" "1", exampleInput "wheel" "2"]) (exampleMessage "2") =
      [⟨"on_gatt", "pad", exampleChar "2", [1, 2], 2, "ok"⟩] ∧
    ¬ (processOneMessage ⟨[], [], fun _ => true⟩
        (exampleState [exampleInput "pad" "1", exampleInput "wheel" "2"])
        (exampleMessage "2")).Perm
      ((recipients (exampleState [exampleInput "pad" "1", exampleInput "wheel" "2"])
        (exampleChar "2")).map (eventFor (exampleChar "2") [1, 2])) := by
  decide

end Aelkey.Gatt
