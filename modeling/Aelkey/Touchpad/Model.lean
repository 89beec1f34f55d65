import Aelkey.Helpers.Edge
import Aelkey.Lib.MTSlots
import Mathlib.Data.Rat.Floor

set_option relaxedAutoImplicit false
set_option autoImplicit false

/-!
# The touchpad state machine

`aelkey_touchpad.lua`: a frame is `begin_frame`, any number of `feed_contact` calls and
`end_frame`. Multitouch mode gives every slot a tracking id and queues the slot events of a contact
as it is fed; `end_frame` ends the contacts that were not fed, queues the key events and the
position of the primary finger, and removes what has ended.

## Main definitions

* `Aelkey.Touchpad.Contact`, `Aelkey.Touchpad.Pad` — a contact, and the table made by
  `touchpad.new`.
* `Aelkey.Touchpad.beginFrame`, `Aelkey.Touchpad.feedContact`, `Aelkey.Touchpad.endFrame` — the
  three calls of a frame.

## Design

Lua numbers are rationals. A field of a report is an option, `none` for a field that is missing.
`pairs` visits a table in an unspecified order, which is an argument of `end_frame`
(`Aelkey.Touchpad.Orders`).
-/

namespace Aelkey.Touchpad

open Evdev MTSlots

/-- The queued events. -/
abbrev Event := InputEvent ℚ

/-- `opts.mode`; every value other than `"multitouch"` acts as basic mode. -/
inductive Mode
  | basic
  | multitouch
deriving DecidableEq

/-- The table given to `feed_contact`. -/
structure Report where
  slot : Option ℚ := none
  x : Option ℚ := none
  y : Option ℚ := none
  touching : Option Bool := none
  pressure : Option ℚ := none
  palm : Option Bool := none
  buttonLeft : Option Bool := none
  buttonRight : Option Bool := none
  buttonMiddle : Option Bool := none
deriving DecidableEq

/-- An entry of `contacts`. -/
structure Contact where
  id : ℕ
  x : ℚ
  y : ℚ
  touching : Bool
  pressure : Option ℚ
  palm : Option Bool
  buttonLeft : Option Bool
  buttonRight : Option Bool
  buttonMiddle : Option Bool
  seenThisFrame : Bool
  ended : Bool
deriving DecidableEq

/-- An instance made by `touchpad.new`. -/
structure Pad where
  mode : Mode := .multitouch
  maxSlots : ℚ := 5
  contacts : Table ℕ Contact := ∅
  slots : Table ℤ ℕ := ∅
  primary : Option ℤ := none
  changed : Table ℕ Bool := ∅
  ended : List ℕ := []
  nextTrackingId : ℕ := 1
  basicTid : Option ℕ := none
  fingerCount : ℕ := 0
  toolKeysDown : Table String Bool := ∅
  events : List Event := []

/-- The orders in which the `pairs` loops of one `end_frame` visit the tables. -/
structure Orders where
  contacts : Table.Traversal ℕ Contact
  slots : Table.Traversal ℤ ℕ
  tools : Table.Traversal String Bool

instance : Inhabited Orders := ⟨⟨default, default, default⟩⟩

/-- `new_tracking_id`. -/
def newTrackingId (self : Pad) : ℕ × Pad :=
  (self.nextTrackingId, { self with nextTrackingId := self.nextTrackingId % 65535 + 1 })

/-- `queue_event`, for one event after the other. -/
def queue (self : Pad) (evs : List Event) : Pad :=
  { self with events := self.events ++ evs }

/-- `begin_frame`. -/
def beginFrame (self : Pad) : Pad :=
  { self with
    changed := ∅
    ended := []
    events := []
    contacts := self.contacts.mapValues fun _ c => { c with seenThisFrame := false } }

/-! ## Feeding a contact -/

/-- Whether a report with coordinates `x` and `y` is touching: as it says, or unless both are
zero. -/
def isTouching (r : Report) (x y : ℚ) : Bool :=
  r.touching.getD (!(x == 0 && y == 0))

/-- The tracking id of a slot: the present one, or a new one. -/
def slotTrackingId (self : Pad) (slot : ℤ) : ℕ × Pad :=
  match self.slots.lookup slot with
  | some tid => (tid, self)
  | none =>
    let (tid, self) := newTrackingId self
    (tid, { self with slots := self.slots.insert slot tid })

/-- The one tracking id of basic mode. -/
def basicTrackingId (self : Pad) : ℕ × Pad :=
  match self.basicTid with
  | some tid => (tid, self)
  | none =>
    let (tid, self) := newTrackingId self
    (tid, { self with basicTid := some tid })

/-- A contact with the fields of a report. -/
def Report.toContact (r : Report) (tid : ℕ) (x y : ℚ) : Contact where
  id := tid
  x := x
  y := y
  touching := isTouching r x y
  pressure := r.pressure
  palm := r.palm
  buttonLeft := r.buttonLeft
  buttonRight := r.buttonRight
  buttonMiddle := r.buttonMiddle
  seenThisFrame := true
  ended := false

/-- Create or update the contact entry of a tracking id. -/
def storeContact (self : Pad) (tid : ℕ) (r : Report) (x y : ℚ) : Pad :=
  match self.contacts.lookup tid with
  | none =>
    { self with
      contacts := self.contacts.insert tid (r.toContact tid x y)
      changed := self.changed.insert tid true }
  | some c =>
    { self with
      contacts := self.contacts.insert tid { r.toContact tid x y with id := c.id }
      changed :=
        if c.x ≠ x ∨ c.y ≠ y ∨ c.touching ≠ isTouching r x y then self.changed.insert tid true
        else self.changed }

/-- The position and tool type events of a touching contact. -/
def positionEvents (r : Report) (x y : ℚ) : List Event :=
  [⟨"EV_ABS", "ABS_MT_POSITION_X", x⟩, ⟨"EV_ABS", "ABS_MT_POSITION_Y", y⟩] ++
    match r.palm with
    | some palm => [⟨"EV_ABS", "ABS_MT_TOOL_TYPE", if palm then 2 else 0⟩]
    | none => []

/-- The slot of a report in multitouch mode. -/
def Report.slotIndex (r : Report) : ℤ := ⌊r.slot.getD 0⌋

/-- `feed_contact`. -/
def feedContact (self : Pad) (r : Report) : Pad :=
  match r.x, r.y with
  | some x, some y =>
    match self.mode with
    | .multitouch =>
      if r.slotIndex < 0 ∨ self.maxSlots ≤ r.slotIndex then self
      else
        let (tid, self) := slotTrackingId self r.slotIndex
        let self := storeContact self tid r x y
        if isTouching r x y then
          queue self (openSlot (r.slotIndex : ℚ) (tid : ℚ) ++ positionEvents r x y)
        else self
    | .basic =>
      let (tid, self) := basicTrackingId self
      storeContact self tid r x y
  | _, _ => self

/-! ## Ending a frame -/

/-- `clear_missing_contacts`: mark the contacts that were not fed as ended and list them. -/
def clearMissingContacts (it : Orders) (self : Pad) : Pad :=
  { self with
    contacts := self.contacts.mapValues fun _ c => { c with ended := c.ended || !c.seenThisFrame }
    ended := self.ended ++
      ((it.contacts.order self.contacts).filter fun e => !e.2.seenThisFrame).map (·.1) }

/-- The slots that hold the ended tracking ids, in the order `end_frame` visits them. -/
def endedSlots (it : Orders) (self : Pad) : List ℤ :=
  self.ended.flatMap fun tid => ((it.slots.order self.slots).filter (·.2 = tid)).map (·.1)

/-- Queue the closing events of the ended contacts. -/
def closeEnded (it : Orders) (self : Pad) : Pad :=
  queue self ((endedSlots it self).flatMap fun slot : ℤ => closeSlot (slot : ℚ))

/-- Whether a slot holds a contact that is touching and has not ended. -/
def activeAt (self : Pad) (slot : ℤ) : Bool :=
  match (self.slots.lookup slot).bind self.contacts.lookup with
  | some c => !c.ended && c.touching
  | none => false

/-- `update_primary`: the lowest slot with an active contact. -/
def updatePrimary (self : Pad) : Pad :=
  { self with
    primary := ((List.range ⌊self.maxSlots⌋.toNat).map Int.ofNat).find? (activeAt self) }

/-- The primary contact and the finger count. -/
def countFingers (it : Orders) (self : Pad) : Option Contact × Pad :=
  match self.mode with
  | .multitouch =>
    let self := updatePrimary self
    let primary := (self.primary.bind self.slots.lookup).bind self.contacts.lookup
    (primary.filter fun c => !c.ended && c.touching,
      { self with
        fingerCount :=
          (it.contacts.order self.contacts).countP fun e => !e.2.ended && e.2.touching })
  | .basic =>
    let self := { self with primary := none }
    let primary := (self.basicTid.bind self.contacts.lookup).filter fun c => !c.ended && c.touching
    (primary, { self with fingerCount := if primary.isSome then 1 else 0 })

/-- The `BTN_TOUCH` event. -/
def queueTouch (self : Pad) : Pad :=
  queue self [key "BTN_TOUCH" (if 0 < self.fingerCount then 1 else 0)]

/-- `desired_down`: the tool key of a finger count. -/
def desiredDown (fingerCount : ℕ) : List String :=
  match fingerCount with
  | 0 => []
  | 1 => ["BTN_TOOL_FINGER"]
  | 2 => ["BTN_TOOL_DOUBLETAP"]
  | 3 => ["BTN_TOOL_TRIPLETAP"]
  | _ => ["BTN_TOOL_QUADTAP"]

/-- Release the tool keys that are down and no longer desired. -/
def releaseTools (it : Orders) (self : Pad) : Pad :=
  (it.tools.order self.toolKeysDown).foldl (fun self e =>
    if e.1 ∈ desiredDown self.fingerCount then self
    else
      { queue self [key e.1 0] with toolKeysDown := self.toolKeysDown.erase e.1 }) self

/-- Press the tool keys that are desired and not down. -/
def pressTools (self : Pad) : Pad :=
  (desiredDown self.fingerCount).foldl (fun self code =>
    if code ∈ self.toolKeysDown then self
    else { queue self [key code 1] with toolKeysDown := self.toolKeysDown.insert code true }) self

/-- The position of the primary contact. -/
def queuePrimary (primary : Option Contact) (self : Pad) : Pad :=
  match primary with
  | some c => queue self [⟨"EV_ABS", "ABS_X", c.x⟩, ⟨"EV_ABS", "ABS_Y", c.y⟩]
  | none => self

/-- The contact whose button fields are reported: the primary one, or the first that has not
ended. -/
def buttonSource (it : Orders) (primary : Option Contact) (self : Pad) : Option Contact :=
  primary <|> ((it.contacts.order self.contacts).find? fun e => !e.2.ended).map (·.2)

/-- The block for one clickpad button. -/
def queueButton (code : String) (state : Option Bool) (p : Pad × Edge) : Pad × Edge :=
  match state with
  | some pressed =>
    match p.2.detect ("_aelkey_touchpad_" ++ code) pressed with
    | (some rising, edge) => (queue p.1 [key code (if rising then 1 else 0)], edge)
    | (none, edge) => (p.1, edge)
  | none => p

/-- The three clickpad buttons. -/
def queueButtons (source : Option Contact) (p : Pad × Edge) : Pad × Edge :=
  match source with
  | some c =>
    queueButton "BTN_MIDDLE" c.buttonMiddle
      (queueButton "BTN_RIGHT" c.buttonRight (queueButton "BTN_LEFT" c.buttonLeft p))
  | none => p

/-- Remove a contact and the slots that hold its tracking id. -/
def dropContact (it : Orders) (self : Pad) (tid : ℕ) : Pad :=
  { self with
    slots := Table.eraseValue it.slots self.slots tid
    contacts := self.contacts.erase tid }

/-- The cleanup of `end_frame`: remove the ended contacts. -/
def cleanup (it : Orders) (self : Pad) : Pad :=
  (it.contacts.order self.contacts).foldl
    (fun self e => if e.2.ended then dropContact it self e.1 else self) self

/-- `end_frame`. The edge detector is shared by all instances. -/
def endFrame (it : Orders) (self : Pad) (edge : Edge) : Pad × Edge :=
  let self := clearMissingContacts it self
  let self := if self.mode = .multitouch then closeEnded it self else self
  let (primary, self) := countFingers it self
  let self := queuePrimary primary (pressTools (releaseTools it (queueTouch self)))
  let (self, edge) := queueButtons (buttonSource it primary self) (self, edge)
  (cleanup it self, edge)

end Aelkey.Touchpad
