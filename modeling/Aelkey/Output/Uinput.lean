import Aelkey.Device.Manager
import Aelkey.Lib.Evdev
import Mathlib.Data.String.Basic

set_option relaxedAutoImplicit false
set_option autoImplicit false

/-!
# Output devices

A virtual device is made from an output declaration (`source/device_output.cc`): its type chooses
the codes it supports (`source/device_capabilities.h`), and the capabilities of the declaration add
to them. Scripts write events to it with `emit` and `syn_report` (`source/aelkey_core.cc`). The
kernel passes on the events that the device supports and drops the others.

## Main definitions

* `Aelkey.Output.OutputDecl` — `OutputDecl` of `device_declarations.h`.
* `Aelkey.Output.createOutputDevice` — the device of a declaration.
* `Aelkey.Output.Uinput` — a virtual device with the calls that write to it.
* `Aelkey.Output.Uinput.written`, `Aelkey.Output.Uinput.passed` — what libevdev writes, and what the
  kernel passes on.
* `Aelkey.Output.coreEmit`, `Aelkey.Output.coreSynReport` — `emit` and `syn_report`.

## Main results

* `Aelkey.Output.mem_enableCodes` — the codes of a list are enabled.
* `Aelkey.Output.extends_enableCapabilities` — the capabilities of a declaration only add codes.
* `Aelkey.Output.filter_written` — what the kernel passes on is written, if libevdev knows the codes
  of the device.

## Design

A code is the name of its constant, under which libevdev knows it; which names libevdev knows is a
parameter. Codes are compared by name, so that two names of one code, such as `BTN_A` and
`BTN_SOUTH`, count as different. The ranges of an axis are kept with its resolution; initial value,
fuzz and flat are zero for all of them. `emit` is modelled for names of types and codes, which is
what the modules hand to it. For a name that libevdev does not know it passes the code -1, with
which `libevdev_uinput_write_event` writes nothing; `emit` ignores that, so that it is a call like
any other.
-/

namespace Aelkey.Output

open Evdev

/-! ## Capabilities -/

/-- The range of an axis (`input_absinfo`). -/
structure AbsInfo where
  minimum : ℤ
  maximum : ℤ
  resolution : ℤ := 0
deriving DecidableEq

-- The default ranges of the axes, under the names they have in `device_output.cc`.
def posDefault : AbsInfo := ⟨0, 65535, 0⟩
def stickDefault : AbsInfo := ⟨-32767, 32767, 0⟩
def triggerDefault : AbsInfo := ⟨0, 255, 0⟩
def pressureDefault : AbsInfo := ⟨0, 65535, 0⟩
def tiltDefault : AbsInfo := ⟨-90, 90, 0⟩
def distanceDefault : AbsInfo := ⟨0, 255, 0⟩
def orientDefault : AbsInfo := ⟨0, 3, 0⟩
def wheelDefault : AbsInfo := ⟨-32768, 32767, 0⟩
def hatDefault : AbsInfo := ⟨-1, 1, 0⟩
def accelDefault : AbsInfo := ⟨-32767, 32767, 4096⟩
def gyroDefault : AbsInfo := ⟨-32767000, 32767000, 14247⟩
def mtPosDefault : AbsInfo := ⟨0, 65535, 0⟩
def mtSlotDefault : AbsInfo := ⟨0, 4, 0⟩
def mtTrackidDefault : AbsInfo := ⟨-1, 65535, 0⟩
def mtTooltypeDefault : AbsInfo := ⟨0, 2, 0⟩
def mtMiscDefault : AbsInfo := ⟨0, 255, 0⟩

/-- The axes that have a default range, with it: the cases of `default_absinfo_for`. -/
def absinfoCases : List (String × AbsInfo) :=
  [("ABS_RX", stickDefault), ("ABS_RY", stickDefault), ("ABS_X", posDefault),
    ("ABS_Y", posDefault), ("ABS_Z", triggerDefault), ("ABS_RZ", triggerDefault),
    ("ABS_THROTTLE", triggerDefault), ("ABS_BRAKE", triggerDefault), ("ABS_GAS", triggerDefault),
    ("ABS_RUDDER", triggerDefault), ("ABS_PRESSURE", pressureDefault),
    ("ABS_MT_PRESSURE", pressureDefault), ("ABS_TILT_X", tiltDefault),
    ("ABS_TILT_Y", tiltDefault), ("ABS_DISTANCE", distanceDefault),
    ("ABS_MT_ORIENTATION", orientDefault), ("ABS_WHEEL", wheelDefault),
    ("ABS_HAT0X", hatDefault), ("ABS_HAT0Y", hatDefault), ("ABS_HAT1X", hatDefault),
    ("ABS_HAT1Y", hatDefault), ("ABS_HAT2X", hatDefault), ("ABS_HAT2Y", hatDefault),
    ("ABS_HAT3X", hatDefault), ("ABS_HAT3Y", hatDefault), ("ABS_MT_POSITION_X", mtPosDefault),
    ("ABS_MT_POSITION_Y", mtPosDefault), ("ABS_MT_SLOT", mtSlotDefault),
    ("ABS_MT_TRACKING_ID", mtTrackidDefault), ("ABS_MT_TOOL_TYPE", mtTooltypeDefault),
    ("ABS_MT_TOUCH_MAJOR", mtMiscDefault), ("ABS_MT_TOUCH_MINOR", mtMiscDefault),
    ("ABS_MT_WIDTH_MAJOR", mtMiscDefault), ("ABS_MT_WIDTH_MINOR", mtMiscDefault),
    ("ABS_VOLUME", posDefault), ("ABS_MISC", posDefault)]

/-- `default_absinfo_for`. -/
def defaultAbsinfoFor (code : String) : Option AbsInfo := absinfoCases.lookup code

/-- `keyboard_keys`. -/
def keyboardKeys : List String :=
  ["KEY_A", "KEY_B", "KEY_C", "KEY_D", "KEY_E", "KEY_F", "KEY_G", "KEY_H", "KEY_I", "KEY_J",
    "KEY_K", "KEY_L", "KEY_M", "KEY_N", "KEY_O", "KEY_P", "KEY_Q", "KEY_R", "KEY_S", "KEY_T",
    "KEY_U", "KEY_V", "KEY_W", "KEY_X", "KEY_Y", "KEY_Z",
    "KEY_1", "KEY_2", "KEY_3", "KEY_4", "KEY_5", "KEY_6", "KEY_7", "KEY_8", "KEY_9", "KEY_0",
    "KEY_F1", "KEY_F2", "KEY_F3", "KEY_F4", "KEY_F5", "KEY_F6", "KEY_F7", "KEY_F8", "KEY_F9",
    "KEY_F10", "KEY_F11", "KEY_F12", "KEY_F13", "KEY_F14", "KEY_F15", "KEY_F16", "KEY_F17",
    "KEY_F18", "KEY_F19", "KEY_F20", "KEY_F21", "KEY_F22", "KEY_F23", "KEY_F24",
    "KEY_LEFTSHIFT", "KEY_RIGHTSHIFT", "KEY_LEFTCTRL", "KEY_RIGHTCTRL", "KEY_LEFTALT",
    "KEY_RIGHTALT", "KEY_LEFTMETA", "KEY_RIGHTMETA", "KEY_CAPSLOCK", "KEY_COMPOSE", "KEY_NUMLOCK",
    "KEY_SCROLLLOCK",
    "KEY_UP", "KEY_DOWN", "KEY_LEFT", "KEY_RIGHT", "KEY_HOME", "KEY_END", "KEY_PAGEUP",
    "KEY_PAGEDOWN", "KEY_INSERT", "KEY_DELETE", "KEY_BACKSPACE", "KEY_ENTER", "KEY_ESC",
    "KEY_TAB", "KEY_SPACE",
    "KEY_MINUS", "KEY_EQUAL", "KEY_LEFTBRACE", "KEY_RIGHTBRACE", "KEY_SEMICOLON",
    "KEY_APOSTROPHE", "KEY_GRAVE", "KEY_BACKSLASH", "KEY_COMMA", "KEY_DOT", "KEY_SLASH",
    "KEY_KP0", "KEY_KP1", "KEY_KP2", "KEY_KP3", "KEY_KP4", "KEY_KP5", "KEY_KP6", "KEY_KP7",
    "KEY_KP8", "KEY_KP9", "KEY_KPSLASH", "KEY_KPASTERISK", "KEY_KPMINUS", "KEY_KPPLUS",
    "KEY_KPENTER", "KEY_KPDOT", "KEY_KPEQUAL", "KEY_KPCOMMA", "KEY_KPLEFTPAREN",
    "KEY_KPRIGHTPAREN",
    "KEY_POWER", "KEY_SLEEP", "KEY_SCREENLOCK", "KEY_SYSRQ", "KEY_PAUSE", "KEY_PRINT", "KEY_MENU",
    "KEY_MUTE", "KEY_VOLUMEDOWN", "KEY_VOLUMEUP", "KEY_EJECTCD", "KEY_NEXTSONG", "KEY_PLAYPAUSE",
    "KEY_PREVIOUSSONG", "KEY_STOPCD", "KEY_WWW", "KEY_BACK", "KEY_FORWARD", "KEY_REFRESH",
    "KEY_SCROLLUP", "KEY_SCROLLDOWN",
    "KEY_ZENKAKUHANKAKU", "KEY_RO", "KEY_KATAKANA", "KEY_HIRAGANA", "KEY_HENKAN",
    "KEY_KATAKANAHIRAGANA", "KEY_MUHENKAN", "KEY_KPJPCOMMA", "KEY_HANGUEL", "KEY_HANJA",
    "KEY_YEN", "KEY_102ND",
    "KEY_STOP", "KEY_AGAIN", "KEY_PROPS", "KEY_UNDO", "KEY_FRONT", "KEY_COPY", "KEY_OPEN",
    "KEY_PASTE", "KEY_FIND", "KEY_CUT", "KEY_HELP", "KEY_CALC", "KEY_EDIT",
    "KEY_UNKNOWN"]

/-- `consumer_keys`. -/
def consumerKeys : List String :=
  ["KEY_PLAY", "KEY_PAUSE", "KEY_PLAYPAUSE", "KEY_STOP", "KEY_STOPCD", "KEY_RECORD",
    "KEY_NEXTSONG", "KEY_PREVIOUSSONG", "KEY_FASTFORWARD", "KEY_REWIND",
    "KEY_VOLUMEUP", "KEY_VOLUMEDOWN", "KEY_MUTE",
    "KEY_WWW", "KEY_BACK", "KEY_FORWARD", "KEY_REFRESH", "KEY_STOP", "KEY_SEARCH",
    "KEY_FAVORITES", "KEY_HOMEPAGE", "KEY_MAIL",
    "KEY_EMAIL", "KEY_CALC", "KEY_COMPUTER", "KEY_MEDIA", "KEY_CHAT", "KEY_PHONE",
    "KEY_POWER", "KEY_SLEEP", "KEY_WAKEUP",
    "KEY_PROG1", "KEY_PROG2", "KEY_PROG3", "KEY_PROG4",
    "KEY_CAMERA", "KEY_VIDEO", "KEY_AUDIO", "KEY_CD", "KEY_TUNER", "KEY_MP3", "KEY_DVD",
    "KEY_RADIO", "KEY_TV", "KEY_VCR"]

/-- `gamepad_buttons`. -/
def gamepadButtons : List String :=
  ["BTN_A", "BTN_B", "BTN_X", "BTN_Y", "BTN_C", "BTN_Z", "BTN_TL", "BTN_TR", "BTN_TL2", "BTN_TR2",
    "BTN_SELECT", "BTN_START", "BTN_MODE", "BTN_THUMBL", "BTN_THUMBR"]

/-- `gamepad_abs`. -/
def gamepadAbs : List String :=
  ["ABS_X", "ABS_Y", "ABS_RX", "ABS_RY", "ABS_Z", "ABS_RZ", "ABS_HAT0X", "ABS_HAT0Y"]

/-- `gamepad_ff`. -/
def gamepadFF : List String :=
  ["FF_RUMBLE", "FF_GAIN", "FF_PERIODIC", "FF_SQUARE", "FF_TRIANGLE", "FF_SINE"]

/-- `mouse_buttons`. -/
def mouseButtons : List String :=
  ["BTN_LEFT", "BTN_RIGHT", "BTN_MIDDLE", "BTN_SIDE", "BTN_EXTRA", "BTN_FORWARD", "BTN_BACK",
    "BTN_TASK"]

/-- `mouse_rel`. -/
def mouseRel : List String :=
  ["REL_X", "REL_Y", "REL_WHEEL", "REL_HWHEEL", "REL_WHEEL_HI_RES", "REL_HWHEEL_HI_RES"]

/-- `touchpad_buttons`. -/
def touchpadButtons : List String :=
  ["BTN_LEFT", "BTN_RIGHT", "BTN_MIDDLE", "BTN_SIDE", "BTN_EXTRA", "BTN_FORWARD", "BTN_BACK",
    "BTN_TASK", "BTN_TOUCH", "BTN_TOOL_FINGER", "BTN_TOOL_DOUBLETAP", "BTN_TOOL_TRIPLETAP",
    "BTN_TOOL_QUADTAP", "BTN_TOOL_QUINTTAP"]

/-- `touchpad_rel`. -/
def touchpadRel : List String :=
  ["REL_WHEEL", "REL_HWHEEL", "REL_WHEEL_HI_RES", "REL_HWHEEL_HI_RES"]

/-- `touchpad_abs`. -/
def touchpadAbs : List String := ["ABS_X", "ABS_Y"]

/-- `touchpad_mt_abs`. -/
def touchpadMtAbs : List String :=
  ["ABS_X", "ABS_Y", "ABS_MT_SLOT", "ABS_MT_POSITION_X", "ABS_MT_POSITION_Y",
    "ABS_MT_TRACKING_ID", "ABS_MT_TOOL_TYPE"]

/-- `touchscreen_keys`. -/
def touchscreenKeys : List String := ["BTN_TOUCH"]

/-- `touchscreen_abs`. -/
def touchscreenAbs : List String :=
  ["ABS_X", "ABS_Y", "ABS_MT_SLOT", "ABS_MT_POSITION_X", "ABS_MT_POSITION_Y",
    "ABS_MT_TRACKING_ID", "ABS_MT_PRESSURE", "ABS_MT_TOUCH_MAJOR", "ABS_MT_TOUCH_MINOR"]

/-- `digitizer_keys`. -/
def digitizerKeys : List String :=
  ["BTN_TOOL_PEN", "BTN_TOOL_RUBBER", "BTN_TOOL_BRUSH", "BTN_TOOL_PENCIL", "BTN_TOOL_AIRBRUSH",
    "BTN_TOOL_FINGER", "BTN_TOOL_MOUSE", "BTN_TOOL_LENS", "BTN_STYLUS", "BTN_STYLUS2",
    "BTN_STYLUS3", "BTN_TOUCH"]

/-- `digitizer_abs`. -/
def digitizerAbs : List String :=
  ["ABS_X", "ABS_Y", "ABS_PRESSURE", "ABS_TILT_X", "ABS_TILT_Y", "ABS_DISTANCE", "ABS_WHEEL"]

/-! ## Making a device -/

/-- The type of an output declaration: one of those with codes of their own, or any other. -/
inductive OutputType
  | keyboard
  | consumer
  | gamepad
  | imu
  | mouse
  | touchpad
  | touchpadMt
  | touchscreen
  | digitizer
  | other
deriving DecidableEq

/-- `OutputDecl`. -/
structure OutputDecl where
  id : String
  type : OutputType
  vendor : ℤ := 0x1234
  product : ℤ := 0x5678
  bus : ℤ := 3
  version : ℤ := 1
  name : String := ""
  onHaptics : String := ""
  capabilities : List String := []

/-- A device as libevdev describes it: the types and codes it supports and the ranges of its
axes. -/
structure Libevdev where
  name : String := ""
  bus : ℤ := 0
  vendor : ℤ := 0
  product : ℤ := 0
  version : ℤ := 0
  types : List String := []
  codes : List (String × String) := []
  abs : Table String AbsInfo := ∅
  props : List String := []

/-- `libevdev_enable_event_type`. Auto-repeat comes with its two codes. -/
def enableEventType (dev : Libevdev) (type : String) : Libevdev :=
  if type ∈ dev.types then dev
  else
    { dev with
      types := dev.types ++ [type]
      codes :=
        if type = "EV_REP" then
          dev.codes ++ [("EV_REP", "REP_DELAY"), ("EV_REP", "REP_PERIOD")]
        else dev.codes }

/-- `libevdev_enable_event_code`: an axis needs a range, and auto-repeat a value. -/
def enableEventCode (dev : Libevdev) (type code : String) (absinfo : Option AbsInfo) : Libevdev :=
  let dev := enableEventType dev type
  if type = "EV_ABS" then
    match absinfo with
    | some info =>
      { dev with codes := dev.codes ++ [(type, code)], abs := dev.abs.insert code info }
    | none => dev
  else if type = "EV_REP" then dev
  else { dev with codes := dev.codes ++ [(type, code)] }

/-- The body of the loop of `enable_codes`. -/
def enableDefault (type : String) (dev : Libevdev) (code : String) : Libevdev :=
  enableEventCode dev type code (if type = "EV_ABS" then defaultAbsinfoFor code else none)

/-- `enable_codes`. -/
def enableCodes (dev : Libevdev) (type : String) (codes : List String) : Libevdev :=
  codes.foldl (enableDefault type) (enableEventType dev type)

/-- The type of event that a capability string names. -/
def capabilityType (cap : String) : String :=
  if "KEY_".toList <+: cap.toList ∨ "BTN_".toList <+: cap.toList then "EV_KEY"
  else if "REL_".toList <+: cap.toList then "EV_REL"
  else if "ABS_".toList <+: cap.toList then "EV_ABS"
  else if "MSC_".toList <+: cap.toList then "EV_MSC"
  else if "SW_".toList <+: cap.toList then "EV_SW"
  else if "FF_".toList <+: cap.toList then "EV_FF"
  else "EV_KEY"

/-- `enable_capability`, where `known` says which names of a type libevdev knows. -/
def enableCapability (known : String → String → Bool) (dev : Libevdev) (cap : String) : Libevdev :=
  if known (capabilityType cap) cap then enableCodes dev (capabilityType cap) [cap] else dev

/-- The codes of the type of a declaration: the cases of `create_output_device`. -/
def enableType (dev : Libevdev) : OutputType → Libevdev
  | .keyboard =>
    let dev := enableCodes dev "EV_KEY" keyboardKeys
    let dev := enableEventCode (enableEventType dev "EV_MSC") "EV_MSC" "MSC_SCAN" none
    let dev := enableEventCode (enableEventType dev "EV_REP") "EV_REP" "REP_DELAY" none
    enableEventCode dev "EV_REP" "REP_PERIOD" none
  | .consumer => enableCodes dev "EV_KEY" consumerKeys
  | .gamepad =>
    let dev := enableCodes dev "EV_KEY" gamepadButtons
    let dev := enableCodes dev "EV_ABS" gamepadAbs
    let dev := enableCodes dev "EV_FF" gamepadFF
    let dev := enableEventCode dev "EV_ABS" "ABS_X" (some stickDefault)
    enableEventCode dev "EV_ABS" "ABS_Y" (some stickDefault)
  | .imu =>
    let dev := enableEventType dev "EV_ABS"
    let dev := enableEventCode dev "EV_ABS" "ABS_X" (some accelDefault)
    let dev := enableEventCode dev "EV_ABS" "ABS_Y" (some accelDefault)
    let dev := enableEventCode dev "EV_ABS" "ABS_Z" (some accelDefault)
    let dev := enableEventCode dev "EV_ABS" "ABS_RX" (some gyroDefault)
    let dev := enableEventCode dev "EV_ABS" "ABS_RY" (some gyroDefault)
    let dev := enableEventCode dev "EV_ABS" "ABS_RZ" (some gyroDefault)
    enableEventCode (enableEventType dev "EV_MSC") "EV_MSC" "MSC_TIMESTAMP" none
  | .mouse => enableCodes (enableCodes dev "EV_KEY" mouseButtons) "EV_REL" mouseRel
  | .touchpad =>
    let dev := enableCodes dev "EV_KEY" touchpadButtons
    let dev := enableCodes (enableCodes dev "EV_REL" touchpadRel) "EV_ABS" touchpadAbs
    { dev with props := dev.props ++ ["INPUT_PROP_POINTER"] }
  | .touchpadMt =>
    let dev := enableCodes (enableCodes dev "EV_KEY" touchpadButtons) "EV_ABS" touchpadMtAbs
    { dev with props := dev.props ++ ["INPUT_PROP_POINTER"] }
  | .touchscreen =>
    let dev := enableCodes (enableCodes dev "EV_KEY" touchscreenKeys) "EV_ABS" touchscreenAbs
    { dev with props := dev.props ++ ["INPUT_PROP_DIRECT"] }
  | .digitizer =>
    let dev := enableCodes (enableCodes dev "EV_KEY" digitizerKeys) "EV_ABS" digitizerAbs
    { dev with props := dev.props ++ ["INPUT_PROP_DIRECT"] }
  | .other => dev

/-- The device that `create_output_device` asks for. -/
def createOutputDevice (known : String → String → Bool) (out : OutputDecl) : Libevdev :=
  out.capabilities.foldl (enableCapability known)
    (enableType
      { name := out.name
        bus := out.bus
        vendor := out.vendor
        product := out.product
        version := out.version } out.type)

/-! ### The capabilities of a declaration -/

section Capabilities

variable {dev : Libevdev} {type code : String}

/-- Enabling a type keeps the codes. -/
lemma mem_codes_enableEventType {c : String × String} (h : c ∈ dev.codes) (type : String) :
    c ∈ (enableEventType dev type).codes := by
  unfold enableEventType
  split_ifs
  · exact h
  · exact List.mem_append_left _ h
  · exact h

/-- Enabling a type keeps the ranges. -/
lemma abs_enableEventType (dev : Libevdev) (type : String) :
    (enableEventType dev type).abs = dev.abs := by
  unfold enableEventType
  split_ifs <;> rfl

/-- One description of a device has the codes of another, and the same default ranges. -/
structure Extends (dev dev' : Libevdev) : Prop where
  codes : ∀ c ∈ dev.codes, c ∈ dev'.codes
  abs : ∀ axis, dev.abs.lookup axis = defaultAbsinfoFor axis →
    dev'.abs.lookup axis = defaultAbsinfoFor axis

/-- A chain of extensions. -/
lemma Extends.trans {dev₁ dev₂ dev₃ : Libevdev} (h : Extends dev₁ dev₂) (h' : Extends dev₂ dev₃) :
    Extends dev₁ dev₃ :=
  ⟨fun c hc => h'.codes c (h.codes c hc), fun axis ha => h'.abs axis (h.abs axis ha)⟩

/-- A loop of extensions. -/
lemma extends_foldl {α : Type*} {f : Libevdev → α → Libevdev} (hf : ∀ dev a, Extends dev (f dev a))
    (l : List α) (dev : Libevdev) : Extends dev (l.foldl f dev) := by
  induction l generalizing dev with
  | nil => exact ⟨fun _ h => h, fun _ h => h⟩
  | cons a l ih => exact (hf dev a).trans (ih (f dev a))

/-- Enabling a type. -/
lemma extends_enableEventType (dev : Libevdev) (type : String) :
    Extends dev (enableEventType dev type) :=
  ⟨fun _ h => mem_codes_enableEventType h type, fun _ h => by rw [abs_enableEventType]; exact h⟩

/-- What enabling a code with its default range does. -/
lemma enableDefault_eq (dev : Libevdev) (type code : String) :
    enableDefault type dev code =
      if type = "EV_ABS" then
        match defaultAbsinfoFor code with
        | some info =>
          { enableEventType dev type with
            codes := (enableEventType dev type).codes ++ [(type, code)]
            abs := (enableEventType dev type).abs.insert code info }
        | none => enableEventType dev type
      else if type = "EV_REP" then enableEventType dev type
      else
        { enableEventType dev type with
          codes := (enableEventType dev type).codes ++ [(type, code)] } := by
  unfold enableDefault enableEventCode
  split_ifs <;> rfl

/-- Enabling a code with its default range. -/
lemma extends_enableDefault (type : String) (dev : Libevdev) (code : String) :
    Extends dev (enableDefault type dev code) := by
  have htype := extends_enableEventType dev type
  rw [enableDefault_eq]
  split_ifs
  · rcases hdef : defaultAbsinfoFor code with _ | info
    · exact htype
    · refine htype.trans ⟨fun c hc => List.mem_append_left _ hc, fun axis ha => ?_⟩
      rw [Table.lookup_insert]
      split_ifs with he
      · rw [he, hdef]
      · exact ha
  · exact htype
  · exact htype.trans ⟨fun c hc => List.mem_append_left _ hc, fun _ ha => ha⟩

/-- Enabling the codes of a list. -/
lemma extends_enableCodes (dev : Libevdev) (type : String) (codes : List String) :
    Extends dev (enableCodes dev type codes) :=
  (extends_enableEventType dev type).trans
    (extends_foldl (extends_enableDefault type) codes _)

/-- **The codes of a list are enabled**, an axis if it has a default range, and with that range. -/
lemma mem_enableCodes (dev : Libevdev) (type code : String) (codes : List String)
    (hcode : code ∈ codes) (hrep : type ≠ "EV_REP")
    (hdef : type = "EV_ABS" → defaultAbsinfoFor code ≠ none) :
    (type, code) ∈ (enableCodes dev type codes).codes ∧ (type = "EV_ABS" →
      (enableCodes dev type codes).abs.lookup code = defaultAbsinfoFor code) := by
  obtain ⟨before, after, rfl⟩ := List.append_of_mem hcode
  rw [enableCodes, List.foldl_append, List.foldl_cons]
  set dev' := before.foldl (enableDefault type) (enableEventType dev type)
  have hrest := extends_foldl (extends_enableDefault type) after (enableDefault type dev' code)
  have hone : (type, code) ∈ (enableDefault type dev' code).codes ∧ (type = "EV_ABS" →
      (enableDefault type dev' code).abs.lookup code = defaultAbsinfoFor code) := by
    rw [enableDefault_eq]
    by_cases ht : type = "EV_ABS"
    · obtain ⟨info, hinfo⟩ := Option.ne_none_iff_exists'.mp (hdef ht)
      rw [if_pos ht, hinfo]
      refine ⟨List.mem_append_right _ (List.mem_singleton_self _), fun _ => ?_⟩
      rw [Table.lookup_insert, if_pos rfl]
    · rw [if_neg ht, if_neg hrep]
      exact ⟨List.mem_append_right _ (List.mem_singleton_self _), fun h => absurd h ht⟩
  exact ⟨hrest.codes _ hone.1, fun ht => hrest.abs code (hone.2 ht)⟩

/-- **The capabilities of a declaration only add codes**, and axes with their default ranges. -/
lemma extends_enableCapabilities (known : String → String → Bool) (caps : List String)
    (dev : Libevdev) : Extends dev (caps.foldl (enableCapability known) dev) := by
  refine extends_foldl (fun dev cap => ?_) caps dev
  unfold enableCapability
  split_ifs
  · exact extends_enableCodes dev _ _
  · exact ⟨fun _ h => h, fun _ h => h⟩

end Capabilities

/-! ## Writing to a device -/

/-- A virtual device, with the calls of `libevdev_uinput_write_event` for it, in order. -/
structure Uinput where
  dev : Libevdev
  calls : List (InputEvent ℤ) := []

/-- A call of `libevdev_uinput_write_event`, for the names of an event. -/
def Uinput.write (u : Uinput) (e : InputEvent ℤ) : Uinput := { u with calls := u.calls ++ [e] }

/-- What is written to a device: the events with names that libevdev knows, and those of
`syn_report`, which come with their numbers. A call for any other name is refused. -/
def Uinput.written (known : String → String → Bool) (u : Uinput) : List (InputEvent ℤ) :=
  u.calls.filter fun e => e.type = "EV_SYN" || known e.type e.code

/-- The device supports an event. -/
def Libevdev.Supports (dev : Libevdev) (e : InputEvent ℤ) : Prop :=
  e.type = "EV_SYN" ∨ (e.type, e.code) ∈ dev.codes

instance (dev : Libevdev) (e : InputEvent ℤ) : Decidable (dev.Supports e) := instDecidableOr

/-- What the kernel passes on. No call for a code of the device is refused. -/
def Uinput.passed (u : Uinput) : List (InputEvent ℤ) := u.calls.filter (u.dev.Supports ·)

/-- **What the kernel passes on is written**, if libevdev knows the codes of the device. -/
lemma filter_written {known : String → String → Bool} {u : Uinput}
    (h : ∀ c ∈ u.dev.codes, known c.1 c.2 = true) :
    (u.written known).filter (u.dev.Supports ·) = u.passed := by
  rw [Uinput.written, Uinput.passed, List.filter_filter]
  refine List.filter_congr fun e _ => ?_
  by_cases hs : u.dev.Supports e
  · have hwritten : (e.type = "EV_SYN" || known e.type e.code) = true := by
      rcases hs with hsyn | hcode
      · simp [hsyn]
      · simp [h _ hcode]
    rw [decide_eq_true hs, hwritten, Bool.and_self]
  · rw [decide_eq_false hs, Bool.false_and]

/-- `uinput_devices`. -/
abbrev Outputs := Table String Uinput

/-- The device that `emit` chooses. -/
def emitTarget (outputs : Outputs) (device : Option String) : Except String String :=
  match device with
  | none =>
    match outputs.entries with
    | [entry] => .ok entry.1
    | _ => .error "emit requires 'device' when multiple output devices are present"
  | some id => if id ∈ outputs then .ok id else .error ("Unknown device id: " ++ id)

/-- Call `libevdev_uinput_write_event` for the device of an id. -/
def writeEvent (outputs : Outputs) (id : String) (e : InputEvent ℤ) : Outputs :=
  match outputs.lookup id with
  | some u => outputs.insert id (u.write e)
  | none => outputs

/-- `core_emit`: an event that libevdev refuses is no error. -/
def coreEmit (outputs : Outputs) (device : Option String) (e : InputEvent ℤ) :
    Except String Outputs :=
  (emitTarget outputs device).map fun id => writeEvent outputs id e

/-- The event that ends a frame. -/
def synReport : InputEvent ℤ := ⟨"EV_SYN", "SYN_REPORT", 0⟩

/-- `core_syn_report`. -/
def coreSynReport (outputs : Outputs) (device : Option String) : Except String Outputs :=
  match device with
  | some id =>
    if id ∈ outputs then .ok (writeEvent outputs id synReport)
    else .error ("Unknown device id: " ++ id)
  | none => .ok (outputs.mapValues fun _ u => u.write synReport)

/-- `create_outputs_from_decls`, where `creatable` says which devices can be created. -/
def createOutputs (known : String → String → Bool) (creatable : OutputDecl → Bool)
    (decls : List OutputDecl) (outputs : Outputs) : Outputs :=
  decls.foldl (fun outputs out =>
    if out.id = "" ∨ out.id ∈ outputs then outputs
    else if creatable out then outputs.insert out.id ⟨createOutputDevice known out, []⟩
    else outputs) outputs

end Aelkey.Output
