import Aelkey.Lib.SlotCache
import Mathlib.Data.Int.Basic

set_option relaxedAutoImplicit false
set_option autoImplicit false

/-!
# The haptics dispatcher

`dispatcher_haptics.cc`: a source is a namespace of force-feedback effects, a sink is an evdev
device that can play them. A sink remembers in `slots` under which real id an effect resides on its
device; an effect is uploaded when it is played for the first time, and erased from all sinks when
it changes.

## Main definitions

* `Aelkey.Haptics.FfEffect`, `Aelkey.Haptics.csff` — effects, and the ioctl that uploads one.
* `Aelkey.Haptics.SourceCtx`, `Aelkey.Haptics.Sink`, `Aelkey.Haptics.Dispatcher` — the state.
* `Aelkey.Haptics.playEffect`, `Aelkey.Haptics.handleUpload` and the other operations.

## Design

A sink is paired with the effects that reside on its device, since only the operations here change
them. What the kernel does is an argument of an operation: the answers to the two uploads that one
`play_effect` may ask for, the effect of a `UI_BEGIN_FF_UPLOAD`, the success of an ioctl.
`EVIOCRMFF` removes the id. Values of C types are integers; the two id counters are natural
numbers, and the ids taken from them are converted as in the source.
-/

namespace Aelkey.Haptics

/-! ## Effects and the device -/

/-- `ff_envelope`. -/
structure FfEnvelope where
  attackLength : ℤ := 0
  attackLevel : ℤ := 0
  fadeLength : ℤ := 0
  fadeLevel : ℤ := 0
deriving DecidableEq

/-- The type of an effect with the union `u`. The types the module does not know are `other`, with
the raw contents of the union. The samples of a periodic effect are a length and a pointer. -/
inductive FfBody
  | rumble (strongMagnitude weakMagnitude : ℤ)
  | periodic (waveform period magnitude offset phase : ℤ) (envelope : FfEnvelope)
    (customLen customData : ℤ)
  | constant (level : ℤ) (envelope : FfEnvelope)
  | other (type : ℤ) (raw : List ℤ)
deriving DecidableEq

/-- `ff_effect`. -/
structure FfEffect where
  id : ℤ
  direction : ℤ := 0
  triggerButton : ℤ := 0
  triggerInterval : ℤ := 0
  length : ℤ := 0
  delay : ℤ := 0
  body : FfBody
deriving DecidableEq

/-- Equal up to the id. -/
def FfEffect.Same (e e' : FfEffect) : Prop := { e with id := 0 } = { e' with id := 0 }

instance : DecidableRel FfEffect.Same := fun _ _ => decEq _ _

/-- The effects that reside on a device, by their real ids. -/
abbrev Device := Table ℤ FfEffect

/-- The error of an ioctl. -/
inductive Errno
  | enospc
  | other
deriving DecidableEq

/-- The kernel's answer to an upload. -/
inductive Answer
  | stored (id : ℤ)
  | failed (errno : Errno)
deriving DecidableEq

/-- `EVIOCSFF` for an effect with id -1: it is stored under an id not in use, or nothing happens. An
answer with an id that is in use, or negative, counts as a failure. -/
def csff (device : Device) (eff : FfEffect) : Answer → Device × Except Errno ℤ
  | .stored id =>
    if 0 ≤ id ∧ id ∉ device then (device.insert id { eff with id := id }, .ok id)
    else (device, .error .other)
  | .failed errno => (device, .error errno)

/-! ## The dispatcher -/

/-- `HAPTICS_SOURCE_ONESHOT`. -/
def hapticsSourceOneshot : String := "_aelkey_haptics_oneshot_"

/-- `HapticsSourceCtx`. -/
structure SourceCtx where
  id : String
  fd : ℤ := -1
  callback : String := ""
  effects : Table ℤ FfEffect := ∅

/-- A source and a virtual id. -/
abbrev Key := String × ℤ

/-- `HapticsSinkCtx`. -/
structure SinkCtx where
  id : String
  fd : ℤ := -1
  slots : Table Key ℤ := ∅

/-- A sink with its device. -/
structure Sink extends SinkCtx where
  device : Device := ∅

/-- An `EV_FF` event written to a device. -/
structure FfWrite where
  fd : ℤ
  code : ℤ
  value : ℤ
deriving DecidableEq

/-- The dispatcher, the devices of its sinks, and the events written so far. -/
structure Dispatcher where
  sources : Table String SourceCtx := ∅
  sinks : Table String Sink := ∅
  internalIdCounter : ℕ := 0
  oneshotCounter : ℕ := 0
  written : List FfWrite := []

/-- Conversion to `__s16`. -/
def toInt16 (n : ℤ) : ℤ := Int.bmod n (2 ^ 16)

/-- Conversion to `int`. -/
def toInt32 (n : ℤ) : ℤ := Int.bmod n (2 ^ 32)

/-- `register_source`. -/
def registerSource (d : Dispatcher) (id : String) (uinputFd : ℤ) (callback : String) :
    Dispatcher :=
  { d with sources := d.sources.insert id { id := id, fd := uinputFd, callback := callback } }

/-- `register_sink`, on a device without effects. -/
def registerSink (d : Dispatcher) (id : String) (evdevFd : ℤ) : Dispatcher :=
  if evdevFd < 0 then d else { d with sinks := d.sinks.insert id { id := id, fd := evdevFd } }

/-- The body of `propagate_erase_to_sinks` for one sink. -/
def Sink.dropKey (sink : Sink) (key : Key) : Sink :=
  { sink with
    slots := sink.slots.erase key
    device := SlotCache.dropKey sink.slots sink.device key }

/-- `propagate_erase_to_sinks`. -/
def propagateErase (d : Dispatcher) (sourceId : String) (virtId : ℤ) : Dispatcher :=
  { d with sinks := d.sinks.mapValues fun _ sink => sink.dropKey (sourceId, virtId) }

/-- `upload_effect_to_sink`, for the kernel's answers to the first and the second upload. The
result is the real id or -1. -/
def uploadEffect (sink : Sink) (eff : FfEffect) (first second : Answer) : Sink × ℤ :=
  let eff := { eff with id := -1 }
  match csff sink.device eff first with
  | (device, .ok id) => ({ sink with device := device }, id)
  | (_, .error .other) => (sink, -1)
  | (_, .error .enospc) =>
    let sink := { sink with
      slots := ∅
      device := SlotCache.evict sink.slots sink.device }
    match csff sink.device eff second with
    | (device, .ok id) => ({ sink with device := device }, id)
    | (_, .error _) => (sink, -1)

/-- Replace the effects of a source. -/
def setEffects (d : Dispatcher) (src : SourceCtx) (effects : Table ℤ FfEffect) (sourceId : String) :
    Dispatcher :=
  { d with sources := d.sources.insert sourceId { src with effects := effects } }

/-- The beginning of `create_persistent_effect`: a source that is not there is registered. -/
def ensureSource (d : Dispatcher) (sourceId : String) : Dispatcher :=
  match d.sources.lookup sourceId with
  | some _ => d
  | none => registerSource d sourceId (-1) ""

/-- `create_persistent_effect`. -/
def createPersistentEffect (d : Dispatcher) (sourceId : String) (eff : FfEffect) :
    Dispatcher × ℤ :=
  let d := ensureSource d sourceId
  let (eff, d) :=
    if eff.id = -1 then
      ({ eff with id := toInt16 d.internalIdCounter },
        { d with internalIdCounter := d.internalIdCounter + 1 })
    else (eff, d)
  let d := propagateErase d sourceId eff.id
  match d.sources.lookup sourceId with
  | some src => (setEffects d src (src.effects.insert eff.id eff) sourceId, eff.id)
  | none => (d, eff.id)

/-- `erase_persistent_effect`. -/
def erasePersistentEffect (d : Dispatcher) (sourceId : String) (virtId : ℤ) : Dispatcher × Bool :=
  match d.sources.lookup sourceId with
  | some src =>
    (setEffects (propagateErase d sourceId virtId) src (src.effects.erase virtId) sourceId, true)
  | none => (d, false)

/-- The end of `play_effect`: remember the slot, if it is new, and write the event. -/
def playSlot (d : Dispatcher) (sinkId : String) (sink : Sink) (realId magnitude : ℤ) :
    Dispatcher × ℤ :=
  ({ d with
      sinks := d.sinks.insert sinkId sink
      written := d.written ++ [⟨sink.fd, realId, magnitude⟩] }, realId)

/-- `play_effect`, for the kernel's answers to its uploads. -/
def playEffect (d : Dispatcher) (sinkId sourceId : String) (virtId magnitude : ℤ)
    (maybeEff : Option FfEffect) (first second : Answer) : Dispatcher × ℤ :=
  match d.sinks.lookup sinkId with
  | none => (d, -1)
  | some sink =>
    if sink.fd < 0 then (d, -1)
    else
      match maybeEff with
      | none =>
        match sink.slots.lookup (sourceId, virtId) with
        | some realId => playSlot d sinkId sink realId magnitude
        | none =>
          match d.sources.lookup sourceId with
          | none => (d, -1)
          | some src =>
            match src.effects.lookup virtId with
            | none => (d, -1)
            | some eff =>
              let (sink, realId) := uploadEffect sink eff first second
              if realId < 0 then ({ d with sinks := d.sinks.insert sinkId sink }, -1)
              else
                playSlot d sinkId
                  { sink with slots := sink.slots.insert (sourceId, virtId) realId }
                  realId magnitude
      | some eff =>
        let actualVirt := toInt32 d.oneshotCounter
        let d := { d with oneshotCounter := d.oneshotCounter + 1 }
        let (sink, realId) := uploadEffect sink eff first second
        if realId < 0 then ({ d with sinks := d.sinks.insert sinkId sink }, -1)
        else
          playSlot d sinkId
            { sink with slots := sink.slots.insert (hapticsSourceOneshot, actualVirt) realId }
            realId magnitude

/-- `stop_effect`. -/
def stopEffect (d : Dispatcher) (sinkId sourceId : String) (virtId : ℤ) : Dispatcher × Bool :=
  match d.sinks.lookup sinkId with
  | none => (d, false)
  | some sink =>
    if sink.fd < 0 then (d, false)
    else
      match sink.slots.lookup (sourceId, virtId) with
      | none => (d, false)
      | some realId => ({ d with written := d.written ++ [⟨sink.fd, realId, 0⟩] }, true)

/-- `rebuild_effect`. -/
def rebuildEffect (eff : FfEffect) : FfEffect :=
  match eff.body with
  | .other _ _ =>
    { eff with
      id := -1
      body := .rumble 0x4000 0x4000
      length := if eff.length = 0 then 250 else eff.length }
  | _ => { eff with id := -1 }

/-- `handle_upload`: the effect that `UI_BEGIN_FF_UPLOAD` delivers, if it succeeds, and whether
`UI_END_FF_UPLOAD` succeeds. -/
def handleUpload (d : Dispatcher) (sourceId : String) (hctx : SourceCtx) (begin : Option FfEffect)
    (endOk : Bool) : Dispatcher × Bool :=
  match begin with
  | none => (d, false)
  | some eff =>
    if endOk then
      let d := setEffects d hctx (hctx.effects.insert eff.id (rebuildEffect eff)) sourceId
      (propagateErase d hctx.id eff.id, true)
    else (d, false)

/-- `handle_erase`: the id that `UI_BEGIN_FF_ERASE` delivers, if it succeeds, and whether
`UI_END_FF_ERASE` succeeds. -/
def handleErase (d : Dispatcher) (sourceId : String) (hctx : SourceCtx) (begin : Option ℤ)
    (endOk : Bool) : Dispatcher × Bool :=
  match begin with
  | none => (d, false)
  | some virtId =>
    let d := setEffects d hctx (hctx.effects.erase virtId) sourceId
    (propagateErase d hctx.id virtId, endOk)

end Aelkey.Haptics
