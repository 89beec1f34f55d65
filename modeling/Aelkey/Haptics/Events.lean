import Aelkey.Haptics.RoundTrip
import Mathlib.Data.String.Basic

set_option relaxedAutoImplicit false
set_option autoImplicit false

/-!
# The events of virtual devices

A game uploads its effects to a virtual device, plays them and stops them; the dispatcher reads all
this as events of the device's uinput descriptor (`handle_event`). Uploads and erasures are answered
at once, plays and stops are handed to the Lua callback of the device, which may call
`aelkey.haptics` in turn.

## Main definitions

* `Aelkey.Haptics.handleEvent` — `DispatcherHaptics::handle_event`.
* `Aelkey.Haptics.Act`, `Aelkey.Haptics.actStep` — the dispatcher with its devices and scripts.
* `Aelkey.Haptics.Virtual`, `Aelkey.Haptics.virtualStep` — the virtual devices as games know them.
* `Aelkey.Haptics.forward` — the callback that passes every event on to a sink.

## Design

What the kernel delivers for a descriptor and how it answers the ioctls are arguments of an event.
What a callback does is an argument, too: the calls it makes of `aelkey.haptics`, given the table it
gets. The effect inside that table is a table of its own, kept beside it.
-/

namespace Aelkey.Haptics

/-! ## `handle_event` -/

/-- `EV_UINPUT`. -/
def evUinput : ℕ := 0x0101

/-- `EV_FF`. -/
def evFf : ℕ := 0x15

/-- `UI_FF_UPLOAD`. -/
def uiFfUpload : ℕ := 1

/-- `UI_FF_ERASE`. -/
def uiFfErase : ℕ := 2

/-- An `input_event` read from a uinput descriptor. -/
structure FfEvent where
  type : ℕ
  code : ℕ
  value : ℤ
deriving DecidableEq

/-- The answers to the ioctls for one event: the effect of `UI_BEGIN_FF_UPLOAD` or the id of
`UI_BEGIN_FF_ERASE`, and whether the second ioctl succeeds. -/
structure Request where
  upload : Option FfEffect := none
  erase : Option ℤ := none
  endOk : Bool := true

/-- A call of a Lua callback: its table, and the table in the field `effect`. -/
structure Invocation where
  callback : String
  ev : LuaTable
  effect : Option LuaTable

/-- The first source, in the order of the map, whose descriptor is `fd`. -/
def sourceAt (d : Dispatcher) (fd : ℤ) : Option String :=
  ((d.sources.entries.filter fun e => e.2.fd = fd).map (·.1)).min?

/-- The fields that `handle_play` and `handle_stop` set both. -/
def ffTable (source type : String) (virtId : ℤ) : LuaTable :=
  (((∅ : LuaTable).insert "source" (.str source)).insert "type" (.str type)).insert "id"
    (.integer virtId)

/-- The table of `handle_play`. -/
def playTable (source : String) (virtId magnitude : ℤ) (effect : Option LuaTable) : LuaTable :=
  let ev := (ffTable source "play" virtId).insert "value" (.integer magnitude)
  if effect.isSome then ev.insert "effect" .other else ev

/-- `handle_play`. -/
def handlePlay (isFunction : String → Bool) (src : SourceCtx) (virtId magnitude : ℤ) :
    Option Invocation :=
  if src.callback = "" ∨ isFunction src.callback = false then none
  else
    let effect := (src.effects.lookup virtId).map hapticsEffectToLua
    some ⟨src.callback, playTable src.id virtId magnitude effect, effect⟩

/-- `handle_stop`. -/
def handleStop (isFunction : String → Bool) (src : SourceCtx) (virtId : ℤ) : Option Invocation :=
  if src.callback = "" ∨ isFunction src.callback = false then none
  else some ⟨src.callback, ffTable src.id "stop" virtId, none⟩

/-- `handle_event`, where `read` is the event that is read, if a whole one can be read. The result
has the call of the callback, if there is one. -/
def handleEvent (isFunction : String → Bool) (d : Dispatcher) (fd : ℤ) (epollin : Bool)
    (read : Option FfEvent) (req : Request) : Dispatcher × Option Invocation :=
  if epollin = false then (d, none)
  else
    match sourceAt d fd with
    | none => (d, none)
    | some id =>
      match d.sources.lookup id, read with
      | some src, some ev =>
        if ev.type = evUinput then
          if ev.code = uiFfUpload then ((handleUpload d id src req.upload req.endOk).1, none)
          else if ev.code = uiFfErase then ((handleErase d id src req.erase req.endOk).1, none)
          else (d, none)
        else if ev.type = evFf then
          if 0 < ev.value then (d, handlePlay isFunction src ev.code ev.value)
          else (d, handleStop isFunction src ev.code)
        else (d, none)
      | _, _ => (d, none)

/-! ## The dispatcher among devices and scripts -/

/-- What happens to the dispatcher: virtual devices and sinks are registered, descriptors have
events, and scripts call `aelkey.haptics`. -/
inductive Act
  | register (id : String) (uinputFd : ℤ) (callback : String)
  | sink (id : String) (evdevFd : ℤ)
  | event (fd : ℤ) (epollin : Bool) (read : Option FfEvent) (req : Request)
      (reaction : Invocation → List Call)
  | call (c : Call)

/-- One action. A callback runs to its end before the next action. -/
def actStep (isFunction : String → Bool) (d : Dispatcher) : Act → Dispatcher
  | .register id uinputFd callback => registerSource d id uinputFd callback
  | .sink id evdevFd => registerSink d id evdevFd
  | .event fd epollin read req reaction =>
    let r := handleEvent isFunction d fd epollin read req
    match r.2 with
    | some inv => (reaction inv).foldl callStep r.1
    | none => r.1
  | .call c => callStep d c

/-- The callback that plays and stops on a sink what the game plays and stops, for the kernel's
answers to an upload. -/
def forward (sinkId : String) (first second : Answer) (inv : Invocation) : List Call :=
  if getStr inv.ev "type" "" = "play" then [.play sinkId inv.ev first second]
  else [.stop sinkId inv.ev]

/-! ## The virtual devices -/

/-- The virtual devices as games and the kernel know them: which device a descriptor belongs to, the
callback of a device, and the effects that have been uploaded to it and not been erased. -/
structure Virtual where
  owner : ℤ → Option String := fun _ => none
  callback : String → String := fun _ => ""
  uploaded : Key → Option FfEffect := fun _ => none

/-- A device is created under a descriptor. -/
def Virtual.create (w : Virtual) (id : String) (fd : ℤ) (callback : String) : Virtual where
  owner x := if x = fd then some id else if w.owner x = some id then none else w.owner x
  callback id' := if id' = id then callback else w.callback id'
  uploaded key := if key.1 = id then none else w.uploaded key

/-- An effect is uploaded or erased. -/
def Virtual.set (w : Virtual) (key : Key) (eff : Option FfEffect) : Virtual :=
  { w with uploaded := fun key' => if key' = key then eff else w.uploaded key' }

/-- What a request of a game does to its device: an upload counts if it has been answered, an
erasure as soon as it has been received. -/
def Virtual.request (w : Virtual) (id : String) (code : ℕ) (req : Request) : Virtual :=
  if code = uiFfUpload then
    match req.upload with
    | some eff => if req.endOk then w.set (id, eff.id) (some eff) else w
    | none => w
  else if code = uiFfErase then
    match req.erase with
    | some virtId => w.set (id, virtId) none
    | none => w
  else w

/-- The call of the callback of a device when the game plays or stops an effect: the table has the
effect as it was uploaded, after `rebuild_effect`. -/
def Virtual.invocation (isFunction : String → Bool) (w : Virtual) (id : String) (virtId : ℕ)
    (value : ℤ) : Option Invocation :=
  if w.callback id = "" ∨ isFunction (w.callback id) = false then none
  else if 0 < value then
    let effect := (w.uploaded (id, virtId)).map fun eff => hapticsEffectToLua (rebuildEffect eff)
    some ⟨w.callback id, playTable id virtId value effect, effect⟩
  else some ⟨w.callback id, ffTable id "stop" virtId, none⟩

/-- An event of a descriptor. -/
def Virtual.event (isFunction : String → Bool) (w : Virtual) (fd : ℤ) (epollin : Bool)
    (read : Option FfEvent) (req : Request) : Virtual × Option Invocation :=
  match w.owner fd, read with
  | some id, some ev =>
    if epollin = false then (w, none)
    else if ev.type = evUinput then (w.request id ev.code req, none)
    else if ev.type = evFf then (w, w.invocation isFunction id ev.code ev.value)
    else (w, none)
  | _, _ => (w, none)

/-- A script can erase effects, too. -/
def Virtual.call (w : Virtual) : Call → Virtual
  | .erase tbl =>
    if getStr tbl "source" "" ≠ "" ∧ 0 ≤ getInt tbl "id" (-1) then
      w.set (getStr tbl "source" "", getInt tbl "id" (-1)) none
    else w
  | _ => w

/-- One action. -/
def virtualStep (isFunction : String → Bool) (w : Virtual) : Act → Virtual
  | .register id uinputFd callback => w.create id uinputFd callback
  | .sink _ _ => w
  | .event fd epollin read req reaction =>
    let r := w.event isFunction fd epollin read req
    match r.2 with
    | some inv => (reaction inv).foldl Virtual.call r.1
    | none => r.1
  | .call c => w.call c

end Aelkey.Haptics
