import Aelkey.Device.Tables
import Aelkey.Lib.Frames

set_option relaxedAutoImplicit false
set_option autoImplicit false

/-!
# Frames of evdev events

`DispatcherEvdev` reads the events of a device whenever its descriptor is ready, collects them in
the buffer of the device, and hands the buffer to the callback at every `SYN_REPORT`. How many
events are there at a wakeup is up to the kernel: a wakeup may bring several reports, or end within
one.

## Main definitions

* `Aelkey.Device.dispatchEvdevLogic` — the loop of `dispatch_evdev_logic`.
* `Aelkey.Device.handleEvent` — `DispatcherEvdev::handle_event`.
* `Aelkey.Device.Session`, `Aelkey.Device.sessionStep` — devices with their streams.
* `Aelkey.Device.Framed` — what has been delivered for a device.
* `Aelkey.Device.ReadsReady` — a wakeup reads the events that are there.

## Main results

* `Aelkey.Device.allFramed_of_keeps` — the callback of a device gets exactly the reports of its
  stream, as far as the wakeups for the device have brought it.
* `Aelkey.Device.Framed.deliveries_eq` — the frames do not depend on how the stream is read.

## Design

libevdev returns the events of a device in order, and then that there are none for now; how many it
returns at a wakeup is an argument of the wakeup. A callback may open devices. What it does is a
function of everything that has been delivered so far; that it may raise an error makes no
difference. The names of types and codes are libevdev's.
-/

namespace Aelkey.Device

/-! ## Events -/

/-- An `EV_SYN` event with code `SYN_REPORT`. -/
def InputEvent.IsReport (e : InputEvent) : Prop := e.type = 0 ∧ e.code = 0

/-- An `EV_SYN` event with code `SYN_DROPPED`. -/
def InputEvent.IsDropped (e : InputEvent) : Prop := e.type = 0 ∧ e.code = 3

instance : DecidablePred InputEvent.IsReport := fun _ => instDecidableAnd

instance : DecidablePred InputEvent.IsDropped := fun _ => instDecidableAnd

/-- The table of an event in the list that a callback gets. -/
structure EventTable where
  device : String
  type : String
  code : String
  value : ℤ
  sec : ℤ
  usec : ℤ
deriving DecidableEq

/-- The names of libevdev: `libevdev_event_type_get_name` and `libevdev_event_code_get_name`. -/
structure EventNames where
  typeName : ℕ → Option String
  codeName : ℕ → ℕ → Option String

/-- The table of one event of a device. -/
def eventTable (names : EventNames) (decl : InputDecl) (e : InputEvent) : EventTable where
  device := decl.id
  type := (names.typeName e.type).getD ""
  code := (names.codeName e.type e.code).getD ""
  value := e.value
  sec := Haptics.toInt32 e.sec
  usec := Haptics.toInt32 e.usec

/-- A call of a callback, for a device. -/
structure Delivery where
  device : String
  callback : String
  events : List EventTable
deriving DecidableEq

/-- The device layer, the events of every device that have not been read yet, and the calls of
callbacks so far. -/
structure Session where
  device : State := {}
  unread : String → List InputEvent
  log : List Delivery := []

/-! ## Reading -/

section Reading

variable (script : Script) (names : EventNames) (callback : List Delivery → List Action)

/-- `frame.push_back(ev)`. -/
def pushEvent (s : State) (id : String) (e : InputEvent) : State :=
  { s with frames := s.frames.insert id ((s.frames.lookup id).getD [] ++ [e]) }

/-- `frame.clear()`. -/
def clearFrame (s : State) (id : String) : State := { s with frames := s.frames.insert id [] }

/-- Call the callback with the frame of the device, if it has a callback. -/
def callOnEvent (decl : InputDecl) (s : Session) : Session :=
  if decl.onEvent = "" ∨ !script.isFunction decl.onEvent then s
  else
    let frame := (s.device.frames.lookup decl.id).getD []
    let log := s.log ++ [⟨decl.id, decl.onEvent, frame.map (eventTable names decl)⟩]
    { s with
      device := (callback log).foldl (step script) s.device
      log := log }

/-- The loop of `dispatch_evdev_logic`, when libevdev returns `n` events before it reports that
there are none. -/
def readLoop (decl : InputDecl) : ℕ → Session → Session
  | 0, s => s
  | n + 1, s =>
    match s.unread decl.id with
    | [] => s
    | e :: unread =>
      let s := { s with unread := Function.update s.unread decl.id unread }
      -- `LIBEVDEV_READ_STATUS_SYNC`
      if e.IsDropped then s
      else
        let s := { s with device := pushEvent s.device decl.id e }
        if e.IsReport then
          let s := callOnEvent script names callback decl s
          readLoop decl n { s with device := clearFrame s.device decl.id }
        else readLoop decl n s

/-- `dispatch_evdev_logic`. -/
def dispatchEvdevLogic (decl : InputDecl) (n : ℕ) (s : Session) : Session :=
  match s.device.evdev.idevMap.lookup decl.fd with
  | none => s
  | some _ =>
    match s.device.frames.lookup decl.id with
    | none => s
    | some _ => readLoop script names callback decl n s

/-- `EPOLLHUP | EPOLLERR`. -/
def hangupMask : ℕ := 24

/-- `DispatcherEvdev::handle_event`. -/
def handleEvent (fd : ℤ) (events : ℕ) (freed : String) (n : ℕ) (s : Session) : Session :=
  match s.device.evdev.devices.lookup fd with
  | none => s
  | some id =>
    match s.device.inputMap.lookup id with
    | none => s
    | some decl =>
      if events &&& hangupMask ≠ 0 then
        { s with device := detachAndNotify script s.device decl.id freed }
      else if events &&& 1 = 0 then s
      else dispatchEvdevLogic script names callback decl n s

/-- A wakeup for a descriptor at which libevdev has `n` events, or an action of the device layer. -/
inductive SessionAction
  | wakeup (fd : ℤ) (events : ℕ) (freed : String) (n : ℕ)
  | device (a : Action)

/-- One action. -/
def sessionStep (s : Session) : SessionAction → Session
  | .wakeup fd events freed n => handleEvent script names callback fd events freed n s
  | .device a => { s with device := step script s.device a }

/-- No device is closed, and none hangs up. -/
def SessionAction.Keeps : SessionAction → Prop
  | .wakeup _ events _ _ => events &&& hangupMask = 0
  | .device a => a.closes = false

/-! ## What is delivered -/

/-- The calls of the callback of a device. -/
def Session.deliveries (s : Session) (id : String) : List Delivery :=
  s.log.filter fun d => d.device = id

/-- The call for one frame of a device. -/
def delivery (decl : InputDecl) (frame : List InputEvent) : Delivery :=
  ⟨decl.id, decl.onEvent, frame.map (eventTable names decl)⟩

/-- The device has a callback. -/
def Listens (decl : InputDecl) : Prop := decl.onEvent ≠ "" ∧ script.isFunction decl.onEvent = true

/-- **The callback of a device has got exactly the reports of its stream**: what has been read of
the stream is cut into frames, which have been delivered in order, and a rest. -/
def Framed (streams : String → List InputEvent) (s : Session) (decl : InputDecl)
    (rest : List InputEvent) : Prop :=
  ∃ read pieces, streams decl.id = read ++ s.unread decl.id ∧
    Frames.Cuts InputEvent.IsReport read pieces rest ∧
    s.deliveries decl.id = pieces.map (delivery names decl)

/-- For every attached evdev device with a callback, the callback has got exactly the reports of its
stream, and the rest is in the buffer of the device. -/
def AllFramed (streams : String → List InputEvent) (s : Session) : Prop :=
  ∀ id decl, AttachedAs s.device id .evdev decl → Listens script decl →
    ∃ rest, s.device.frames.lookup id = some rest ∧ Framed names streams s decl rest

/-- The device is an attached evdev device, and there is something to read at its descriptor. -/
def Wakes (s : Session) (fd : ℤ) (events : ℕ) (id : String) : Prop :=
  events &&& 1 ≠ 0 ∧ ∃ decl, AttachedAs s.device id .evdev decl ∧ decl.fd = fd

/-- **A wakeup reads what is there**: it takes `n` events off the stream of the device that it is
for, or all that are left, and none off any other stream. An action of the device layer reads
nothing. -/
def ReadsReady (s : Session) (a : SessionAction) : Prop :=
  match a with
  | .wakeup fd events _ n => ∀ id,
      (Wakes s fd events id →
        (sessionStep script names callback s a).unread id = (s.unread id).drop n) ∧
      (¬ Wakes s fd events id →
        (sessionStep script names callback s a).unread id = s.unread id)
  | .device _ => (sessionStep script names callback s a).unread = s.unread

end Reading

/-! ## The invariant -/

section Invariant

variable {script : Script} {names : EventNames} {streams : String → List InputEvent}

/-- **The invariant**, for the contents of the buffers and the rests of the streams: the two differ
while a callback runs, since the buffer is cleared afterwards. A device that is not attached has
read and delivered nothing. -/
structure SessionInv (script : Script) (names : EventNames) (streams : String → List InputEvent)
    (s : Session) (buffer rest : String → List InputEvent) : Prop where
  buffered : ∀ id decl, AttachedAs s.device id .evdev decl →
    s.device.frames.lookup id = some (buffer id)
  framed : ∀ id decl, AttachedAs s.device id .evdev decl → Listens script decl → decl.id = id →
    Framed names streams s decl (rest id)
  idle : ∀ id, id ∉ s.device.inputMap →
    buffer id = [] ∧ rest id = [] ∧ s.unread id = streams id ∧ s.deliveries id = []
  kept : ∀ id, ∀ e ∈ s.unread id, ¬ e.IsDropped

variable {s : Session} {buffer rest : String → List InputEvent}

/-- What has been delivered for a device that has just been attached. -/
lemma framed_nil {decl : InputDecl} (hunread : s.unread decl.id = streams decl.id)
    (hlog : s.deliveries decl.id = []) : Framed names streams s decl [] :=
  ⟨[], [], hunread.symm, .nil, hlog⟩

/-- Attaching devices keeps the invariant: a new device has an empty buffer, and the others keep
theirs. -/
lemma SessionInv.opens {d d' : State} (ho : Opens script d d') :
    ∀ {s : Session}, SessionInv script names streams s buffer rest → s.device = d →
      SessionInv script names streams { s with device := d' } buffer rest := by
  induction ho with
  | refl d =>
    rintro s h rfl
    exact h
  | @untouched d d₁ d₂ hu _ ih =>
    rintro s h rfl
    have hattached : ∀ id d, AttachedAs d₁ id .evdev d → AttachedAs s.device id .evdev d := by
      intro id d hd
      rwa [AttachedAs, hu.inputMap] at hd
    refine ih (s := { s with device := d₁ })
      ⟨fun id d hd => ?_, fun id d hd => h.framed id d (hattached id d hd), fun id hid => ?_,
        h.kept⟩ rfl
    · rw [hu.frames]
      exact h.buffered id d (hattached id d hd)
    · rw [hu.inputMap] at hid
      exact h.idle id hid
  | @attaches d d₁ d₂ decl ha _ ih =>
    rintro s h rfl
    obtain ⟨hbuffer, hrest, hunread, hlog⟩ := h.idle decl.id ha.fresh
    have hold : ∀ id d, AttachedAs s.device id .evdev d → id ≠ decl.id := by
      rintro _ d hd rfl
      exact ha.fresh (Table.mem_of_lookup hd.1)
    refine ih (s := { s with device := d₁ }) ⟨fun id d hd => ?_, fun id d hd hl hid => ?_,
      fun id hid => ?_, h.kept⟩ rfl
    · rw [ha.frames]
      rcases (ha.attachedAs id .evdev d).mp hd with ⟨rfl, -, ht⟩ | hd
      · rw [if_pos ⟨ht, rfl⟩, hbuffer]
      · rw [if_neg fun hc => hold id d hd hc.2, h.buffered id d hd]
    · rcases (ha.attachedAs id .evdev d).mp hd with ⟨rfl, rfl, ht⟩ | hd
      · rw [hrest]
        exact framed_nil hunread hlog
      · exact h.framed id d hd hl hid
    · refine h.idle id fun hin => hid ?_
      rw [ha.inputMap]
      exact (AList.mem_insert _).mpr (.inr hin)

/-- What is attached stays attached while devices are opened. -/
lemma Opens.attachedAs {d d' : State} (ho : Opens script d d') {id : String} {decl : InputDecl}
    (h : AttachedAs d id .evdev decl) : AttachedAs d' id .evdev decl := by
  induction ho with
  | refl => exact h
  | untouched hu _ ih => exact ih (by simpa only [AttachedAs, hu.inputMap] using h)
  | attaches ha _ ih => exact ih ((ha.attachedAs _ _ _).mpr (.inr h))

/-- A change of the frame buffers keeps the tables consistent. -/
lemma Consistent.frames {d : State} (h : Consistent script d)
    (frames : Table String (List InputEvent)) : Consistent script { d with frames := frames } :=
  ⟨⟨h.ids, h.declared, h.known, h.opened, h.distinct, h.evdev, h.idev, h.hidraw, h.libusb, h.gatt,
    h.conn⟩, h.inputDecls⟩

/-- Actions that close nothing open devices. -/
lemma opens_foldl {as : List Action} (has : ∀ a ∈ as, a.closes = false) {d : State}
    (hc : Consistent script d) :
    Opens script d (as.foldl (step script) d) ∧ Consistent script (as.foldl (step script) d) := by
  induction as generalizing d with
  | nil => exact ⟨.refl d, hc⟩
  | cons a as ih =>
    obtain ⟨ha, has⟩ := List.forall_mem_cons.mp has
    obtain ⟨ho, hc'⟩ := ih has (consistent_step d a hc)
    exact ⟨(step_opens hc ha).1.trans ho, hc'⟩

/-- Writing to the buffer of an attached device keeps the invariant, for the new contents. -/
lemma SessionInv.write {id : String} (h : SessionInv script names streams s buffer rest)
    (hid : id ∈ s.device.inputMap) (frame : List InputEvent) :
    SessionInv script names streams
      { s with device := { s.device with frames := s.device.frames.insert id frame } }
      (Function.update buffer id frame) rest := by
  refine ⟨fun id' d hd => ?_, h.framed, fun id' hid' => ?_, h.kept⟩
  · dsimp only
    rw [Table.lookup_insert]
    split_ifs with he
    · rw [he, Function.update_self]
    · rw [Function.update_of_ne he]
      exact h.buffered id' d hd
  · have hne : id' ≠ id := by
      rintro rfl
      exact hid' hid
    rw [Function.update_of_ne hne]
    exact h.idle id' hid'

/-- **Reading an event** of an attached device keeps the invariant, if what the device does with the
event, to its rest and to the log, keeps its own stream framed. -/
lemma SessionInv.read {decl : InputDecl} {e : InputEvent} {unread : List InputEvent}
    (h : SessionInv script names streams s buffer rest)
    (ha : AttachedAs s.device decl.id .evdev decl) (hunread : s.unread decl.id = e :: unread)
    (frame : List InputEvent) (log : List Delivery)
    (hlog : ∀ id, id ≠ decl.id →
      (log.filter fun d => d.device = id) = s.log.filter fun d => d.device = id)
    (hframed : Listens script decl → Framed names streams
      { s with unread := Function.update s.unread decl.id unread, log := log } decl frame) :
    SessionInv script names streams
      { s with unread := Function.update s.unread decl.id unread, log := log } buffer
      (Function.update rest decl.id frame) := by
  refine ⟨h.buffered, fun id d hd hl hid => ?_, fun id hid => ?_, fun id x hx => ?_⟩
  · by_cases he : id = decl.id
    · subst he
      obtain rfl : d = decl := Option.some.inj (hd.1.symm.trans ha.1)
      rw [Function.update_self]
      exact hframed hl
    · obtain ⟨read, pieces, hstream, hcuts, hdel⟩ := h.framed id d hd hl hid
      rw [Function.update_of_ne he]
      refine ⟨read, pieces, ?_, hcuts, ?_⟩
      · rw [hid] at hstream ⊢
        rw [hstream]
        exact congrArg _ (Function.update_of_ne he ..).symm
      · rw [hid] at hdel ⊢
        exact (hlog id he).trans hdel
  · have he : id ≠ decl.id := by
      rintro rfl
      exact hid (Table.mem_of_lookup ha.1)
    obtain ⟨hb, hr, hu, hd⟩ := h.idle id hid
    refine ⟨hb, ?_, ?_, (hlog id he).trans hd⟩
    · rw [Function.update_of_ne he, hr]
    · exact (Function.update_of_ne he ..).trans hu
  · by_cases he : id = decl.id
    · subst he
      dsimp only at hx
      rw [Function.update_self] at hx
      exact h.kept decl.id x (hunread ▸ List.mem_cons_of_mem _ hx)
    · dsimp only at hx
      rw [Function.update_of_ne he] at hx
      exact h.kept id x hx

/-! ## Steps -/

/-- An event that ends no report goes into the rest. -/
lemma Framed.snoc {decl : InputDecl} {e : InputEvent} {unread frame : List InputEvent}
    (h : Framed names streams s decl frame) (hunread : s.unread decl.id = e :: unread)
    (he : ¬ e.IsReport) :
    Framed names streams { s with unread := Function.update s.unread decl.id unread } decl
      (frame ++ [e]) := by
  obtain ⟨read, pieces, hstream, hcuts, hdel⟩ := h
  refine ⟨read ++ [e], pieces, ?_, hcuts.snoc he, hdel⟩
  simp only [Function.update_self]
  rw [hstream, hunread, List.append_assoc]
  rfl

/-- An event that ends a report completes a frame, which is delivered. -/
lemma Framed.close {decl : InputDecl} {e : InputEvent} {unread frame : List InputEvent}
    (h : Framed names streams s decl frame) (hunread : s.unread decl.id = e :: unread)
    (he : e.IsReport) :
    Framed names streams
      { s with
        unread := Function.update s.unread decl.id unread
        log := s.log ++ [delivery names decl (frame ++ [e])] } decl [] := by
  obtain ⟨read, pieces, hstream, hcuts, hdel⟩ := h
  refine ⟨read ++ [e], pieces ++ [frame ++ [e]], ?_, hcuts.close he, ?_⟩
  · simp only [Function.update_self]
    rw [hstream, hunread, List.append_assoc]
    rfl
  · have hmine : ([delivery names decl (frame ++ [e])].filter fun d => d.device = decl.id) =
        [delivery names decl (frame ++ [e])] := by simp [delivery]
    rw [Session.deliveries, List.filter_append, hmine, List.map_append]
    exact congrArg (· ++ [_]) hdel

variable {callback : List Delivery → List Action}

/-- What happens at the end of a report, for a device with a callback. -/
lemma callOnEvent_of_listens {decl : InputDecl} (hl : Listens script decl) {frame : List InputEvent}
    (hframe : s.device.frames.lookup decl.id = some frame) :
    callOnEvent script names callback decl s =
      { s with
        device := (callback (s.log ++ [delivery names decl frame])).foldl (step script) s.device
        log := s.log ++ [delivery names decl frame] } := by
  have hcall : ¬ (decl.onEvent = "" ∨ (!script.isFunction decl.onEvent) = true) := by
    rw [hl.2]
    simpa using hl.1
  simp only [callOnEvent, if_neg hcall, hframe, Option.getD_some, delivery]

/-- What happens at the end of a report, for a device without a callback. -/
lemma callOnEvent_of_not_listens {decl : InputDecl} (hl : ¬ Listens script decl) :
    callOnEvent script names callback decl s = s := by
  rw [callOnEvent, if_pos]
  rw [Listens, not_and_or, not_not] at hl
  simpa using hl

/-- The invariant of a session between its steps. -/
def SessionOk (script : Script) (names : EventNames) (streams : String → List InputEvent)
    (s : Session) : Prop :=
  Consistent script s.device ∧ ∃ buffer, SessionInv script names streams s buffer buffer

/-- What the loop does with one event. -/
def readEvent (script : Script) (names : EventNames) (callback : List Delivery → List Action)
    (decl : InputDecl) (e : InputEvent) (unread : List InputEvent) (s : Session) : Session :=
  let s := { s with
    unread := Function.update s.unread decl.id unread
    device := pushEvent s.device decl.id e }
  if e.IsReport then
    let s := callOnEvent script names callback decl s
    { s with device := clearFrame s.device decl.id }
  else s

/-- The loop reads one event after another. -/
lemma readLoop_succ {decl : InputDecl} {n : ℕ} {e : InputEvent} {unread : List InputEvent}
    (hunread : s.unread decl.id = e :: unread) (he : ¬ e.IsDropped) :
    readLoop script names callback decl (n + 1) s =
      readLoop script names callback decl n (readEvent script names callback decl e unread s) := by
  rw [readLoop, hunread]
  simp only [if_neg he, readEvent]
  split_ifs <;> rfl

/-- **One event** keeps the invariant. An event that ends no report goes into the buffer and into
the rest. At the end of a report the buffer, with that event, is what the callback gets, and the
rest is empty; the callback may open devices; then the buffer is cleared. -/
lemma sessionOk_readEvent (hcb : ∀ log, ∀ a ∈ callback log, a.closes = false) {decl : InputDecl}
    {e : InputEvent} {unread : List InputEvent} (h : SessionOk script names streams s)
    (ha : AttachedAs s.device decl.id .evdev decl) (hunread : s.unread decl.id = e :: unread) :
    SessionOk script names streams (readEvent script names callback decl e unread s) ∧
      AttachedAs (readEvent script names callback decl e unread s).device decl.id .evdev decl := by
  obtain ⟨hc, buffer, h⟩ := h
  have hmem : decl.id ∈ s.device.inputMap := Table.mem_of_lookup ha.1
  -- the buffer with the event
  have hpush : pushEvent s.device decl.id e = { s.device with
      frames := s.device.frames.insert decl.id (buffer decl.id ++ [e]) } := by
    rw [pushEvent, h.buffered decl.id decl ha, Option.getD_some]
  simp only [readEvent, hpush]
  by_cases hreport : e.IsReport
  · rw [if_pos hreport]
    by_cases hl : Listens script decl
    · -- the frame is delivered, and the callback runs
      rw [callOnEvent_of_listens hl (AList.lookup_insert _)]
      have hread := h.read ha hunread [] (s.log ++ [delivery names decl (buffer decl.id ++ [e])])
        (fun id hid => by simp [delivery, Ne.symm hid])
        fun hl => (h.framed decl.id decl ha hl rfl).close hunread hreport
      have hwrite := hread.write hmem (buffer decl.id ++ [e])
      obtain ⟨ho, hc'⟩ := opens_foldl (hcb (s.log ++ [delivery names decl (buffer decl.id ++ [e])]))
        (hc.frames (s.device.frames.insert decl.id (buffer decl.id ++ [e])))
      have ha' := ho.attachedAs ha
      have hclear := (hwrite.opens ho rfl).write (Table.mem_of_lookup ha'.1) []
      rw [Function.update_idem] at hclear
      exact ⟨⟨hc'.frames _, _, hclear⟩, ha'⟩
    · -- the frame is dropped
      rw [callOnEvent_of_not_listens hl]
      have hread := h.read ha hunread [] s.log (fun _ _ => rfl) fun hl' => absurd hl' hl
      have hclear := (hread.write hmem (buffer decl.id ++ [e])).write hmem []
      rw [Function.update_idem] at hclear
      exact ⟨⟨(hc.frames _).frames _, _, hclear⟩, ha⟩
  · rw [if_neg hreport]
    have hread := h.read ha hunread (buffer decl.id ++ [e]) s.log (fun _ _ => rfl)
      fun hl => (h.framed decl.id decl ha hl rfl).snoc hunread hreport
    have hwrite := hread.write hmem (buffer decl.id ++ [e])
    exact ⟨⟨hc.frames _, _, hwrite⟩, ha⟩

/-- A loop that reads the events of an attached device keeps the invariant. -/
lemma sessionOk_readLoop (hcb : ∀ log, ∀ a ∈ callback log, a.closes = false) {decl : InputDecl}
    (n : ℕ) (h : SessionOk script names streams s)
    (ha : AttachedAs s.device decl.id .evdev decl) :
    SessionOk script names streams (readLoop script names callback decl n s) := by
  induction n generalizing s with
  | zero => exact h
  | succ n ih =>
    rcases hunread : s.unread decl.id with _ | ⟨e, unread⟩
    · rw [readLoop, hunread]
      exact h
    · obtain ⟨buffer, hinv⟩ := h.2
      have hkept : ¬ e.IsDropped := hinv.kept decl.id e (hunread ▸ List.mem_cons_self ..)
      obtain ⟨hok, ha'⟩ := sessionOk_readEvent hcb h ha hunread
      rw [readLoop_succ hunread hkept]
      exact ih hok ha'

/-- A call of a callback reads nothing. -/
lemma unread_callOnEvent (decl : InputDecl) (s : Session) :
    (callOnEvent script names callback decl s).unread = s.unread := by
  unfold callOnEvent
  split_ifs <;> rfl

variable (script names callback) in
/-- What the loop does with one event takes it off the stream. -/
lemma unread_readEvent (decl : InputDecl) (e : InputEvent) (unread : List InputEvent)
    (s : Session) :
    (readEvent script names callback decl e unread s).unread =
      Function.update s.unread decl.id unread := by
  unfold readEvent
  dsimp only
  split_ifs
  · rw [unread_callOnEvent]
  · rfl

/-- **The loop reads the events that are there**, `n` of them or as many as are left. -/
lemma unread_readLoop {decl : InputDecl} (n : ℕ) (hkept : ∀ e ∈ s.unread decl.id, ¬ e.IsDropped) :
    (readLoop script names callback decl n s).unread =
      Function.update s.unread decl.id ((s.unread decl.id).drop n) := by
  induction n generalizing s with
  | zero => rw [readLoop, List.drop_zero, Function.update_eq_self]
  | succ n ih =>
    rcases hunread : s.unread decl.id with _ | ⟨e, unread⟩
    · have hstop : readLoop script names callback decl (n + 1) s = s := by
        rw [readLoop, hunread]
      rw [hstop, List.drop_nil, ← hunread, Function.update_eq_self]
    · rw [hunread] at hkept
      obtain ⟨he, hrest⟩ := List.forall_mem_cons.mp hkept
      have hafter := unread_readEvent script names callback decl e unread s
      rw [readLoop_succ hunread he, ih, hafter, Function.update_self, Function.update_idem,
        List.drop_succ_cons]
      rw [hafter, Function.update_self]
      exact hrest

variable (names callback) in
/-- A wakeup without a hang-up reads the events of the device that it is for, or does nothing if
there is no such device. -/
lemma handleEvent_cases (hc : Consistent script s.device)
    (hframes : ∀ id decl, AttachedAs s.device id .evdev decl → id ∈ s.device.frames) (fd : ℤ)
    {events : ℕ} (hevents : events &&& hangupMask = 0) (freed : String) (n : ℕ) :
    (∃ decl, AttachedAs s.device decl.id .evdev decl ∧ (∀ id, Wakes s fd events id ↔ id = decl.id) ∧
        handleEvent script names callback fd events freed n s =
          readLoop script names callback decl n s) ∨
      (∀ id, ¬ Wakes s fd events id) ∧
        handleEvent script names callback fd events freed n s = s := by
  unfold handleEvent
  rcases hid : s.device.evdev.devices.lookup fd with _ | id
  · refine .inr ⟨fun id hw => ?_, rfl⟩
    have hdev := (hc.evdev fd id).mpr hw.2
    rw [hid] at hdev
    cases hdev
  obtain ⟨decl, ha, rfl⟩ := (hc.evdev fd id).mp hid
  obtain rfl := hc.ids id decl ha.1
  simp only [ha.1, if_neg (not_not.mpr hevents)]
  split_ifs with hin
  · exact .inr ⟨fun id hw => hw.1 hin, rfl⟩
  · refine .inl ⟨decl, ha, fun id => ⟨fun hw => ?_, ?_⟩, ?_⟩
    · have hdev := (hc.evdev decl.fd id).mpr hw.2
      exact Option.some.inj (hdev.symm.trans hid)
    · rintro rfl
      exact ⟨hin, decl, ha, rfl⟩
    · obtain ⟨_, hidev⟩ := Table.mem_iff_lookup.mp
        ((hc.idev decl.fd).mpr (Table.mem_of_lookup hid))
      obtain ⟨_, hframe⟩ := Table.mem_iff_lookup.mp (hframes decl.id decl ha)
      simp only [dispatchEvdevLogic, hidev, hframe]

/-- An attached evdev device has a buffer. -/
lemma SessionInv.mem_frames (h : SessionInv script names streams s buffer rest) (id : String)
    (decl : InputDecl) (ha : AttachedAs s.device id .evdev decl) : id ∈ s.device.frames :=
  Table.mem_of_lookup (h.buffered id decl ha)

/-- A wakeup without a hang-up keeps the invariant. -/
lemma sessionOk_handleEvent (hcb : ∀ log, ∀ a ∈ callback log, a.closes = false)
    (h : SessionOk script names streams s) (fd : ℤ) {events : ℕ}
    (hevents : events &&& hangupMask = 0) (freed : String) (n : ℕ) :
    SessionOk script names streams (handleEvent script names callback fd events freed n s) := by
  obtain ⟨buffer, hinv⟩ := h.2
  obtain ⟨decl, ha, -, heq⟩ | ⟨-, heq⟩ :=
    handleEvent_cases names callback h.1 hinv.mem_frames fd hevents freed n
  · rw [heq]
    exact sessionOk_readLoop hcb n h ha
  · rw [heq]
    exact h

/-- A step without a hang-up reads the events that are there. -/
lemma SessionOk.readsReady (h : SessionOk script names streams s) (a : SessionAction)
    (ha : a.Keeps) : ReadsReady script names callback s a := by
  cases a with
  | device a => rfl
  | wakeup fd events freed n =>
    obtain ⟨buffer, hinv⟩ := h.2
    obtain ⟨decl, -, hwakes, heq⟩ | ⟨hwakes, heq⟩ :=
      handleEvent_cases names callback h.1 hinv.mem_frames fd ha freed n
    · intro id
      rw [sessionStep, heq, unread_readLoop n (hinv.kept decl.id), hwakes]
      refine ⟨fun hid => ?_, fun hid => Function.update_of_ne hid ..⟩
      rw [hid, Function.update_self]
    · intro id
      rw [sessionStep, heq]
      exact ⟨fun hw => absurd hw (hwakes id), fun _ => rfl⟩

/-- Every step in which nothing is closed keeps the invariant. -/
lemma sessionOk_step (hcb : ∀ log, ∀ a ∈ callback log, a.closes = false)
    (h : SessionOk script names streams s) (a : SessionAction) (ha : a.Keeps) :
    SessionOk script names streams (sessionStep script names callback s a) := by
  cases a with
  | wakeup fd events freed n => exact sessionOk_handleEvent hcb h fd ha freed n
  | device a =>
    obtain ⟨hc, buffer, hinv⟩ := h
    exact ⟨consistent_step _ a hc, buffer, hinv.opens (step_opens hc ha).1 rfl⟩

/-- By the invariant, the callbacks have got exactly the reports. -/
lemma SessionOk.allFramed (h : SessionOk script names streams s) :
    AllFramed script names streams s := by
  obtain ⟨hc, buffer, hinv⟩ := h
  intro id decl ha hl
  exact ⟨buffer id, hinv.buffered id decl ha,
    hinv.framed id decl ha hl (hc.ids id decl ha.1)⟩

/-- **The frames do not depend on how the stream is read**: in two sessions, with whatever wakeups
and callbacks, in which the same part of the stream of a device is unread, the same frames have been
delivered, and the same rest is left. -/
lemma Framed.deliveries_eq {s' : Session} {decl decl' : InputDecl} {frame frame' : List InputEvent}
    (h : Framed names streams s decl frame) (h' : Framed names streams s' decl' frame')
    (hid : decl.id = decl'.id) (hon : decl.onEvent = decl'.onEvent)
    (hunread : s.unread decl.id = s'.unread decl'.id) :
    s.deliveries decl.id = s'.deliveries decl'.id ∧ frame = frame' := by
  obtain ⟨read, pieces, hstream, hcuts, hdel⟩ := h
  obtain ⟨read', pieces', hstream', hcuts', hdel'⟩ := h'
  have hread : read = read' := by
    rw [hunread] at hstream
    rw [← hid, hstream, hid] at hstream'
    exact List.append_cancel_right hstream'
  subst hread
  obtain ⟨rfl, rfl⟩ := hcuts.unique hcuts'
  have hsame : delivery names decl = delivery names decl' := by
    have htable : eventTable names decl = eventTable names decl' := by
      funext e
      simp only [eventTable, hid]
    funext frame
    simp only [delivery, hid, hon, htable]
  rw [hdel, hdel', hsame]
  exact ⟨rfl, rfl⟩

end Invariant

/-- **Evdev frames do not depend on read batching.** For every script with callbacks that may open
devices but close none, all streams of events without `SYN_DROPPED`, and every run of wakeups that
bring any number of events of any device, in any order, and of actions that open devices: at every
time, for every attached evdev device with a callback, what has been read of its stream is cut into
the frames that end with a `SYN_REPORT` and contain no other, and a rest without one; the calls for
the device are those for these frames, in order; and the rest is in the buffer of the device. A
wakeup with `n` events reads `n` events of its device, or all that are left, and nothing of any
other device, so that what has been read is what the wakeups have brought. -/
theorem allFramed_of_keeps (script : Script) (names : EventNames)
    (callback : List Delivery → List Action)
    (hcb : ∀ log, ∀ a ∈ callback log, a.closes = false) (streams : String → List InputEvent)
    (hstreams : ∀ id, ∀ e ∈ streams id, ¬ e.IsDropped) (as : List SessionAction)
    (has : ∀ a ∈ as, a.Keeps) :
    Run.Always (sessionStep script names callback) (AllFramed script names streams)
        { unread := streams } as ∧
      Run.EachStep (sessionStep script names callback) (ReadsReady script names callback)
        { unread := streams } as := by
  have hstart : SessionOk script names streams { unread := streams } := by
    refine ⟨consistent_init, fun _ => [], ?_, ?_, fun _ _ => ⟨rfl, rfl, rfl, rfl⟩, hstreams⟩
    · simp [AttachedAs]
    · simp [AttachedAs]
  have hkeeps : Run.EachStep (sessionStep script names callback) (fun _ a => a.Keeps)
      { unread := streams } as := Run.eachStep_of_forall has _
  have halways : Run.Always (sessionStep script names callback) (SessionOk script names streams)
      { unread := streams } as :=
    Run.always_of_step (fun _ a h ha => sessionOk_step hcb h a ha) hstart hkeeps
  exact ⟨halways.mono fun _ h => h.allFramed,
    Run.eachStep_of_step (I := SessionOk script names streams)
      (fun _ a h ha => sessionOk_step hcb h a ha) (fun _ a h ha => h.readsReady a ha) hstart hkeeps⟩

/-- A script with one keyboard that has a callback. -/
def typingScript : Script :=
  ⟨[{ id := "kbd", type := .evdev, onEvent := "on_key" }], [], fun name => name = "on_key"⟩

/-- A key is pressed and released; the second report is not complete. -/
def typing (id : String) : List InputEvent :=
  if id = "kbd" then [⟨0, 0, 1, 30, 1⟩, ⟨0, 0, 0, 0, 0⟩, ⟨0, 9, 1, 30, 0⟩] else []

/-- The keyboard is opened, and its events come in two wakeups, the first within the report. -/
def typingRun : List SessionAction :=
  [.device (.openAll (fun _ => true) fun _ _ => attempt0), .wakeup 3 1 "" 1, .wakeup 3 1 "" 2]

/-- The callback of the keyboard gets the first report, and the two wakeups read all events. -/
theorem allFramed_of_keeps_typing :
    Run.Always (sessionStep typingScript ⟨fun _ => none, fun _ _ => none⟩ fun _ => [])
        (AllFramed typingScript ⟨fun _ => none, fun _ _ => none⟩ typing) { unread := typing }
        typingRun ∧
      Run.EachStep (sessionStep typingScript ⟨fun _ => none, fun _ _ => none⟩ fun _ => [])
        (ReadsReady typingScript ⟨fun _ => none, fun _ _ => none⟩ fun _ => []) { unread := typing }
        typingRun := by
  refine allFramed_of_keeps _ _ _ (by simp) _ (fun id => ?_) _ ?_
  · unfold typing
    split_ifs <;> decide
  · simp [typingRun, SessionAction.Keeps, Action.closes, hangupMask]

example : (typingRun.foldl (sessionStep typingScript ⟨fun _ => none, fun _ _ => none⟩ fun _ => [])
    { unread := typing }).deliveries "kbd" =
      [⟨"kbd", "on_key", [⟨"kbd", "", "", 1, 0, 0⟩, ⟨"kbd", "", "", 0, 0, 0⟩]⟩] := by
  decide

end Aelkey.Device
