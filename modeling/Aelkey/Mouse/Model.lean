import Aelkey.Helpers.Edge
import Aelkey.Lib.Evdev

set_option relaxedAutoImplicit false
set_option autoImplicit false

/-!
# The mouse helper

`aelkey_mouse.lua`: `parse_report` turns the bytes of a mouse report into a table, which can be
emitted as a whole (`emit_events`) or in three parts (`emit_motion`, `emit_buttons`,
`emit_wheels`). Buttons pass through the edge detector.

## Main definitions

* `Aelkey.Mouse.Field`, `Aelkey.Mouse.Report` — the fields of a report, with their events.
* `Aelkey.Mouse.parseReport` — `parse_report`.
* `Aelkey.Mouse.emitEvents`, `Aelkey.Mouse.emitMotion`, `Aelkey.Mouse.emitButtons`,
  `Aelkey.Mouse.emitWheels` — the four functions that emit.

## Main results

* `Aelkey.Mouse.loop_eq`, `Aelkey.Mouse.down_loop` — what a loop over buttons emits and records.

## Design

Every function returns the events it emits, in order; the Boolean it returns in the source says
whether there are any. A `pairs` loop visits the fields in an arbitrary order, which is an argument.
The value of a button counts by its truth only, and a missing field is `none`.
-/

namespace Aelkey.Mouse

open Evdev

/-! ## Reports -/

/-- The buttons of a report. -/
inductive Button
  | left
  | right
  | middle
  | side
  | extra
  | back
  | forward
  | task
deriving DecidableEq

/-- The fields of a report that the table `events` knows. -/
inductive Field
  | dx
  | dy
  | button (b : Button)
  | wheelVert
  | wheelVertHr
  | wheelHorz
  | wheelHorzHr
deriving DecidableEq

/-- The name of the field of a button. -/
def Button.name : Button → String
  | .left => "left"
  | .right => "right"
  | .middle => "middle"
  | .side => "side"
  | .extra => "extra"
  | .back => "back"
  | .forward => "forward"
  | .task => "task"

/-- The code of a button in the table `events`. -/
def Button.code : Button → String
  | .left => "BTN_LEFT"
  | .right => "BTN_RIGHT"
  | .middle => "BTN_MIDDLE"
  | .side => "BTN_SIDE"
  | .extra => "BTN_EXTRA"
  | .back => "BTN_BACK"
  | .forward => "BTN_FORWARD"
  | .task => "BTN_TASK"

/-- The code of a field in the table `events`. -/
def Field.code : Field → String
  | .dx => "REL_X"
  | .dy => "REL_Y"
  | .button b => b.code
  | .wheelVert => "REL_WHEEL"
  | .wheelVertHr => "REL_WHEEL_HI_RES"
  | .wheelHorz => "REL_HWHEEL"
  | .wheelHorzHr => "REL_HWHEEL_HI_RES"

/-- All buttons. -/
def allButtons : List Button := [.left, .right, .middle, .side, .extra, .back, .forward, .task]

/-- The keys of the table `events`. -/
def allFields : List Field :=
  [.dx, .dy] ++ allButtons.map .button ++ [.wheelVert, .wheelVertHr, .wheelHorz, .wheelHorzHr]

/-- An order in which a `pairs` loop visits the fields. -/
abbrev Order := { order : List Field // order.Perm allFields }

/-- A report. -/
structure Report where
  button : Button → Option Bool := fun _ => none
  dx : Option ℤ := none
  dy : Option ℤ := none
  wheelVert : Option ℤ := none
  wheelVertHr : Option ℤ := none
  wheelHorz : Option ℤ := none
  wheelHorzHr : Option ℤ := none

/-- The value of a field other than a button. -/
def Report.rel (r : Report) : Field → Option ℤ
  | .dx => r.dx
  | .dy => r.dy
  | .button _ => none
  | .wheelVert => r.wheelVert
  | .wheelVertHr => r.wheelVertHr
  | .wheelHorz => r.wheelHorz
  | .wheelHorzHr => r.wheelHorzHr

/-! ## Parsing -/

/-- `to_signed`. -/
def toSigned (value bits : ℕ) : ℤ :=
  let mask := 1 <<< bits
  let half := mask >>> 1
  if half ≤ value then (value : ℤ) - (mask : ℤ) else value

/-- `string.byte`, for a position of the string. -/
def byteAt (data : List UInt8) (pos : ℕ) : ℕ := (data.getD (pos - 1) 0).toNat

/-- The bit of a button in the first byte. -/
def Button.mask : Button → ℕ
  | .left => 0x01
  | .right => 0x02
  | .middle => 0x04
  | .side => 0x08
  | .extra => 0x10
  | .back => 0x20
  | .forward => 0x40
  | .task => 0x80

/-- `parse_report`. -/
def parseReport (data : List UInt8) : Option Report :=
  let len := data.length
  if len < 3 then none
  else
    let buttons := byteAt data 1
    let wheels (vert : ℕ) : ℤ × ℤ :=
      (if vert ≤ len then toSigned (byteAt data vert) 8 else 0,
        if vert + 1 ≤ len then toSigned (byteAt data (vert + 1)) 8 else 0)
    let (dx, dy, wheelVert, wheelHorz) :=
      if len < 6 then
        (toSigned (byteAt data 2) 8, toSigned (byteAt data 3) 8, wheels 4)
      else
        (toSigned (byteAt data 2 ||| (byteAt data 3 <<< 8)) 16,
          toSigned (byteAt data 4 ||| (byteAt data 5 <<< 8)) 16, wheels 6)
    some
      { button := fun b => some (buttons &&& b.mask ≠ 0)
        dx := some dx
        dy := some dy
        wheelVert := some wheelVert
        wheelHorz := some wheelHorz }

/-! ## Emitting -/

/-- An event handed to `aelkey.emit`, with its device. -/
structure Emit extends InputEvent ℤ where
  device : String
deriving DecidableEq

/-- The event of a field other than a button. -/
def emitRel (devId : String) (field : Field) (value : ℤ) : Emit :=
  { type := "EV_REL", code := field.code, value := value, device := devId }

/-- The event of a button. -/
def emitKey (devId : String) (b : Button) (pressed : Bool) : Emit :=
  { type := "EV_KEY", code := b.code, value := if pressed then 1 else 0, device := devId }

/-- The event of a field that is there and not zero. -/
def emitNonzero (devId : String) (field : Field) : Option ℤ → List Emit
  | some value => if value ≠ 0 then [emitRel devId field value] else []
  | none => []

/-- `emit_motion`. -/
def emitMotion (devId : String) : Option Report → List Emit
  | some report => emitNonzero devId .dx report.dx ++ emitNonzero devId .dy report.dy
  | none => []

/-- A button goes through the edge detector under an id, and is emitted if there is an edge. -/
def detectButton (devId id : String) (b : Button) (pressed : Bool) (s : Edge × List Emit) :
    Edge × List Emit :=
  match s.1.detect id pressed with
  | (some _, edge) => (edge, s.2 ++ [emitKey devId b pressed])
  | (none, edge) => (edge, s.2)

/-- The body of a loop over the fields: a button that is there goes through the edge detector under
its id, and another field is emitted as `other` says. -/
def loopBody (id : Button → String) (other : Field → List Emit) (devId : String) (report : Report)
    (s : Edge × List Emit) : Field → Edge × List Emit
  | .button b =>
    match report.button b with
    | some pressed => detectButton devId (id b) b pressed s
    | none => s
  | field => (s.1, s.2 ++ other field)

/-- The id of a button in `emit_buttons`. -/
def buttonId (devId : String) (b : Button) : String :=
  "_aelkey_mouse_:" ++ devId ++ ":" ++ b.name

/-- `emit_buttons`: a loop over the table `events`, which passes over fields other than buttons. -/
def emitButtons (devId : String) (report : Option Report) (order : Order) (edge : Edge) :
    Edge × List Emit :=
  match report with
  | some report =>
    order.1.foldl (loopBody (buttonId devId) (fun _ => []) devId report) (edge, [])
  | none => (edge, [])

/-- One half of `emit_wheels`: the high-resolution event, or the standard one after the
high-resolution one that `again` synthesizes for it. -/
def emitWheel (devId : String) (hr std : Option ℤ) (fieldHr field : Field)
    (again : ℤ → List Emit) : List Emit :=
  match hr with
  | some hr => if hr ≠ 0 then [emitRel devId fieldHr hr] else standard std
  | none => standard std
where
  standard : Option ℤ → List Emit
  | some v => if v ≠ 0 then again (v * 120) ++ [emitRel devId field v] else []
  | none => []

/-- The body of `emit_wheels`, which calls itself with `again`. -/
def emitWheelsBody (again : Report → List Emit) (devId : String) (report : Report) : List Emit :=
  emitWheel devId report.wheelVertHr report.wheelVert .wheelVertHr .wheelVert
      (fun hr => again { wheelVertHr := some hr }) ++
    emitWheel devId report.wheelHorzHr report.wheelHorz .wheelHorzHr .wheelHorz
      (fun hr => again { wheelHorzHr := some hr })

/-- `emit_wheels`. The reports it calls itself with have no standard wheel, so that it does not call
itself again. -/
def emitWheels (devId : String) : Option Report → List Emit
  | some report => emitWheelsBody (emitWheelsBody (fun _ => []) devId) devId report
  | none => []

/-- The id of a button in `emit_events`. -/
def eventsId (devId : String) (b : Button) : String := "_mouse:" ++ devId ++ ":" ++ b.name

/-- `emit_events`: a loop over the report, which emits fields other than buttons directly. -/
def emitEvents (devId : String) (report : Report) (order : Order) (edge : Edge) :
    Edge × List Emit :=
  order.1.foldl (loopBody (eventsId devId)
    (fun field => emitNonzero devId field (report.rel field)) devId report) (edge, [])

/-- `emit_wheels` calls itself. -/
lemma emitWheels_rec (devId : String) (report : Report) :
    emitWheels devId (some report) =
      emitWheelsBody (fun r => emitWheels devId (some r)) devId report := by
  simp only [emitWheels, emitWheelsBody, emitWheel, emitWheel.standard]

/-! ## What a loop emits -/

/-- The events of a button whose field is `state` and whose recorded state is `down`. -/
def buttonEvents (devId : String) (b : Button) (state : Option Bool) (down : Bool) : List Emit :=
  match state with
  | some pressed => if down = pressed then [] else [emitKey devId b pressed]
  | none => []

/-- What a loop emits for a field. -/
def fieldEvents (id : Button → String) (other : Field → List Emit) (devId : String)
    (report : Report) (edge : Edge) : Field → List Emit
  | .button b => buttonEvents devId b (report.button b) (edge.down (id b))
  | field => other field

section Loop

variable (id : Button → String) (other : Field → List Emit) (devId : String) (report : Report)

/-- The body of a loop emits the events of its field. -/
lemma loopBody_snd (s : Edge × List Emit) (field : Field) :
    (loopBody id other devId report s field).2 =
      s.2 ++ fieldEvents id other devId report s.1 field := by
  cases field with
  | button b =>
    rcases hb : report.button b with _ | pressed
    · simp [loopBody, fieldEvents, buttonEvents, hb]
    · have hedge := s.1.detect_fst (id b) pressed
      simp only [loopBody, hb, detectButton, fieldEvents, buttonEvents]
      rcases hd : s.1.detect (id b) pressed with ⟨edge, e⟩
      rw [hd] at hedge
      split_ifs at hedge ⊢ <;> simp_all
  | dx | dy | wheelVert | wheelVertHr | wheelHorz | wheelHorzHr => rfl

/-- The record of an id after the body of a loop: only the button of the field is recorded. -/
lemma down_loopBody (s : Edge × List Emit) (field : Field) (x : String) :
    (loopBody id other devId report s field).1.down x =
      match field with
      | .button b => if x = id b then (report.button b).getD (s.1.down x) else s.1.down x
      | _ => s.1.down x := by
  cases field with
  | button b =>
    rcases hb : report.button b with _ | pressed
    · simp [loopBody, hb]
    · have hdown := s.1.down_detect (id b) x pressed
      simp only [loopBody, hb, detectButton, Option.getD_some]
      rcases hd : s.1.detect (id b) pressed with ⟨edge, e⟩
      rw [hd] at hdown
      cases edge <;> exact hdown
  | dx | dy | wheelVert | wheelVertHr | wheelHorz | wheelHorzHr => rfl

variable {id}

/-- **What a loop emits.** Different buttons have different ids, so that every button meets the
record from before the loop. -/
lemma loop_snd (hid : Function.Injective id) {order : List Field} (hn : order.Nodup)
    (s : Edge × List Emit) :
    (order.foldl (loopBody id other devId report) s).2 =
      s.2 ++ order.flatMap (fieldEvents id other devId report s.1) := by
  induction order generalizing s with
  | nil => simp
  | cons field order ih =>
    obtain ⟨hnot, hn⟩ := List.nodup_cons.mp hn
    have hsame : ∀ f ∈ order,
        fieldEvents id other devId report (loopBody id other devId report s field).1 f =
          fieldEvents id other devId report s.1 f := by
      intro f hf
      cases f with
      | button b =>
        have hdown : (loopBody id other devId report s field).1.down (id b) = s.1.down (id b) := by
          rw [down_loopBody]
          cases field with
          | button b' =>
            have hne : b ≠ b' := by
              rintro rfl
              exact hnot hf
            exact if_neg fun he => hne (hid he)
          | dx | dy | wheelVert | wheelVertHr | wheelHorz | wheelHorzHr => rfl
        simp only [fieldEvents, hdown]
      | dx | dy | wheelVert | wheelVertHr | wheelHorz | wheelHorzHr => rfl
    rw [List.foldl_cons, ih hn, loopBody_snd, List.flatMap_cons, List.append_assoc,
      List.flatMap_congr hsame]

/-- **What a loop records**: a button that it visits has the state of the report. -/
lemma down_loop (hid : Function.Injective id) (order : List Field) (s : Edge × List Emit)
    (b : Button) :
    (order.foldl (loopBody id other devId report) s).1.down (id b) =
      if .button b ∈ order then (report.button b).getD (s.1.down (id b)) else s.1.down (id b) := by
  induction order generalizing s with
  | nil => simp
  | cons field order ih =>
    rw [List.foldl_cons, ih, down_loopBody]
    cases field with
    | button b' =>
      by_cases hb : b = b'
      · subst hb
        rcases hr : report.button b with _ | pressed <;> simp [hr]
      · simp [hb, hid.eq_iff]
    | dx | dy | wheelVert | wheelVertHr | wheelHorz | wheelHorzHr => simp

/-- A loop records nothing under other ids. -/
lemma down_loop_other (order : List Field) (s : Edge × List Emit) {x : String}
    (hx : ∀ b, x ≠ id b) :
    (order.foldl (loopBody id other devId report) s).1.down x = s.1.down x := by
  induction order generalizing s with
  | nil => rfl
  | cons field order ih =>
    rw [List.foldl_cons, ih, down_loopBody]
    cases field with
    | button b => exact if_neg (hx b)
    | dx | dy | wheelVert | wheelVertHr | wheelHorz | wheelHorzHr => rfl

end Loop

/-- A loop visits no field twice. -/
lemma Order.nodup (order : Order) : order.1.Nodup := order.2.nodup_iff.mpr (by decide)

/-- A loop visits every field. -/
lemma Order.mem (order : Order) (field : Field) : field ∈ order.1 := by
  rw [order.2.mem_iff]
  cases field with
  | button b => cases b <;> decide
  | dx | dy | wheelVert | wheelVertHr | wheelHorz | wheelHorzHr => decide

/-! ## Ids -/

/-- The name of a button has no colon. -/
lemma Button.colon_not_mem_name (b : Button) : ':' ∉ b.name.toList := by
  cases b <;> decide

/-- Buttons are told apart by their names. -/
lemma Button.name_injective : Function.Injective Button.name := by
  intro b b' h
  cases b <;> cases b' <;> first | rfl | exact absurd h (by decide)

/-- Two texts that are equal agree on both sides of their last colon. -/
lemma eq_of_append_colon {d d' n n' : List Char} (hn : ':' ∉ n) (hn' : ':' ∉ n')
    (h : d ++ ':' :: n = d' ++ ':' :: n') : d = d' ∧ n = n' := by
  rcases List.append_eq_append_iff.mp h with ⟨rest, rfl, hr⟩ | ⟨rest, rfl, hr⟩
  · cases rest with
    | nil => exact ⟨(List.append_nil d).symm, List.tail_eq_of_cons_eq hr⟩
    | cons c rest =>
      rw [List.tail_eq_of_cons_eq hr] at hn
      exact absurd (List.mem_append_right rest List.mem_cons_self) hn
  · cases rest with
    | nil => exact ⟨List.append_nil d', (List.tail_eq_of_cons_eq hr).symm⟩
    | cons c rest =>
      rw [List.tail_eq_of_cons_eq hr] at hn'
      exact absurd (List.mem_append_right rest List.mem_cons_self) hn'

/-- **An id tells the device and the button**, whatever the device is called: the name of the button
begins after the last colon. -/
lemma id_injective {start devId devId' : String} {b b' : Button}
    (h : start ++ devId ++ ":" ++ b.name = start ++ devId' ++ ":" ++ b'.name) :
    devId = devId' ∧ b = b' := by
  have hlist := congrArg String.toList h
  simp only [String.toList_append, List.append_assoc, List.append_cancel_left_eq] at hlist
  have hcolon : ":".toList = [':'] := rfl
  rw [hcolon, List.singleton_append, List.singleton_append] at hlist
  obtain ⟨hdev, hname⟩ := eq_of_append_colon b.colon_not_mem_name b'.colon_not_mem_name hlist
  exact ⟨String.toList_inj.mp hdev, Button.name_injective (String.toList_inj.mp hname)⟩

/-- The ids of `emit_buttons`. -/
lemma buttonId_inj {devId devId' : String} {b b' : Button} :
    buttonId devId b = buttonId devId' b' ↔ devId = devId' ∧ b = b' :=
  ⟨id_injective, fun ⟨hd, hb⟩ => by rw [hd, hb]⟩

/-- The ids of `emit_events`. -/
lemma eventsId_inj {devId devId' : String} {b b' : Button} :
    eventsId devId b = eventsId devId' b' ↔ devId = devId' ∧ b = b' :=
  ⟨id_injective, fun ⟨hd, hb⟩ => by rw [hd, hb]⟩

/-- The ids of one device differ. -/
lemma buttonId_injective (devId : String) : Function.Injective (buttonId devId) :=
  fun _ _ h => (buttonId_inj.mp h).2

/-- The ids of one device differ in `emit_events`, too. -/
lemma eventsId_injective (devId : String) : Function.Injective (eventsId devId) :=
  fun _ _ h => (eventsId_inj.mp h).2

end Aelkey.Mouse
