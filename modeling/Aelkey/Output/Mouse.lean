import Aelkey.Mouse.Buttons
import Aelkey.Mouse.Emit
import Aelkey.Output.Delivery

set_option relaxedAutoImplicit false
set_option autoImplicit false

/-!
# From mouse reports to a virtual mouse

A script for a mouse decodes every report with `parse_report`, emits it on a virtual device, as a
whole or in parts, and ends the frame. The two ways detect the edges of a button under ids of their
own: a button that is pressed in one way and released in the other gets stuck. What moves does not
pass through the edge detector, and adds up whatever the way.

## Main definitions

* `Aelkey.Output.Emitting` — the edge detector and the virtual devices while a report is emitted,
  until `emit` raises.
* `Aelkey.Output.mouseFrame` — one report on its way to its device.
* `Aelkey.Output.Tracked`, `Aelkey.Output.trackStep` — with the buttons that were reported last.
* `Aelkey.Output.Pressed` — a device shows the buttons of the last report.
* `Aelkey.Output.Unmixed` — a button that has changed has changed for the way of its report.

## Main results

* `Aelkey.Output.emitReport_known`, `Aelkey.Output.emitReport_apart` — emitting a report on a device
  that is there, and on another one.
* `Aelkey.Output.mouseFrame_spec` — what one report does to a device.
* `Aelkey.Output.pressed_iff_unmixed` — the device shows the last report in every state of a run iff
  the ways are not mixed.
* `Aelkey.Output.moved_eq` — the device moves by as much as its reports.
-/

namespace Aelkey.Output

open Evdev Mouse

/-! ## The model -/

/-- The way in which a script emits a report: with `emit_events`, or with `emit_motion`,
`emit_buttons` and `emit_wheels`. -/
inductive Way
  | whole
  | parts
deriving DecidableEq

/-- The id under which a button of a device passes through the edge detector. -/
def Way.id : Way → String → Button → String
  | .whole => eventsId
  | .parts => buttonId

/-- A report for a virtual device, with the order of the loop over its fields. -/
structure MouseReport where
  device : String
  way : Way
  data : List UInt8
  order : Order := ⟨allFields, .refl _⟩

/-- The edge detector and the virtual devices, and whether nothing has raised so far. -/
structure Emitting where
  edge : Edge
  outputs : Outputs
  ok : Bool := true

/-- Several calls of `emit`, one after the other. -/
def Emitting.emit (s : Emitting) (device : String) (es : List Emit) : Emitting :=
  if s.ok then
    let r := emitEach s.outputs (some device) (es.map (·.toInputEvent))
    { s with outputs := r.1, ok := r.2 }
  else s

/-- The body of a loop over the fields of a report: the edge is detected before `emit` is called. -/
def Emitting.field (id : Button → String) (other : Field → List Emit) (device : String)
    (report : Report) (s : Emitting) (f : Field) : Emitting :=
  if s.ok then
    let r := loopBody id other device report (s.edge, []) f
    { s with edge := r.1 }.emit device r.2
  else s

/-- `emit_events`. -/
def Emitting.whole (s : Emitting) (device : String) (report : Report) (order : Order) : Emitting :=
  order.1.foldl (Emitting.field (eventsId device)
    (fun f => emitNonzero device f (report.rel f)) device report) s

/-- `emit_motion`, `emit_buttons` and `emit_wheels`. -/
def Emitting.parts (s : Emitting) (device : String) (report : Report) (order : Order) : Emitting :=
  let s := s.emit device (emitMotion device (some report))
  let s := order.1.foldl (Emitting.field (buttonId device) (fun _ => []) device report) s
  s.emit device (emitWheels device (some report))

/-- The edge detector and the virtual devices. -/
structure Pointer where
  edge : Edge := {}
  outputs : Outputs

/-- Emit a report. `parse_report` returns `nil` for bytes that are too few: then `emit_events`
raises, and the other functions return at once. -/
def emitReport (p : Pointer) (r : MouseReport) : Emitting :=
  match parseReport r.data, r.way with
  | none, way => { edge := p.edge, outputs := p.outputs, ok := way = .parts }
  | some report, .whole => Emitting.whole ⟨p.edge, p.outputs, true⟩ r.device report r.order
  | some report, .parts => Emitting.parts ⟨p.edge, p.outputs, true⟩ r.device report r.order

/-- One report: it is emitted, and `syn_report` ends the frame if nothing has raised. -/
def mouseFrame (p : Pointer) (r : MouseReport) : Pointer :=
  let s := emitReport p r
  if s.ok then
    match coreSynReport s.outputs (some r.device) with
    | .ok outputs => { edge := s.edge, outputs := outputs }
    | .error _ => { edge := s.edge, outputs := s.outputs }
  else { edge := s.edge, outputs := s.outputs }

/-! ## What a report emits -/

/-- Fields are told apart by their codes. -/
lemma Field.code_injective : Function.Injective Field.code := by
  intro f f' h
  cases f with
  | button b =>
    cases f' with
    | button b' => exact congrArg Field.button (Button.code_injective h)
    | dx | dy | wheelVert | wheelVertHr | wheelHorz | wheelHorzHr =>
      cases b <;> exact absurd h (by decide)
  | dx | dy | wheelVert | wheelVertHr | wheelHorz | wheelHorzHr =>
    cases f' with
    | button b' => cases b' <;> exact absurd h (by decide)
    | dx | dy | wheelVert | wheelVertHr | wheelHorz | wheelHorzHr =>
      first | rfl | exact absurd h (by decide)

/-- The events of a field. -/
def ofField (f : Field) (es : List Emit) : List Emit := es.filter (·.code = f.code)

/-- The events of a field in two lists. -/
lemma ofField_append (f : Field) (es es' : List Emit) :
    ofField f (es ++ es') = ofField f es ++ ofField f es' :=
  List.filter_append _ _

/-- Events of one field. -/
lemma ofField_of_forall {f f' : Field} {es : List Emit} (h : ∀ e ∈ es, e.code = f'.code) :
    ofField f es = if f' = f then es else [] := by
  unfold ofField
  split_ifs with hf
  · subst hf
    exact List.filter_eq_self.mpr fun e he => decide_eq_true (h e he)
  · refine List.filter_eq_nil_iff.mpr fun e he => ?_
    rw [decide_eq_true_iff, h e he]
    exact fun hc => hf (Field.code_injective hc)

/-- What is emitted for a field is of this field only. -/
lemma ofField_emitNonzero (f f' : Field) (device : String) (v : Option ℤ) :
    ofField f (emitNonzero device f' v) = if f' = f then emitNonzero device f' v else [] := by
  refine ofField_of_forall fun e he => ?_
  rcases v with _ | v
  · cases he
  · simp only [emitNonzero] at he
    split_ifs at he
    · rw [List.mem_singleton.mp he]
      rfl
    · cases he

/-- A button emits events of its own field only. -/
lemma ofField_buttonEvents (f : Field) (device : String) (b : Button) (state : Option Bool)
    (down : Bool) :
    ofField f (buttonEvents device b state down) =
      if .button b = f then buttonEvents device b state down else [] := by
  refine ofField_of_forall fun e he => ?_
  rcases state with _ | pressed
  · cases he
  · simp only [buttonEvents] at he
    split_ifs at he
    · cases he
    · rw [List.mem_singleton.mp he]
      rfl

/-- What a loop emits for a field, if what it emits for other fields has their codes. -/
lemma ofField_loop {id : Button → String} (hid : Function.Injective id) {other : Field → List Emit}
    (device : String) (hother : ∀ f f', ofField f (other f') = if f' = f then other f' else [])
    (report : Report) (order : Order) (edge : Edge) (f : Field) :
    ofField f (order.1.foldl (loopBody id other device report) (edge, [])).2 =
      fieldEvents id other device report edge f := by
  have hfield : ∀ f', ofField f (fieldEvents id other device report edge f') =
      if f' = f then fieldEvents id other device report edge f' else [] := by
    intro f'
    cases f' with
    | button b => exact ofField_buttonEvents f device b _ _
    | dx | dy | wheelVert | wheelVertHr | wheelHorz | wheelHorzHr => exact hother f _
  have hone : order.1.flatMap (fun f' => ofField f (fieldEvents id other device report edge f')) =
      ofField f (fieldEvents id other device report edge f) :=
    flatMap_eq_of_unique order.nodup (order.mem f) fun f' hf => (hfield f').trans (if_neg hf)
  rw [loop_snd _ _ _ hid order.nodup, List.nil_append, ofField, List.filter_flatMap]
  exact hone.trans ((hfield f).trans (if_pos rfl))

/-- The events of a field when a report is emitted. The ways differ in the ids of the buttons, and
in the high-resolution events that `emit_wheels` adds. -/
def reportEvents (way : Way) (device : String) (report : Report) (edge : Edge) : Field → List Emit
  | .button b => buttonEvents device b (report.button b) (edge.down (way.id device b))
  | .wheelVertHr =>
    if way = .parts then hiRes device .wheelVertHr (report.wheelVert.getD 0) else []
  | .wheelHorzHr =>
    if way = .parts then hiRes device .wheelHorzHr (report.wheelHorz.getD 0) else []
  | f => emitNonzero device f (report.rel f)

/-- **What a report emits as a whole**, field by field. -/
lemma ofField_emitEvents {data : List UInt8} {report : Report}
    (h : parseReport data = some report) (device : String) (order : Order) (edge : Edge)
    (f : Field) :
    ofField f (Mouse.emitEvents device report order edge).2 =
      reportEvents .whole device report edge f := by
  obtain ⟨v, w, -, -, hvr, hwr⟩ := parseReport_wheels h
  rw [Mouse.emitEvents, ofField_loop (eventsId_injective device) device
    fun f f' => ofField_emitNonzero f f' device _]
  cases f with
  | wheelVertHr => simp [fieldEvents, reportEvents, Report.rel, hvr, emitNonzero]
  | wheelHorzHr => simp [fieldEvents, reportEvents, Report.rel, hwr, emitNonzero]
  | button | dx | dy | wheelVert | wheelHorz => rfl

/-- **What a report emits in parts**, field by field. -/
lemma ofField_parts {data : List UInt8} {report : Report} (h : parseReport data = some report)
    (device : String) (order : Order) (edge : Edge) (f : Field) :
    ofField f (emitMotion device (some report) ++
      (emitButtons device (some report) order edge).2 ++ emitWheels device (some report)) =
        reportEvents .parts device report edge f := by
  obtain ⟨v, w, hv, hw, hvr, hwr⟩ := parseReport_wheels h
  have hbuttons : ofField f (emitButtons device (some report) order edge).2 =
      fieldEvents (buttonId device) (fun _ => []) device report edge f :=
    ofField_loop (buttonId_injective device) device (fun f f' => (ite_self _).symm) report order
      edge f
  rw [emitWheels_eq device hv hw hvr hwr, emitMotion, ofField_append, ofField_append, hbuttons]
  simp only [hiRes, ofField_append, ofField_emitNonzero]
  cases f with
  | button b => simp [fieldEvents, reportEvents, Way.id]
  | dx | dy => simp [fieldEvents, reportEvents, Report.rel]
  | wheelVert | wheelVertHr => simp [fieldEvents, reportEvents, Report.rel, hv, hiRes]
  | wheelHorz | wheelHorzHr => simp [fieldEvents, reportEvents, Report.rel, hw, hiRes]

/-! ## Ids -/

/-- **An id tells the way, the device and the button.** -/
lemma Way.id_inj {way way' : Way} {device device' : String} {b b' : Button}
    (h : way.id device b = way'.id device' b') : way = way' ∧ device = device' ∧ b = b' := by
  have hcross : ∀ d b d' b', eventsId d b ≠ buttonId d' b' := by
    intro d b d' b' he
    have hstart : "_mouse:".toList <+: (eventsId d b).toList := toList_prefix "_mouse:" d ":" b.name
    have hstart' := buttonId_starts d' b'
    rw [he] at hstart
    obtain ⟨rest, hrest⟩ := hstart
    rw [← hrest] at hstart'
    exact absurd hstart' (by simp [idStart])
  cases way <;> cases way'
  · exact ⟨rfl, eventsId_inj.mp h⟩
  · exact absurd h (hcross _ _ _ _)
  · exact absurd h.symm (hcross _ _ _ _)
  · exact ⟨rfl, buttonId_inj.mp h⟩

/-- Two buttons of a device have two ids. -/
lemma Way.id_injective (way : Way) (device : String) : Function.Injective (way.id device) :=
  fun _ _ h => (Way.id_inj h).2.2

/-! ## What is written to the device of a report -/

/-- Events that are written one list after the other. -/
lemma writeEvents_append (outputs : Outputs) (id : String) (es es' : List (InputEvent ℤ)) :
    writeEvents outputs id (es ++ es') = writeEvents (writeEvents outputs id es) id es' :=
  List.foldl_append

/-- Writing does not create or remove a device. -/
lemma mem_writeEvents {outputs : Outputs} (device id : String) (es : List (InputEvent ℤ)) :
    id ∈ writeEvents outputs device es ↔ id ∈ outputs := by
  rw [← AList.lookup_isSome, ← AList.lookup_isSome, lookup_writeEvents]
  split_ifs with he
  · rw [he, Option.isSome_map]
  · rfl

/-- The body of a loop, with what has been emitted before. -/
lemma loopBody_acc (id : Button → String) (other : Field → List Emit) (device : String)
    (report : Report) (edge : Edge) (before : List Emit) (f : Field) :
    loopBody id other device report (edge, before) f =
      ((loopBody id other device report (edge, []) f).1,
        before ++ (loopBody id other device report (edge, []) f).2) := by
  refine Prod.ext ?_ ?_
  · cases f with
    | button b =>
      rcases hb : report.button b with _ | pressed
      · simp only [loopBody, hb]
      · simp only [loopBody, hb, detectButton]
        rcases edge.detect (id b) pressed with ⟨_ | _, _⟩ <;> rfl
    | dx | dy | wheelVert | wheelVertHr | wheelHorz | wheelHorzHr => rfl
  · rw [loopBody_snd, loopBody_snd, List.nil_append]

section Known

variable {outputs : Outputs} {device : String} (hdev : device ∈ outputs)

include hdev

/-- `emit` does not raise if the device is there. -/
lemma emit_known (edge : Edge) (before es : List Emit) :
    Emitting.emit ⟨edge, writeEvents outputs device (before.map (·.toInputEvent)), true⟩ device es =
      ⟨edge, writeEvents outputs device ((before ++ es).map (·.toInputEvent)), true⟩ := by
  have htarget : emitTarget (writeEvents outputs device (before.map (·.toInputEvent)))
      (some device) = .ok device := by
    simp only [emitTarget, if_pos ((mem_writeEvents device device _).mpr hdev)]
  simp only [Emitting.emit, if_true, emitEach_eq, htarget, List.map_append, writeEvents_append]

/-- A loop does not raise if the device is there: it does what it does without the devices. -/
lemma foldl_field_known (id : Button → String) (other : Field → List Emit) (report : Report)
    (order : List Field) (edge : Edge) (before : List Emit) :
    order.foldl (Emitting.field id other device report)
        ⟨edge, writeEvents outputs device (before.map (·.toInputEvent)), true⟩ =
      let r := order.foldl (loopBody id other device report) (edge, before)
      ⟨r.1, writeEvents outputs device (r.2.map (·.toInputEvent)), true⟩ := by
  induction order generalizing edge before with
  | nil => rfl
  | cons f order ih =>
    rw [List.foldl_cons, List.foldl_cons, Emitting.field, if_pos rfl]
    dsimp only
    rw [emit_known hdev, loopBody_acc _ _ _ _ edge before]
    exact ih _ _

end Known

/-- **Emitting a report on a device that is there.** -/
lemma emitReport_known {p : Pointer} {r : MouseReport} (hdev : r.device ∈ p.outputs)
    {report : Report} (h : parseReport r.data = some report) :
    ∃ es, (emitReport p r).ok = true ∧
      (emitReport p r).outputs = writeEvents p.outputs r.device (es.map (·.toInputEvent)) ∧
      (∀ f, ofField f es = reportEvents r.way r.device report p.edge f) ∧
      ∀ way b, (emitReport p r).edge.down (way.id r.device b) =
        if way = r.way then (report.button b).getD (p.edge.down (way.id r.device b))
        else p.edge.down (way.id r.device b) := by
  have hdown : ∀ (other : Field → List Emit) (before : List Emit) (way : Way) (b : Button),
      (r.order.1.foldl (loopBody (r.way.id r.device) other r.device report)
        (p.edge, before)).1.down (way.id r.device b) =
        if way = r.way then (report.button b).getD (p.edge.down (way.id r.device b))
        else p.edge.down (way.id r.device b) := by
    intro other before way b
    split_ifs with hway
    · rw [hway, down_loop _ _ _ (r.way.id_injective r.device), if_pos (r.order.mem _)]
    · exact down_loop_other _ _ _ _ _ fun b' he => hway (Way.id_inj he).1
  cases hway : r.way with
  | whole =>
    have hemit : emitReport p r = Emitting.whole ⟨p.edge, p.outputs, true⟩ r.device report
        r.order := by
      simp only [emitReport, h, hway]
    have hloop := foldl_field_known hdev (eventsId r.device)
      (fun f => emitNonzero r.device f (report.rel f)) report r.order.1 p.edge []
    rw [hway] at hdown
    rw [hemit, show Emitting.whole ⟨p.edge, p.outputs, true⟩ r.device report r.order = _ from hloop]
    exact ⟨_, rfl, rfl, ofField_emitEvents h r.device r.order p.edge, hdown _ []⟩
  | parts =>
    set motion := emitMotion r.device (some report)
    set wheels := emitWheels r.device (some report)
    have hmotion : Emitting.emit ⟨p.edge, p.outputs, true⟩ r.device motion =
        ⟨p.edge, writeEvents p.outputs r.device (motion.map (·.toInputEvent)), true⟩ :=
      emit_known hdev p.edge [] motion
    have hloop := foldl_field_known hdev (buttonId r.device) (fun _ => []) report r.order.1 p.edge
      motion
    have hemit : emitReport p r = Emitting.emit (r.order.1.foldl
        (Emitting.field (buttonId r.device) (fun _ => []) r.device report)
          (Emitting.emit ⟨p.edge, p.outputs, true⟩ r.device motion)) r.device wheels := by
      simp only [emitReport, h, hway, Emitting.parts, motion, wheels]
    rw [hmotion, hloop] at hemit
    dsimp only at hemit
    rw [emit_known hdev] at hemit
    have hbuttons : (r.order.1.foldl (loopBody (buttonId r.device) (fun _ => []) r.device report)
        (p.edge, motion)).2 = motion ++ (emitButtons r.device (some report) r.order p.edge).2 := by
      rw [emitButtons, loop_snd _ _ _ (buttonId_injective r.device) r.order.nodup,
        loop_snd _ _ _ (buttonId_injective r.device) r.order.nodup, List.nil_append]
    rw [hway] at hdown
    rw [hemit]
    refine ⟨_, rfl, rfl, fun f => ?_, hdown _ motion⟩
    rw [hbuttons]
    exact ofField_parts h r.device r.order p.edge f

/-! ## Other devices -/

/-- A device and its records are not touched. -/
structure Apart (device : String) (edge edge' : Edge) (outputs outputs' : Outputs) : Prop where
  lookup : outputs'.lookup device = outputs.lookup device
  down : ∀ (way : Way) (b : Button),
    edge'.down (way.id device b) = edge.down (way.id device b)

section Apart

variable {device device' : String}

/-- Nothing has changed. -/
lemma Apart.refl (edge : Edge) (outputs : Outputs) : Apart device edge edge outputs outputs :=
  ⟨rfl, fun _ _ => rfl⟩

/-- Two changes that leave the other device alone. -/
lemma Apart.trans {edge edge' edge'' : Edge} {outputs outputs' outputs'' : Outputs}
    (h : Apart device edge edge' outputs outputs')
    (h' : Apart device edge' edge'' outputs' outputs'') :
    Apart device edge edge'' outputs outputs'' :=
  ⟨h'.lookup.trans h.lookup, fun way b => (h'.down way b).trans (h.down way b)⟩

variable (hne : device ≠ device')

include hne

/-- `emit` writes to its device only. -/
lemma emit_apart (s : Emitting) (es : List Emit) :
    Apart device s.edge (s.emit device' es).edge s.outputs (s.emit device' es).outputs := by
  unfold Emitting.emit
  split_ifs
  · refine ⟨?_, fun _ _ => rfl⟩
    dsimp only
    rw [emitEach_eq]
    by_cases hdev : device' ∈ s.outputs
    · simp only [emitTarget, if_pos hdev]
      rw [lookup_writeEvents, if_neg hne]
    · simp only [emitTarget, if_neg hdev]
  · exact .refl _ _

/-- The body of a loop records the buttons of its device only. -/
lemma field_apart (way : Way) (other : Field → List Emit) (report : Report) (s : Emitting)
    (f : Field) :
    Apart device s.edge (s.field (way.id device') other device' report f).edge s.outputs
      (s.field (way.id device') other device' report f).outputs := by
  unfold Emitting.field
  split_ifs
  · refine .trans ⟨rfl, fun way' b => ?_⟩ (emit_apart hne { s with edge := _ } _)
    rw [down_loopBody]
    cases f with
    | button b' => exact if_neg fun he => hne (Way.id_inj he).2.1
    | dx | dy | wheelVert | wheelVertHr | wheelHorz | wheelHorzHr => rfl
  · exact .refl _ _

/-- So does a loop. -/
lemma foldl_field_apart (way : Way) (other : Field → List Emit) (report : Report)
    (order : List Field) (s : Emitting) :
    Apart device s.edge
      (order.foldl (Emitting.field (way.id device') other device' report) s).edge s.outputs
      (order.foldl (Emitting.field (way.id device') other device' report) s).outputs := by
  induction order generalizing s with
  | nil => exact .refl _ _
  | cons f order ih => exact (field_apart hne way other report s f).trans (ih _)

/-- **A report for another device** does not touch the device, whether something raises or not. -/
lemma emitReport_apart {p : Pointer} {r : MouseReport} (h : r.device = device') :
    Apart device p.edge (emitReport p r).edge p.outputs (emitReport p r).outputs := by
  subst h
  unfold emitReport
  split
  · exact .refl _ _
  · exact foldl_field_apart hne .whole _ _ _ ⟨p.edge, p.outputs, true⟩
  · exact (emit_apart hne ⟨p.edge, p.outputs, true⟩ _).trans
      ((foldl_field_apart hne .parts _ _ _ _).trans (emit_apart hne _ _))

end Apart

/-! ## One report -/

/-- The report for a device that a call emits. -/
def reportFor (device : String) (r : MouseReport) : Option Report :=
  if r.device = device then parseReport r.data else none

/-- The events that a field of a device gets from a call. -/
def received (device : String) (p : Pointer) (r : MouseReport) (f : Field) : List Emit :=
  match reportFor device r with
  | some report => reportEvents r.way device report p.edge f
  | none => []

/-- The end of a frame has no code of a field. -/
lemma synReport_code (f : Field) : synReport.code ≠ f.code := by
  cases f with
  | button b => cases b <;> decide
  | dx | dy | wheelVert | wheelVertHr | wheelHorz | wheelHorzHr => decide

/-- **One report**: what is written to a device, field by field, and what is recorded for its
buttons.

**Proof sketch.** A report for another device leaves the device and its records. For the device
itself nothing raises, since it is there; a report that is too short is not emitted. The end of the
frame is an event of no field. -/
lemma mouseFrame_spec {device : String} {p : Pointer} {u : Uinput}
    (hu : p.outputs.lookup device = some u) (r : MouseReport) :
    (∃ es, (mouseFrame p r).outputs.lookup device = some { u with calls := u.calls ++ es } ∧
      ∀ f : Field, es.filter (·.code = f.code) =
        (received device p r f).map (·.toInputEvent)) ∧
      ∀ way b, (mouseFrame p r).edge.down (way.id device b) =
        match reportFor device r with
        | some report => if way = r.way then
            (report.button b).getD (p.edge.down (way.id device b))
          else p.edge.down (way.id device b)
        | none => p.edge.down (way.id device b) := by
  have hedge : (mouseFrame p r).edge = (emitReport p r).edge := by
    unfold mouseFrame
    dsimp only
    split_ifs
    · split <;> rfl
    · rfl
  -- the end of the frame does not matter for the fields
  have hsyn : ∀ es : List (InputEvent ℤ),
      (emitReport p r).outputs.lookup device = some { u with calls := u.calls ++ es } →
        ∃ es', (mouseFrame p r).outputs.lookup device =
          some { u with calls := u.calls ++ es' } ∧
          ∀ f : Field, es'.filter (·.code = f.code) = es.filter (·.code = f.code) := by
    intro es hes
    unfold mouseFrame
    dsimp only
    split_ifs
    · split
      · next outputs hout =>
        rcases lookup_coreSynReport hout device with hlookup | hlookup
        · exact ⟨es, hlookup.trans hes, fun _ => rfl⟩
        · refine ⟨es ++ [synReport], ?_, fun f => ?_⟩
          · rw [hlookup, hes]
            simp [Uinput.write]
          · rw [List.filter_append]
            simp [synReport_code f]
      · exact ⟨es, hes, fun _ => rfl⟩
    · exact ⟨es, hes, fun _ => rfl⟩
  rw [hedge]
  by_cases hd : r.device = device
  · subst hd
    rcases h : parseReport r.data with _ | report
    · have hsame : (emitReport p r).outputs = p.outputs ∧ (emitReport p r).edge = p.edge := by
        simp only [emitReport, h, and_self]
      obtain ⟨es, hes, hcodes⟩ := hsyn [] (by rw [hsame.1, hu, List.append_nil])
      refine ⟨⟨es, hes, fun f => ?_⟩, fun way b => ?_⟩
      · rw [hcodes f]
        simp [received, reportFor, h]
      · simp only [reportFor, if_true, h, hsame.2]
    · obtain ⟨es, -, houtputs, hfield, hdown⟩ :=
        emitReport_known (Table.mem_of_lookup hu) h
      obtain ⟨es', hes', hcodes⟩ := hsyn (es.map (·.toInputEvent)) (by
        rw [houtputs, lookup_writeEvents, if_pos rfl, hu, Option.map_some])
      refine ⟨⟨es', hes', fun f => ?_⟩, fun way b => ?_⟩
      · have hreceived : received r.device p r f = reportEvents r.way r.device report p.edge f := by
          simp only [received, reportFor, if_true, h]
        rw [hcodes f, hreceived, ← hfield f, ofField, List.filter_map]
        rfl
      · simp only [reportFor, if_true, h]
        exact hdown way b
  · have hapart : Apart device p.edge (emitReport p r).edge p.outputs (emitReport p r).outputs :=
      emitReport_apart (Ne.symm hd) rfl
    obtain ⟨es, hes, hcodes⟩ := hsyn [] (by rw [hapart.lookup, hu, List.append_nil])
    refine ⟨⟨es, hes, fun f => ?_⟩, fun way b => ?_⟩
    · rw [hcodes f]
      simp [received, reportFor, hd]
    · simp only [reportFor, if_neg hd]
      exact hapart.down way b

/-! ## Buttons -/

/-- The edge detector and the virtual devices, with what the reports for a device said last about
its buttons: at all, and among the reports that were emitted in a way. -/
structure Tracked where
  pointer : Pointer
  last : Button → Bool := fun _ => false
  lastBy : Way → Button → Bool := fun _ _ => false

/-- One report. -/
def trackStep (device : String) (t : Tracked) (r : MouseReport) : Tracked :=
  match reportFor device r with
  | some report =>
    { pointer := mouseFrame t.pointer r
      last := fun b => (report.button b).getD (t.last b)
      lastBy := fun way b =>
        if way = r.way then (report.button b).getD (t.lastBy way b) else t.lastBy way b }
  | none => { t with pointer := mouseFrame t.pointer r }

/-- The device shows the buttons of the last report: of those it supports, the ones are down that
were pressed. -/
def Pressed (device : String) (t : Tracked) : Prop :=
  ∃ u, t.pointer.outputs.lookup device = some u ∧ ∀ b : Button, IsDown b.code u.passed ↔
    ("EV_KEY", b.code) ∈ u.dev.codes ∧ t.last b = true

/-- A report does not mix the ways: a supported button that is as in the last report of its way is
as in the last report. -/
def Unmixed (device : String) (dev : Libevdev) (t : Tracked) (r : MouseReport) : Prop :=
  ∀ report ∈ reportFor device r, ∀ b : Button, ("EV_KEY", b.code) ∈ dev.codes →
    report.button b = some (t.lastBy r.way b) → report.button b = some (t.last b)

/-- What holds in every state: the device is there, and a record is of the last report of its
way. -/
structure Noted (device : String) (dev : Libevdev) (t : Tracked) : Prop where
  present : ∃ u, t.pointer.outputs.lookup device = some u ∧ u.dev = dev
  down : ∀ way b, t.pointer.edge.down (way.id device b) = t.lastBy way b

/-- The pointer after a report. -/
lemma pointer_trackStep (device : String) (t : Tracked) (r : MouseReport) :
    (trackStep device t r).pointer = mouseFrame t.pointer r := by
  unfold trackStep
  split <;> rfl

/-- Events with other codes do not matter for a key. -/
lemma isDown_append_filter (c : String) (w es : List (InputEvent ℤ)) :
    IsDown c (w ++ es) ↔ IsDown c (w ++ es.filter (·.code = c)) := by
  have hfilter : (es.filter (·.code = c)).filter (fun e => e.type = "EV_KEY" ∧ e.code = c) =
      es.filter fun e => e.type = "EV_KEY" ∧ e.code = c := by
    rw [List.filter_filter]
    refine List.filter_congr fun e _ => ?_
    by_cases he : e.code = c <;> simp [he]
  rw [IsDown, IsDown, List.filter_append, List.filter_append, hfilter]

/-- The events of a button decide about it, if there are any. -/
lemma isDown_buttonEvents (device : String) (b : Button) (w : List (InputEvent ℤ))
    (pressed down : Bool) :
    IsDown b.code (w ++ (buttonEvents device b (some pressed) down).map (·.toInputEvent)) ↔
      if down = pressed then IsDown b.code w else pressed = true := by
  unfold buttonEvents
  dsimp only
  split_ifs with hd
  · rw [List.map_nil, List.append_nil]
  · have hkey : [emitKey device b pressed].map (·.toInputEvent) =
        [key b.code (if pressed then 1 else 0)] := rfl
    rw [hkey, isDown_append_key, if_pos rfl]
    cases pressed <;> decide

/-- Every report keeps what holds in every state. -/
lemma Noted.step {device : String} {dev : Libevdev} {t : Tracked} (h : Noted device dev t)
    (r : MouseReport) : Noted device dev (trackStep device t r) := by
  obtain ⟨u, hu, hdev⟩ := h.present
  obtain ⟨⟨es, hes, -⟩, hdown⟩ := mouseFrame_spec hu r
  rw [← pointer_trackStep device t r] at hes
  refine ⟨⟨_, hes, hdev⟩, fun way b => ?_⟩
  rw [pointer_trackStep, hdown, h.down]
  rcases hr : reportFor device r with _ | report <;> simp only [trackStep, hr]

/-- **Whether the device shows a report** is up to the report, if it showed the one before.

**Proof sketch.** An event is written for a button iff the report differs from what is recorded
under the id of its way, which is what the last report of this way said. If none is written, the
button stays as in the last report of all. -/
lemma pressed_step_iff {device : String} {dev : Libevdev} {t : Tracked} (h : Noted device dev t)
    (hp : Pressed device t) (r : MouseReport) :
    Pressed device (trackStep device t r) ↔ Unmixed device dev t r := by
  obtain ⟨u, hu, hdev⟩ := h.present
  obtain ⟨⟨es, hes, hfield⟩, -⟩ := mouseFrame_spec hu r
  -- what the device showed before
  have hold : ∀ b : Button, ("EV_KEY", b.code) ∈ dev.codes →
      (IsDown b.code u.calls ↔ t.last b = true) := by
    obtain ⟨u', hu', hshow⟩ := hp
    obtain rfl := Option.some.inj (hu.symm.trans hu')
    intro b hb
    rw [← hdev] at hb
    simpa only [isDown_passed, hb, true_and] using hshow b
  -- what it shows now
  have hnew : Pressed device (trackStep device t r) ↔
      ∀ b : Button, ("EV_KEY", b.code) ∈ dev.codes →
        (IsDown b.code (u.calls ++ es) ↔ (trackStep device t r).last b = true) := by
    rw [← pointer_trackStep] at hes
    have hshow : Pressed device (trackStep device t r) ↔ ∀ b : Button,
        IsDown b.code (Uinput.passed { u with calls := u.calls ++ es }) ↔
          ("EV_KEY", b.code) ∈ dev.codes ∧ (trackStep device t r).last b = true := by
      rw [← hdev]
      constructor
      · rintro ⟨u', hu', h'⟩
        obtain rfl := Option.some.inj (hes.symm.trans hu')
        exact h'
      · exact fun h' => ⟨_, hes, h'⟩
    rw [hshow]
    simp only [isDown_passed, hdev, and_congr_right_iff]
  have hbutton : ∀ b : Button, IsDown b.code (u.calls ++ es) ↔
      IsDown b.code (u.calls ++ (received device t.pointer r (.button b)).map
        (·.toInputEvent)) := by
    intro b
    rw [isDown_append_filter]
    exact iff_of_eq (congrArg _ (congrArg _ (hfield (.button b))))
  rw [hnew]
  simp only [hbutton]
  rcases hr : reportFor device r with _ | report
  · refine iff_of_true (fun b hb => ?_) (fun report hreport => ?_)
    · simpa [received, trackStep, hr] using hold b hb
    · rw [hr] at hreport
      cases hreport
  · simp only [Unmixed, hr, Option.mem_some_iff, forall_eq']
    refine forall_congr' fun b => imp_congr_right fun hb => ?_
    simp only [received, trackStep, hr, reportEvents, h.down]
    rcases hstate : report.button b with _ | pressed
    · simpa [buttonEvents] using hold b hb
    · rw [isDown_buttonEvents, Option.getD_some, Option.some.injEq, Option.some.injEq]
      split_ifs with hd
      · rw [hold b hb]
        simp only [hd, true_imp_iff]
        cases pressed <;> cases t.last b <;> decide
      · simp [Ne.symm hd]

/-- **A virtual mouse shows the buttons of the last report iff the ways of emitting are not mixed.**
Let a device have been created and nothing written to it. In every run of reports with any bytes for
any devices, each emitted with `emit_events` or with `emit_motion`, `emit_buttons` and
`emit_wheels`, after every report exactly those of the buttons that the device supports are down on
it that the last report for the device has pressed, iff in no report a supported button that has
changed since the last report for the device is as it was in the last one that was emitted the same
way.

**Proof sketch.** The device stays there and a record of the edge detector is of the last report of
its way, so that the condition for one report applies along the run. -/
theorem pressed_iff_unmixed {outputs : Outputs} {device : String} {dev : Libevdev}
    (hdev : outputs.lookup device = some { dev := dev }) (reports : List MouseReport) :
    Run.Always (trackStep device) (Pressed device) { pointer := { outputs := outputs } } reports ↔
      Run.EachStep (trackStep device) (Unmixed device dev) { pointer := { outputs := outputs } }
        reports := by
  have hstart : Noted device dev { pointer := { outputs := outputs } } :=
    ⟨⟨_, hdev, rfl⟩, fun _ _ => rfl⟩
  have hpressed : Pressed device { pointer := { outputs := outputs } } := by
    refine ⟨_, hdev, fun b => ?_⟩
    rw [isDown_passed]
    simp [IsDown]
  exact Run.always_iff_eachStep_of_step (I := Noted device dev)
    (fun t r h _ _ => h.step r) (fun t r h hp => pressed_step_iff h hp r) hstart hpressed reports

/-- One virtual mouse. -/
def oneMouse : Outputs :=
  (∅ : Outputs).insert "virt_mouse"
    { dev := createOutputDevice (fun _ _ => true) { id := "virt_mouse", type := .mouse } }

/-- A button is pressed and released with `emit_events`, and then with the other functions. Between
there is a report for no device, and one that is too short. -/
theorem pressed_iff_unmixed_drag :
    Run.Always (trackStep "virt_mouse") (Pressed "virt_mouse")
      { pointer := { outputs := oneMouse } }
      [{ device := "virt_mouse", way := .whole, data := [1, 5, 0] },
        { device := "other", way := .parts, data := [0, 1, 0] },
        { device := "virt_mouse", way := .whole, data := [0, 0, 0, 1] },
        { device := "virt_mouse", way := .parts, data := [1, 5, 0] },
        { device := "virt_mouse", way := .parts, data := [0] }] :=
  (pressed_iff_unmixed (AList.lookup_insert _) _).mpr (by
    refine ⟨?_, ?_, ?_, ?_, ?_, trivial⟩ <;> intro report hreport b _ <;> cases hreport <;>
      cases b <;> decide +kernel)

/-! ## Motion -/

/-- What events move a field by. -/
def moved (f : Field) (es : List (InputEvent ℤ)) : ℤ :=
  ((es.filter fun e => e.type = "EV_REL" ∧ e.code = f.code).map (·.value)).sum

/-- What a report moves a field of a device by. A wheel has a high resolution if the report is
emitted in parts. -/
def amount (device : String) (f : Field) (r : MouseReport) : ℤ :=
  match reportFor device r, f with
  | none, _ => 0
  | some report, .wheelVertHr => if r.way = .parts then 120 * report.wheelVert.getD 0 else 0
  | some report, .wheelHorzHr => if r.way = .parts then 120 * report.wheelHorz.getD 0 else 0
  | some report, f => (report.rel f).getD 0

section Moved

variable (f : Field)

/-- Amounts add up. -/
lemma moved_append (es es' : List (InputEvent ℤ)) :
    moved f (es ++ es') = moved f es + moved f es' := by
  rw [moved, List.filter_append, List.map_append, List.sum_append, moved, moved]

/-- Events with other codes do not move a field. -/
lemma moved_filter (es : List (InputEvent ℤ)) :
    moved f (es.filter (·.code = f.code)) = moved f es := by
  rw [moved, List.filter_filter, moved]
  refine congrArg (fun l => (List.map _ l).sum) (List.filter_congr fun e _ => ?_)
  by_cases he : e.code = f.code <;> simp [he]

/-- The kernel passes on what moves a field if the device supports it. -/
lemma moved_passed (u : Uinput) :
    moved f u.passed = if ("EV_REL", f.code) ∈ u.dev.codes then moved f u.calls else 0 := by
  have hfilter : ∀ e : InputEvent ℤ, (decide (e.type = "EV_REL" ∧ e.code = f.code) &&
      decide (u.dev.Supports e)) = (decide (e.type = "EV_REL" ∧ e.code = f.code) &&
        decide (("EV_REL", f.code) ∈ u.dev.codes)) := by
    intro e
    by_cases he : e.type = "EV_REL" ∧ e.code = f.code
    · simp [Libevdev.Supports, he.1, he.2]
    · simp [he]
  unfold moved Uinput.passed
  rw [List.filter_filter]
  simp only [hfilter]
  split_ifs with hc <;> simp [hc]

/-- What a field that is emitted if it is not zero moves. -/
lemma moved_emitNonzero (device : String) (v : Option ℤ) :
    moved f ((emitNonzero device f v).map (·.toInputEvent)) = v.getD 0 := by
  rcases v with _ | v
  · rfl
  · by_cases hv : v = 0
    · simp [emitNonzero, hv, moved]
    · simp [emitNonzero, hv, moved, emitRel]

/-- **What the events of a report move.** -/
lemma moved_received (device : String) (p : Pointer) (r : MouseReport) :
    moved f ((received device p r f).map (·.toInputEvent)) = amount device f r := by
  have hnil : moved f (([] : List Emit).map (·.toInputEvent)) = 0 := rfl
  unfold received amount
  rcases reportFor device r with _ | report
  · exact hnil
  · cases f with
    | button b =>
      simp only [reportEvents, Report.rel, Option.getD_none]
      rcases report.button b with _ | pressed
      · exact hnil
      · simp only [buttonEvents]
        split_ifs
        · exact hnil
        · rfl
    | dx | dy | wheelVert | wheelHorz => exact moved_emitNonzero _ device _
    | wheelVertHr | wheelHorzHr =>
      simp only [reportEvents]
      split_ifs
      · rw [hiRes, moved_emitNonzero, Option.getD_some, mul_comm]
      · exact hnil

end Moved

/-- A run of reports moves what the device has been told. -/
lemma moved_foldl {device : String} {p : Pointer} {u : Uinput}
    (hu : p.outputs.lookup device = some u) (reports : List MouseReport) :
    ∃ u', (reports.foldl mouseFrame p).outputs.lookup device = some u' ∧ u'.dev = u.dev ∧
      ∀ f, moved f u'.calls = moved f u.calls + (reports.map (amount device f)).sum := by
  induction reports generalizing p u with
  | nil => exact ⟨u, hu, rfl, fun f => (add_zero _).symm⟩
  | cons r reports ih =>
    obtain ⟨⟨es, hes, hfield⟩, -⟩ := mouseFrame_spec hu r
    obtain ⟨u', hu', hdev, hmoved⟩ := ih hes
    refine ⟨u', hu', hdev, fun f => ?_⟩
    have hone : moved f es = amount device f r := by
      rw [← moved_filter, hfield f, moved_received]
    rw [hmoved, moved_append, hone, List.map_cons, List.sum_cons, add_assoc]

/-- **A virtual mouse moves by as much as its reports.** Let a device have been created and nothing
written to it. After every run of reports with any bytes for any devices, each emitted with
`emit_events` or with `emit_motion`, `emit_buttons` and `emit_wheels`, for every axis and wheel that
the device supports the events it has passed on add up to what the reports for it that are long
enough say, where the high-resolution wheels get 120 for every click of a report that was emitted in
parts; and it passes on nothing for the others.

**Proof sketch.** Induction on the reports: whatever the order in which a report is emitted, the
events of a field are those that the report has for it. -/
theorem moved_eq {p : Pointer} {device : String} {dev : Libevdev}
    (hdev : p.outputs.lookup device = some { dev := dev }) (reports : List MouseReport)
    (f : Field) :
    ∃ u, (reports.foldl mouseFrame p).outputs.lookup device = some u ∧
      moved f u.passed =
        if ("EV_REL", f.code) ∈ dev.codes then (reports.map (amount device f)).sum else 0 := by
  obtain ⟨u, hu, hsame, hmoved⟩ := moved_foldl hdev reports
  refine ⟨u, hu, ?_⟩
  rw [moved_passed, hmoved, hsame]
  simp [moved]

/-- A click of the wheel, emitted in both ways. -/
theorem moved_eq_scroll :
    ∃ u, ([{ device := "virt_mouse", way := .whole, data := [0, 0, 0, 1] },
        { device := "virt_mouse", way := .parts, data := [0, 0, 0, 1] }].foldl mouseFrame
          { outputs := oneMouse }).outputs.lookup "virt_mouse" = some u ∧
      moved .wheelVertHr u.passed = 120 := by
  have hdev : oneMouse.lookup "virt_mouse" = some _ := AList.lookup_insert _
  obtain ⟨u, hu, hmoved⟩ := moved_eq (p := { outputs := oneMouse }) hdev
    [{ device := "virt_mouse", way := .whole, data := [0, 0, 0, 1] },
      { device := "virt_mouse", way := .parts, data := [0, 0, 0, 1] }] .wheelVertHr
  refine ⟨u, hu, hmoved.trans ?_⟩
  decide +kernel

end Aelkey.Output
