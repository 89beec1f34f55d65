import Aelkey.Lib.Run
import Aelkey.Mouse.Model
import Mathlib.Algebra.Order.Group.Multiset
import Mathlib.Tactic.Abel

set_option relaxedAutoImplicit false
set_option autoImplicit false

/-!
# A report as a whole and in parts

`emit_events` emits a report in one loop over its fields; `emit_motion`, `emit_buttons` and
`emit_wheels` emit it in three parts. Both emit the same motion, the same buttons and the same
wheel clicks, but only `emit_wheels` adds a high-resolution event for a wheel click.

## Main definitions

* `Aelkey.Mouse.wholeRun`, `Aelkey.Mouse.partsRun` — the two ways to emit a report.
* `Aelkey.Mouse.SameEvents` — they emit the same events, in some order.
* `Aelkey.Mouse.NoWheel` — no wheel has been turned.

## Main results

* `Aelkey.Mouse.sameEvents_iff_noWheel` — the two ways agree on every report of a run iff no report
  of the run has a wheel click.
* `Aelkey.Mouse.not_sameEvents_wheel` — a wheel click.
-/

namespace Aelkey.Mouse

open Evdev

/-- The bytes of a report, with the orders of the two loops over its fields. -/
structure Reading where
  data : List UInt8
  eventsOrder : Order := ⟨allFields, .refl _⟩
  buttonsOrder : Order := ⟨allFields, .refl _⟩

/-- `emit_events` on the report that `parse_report` returns. -/
def wholeRun (devId : String) (r : Reading) (edge : Edge) : Edge × List Emit :=
  match parseReport r.data with
  | some report => emitEvents devId report r.eventsOrder edge
  | none => (edge, [])

/-- `emit_motion`, `emit_buttons` and `emit_wheels` on the report that `parse_report` returns. -/
def partsRun (devId : String) (r : Reading) (edge : Edge) : Edge × List Emit :=
  let report := parseReport r.data
  let buttons := emitButtons devId report r.buttonsOrder edge
  (buttons.1, emitMotion devId report ++ buttons.2 ++ emitWheels devId report)

/-- The edge detector when reports are emitted as a whole, and when they are emitted in parts. -/
structure Detectors where
  whole : Edge := {}
  parts : Edge := {}

/-- One report, emitted both ways. -/
def readingStep (devId : String) (s : Detectors) (r : Reading) : Detectors where
  whole := (wholeRun devId r s.whole).1
  parts := (partsRun devId r s.parts).1

/-- Both ways emit the same events, in some order. -/
def SameEvents (devId : String) (s : Detectors) (r : Reading) : Prop :=
  (wholeRun devId r s.whole).2.Perm (partsRun devId r s.parts).2

/-- No wheel has been turned: the bytes of the wheels are zero or missing. -/
def NoWheel (r : Reading) : Prop :=
  ∀ report, parseReport r.data = some report →
    report.wheelVert = some 0 ∧ report.wheelHorz = some 0

/-- Both detectors have the same records of the buttons. -/
def SameDetectors (devId : String) (s : Detectors) : Prop :=
  ∀ b, s.whole.down (eventsId devId b) = s.parts.down (buttonId devId b)

/-! ## One report -/

/-- A report that `parse_report` returns has both wheels, without high resolution. -/
lemma parseReport_wheels {data : List UInt8} {report : Report}
    (h : parseReport data = some report) :
    ∃ v w, report.wheelVert = some v ∧ report.wheelHorz = some w ∧ report.wheelVertHr = none ∧
      report.wheelHorzHr = none := by
  unfold parseReport at h
  dsimp only at h
  split_ifs at h
  all_goals
    obtain rfl := Option.some.inj h
    exact ⟨_, _, rfl, rfl, rfl, rfl⟩

/-- Every report keeps the records the same. -/
lemma SameDetectors.step {devId : String} {s : Detectors} (h : SameDetectors devId s)
    (r : Reading) : SameDetectors devId (readingStep devId s r) := by
  intro b
  rcases hr : parseReport r.data with _ | report
  · simpa only [readingStep, wholeRun, partsRun, hr, emitButtons] using h b
  · simp only [readingStep, wholeRun, partsRun, hr, emitButtons, emitEvents]
    rw [down_loop _ _ _ (eventsId_injective devId), down_loop _ _ _ (buttonId_injective devId),
      if_pos (r.eventsOrder.mem _), if_pos (r.buttonsOrder.mem _), h b]

/-- The high-resolution event that `emit_wheels` adds to a wheel click. -/
def hiRes (devId : String) (field : Field) (value : ℤ) : List Emit :=
  emitNonzero devId field (some (value * 120))

/-- A wheel of a report that has no high-resolution field for it. -/
lemma emitWheel_std (devId : String) (fieldHr field : Field) (v : ℤ) {again : ℤ → List Emit}
    (hagain : ∀ hr, again hr = emitNonzero devId fieldHr (some hr)) :
    emitWheel devId none (some v) fieldHr field again =
      hiRes devId fieldHr v ++ emitNonzero devId field (some v) := by
  by_cases hv : v = 0
  · simp [emitWheel, emitWheel.standard, hiRes, emitNonzero, hv]
  · simp [emitWheel, emitWheel.standard, hagain, hiRes, emitNonzero, hv]

/-- **What `emit_wheels` emits** for a report without high-resolution fields. -/
lemma emitWheels_eq (devId : String) {report : Report} {v w : ℤ}
    (hv : report.wheelVert = some v) (hw : report.wheelHorz = some w)
    (hvr : report.wheelVertHr = none) (hwr : report.wheelHorzHr = none) :
    emitWheels devId (some report) =
      hiRes devId .wheelVertHr v ++ emitNonzero devId .wheelVert (some v) ++
        (hiRes devId .wheelHorzHr w ++ emitNonzero devId .wheelHorz (some w)) := by
  rw [emitWheels, emitWheelsBody, hv, hw, hvr, hwr, emitWheel_std, emitWheel_std]
  · intro hr
    simp [emitWheelsBody, emitWheel, emitWheel.standard, emitNonzero]
  · intro hr
    simp [emitWheelsBody, emitWheel, emitWheel.standard, emitNonzero]

/-- What a loop emits, as a multiset: the order of the fields does not matter. -/
lemma loop_multiset {id : Button → String} (hid : Function.Injective id)
    (other : Field → List Emit) (devId : String) (report : Report) (order : Order) (edge : Edge) :
    ((order.1.foldl (loopBody id other devId report) (edge, [])).2 : Multiset Emit) =
      (allFields.flatMap (fieldEvents id other devId report edge) : List Emit) := by
  rw [loop_snd _ _ _ hid order.nodup, List.nil_append, Multiset.coe_eq_coe]
  exact order.2.flatMap_right _

/-- The events of all fields, one field after the other. -/
lemma allFields_flatMap (f : Field → List Emit) :
    allFields.flatMap f =
      f .dx ++ f .dy ++ (allButtons.flatMap fun b => f (.button b)) ++
        (f .wheelVert ++ f .wheelVertHr ++ f .wheelHorz ++ f .wheelHorzHr) := by
  simp [allFields, List.flatMap_append, List.flatMap_map]

/-- **One report, emitted both ways**: in parts, it has the high-resolution events in addition. -/
lemma partsRun_eq {devId : String} {s : Detectors} (h : SameDetectors devId s) {r : Reading}
    {report : Report} (hr : parseReport r.data = some report) :
    ∃ v w, report.wheelVert = some v ∧ report.wheelHorz = some w ∧
      ((partsRun devId r s.parts).2 : Multiset Emit) = ((wholeRun devId r s.whole).2 : Multiset Emit)
        + (hiRes devId .wheelVertHr v ++ hiRes devId .wheelHorzHr w : List Emit) := by
  obtain ⟨v, w, hv, hw, hvr, hwr⟩ := parseReport_wheels hr
  refine ⟨v, w, hv, hw, ?_⟩
  simp only [partsRun, wholeRun, hr, emitButtons, emitEvents, emitMotion, ← Multiset.coe_add,
    loop_multiset (buttonId_injective devId), loop_multiset (eventsId_injective devId),
    emitWheels_eq devId hv hw hvr hwr, allFields_flatMap, fieldEvents, h _, Report.rel, hv, hw, hvr,
    hwr]
  simp only [emitNonzero, Multiset.coe_nil]
  abel

/-- Both ways agree on a report iff it has no wheel click. -/
lemma sameEvents_iff {devId : String} {s : Detectors} (h : SameDetectors devId s) (r : Reading) :
    SameEvents devId s r ↔ NoWheel r := by
  rcases hr : parseReport r.data with _ | report
  · refine iff_of_true ?_ fun report hreport => ?_
    · simp [SameEvents, wholeRun, partsRun, hr, emitButtons, emitMotion, emitWheels]
    · rw [hr] at hreport
      cases hreport
  · obtain ⟨v, w, hv, hw, heq⟩ := partsRun_eq h hr
    have hnone : ∀ field n, hiRes devId field n = [] ↔ n = 0 := fun field n => by
      simp [hiRes, emitNonzero]
    rw [SameEvents, ← Multiset.coe_eq_coe, heq, left_eq_add, Multiset.coe_eq_zero,
      List.append_eq_nil_iff, hnone, hnone]
    constructor
    · rintro ⟨rfl, rfl⟩ report' hr'
      obtain rfl := Option.some.inj (hr.symm.trans hr')
      exact ⟨hv, hw⟩
    · intro hno
      obtain ⟨hv', hw'⟩ := hno report hr
      exact ⟨Option.some.inj (hv.symm.trans hv'), Option.some.inj (hw.symm.trans hw')⟩

/-- **The two ways to emit a report agree exactly as long as no wheel is turned.** In a run of
reports of any bytes for one device, from released buttons and with any orders of the loops,
`emit_events` emits for every report the same events as `emit_motion`, `emit_buttons` and
`emit_wheels`, up to their order, iff in every report the bytes of the wheels are zero or missing.

**Proof sketch.** The two ways have the same records of the buttons, under ids of their own. For one
report they emit the same events, except that `emit_wheels` adds a high-resolution event for every
wheel click. -/
theorem sameEvents_iff_noWheel (devId : String) (s : Detectors)
    (hs : ∀ b, s.whole.down (eventsId devId b) = false ∧ s.parts.down (buttonId devId b) = false)
    (rs : List Reading) :
    Run.EachStep (readingStep devId) (SameEvents devId) s rs ↔ ∀ r ∈ rs, NoWheel r := by
  have hstart : SameDetectors devId s := fun b => (hs b).1.trans (hs b).2.symm
  have hcongr : Run.EachStep (readingStep devId) (SameEvents devId) s rs ↔
      Run.EachStep (readingStep devId) (fun _ r => NoWheel r) s rs :=
    Run.eachStep_congr (I := SameDetectors devId) (fun _ r h _ => h.step r)
      (fun _ r h => sameEvents_iff h r) hstart rs
  rw [hcongr]
  exact Run.eachStep_iff_forall

/-- A report with a click of the vertical wheel. -/
def wheelReading : Reading := { data := [0, 0, 0, 1] }

/-- **A wheel click.** In parts it is emitted with a high-resolution event. -/
theorem not_sameEvents_wheel :
    (wholeRun "pointer" wheelReading {}).2 = [⟨⟨"EV_REL", "REL_WHEEL", 1⟩, "pointer"⟩] ∧
      (partsRun "pointer" wheelReading {}).2 =
        [⟨⟨"EV_REL", "REL_WHEEL_HI_RES", 120⟩, "pointer"⟩,
          ⟨⟨"EV_REL", "REL_WHEEL", 1⟩, "pointer"⟩] ∧
      ¬ Run.EachStep (readingStep "pointer") (SameEvents "pointer") {} [wheelReading] := by
  have hwhole : (wholeRun "pointer" wheelReading {}).2 =
      [⟨⟨"EV_REL", "REL_WHEEL", 1⟩, "pointer"⟩] := by decide
  have hparts : (partsRun "pointer" wheelReading {}).2 =
      [⟨⟨"EV_REL", "REL_WHEEL_HI_RES", 120⟩, "pointer"⟩,
        ⟨⟨"EV_REL", "REL_WHEEL", 1⟩, "pointer"⟩] := by decide
  refine ⟨hwhole, hparts, fun h => ?_⟩
  have hperm : (wholeRun "pointer" wheelReading {}).2.Perm
      (partsRun "pointer" wheelReading {}).2 := h.1
  rw [hwhole, hparts] at hperm
  exact absurd hperm.length_eq (by decide)

/-- Two reports without wheel clicks: a button is pressed and the mouse moves, and the button is
released. -/
theorem sameEvents_iff_noWheel_drag :
    Run.EachStep (readingStep "pointer") (SameEvents "pointer") {}
      [{ data := [1, 5, 0] }, { data := [0, 0, 0, 0, 0] }] :=
  (sameEvents_iff_noWheel "pointer" {} (fun b => by cases b <;> decide) _).mpr fun r hr => by
    intro report hreport
    simp only [List.mem_cons, List.not_mem_nil, or_false] at hr
    rcases hr with rfl | rfl
    · obtain rfl := Option.some.inj hreport
      decide
    · obtain rfl := Option.some.inj hreport
      decide

end Aelkey.Mouse
