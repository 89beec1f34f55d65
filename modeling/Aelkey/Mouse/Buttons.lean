import Aelkey.Lib.Alternation
import Aelkey.Lib.Instances
import Aelkey.Mouse.Model

set_option relaxedAutoImplicit false
set_option autoImplicit false

/-!
# The buttons of several mice

The buttons of all devices go through one edge detector, under ids that are made of a fixed text,
the device id and the name of the button. An id tells the device and the button, so that the records
of a button are its own, whatever the devices are called and whoever else uses the detector under
ids of another form.

## Main definitions

* `Aelkey.Mouse.ButtonCall`, `Aelkey.Mouse.ButtonCall.run` — the calls on the edge detector.
* `Aelkey.Mouse.ButtonWatch` — the detector, the events so far, and the state last reported for
  every button.
* `Aelkey.Mouse.Tracked` — the events of every button alternate and end in the state last reported.

## Main results

* `Aelkey.Mouse.tracked_of_foreign` — devices do not see each other, and every button is tracked.
-/

namespace Aelkey.Mouse

open Evdev

/-! ## Calls -/

/-- The beginning of the ids of `emit_buttons`. -/
def idStart : String := "_aelkey_mouse_:"

/-- A call of `emit_buttons`, and the calls of others on the edge detector. -/
inductive ButtonCall
  | emit (devId : String) (report : Option Report) (order : Order)
  | detect (id : String) (pressed : Bool)
  | reset (id : Option String)

/-- The device of a call, or nothing for a call of others. -/
def ButtonCall.device : ButtonCall → Option String
  | .emit devId _ _ => some devId
  | .detect _ _ | .reset _ => none

/-- What a call emits, and the detector after it. -/
def ButtonCall.run : ButtonCall → Edge → List Emit × Edge
  | .emit devId report order, edge =>
    let result := emitButtons devId report order edge
    (result.2, result.1)
  | .detect id pressed, edge => ([], (edge.detect id pressed).2)
  | .reset id, edge => ([], (edge.reset id).2)

/-- Others use ids of another form. -/
def ButtonCall.Foreign : ButtonCall → Prop
  | .emit _ _ _ => True
  | .detect id _ => ¬ idStart.toList <+: id.toList
  | .reset (some id) => ¬ idStart.toList <+: id.toList
  | .reset none => False

/-- A call as one of the instance of its device, which has no state of its own. -/
def ButtonCall.call (c : ButtonCall) (s : Edge × Unit) : List Emit × Edge × Unit :=
  let result := c.run s.1
  (result.1, result.2, ())

/-! ## One call -/

/-- A text begins with the first of its parts. -/
lemma toList_prefix (s d c n : String) : s.toList <+: (s ++ d ++ c ++ n).toList := by
  rw [String.append_assoc, String.append_assoc, String.toList_append]
  exact List.prefix_append _ _

/-- The ids of `emit_buttons` are of their form. -/
lemma buttonId_starts (devId : String) (b : Button) :
    idStart.toList <+: (buttonId devId b).toList :=
  toList_prefix idStart devId ":" b.name

/-- An id of another form is not that of a button. -/
lemma ne_buttonId {id : String} (h : ¬ idStart.toList <+: id.toList) (devId : String)
    (b : Button) : buttonId devId b ≠ id := by
  rintro rfl
  exact h (buttonId_starts devId b)

/-- **What a call emits**: the changes of the buttons, for a call of `emit_buttons`. -/
lemma run_fst (c : ButtonCall) (edge : Edge) :
    (c.run edge).1 =
      match c with
      | .emit devId (some report) order =>
        order.1.flatMap (fieldEvents (buttonId devId) (fun _ => []) devId report edge)
      | _ => [] := by
  cases c with
  | emit devId report order =>
    cases report with
    | none => rfl
    | some report =>
      simp only [ButtonCall.run, emitButtons]
      rw [loop_snd _ _ _ (buttonId_injective devId) order.nodup, List.nil_append]
  | detect | reset => rfl

/-- **What a call records for a button**: the state of the report, if it is a report of the device
in which the button is present. -/
lemma down_run {c : ButtonCall} (hc : c.Foreign) (edge : Edge) (devId : String) (b : Button) :
    (c.run edge).2.down (buttonId devId b) =
      match c with
      | .emit devId' (some report) _ =>
        if devId' = devId then (report.button b).getD (edge.down (buttonId devId b))
        else edge.down (buttonId devId b)
      | _ => edge.down (buttonId devId b) := by
  cases c with
  | emit devId' report order =>
    cases report with
    | none => rfl
    | some report =>
      simp only [ButtonCall.run, emitButtons]
      split_ifs with hd
      · subst hd
        rw [down_loop _ _ _ (buttonId_injective devId'), if_pos (order.mem _)]
      · exact down_loop_other _ _ _ _ _ fun b' he => hd (buttonId_inj.mp he).1.symm
  | detect id pressed =>
    exact (edge.down_detect id _ pressed).trans (if_neg (ne_buttonId hc devId b))
  | reset id =>
    cases id with
    | none => exact hc.elim
    | some id => exact edge.down_reset (ne_buttonId hc devId b)

/-! ## The events of a button -/

/-- The values of the events of a button of a device, in order. -/
def values (log : List Emit) (devId : String) (b : Button) : List ℤ :=
  (log.filter fun e => e.device = devId ∧ e.type = "EV_KEY" ∧ e.code = b.code).map (·.value)

/-- A list that is the concatenation of lists of which only one is not empty. -/
lemma flatMap_eq_of_unique {α β : Type*} {f : α → List β} {l : List α} {x : α} (hn : l.Nodup)
    (hx : x ∈ l) (h : ∀ y, y ≠ x → f y = []) : l.flatMap f = f x := by
  induction l with
  | nil => cases hx
  | cons y l ih =>
    obtain ⟨hy, hn⟩ := List.nodup_cons.mp hn
    rw [List.flatMap_cons]
    rcases List.mem_cons.mp hx with rfl | hx
    · have hrest : l.flatMap f = [] := by
        rw [List.flatMap_eq_nil_iff]
        intro z hz
        apply h z
        rintro rfl
        exact hy hz
      rw [hrest, List.append_nil]
    · have hne : y ≠ x := by
        rintro rfl
        exact hy hx
      rw [h y hne, List.nil_append, ih hn hx]

/-- Buttons are told apart by their codes. -/
lemma Button.code_injective : Function.Injective Button.code := by
  intro b b' h
  cases b <;> cases b' <;> first | rfl | exact absurd h (by decide)

/-- The events of a button among those of a field. -/
lemma values_buttonEvents (devId devId' : String) (b b' : Button) (state : Option Bool)
    (down : Bool) :
    values (buttonEvents devId' b' state down) devId b =
      if devId' = devId ∧ b' = b then (buttonEvents devId b state down).map (·.value) else [] := by
  rcases state with _ | pressed
  · simp [buttonEvents, values]
  · by_cases hd : down = pressed
    · simp [buttonEvents, hd, values]
    · have hevent : ∀ d b₀, buttonEvents d b₀ (some pressed) down = [emitKey d b₀ pressed] :=
        fun _ _ => if_neg hd
      have hcode : (emitKey devId' b' pressed).device = devId ∧
          (emitKey devId' b' pressed).type = "EV_KEY" ∧
            (emitKey devId' b' pressed).code = b.code ↔ devId' = devId ∧ b' = b := by
        simp only [emitKey, true_and, Button.code_injective.eq_iff]
      rw [hevent, hevent, values, List.filter_singleton, decide_eq_decide.mpr hcode]
      by_cases h : devId' = devId ∧ b' = b
      · rw [if_pos h, decide_eq_true h]
        rfl
      · rw [if_neg h, decide_eq_false h]
        rfl

/-- **The events of a button in those of a call**: the change of the button, in a call for its
device. -/
lemma values_run (c : ButtonCall) (edge : Edge) (devId : String) (b : Button) :
    values (c.run edge).1 devId b =
      match c with
      | .emit devId' (some report) _ =>
        if devId' = devId then
          (buttonEvents devId b (report.button b) (edge.down (buttonId devId b))).map (·.value)
        else []
      | _ => [] := by
  rw [run_fst]
  cases c with
  | emit devId' report order =>
    cases report with
    | none => rfl
    | some report =>
      have hfield : ∀ f, f ≠ .button b →
          values (fieldEvents (buttonId devId') (fun _ => []) devId' report edge f) devId b =
            [] := by
        intro f hf
        cases f with
        | button b' =>
          rw [fieldEvents, values_buttonEvents, if_neg]
          rintro ⟨-, rfl⟩
          exact hf rfl
        | dx | dy | wheelVert | wheelVertHr | wheelHorz | wheelHorzHr => rfl
      have hflat : values (order.1.flatMap (fieldEvents (buttonId devId') (fun _ => []) devId'
          report edge)) devId b = order.1.flatMap fun f =>
            values (fieldEvents (buttonId devId') (fun _ => []) devId' report edge f) devId b := by
        simp only [values, List.filter_flatMap, List.map_flatMap]
      dsimp only
      rw [hflat, flatMap_eq_of_unique order.nodup (order.mem (.button b)) hfield, fieldEvents,
        values_buttonEvents]
      by_cases hd : devId' = devId
      · subst hd
        simp
      · simp [hd]
  | detect | reset => rfl

/-! ## Runs -/

/-- The edge detector, the events emitted so far, and the state last reported for every button. -/
structure ButtonWatch where
  edge : Edge := {}
  log : List Emit := []
  reported : String → Button → Bool := fun _ _ => false

/-- One call. A button that is not in the report keeps the state that was last reported for it. -/
def buttonStep (w : ButtonWatch) (c : ButtonCall) : ButtonWatch where
  edge := (c.run w.edge).2
  log := w.log ++ (c.run w.edge).1
  reported :=
    match c with
    | .emit devId (some report) _ => fun d b =>
      if devId = d then (report.button b).getD (w.reported d b) else w.reported d b
    | _ => w.reported

/-- **Every button is tracked**: its events are press, release, press, and so on, and the last of
them, if any, is a press iff the button was last reported as pressed. -/
def Tracked (w : ButtonWatch) : Prop :=
  ∀ devId b, Log.Alternates 1 0 (values w.log devId b) ∧
    (Log.IsOn 1 (values w.log devId b) ↔ w.reported devId b = true)

/-- The invariant: the detector has the state last reported for every button. -/
structure Recorded (w : ButtonWatch) : Prop where
  down : ∀ devId b, w.edge.down (buttonId devId b) = w.reported devId b
  tracked : Tracked w

/-- A change of a button keeps its events alternating. -/
lemma alternates_change (devId : String) (b : Button) {log : List ℤ} {down : Bool}
    (h : Log.Alternates 1 0 log) (hon : Log.IsOn 1 log ↔ down = true) (state : Option Bool) :
    Log.Alternates 1 0 (log ++ (buttonEvents devId b state down).map (·.value)) ∧
      (Log.IsOn 1 (log ++ (buttonEvents devId b state down).map (·.value)) ↔
        state.getD down = true) := by
  rcases state with _ | pressed
  · simpa [buttonEvents] using ⟨h, hon⟩
  · by_cases hd : down = pressed
    · subst hd
      simpa [buttonEvents] using ⟨h, hon⟩
    · have hvalue : (buttonEvents devId b (some pressed) down).map (·.value) =
          [if pressed then 1 else 0] := by
        simp [buttonEvents, hd, emitKey]
      rw [hvalue, Log.alternates_concat (by decide), Log.isOn_concat, hon, Option.getD_some]
      refine ⟨⟨h, ?_⟩, ?_⟩
      · cases down <;> cases pressed <;> simp_all
      · cases pressed <;> simp

/-- Every call keeps the invariant. -/
lemma Recorded.step {w : ButtonWatch} (h : Recorded w) {c : ButtonCall} (hc : c.Foreign) :
    Recorded (buttonStep w c) := by
  constructor
  · intro devId b
    have hdown := down_run hc w.edge devId b
    cases c with
    | emit devId' report order =>
      cases report with
      | none => exact hdown.trans (h.down devId b)
      | some report => simpa only [buttonStep, h.down devId b] using hdown
    | detect | reset => exact hdown.trans (h.down devId b)
  · intro devId b
    obtain ⟨halt, hon⟩ := h.tracked devId b
    have hlog : values (buttonStep w c).log devId b =
        values w.log devId b ++ values (c.run w.edge).1 devId b := by
      simp [buttonStep, values]
    rw [hlog, values_run]
    cases c with
    | emit devId' report order =>
      cases report with
      | none => simpa [buttonStep] using ⟨halt, hon⟩
      | some report =>
        by_cases hd : devId' = devId
        · simpa only [buttonStep, if_pos hd, h.down devId b] using
            alternates_change devId b halt hon (report.button b)
        · simpa [buttonStep, hd] using ⟨halt, hon⟩
    | detect | reset => simpa [buttonStep] using ⟨halt, hon⟩

/-- The detector has the same records of a device in a run of all devices as when the calls of the
device are run alone. -/
def SameRecords (p : Instances.Pair (Option String) Edge Unit) : Prop :=
  ∀ devId b, p.world.shared.down (buttonId devId b) = (p.solo (some devId)).1.down (buttonId devId b)

/-- Every call keeps the records the same. -/
lemma SameRecords.step {p : Instances.Pair (Option String) Edge Unit} (hp : SameRecords p)
    {c : ButtonCall} (hc : c.Foreign) :
    SameRecords (p.step ButtonCall.call (c.device, c)) := by
  intro devId b
  simp only [Instances.Pair.step, Instances.World.step, ButtonCall.call]
  rw [down_run hc]
  cases c with
  | emit devId' report order =>
    by_cases hd : devId' = devId
    · subst hd
      rw [ButtonCall.device, Function.update_self, down_run hc]
      cases report <;> simp [hp devId' b]
    · have hne : some devId ≠ some devId' := fun he => hd (Option.some.inj he).symm
      rw [ButtonCall.device, Function.update_of_ne hne, ← hp devId b]
      cases report <;> simp [hd]
  | detect | reset =>
    rw [ButtonCall.device, Function.update_of_ne (by simp)]
    exact hp devId b

/-- A call emits the same on both sides. -/
lemma SameRecords.agrees {p : Instances.Pair (Option String) Edge Unit} (hp : SameRecords p)
    (c : ButtonCall) : p.Agrees ButtonCall.call Eq (c.device, c) := by
  simp only [Instances.Pair.Agrees, ButtonCall.call]
  rw [run_fst, run_fst]
  cases c with
  | emit devId report order =>
    cases report with
    | none => rfl
    | some report =>
      refine List.flatMap_congr fun f _ => ?_
      cases f with
      | button b => simp only [fieldEvents, ButtonCall.device, hp devId b]
      | dx | dy | wheelVert | wheelVertHr | wheelHorz | wheelHorzHr => rfl
  | detect | reset => rfl

/-- **Mouse buttons are tracked per device.** In every run of `emit_buttons` calls for any devices
with any reports, while others use the edge detector under ids of another form only, every device
receives the same events from each of its calls as when its own calls are run alone; and after each
call the events of every button are press, release, press, and so on, and leave it in the state that
was last reported for it.

**Proof sketch.** The id of a button tells its device and the button, so that the record of the id
is the state last reported, in a run of all devices and in a run of one of them. -/
theorem tracked_of_foreign (calls : List ButtonCall) (hcalls : ∀ c ∈ calls, c.Foreign) :
    Instances.Independent ButtonCall.call Eq ⟨({} : Edge), fun _ => ()⟩
        (calls.map fun c => (c.device, c)) ∧
      Run.Always buttonStep Tracked {} calls := by
  constructor
  · rw [Instances.independent_iff]
    refine Run.eachStep_of_step (I := SameRecords)
      (C := fun _ e => e.2.Foreign ∧ e.1 = e.2.device) ?_ ?_ (fun _ _ => rfl)
      (Run.eachStep_of_forall ?_ _)
    · intro p ⟨i, c⟩ hp ⟨hc, hi⟩
      obtain rfl : i = c.device := hi
      exact hp.step hc
    · rintro p ⟨i, c⟩ hp ⟨-, hi⟩
      obtain rfl : i = c.device := hi
      exact hp.agrees c
    · intro e he
      obtain ⟨c, hc, rfl⟩ := List.mem_map.mp he
      exact ⟨hcalls c hc, rfl⟩
  · have hstart : Recorded {} := by
      refine ⟨fun _ _ => rfl, fun devId b => ⟨trivial, ?_⟩⟩
      simp [values, Log.IsOn]
    exact (Run.always_of_step (fun _ _ h hc => h.step hc) hstart
      (Run.eachStep_of_forall hcalls _)).mono fun _ h => h.tracked

/-- Two devices, one of which has a name that looks like an id of the other, and a call of others.
-/
theorem tracked_of_foreign_colon :
    Instances.Independent ButtonCall.call Eq ⟨({} : Edge), fun _ => ()⟩
        (([.emit "a" (some { button := fun _ => some true }) ⟨allFields, .refl _⟩,
            .detect "a:left" true,
            .emit "a:left" (some { button := fun _ => some false }) ⟨allFields, .refl _⟩,
            .emit "a" (some {}) ⟨allFields, .refl _⟩] : List ButtonCall).map
          fun c => (c.device, c)) ∧
      Run.Always buttonStep Tracked {}
        [.emit "a" (some { button := fun _ => some true }) ⟨allFields, .refl _⟩,
          .detect "a:left" true,
          .emit "a:left" (some { button := fun _ => some false }) ⟨allFields, .refl _⟩,
          .emit "a" (some {}) ⟨allFields, .refl _⟩] :=
  tracked_of_foreign _ fun c hc => by
    simp only [List.mem_cons, List.not_mem_nil, or_false] at hc
    rcases hc with rfl | rfl | rfl | rfl
    · trivial
    · exact (by decide : ¬ idStart.toList <+: "a:left".toList)
    · trivial
    · trivial

end Aelkey.Mouse
