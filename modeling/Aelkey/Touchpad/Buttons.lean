import Aelkey.Touchpad.Tools

set_option relaxedAutoImplicit false
set_option autoImplicit false

/-!
# Clickpad buttons and the fed contacts

`end_frame` reads the buttons from one contact and passes each field through the edge detector. If
there is no contact, or the contact has no field for a button, the button is skipped and stays as
it is. A button that is down is thus left down by a frame whose contacts say nothing about it.

## Main definitions

* `Aelkey.Touchpad.NeverStuck` — a button is down only if a fed contact reports it as pressed.
* `Aelkey.Touchpad.Mentions` — a frame says something about every button that is down.

## Main results

* `Aelkey.Touchpad.neverStuck_iff_mentions` — no button is stuck exactly as long as every frame
  mentions the buttons that are down.
* `Aelkey.Touchpad.not_neverStuck_lifted` — a finger that is lifted with the button pressed.
-/

namespace Aelkey.Touchpad

open Evdev

/-- A button is down after a frame only if a contact fed in this frame reports it as pressed. -/
def NeverStuck (s : PadSession) : Prop :=
  ∀ b : Button, IsDown b.code s.log → ∃ r ∈ s.fed, r.button b = some true

/-- For every button that is down before a frame, the contact that the frame reads the buttons from
has a field, or a contact fed in the frame reports it as pressed. -/
def Mentions (s : PadSession) (f : FrameInput) : Prop :=
  ∀ b : Button, IsDown b.code s.log →
    (∃ c, frameSource s.pad f = some c ∧ c.button b ≠ none) ∨
      ∃ r ∈ f.reports, r.accepted s.pad ∧ r.button b = some true

/-- The stream and the edge detector agree on the buttons, and the recorded tool keys are tool
keys. -/
structure ButtonInv (s : PadSession) : Prop where
  down : ∀ b : Button, IsDown b.code s.log ↔ s.edge.down b.id = true
  tools : ∀ c ∈ s.pad.toolKeysDown, c ∈ toolKeys

/-- A button after the events of a source, if the edge detector knew whether it was down. -/
lemma isDown_append_buttonEvents {b : Button} {l : List Event} {edge : Edge}
    (h : IsDown b.code l ↔ edge.down b.id = true) (source : Option Contact) :
    IsDown b.code (l ++ buttonEvents source edge) ↔
      (source.bind (·.button b)).getD (edge.down b.id) = true := by
  rw [← isDown_restrict (S := (· = b.code)) (by simp), restrict_append, restrict_buttonEvents]
  rw [← isDown_restrict (S := (· = b.code)) (by simp)] at h
  rcases source.bind (·.button b) with _ | pressed
  · simpa [buttonEvent] using h
  · by_cases hd : edge.down b.id = pressed
    · simp [buttonEvent, hd, h]
    · rw [buttonEvent, if_neg hd, isDown_append_key, if_pos rfl]
      cases pressed <;> simp

/-- **A button after a frame**: as the source says, and otherwise as before. -/
lemma isDown_step {s : PadSession} (h : ButtonInv s) (f : FrameInput) (b : Button) :
    IsDown b.code (s.step f).log ↔
      ((frameSource s.pad f).bind (·.button b)).getD (s.edge.down b.id) = true := by
  obtain ⟨-, -, abs, abs', r, d, habs, habs', -, -, hr, hd, hevents⟩ :=
    runFrame_events (s.pad, s.edge) f
  have htool : ∀ c, c ∈ r ∨ c ∈ d → c ∈ toolKeys := fun c hc =>
    hc.elim (fun hc => h.tools c ((hr c).mp hc).1)
      fun hc => mem_toolKeys_of_desired ((hd c).mp hc).1
  have hrest : ∀ v : ℚ, ∀ e ∈ abs ++ [key "BTN_TOUCH" v] ++
      (r.map (key · 0) ++ d.map (key · 1)) ++ abs', e.type = "EV_KEY" → e.code ≠ b.code := by
    have hnot : ∀ c ∈ toolKeys, c ≠ b.code := by
      cases b <;> decide
    intro v e he hkey
    simp only [List.mem_append, List.mem_map, List.mem_singleton] at he
    rcases he with (((he | rfl) | (⟨c, hc, rfl⟩ | ⟨c, hc, rfl⟩)) | he)
    · exact habs.not_key e he hkey
    · cases b <;> simp [key, Button.code]
    · exact hnot c (htool c (.inl hc))
    · exact hnot c (htool c (.inr hc))
    · exact habs'.not_key e he hkey
  have happend : (s.step f).log = s.log ++ (abs ++
      [key "BTN_TOUCH" (if 0 < (runFrame (s.pad, s.edge) f).1.fingerCount then 1 else 0)] ++
      (r.map (key · 0) ++ d.map (key · 1)) ++ abs') ++
        buttonEvents (frameSource s.pad f) s.edge := by
    simp only [PadSession.step, hevents, List.append_assoc]
  rw [happend]
  refine isDown_append_buttonEvents ?_ _
  rw [isDown_append_other _ (hrest _), h.down]

/-- Every frame keeps the invariant. -/
lemma ButtonInv.step {s : PadSession} (h : ButtonInv s) (f : FrameInput) :
    ButtonInv (s.step f) := by
  obtain ⟨htools, hdown, -⟩ := runFrame_events (s.pad, s.edge) f
  refine ⟨fun b => ?_, fun c hc => mem_toolKeys_of_desired ((htools c).mp hc)⟩
  rw [isDown_step h, PadSession.step, hdown]

/-- **One frame.** After it no button is stuck iff it mentions the buttons that were down. -/
lemma neverStuck_step_iff {s : PadSession} (h : ButtonInv s) (f : FrameInput) :
    NeverStuck (s.step f) ↔ Mentions s f := by
  have hfed : ∀ b : Button, (∃ r ∈ (s.step f).fed, r.button b = some true) ↔
      ∃ r ∈ f.reports, r.accepted s.pad ∧ r.button b = some true := by
    intro b
    simp [PadSession.step, List.mem_filter, and_assoc]
  simp only [NeverStuck, isDown_step h, hfed, Mentions, h.down]
  refine forall_congr' fun b => ?_
  rcases hsource : frameSource s.pad f with _ | c
  · simp
  · rcases hb : c.button b with _ | pressed
    · simp [hb]
    · -- the source is a contact fed in this frame
      obtain ⟨r, hr, hacc, hbutton⟩ := frameSource_fed hsource
      refine iff_of_true (fun hp => ⟨r, hr, hacc, ?_⟩) fun _ => .inl ⟨c, rfl, by simp [hb]⟩
      rw [← hbutton b, hb]
      simpa [hb] using hp

/-- Nothing is down at first. -/
lemma buttonInv_start (mode : Mode) (maxSlots : ℚ) :
    ButtonInv (.start mode maxSlots {}) := by
  refine ⟨fun b => ?_, by simp [PadSession.start]⟩
  simp [PadSession.start, IsDown, Edge.down]

/-- **No button is stuck exactly as long as every frame mentions the buttons that are down.** For
one instance in either mode: after every frame of a run a button is down only if a contact fed in
this frame reports it as pressed, iff in every frame, for each button that is down before it, the
contact that the buttons are read from has a field for the button or some fed contact reports it as
pressed.

**Proof sketch.** After a frame a button is as the field of the source says, and as before if there
is no such field. The source has been fed in the frame, so in the first case the button is down
only if a fed contact says so. -/
theorem neverStuck_iff_mentions (mode : Mode) (maxSlots : ℚ) (frames : List FrameInput) :
    Run.Always PadSession.step NeverStuck (.start mode maxSlots {}) frames ↔
      Run.EachStep PadSession.step Mentions (.start mode maxSlots {}) frames := by
  refine Run.always_iff_eachStep_of_step (I := ButtonInv) (fun _ f h _ _ => h.step f)
    (fun _ f h _ => neverStuck_step_iff h f) (buttonInv_start mode maxSlots) ?_ frames
  intro b hb
  simp [PadSession.start, IsDown] at hb

/-- **A button that stays down.** A finger presses the left button in one frame, and the next frame
has no contact. -/
theorem not_neverStuck_lifted :
    ¬ ∀ (mode : Mode) (maxSlots : ℚ) (frames : List FrameInput),
      Run.Always PadSession.step NeverStuck (.start mode maxSlots {}) frames := by
  intro h
  have hlast := (h .multitouch 5
    [{ reports := [{ x := some 3, y := some 4, buttonLeft := some true }] },
      { reports := [] }]).last
  obtain ⟨r, hr, -⟩ := hlast .left (by decide +kernel)
  exact absurd hr (List.not_mem_nil)

end Aelkey.Touchpad
