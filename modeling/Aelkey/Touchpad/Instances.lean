import Aelkey.Lib.Instances
import Aelkey.Touchpad.Keys

set_option relaxedAutoImplicit false
set_option autoImplicit false

/-!
# Several touchpads

Every instance made by `touchpad.new` has its own contacts, but the clickpad buttons of all
instances go through one edge detector under the same three ids. An instance therefore sees an edge
where the other instances have left the button in another state.

## Main definitions

* `Aelkey.Touchpad.frameCall` — a frame as a call on an instance and the shared detector.
* `Aelkey.Touchpad.OwnEdge` — the detector has the record that the instance alone would have left.

## Main results

* `Aelkey.Touchpad.independent_iff_ownEdge` — the instances do not interfere exactly as long as
  this holds for every button that a frame reads.
* `Aelkey.Touchpad.not_independent_twoPads` — the second of two pads whose left button is pressed
  queues nothing.
-/

namespace Aelkey.Touchpad

open Evdev

/-- A complete frame of an instance: the events it queues, and the detector and the pad after it. -/
def frameCall (f : FrameInput) (p : Edge × Pad) : List Event × Edge × Pad :=
  let result := runFrame (p.2, p.1) f
  (result.1.events, result.2, result.1)

section Runs

variable {ι : Type*} [DecidableEq ι]

/-- For each button that the contact read by the frame has a field for, the shared detector has the
state that the instance's own frames alone would have left. -/
def OwnEdge (p : Instances.Pair ι Edge Pad) (e : ι × FrameInput) : Prop :=
  ∀ b : Button, (frameSource (p.world.own e.1) e.2).bind (·.button b) ≠ none →
    p.world.shared.down b.id = (p.solo e.1).1.down b.id

/-- The pads are the same on both sides, apart from the events of their last frames. -/
def SamePads (p : Instances.Pair ι Edge Pad) : Prop :=
  ∀ i, beginFrame (p.world.own i) = beginFrame (p.solo i).2

/-- A frame does not look at what the last frame has queued. -/
lemma fedPad_congr {p q : Pad} (h : beginFrame p = beginFrame q) (f : FrameInput) :
    fedPad p f = fedPad q f := by
  rw [fedPad, h, fedPad]

/-- Every frame keeps the pads the same. -/
lemma SamePads.step {p : Instances.Pair ι Edge Pad} (hp : SamePads p) (e : ι × FrameInput) :
    SamePads (p.step frameCall e) := by
  intro i
  simp only [Instances.Pair.step, Instances.World.step]
  by_cases hi : i = e.1
  · subst hi
    simp only [Function.update_self, frameCall, runFrame_fst]
    rw [fedPad_congr (hp e.1)]
    rfl
  · rw [Function.update_of_ne hi, Function.update_of_ne hi, hp i]

omit [DecidableEq ι] in
/-- **One frame.** It queues the same events on both sides iff the detector has the instance's own
record of the buttons that the frame reads. -/
lemma agrees_iff_ownEdge {p : Instances.Pair ι Edge Pad} (hp : SamePads p) (e : ι × FrameInput) :
    p.Agrees frameCall Eq e ↔ OwnEdge p e := by
  have hfed := fedPad_congr (hp e.1) e.2
  have hsource : frameSource (p.solo e.1).2 e.2 = frameSource (p.world.own e.1) e.2 := by
    rw [frameSource, ← hfed, frameSource]
  simp only [Instances.Pair.Agrees, frameCall, runFrame_fst, queue, hsource, ← hfed,
    List.append_cancel_left_eq]
  exact buttonEvents_eq_iff _ _ _

/-- **Touchpads do not interfere exactly as long as they meet their own records of the buttons.**
In a run of complete frames of any instances, in any modes, every instance queues the same events
as when its own frames are run alone, iff in every frame the edge detector has, for each button
that the frame reads, the state that the frames of this instance alone would have left.

**Proof sketch.** Both runs are followed side by side. The edge detector has a say in the button
events only, so the pads stay the same apart from these, and the button events of a frame are the
same iff the records of the buttons read are. -/
theorem independent_iff_ownEdge (edge : Edge) (pads : ι → Pad) (frames : List (ι × FrameInput)) :
    Instances.Independent frameCall Eq ⟨edge, pads⟩ frames ↔
      Run.EachStep (Instances.Pair.step frameCall) OwnEdge (.start ⟨edge, pads⟩) frames := by
  rw [Instances.independent_iff]
  exact Run.eachStep_congr (I := SamePads) (fun _ e hp _ => hp.step e)
    (fun _ e hp => agrees_iff_ownEdge hp e) (fun _ => rfl) frames

end Runs

/-- **One pad takes the press of another.** The left button is pressed on two pads, one after the
other: the second one queues no press. -/
theorem not_independent_twoPads :
    ¬ Instances.Independent frameCall Eq ⟨{}, fun _ : Bool => {}⟩
      [(false, { reports := [{ x := some 3, y := some 4, buttonLeft := some true }] }),
        (true, { reports := [{ x := some 3, y := some 4, buttonLeft := some true }] })] := by
  intro h
  rw [Instances.independent_iff] at h
  have hevents : (_ : List Event) = _ := h.2.1
  exact absurd hevents (by decide +kernel)

end Aelkey.Touchpad
