import Aelkey.Lib.Run
import Aelkey.Touchpad.Keys

set_option relaxedAutoImplicit false
set_option autoImplicit false

/-!
# Tool keys and the finger count

The queued events of all frames are replayed one after the other. After every frame `BTN_TOUCH` and
the tool keys that are down are those of the finger count, and the tool keys change one at a time:
the pad's own record `tool_keys_down` follows the stream.

## Main definitions

* `Aelkey.Touchpad.PadSession` — a pad, the edge detector and the events queued so far.
* `Aelkey.Touchpad.ToolsMatch` — `BTN_TOUCH` and the tool keys are those of the finger count.

## Main results

* `Aelkey.Touchpad.toolsMatch_always` — this holds after every frame of every run.
-/

namespace Aelkey.Touchpad

open Evdev

/-- A pad with the edge detector it uses, the events queued so far, and the reports of the last
frame that were accepted. -/
structure PadSession where
  pad : Pad
  edge : Edge
  log : List Event
  fed : List Report

/-- A complete frame. -/
def PadSession.step (s : PadSession) (f : FrameInput) : PadSession where
  pad := (runFrame (s.pad, s.edge) f).1
  edge := (runFrame (s.pad, s.edge) f).2
  log := s.log ++ (runFrame (s.pad, s.edge) f).1.events
  fed := f.reports.filter (·.accepted s.pad)

/-- An instance made by `touchpad.new`. -/
def PadSession.start (mode : Mode) (maxSlots : ℚ) (edge : Edge) : PadSession where
  pad := { mode := mode, maxSlots := maxSlots }
  edge := edge
  log := []
  fed := []

/-- The tool keys. -/
def toolKeys : List String :=
  ["BTN_TOOL_FINGER", "BTN_TOOL_DOUBLETAP", "BTN_TOOL_TRIPLETAP", "BTN_TOOL_QUADTAP"]

/-- `BTN_TOUCH` and the tool keys that are down are those of the finger count, `tool_keys_down` has
the tool keys that are down, and no event of the stream broke the order: never are two tool keys
down at once, and each is pressed when it is up and released when it is down. -/
structure ToolsMatch (s : PadSession) : Prop where
  touch : IsDown "BTN_TOUCH" s.log ↔ 0 < s.pad.fingerCount
  finger : IsDown "BTN_TOOL_FINGER" s.log ↔ s.pad.fingerCount = 1
  doubletap : IsDown "BTN_TOOL_DOUBLETAP" s.log ↔ s.pad.fingerCount = 2
  tripletap : IsDown "BTN_TOOL_TRIPLETAP" s.log ↔ s.pad.fingerCount = 3
  quadtap : IsDown "BTN_TOOL_QUADTAP" s.log ↔ 4 ≤ s.pad.fingerCount
  recorded : ∀ c, c ∈ s.pad.toolKeysDown ↔ c ∈ toolKeys ∧ IsDown c s.log
  single : ∀ pre, pre <+: s.log → ∀ c ∈ toolKeys, ∀ c' ∈ toolKeys,
    IsDown c pre → IsDown c' pre → c = c'
  strict : ∀ pre e, pre ++ [e] <+: s.log → e.code ∈ toolKeys → MayFollow pre e

/-! ## The invariant -/

/-- The tool keys of a finger count are tool keys. -/
lemma mem_toolKeys_of_desired {n : ℕ} {c : String} (h : c ∈ desiredDown n) : c ∈ toolKeys := by
  unfold desiredDown at h
  split at h <;> simp_all [toolKeys]

/-- There is at most one tool key for a finger count. -/
lemma desired_unique {n : ℕ} {c c' : String} (h : c ∈ desiredDown n) (h' : c' ∈ desiredDown n) :
    c = c' := by
  unfold desiredDown at h h'
  split at h <;> simp_all

/-- The tool keys of a finger count, one by one. -/
lemma mem_desiredDown (n : ℕ) :
    ("BTN_TOOL_FINGER" ∈ desiredDown n ↔ n = 1) ∧ ("BTN_TOOL_DOUBLETAP" ∈ desiredDown n ↔ n = 2) ∧
      ("BTN_TOOL_TRIPLETAP" ∈ desiredDown n ↔ n = 3) ∧
      ("BTN_TOOL_QUADTAP" ∈ desiredDown n ↔ 4 ≤ n) := by
  unfold desiredDown
  split
  · simp
  · simp
  · simp
  · simp
  · next h0 h1 h2 h3 =>
    have hn : n ≠ 0 ∧ n ≠ 1 ∧ n ≠ 2 ∧ n ≠ 3 := ⟨h0, h1, h2, h3⟩
    simp only [List.mem_singleton, String.reduceEq, true_iff, false_iff]
    omega

/-- Whether a code is that of a tool key. -/
def isToolKey (c : String) : Bool := c ∈ toolKeys

/-- The tool keys of the stream follow the finger count. -/
structure ToolInv (s : PadSession) : Prop where
  touch : IsDown "BTN_TOUCH" s.log ↔ 0 < s.pad.fingerCount
  tools : ∀ c, c ∈ s.pad.toolKeysDown ↔ c ∈ desiredDown s.pad.fingerCount
  down : ∀ c, IsDown c (restrict isToolKey s.log) ↔ c ∈ desiredDown s.pad.fingerCount
  single : OneAtATime (restrict isToolKey s.log)
  strict : Strict (restrict isToolKey s.log)

/-- The invariant gives the property. -/
lemma ToolInv.toolsMatch {s : PadSession} (h : ToolInv s) : ToolsMatch s := by
  have hdown : ∀ c ∈ toolKeys, (IsDown c s.log ↔ c ∈ desiredDown s.pad.fingerCount) := by
    intro c hc
    rw [← isDown_restrict (S := isToolKey) (by simpa [isToolKey] using hc), h.down]
  obtain ⟨h1, h2, h3, h4⟩ := mem_desiredDown s.pad.fingerCount
  refine ⟨h.touch, (hdown _ (by decide)).trans h1, (hdown _ (by decide)).trans h2,
    (hdown _ (by decide)).trans h3, (hdown _ (by decide)).trans h4, fun c => ?_,
    fun pre hp c hc c' hc' hd hd' => ?_, fun pre e hp he => ?_⟩
  · rw [h.tools]
    constructor
    · intro hc
      have htool := mem_toolKeys_of_desired hc
      exact ⟨htool, (hdown c htool).mpr hc⟩
    · intro ⟨htool, hd⟩
      exact (hdown c htool).mp hd
  · exact h.single.of_restrict hp (by simpa [isToolKey] using hc) (by simpa [isToolKey] using hc')
      hd hd'
  · exact h.strict.of_restrict hp (by simpa [isToolKey] using he)

/-- Nothing is down at first. -/
lemma toolInv_start (mode : Mode) (maxSlots : ℚ) (edge : Edge) :
    ToolInv (.start mode maxSlots edge) := by
  refine ⟨?_, ?_, ?_, ?_, strict_nil⟩
  · simp [PadSession.start, IsDown]
  · simp [PadSession.start, desiredDown]
  · simp [PadSession.start, desiredDown, IsDown, restrict]
  · intro pre hp c c' hc
    rw [List.prefix_nil.mp hp] at hc
    simp [IsDown] at hc

/-- Events of absolute axes and of the buttons are no events of tool keys. -/
lemma restrict_other {l : List Event}
    (h : OnlyAbs l ∨ ∃ source edge, l = buttonEvents source edge) :
    restrict isToolKey l = [] := by
  refine restrict_eq_nil _ fun e he hkey => ?_
  rcases h with h | ⟨source, edge, rfl⟩
  · exact absurd (hkey.symm.trans (h e he)) (by decide)
  · obtain ⟨b, hb⟩ := buttonEvents_code he
    rw [hb]
    cases b <;> decide

/-- **What a frame adds for the tool keys**: an event of `BTN_TOUCH`, and the change from the tool
keys of the old finger count to those of the new one. All other events are of other keys. -/
lemma log_step {s : PadSession}
    (htools : ∀ c, c ∈ s.pad.toolKeysDown ↔ c ∈ desiredDown s.pad.fingerCount) (f : FrameInput) :
    (IsDown "BTN_TOUCH" (s.step f).log ↔ 0 < (s.step f).pad.fingerCount) ∧
      ∃ r d : List String, r.Nodup ∧ d.Nodup ∧
        (∀ c, c ∈ r ↔
          c ∈ desiredDown s.pad.fingerCount ∧ c ∉ desiredDown (s.step f).pad.fingerCount) ∧
        (∀ c, c ∈ d ↔
          c ∈ desiredDown (s.step f).pad.fingerCount ∧ c ∉ desiredDown s.pad.fingerCount) ∧
        restrict isToolKey (s.step f).log =
          restrict isToolKey s.log ++ r.map (key · 0) ++ d.map (key · 1) := by
  obtain ⟨-, -, abs, abs', r, d, habs, habs', hrn, hdn, hr, hd, hevents⟩ :=
    runFrame_events (s.pad, s.edge) f
  simp only [htools] at hr hd
  have hrtool : ∀ c ∈ r, c ∈ toolKeys := fun c hc => mem_toolKeys_of_desired ((hr c).mp hc).1
  have hdtool : ∀ c ∈ d, c ∈ toolKeys := fun c hc => mem_toolKeys_of_desired ((hd c).mp hc).1
  refine ⟨?_, r, d, hrn, hdn, hr, hd, ?_⟩
  · -- the events after that of `BTN_TOUCH` are of other keys
    have hrest : ∀ e ∈ r.map (key · (0 : ℚ)) ++ d.map (key · 1) ++ abs' ++
        buttonEvents (frameSource s.pad f) s.edge, e.type = "EV_KEY" → e.code ≠ "BTN_TOUCH" := by
      have hnot : ∀ c ∈ toolKeys, c ≠ "BTN_TOUCH" := by decide
      intro e he hkey
      simp only [List.mem_append, List.mem_map] at he
      obtain ((⟨c, hc, rfl⟩ | ⟨c, hc, rfl⟩) | he) | he := he
      · exact hnot c (hrtool c hc)
      · exact hnot c (hdtool c hc)
      · exact habs'.not_key e he hkey
      · obtain ⟨b, hb⟩ := buttonEvents_code he
        rw [hb]
        cases b <;> decide
    have happend : (s.step f).log =
        (s.log ++ abs) ++ [key "BTN_TOUCH" (if 0 < (s.step f).pad.fingerCount then 1 else 0)] ++
          (r.map (key · 0) ++ d.map (key · 1) ++ abs' ++
            buttonEvents (frameSource s.pad f) s.edge) := by
      simp only [PadSession.step, hevents, List.append_assoc]
    rw [happend, isDown_append_other _ hrest, isDown_append_key, if_pos rfl]
    simp
  · have htouch : ∀ v : ℚ, restrict isToolKey [key "BTN_TOUCH" v] = [] := by
      refine fun v => restrict_eq_nil _ fun e he _ => ?_
      rw [List.mem_singleton.mp he]
      exact (by decide : isToolKey "BTN_TOUCH" = false)
    simp only [PadSession.step, hevents, restrict_append, restrict_other (.inl habs),
      restrict_other (.inl habs'), restrict_other (.inr ⟨_, _, rfl⟩), htouch, List.nil_append,
      List.append_nil, List.append_assoc]
    rw [restrict_map_key _ fun c hc => by simpa [isToolKey] using hrtool c hc,
      restrict_map_key _ fun c hc => by simpa [isToolKey] using hdtool c hc]

/-- **One frame keeps the invariant.** The change is from at most one tool key to at most one tool
key. -/
lemma ToolInv.step {s : PadSession} (h : ToolInv s) (f : FrameInput) : ToolInv (s.step f) := by
  obtain ⟨htouch, r, d, hrn, hdn, hr, hd, hlog⟩ := log_step h.tools f
  constructor
  case touch => exact htouch
  case tools => exact (runFrame_events (s.pad, s.edge) f).1
  case down =>
    intro c
    rw [hlog, isDown_append_diff hr hd]
    simp only [h.down]
    tauto
  case single =>
    rw [hlog]
    exact h.single.append_diff hr hd (fun c hc => (h.down c).mp hc) fun c c' => desired_unique
  case strict =>
    rw [hlog, strict_append_diff hr hd hrn hdn]
    refine ⟨h.strict, fun c => ⟨fun hc _ => (h.down c).mpr hc, fun _ hc hdown => ?_⟩⟩
    exact hc ((h.down c).mp hdown)

/-- **The tool keys match the finger count after every frame**, in both modes, for every number of
slots and every state of the edge detector. -/
theorem toolsMatch_always (mode : Mode) (maxSlots : ℚ) (edge : Edge) (frames : List FrameInput) :
    Run.Always PadSession.step ToolsMatch (.start mode maxSlots edge) frames :=
  Run.Always.mono (fun _ h => h.toolsMatch)
    (Run.always_of_inv (fun _ f h => h.step f) (toolInv_start mode maxSlots edge) frames)

end Aelkey.Touchpad
