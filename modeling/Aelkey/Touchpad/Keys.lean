import Aelkey.Touchpad.Frame

set_option relaxedAutoImplicit false
set_option autoImplicit false

/-!
# The key events of a frame

In both modes a frame queues the slot events of its contacts, `BTN_TOUCH`, the changes of the tool
keys, the position of the primary contact and the changes of the clickpad buttons, in this order.
The buttons are read from one contact, the *source*, and pass through the edge detector, which is
the only part of `end_frame` that depends on state outside the pad.

## Main definitions

* `Aelkey.Touchpad.FrameInput`, `Aelkey.Touchpad.runFrame` — a complete frame.
* `Aelkey.Touchpad.settle` — `end_frame` up to the clickpad buttons.
* `Aelkey.Touchpad.frameSource` — the contact whose buttons a frame reads.
* `Aelkey.Touchpad.buttonEvents` — the button events of a source.

## Main results

* `Aelkey.Touchpad.queueButtons_eq` — the buttons as events, and the records of the detector.
* `Aelkey.Touchpad.runFrame_fst` — what the detector has a say in.
* `Aelkey.Touchpad.frameSource_fed` — the source has the fields of a report of the frame.
* `Aelkey.Touchpad.runFrame_events` — all events of a frame.
-/

namespace Aelkey.Touchpad

open Evdev

/-! ## Clickpad buttons -/

/-- The clickpad buttons. -/
inductive Button
  | left
  | right
  | middle
deriving DecidableEq

/-- The key code of a button. -/
def Button.code : Button → String
  | .left => "BTN_LEFT"
  | .right => "BTN_RIGHT"
  | .middle => "BTN_MIDDLE"

/-- The id of a button in the edge detector. -/
def Button.id (b : Button) : String := "_aelkey_touchpad_" ++ b.code

/-- The field of a contact for a button. -/
def Contact.button (c : Contact) : Button → Option Bool
  | .left => c.buttonLeft
  | .right => c.buttonRight
  | .middle => c.buttonMiddle

/-- The field of a report for a button. -/
def Report.button (r : Report) : Button → Option Bool
  | .left => r.buttonLeft
  | .right => r.buttonRight
  | .middle => r.buttonMiddle

/-- Different buttons have different codes. -/
lemma Button.code_inj {b b' : Button} : b.code = b'.code ↔ b = b' := by
  cases b <;> cases b' <;> decide

/-- Different buttons have different ids. -/
lemma Button.id_inj {b b' : Button} : b.id = b'.id ↔ b = b' := by
  cases b <;> cases b' <;> decide

/-- The events for a button with field `state` whose recorded state is `down`. -/
def buttonEvent (b : Button) (state : Option Bool) (down : Bool) : List Event :=
  match state with
  | some pressed => if down = pressed then [] else [key b.code (if pressed then 1 else 0)]
  | none => []

/-- The events of the three buttons of a source. -/
def buttonEvents (source : Option Contact) (edge : Edge) : List Event :=
  [Button.left, .right, .middle].flatMap fun b =>
    buttonEvent b (source.bind (·.button b)) (edge.down b.id)

/-- The events of the buttons are those of button codes. -/
lemma buttonEvents_code {source : Option Contact} {edge : Edge} {e : Event}
    (he : e ∈ buttonEvents source edge) : ∃ b : Button, e.code = b.code := by
  obtain ⟨b, -, he⟩ := List.mem_flatMap.mp he
  refine ⟨b, ?_⟩
  unfold buttonEvent at he
  split at he
  · split at he
    · cases he
    · rw [List.mem_singleton.mp he, key]
  · cases he

/-- The events for one button, restricted to another. -/
lemma restrict_buttonEvent (b b' : Button) (state : Option Bool) (down : Bool) :
    restrict (· = b.code) (buttonEvent b' state down) =
      if b' = b then buttonEvent b' state down else [] := by
  rcases state with _ | pressed
  · simp [buttonEvent, restrict]
  · by_cases hd : down = pressed
    · simp [buttonEvent, hd, restrict]
    · simp only [buttonEvent, if_neg hd, restrict, key, List.filter_singleton, Button.code_inj]
      by_cases hb : b' = b <;> simp [hb]

/-- The events of the buttons, restricted to one of them. -/
lemma restrict_buttonEvents (b : Button) (source : Option Contact) (edge : Edge) :
    restrict (· = b.code) (buttonEvents source edge) =
      buttonEvent b (source.bind (·.button b)) (edge.down b.id) := by
  simp only [buttonEvents, List.flatMap_cons, List.flatMap_nil, restrict_append,
    restrict_buttonEvent]
  cases b <;> simp [restrict]

/-- The events of the buttons depend on the recorded states of those that the source has a field
for. -/
lemma buttonEvents_eq_iff (source : Option Contact) (edge edge' : Edge) :
    buttonEvents source edge = buttonEvents source edge' ↔
      ∀ b : Button, source.bind (·.button b) ≠ none → edge.down b.id = edge'.down b.id := by
  constructor
  · intro h b hb
    obtain ⟨pressed, hp⟩ := Option.ne_none_iff_exists'.mp hb
    have hevent := congrArg (restrict (· = b.code)) h
    rw [restrict_buttonEvents, restrict_buttonEvents, hp] at hevent
    revert hevent
    cases edge.down b.id <;> cases edge'.down b.id <;> cases pressed <;> simp [buttonEvent]
  · intro h
    refine List.flatMap_congr fun b _ => ?_
    rcases hb : source.bind (·.button b) with _ | pressed
    · rfl
    · rw [h b (by simp [hb])]

/-- The block for one button, as events. -/
lemma queueButton_eq (b : Button) (state : Option Bool) (self : Pad) (edge : Edge) :
    ∃ edge', queueButton b.code state (self, edge) =
        (queue self (buttonEvent b state (edge.down b.id)), edge') ∧
      ∀ id, edge'.down id = if id = b.id then state.getD (edge.down id) else edge.down id := by
  cases state with
  | none => exact ⟨edge, by simp [queueButton, buttonEvent, queue], by simp⟩
  | some pressed =>
    have hdetect : edge.detect ("_aelkey_touchpad_" ++ b.code) pressed =
        (if edge.down b.id = pressed then none else some pressed, (edge.detect b.id pressed).2) :=
      Prod.ext (edge.detect_fst b.id pressed) rfl
    refine ⟨(edge.detect b.id pressed).2, ?_, fun id => edge.down_detect b.id id pressed⟩
    simp only [queueButton, hdetect, buttonEvent]
    by_cases hd : edge.down b.id = pressed
    · simp [hd, queue]
    · simp [hd]

/-- **The three buttons.** The events depend on the recorded states of the buttons that the source
has a field for, and exactly these are recorded anew. -/
lemma queueButtons_eq (source : Option Contact) (self : Pad) (edge : Edge) :
    ∃ edge', queueButtons source (self, edge) = (queue self (buttonEvents source edge), edge') ∧
      ∀ b : Button, edge'.down b.id = (source.bind (·.button b)).getD (edge.down b.id) := by
  cases source with
  | none => exact ⟨edge, by simp [queueButtons, buttonEvents, buttonEvent, queue], by simp⟩
  | some c =>
    obtain ⟨e₁, h₁, d₁⟩ := queueButton_eq .left c.buttonLeft self edge
    obtain ⟨e₂, h₂, d₂⟩ := queueButton_eq .right c.buttonRight
      (queue self (buttonEvent .left c.buttonLeft (edge.down Button.left.id))) e₁
    rw [d₁, if_neg (by decide)] at h₂
    obtain ⟨e₃, h₃, d₃⟩ := queueButton_eq .middle c.buttonMiddle
      (queue (queue self (buttonEvent .left c.buttonLeft (edge.down Button.left.id)))
        (buttonEvent .right c.buttonRight (edge.down Button.right.id))) e₂
    rw [d₂, if_neg (by decide), d₁, if_neg (by decide)] at h₃
    refine ⟨e₃, ?_, fun b => ?_⟩
    · have hcodes : queueButtons (some c) (self, edge) =
          queueButton Button.middle.code c.buttonMiddle
            (queueButton Button.right.code c.buttonRight
              (queueButton Button.left.code c.buttonLeft (self, edge))) := rfl
      rw [hcodes, h₁, h₂, h₃]
      simp [buttonEvents, queue, Contact.button]
    · rw [d₃, d₂, d₁]
      cases b <;> simp [Button.id_inj, Contact.button]

/-! ## Frames -/

/-- The reports of a complete frame, and the orders of the `pairs` loops of its `end_frame`. -/
structure FrameInput where
  reports : List Report
  orders : Orders := default

/-- The pad before `end_frame`. -/
def fedPad (self : Pad) (f : FrameInput) : Pad := f.reports.foldl feedContact (beginFrame self)

/-- A complete frame, with the edge detector it shares. -/
def runFrame (p : Pad × Edge) (f : FrameInput) : Pad × Edge :=
  endFrame f.orders (fedPad p.1 f) p.2

/-- `end_frame` up to the clickpad buttons: the contact that the buttons are read from, and the
pad. -/
def settle (it : Orders) (self : Pad) : Option Contact × Pad :=
  let self := clearMissingContacts it self
  let self := if self.mode = .multitouch then closeEnded it self else self
  let (primary, self) := countFingers it self
  let self := queuePrimary primary (pressTools (releaseTools it (queueTouch self)))
  (buttonSource it primary self, self)

/-- The contact that a frame reads the buttons from. -/
def frameSource (self : Pad) (f : FrameInput) : Option Contact :=
  (settle f.orders (fedPad self f)).1

/-- `end_frame` in three parts. -/
lemma endFrame_eq (it : Orders) (self : Pad) (edge : Edge) :
    endFrame it self edge =
      (let p := queueButtons (settle it self).1 ((settle it self).2, edge)
       (cleanup it p.1, p.2)) := rfl

/-- The cleanup changes the contacts and the slots only. -/
lemma cleanup_eq (it : Orders) (self : Pad) :
    ∃ slots contacts, cleanup it self = { self with slots := slots, contacts := contacts } :=
  foldl_drop_fields it _ self

/-- The cleanup does not look at the queued events. -/
lemma cleanup_queue (it : Orders) (self : Pad) (evs : List Event) :
    cleanup it (queue self evs) = queue (cleanup it self) evs := by
  have hfold : ∀ (l : List (Σ _ : ℕ, Contact)) (self : Pad),
      l.foldl (fun self e => if e.2.ended then dropContact it self e.1 else self)
          (queue self evs) =
        queue (l.foldl (fun self e => if e.2.ended then dropContact it self e.1 else self) self)
          evs := by
    intro l
    induction l with
    | nil => exact fun _ => rfl
    | cons e l ih =>
      intro self
      rw [List.foldl_cons, List.foldl_cons, ← ih]
      split_ifs <;> rfl
  exact hfold _ self

/-- The pad after a frame: the edge detector has a say in the last events only. -/
lemma runFrame_fst (p : Pad × Edge) (f : FrameInput) :
    (runFrame p f).1 = queue (cleanup f.orders (settle f.orders (fedPad p.1 f)).2)
      (buttonEvents (frameSource p.1 f) p.2) := by
  obtain ⟨edge, hbuttons, -⟩ :=
    queueButtons_eq (frameSource p.1 f) (settle f.orders (fedPad p.1 f)).2 p.2
  rw [runFrame, endFrame_eq, ← frameSource, hbuttons]
  exact cleanup_queue _ _ _

/-! ## Feeding in both modes -/

/-- Whether `feed_contact` does not ignore a report: it has both coordinates and, in multitouch
mode, a slot in range. -/
def Report.accepted (self : Pad) (r : Report) : Prop :=
  r.x ≠ none ∧ r.y ≠ none ∧
    (self.mode = .multitouch → ¬ (r.slotIndex < 0 ∨ self.maxSlots ≤ r.slotIndex))

instance (self : Pad) (r : Report) : Decidable (r.accepted self) :=
  inferInstanceAs (Decidable (_ ∧ _))

/-- Only events of absolute axes are queued. -/
def OnlyAbs (evs : List Event) : Prop := ∀ e ∈ evs, e.type = "EV_ABS"

/-- Absolute axes followed by absolute axes. -/
lemma OnlyAbs.append {l l' : List Event} (h : OnlyAbs l) (h' : OnlyAbs l') : OnlyAbs (l ++ l') :=
  fun e he => (List.mem_append.mp he).elim (h e) (h' e)

/-- Events of absolute axes are no key events. -/
lemma OnlyAbs.not_key {l : List Event} (h : OnlyAbs l) {c : String} :
    ∀ e ∈ l, e.type = "EV_KEY" → e.code ≠ c := by
  intro e he hkey
  rw [h e he] at hkey
  exact absurd hkey (by decide)

/-- What a `feed_contact` that counts does in both modes: it stores a contact that has the buttons
of the report and is seen, and queues no key events. -/
structure Stored (p p' : Pad) (r : Report) : Prop where
  mode : p'.mode = p.mode
  maxSlots : p'.maxSlots = p.maxSlots
  ended : p'.ended = p.ended
  tools : p'.toolKeysDown = p.toolKeysDown
  contacts : ∃ tid c, (∀ b : Button, c.button b = r.button b) ∧ c.seenThisFrame = true ∧
    p'.contacts = p.contacts.insert tid c
  events : ∃ evs, OnlyAbs evs ∧ p'.events = p.events ++ evs

/-- Storing the contact of a report. -/
lemma stored_storeContact (self : Pad) (tid : ℕ) (r : Report) (x y : ℚ) :
    Stored self (storeContact self tid r x y) r := by
  unfold storeContact
  split
  · exact ⟨rfl, rfl, rfl, rfl, ⟨tid, _, fun b => by cases b <;> rfl, rfl, rfl⟩,
      [], by simp [OnlyAbs], by simp⟩
  · next c _ =>
    exact ⟨rfl, rfl, rfl, rfl,
      ⟨tid, { r.toContact tid x y with id := c.id }, fun b => by cases b <;> rfl, rfl, rfl⟩,
      [], by simp [OnlyAbs], by simp⟩

/-- Queueing more absolute axes. -/
lemma Stored.queue {p p' : Pad} {r : Report} (h : Stored p p' r) {evs : List Event}
    (he : OnlyAbs evs) : Stored p (queue p' evs) r := by
  obtain ⟨evs', he', hevs'⟩ := h.events
  exact ⟨h.mode, h.maxSlots, h.ended, h.tools, h.contacts, evs' ++ evs, he'.append he,
    by simp [Touchpad.queue, hevs']⟩

/-- A report that is not accepted changes nothing. -/
lemma feedContact_rejected {self : Pad} {r : Report} (h : ¬ r.accepted self) :
    feedContact self r = self := by
  rcases hx : r.x with _ | x
  · simp only [feedContact, hx]
  · rcases hy : r.y with _ | y
    · simp only [feedContact, hx, hy]
    · rcases hm : self.mode with _ | _
      · exact absurd ⟨by simp [hx], by simp [hy], by simp [hm]⟩ h
      · have hrange : r.slotIndex < 0 ∨ self.maxSlots ≤ r.slotIndex := by
          by_contra hrange
          exact h ⟨by simp [hx], by simp [hy], fun _ => hrange⟩
        simp only [feedContact, hx, hy, hm, if_pos hrange]

/-- Looking up the tracking id of a contact leaves the contacts, the events and the tool keys
alone. -/
lemma slotTrackingId_eq (self : Pad) (slot : ℤ) : ∃ next slots, (slotTrackingId self slot).2 =
    { self with nextTrackingId := next, slots := slots } := by
  unfold slotTrackingId
  split
  · exact ⟨_, _, rfl⟩
  · exact ⟨_, _, rfl⟩

/-- The same for basic mode. -/
lemma basicTrackingId_eq (self : Pad) : ∃ next tid, (basicTrackingId self).2 =
    { self with nextTrackingId := next, basicTid := tid } := by
  unfold basicTrackingId
  split
  · exact ⟨_, _, rfl⟩
  · exact ⟨_, _, rfl⟩

/-- An accepted report stores its contact. -/
lemma feedContact_accepted {self : Pad} {r : Report} (h : r.accepted self) :
    Stored self (feedContact self r) r := by
  obtain ⟨hx, hy, hrange⟩ := h
  obtain ⟨x, hx⟩ := Option.ne_none_iff_exists'.mp hx
  obtain ⟨y, hy⟩ := Option.ne_none_iff_exists'.mp hy
  rcases hm : self.mode with _ | _
  · obtain ⟨next, tid, heq⟩ := basicTrackingId_eq self
    have h := stored_storeContact (basicTrackingId self).2 (basicTrackingId self).1 r x y
    simp only [feedContact, hx, hy, hm]
    rw [heq] at h ⊢
    exact ⟨h.mode, h.maxSlots, h.ended, h.tools, h.contacts, h.events⟩
  · obtain ⟨next, slots, heq⟩ := slotTrackingId_eq self r.slotIndex
    have h := stored_storeContact (slotTrackingId self r.slotIndex).2
      (slotTrackingId self r.slotIndex).1 r x y
    have habs : OnlyAbs (MTSlots.openSlot (r.slotIndex : ℚ)
        ((slotTrackingId self r.slotIndex).1 : ℚ) ++ positionEvents r x y) := by
      unfold positionEvents
      cases r.palm <;>
        simp [OnlyAbs, MTSlots.openSlot, MTSlots.selectSlot, MTSlots.trackingId]
    have h' : Stored (slotTrackingId self r.slotIndex).2 (feedContact self r) r := by
      simp only [feedContact, hx, hy, hm, if_neg (hrange hm)]
      split_ifs
      · exact h.queue habs
      · exact h
    rw [heq] at h'
    exact ⟨h'.mode, h'.maxSlots, h'.ended, h'.tools, h'.contacts, h'.events⟩

/-- What the reports of a frame leave behind: the contacts that have been seen have the buttons of
an accepted report, and no key event is queued. -/
structure Collected (p q : Pad) (reports : List Report) : Prop where
  mode : q.mode = p.mode
  maxSlots : q.maxSlots = p.maxSlots
  ended : q.ended = []
  tools : q.toolKeysDown = p.toolKeysDown
  buttons : ∀ t c, q.contacts.lookup t = some c → c.seenThisFrame = true →
    ∃ r ∈ reports, r.accepted p ∧ ∀ b : Button, c.button b = r.button b
  events : OnlyAbs q.events

/-- Acceptance depends on the mode and the number of slots only. -/
lemma accepted_congr {p q : Pad} (hm : q.mode = p.mode) (hs : q.maxSlots = p.maxSlots)
    (r : Report) : r.accepted q ↔ r.accepted p := by
  rw [Report.accepted, hm, hs, Report.accepted]

/-- **The reports of a frame**, by induction on them. -/
lemma collected_foldl (self : Pad) (reports : List Report) :
    Collected self (reports.foldl feedContact (beginFrame self)) reports := by
  induction reports using List.reverseRecOn with
  | nil =>
    refine ⟨rfl, rfl, rfl, rfl, fun t c hc hseen => ?_, by simp [OnlyAbs, beginFrame]⟩
    simp only [List.foldl_nil, beginFrame, Table.lookup_mapValues, Option.map_eq_some_iff] at hc
    obtain ⟨c', -, rfl⟩ := hc
    cases hseen
  | append_singleton reports r ih =>
    rw [List.foldl_append, List.foldl_cons, List.foldl_nil]
    set q := reports.foldl feedContact (beginFrame self)
    have hkeep : ∀ t c, q.contacts.lookup t = some c → c.seenThisFrame = true →
        ∃ r' ∈ reports ++ [r], r'.accepted self ∧ ∀ b : Button, c.button b = r'.button b := by
      intro t c hc hseen
      obtain ⟨r', hr', h⟩ := ih.buttons t c hc hseen
      exact ⟨r', List.mem_append_left _ hr', h⟩
    by_cases hr : r.accepted q
    · have hs := feedContact_accepted hr
      obtain ⟨tid, c, hbutton, -, hcontacts⟩ := hs.contacts
      obtain ⟨evs, habs, hevs⟩ := hs.events
      refine ⟨hs.mode.trans ih.mode, hs.maxSlots.trans ih.maxSlots, hs.ended.trans ih.ended,
        hs.tools.trans ih.tools, fun t c' hc' hseen => ?_,
        by rw [hevs]; exact ih.events.append habs⟩
      rw [hcontacts, Table.lookup_insert] at hc'
      split_ifs at hc'
      · obtain rfl := Option.some.inj hc'
        exact ⟨r, by simp, (accepted_congr ih.mode ih.maxSlots r).mp hr, hbutton⟩
      · exact hkeep t c' hc' hseen
    · rw [feedContact_rejected hr]
      exact ⟨ih.mode, ih.maxSlots, ih.ended, ih.tools, hkeep, ih.events⟩

/-! ## The tool keys -/

/-- The tool keys of a finger count are different. -/
lemma nodup_desiredDown (n : ℕ) : (desiredDown n).Nodup := by
  unfold desiredDown
  split <;> simp

/-- Releasing tool keys, for a loop over a list of entries. -/
lemma foldl_releaseTools (l : List (Σ _ : String, Bool)) (self : Pad) :
    ∃ tools, l.foldl (fun self e =>
        if e.1 ∈ desiredDown self.fingerCount then self
        else { queue self [key e.1 0] with toolKeysDown := self.toolKeysDown.erase e.1 }) self =
      { queue self (((l.map (·.1)).filter (· ∉ desiredDown self.fingerCount)).map (key · 0)) with
        toolKeysDown := tools } ∧
      ∀ c, c ∈ tools ↔
        c ∈ self.toolKeysDown ∧ (c ∈ l.map (·.1) → c ∈ desiredDown self.fingerCount) := by
  induction l generalizing self with
  | nil => exact ⟨self.toolKeysDown, by simp [queue], by simp⟩
  | cons e l ih =>
    rw [List.foldl_cons]
    by_cases he : e.1 ∈ desiredDown self.fingerCount
    · obtain ⟨tools, h, hmem⟩ := ih self
      rw [if_pos he]
      refine ⟨tools, by simp [h, he], fun c => ?_⟩
      rw [hmem, List.map_cons, List.mem_cons]
      refine and_congr_right fun _ => ⟨fun h hc => ?_, fun h hc => h (.inr hc)⟩
      rcases hc with rfl | hc
      · exact he
      · exact h hc
    · obtain ⟨tools, h, hmem⟩ :=
        ih { queue self [key e.1 0] with toolKeysDown := self.toolKeysDown.erase e.1 }
      rw [if_neg he]
      refine ⟨tools, h.trans ?_, fun c => ?_⟩
      · rw [List.map_cons, List.filter_cons_of_pos (by simpa using he)]
        simp only [queue, List.map_cons, List.append_assoc, List.singleton_append]
        rfl
      · rw [hmem, AList.mem_erase, List.map_cons, List.mem_cons]
        constructor
        · intro ⟨⟨hne, hc⟩, hl⟩
          exact ⟨hc, fun h' => h'.elim (fun h' => absurd h' hne) hl⟩
        · intro ⟨hc, hl⟩
          exact ⟨⟨fun h' => he (h' ▸ hl (.inl h')), hc⟩, fun h' => hl (.inr h')⟩

/-- Pressing tool keys, for a loop over a list of different codes. -/
lemma foldl_pressTools {l : List String} (hl : l.Nodup) (self : Pad) :
    ∃ tools, l.foldl (fun self code =>
        if code ∈ self.toolKeysDown then self
        else { queue self [key code 1] with
          toolKeysDown := self.toolKeysDown.insert code true }) self =
      { queue self ((l.filter (· ∉ self.toolKeysDown)).map (key · 1)) with
        toolKeysDown := tools } ∧
      ∀ c, c ∈ tools ↔ c ∈ self.toolKeysDown ∨ c ∈ l := by
  induction l generalizing self with
  | nil => exact ⟨self.toolKeysDown, by simp [queue], by simp⟩
  | cons code l ih =>
    obtain ⟨hnot, hl⟩ := List.nodup_cons.mp hl
    rw [List.foldl_cons]
    by_cases hc : code ∈ self.toolKeysDown
    · obtain ⟨tools, h, hmem⟩ := ih hl self
      rw [if_pos hc]
      refine ⟨tools, by simp [h, hc], fun c => ?_⟩
      rw [hmem, List.mem_cons]
      refine ⟨fun h => h.imp_right .inr, fun h => ?_⟩
      rcases h with h | rfl | h
      · exact .inl h
      · exact .inl hc
      · exact .inr h
    · obtain ⟨tools, h, hmem⟩ := ih hl
        { queue self [key code 1] with toolKeysDown := self.toolKeysDown.insert code true }
      have hfilter : l.filter (· ∉ self.toolKeysDown.insert code true) =
          l.filter (· ∉ self.toolKeysDown) := by
        refine List.filter_congr fun c hmem => ?_
        have hne : c ≠ code := fun h => hnot (h ▸ hmem)
        simp [AList.mem_insert, hne]
      rw [if_neg hc]
      refine ⟨tools, h.trans ?_, fun c => ?_⟩
      · rw [List.filter_cons_of_pos (by simpa using hc)]
        simp only [hfilter, queue, List.map_cons, List.append_assoc, List.singleton_append]
      · rw [hmem, AList.mem_insert, List.mem_cons]
        tauto

/-- **The tool keys of a frame.** Those that are no longer desired are released, those that are
desired and not down are pressed, and the desired ones are recorded. -/
lemma tools_eq (it : Orders) (self : Pad) :
    ∃ tools, ∃ r d : List String, r.Nodup ∧ d.Nodup ∧
      (∀ c, c ∈ r ↔ c ∈ self.toolKeysDown ∧ c ∉ desiredDown self.fingerCount) ∧
      (∀ c, c ∈ d ↔ c ∈ desiredDown self.fingerCount ∧ c ∉ self.toolKeysDown) ∧
      (∀ c, c ∈ tools ↔ c ∈ desiredDown self.fingerCount) ∧
      pressTools (releaseTools it self) =
        { queue self (r.map (key · 0) ++ d.map (key · 1)) with toolKeysDown := tools } := by
  have hkeys : ∀ c, c ∈ (it.tools.order self.toolKeysDown).map (·.1) ↔ c ∈ self.toolKeysDown :=
    fun c => ((it.tools.perm _).map Sigma.fst).mem_iff
  have hnodup : ((it.tools.order self.toolKeysDown).map (·.1)).Nodup :=
    ((it.tools.perm _).map Sigma.fst).nodup_iff.mpr self.toolKeysDown.nodupKeys
  obtain ⟨kept, hrelease, hkept⟩ := foldl_releaseTools (it.tools.order self.toolKeysDown) self
  rw [← releaseTools] at hrelease
  obtain ⟨tools, hpress, htools⟩ :=
    foldl_pressTools (nodup_desiredDown self.fingerCount) (releaseTools it self)
  rw [hrelease] at hpress htools
  simp only [hkeys] at hkept
  refine ⟨tools, _, _, hnodup.filter (· ∉ desiredDown self.fingerCount),
    (nodup_desiredDown self.fingerCount).filter (· ∉ kept), fun c => ?_, fun c => ?_, fun c => ?_,
    ?_⟩
  · rw [List.mem_filter, hkeys, decide_eq_true_eq]
  · rw [List.mem_filter, decide_eq_true_eq, hkept]
    exact and_congr_right fun hc => not_congr (and_iff_left fun _ => hc)
  · rw [htools]
    dsimp only
    rw [hkept]
    tauto
  · rw [pressTools, hrelease]
    exact hpress.trans (by simp [queue])

/-! ## Ending a frame in both modes -/

/-- What `end_frame` does up to the buttons: the finger count is set, the tool keys are those of
the finger count, and the key events are `BTN_TOUCH` and the change of the tool keys. -/
structure Settled (it : Orders) (p q : Pad) : Prop where
  ended : q.ended = (clearMissingContacts it p).ended
  tools : ∀ c, c ∈ q.toolKeysDown ↔ c ∈ desiredDown q.fingerCount
  events : ∃ (abs abs' : List Event) (r d : List String), OnlyAbs abs ∧ OnlyAbs abs' ∧
    r.Nodup ∧ d.Nodup ∧
    (∀ c, c ∈ r ↔ c ∈ p.toolKeysDown ∧ c ∉ desiredDown q.fingerCount) ∧
    (∀ c, c ∈ d ↔ c ∈ desiredDown q.fingerCount ∧ c ∉ p.toolKeysDown) ∧
    q.events = p.events ++ abs ++ [key "BTN_TOUCH" (if 0 < q.fingerCount then 1 else 0)] ++
      (r.map (key · 0) ++ d.map (key · 1)) ++ abs'

/-- The filter of the primary contact: it is a contact that has not ended. -/
lemma primary_live {contacts : Table ℕ Contact} {tid : Option ℕ} {c : Contact}
    (h : (tid.bind contacts.lookup).filter (fun c => !c.ended && c.touching) = some c) :
    ∃ t, contacts.lookup t = some c ∧ c.ended = false := by
  obtain ⟨hc, hlive⟩ := Option.filter_eq_some_iff.mp h
  obtain ⟨t, -, ht⟩ := Option.bind_eq_some_iff.mp hc
  simp only [Bool.and_eq_true, Bool.not_eq_true'] at hlive
  exact ⟨t, ht, hlive.1⟩

/-- Counting the fingers changes the primary slot and the count, and the primary contact has not
ended. -/
lemma countFingers_eq (it : Orders) (self : Pad) :
    ∃ primary slot n, countFingers it self =
        (primary, { self with primary := slot, fingerCount := n }) ∧
      ∀ c, primary = some c → ∃ t, self.contacts.lookup t = some c ∧ c.ended = false := by
  unfold countFingers
  split
  · exact ⟨_, _, _, rfl, fun c hc => primary_live hc⟩
  · exact ⟨_, _, _, rfl, fun c hc => primary_live hc⟩

/-- Queueing the position of the primary contact. -/
lemma queuePrimary_eq (primary : Option Contact) (self : Pad) :
    ∃ abs, OnlyAbs abs ∧ queuePrimary primary self = queue self abs := by
  cases primary with
  | none => exact ⟨[], by simp [OnlyAbs], by simp [queuePrimary, queue]⟩
  | some c => exact ⟨_, by simp [OnlyAbs], rfl⟩

/-- The closing events of the ended contacts, in multitouch mode. -/
lemma closeEnded_eq (it : Orders) (self : Pad) :
    ∃ abs, OnlyAbs abs ∧
      (if self.mode = .multitouch then closeEnded it self else self) = queue self abs := by
  split_ifs
  · refine ⟨_, fun e he => ?_, rfl⟩
    obtain ⟨s, -, he⟩ := List.mem_flatMap.mp he
    simp only [MTSlots.closeSlot, List.mem_cons, List.not_mem_nil, or_false] at he
    rcases he with rfl | rfl <;> rfl
  · exact ⟨[], by simp [OnlyAbs], by simp [queue]⟩

/-- The source is a contact that has not ended. -/
lemma buttonSource_live (it : Orders) {primary : Option Contact} {self : Pad}
    (hp : ∀ c, primary = some c → ∃ t, self.contacts.lookup t = some c ∧ c.ended = false)
    {c : Contact} (h : buttonSource it primary self = some c) :
    ∃ t, self.contacts.lookup t = some c ∧ c.ended = false := by
  unfold buttonSource at h
  rcases hprimary : primary with _ | c'
  · rw [hprimary] at h
    obtain ⟨⟨t, c⟩, hfind, rfl⟩ := Option.map_eq_some_iff.mp h
    refine ⟨t, it.contacts.mem_order.mp (List.mem_of_find?_eq_some hfind), ?_⟩
    simpa using List.find?_some hfind
  · rw [hprimary] at h
    exact hp c (hprimary.trans h)

/-- **`end_frame` up to the buttons.** -/
lemma settle_spec (it : Orders) (self : Pad) :
    Settled it self (settle it self).2 ∧
      ∀ c, (settle it self).1 = some c → ∃ t c', self.contacts.lookup t = some c' ∧
        c'.seenThisFrame = true ∧ ∀ b : Button, c.button b = c'.button b := by
  obtain ⟨abs, habs, hclose⟩ := closeEnded_eq it (clearMissingContacts it self)
  obtain ⟨primary, slot, n, hcount, hprimary⟩ :=
    countFingers_eq it (queue (clearMissingContacts it self) abs)
  set counted : Pad := { queue (clearMissingContacts it self) abs with
    primary := slot, fingerCount := n }
  obtain ⟨tools, r, d, hrn, hdn, hr, hd, htools, htool⟩ := tools_eq it (queueTouch counted)
  obtain ⟨abs', habs', hposition⟩ := queuePrimary_eq primary
    { queue (queueTouch counted) (r.map (key · 0) ++ d.map (key · 1)) with toolKeysDown := tools }
  have hsettle : settle it self =
      (let q := queue { queue (queueTouch counted) (r.map (key · 0) ++ d.map (key · 1)) with
        toolKeysDown := tools } abs'
       (buttonSource it primary q, q)) := by
    simp only [settle, hclose, hcount, htool, hposition]
  rw [hsettle]
  refine ⟨⟨rfl, htools, abs, abs', r, d, habs, habs', hrn, hdn, hr, hd, ?_⟩, fun c hc => ?_⟩
  · rfl
  · obtain ⟨t, ht, hend⟩ := buttonSource_live it (fun c hc => hprimary c hc) hc
    have ht' : (clearMissingContacts it self).contacts.lookup t = some c := ht
    rw [clearMissing_contacts, Option.map_eq_some_iff] at ht'
    obtain ⟨c', hc', rfl⟩ := ht'
    refine ⟨t, c', hc', ?_, fun b => by cases b <;> rfl⟩
    simp only [Contact.stays, Bool.not_eq_false', Bool.and_eq_true] at hend
    exact hend.2

/-- **The source has the buttons of a report of the frame.** -/
lemma frameSource_fed {self : Pad} {f : FrameInput} {c : Contact}
    (h : frameSource self f = some c) :
    ∃ r ∈ f.reports, r.accepted self ∧ ∀ b : Button, c.button b = r.button b := by
  obtain ⟨t, c', hc', hseen, hb⟩ := (settle_spec f.orders (fedPad self f)).2 c h
  obtain ⟨r, hr, hacc, hb'⟩ := (collected_foldl self f.reports).buttons t c' hc' hseen
  exact ⟨r, hr, hacc, fun b => (hb b).trans (hb' b)⟩

/-- The list `ended` of a frame: the contacts that were not fed, in the order of the loop. -/
lemma runFrame_ended (p : Pad × Edge) (f : FrameInput) :
    (runFrame p f).1.ended =
      ((f.orders.contacts.order (fedPad p.1 f).contacts).filter fun e =>
        !e.2.seenThisFrame).map (·.1) := by
  obtain ⟨slots, contacts, hclean⟩ := cleanup_eq f.orders (settle f.orders (fedPad p.1 f)).2
  have hended := (settle_spec f.orders (fedPad p.1 f)).1.ended
  have hnil : (fedPad p.1 f).ended = [] := (collected_foldl p.1 f.reports).ended
  rw [runFrame_fst, hclean]
  apply hended.trans
  simp only [clearMissingContacts, hnil, List.nil_append]

/-- **The events of a frame** in both modes. -/
lemma runFrame_events (p : Pad × Edge) (f : FrameInput) :
    (∀ c, c ∈ (runFrame p f).1.toolKeysDown ↔ c ∈ desiredDown (runFrame p f).1.fingerCount) ∧
      (∀ b : Button, (runFrame p f).2.down b.id =
        ((frameSource p.1 f).bind (·.button b)).getD (p.2.down b.id)) ∧
      ∃ (abs abs' : List Event) (r d : List String), OnlyAbs abs ∧ OnlyAbs abs' ∧
        r.Nodup ∧ d.Nodup ∧
        (∀ c, c ∈ r ↔ c ∈ p.1.toolKeysDown ∧ c ∉ desiredDown (runFrame p f).1.fingerCount) ∧
        (∀ c, c ∈ d ↔ c ∈ desiredDown (runFrame p f).1.fingerCount ∧ c ∉ p.1.toolKeysDown) ∧
        (runFrame p f).1.events =
          abs ++ [key "BTN_TOUCH" (if 0 < (runFrame p f).1.fingerCount then 1 else 0)] ++
            (r.map (key · 0) ++ d.map (key · 1)) ++ abs' ++
            buttonEvents (frameSource p.1 f) p.2 := by
  obtain ⟨hs, -⟩ := settle_spec f.orders (fedPad p.1 f)
  have hc := collected_foldl p.1 f.reports
  obtain ⟨edge, hbuttons, hdown⟩ :=
    queueButtons_eq (frameSource p.1 f) (settle f.orders (fedPad p.1 f)).2 p.2
  obtain ⟨slots, contacts, hclean⟩ := cleanup_eq f.orders
    (queue (settle f.orders (fedPad p.1 f)).2 (buttonEvents (frameSource p.1 f) p.2))
  have hrun : runFrame p f =
      ({ queue (settle f.orders (fedPad p.1 f)).2 (buttonEvents (frameSource p.1 f) p.2) with
        slots := slots, contacts := contacts }, edge) := by
    rw [runFrame, endFrame_eq, ← frameSource, hbuttons, ← hclean]
  obtain ⟨abs, abs', r, d, habs, habs', hrn, hdn, hr, hd, hevents⟩ := hs.events
  rw [hrun]
  refine ⟨hs.tools, hdown, (fedPad p.1 f).events ++ abs, abs', r, d,
    OnlyAbs.append hc.events habs, habs', hrn, hdn, ?_, ?_, ?_⟩
  · rw [← hc.tools]; exact hr
  · rw [← hc.tools]; exact hd
  · exact congrArg (· ++ _) hevents

end Aelkey.Touchpad
