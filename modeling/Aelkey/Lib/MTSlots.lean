import Aelkey.Lib.Evdev
import Aelkey.Lib.Table

set_option relaxedAutoImplicit false
set_option autoImplicit false

/-!
# The multitouch slot protocol, receiver side

The receiver of a multitouch stream keeps a current slot and, for every slot, a tracking id or
none. `ABS_MT_SLOT` selects a slot; `ABS_MT_TRACKING_ID` gives the current slot an id, or takes it
away if the value is `-1`. Every other event leaves this state alone.

## Main definitions

* `MTSlots.State` — the current slot and the tracking ids of the open slots.
* `MTSlots.replay` — the state after a stream of events.
* `MTSlots.openSlot`, `MTSlots.closeSlot` — the events that open or close one slot.

## Main results

* `MTSlots.replay_openSlot`, `MTSlots.lookup_replay_closeSlots` — their effects.
* `MTSlots.replay_neutral` — a stream of other events has none.
-/

namespace MTSlots

open Evdev

variable {ν : Type*} [DecidableEq ν] [Neg ν] [One ν]

/-- The receiver's state: the current slot and the open slots with their tracking ids. -/
structure State (ν : Type*) where
  current : ν
  ids : Table ν ν

/-- The event that selects slot `s`. -/
def selectSlot (s : ν) : InputEvent ν := ⟨"EV_ABS", "ABS_MT_SLOT", s⟩

/-- The event that gives the current slot the tracking id `t`. -/
def trackingId (t : ν) : InputEvent ν := ⟨"EV_ABS", "ABS_MT_TRACKING_ID", t⟩

/-- One event. -/
def feed (k : State ν) (e : InputEvent ν) : State ν :=
  if e.type = "EV_ABS" ∧ e.code = "ABS_MT_SLOT" then { k with current := e.value }
  else if e.type = "EV_ABS" ∧ e.code = "ABS_MT_TRACKING_ID" then
    if e.value = -1 then { k with ids := k.ids.erase k.current }
    else { k with ids := k.ids.insert k.current e.value }
  else k

/-- A stream of events. -/
def replay (k : State ν) (l : List (InputEvent ν)) : State ν := l.foldl feed k

/-- An event of the protocol. -/
def IsMT (e : InputEvent ν) : Prop :=
  e.type = "EV_ABS" ∧ (e.code = "ABS_MT_SLOT" ∨ e.code = "ABS_MT_TRACKING_ID")

instance : DecidablePred (IsMT (ν := ν)) := fun _ => inferInstanceAs (Decidable (_ ∧ _))

/-- Replaying one stream after another. -/
lemma replay_append (k : State ν) (l₁ l₂ : List (InputEvent ν)) :
    replay k (l₁ ++ l₂) = replay (replay k l₁) l₂ := List.foldl_append

/-- A stream without protocol events changes nothing. -/
lemma replay_neutral (k : State ν) (l : List (InputEvent ν)) (h : ∀ e ∈ l, ¬ IsMT e) :
    replay k l = k := by
  induction l generalizing k with
  | nil => rfl
  | cons e l ih =>
    have he := h e List.mem_cons_self
    have hfeed : feed k e = k := by
      simp only [IsMT, not_and, not_or] at he
      unfold feed
      rw [if_neg (fun hc => (he hc.1).1 hc.2), if_neg (fun hc => (he hc.1).2 hc.2)]
    have hl := ih (feed k e) fun x hx => h x (List.mem_cons_of_mem _ hx)
    rw [hfeed] at hl
    simpa [replay, hfeed] using hl

/-- Select slot `s` and give it the tracking id `t`. -/
def openSlot (s t : ν) : List (InputEvent ν) := [selectSlot s, trackingId t]

/-- Select slot `s` and take its tracking id away. -/
def closeSlot (s : ν) : List (InputEvent ν) := [selectSlot s, trackingId (-1)]

/-- Opening a slot. -/
lemma replay_openSlot (k : State ν) (s : ν) {t : ν} (ht : t ≠ -1) :
    replay k (openSlot s t) = ⟨s, k.ids.insert s t⟩ := by
  simp [replay, openSlot, feed, selectSlot, trackingId, ht]

/-- Closing a slot. -/
lemma replay_closeSlot (k : State ν) (s : ν) :
    replay k (closeSlot s) = ⟨s, k.ids.erase s⟩ := by
  simp [replay, closeSlot, feed, selectSlot, trackingId]

/-- Closing a list of slots: exactly they lose their tracking ids. -/
lemma lookup_replay_closeSlots (k : State ν) (slots : List ν) (q : ν) :
    (replay k (slots.flatMap closeSlot)).ids.lookup q =
      if q ∈ slots then none else k.ids.lookup q := by
  induction slots generalizing k with
  | nil => simp [replay]
  | cons s slots ih =>
    rw [List.flatMap_cons, replay_append, ih, replay_closeSlot, Table.lookup_erase]
    by_cases hs : q = s
    · simp [hs]
    · simp [hs]

end MTSlots
