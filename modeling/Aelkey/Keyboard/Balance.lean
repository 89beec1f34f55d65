import Aelkey.Keyboard.Remapper
import Aelkey.Lib.Run

set_option relaxedAutoImplicit false
set_option autoImplicit false

/-!
# The remapper never unbalances an output key

The mapping of a press is chosen under one Fn state and undone under another. What keeps the
output balanced is that the release undoes the *stored* mapping: the net count of an output code
is the number of times it occurs in the mappings stored in `active_keys`, placeholders aside.

## Main definitions

* `Aelkey.Keyboard.Call`, `Aelkey.Keyboard.Op` — the calls of the module, and the single events
  and other steps they consist of.
* `Aelkey.Keyboard.Session` — an instance with every event it has appended so far.
* `Aelkey.Keyboard.asserted` — how often the stored mappings name a code.

## Main results

* `Aelkey.Keyboard.balanced_of_alternating` — the net count of every code is its asserted count
  after every event of every run in which no active code is pressed again.
-/

namespace Aelkey.Keyboard

open Evdev

/-- A call of the module. -/
inductive Call
  | beginFrame
  | feedEvents (events : Option (List KeyEvent))
  | feedKey (event : Option KeyEvent)
  | endFrame
  | emitEvents
  | setFnDown (down : Bool)

/-- The effect of a call on the instance. -/
def call (self : Remapper) : Call → Remapper
  | .beginFrame => beginFrame self
  | .feedEvents events => feedEvents self events
  | .feedKey event => feedKey self event
  | .endFrame => endFrame self
  | .emitEvents => (emitEvents self).2
  | .setFnDown down => setFnDown self down

/-- A step of a run: a single event, or a call that feeds none. -/
inductive Op
  | beginFrame
  | event (e : KeyEvent)
  | endFrame
  | emitEvents
  | setFnDown (down : Bool)

/-- The steps of a call. -/
def Call.ops : Call → List Op
  | .beginFrame => [.beginFrame]
  | .feedEvents events => (events.getD []).map .event
  | .feedKey event => event.toList.map .event
  | .endFrame => [.endFrame]
  | .emitEvents => [.emitEvents]
  | .setFnDown down => [.setFnDown down]

/-- The effect of a step on the instance. -/
def Op.run (self : Remapper) : Op → Remapper
  | .beginFrame => Keyboard.beginFrame self
  | .event e => feedEvent self e
  | .endFrame => Keyboard.endFrame self
  | .emitEvents => (Keyboard.emitEvents self).2
  | .setFnDown down => Keyboard.setFnDown self down

/-- A call does what its steps do one after the other. -/
lemma call_eq_foldl (self : Remapper) (c : Call) : call self c = c.ops.foldl Op.run self := by
  cases c with
  | feedEvents events => cases events <;> simp [call, feedEvents, Call.ops, List.foldl_map, Op.run]
  | feedKey event => cases event <;> simp [call, feedKey, feedEvents, Call.ops, Op.run]
  | _ => rfl

/-- An instance and every event it has appended to its buffer so far, over all frames. -/
structure Session where
  kb : Remapper
  log : List KeyEvent

namespace Session

/-- The events a step appends to the buffer. Only an event that is fed appends any. -/
def appended (kb : Remapper) : Op → List KeyEvent
  | .event e => (feedEvent kb e).buffer.drop kb.buffer.length
  | _ => []

/-- One step of a session. -/
def step (s : Session) (op : Op) : Session := ⟨op.run s.kb, s.log ++ appended s.kb op⟩

/-- A new instance with the given maps. -/
def start (normal modifier fn : Table String Mapping) : Session :=
  ⟨{ normalMap := normal, modifierMap := modifier, fnMap := fn }, []⟩

/-- The instance of a session is the one its steps make, whatever was appended before. -/
lemma foldl_step_kb (s : Session) (ops : List Op) :
    (ops.foldl step s).kb = ops.foldl Op.run s.kb := by
  induction ops generalizing s with
  | nil => rfl
  | cons op ops ih => exact ih (step s op)

end Session

open Session

/-- A session over the steps of some calls ends with the instance that the calls make. -/
theorem session_kb_eq (s : Session) (calls : List Call) :
    ((calls.flatMap Call.ops).foldl step s).kb = calls.foldl call s.kb := by
  rw [foldl_step_kb]
  generalize s.kb = kb
  induction calls generalizing kb with
  | nil => rfl
  | cons c calls ih =>
    rw [List.flatMap_cons, List.foldl_append, ← call_eq_foldl, ih, List.foldl_cons]

/-- How often the stored mappings name the code `c`, Fn placeholders aside. -/
def asserted (active : Table String (List String)) (c : String) : ℕ :=
  Table.weight (fun mapped => if isFnPlaceholder mapped then 0 else mapped.count c) active

/-- The kernel's guarantee for a step: no press of a code that is still active. -/
def Alternating (s : Session) : Op → Prop
  | .event e => e.type = "EV_KEY" → e.value = 1 → e.code ∉ s.kb.activeKeys
  | _ => True

instance (s : Session) : DecidablePred (Alternating s)
  | .event e => inferInstanceAs (Decidable (e.type = "EV_KEY" → e.value = 1 → _))
  | .beginFrame | .endFrame | .emitEvents | .setFnDown _ => .isTrue trivial

/-- The net count of every code is its asserted count; with no active key, every code has been
released as often as it was pressed. -/
structure Balanced (s : Session) : Prop where
  net_eq : ∀ c, net c s.log = asserted s.kb.activeKeys c
  settled : s.kb.activeKeys = ∅ → ∀ c, releases c s.log = presses c s.log

/-- The second part of balance follows from the first. -/
lemma balanced_of_net {s : Session} (h : ∀ c, net c s.log = asserted s.kb.activeKeys c) :
    Balanced s := by
  refine ⟨h, fun hempty c => ?_⟩
  have hc := h c
  rw [hempty] at hc
  simp only [net, asserted, Table.weight_empty] at hc
  omega

/-- A press of an inactive code keeps the counts equal.

**Proof sketch.** By `press_cases`: nothing happens, a placeholder of weight zero is stored, or the
codes that are pressed are those of the new entry. -/
lemma net_press {kb : Remapper} {log : List KeyEvent} {code : String}
    (h : ∀ c, net c log = asserted kb.activeKeys c) (hnew : code ∉ kb.activeKeys) (c : String) :
    net c (log ++ (press kb code).buffer.drop kb.buffer.length) =
      asserted (press kb code).activeKeys c := by
  rcases press_cases kb code with hp | hp | ⟨mapped, hm, hp⟩
  · simp [hp, h]
  · simp [hp, h, asserted, Table.weight_insert _ hnew, isFnPlaceholder]
  · have hdrop : (press kb code).buffer.drop kb.buffer.length = mapped.map (key · 1) := by
      simp [hp]
    rw [hdrop, net_append, net_map_keyPress, h, hp]
    simp only [asserted]
    rw [Table.weight_insert _ hnew]
    simp [hm, add_comm]

/-- A release keeps the counts equal.

**Proof sketch.** By `release_cases`: nothing happens, a placeholder of weight zero is removed, or
the codes that are released are those of the removed entry. -/
lemma net_release {kb : Remapper} {log : List KeyEvent} {code : String}
    (h : ∀ c, net c log = asserted kb.activeKeys c) (c : String) :
    net c (log ++ (release kb code).buffer.drop kb.buffer.length) =
      asserted (release kb code).activeKeys c := by
  rcases release_cases kb code with ⟨-, hr⟩ | ⟨mapped, hl, ⟨hm, hr⟩ | ⟨hm, hr⟩⟩
  · simp [hr, h]
  · have hw := Table.weight_erase
      (fun mapped => if isFnPlaceholder mapped then 0 else mapped.count c) hl
    simp only [hm, ↓reduceIte, zero_add] at hw
    simp [hr, h, asserted, hw]
  · have hw := Table.weight_erase
      (fun mapped => if isFnPlaceholder mapped then 0 else mapped.count c) hl
    have hdrop : (release kb code).buffer.drop kb.buffer.length =
        mapped.reverse.map (key · 0) := by simp [hr]
    rw [hdrop, net_append, net_map_keyRelease, h, hr, List.count_reverse]
    simp only [hm, Bool.false_eq_true, ↓reduceIte] at hw
    simp only [asserted]
    omega

/-- **A step keeps the balance** unless it presses an active code. -/
lemma balanced_step {s : Session} {op : Op} (h : Balanced s) (hop : Alternating s op) :
    Balanced (step s op) := by
  refine balanced_of_net fun c => ?_
  cases op with
  | event e =>
    simp only [step, appended, Op.run, feedEvent]
    split_ifs with hkey hpress
    · exact net_press h.net_eq (hop hkey.1 hpress) c
    · exact net_release h.net_eq c
    · simpa using h.net_eq c
  | _ => simpa [step, appended, Op.run, beginFrame, endFrame, emitEvents, setFnDown] using
      h.net_eq c

/-- **The remapper never unbalances an output key.** For all three maps and every run of calls in
which no active code is pressed again, after every event the net count of every code is the
number of its occurrences in the stored mappings that are not placeholders.

**Proof sketch.** A new instance has appended nothing and stored nothing, and `balanced_step`
carries the balance over every step. -/
theorem balanced_of_alternating (normal modifier fn : Table String Mapping) (calls : List Call)
    (h : Run.EachStep step Alternating (start normal modifier fn) (calls.flatMap Call.ops)) :
    Run.Always step Balanced (start normal modifier fn) (calls.flatMap Call.ops) :=
  Run.always_of_step (fun _ _ hb hop => balanced_step hb hop)
    (balanced_of_net fun _ => rfl) h

/-- Fn is pressed while `KEY_A`, mapped to two codes with Fn up, is held; `KEY_A` is released under
Fn, and Fn after it. -/
theorem balanced_of_alternating_fn :
    Run.Always step Balanced (start
        ((∅ : Table String Mapping).insert "KEY_A" (.codes ["KEY_LEFTCTRL", "KEY_C"])) ∅ ∅)
      ([.beginFrame, .feedEvents (some [key "KEY_A" 1, key "KEY_FN" 1]), .emitEvents,
        .feedKey (some (key "KEY_A" 0)), .feedKey (some (key "KEY_FN" 0))].flatMap Call.ops) :=
  balanced_of_alternating _ _ _ _ (by decide)

end Aelkey.Keyboard
