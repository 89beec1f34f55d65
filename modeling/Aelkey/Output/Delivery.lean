import Aelkey.Keyboard.Balance
import Aelkey.Output.Uinput

set_option relaxedAutoImplicit false
set_option autoImplicit false

/-!
# From the buffer of a keyboard to the virtual devices

`emit_events` of `aelkey_keyboard.lua` calls `emit` for every event of the buffer and clears the
buffer afterwards. `emit` raises when it does not find its device, and then the buffer stays. The
devices do not change while the loop runs, so it raises at the first event or not at all: what was
handed to `emit` once is not handed to it again. There are two ways to lose an event: `begin_frame`
clears the buffer too, and libevdev writes no event with a name that it does not know.

## Main definitions

* `Aelkey.Output.emitEach` — the loop of `emit_events`, with what has been written when it raises.
* `Aelkey.Output.remapFrame` — the callback of a keyboard.
* `Aelkey.Output.Desk`, `Aelkey.Output.deskStep` — an instance with the virtual devices.
* `Aelkey.Output.Delivered` — every event that was queued has been handed to `emit` once, in this
  order, or is still in the buffer; and what libevdev knows of it has been written.

## Main results

* `Aelkey.Output.emitEach_eq` — the loop writes all events to one device, or none.
* `Aelkey.Output.delivered_iff_emptied` — events are delivered in every state of a run iff every
  `begin_frame` finds an empty buffer.
-/

namespace Aelkey.Output

open Evdev Keyboard

/-! ## The loop of `emit_events` -/

/-- The loop of `emit_events`: the devices, and whether it came to its end. -/
def emitEach (outputs : Outputs) (device : Option String) : List (InputEvent ℤ) → Outputs × Bool
  | [] => (outputs, true)
  | e :: es =>
    match coreEmit outputs device e with
    | .ok outputs => emitEach outputs device es
    | .error _ => (outputs, false)

/-- `emit_events`: the buffer is cleared after the loop. -/
def emitEvents (outputs : Outputs) (device : Option String) (kb : Remapper) :
    Outputs × Remapper × Bool :=
  match emitEach outputs device kb.buffer with
  | (outputs, true) => (outputs, (Keyboard.emitEvents kb).2, true)
  | (outputs, false) => (outputs, kb, false)

/-- Write several events to the device of an id. -/
def writeEvents (outputs : Outputs) (id : String) (es : List (InputEvent ℤ)) : Outputs :=
  es.foldl (fun outputs e => writeEvent outputs id e) outputs

/-- A device after an event has been written to one of them. -/
lemma lookup_writeEvent (outputs : Outputs) (id id' : String) (e : InputEvent ℤ) :
    (writeEvent outputs id e).lookup id' =
      if id' = id then (outputs.lookup id).map (·.write e) else outputs.lookup id' := by
  unfold writeEvent
  rcases h : outputs.lookup id with _ | u
  · dsimp only
    split_ifs with he
    · rw [he, h, Option.map_none]
    · rfl
  · dsimp only
    rw [Table.lookup_insert, Option.map_some]

/-- A device after several events have been written to one of them. -/
lemma lookup_writeEvents (outputs : Outputs) (id id' : String) (es : List (InputEvent ℤ)) :
    (writeEvents outputs id es).lookup id' =
      if id' = id then
        (outputs.lookup id).map fun u => { u with calls := u.calls ++ es }
      else outputs.lookup id' := by
  induction es generalizing outputs with
  | nil =>
    split_ifs with he
    · rw [he]
      simp [writeEvents]
    · rfl
  | cons e es ih =>
    rw [show writeEvents outputs id (e :: es) = writeEvents (writeEvent outputs id e) id es
      from rfl, ih, lookup_writeEvent, lookup_writeEvent, if_pos rfl]
    split_ifs
    · rw [Option.map_map]
      refine congrArg (Option.map · _) ?_
      funext u
      simp [Uinput.write]
    · rfl

/-- The only device of a table with one entry. -/
lemma lookup_of_entries {outputs : Outputs} {entry : Σ _ : String, Uinput}
    (h : outputs.entries = [entry]) : outputs.lookup entry.1 = some entry.2 := by
  rw [AList.lookup, h]
  exact List.dlookup_cons_eq _ _ _

/-- Writing to the only device leaves it the only one. -/
lemma entries_writeEvent {outputs : Outputs} {entry : Σ _ : String, Uinput}
    (h : outputs.entries = [entry]) (e : InputEvent ℤ) :
    (writeEvent outputs entry.1 e).entries = [⟨entry.1, entry.2.write e⟩] := by
  have hentries : (outputs.insert entry.1 (entry.2.write e)).entries =
      ⟨entry.1, entry.2.write e⟩ :: List.kerase entry.1 outputs.entries := rfl
  simp only [writeEvent, lookup_of_entries h]
  rw [hentries, h, List.kerase_cons_eq rfl]

/-- Writing to the device that is chosen does not change the choice. -/
lemma emitTarget_writeEvent {outputs : Outputs} {device : Option String} {id : String}
    (h : emitTarget outputs device = .ok id) (e : InputEvent ℤ) :
    emitTarget (writeEvent outputs id e) device = .ok id := by
  rcases device with _ | id'
  · unfold emitTarget at h
    dsimp only at h
    split at h
    · next entry hentries =>
      obtain rfl := Except.ok.inj h
      simp only [emitTarget, entries_writeEvent hentries e]
    · cases h
  · simp only [emitTarget] at h ⊢
    split_ifs at h with hmem
    obtain rfl := Except.ok.inj h
    obtain ⟨u, hu⟩ := Table.mem_iff_lookup.mp hmem
    have hlookup : (writeEvent outputs id' e).lookup id' = some (u.write e) := by
      rw [lookup_writeEvent, if_pos rfl, hu, Option.map_some]
    rw [if_pos (Table.mem_of_lookup hlookup)]

/-- **All or nothing.** The loop writes all events to the device that the first one chooses, or it
raises before anything is written.

**Proof sketch.** Induction on the events: writing to the chosen device does not change the
choice. -/
lemma emitEach_eq (outputs : Outputs) (device : Option String) (es : List (InputEvent ℤ)) :
    emitEach outputs device es =
      match emitTarget outputs device with
      | .ok id => (writeEvents outputs id es, true)
      | .error _ => (outputs, es.isEmpty) := by
  rcases h : emitTarget outputs device with message | id
  · cases es with
    | nil => rfl
    | cons e es => simp [emitEach, coreEmit, h, Except.map]
  · dsimp only
    induction es generalizing outputs with
    | nil => rfl
    | cons e es ih =>
      rw [emitEach, coreEmit, h]
      exact ih _ (emitTarget_writeEvent h e)

/-- The device that is chosen is there. -/
lemma mem_of_emitTarget {outputs : Outputs} {device : Option String} {id : String}
    (h : emitTarget outputs device = .ok id) : id ∈ outputs := by
  unfold emitTarget at h
  split at h
  · split at h
    · next entry hentries =>
      obtain rfl := Except.ok.inj h
      exact Table.mem_of_lookup (lookup_of_entries hentries)
    · cases h
  · split_ifs at h with hmem
    exact Except.ok.inj h ▸ hmem

/-- What `emit_events` hands to `emit`, with the device. -/
def emitted (outputs : Outputs) (device : Option String) (kb : Remapper) :
    List (String × KeyEvent) :=
  match emitTarget outputs device with
  | .ok id => kb.buffer.map fun e => (id, e)
  | .error _ => []

/-- What `emit_events` does: it writes the buffer to a device and clears it, or does nothing. -/
lemma emitEvents_cases (outputs : Outputs) (device : Option String) (kb : Remapper) :
    (∃ id ∈ outputs, emitted outputs device kb = kb.buffer.map (fun e => (id, e)) ∧
        emitEvents outputs device kb =
          (writeEvents outputs id kb.buffer, { kb with buffer := [] }, true)) ∨
      (emitted outputs device kb = [] ∧
        ∃ b, emitEvents outputs device kb = (outputs, kb, b)) := by
  unfold emitEvents emitted
  rw [emitEach_eq]
  rcases h : emitTarget outputs device with message | id
  · rcases hb : kb.buffer with _ | ⟨e, es⟩
    · refine .inr ⟨rfl, true, ?_⟩
      simp only [List.isEmpty_nil, Keyboard.emitEvents]
      rw [← hb]
    · exact .inr ⟨rfl, false, rfl⟩
  · exact .inl ⟨id, mem_of_emitTarget h, rfl, rfl⟩

/-- What `syn_report` does to a device. -/
lemma lookup_coreSynReport {outputs outputs' : Outputs} {device : Option String}
    (h : coreSynReport outputs device = .ok outputs') (id : String) :
    outputs'.lookup id = outputs.lookup id ∨
      outputs'.lookup id = (outputs.lookup id).map (·.write synReport) := by
  rcases device with _ | id'
  · obtain rfl := Except.ok.inj h
    exact .inr (Table.lookup_mapValues _ _ _)
  · simp only [coreSynReport] at h
    split_ifs at h
    obtain rfl := Except.ok.inj h
    rw [lookup_writeEvent]
    split_ifs with he
    · rw [he]
      exact .inr rfl
    · exact .inl rfl

/-! ## The callback of a keyboard -/

/-- An instance and the virtual devices. -/
structure Board where
  kb : Remapper
  outputs : Outputs

/-- A new instance, after `set_fn_down`. -/
def newKeyboard (normal modifier fn : Table String Mapping) (down : Bool) : Remapper :=
  setFnDown { normalMap := normal, modifierMap := modifier, fnMap := fn } down

/-- What a callback does with the events of a frame: `begin_frame`, `feed_events`, `end_frame`,
`emit_events` and `syn_report`. A call that raises ends it. -/
def remapFrame (device : String) (b : Board) (events : Option (List KeyEvent)) : Board :=
  let kb := Keyboard.endFrame (feedEvents (Keyboard.beginFrame b.kb) events)
  match emitEvents b.outputs (some device) kb with
  | (outputs, kb, true) =>
    match coreSynReport outputs (some device) with
    | .ok outputs => { kb, outputs }
    | .error _ => { kb, outputs }
  | (outputs, kb, false) => { kb, outputs }

/-- A frame when the device is there: nothing raises. -/
lemma remapFrame_eq {device : String} {b : Board} {u : Uinput}
    (hu : b.outputs.lookup device = some u) (events : Option (List KeyEvent)) :
    let kb := (events.getD []).foldl feedEvent (Keyboard.beginFrame b.kb)
    (remapFrame device b events).kb = { kb with buffer := [] } ∧
      (remapFrame device b events).outputs.lookup device =
        some { u with calls := u.calls ++ kb.buffer ++ [synReport] } := by
  intro kb
  have hfeed : Keyboard.endFrame (feedEvents (Keyboard.beginFrame b.kb) events) = kb := by
    cases events <;> rfl
  have htarget : emitTarget b.outputs (some device) = .ok device := by
    simp only [emitTarget, if_pos (Table.mem_of_lookup hu)]
  have hwritten : (writeEvents b.outputs device kb.buffer).lookup device =
      some { u with calls := u.calls ++ kb.buffer } := by
    rw [lookup_writeEvents, if_pos rfl, hu, Option.map_some]
  have hsyn : coreSynReport (writeEvents b.outputs device kb.buffer) (some device) =
      .ok (writeEvent (writeEvents b.outputs device kb.buffer) device synReport) := by
    simp only [coreSynReport, if_pos (Table.mem_of_lookup hwritten)]
  have hframe : remapFrame device b events =
      { kb := { kb with buffer := [] }
        outputs := writeEvent (writeEvents b.outputs device kb.buffer) device synReport } := by
    simp only [remapFrame, hfeed, emitEvents, emitEach_eq, htarget, hsyn, Keyboard.emitEvents]
  rw [hframe]
  refine ⟨rfl, ?_⟩
  rw [lookup_writeEvent, if_pos rfl, hwritten, Option.map_some, Uinput.write]

/-! ### Keys that are down on a device -/

/-- What the kernel passes on of a key are the calls for it, if the device supports it. -/
lemma isDown_passed (u : Uinput) (c : String) :
    IsDown c u.passed ↔ ("EV_KEY", c) ∈ u.dev.codes ∧ IsDown c u.calls := by
  have hfilter : ∀ e : InputEvent ℤ, (decide (e.type = "EV_KEY" ∧ e.code = c) &&
      decide (u.dev.Supports e)) =
        (decide (e.type = "EV_KEY" ∧ e.code = c) && decide (("EV_KEY", c) ∈ u.dev.codes)) := by
    intro e
    by_cases he : e.type = "EV_KEY" ∧ e.code = c
    · simp [Libevdev.Supports, he.1, he.2]
    · simp [he]
  unfold IsDown Uinput.passed
  rw [List.filter_filter]
  simp only [hfilter]
  by_cases hc : ("EV_KEY", c) ∈ u.dev.codes
  · simp [hc]
  · simp [hc]

/-- Events that are no key events do not matter for the keys. -/
lemma isDown_filter_key (l : List (InputEvent ℤ)) (c : String) :
    IsDown c (l.filter (·.type = "EV_KEY")) ↔ IsDown c l := by
  have hfilter : (l.filter (·.type = "EV_KEY")).filter (fun e => e.type = "EV_KEY" ∧ e.code = c) =
      l.filter fun e => e.type = "EV_KEY" ∧ e.code = c := by
    rw [List.filter_filter]
    refine List.filter_congr fun e _ => ?_
    by_cases he : e.type = "EV_KEY" <;> simp [he]
  rw [IsDown, hfilter, IsDown]

/-! ## Runs -/

/-- An instance, the virtual devices, and what `emit_events` has handed to `emit`, with the
devices. -/
structure Desk where
  session : Session
  outputs : Outputs
  sent : List (String × KeyEvent) := []

/-- What a script does with an instance and the devices. -/
inductive Task
  | beginFrame
  | event (e : KeyEvent)
  | endFrame
  | setFnDown (down : Bool)
  | emitEvents (device : Option String)
  | synReport (device : Option String)

/-- One step. -/
def deskStep (d : Desk) : Task → Desk
  | .beginFrame => { d with session := d.session.step .beginFrame }
  | .event e => { d with session := d.session.step (.event e) }
  | .endFrame => { d with session := d.session.step .endFrame }
  | .setFnDown down => { d with session := d.session.step (.setFnDown down) }
  | .emitEvents device =>
    { session := { d.session with kb := (emitEvents d.outputs device d.session.kb).2.1 }
      outputs := (emitEvents d.outputs device d.session.kb).1
      sent := d.sent ++ emitted d.outputs device d.session.kb }
  | .synReport device =>
    match coreSynReport d.outputs device with
    | .ok outputs => { d with outputs := outputs }
    | .error _ => d

/-- A new instance, with the devices of the output declarations. -/
def Desk.start (normal modifier fn : Table String Mapping) (known : String → String → Bool)
    (creatable : OutputDecl → Bool) (decls : List OutputDecl) : Desk :=
  { session := .start normal modifier fn, outputs := createOutputs known creatable decls ∅ }

/-- Every event that has been queued has been handed to `emit` once, in this order, or is in the
buffer; and what has been written to a device are the events that were emitted on it and whose names
libevdev knows. -/
structure Delivered (known : String → String → Bool) (d : Desk) : Prop where
  complete : d.sent.map (·.2) ++ d.session.kb.buffer = d.session.log
  present : ∀ p ∈ d.sent, p.1 ∈ d.outputs
  written : ∀ id u, d.outputs.lookup id = some u →
    (u.written known).filter (·.type ≠ "EV_SYN") =
      ((d.sent.filter (·.1 = id)).map (·.2)).filter fun e => known e.type e.code

/-- A frame begins with an empty buffer. -/
def Emptied (d : Desk) : Task → Prop
  | .beginFrame => d.session.kb.buffer = []
  | _ => True

instance (d : Desk) : DecidablePred (Emptied d)
  | .beginFrame => inferInstanceAs (Decidable (_ = _))
  | .event _ | .endFrame | .setFnDown _ | .emitEvents _ | .synReport _ => .isTrue trivial

/-- What holds in every state: the devices have got the calls for what has been emitted on them, and
the buffer has key events. -/
structure Kept (d : Desk) : Prop where
  present : ∀ p ∈ d.sent, p.1 ∈ d.outputs
  called : ∀ id u, d.outputs.lookup id = some u →
    u.calls.filter (·.type ≠ "EV_SYN") = (d.sent.filter (·.1 = id)).map (·.2)
  keys : ∀ e ∈ d.session.kb.buffer, e.type = "EV_KEY"

/-- Delivery, with what holds anyway. -/
lemma delivered_iff {known : String → String → Bool} {d : Desk} (h : Kept d) :
    Delivered known d ↔ d.sent.map (·.2) ++ d.session.kb.buffer = d.session.log := by
  refine ⟨fun hd => hd.complete, fun hc => ⟨hc, h.present, fun id u hu => ?_⟩⟩
  rw [← h.called id u hu, Uinput.written, List.filter_filter, List.filter_filter]
  refine List.filter_congr fun e _ => ?_
  by_cases he : e.type = "EV_SYN" <;> simp [he]

/-- An event appends key events to the buffer. -/
lemma buffer_feedEvent (kb : Remapper) (e : KeyEvent) :
    (feedEvent kb e).buffer = kb.buffer ++ Session.appended kb (.event e) ∧
      ∀ e' ∈ Session.appended kb (.event e), e'.type = "EV_KEY" := by
  have hkeys : ∀ (codes : List String) (v : ℤ), ∀ e' ∈ codes.map (key · v), e'.type = "EV_KEY" := by
    intro codes v e' he'
    obtain ⟨c, -, rfl⟩ := List.mem_map.mp he'
    rfl
  have happend : ∃ evs, (feedEvent kb e).buffer = kb.buffer ++ evs ∧
      ∀ e' ∈ evs, e'.type = "EV_KEY" := by
    have hnil : ∃ evs, kb.buffer = kb.buffer ++ evs ∧ ∀ e' ∈ evs, e'.type = "EV_KEY" :=
      ⟨[], (List.append_nil _).symm, by simp⟩
    unfold feedEvent
    split_ifs
    · rcases press_cases kb e.code with h | h | ⟨mapped, -, h⟩
      · rw [h]
        exact hnil
      · rw [h]
        exact hnil
      · rw [h]
        exact ⟨_, rfl, hkeys _ _⟩
    · rcases release_cases kb e.code with ⟨-, h⟩ | ⟨mapped, -, ⟨-, h⟩ | ⟨-, h⟩⟩
      · rw [h]
        exact hnil
      · rw [h]
        exact hnil
      · rw [h]
        exact ⟨_, rfl, hkeys _ _⟩
    · exact hnil
  obtain ⟨evs, h, hevs⟩ := happend
  have heq : Session.appended kb (.event e) = evs := by
    rw [Session.appended, h, List.drop_left]
  rw [heq]
  exact ⟨h, hevs⟩

/-- **Every step keeps what holds anyway.** -/
lemma Kept.step {d : Desk} (h : Kept d) (task : Task) : Kept (deskStep d task) := by
  cases task with
  | beginFrame => exact { h with keys := fun e he => by cases he }
  | event e =>
    obtain ⟨hbuffer, hkeys⟩ := buffer_feedEvent d.session.kb e
    refine { h with keys := fun e' he' => ?_ }
    rw [show (deskStep d (.event e)).session.kb.buffer = _ from hbuffer, List.mem_append] at he'
    exact he'.elim (h.keys e') (hkeys e')
  | endFrame => exact { h with }
  | setFnDown down => exact { h with }
  | emitEvents device =>
    simp only [deskStep]
    rcases emitEvents_cases d.outputs device d.session.kb with
      ⟨id, hid, hsent, hemit⟩ | ⟨hsent, b, hemit⟩
    · rw [hsent, hemit]
      have hmem : ∀ id', id' ∈ d.outputs → id' ∈ writeEvents d.outputs id d.session.kb.buffer := by
        intro id' hid'
        obtain ⟨u, hu⟩ := Table.mem_iff_lookup.mp hid'
        rw [Table.mem_iff_lookup, lookup_writeEvents]
        split_ifs with he
        · rw [← he, hu]
          exact ⟨_, rfl⟩
        · exact ⟨u, hu⟩
      refine ⟨fun p hp => ?_, fun id' u' hu' => ?_, fun e he => by cases he⟩
      · rcases List.mem_append.mp hp with hp | hp
        · exact hmem _ (h.present p hp)
        · obtain ⟨e, -, rfl⟩ := List.mem_map.mp hp
          exact hmem _ hid
      · rw [lookup_writeEvents] at hu'
        rw [List.filter_append, List.map_append]
        have hnot : d.session.kb.buffer.filter (·.type ≠ "EV_SYN") = d.session.kb.buffer := by
          rw [List.filter_eq_self]
          intro e he
          rw [h.keys e he]
          decide
        split_ifs at hu' with he
        · obtain ⟨u, hu, rfl⟩ := Option.map_eq_some_iff.mp hu'
          rw [List.filter_append, hnot, h.called id u hu, he]
          simp [List.filter_map, Function.comp_def]
        · rw [h.called id' u' hu']
          simp [List.filter_map, Function.comp_def, Ne.symm he]
    · rw [hsent, hemit, List.append_nil]
      exact { h with }
  | synReport device =>
    simp only [deskStep]
    split
    · next outputs heq =>
      have hlookup := lookup_coreSynReport heq
      refine ⟨fun p hp => ?_, fun id u' hu' => ?_, h.keys⟩
      · obtain ⟨u, hu⟩ := Table.mem_iff_lookup.mp (h.present p hp)
        rw [Table.mem_iff_lookup]
        rcases hlookup p.1 with hp' | hp'
        · exact ⟨u, hp'.trans hu⟩
        · exact ⟨u.write synReport, by rw [hp', hu, Option.map_some]⟩
      · rcases hlookup id with hid | hid
        · exact h.called id u' (hid ▸ hu')
        · rw [hid] at hu'
          obtain ⟨u, hu, rfl⟩ := Option.map_eq_some_iff.mp hu'
          rw [← h.called id u hu]
          simp [Uinput.write, synReport]
    · exact h

/-- **A step keeps events delivered iff it is no `begin_frame` of a buffer that has events.** -/
lemma delivered_step {known : String → String → Bool} {d : Desk} (hk : Kept d)
    (hd : Delivered known d) (task : Task) :
    Delivered known (deskStep d task) ↔ Emptied d task := by
  rw [delivered_iff (hk.step task)]
  have hc := hd.complete
  cases task with
  | beginFrame =>
    show d.sent.map (·.2) ++ [] = d.session.log ++ [] ↔ d.session.kb.buffer = []
    rw [← hc, List.append_nil, List.append_nil]
    simp
  | event e =>
    refine iff_of_true ?_ trivial
    show d.sent.map (·.2) ++ (feedEvent d.session.kb e).buffer = d.session.log ++ _
    rw [(buffer_feedEvent d.session.kb e).1, ← List.append_assoc, hc]
  | endFrame => exact iff_of_true (hc.trans (List.append_nil _).symm) trivial
  | setFnDown down => exact iff_of_true (hc.trans (List.append_nil _).symm) trivial
  | emitEvents device =>
    refine iff_of_true ?_ trivial
    simp only [deskStep]
    rcases emitEvents_cases d.outputs device d.session.kb with
      ⟨id, -, hsent, hemit⟩ | ⟨hsent, b, hemit⟩
    · rw [hsent, hemit, ← hc]
      simp [Function.comp_def]
    · rw [hsent, hemit, List.append_nil]
      exact hc
  | synReport device =>
    refine iff_of_true ?_ trivial
    simp only [deskStep]
    split
    · exact hc
    · exact hc

/-- There have been no calls for a new device. -/
lemma calls_createOutputs (known : String → String → Bool) (creatable : OutputDecl → Bool)
    (decls : List OutputDecl) {outputs : Outputs}
    (h : ∀ id u, outputs.lookup id = some u → u.calls = []) :
    ∀ id u, (createOutputs known creatable decls outputs).lookup id = some u → u.calls = [] := by
  induction decls generalizing outputs with
  | nil => exact h
  | cons out decls ih =>
    refine ih fun id u hu => ?_
    dsimp only at hu
    split_ifs at hu
    · exact h id u hu
    · rw [Table.lookup_insert] at hu
      split_ifs at hu
      · obtain rfl := Option.some.inj hu
        rfl
      · exact h id u hu
    · exact h id u hu

/-- **Events are delivered once, in order, unless a frame begins with events in the buffer.** For
all maps, all output declarations and every run of calls, in every state what `emit_events` has
handed to `emit`, over all devices, followed by the buffer is what has been queued, and what has
been written to a device are those of the events that were emitted on it whose names libevdev knows,
even where calls have raised, iff every `begin_frame` finds an empty buffer.

**Proof sketch.** `emit_events` emits the buffer on one device and clears it, or does neither; an
event appends to both sides, and `begin_frame` takes away what the buffer has. -/
theorem delivered_iff_emptied (normal modifier fn : Table String Mapping)
    (known : String → String → Bool) (creatable : OutputDecl → Bool) (decls : List OutputDecl)
    (tasks : List Task) :
    Run.Always deskStep (Delivered known) (Desk.start normal modifier fn known creatable decls)
        tasks ↔
      Run.EachStep deskStep Emptied (Desk.start normal modifier fn known creatable decls)
        tasks := by
  have hkept : Kept (Desk.start normal modifier fn known creatable decls) := by
    refine ⟨?_, fun id u hu => ?_, ?_⟩
    · intro p hp
      cases hp
    · rw [calls_createOutputs known creatable decls (fun id u hu => by cases hu) id u hu]
      rfl
    · intro e he
      cases he
  exact Run.always_iff_eachStep_of_step (I := Kept) (fun _ task hk _ _ => hk.step task)
    (fun _ task hk hd => delivered_step hk hd task) hkept ((delivered_iff hkept).mpr rfl) tasks

end Aelkey.Output
