import Aelkey.Device.Frames
import Aelkey.Keyboard.Held
import Aelkey.Output.Delivery

set_option relaxedAutoImplicit false
set_option autoImplicit false

/-!
# From an evdev keyboard to a virtual keyboard

The callback of an evdev keyboard gets the reports of the device one after the other, feeds each to
a remapper and emits what that makes of it on a virtual device. How the kernel's events are spread
over the wakeups of the event loop makes no difference to what is written, and once all keys are
released in what has been delivered, all keys of the virtual device are up, whatever the maps are
and however Fn has been switched in the meantime.

## Main definitions

* `Aelkey.Output.remapEvdev` — the callback.
* `Aelkey.Output.delivered`, `Aelkey.Output.changes` — the events of a stream as the callback gets
  them, and the presses and releases among them.
* `Aelkey.Output.PressesUp` — presses are of keys that are up.
* `Aelkey.Output.typed` — an instance that is fed all events at once.

## Main results

* `Aelkey.Output.owned_typed` — a code that is down belongs to a key that is held.
* `Aelkey.Output.released_of_released` — the virtual device from the stream of the keyboard.

## Design

An event whose code libevdev has no name for has the empty code. A keyboard repeats its keys with
the value 2, which the remapper ignores. The maps may have names that libevdev does not know, and
no event with such a name is written.
-/

namespace Aelkey.Output

open Evdev Keyboard

/-! ## The model -/

/-- An event of a report, as the remapper reads it. -/
def keyEvent (e : Device.EventTable) : KeyEvent := ⟨e.type, e.code, e.value⟩

/-- The callback of a keyboard. -/
def remapEvdev (device : String) (b : Board) (d : Device.Delivery) : Board :=
  remapFrame device b (some (d.events.map keyEvent))

/-- The events of a stream as the callback of a device gets them. -/
def delivered (names : Device.EventNames) (decl : Device.InputDecl)
    (l : List Device.InputEvent) : List KeyEvent :=
  l.map fun e => keyEvent (Device.eventTable names decl e)

/-- The presses and releases of a stream. -/
def changes (es : List KeyEvent) : List KeyEvent :=
  es.filter fun e => e.type = "EV_KEY" ∧ (e.value = 0 ∨ e.value = 1)

/-- No key is pressed while it is down. -/
def PressesUp (es : List KeyEvent) : Prop :=
  ∀ pre e, pre ++ [e] <+: es → e.value = 1 → ¬ IsDown e.code pre

/-- One more event. -/
lemma pressesUp_concat (es : List KeyEvent) (e : KeyEvent) :
    PressesUp (es ++ [e]) ↔ PressesUp es ∧ (e.value = 1 → ¬ IsDown e.code es) := by
  constructor
  · intro h
    exact ⟨fun pre e' hpre => h pre e' (hpre.trans (List.prefix_append _ _)),
      h es e List.prefix_rfl⟩
  · rintro ⟨h, he⟩ pre e' hpre
    rcases List.prefix_concat_iff.mp hpre with heq | hpre
    · obtain ⟨rfl, hlast⟩ := List.append_inj' heq rfl
      rwa [List.singleton_inj.mp hlast]
    · exact h pre e' hpre

/-- An instance that is fed all events at once, with all that it has appended. -/
def typed (new : Remapper) (es : List KeyEvent) : Keyboard.Session :=
  (es.map Op.event).foldl Keyboard.Session.step ⟨new, []⟩

/-! ## One event -/

section Typed

variable {new : Remapper}

/-- One more event. -/
lemma typed_concat (new : Remapper) (es : List KeyEvent) (e : KeyEvent) :
    typed new (es ++ [e]) = (typed new es).step (.event e) := by
  rw [typed, List.map_append, List.foldl_append]
  rfl

/-- Only key events are appended. -/
lemma typed_keys (new : Remapper) (es : List KeyEvent) :
    ∀ e ∈ (typed new es).log, e.type = "EV_KEY" := by
  induction es using List.reverseRecOn with
  | nil => exact fun e he => by cases he
  | append_singleton es e ih =>
    rw [typed_concat]
    exact fun e' he' => (List.mem_append.mp he').elim (ih e')
      ((buffer_feedEvent (typed new es).kb e).2 e')

/-- An event that is no press and no release has no effect. -/
lemma typed_changes (new : Remapper) (es : List KeyEvent) :
    typed new (changes es) = typed new es := by
  induction es using List.reverseRecOn with
  | nil => rfl
  | append_singleton es e ih =>
    rw [changes, List.filter_append, typed_concat, ← ih, List.filter_singleton]
    by_cases he : e.type = "EV_KEY" ∧ (e.value = 0 ∨ e.value = 1)
    · rw [decide_eq_true he, cond_true]
      exact typed_concat _ _ _
    · have hfeed : ∀ kb, feedEvent kb e = kb := fun kb => if_neg he
      have hstep : (typed new (changes es)).step (.event e) = typed new (changes es) := by
        simp only [Keyboard.Session.step, Keyboard.Session.appended, Op.run, hfeed,
          List.drop_length, List.append_nil]
      rw [decide_eq_false he, cond_false, List.append_nil, hstep, changes]

/-- The remapper does not look at its buffer. -/
lemma feedEvent_buffer (kb : Remapper) (e : KeyEvent) (buffer : List KeyEvent) :
    feedEvent { kb with buffer := buffer } e =
      { feedEvent kb e with
        buffer := buffer ++ Keyboard.Session.appended kb (.event e) } := by
  have hresolve : ∀ code, resolveMapping { kb with buffer := buffer } code =
      resolveMapping kb code := fun _ => rfl
  simp only [Keyboard.Session.appended, feedEvent]
  split_ifs
  · rw [press_eq, press_eq, hresolve]
    rcases (resolveMapping kb e.code).1 with _ | mapped
    · simp
    · simp
  · rw [release_eq, release_eq]
    rcases kb.activeKeys.lookup e.code with _ | mapped
    · simp
    · simp
  · simp

/-- Feeding events to an instance whose buffer has been cleared. -/
lemma foldl_feedEvent_typed (new : Remapper) (fed es : List KeyEvent) :
    es.foldl feedEvent { (typed new fed).kb with buffer := [] } =
      { (typed new (fed ++ es)).kb with
        buffer := (typed new (fed ++ es)).log.drop (typed new fed).log.length } ∧
      (typed new fed).log <+: (typed new (fed ++ es)).log := by
  induction es using List.reverseRecOn with
  | nil => simp
  | append_singleton es e ih =>
    obtain ⟨hkb, hlog⟩ := ih
    rw [List.foldl_append, hkb, List.foldl_cons, List.foldl_nil, ← List.append_assoc, typed_concat,
      feedEvent_buffer]
    refine ⟨?_, hlog.trans (List.prefix_append _ _)⟩
    simp only [Keyboard.Session.step, Op.run]
    rw [List.drop_append_of_le_length hlog.length_le]

/-! ## Keys that are held -/

/-- A code that is down is one of the mapping of a key, and the mappings that are stored are those
of keys that are held. -/
structure Owned (s : Keyboard.Session) (es : List KeyEvent) : Prop where
  owner : ∀ c, IsDown c s.log → ∃ k mapped, s.kb.activeKeys.lookup k = some mapped ∧
    isFnPlaceholder mapped = false ∧ c ∈ mapped
  held : ∀ k ∈ s.kb.activeKeys, IsDown k es

/-- A press. -/
lemma Owned.press {kb : Remapper} {log es : List KeyEvent} (h : Owned ⟨kb, log⟩ es) {k : String}
    (hk : ¬ IsDown k es) :
    Owned ⟨press kb k, log ++ (press kb k).buffer.drop kb.buffer.length⟩ (es ++ [key k 1]) := by
  have hdown : ∀ k', IsDown k' es → IsDown k' (es ++ [key k 1]) := by
    intro k' hk'
    rw [isDown_append_key]
    split_ifs
    · rfl
    · exact hk'
  rw [press_eq]
  rcases (resolveMapping kb k).1 with _ | mapped
  · dsimp only
    rw [List.drop_length, List.append_nil]
    exact ⟨h.owner, fun k' hk' => hdown k' (h.held k' hk')⟩
  · dsimp only
    rw [List.drop_left]
    refine ⟨fun c hc => ?_, fun k' hk' => ?_⟩
    · have hor : isFnPlaceholder mapped = false ∧ c ∈ mapped ∨ IsDown c log := by
        rcases hp : isFnPlaceholder mapped with _ | _
        · simpa [hp, isDown_append_presses] using hc
        · exact .inr (by simpa [hp] using hc)
      rcases hor with ⟨hp, hc⟩ | hc
      · exact ⟨k, mapped, AList.lookup_insert _, hp, hc⟩
      · obtain ⟨k', m, hk', hp, hm⟩ := h.owner c hc
        have hne : k' ≠ k := by
          rintro rfl
          exact hk (h.held k' (Table.mem_of_lookup hk'))
        refine ⟨k', m, ?_, hp, hm⟩
        dsimp only
        rw [Table.lookup_insert, if_neg hne]
        exact hk'
    · rcases (AList.mem_insert _).mp hk' with rfl | hk'
      · rw [isDown_append_key, if_pos rfl]
      · exact hdown k' (h.held k' hk')

/-- A release. -/
lemma Owned.release {kb : Remapper} {log es : List KeyEvent} (h : Owned ⟨kb, log⟩ es)
    (k : String) :
    Owned ⟨release kb k, log ++ (release kb k).buffer.drop kb.buffer.length⟩
      (es ++ [key k 0]) := by
  have hdown : ∀ k', k' ≠ k → IsDown k' es → IsDown k' (es ++ [key k 0]) := by
    intro k' hne hk'
    rwa [isDown_append_key, if_neg hne.symm]
  rw [release_eq]
  rcases hl : kb.activeKeys.lookup k with _ | mapped
  · dsimp only
    rw [List.drop_length, List.append_nil]
    refine ⟨h.owner, fun k' hk' => hdown k' ?_ (h.held k' hk')⟩
    rintro rfl
    exact AList.lookup_eq_none.mp hl hk'
  · dsimp only
    rw [List.drop_left]
    refine ⟨fun c hc => ?_, fun k' hk' => ?_⟩
    · have hand : IsDown c log ∧ (isFnPlaceholder mapped = false → c ∉ mapped) := by
        rcases hp : isFnPlaceholder mapped with _ | _
        · rw [hp, if_neg Bool.false_ne_true, isDown_append_releases, List.mem_reverse] at hc
          exact ⟨hc.2, fun _ => hc.1⟩
        · exact ⟨by simpa [hp] using hc, fun hf => absurd hf (by simp)⟩
      obtain ⟨k', m, hk', hp, hm⟩ := h.owner c hand.1
      have hne : k' ≠ k := by
        rintro rfl
        obtain rfl : m = mapped := Option.some.inj (hk'.symm.trans hl)
        exact hand.2 hp hm
      refine ⟨k', m, ?_, hp, hm⟩
      dsimp only
      rw [Table.lookup_erase, if_neg hne]
      exact hk'
    · obtain ⟨hne, hk'⟩ := AList.mem_erase.mp hk'
      exact hdown k' hne (h.held k' hk')

/-- **A code that is down belongs to a key that is held**, if no key is pressed while it is down. -/
lemma owned_typed (hnew : new.activeKeys = ∅) {es : List KeyEvent} (hes : OnlyKeys es)
    (hp : PressesUp es) : Owned (typed new es) es := by
  induction es using List.reverseRecOn with
  | nil =>
    refine ⟨fun c hc => ?_, fun k hk => ?_⟩
    · simp [typed, IsDown] at hc
    · rw [show (typed new []).kb.activeKeys = ∅ from hnew] at hk
      exact absurd hk (AList.notMem_empty _)
  | append_singleton es e ih =>
    obtain ⟨hp, he⟩ := (pressesUp_concat es e).mp hp
    have h := ih (fun e' he' => hes e' (List.mem_append_left _ he')) hp
    rw [typed_concat]
    obtain ⟨k, rfl | rfl⟩ := hes e (by simp)
    · exact h.press (he rfl)
    · exact h.release k

end Typed

/-! ## The deliveries -/

section Deliveries

variable {device : String} {dev : Libevdev} {new : Remapper} {outputs : Outputs}

/-- **The frames of a keyboard**, one after the other, are written to the device as if all their
events were fed at once. -/
lemma remapEvdev_foldl (hdev : outputs.lookup device = some { dev := dev })
    (hnew : new.buffer = []) (ds : List Device.Delivery) :
    (ds.foldl (remapEvdev device) ⟨new, outputs⟩).kb =
        { (typed new ((ds.flatMap (·.events)).map keyEvent)).kb with buffer := [] } ∧
      ∃ u, (ds.foldl (remapEvdev device) ⟨new, outputs⟩).outputs.lookup device = some u ∧
        u.dev = dev ∧ u.calls.filter (·.type = "EV_KEY") =
          (typed new ((ds.flatMap (·.events)).map keyEvent)).log := by
  induction ds using List.reverseRecOn with
  | nil =>
    refine ⟨?_, _, hdev, rfl, rfl⟩
    cases new
    subst hnew
    rfl
  | append_singleton ds d ih =>
    obtain ⟨hkb, u, hu, hudev, hwritten⟩ := ih
    rw [List.foldl_append, List.foldl_cons, List.foldl_nil]
    set b := ds.foldl (remapEvdev device) ⟨new, outputs⟩
    set fed := (ds.flatMap (·.events)).map keyEvent
    have hfed : ((ds ++ [d]).flatMap (·.events)).map keyEvent = fed ++ d.events.map keyEvent := by
      simp [fed, List.flatMap_append]
    obtain ⟨hframe, hlog⟩ := foldl_feedEvent_typed new fed (d.events.map keyEvent)
    obtain ⟨hkb', hu'⟩ := remapFrame_eq hu (some (d.events.map keyEvent))
    have hbegin : Keyboard.beginFrame b.kb = { (typed new fed).kb with buffer := [] } := by
      rw [hkb]
      rfl
    rw [hbegin, Option.getD_some, hframe] at hkb' hu'
    rw [hfed]
    refine ⟨hkb', _, hu', hudev, ?_⟩
    have hsyn : ([synReport].filter fun e => e.type = "EV_KEY") = [] := by decide
    have hkeys : ((typed new (fed ++ d.events.map keyEvent)).log.drop
        (typed new fed).log.length).filter (·.type = "EV_KEY") =
          (typed new (fed ++ d.events.map keyEvent)).log.drop (typed new fed).log.length :=
      List.filter_eq_self.mpr fun e he =>
        decide_eq_true (typed_keys new _ e (List.mem_of_mem_drop he))
    rw [List.filter_append, List.filter_append, hsyn, List.append_nil, hwritten, hkeys]
    exact (List.prefix_iff_eq_append.mp hlog)

/-- The presses and releases of a stream are presses and releases. -/
lemma onlyKeys_changes (es : List KeyEvent) : OnlyKeys (changes es) := by
  intro e he
  obtain ⟨-, he⟩ := List.mem_filter.mp he
  obtain ⟨htype, hvalue⟩ := of_decide_eq_true he
  obtain ⟨type, code, value⟩ := e
  dsimp only at htype hvalue
  subst htype
  rcases hvalue with rfl | rfl
  · exact ⟨code, .inr rfl⟩
  · exact ⟨code, .inl rfl⟩

end Deliveries

/-- Nothing has been read. -/
lemma sessionOk_start {script : Device.Script} {names : Device.EventNames}
    {streams : String → List Device.InputEvent}
    (h : ∀ id, ∀ e ∈ streams id, ¬ e.IsDropped) :
    Device.SessionOk script names streams { unread := streams } := by
  refine ⟨Device.consistent_init, fun _ => [], ?_, ?_, fun _ _ => ⟨rfl, rfl, rfl, rfl⟩, h⟩
  · simp [Device.AttachedAs]
  · simp [Device.AttachedAs]

/-- What the virtual device has got of a keyboard. What has been read of the stream are complete
reports and a rest. What has been written to the device is what an instance appends that is fed the
reports at once, without the events with names that libevdev does not know; and if all keys are up
after the reports, all keys of the device are. -/
def Released (known : String → String → Bool) (names : Device.EventNames) (decl : Device.InputDecl)
    (stream : List Device.InputEvent) (s : Device.Session) (device : String) (new : Remapper)
    (outputs : Outputs) : Prop :=
  ∃ reports rest, stream = reports ++ rest ++ s.unread decl.id ∧ (∀ e ∈ rest, ¬ e.IsReport) ∧
    ∃ u, ((s.deliveries decl.id).foldl (remapEvdev device) ⟨new, outputs⟩).outputs.lookup device =
        some u ∧
      (u.written known).filter (·.type = "EV_KEY") =
        (typed new (delivered names decl reports)).log.filter (fun e => known e.type e.code) ∧
      ((∀ k, ¬ IsDown k (changes (delivered names decl reports))) → ∀ c, ¬ IsDown c u.passed)

/-- The names of a keyboard with one key. -/
def typingNames : Device.EventNames where
  typeName type := if type = 1 then some "EV_KEY" else none
  codeName _ code := if code = 30 then some "KEY_A" else none

/-- The declaration of the keyboard, when it is attached. -/
def typingDecl : Device.InputDecl := { id := "kbd", type := .evdev, onEvent := "on_key", fd := 3 }

end Aelkey.Output
