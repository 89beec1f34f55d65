import Aelkey.Lib.MTDevice
import Aelkey.Output.Delivery
import Aelkey.Output.Touchpad
import Aelkey.Touchpad.SlotProtocol
import Aelkey.Touchpad.Tables

set_option relaxedAutoImplicit false
set_option autoImplicit false

/-!
# From contacts to a virtual touchpad

A script for a touchpad feeds the contacts of every frame to an instance, emits what that queues on
a virtual device and ends the frame. The kernel keeps the multitouch state of the device, with the
slots that the device was created with. It shows the touching contacts if no slot is lifted
silently, provided that the instance has no more slots than the device.

## Main definitions

* `Aelkey.Output.emitPadEvents` — `emit_events`.
* `Aelkey.Output.PadDesk`, `Aelkey.Output.padFrame` — an instance with the virtual devices, and a
  frame.
* `Aelkey.Output.Uinput.multitouch` — the multitouch state that the kernel keeps.
* `Aelkey.Output.Shown` — the device shows the touching contacts.

## Main results

* `Aelkey.Output.padFrame_eq` — a frame does to the device what it does to a receiver of its events.
* `Aelkey.Output.shown_iff_five_slots` — in all runs the device shows the touching contacts as long
  as no slot is lifted silently, iff the instance has at most five slots.

## Design

The receiver of the slot protocol, which has any number of slots and takes numbers of any kind,
stands between the instance and the kernel: the instance keeps it in step, and the kernel has the
same state as long as only slots of the device are selected.
-/

namespace Aelkey.Output

open Evdev MTSlots Touchpad

/-! ## The model -/

/-- How `emit` reads a number. -/
abbrev ToInt := { int : ℚ → ℤ // ∀ n : ℤ, int n = n }

/-- `emit_events` of a touchpad: the queue is cleared after the loop. -/
def emitPadEvents (int : ToInt) (outputs : Outputs) (device : Option String) (p : Pad) :
    Outputs × Pad × Bool :=
  match emitEach outputs device (p.events.map fun e => ⟨e.type, e.code, int.1 e.value⟩) with
  | (outputs, true) => (outputs, { p with events := [] }, true)
  | (outputs, false) => (outputs, p, false)

/-- An instance and the virtual devices, with the reports of the last frame that count, and the
number of tracking ids allocated so far. -/
structure PadDesk where
  pad : Pad
  outputs : Outputs
  last : Touches := []
  allocated : ℕ := 0

/-- A frame: `begin_frame`, the reports, `end_frame`, `emit_events` and `syn_report`. A call that
raises ends it. -/
def padFrame (int : ToInt) (device : String) (d : PadDesk) (f : Touchpad.Frame) : PadDesk :=
  let fed := feedAll (beginFrame d.pad, d.allocated) f.reports
  let d := { d with last := touches d.pad.maxSlots f.reports, allocated := fed.2 }
  match emitPadEvents int d.outputs (some device) (endFrame f.orders fed.1 f.edge).1 with
  | (outputs, pad, true) =>
    match coreSynReport outputs (some device) with
    | .ok outputs => { d with pad := pad, outputs := outputs }
    | .error _ => { d with pad := pad, outputs := outputs }
  | (outputs, pad, false) => { d with pad := pad, outputs := outputs }

/-- The slots that a device has. -/
def Libevdev.hasSlot (dev : Libevdev) (s : ℤ) : Bool :=
  match dev.abs.lookup "ABS_MT_SLOT" with
  | some info => 0 ≤ s ∧ s ≤ info.maximum
  | none => false

/-- The multitouch state that the kernel keeps for a device. -/
def Uinput.multitouch (u : Uinput) : MTSlots.State ℤ :=
  replayWithin u.dev.hasSlot ⟨0, ∅⟩ u.passed

/-- **A device shows the touching contacts**: the open slots are those whose last report was
touching, with the tracking id recorded in `slots`, and there are `finger_count` of them. -/
structure ShowsTouches (u : Uinput) (d : PadDesk) : Prop where
  open_iff : ∀ s t, u.multitouch.ids.lookup s = some t ↔
    lastTouch d.last s = some true ∧ ∃ n : ℕ, t = n ∧ d.pad.slots.lookup s = some n
  recorded : ∀ s, lastTouch d.last s = some true → s ∈ d.pad.slots
  count : u.multitouch.ids.entries.length = d.pad.fingerCount

/-- The device is there and shows the touching contacts. -/
def Shown (device : String) (d : PadDesk) : Prop :=
  ∃ u, d.outputs.lookup device = some u ∧ ShowsTouches u d

/-- The instance with a receiver of its events. -/
def PadDesk.play (d : PadDesk) (k : MTSlots.State ℚ) : Play := ⟨d.pad, k, d.last, d.allocated⟩

/-- No slot is lifted silently in a frame. -/
def LiftsLoudly (d : PadDesk) (f : Touchpad.Frame) : Prop := NoSilentLift (d.play ⟨0, ∅⟩) f

instance (d : PadDesk) (f : Touchpad.Frame) : Decidable (LiftsLoudly d f) :=
  inferInstanceAs (Decidable (NoSilentLift _ _))

/-- A new instance in multitouch mode. -/
def PadDesk.start (maxSlots : ℚ) (outputs : Outputs) : PadDesk where
  pad := { maxSlots := maxSlots }
  outputs := outputs

/-! ## What is told -/

/-- An event of the protocol has an integer as its value, and selects one of the slots. -/
def Tellable (maxSlots : ℚ) (e : Touchpad.Event) : Prop :=
  IsMT e → ∃ n : ℤ, e.value = n ∧ (e.code = "ABS_MT_SLOT" → 0 ≤ n ∧ (n : ℚ) < maxSlots)

/-- The slots of an instance in multitouch mode are in range, and so are the slots that are
selected. -/
structure Told (maxSlots : ℚ) (p : Pad) : Prop where
  mode : p.mode = .multitouch
  size : p.maxSlots = maxSlots
  slots : ∀ s ∈ p.slots, 0 ≤ s ∧ (s : ℚ) < maxSlots
  events : ∀ e ∈ p.events, Tellable maxSlots e

section Told

variable {maxSlots : ℚ} {p p' : Pad}

/-- A slot is selected and gets a tracking id, or loses it. -/
lemma tellable_slot {s : ℤ} (hs : 0 ≤ s ∧ (s : ℚ) < maxSlots) (n : ℤ) :
    ∀ e ∈ [selectSlot (s : ℚ), trackingId (n : ℚ)], Tellable maxSlots e := by
  intro e he
  rw [List.mem_cons, List.mem_singleton] at he
  rcases he with rfl | rfl
  · exact fun _ => ⟨s, rfl, fun _ => hs⟩
  · have hcode : (trackingId (n : ℚ)).code ≠ "ABS_MT_SLOT" := by
      show "ABS_MT_TRACKING_ID" ≠ "ABS_MT_SLOT"
      decide
    exact fun _ => ⟨n, rfl, fun hc => absurd hc hcode⟩

/-- The beginning of a frame. -/
lemma Told.beginFrame (h : Told maxSlots p) : Told maxSlots (Touchpad.beginFrame p) :=
  ⟨h.mode, h.size, h.slots, fun e he => by cases he⟩

/-- A report. -/
lemma Told.feed (h : Told maxSlots p) (r : Report) : Told maxSlots (feedContact p r) := by
  rcases he : r.effect p.maxSlots with _ | ⟨s, b⟩
  · rwa [feedContact_none h.mode he]
  · obtain ⟨tid, hf⟩ := feedContact_some h.mode he
    have hs : 0 ≤ s ∧ (s : ℚ) < maxSlots := h.size ▸ effect_range he
    refine ⟨hf.mode.trans h.mode, hf.maxSlots.trans h.size, fun s' hs' => ?_, fun e hmem => ?_⟩
    · rcases (hf.mem_slots s').mp hs' with rfl | hs'
      · exact hs
      · exact h.slots s' hs'
    · obtain ⟨evs, hevs, hevents⟩ := hf.events
      rw [hevents, List.mem_append] at hmem
      rcases hmem with hmem | hmem
      · exact h.events e hmem
      · split_ifs at hmem
        · rcases List.mem_append.mp hmem with hmem | hmem
          · have htold := tellable_slot hs tid
            rw [Int.cast_natCast] at htold
            exact htold e hmem
          · exact fun hmt => absurd hmt (hevs e hmem)
        · cases hmem

/-- A list of reports. -/
lemma Told.feedAll (h : Told maxSlots p) (n : ℕ) (reports : List Report) :
    Told maxSlots (Touchpad.feedAll (p, n) reports).1 := by
  induction reports generalizing p n with
  | nil => exact h
  | cons r reports ih => exact ih (h.feed r) _

/-- The end of a frame. -/
lemma Told.ended (h : Told maxSlots p) (he : Ended p p') : Told maxSlots p' := by
  refine ⟨he.mode.trans h.mode, he.maxSlots.trans h.size, fun s hs => ?_, fun e hmem => ?_⟩
  · obtain ⟨t, ht⟩ := Table.mem_iff_lookup.mp hs
    exact h.slots s (Table.mem_of_lookup ((he.slots s t).mp ht).1)
  · obtain ⟨closed, evs, hevs, hevents, hclosed⟩ := he.events
    rw [hevents, List.mem_append, List.mem_append] at hmem
    rcases hmem with (hmem | hmem) | hmem
    · exact h.events e hmem
    · obtain ⟨s, hs, hmem⟩ := List.mem_flatMap.mp hmem
      obtain ⟨t, c, hst, -⟩ := (hclosed s).mp hs
      have htold := tellable_slot (h.slots s (Table.mem_of_lookup hst)) (-1)
      rw [Int.cast_neg, Int.cast_one] at htold
      exact htold e hmem
    · exact fun hmt => absurd hmt (hevs e hmem)

end Told

/-! ## The kernel -/

section Device

variable {dev : Libevdev} (hdev : MultitouchDevice dev)
include hdev

/-- The slots of a `touchpad_mt` device. -/
lemma hasSlot_iff (s : ℤ) : dev.hasSlot s = true ↔ 0 ≤ s ∧ s ≤ 4 := by
  have hinfo : dev.abs.lookup "ABS_MT_SLOT" = some mtSlotDefault :=
    (hdev.ranges _ (by decide)).trans (by decide +kernel)
  simp only [Libevdev.hasSlot, hinfo, mtSlotDefault, decide_eq_true_eq]

/-- It supports the events of the slot protocol. -/
lemma supports_of_isMT {e : InputEvent ℤ} (h : IsMT e) : dev.Supports e := by
  refine .inr ?_
  obtain ⟨htype, hcode | hcode⟩ := h
  · rw [htype, hcode]
    exact hdev.axes _ (by decide)
  · rw [htype, hcode]
    exact hdev.axes _ (by decide)

/-- **The kernel keeps the state of a receiver**, if only slots of the device are selected.

**Proof sketch.** The device supports the events of the protocol, has the slots that are selected,
and their values are integers. -/
lemma multitouch_written {u : Uinput} (hu : u.dev = dev) {k : MTSlots.State ℚ}
    (hk : Maps Int.cast u.multitouch k) {maxSlots : ℚ} (hmax : maxSlots ≤ 5) (int : ToInt)
    {es : List Touchpad.Event} (htold : ∀ e ∈ es, Tellable maxSlots e) :
    Maps Int.cast (Uinput.multitouch
      { u with calls := u.calls ++ (es.map fun e => ⟨e.type, e.code, int.1 e.value⟩) ++
        [synReport] }) (replay k es) := by
  set sent : List (InputEvent ℤ) := es.map fun e => ⟨e.type, e.code, int.1 e.value⟩
  have hvalue : ∀ e ∈ es, IsMT e → ((int.1 e.value : ℤ) : ℚ) = e.value := by
    intro e he hmt
    obtain ⟨n, hn, -⟩ := htold e he hmt
    rw [hn, int.2]
  have hslots : ∀ e ∈ sent, e.type = "EV_ABS" → e.code = "ABS_MT_SLOT" →
      dev.hasSlot e.value = true := by
    intro e he htype hcode
    obtain ⟨e', he', rfl⟩ := List.mem_map.mp he
    obtain ⟨n, hn, hrange⟩ := htold e' he' ⟨htype, .inl hcode⟩
    obtain ⟨hmin, hlt⟩ := hrange hcode
    have hlt' : (n : ℚ) < (5 : ℤ) := hlt.trans_le hmax
    dsimp only
    rw [hasSlot_iff hdev, hn, int.2]
    exact ⟨hmin, Int.lt_add_one_iff.mp (by exact_mod_cast hlt')⟩
  have hsyn : ¬ IsMT synReport := fun h => absurd h.1 (by decide)
  have hall : ∀ e ∈ sent ++ [synReport], e.type = "EV_ABS" → e.code = "ABS_MT_SLOT" →
      dev.hasSlot e.value = true := by
    intro e he htype hcode
    rcases List.mem_append.mp he with he | he
    · exact hslots e he htype hcode
    · rw [List.mem_singleton.mp he] at htype
      exact absurd htype (by decide)
  have hpassed : Uinput.multitouch { u with calls := u.calls ++ sent ++ [synReport] } =
      replay u.multitouch sent := by
    rw [Uinput.multitouch, Uinput.passed, List.append_assoc, List.filter_append,
      replayWithin_append]
    dsimp only
    rw [replayWithin_eq fun e he => hu ▸ hall e (List.mem_of_mem_filter he),
      replay_filter fun e _ hmt => decide_eq_true (hu ▸ supports_of_isMT hdev hmt), replay_append,
      replay_neutral _ [synReport] fun e he => List.mem_singleton.mp he ▸ hsyn]
    rfl
  rw [hpassed]
  exact hk.replay Int.cast_injective (by norm_num) int.1 hvalue

end Device

/-- The kernel has the state of a receiver: it shows the touching contacts iff that does. -/
lemma showsTouches_iff {u : Uinput} {d : PadDesk} {k : MTSlots.State ℚ}
    (hk : Maps Int.cast u.multitouch k) : ShowsTouches u d ↔ Synced (d.play k) := by
  have hlookup : ∀ s t : ℤ, u.multitouch.ids.lookup s = some t ↔
      k.ids.lookup (s : ℚ) = some (t : ℚ) := by
    intro s t
    rw [hk.ids, Option.map_eq_some_iff]
    constructor
    · exact fun h => ⟨t, h, rfl⟩
    · rintro ⟨t', h, ht⟩
      rwa [Int.cast_injective ht] at h
  have hcount := hk.length_ids Int.cast_injective
  constructor
  · intro h
    refine ⟨fun q v => ?_, h.recorded, hcount.trans h.count⟩
    constructor
    · intro hq
      obtain ⟨s, rfl⟩ := hk.only q (Table.mem_of_lookup hq)
      obtain ⟨t, ht, rfl⟩ := Option.map_eq_some_iff.mp ((hk.ids s).symm.trans hq)
      obtain ⟨htouch, n, rfl, hn⟩ := (h.open_iff s t).mp ht
      exact ⟨s, n, rfl, Int.cast_natCast n, htouch, hn⟩
    · rintro ⟨s, n, rfl, rfl, htouch, hn⟩
      have ht := (hlookup s n).mp ((h.open_iff s n).mpr ⟨htouch, n, rfl, hn⟩)
      rwa [Int.cast_natCast] at ht
  · intro h
    refine ⟨fun s t => ?_, h.recorded, hcount.symm.trans h.count⟩
    rw [hlookup]
    refine (h.open_iff s t).trans ?_
    constructor
    · rintro ⟨s', n, hs, ht, htouch, hn⟩
      obtain rfl : s = s' := Int.cast_injective hs
      exact ⟨htouch, n, by exact_mod_cast ht, hn⟩
    · rintro ⟨htouch, n, rfl, hn⟩
      exact ⟨s, n, rfl, Int.cast_natCast n, htouch, hn⟩

/-! ## A frame -/

/-- **A frame** does to the device what it does to a receiver of its events: nothing raises, since
the device is there. -/
lemma padFrame_eq (int : ToInt) {device : String} {d : PadDesk} {u : Uinput}
    (hu : d.outputs.lookup device = some u) (k : MTSlots.State ℚ) (f : Touchpad.Frame) :
    let p := Touchpad.step (d.play k) f
    (padFrame int device d f).play p.kernel = { p with pad := { p.pad with events := [] } } ∧
      (padFrame int device d f).outputs.lookup device = some
        { u with calls := u.calls ++
            (p.pad.events.map fun e => ⟨e.type, e.code, int.1 e.value⟩) ++ [synReport] } := by
  intro p
  set sent : List (InputEvent ℤ) := p.pad.events.map fun e => ⟨e.type, e.code, int.1 e.value⟩
  have htarget : emitTarget d.outputs (some device) = .ok device := by
    simp only [emitTarget, if_pos (Table.mem_of_lookup hu)]
  have hemit : emitPadEvents int d.outputs (some device) p.pad =
      (writeEvents d.outputs device sent, { p.pad with events := [] }, true) := by
    simp only [emitPadEvents, emitEach_eq, htarget, sent]
  have hwritten : (writeEvents d.outputs device sent).lookup device =
      some { u with calls := u.calls ++ sent } := by
    rw [lookup_writeEvents, if_pos rfl, hu, Option.map_some]
  have hsyn : coreSynReport (writeEvents d.outputs device sent) (some device) =
      .ok (writeEvent (writeEvents d.outputs device sent) device synReport) := by
    simp only [coreSynReport, if_pos (Table.mem_of_lookup hwritten)]
  have hframe : padFrame int device d f =
      { pad := { p.pad with events := [] }
        outputs := writeEvent (writeEvents d.outputs device sent) device synReport
        last := p.last
        allocated := p.allocated } := by
    unfold padFrame
    dsimp only
    rw [show (endFrame f.orders (feedAll (beginFrame d.pad, d.allocated) f.reports).1 f.edge).1 =
      p.pad from rfl, hemit]
    dsimp only
    rw [hsyn]
    rfl
  rw [hframe]
  refine ⟨rfl, ?_⟩
  rw [lookup_writeEvent, if_pos rfl, hwritten, Option.map_some, Uinput.write]

/-! ## Runs -/

/-- What holds between frames: the device is there, and the kernel has the state of a receiver of
the events of an instance that is as between frames. -/
structure Relayed (device : String) (dev : Libevdev) (maxSlots : ℚ) (d : PadDesk) : Prop where
  told : Told maxSlots d.pad
  kernel : ∃ u k, d.outputs.lookup device = some u ∧ u.dev = dev ∧
    Maps Int.cast u.multitouch k ∧ Rest (d.play k)

/-- The device shows the touching contacts iff the receiver does. -/
lemma shown_iff {device : String} {d : PadDesk} {u : Uinput} {k : MTSlots.State ℚ}
    (hu : d.outputs.lookup device = some u) (hk : Maps Int.cast u.multitouch k) :
    Shown device d ↔ Synced (d.play k) := by
  rw [← showsTouches_iff hk]
  constructor
  · rintro ⟨u', hu', h⟩
    obtain rfl := Option.some.inj (hu.symm.trans hu')
    exact h
  · exact fun h => ⟨u, hu, h⟩

/-- **A frame** of an instance whose contacts the device shows.

**Proof sketch.** The instance keeps the receiver in step, unless a slot is lifted silently, and the
kernel follows the receiver. -/
lemma Relayed.step {device : String} {dev : Libevdev} (hdev : MultitouchDevice dev) {maxSlots : ℚ}
    (hmax : maxSlots ≤ 5) (int : ToInt) {d : PadDesk} {f : Touchpad.Frame}
    (h : Relayed device dev maxSlots d) (hs : Shown device d)
    (hn : (padFrame int device d f).allocated < 65535) :
    Relayed device dev maxSlots (padFrame int device d f) ∧
      (Shown device (padFrame int device d f) ↔ LiftsLoudly d f) := by
  obtain ⟨u, k, hu, hud, hk, hrest⟩ := h.kernel
  have hsync : Synced (d.play k) := (shown_iff hu hk).mp hs
  obtain ⟨hplay, hlookup⟩ := padFrame_eq int hu k f
  set p := Touchpad.step (d.play k) f
  have hpad : (padFrame int device d f).pad = { p.pad with events := [] } :=
    congrArg Play.pad hplay
  have hallocated : p.allocated < 65535 := by
    have heq : (padFrame int device d f).allocated = p.allocated := congrArg Play.allocated hplay
    exact heq ▸ hn
  have hfeeding := feeding_step hrest hsync hallocated
  have hended := ended_step hrest hsync hallocated
  have htold : Told maxSlots p.pad :=
    (h.told.beginFrame.feedAll d.allocated f.reports).ended hended
  have hrest' : Rest p := hended.rest hfeeding _
  have hk' : Maps Int.cast _ p.kernel := multitouch_written hdev hud hk hmax int htold.events
  refine ⟨⟨?_, _, p.kernel, hlookup, hud, hk', ?_⟩, ?_⟩
  · rw [hpad]
    exact ⟨htold.mode, htold.size, htold.slots, fun e he => by cases he⟩
  · rw [hplay]
    exact ⟨hrest'.mode, hrest'.next, hrest'.slots, hrest'.contacts, hrest'.inj, hrest'.reported⟩
  · rw [shown_iff hlookup hk', hplay]
    refine Iff.trans ?_ (hended.synced_iff hfeeding)
    exact ⟨fun h => ⟨h.open_iff, h.recorded, h.count⟩, fun h => ⟨h.open_iff, h.recorded, h.count⟩⟩

/-- A new instance on a new device. -/
lemma relayed_start {outputs : Outputs} {device : String} {dev : Libevdev}
    (hdev : outputs.lookup device = some { dev := dev }) (maxSlots : ℚ) :
    Relayed device dev maxSlots (.start maxSlots outputs) ∧
      Shown device (.start maxSlots outputs) := by
  have hk : Maps Int.cast (Uinput.multitouch { dev := dev }) (⟨0, ∅⟩ : MTSlots.State ℚ) := by
    have h := maps_start (Int.cast : ℤ → ℚ) 0
    rwa [Int.cast_zero] at h
  have htold : Told maxSlots { maxSlots := maxSlots } :=
    ⟨rfl, rfl, fun s hs => absurd hs (AList.notMem_empty _), fun e he => by cases he⟩
  exact ⟨⟨htold, _, _, hdev, rfl, hk, rest_start maxSlots 0⟩,
    (shown_iff hdev hk).mpr (synced_start maxSlots 0)⟩

/-- The reports that count and the tracking ids of a frame do not depend on the devices. -/
lemma padFrame_fed (int : ToInt) (device : String) (d : PadDesk) (f : Touchpad.Frame) :
    (padFrame int device d f).last = touches d.pad.maxSlots f.reports ∧
      (padFrame int device d f).allocated =
        (feedAll (beginFrame d.pad, d.allocated) f.reports).2 := by
  unfold padFrame
  dsimp only
  split
  · split <;> exact ⟨rfl, rfl⟩
  · exact ⟨rfl, rfl⟩

/-- A `touchpad_mt` device never has a sixth slot open. -/
lemma sixth_not_open {dev : Libevdev} (hdev : MultitouchDevice dev) {u : Uinput} (hu : u.dev = dev)
    (t : ℤ) : u.multitouch.ids.lookup 5 ≠ some t := by
  intro ht
  have hzero : u.dev.hasSlot (0 : ℤ) = true := hu ▸ (hasSlot_iff hdev 0).mpr (by decide)
  have hstart : ∀ q ∈ (∅ : Table ℤ ℤ), u.dev.hasSlot q = true :=
    fun q hq => absurd hq (AList.notMem_empty _)
  have hopen := replayWithin_has (k := ⟨0, ∅⟩) hzero hstart u.passed 5 (Table.mem_of_lookup ht)
  rw [hu, hasSlot_iff hdev] at hopen
  exact absurd hopen.2 (by decide)

/-- **A contact in the sixth slot** of an instance that has one is not shown. -/
lemma not_shown_sixthSlot (int : ToInt) {dev : Libevdev} (hdev : MultitouchDevice dev)
    {outputs : Outputs} {device : String} (hnew : outputs.lookup device = some { dev := dev })
    {maxSlots : ℚ} (hmore : 5 < maxSlots) :
    (padFrame int device (.start maxSlots outputs) { reports := [sixthSlot] }).allocated < 65535 ∧
      LiftsLoudly (.start maxSlots outputs) { reports := [sixthSlot] } ∧
      ¬ Shown device
        (padFrame int device (.start maxSlots outputs) { reports := [sixthSlot] }) := by
  have htouches : touches maxSlots [sixthSlot] = [(5, true)] := by
    simp only [touches, List.filterMap_cons, effect_sixthSlot hmore, List.filterMap_nil]
  obtain ⟨hlast, hallocated⟩ :=
    padFrame_fed int device (.start maxSlots outputs) { reports := [sixthSlot] }
  refine ⟨?_, ?_, ?_⟩
  · have hone := Bool.toNat_le (allocates (beginFrame { maxSlots := maxSlots }) sixthSlot)
    have hsum : (feedAll (beginFrame { maxSlots := maxSlots }, 0) [sixthSlot]).2 =
        0 + (allocates (beginFrame { maxSlots := maxSlots }) sixthSlot).toNat := rfl
    rw [hallocated]
    exact (hsum.trans_le (Nat.add_le_add_left hone 0)).trans_lt (by decide)
  · intro e he hfalse
    obtain rfl : e = (5, true) := by
      rw [← List.mem_singleton, ← htouches]
      exact he
    have hlast : lastTouch (touches maxSlots [sixthSlot]) 5 = some false := hfalse
    rw [htouches] at hlast
    exact absurd hlast (by decide)
  · rintro ⟨u, hu, hshow⟩
    obtain ⟨-, hlookup⟩ := padFrame_eq int (d := .start maxSlots outputs) hnew ⟨0, ∅⟩
      { reports := [sixthSlot] }
    have hud : u.dev = dev := by rw [← Option.some.inj (hlookup.symm.trans hu)]
    have htouch : lastTouch (touches maxSlots [sixthSlot]) 5 = some true := by
      rw [htouches]
      decide
    rw [show touches maxSlots [sixthSlot] = _ from hlast.symm] at htouch
    obtain ⟨n, hn⟩ := Table.mem_iff_lookup.mp (hshow.recorded 5 htouch)
    exact sixth_not_open hdev hud n ((hshow.open_iff 5 n).mpr ⟨htouch, n, rfl, hn⟩)

/-- **A virtual touchpad shows the touching contacts iff the instance has at most its five
slots.** Let a device of type `touchpad_mt` have been created and nothing written to it. In every
run of frames of a new instance with fewer than 65535 tracking ids, in every state the open slots of
the kernel's multitouch state are those whose last report was touching, with the recorded tracking
ids, and there are `finger_count` of them, exactly as long as no slot is lifted silently; this is so
for all runs iff `max_slots` is at most five.

**Proof sketch.** With at most five slots the kernel has the state of a receiver of the queued
events, which the instance keeps in step. The kernel never opens the sixth slot, which an instance
with more slots tells it to. -/
theorem shown_iff_five_slots (known : String → String → Bool) {out : OutputDecl}
    (hout : out.type = .touchpadMt) (int : ToInt) {outputs : Outputs} {device : String}
    (hdev : outputs.lookup device = some { dev := createOutputDevice known out }) (maxSlots : ℚ) :
    (∀ frames : List Touchpad.Frame,
      (frames.foldl (padFrame int device) (.start maxSlots outputs)).allocated < 65535 →
        (Run.Always (padFrame int device) (Shown device) (.start maxSlots outputs) frames ↔
          Run.EachStep (padFrame int device) LiftsLoudly (.start maxSlots outputs) frames)) ↔
      maxSlots ≤ 5 := by
  have htouchpad := multitouchDevice known hout
  obtain ⟨hstart, hshown⟩ := relayed_start hdev maxSlots
  constructor
  · intro hruns
    by_contra hmore
    obtain ⟨hn, hlifts, hnot⟩ := not_shown_sixthSlot int htouchpad hdev (not_le.mp hmore)
    have hrun := hruns [{ reports := [sixthSlot] }]
    rw [List.foldl_cons, List.foldl_nil] at hrun
    have hlast := ((hrun hn).mpr ⟨hlifts, trivial⟩).last
    rw [List.foldl_cons, List.foldl_nil] at hlast
    exact hnot hlast
  · intro hmax frames hn
    have hbelow : Run.Always (padFrame int device) (fun d => d.allocated < 65535)
        (.start maxSlots outputs) frames := by
      refine Run.always_of_last (L := fun e : PadDesk => e.allocated < 65535) (fun d f hlt => ?_) hn
      exact (le_feedAll (beginFrame d.pad, d.allocated) f.reports).trans_lt
        ((padFrame_fed int device d f).2 ▸ hlt)
    refine Run.always_iff_eachStep (I := Relayed device (createOutputDevice known out) maxSlots)
      ?_ ?_ hstart hshown hbelow
    · exact fun d f h hs hlt _ => (h.step htouchpad hmax int hs hlt).1
    · exact fun d f h hs hlt => (h.step htouchpad hmax int hs hlt).2

/-- Two contacts come, of which one moves and the other goes. -/
theorem shown_iff_five_slots_two :
    Run.Always (padFrame ⟨Rat.floor, Rat.floor_intCast⟩ "virt_touchpad") (Shown "virt_touchpad")
      (.start 5 ((∅ : Outputs).insert "virt_touchpad"
        { dev := createOutputDevice (fun _ _ => true)
            { id := "virt_touchpad", type := .touchpadMt } }))
      [{ reports := [{ slot := some 0, x := some 3, y := some 4 },
          { slot := some 1, x := some 30, y := some 4 }] },
        { reports := [{ slot := some 1, x := some 31, y := some 4 }] }] :=
  ((shown_iff_five_slots (fun _ _ => true) rfl _ (AList.lookup_insert _) 5).mpr le_rfl _
    (by decide +kernel)).mpr (by decide +kernel)

end Aelkey.Output
