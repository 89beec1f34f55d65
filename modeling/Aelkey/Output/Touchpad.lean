import Aelkey.Output.Uinput
import Aelkey.Touchpad.Keys

set_option relaxedAutoImplicit false
set_option autoImplicit false

/-!
# A touchpad instance on a virtual touchpad

The events of `aelkey_touchpad.lua` are meant for an output device of type `touchpad_mt`, which has
five slots. An instance has as many slots as its `max_slots` says, and five unless it says
otherwise. A device does not select a slot beyond its own, and the events that follow then change
the contact of another one.

## Main definitions

* `Aelkey.Output.Fits` — a device supports an event, and its value is in the range of the axis.
* `Aelkey.Output.PadCall`, `Aelkey.Output.padStep` — the calls of an instance.
* `Aelkey.Output.Sound` — what the tables of an instance hold can be told to the device.

## Main results

* `Aelkey.Output.sound_padStep` — every call keeps this.
* `Aelkey.Output.fits_iff_five_slots` — all events of all runs fit iff the instance is in basic mode
  or has at most five slots.
-/

namespace Aelkey.Output

open Evdev MTSlots Touchpad

/-- A device supports an event, and the value of an axis is in its range. -/
def Fits (dev : Libevdev) (e : Touchpad.Event) : Prop :=
  (e.type, e.code) ∈ dev.codes ∧ (e.type = "EV_ABS" →
    ∃ info, dev.abs.lookup e.code = some info ∧ (info.minimum : ℚ) ≤ e.value ∧
      e.value ≤ info.maximum)

/-- All queued events fit. -/
def AllFit (dev : Libevdev) (p : Pad) : Prop :=
  ∀ e ∈ p.events, Fits dev e

/-- A call of an instance. -/
inductive PadCall
  | beginFrame
  | feedContact (r : Report)
  | endFrame (it : Orders)

/-- One call, with the edge detector that all instances share. -/
def padStep (p : Pad × Edge) : PadCall → Pad × Edge
  | .beginFrame => (beginFrame p.1, p.2)
  | .feedContact r => (feedContact p.1 r, p.2)
  | .endFrame it => endFrame it p.1 p.2

/-- A position on the device. -/
def OnDevice (x : ℚ) : Prop := 0 ≤ x ∧ x ≤ 65535

/-- The contacts that are fed lie on the device. -/
def PadCall.OnDevice : PadCall → Prop
  | .feedContact r => (∀ x ∈ r.x, Output.OnDevice x) ∧ ∀ y ∈ r.y, Output.OnDevice y
  | .beginFrame | .endFrame _ => True

/-- What a device of type `touchpad_mt` supports. -/
structure MultitouchDevice (dev : Libevdev) : Prop where
  keys : ∀ code ∈ touchpadButtons, ("EV_KEY", code) ∈ dev.codes
  axes : ∀ code ∈ touchpadMtAbs, ("EV_ABS", code) ∈ dev.codes
  ranges : ∀ code ∈ touchpadMtAbs, dev.abs.lookup code = defaultAbsinfoFor code

/-- Every axis of a `touchpad_mt` device has a default range. -/
lemma defaultAbsinfoFor_touchpadMtAbs :
    ∀ code ∈ touchpadMtAbs, defaultAbsinfoFor code ≠ none := by
  decide +kernel

/-- The device of every declaration of type `touchpad_mt` supports these. -/
lemma multitouchDevice (known : String → String → Bool) {out : OutputDecl}
    (h : out.type = .touchpadMt) : MultitouchDevice (createOutputDevice known out) := by
  unfold createOutputDevice
  rw [h, enableType]
  set base : Libevdev :=
    { name := out.name
      bus := out.bus
      vendor := out.vendor
      product := out.product
      version := out.version }
  have haxes := fun code hc => mem_enableCodes (enableCodes base "EV_KEY" touchpadButtons)
    "EV_ABS" code touchpadMtAbs hc (by decide) fun _ => defaultAbsinfoFor_touchpadMtAbs code hc
  have hkeys := fun code hc => mem_enableCodes base "EV_KEY" code touchpadButtons hc (by decide)
    fun he => absurd he (by decide)
  have hmore := extends_enableCodes (enableCodes base "EV_KEY" touchpadButtons) "EV_ABS"
    touchpadMtAbs
  set full := enableCodes (enableCodes base "EV_KEY" touchpadButtons) "EV_ABS" touchpadMtAbs
  have hcaps := extends_enableCapabilities known out.capabilities
    { full with props := full.props ++ ["INPUT_PROP_POINTER"] }
  constructor
  case keys => exact fun code hc => hcaps.codes _ (hmore.codes _ (hkeys code hc).1)
  case axes => exact fun code hc => hcaps.codes _ (haxes code hc).1
  case ranges => exact fun code hc => hcaps.abs code ((haxes code hc).2 rfl)

/-! ## What fits -/

section Fits

variable {dev : Libevdev} (hdev : MultitouchDevice dev)
include hdev

/-- The keys of a touchpad fit. -/
lemma fits_key {code : String} (h : code ∈ touchpadButtons) (v : ℚ) : Fits dev (key code v) :=
  ⟨hdev.keys code h, fun he => absurd (id he : "EV_KEY" = "EV_ABS") (by decide)⟩

/-- An axis fits if its value is in the default range. -/
lemma fits_abs {code : String} {v : ℚ} (info : AbsInfo) (h : code ∈ touchpadMtAbs)
    (hinfo : defaultAbsinfoFor code = some info) (hmin : (info.minimum : ℚ) ≤ v)
    (hmax : v ≤ info.maximum) : Fits dev ⟨"EV_ABS", code, v⟩ :=
  ⟨hdev.axes code h, fun _ => ⟨info, (hdev.ranges code h).trans hinfo, hmin, hmax⟩⟩

/-- A slot of the device. -/
lemma fits_selectSlot {s : ℤ} (hmin : 0 ≤ s) (hmax : s ≤ 4) : Fits dev (selectSlot (s : ℚ)) := by
  refine fits_abs hdev mtSlotDefault (by decide) (by decide +kernel) ?_ ?_
  · exact_mod_cast hmin
  · exact_mod_cast hmax

/-- A tracking id of the device. -/
lemma fits_trackingId {t : ℕ} (h : t ≤ 65535) : Fits dev (trackingId (t : ℚ)) := by
  have ht : (0 : ℚ) ≤ t := Nat.cast_nonneg t
  refine fits_abs hdev mtTrackidDefault (by decide) (by decide +kernel) ?_ ?_
  · exact (by decide +kernel : ((mtTrackidDefault.minimum : ℤ) : ℚ) ≤ 0).trans ht
  · exact (Nat.cast_le (α := ℚ)).mpr h

/-- The end of a contact. -/
lemma fits_closeSlot {s : ℤ} (hmin : 0 ≤ s) (hmax : s ≤ 4) :
    ∀ e ∈ closeSlot (s : ℚ), Fits dev e := by
  intro e he
  rw [closeSlot, List.mem_cons, List.mem_singleton] at he
  rcases he with rfl | rfl
  · exact fits_selectSlot hdev hmin hmax
  · exact fits_abs hdev mtTrackidDefault (by decide) (by decide +kernel)
      (by decide +kernel) (by decide +kernel)

/-- A position of the device, on one of the axes that have this range. -/
lemma fits_position {code : String} {v : ℚ} (hv : OnDevice v)
    (hcode : code ∈ ["ABS_X", "ABS_Y", "ABS_MT_POSITION_X", "ABS_MT_POSITION_Y"]) :
    Fits dev ⟨"EV_ABS", code, v⟩ := by
  have hmem : ∀ code ∈ ["ABS_X", "ABS_Y", "ABS_MT_POSITION_X", "ABS_MT_POSITION_Y"],
      code ∈ touchpadMtAbs ∧ defaultAbsinfoFor code = some posDefault := by decide +kernel
  obtain ⟨h, hinfo⟩ := hmem code hcode
  refine fits_abs hdev posDefault h hinfo ?_ ?_
  · simpa [posDefault] using hv.1
  · simpa [posDefault] using hv.2

/-- The position and tool type events of a contact on the device. -/
lemma fits_positionEvents (r : Report) {x y : ℚ} (hx : OnDevice x) (hy : OnDevice y) :
    ∀ e ∈ positionEvents r x y, Fits dev e := by
  intro e he
  rw [positionEvents, List.mem_append, List.mem_cons, List.mem_singleton] at he
  rcases he with (rfl | rfl) | he
  · exact fits_position hdev hx (by decide)
  · exact fits_position hdev hy (by decide)
  · rcases hp : r.palm with _ | palm
    · simp [hp] at he
    · rw [hp, List.mem_singleton] at he
      rw [he]
      refine fits_abs hdev mtTooltypeDefault (by decide) (by decide +kernel) ?_ ?_
      · cases palm <;> decide +kernel
      · cases palm <;> decide +kernel

/-- The events of the clickpad buttons. -/
lemma fits_buttonEvents (source : Option Contact) (edge : Edge) :
    ∀ e ∈ buttonEvents source edge, Fits dev e := by
  intro e he
  obtain ⟨b, -, he⟩ := List.mem_flatMap.mp he
  unfold buttonEvent at he
  split at he
  · split at he
    · cases he
    · rw [List.mem_singleton.mp he]
      exact fits_key hdev (by cases b <;> decide) _
  · cases he

end Fits

/-! ## The invariant -/

/-- What the tables of an instance hold can be told to the device, and what is queued fits. -/
structure Sound (dev : Libevdev) (p : Pad) : Prop where
  few : p.mode = .multitouch → p.maxSlots ≤ 5
  next : p.nextTrackingId ≤ 65535
  ids : ∀ s t, p.slots.lookup s = some t → (0 ≤ s ∧ s ≤ 4) ∧ t ≤ 65535
  positions : ∀ t c, p.contacts.lookup t = some c → OnDevice c.x ∧ OnDevice c.y
  tools : ∀ code ∈ p.toolKeysDown, code ∈ touchpadButtons
  events : AllFit dev p

section Sound

variable {dev : Libevdev} {p : Pad}

/-- A new instance. -/
lemma sound_new {mode : Mode} {maxSlots : ℚ} (h : mode = .basic ∨ maxSlots ≤ 5) :
    Sound dev { mode := mode, maxSlots := maxSlots } := by
  refine ⟨fun hm => ?_, ?_, ?_, ?_, ?_, ?_⟩
  · rcases h with rfl | h
    · cases hm
    · exact h
  · exact (by decide : (1 : ℕ) ≤ 65535)
  · exact fun s t h => by cases h
  · exact fun t c h => by cases h
  · exact fun code h => absurd h (AList.notMem_empty _)
  · exact fun e he => by cases he

/-- Queueing events that fit. -/
lemma Sound.queue (h : Sound dev p) {evs : List Touchpad.Event} (he : ∀ e ∈ evs, Fits dev e) :
    Sound dev (queue p evs) :=
  { h with events := fun e hmem => (List.mem_append.mp hmem).elim (h.events e) (he e) }

/-- The contacts of a frame have the positions of those before it. -/
lemma positions_mapValues {f : Contact → Contact} (hf : ∀ c, (f c).x = c.x ∧ (f c).y = c.y)
    (h : ∀ t c, p.contacts.lookup t = some c → OnDevice c.x ∧ OnDevice c.y) :
    ∀ t c, (p.contacts.mapValues fun _ => f).lookup t = some c → OnDevice c.x ∧ OnDevice c.y := by
  intro t c hc
  rw [Table.lookup_mapValues, Option.map_eq_some_iff] at hc
  obtain ⟨c', hc', rfl⟩ := hc
  rw [(hf c').1, (hf c').2]
  exact h t c' hc'

/-- `begin_frame`. -/
lemma sound_beginFrame (h : Sound dev p) : Sound dev (beginFrame p) :=
  { h with
    positions := positions_mapValues (fun _ => ⟨rfl, rfl⟩) h.positions
    events := fun e he => by cases he }

/-- A tracking id is one of the device. -/
lemma newTrackingId_le (n : ℕ) : n % 65535 + 1 ≤ 65535 := Nat.mod_lt n (by decide)

/-- Storing a contact that lies on the device. -/
lemma sound_storeContact (h : Sound dev p) (tid : ℕ) (r : Report) {x y : ℚ} (hx : OnDevice x)
    (hy : OnDevice y) : Sound dev (storeContact p tid r x y) := by
  have hinsert : ∀ c : Contact, c.x = x ∧ c.y = y → ∀ t c',
      (p.contacts.insert tid c).lookup t = some c' → OnDevice c'.x ∧ OnDevice c'.y := by
    intro c hc t c' hc'
    rw [Table.lookup_insert] at hc'
    split_ifs at hc'
    · obtain rfl := Option.some.inj hc'
      rw [hc.1, hc.2]
      exact ⟨hx, hy⟩
    · exact h.positions t c' hc'
  unfold storeContact
  split
  · exact { h with positions := hinsert _ ⟨rfl, rfl⟩ }
  · exact { h with positions := hinsert _ ⟨rfl, rfl⟩ }

/-- A slot of the device gets a tracking id of the device. -/
lemma sound_slotTrackingId (h : Sound dev p) {s : ℤ} (hs : 0 ≤ s ∧ s ≤ 4) :
    Sound dev (slotTrackingId p s).2 ∧ (slotTrackingId p s).1 ≤ 65535 := by
  obtain ⟨next, slots, heq, hnext, hslots⟩ := slotTrackingId_spec p s
  have hid : (p.slots.lookup s).getD p.nextTrackingId ≤ 65535 := by
    rcases hl : p.slots.lookup s with _ | t
    · exact h.next
    · exact (h.ids s t hl).2
  rw [heq]
  refine ⟨{ h with next := ?_, ids := fun s' t ht => ?_ }, hid⟩
  · rw [hnext]
    split_ifs
    · exact h.next
    · exact newTrackingId_le _
  · rw [hslots] at ht
    split_ifs at ht with he
    · obtain rfl := Option.some.inj ht
      exact ⟨he ▸ hs, hid⟩
    · exact h.ids s' t ht

/-- Basic mode takes tracking ids of the device too. -/
lemma sound_basicTrackingId (h : Sound dev p) : Sound dev (basicTrackingId p).2 := by
  unfold basicTrackingId
  split
  · exact h
  · exact { h with next := newTrackingId_le _ }

variable (hdev : MultitouchDevice dev)
include hdev

/-- **`feed_contact`** of a contact on the device. -/
lemma sound_feedContact (h : Sound dev p) {r : Report} (hr : (PadCall.feedContact r).OnDevice) :
    Sound dev (feedContact p r) := by
  rcases hx : r.x with _ | x
  · simpa only [feedContact, hx] using h
  rcases hy : r.y with _ | y
  · simpa only [feedContact, hx, hy] using h
  have hxd : OnDevice x := hr.1 x hx
  have hyd : OnDevice y := hr.2 y hy
  rcases hm : p.mode with _ | _
  · simp only [feedContact, hx, hy, hm]
    exact sound_storeContact (sound_basicTrackingId h) _ r hxd hyd
  · by_cases hrange : r.slotIndex < 0 ∨ p.maxSlots ≤ r.slotIndex
    · simpa only [feedContact, hx, hy, hm, if_pos hrange] using h
    · obtain ⟨hmin, hmax⟩ := not_or.mp hrange
      -- A slot below the bound is at most the fourth.
      have hs : 0 ≤ r.slotIndex ∧ r.slotIndex ≤ 4 := by
        have hlt : (r.slotIndex : ℚ) < (5 : ℤ) := (not_le.mp hmax).trans_le (h.few hm)
        exact ⟨not_lt.mp hmin, Int.lt_add_one_iff.mp (by exact_mod_cast hlt)⟩
      obtain ⟨hslot, hid⟩ := sound_slotTrackingId h hs
      have hstore := sound_storeContact hslot (slotTrackingId p r.slotIndex).1 r hxd hyd
      simp only [feedContact, hx, hy, hm, if_neg hrange]
      split_ifs
      · refine hstore.queue fun e he => ?_
        rw [List.mem_append, openSlot, List.mem_cons, List.mem_singleton] at he
        rcases he with (rfl | rfl) | he
        · exact fits_selectSlot hdev hs.1 hs.2
        · exact fits_trackingId hdev hid
        · exact fits_positionEvents hdev r hxd hyd e he
      · exact hstore

/-- The end of the contacts that were not fed. -/
lemma sound_closeEnded (it : Orders) (h : Sound dev p) :
    Sound dev (closeEnded it (clearMissingContacts it p)) := by
  have hclear : Sound dev (clearMissingContacts it p) :=
    { h with positions := positions_mapValues (fun _ => ⟨rfl, rfl⟩) h.positions }
  refine hclear.queue fun e he => ?_
  obtain ⟨s, hs, he⟩ := List.mem_flatMap.mp he
  obtain ⟨t, -, hs⟩ := List.mem_flatMap.mp hs
  obtain ⟨⟨s', t'⟩, hmem, rfl⟩ := List.mem_map.mp hs
  have hlookup := it.slots.mem_order.mp (List.mem_of_mem_filter hmem)
  obtain ⟨hs, -⟩ := hclear.ids s' t' hlookup
  exact fits_closeSlot hdev hs.1 hs.2 e he

/-- **`end_frame`**, part by part. -/
lemma sound_endFrame (it : Orders) (h : Sound dev p) (edge : Edge) :
    Sound dev (endFrame it p edge).1 := by
  have hclear : Sound dev (clearMissingContacts it p) :=
    { h with positions := positions_mapValues (fun _ => ⟨rfl, rfl⟩) h.positions }
  set closed := if (clearMissingContacts it p).mode = .multitouch then
    closeEnded it (clearMissingContacts it p) else clearMissingContacts it p with hclosed
  have hclose : Sound dev closed := by
    rw [hclosed]
    split_ifs
    · exact sound_closeEnded hdev it h
    · exact hclear
  obtain ⟨primary, slot, n, hcount, hprimary⟩ := countFingers_eq it closed
  set counted : Pad := { closed with primary := slot, fingerCount := n }
  have hcount' : Sound dev counted := { hclose with }
  have hcounted : Sound dev (queueTouch counted) := hcount'.queue fun e he => by
    rw [List.mem_singleton.mp he]
    exact fits_key hdev (by decide) _
  obtain ⟨tools, r, d, -, -, hr, hd, htools, htool⟩ := tools_eq it (queueTouch counted)
  have hdesired : ∀ n, ∀ code ∈ desiredDown n, code ∈ touchpadButtons := by
    intro n
    unfold desiredDown
    split <;> decide
  have htooled : Sound dev (pressTools (releaseTools it (queueTouch counted))) := by
    rw [htool]
    refine { hcounted.queue fun e he => ?_ with
      tools := fun code hc => hdesired _ code ((htools code).mp hc) }
    rcases List.mem_append.mp he with he | he
    · obtain ⟨code, hc, rfl⟩ := List.mem_map.mp he
      exact fits_key hdev (hcounted.tools code ((hr code).mp hc).1) _
    · obtain ⟨code, hc, rfl⟩ := List.mem_map.mp he
      exact fits_key hdev (hdesired _ code ((hd code).mp hc).1) _
  have hposition : Sound dev
      (queuePrimary primary (pressTools (releaseTools it (queueTouch counted)))) := by
    cases primary with
    | none => exact htooled
    | some c =>
      obtain ⟨t, hc, -⟩ := hprimary c rfl
      obtain ⟨hx, hy⟩ := hclose.positions t c hc
      refine htooled.queue fun e he => ?_
      rw [List.mem_cons, List.mem_singleton] at he
      rcases he with rfl | rfl
      · exact fits_position hdev hx (by decide)
      · exact fits_position hdev hy (by decide)
  have hsettle : Sound dev (settle it p).2 := by
    simp only [settle, ← hclosed, hcount]
    exact hposition
  obtain ⟨edge', hbuttons, -⟩ := queueButtons_eq (settle it p).1 (settle it p).2 edge
  have hqueued := hsettle.queue (fits_buttonEvents hdev (settle it p).1 edge)
  rw [endFrame_eq, hbuttons]
  -- The cleanup only removes slots and contacts.
  set last := queue (settle it p).2 (buttonEvents (settle it p).1 edge)
  obtain ⟨slots, contacts, hclean⟩ := cleanup_eq it last
  have hslots : ∀ s t, slots.lookup s = some t → last.slots.lookup s = some t := by
    intro s t hs
    have hs' : (cleanup it last).slots.lookup s = some t := by rw [hclean]; exact hs
    exact ((lookup_slots_foldl_drop it _ last s t).mp hs').1
  have hcontacts : ∀ t c, contacts.lookup t = some c → last.contacts.lookup t = some c := by
    intro t c hc
    have hc' : (cleanup it last).contacts.lookup t = some c := by rw [hclean]; exact hc
    exact ((lookup_contacts_foldl_drop it _ last t c).mp hc').1
  dsimp only
  rw [hclean]
  exact { hqueued with
    ids := fun s t hs => hqueued.ids s t (hslots s t hs)
    positions := fun t c hc => hqueued.positions t c (hcontacts t c hc) }

/-- **Every call keeps the invariant.** -/
lemma sound_padStep {q : Pad × Edge} (h : Sound dev q.1) {call : PadCall} (hc : call.OnDevice) :
    Sound dev (padStep q call).1 := by
  cases call with
  | beginFrame => exact sound_beginFrame h
  | feedContact r => exact sound_feedContact hdev h hc
  | endFrame it => exact sound_endFrame hdev it h q.2

/-- **Every run keeps the invariant.** -/
lemma sound_foldl_padStep {q : Pad × Edge} (h : Sound dev q.1) {calls : List PadCall}
    (hc : ∀ call ∈ calls, call.OnDevice) : Sound dev (calls.foldl padStep q).1 := by
  induction calls generalizing q with
  | nil => exact h
  | cons call calls ih =>
    exact ih (sound_padStep hdev h (hc call List.mem_cons_self)) fun c hmem =>
      hc c (List.mem_cons_of_mem _ hmem)

end Sound

/-! ## The slots of the device -/

/-- A report of a contact in the sixth slot. -/
def sixthSlot : Report := { slot := some 5, x := some 1, y := some 1 }

/-- It counts for an instance with more than five slots. -/
lemma effect_sixthSlot {maxSlots : ℚ} (h : 5 < maxSlots) :
    sixthSlot.effect maxSlots = some (5, true) := by
  have hslot : sixthSlot.slotIndex = 5 := by decide +kernel
  have hrange : ¬ ((5 : ℤ) < 0 ∨ maxSlots ≤ ((5 : ℤ) : ℚ)) :=
    not_or.mpr ⟨by decide, not_le.mpr (by exact_mod_cast h)⟩
  have htouch : isTouching sixthSlot 1 1 = true := by decide +kernel
  simp only [Report.effect, hslot, if_neg hrange, htouch,
    show sixthSlot.x = some 1 from rfl, show sixthSlot.y = some 1 from rfl]

/-- An instance with more than five slots selects the sixth. -/
lemma selectSlot_mem {maxSlots : ℚ} (h : 5 < maxSlots) :
    selectSlot 5 ∈
      (feedContact { mode := .multitouch, maxSlots := maxSlots } sixthSlot).events := by
  set pad : Pad := { mode := .multitouch, maxSlots := maxSlots }
  obtain ⟨tid, hfed⟩ :=
    feedContact_some (show pad.mode = .multitouch from rfl) (effect_sixthSlot h)
  obtain ⟨evs, -, hevents⟩ := hfed.events
  rw [hevents]
  exact List.mem_append_right _ (List.mem_append_left _ List.mem_cons_self)

/-- The sixth slot does not fit. -/
lemma not_fits_selectSlot {dev : Libevdev} (hdev : MultitouchDevice dev) :
    ¬ Fits dev (selectSlot 5) := by
  rintro ⟨-, hrange⟩
  obtain ⟨info, hinfo, -, hmax⟩ := hrange rfl
  rw [show (selectSlot (5 : ℚ)).code = "ABS_MT_SLOT" from rfl, hdev.ranges _ (by decide),
    show defaultAbsinfoFor "ABS_MT_SLOT" = some mtSlotDefault by decide +kernel,
    Option.some.injEq] at hinfo
  rw [← hinfo] at hmax
  exact absurd hmax (by decide +kernel)

/-- **A touchpad of five slots.** All events of all runs of an instance, in which the contacts lie
on the device, are supported by the virtual touchpad and in the ranges of its axes, iff the
instance is in basic mode or has at most the five slots of the device.

**Proof sketch.** Every call keeps `Sound`, whose parts are what the events are made of: the slots
and ids in the tables, the positions of the contacts and the tool keys. An instance with more slots
selects the sixth for a contact that is fed there. -/
theorem fits_iff_five_slots (known : String → String → Bool) {out : OutputDecl}
    (h : out.type = .touchpadMt) (mode : Mode) (maxSlots : ℚ) :
    (∀ (calls : List PadCall) (edge : Edge), (∀ call ∈ calls, call.OnDevice) →
      AllFit (createOutputDevice known out)
        (calls.foldl padStep (({ mode := mode, maxSlots := maxSlots } : Pad), edge)).1) ↔
      mode = .basic ∨ maxSlots ≤ 5 := by
  have hdev := multitouchDevice known h
  constructor
  · intro hfit
    by_contra hmore
    obtain ⟨hmode, hslots⟩ := not_or.mp hmore
    obtain rfl : mode = .multitouch := by cases mode with
      | basic => exact absurd rfl hmode
      | multitouch => rfl
    refine not_fits_selectSlot hdev (hfit [.feedContact sixthSlot] {} (fun call hcall => ?_) _
      (selectSlot_mem (not_le.mp hslots)))
    rw [List.mem_singleton.mp hcall]
    exact ⟨fun x hx => by cases hx; exact ⟨by decide +kernel, by decide +kernel⟩,
      fun y hy => by cases hy; exact ⟨by decide +kernel, by decide +kernel⟩⟩
  · intro hslots calls edge hcalls
    exact (sound_foldl_padStep hdev (sound_new hslots) hcalls).events

/-- A frame with a contact in the fifth slot fits. -/
theorem fits_iff_five_slots_fifth :
    AllFit (createOutputDevice (fun _ _ => true) { id := "virt_touchpad", type := .touchpadMt })
      ([PadCall.beginFrame, .feedContact { slot := some 4, x := some 100, y := some 200 },
        .endFrame default].foldl padStep (({} : Pad), ({} : Edge))).1 := by
  refine (fits_iff_five_slots (fun _ _ => true) rfl .multitouch 5).mpr (.inr le_rfl) _ _ ?_
  intro call hcall
  rw [List.mem_cons, List.mem_cons, List.mem_singleton] at hcall
  rcases hcall with rfl | rfl | rfl
  · trivial
  · exact ⟨fun x hx => by cases hx; exact ⟨by decide +kernel, by decide +kernel⟩,
      fun y hy => by cases hy; exact ⟨by decide +kernel, by decide +kernel⟩⟩
  · trivial

end Aelkey.Output
