import Aelkey.Keyboard.Held
import Aelkey.Keyboard.Report
import Aelkey.Lib.Remap
import Aelkey.Output.Delivery

set_option relaxedAutoImplicit false
set_option autoImplicit false

/-!
# From boot reports to a virtual keyboard

A script for a boot keyboard decodes every report with `parse_report`, feeds the events to a
remapper, emits what that makes of them on a virtual device and ends the frame. The virtual device
shows the keys of the last report if it has, for every key of the report, the codes the key is
mapped to.

## Main definitions

* `Aelkey.Output.Pipe`, `Aelkey.Output.remapReport` — one report on its way to the device.
* `Aelkey.Output.codesOf` — the codes a key is mapped to.
* `Aelkey.Output.Shows` — the device shows the last report.

## Main results

* `Aelkey.Output.fedEvents_eq` — the remapper remaps the stream of decoded events.
* `Aelkey.Output.shows_iff_disjoint` — the device shows the last report in every run of separate
  reports iff no two keys of a boot keyboard are mapped to one code that the device supports.
-/

namespace Aelkey.Output

open Evdev Keyboard

/-! ## The model -/

/-- The parser with what it has decoded, the remapper, and the virtual devices. -/
structure Pipe where
  decoding : Decoding := {}
  kb : Remapper
  outputs : Outputs

/-- One report: `parse_report`, and what is done with its events. -/
def remapReport (device : String) (p : Pipe) (r : Reading) : Pipe :=
  let board := remapFrame device ⟨p.kb, p.outputs⟩
    (parseReport r.orders p.decoding.parser r.bytes).1
  { decoding := p.decoding.step r, kb := board.kb, outputs := board.outputs }

/-- The codes that a key is mapped to; none if it is suppressed. -/
def codesOf (kb : Remapper) (k : String) : List String := (resolveMapping kb k).1.getD []

/-- The codes of the keys of a boot keyboard. -/
def bootCodes : List String := modBits ++ hidToKey.map (·.2)

/-- The device shows the last report: of the codes it supports, those are down that some key of the
report is mapped to. -/
def Shows (device : String) (new : Remapper) (p : Pipe) : Prop :=
  ∃ u, p.outputs.lookup device = some u ∧ ∀ c, IsDown c u.passed ↔
    ("EV_KEY", c) ∈ u.dev.codes ∧ ∃ k, Names p.decoding.last k ∧ c ∈ codesOf new k

/-- The keys of a report are keys of a boot keyboard. -/
lemma Names.mem_bootCodes {bytes : List UInt8} {k : String} (h : Names bytes k) :
    k ∈ bootCodes := by
  rcases h with h | ⟨hid, -, hk⟩
  · exact List.mem_append_left _ h.mem_modBits
  · obtain ⟨l, l', heq, -⟩ := List.lookup_eq_some_iff.mp hk
    refine List.mem_append_right _ (List.mem_map.mpr ⟨(hid, k), ?_, rfl⟩)
    rw [heq]
    exact List.mem_append_right _ List.mem_cons_self

/-! ## The remapper on a stream -/

/-- An instance whose Fn state has not changed and whose stored mappings are those of the keys that
are down in a stream. -/
structure Wired (new kb : Remapper) (log : List KeyEvent) : Prop where
  eq : kb = { new with activeKeys := kb.activeKeys, buffer := kb.buffer }
  active : ∀ k m, kb.activeKeys.lookup k = some m ↔
    IsDown k log ∧ (resolveMapping new k).1 = some m

section Wired

variable {new kb : Remapper} {log : List KeyEvent}

/-- The mapping of a key does not change. -/
lemma Wired.resolve (h : Wired new kb log) (k : String) :
    resolveMapping kb k = resolveMapping new k := by
  rw [h.eq]
  rfl

/-- A press stores the mapping of its key. -/
lemma Wired.press (h : Wired new kb log) {k : String}
    (hk : isFnPlaceholder (codesOf new k) = false) :
    Wired new (press kb k) (log ++ [key k 1]) ∧
      (press kb k).buffer = kb.buffer ++ remap (codesOf new) [key k 1] := by
  have hdown : ∀ k', IsDown k' (log ++ [key k 1]) ↔ k = k' ∨ IsDown k' log := by
    intro k'
    rw [isDown_append_key]
    split_ifs with he <;> simp [he]
  rw [press_eq, h.resolve, remap_press]
  unfold codesOf at hk ⊢
  rcases hres : (resolveMapping new k).1 with _ | mapped
  · refine ⟨⟨h.eq, fun k' m => ?_⟩, (List.append_nil _).symm⟩
    rw [h.active, hdown]
    refine and_congr_left fun hm => (or_iff_right ?_).symm
    rintro rfl
    rw [hres] at hm
    cases hm
  · rw [hres, Option.getD_some] at hk
    simp only [hk, Bool.false_or, Bool.false_eq_true, if_false]
    refine ⟨⟨?_, fun k' m => ?_⟩, rfl⟩
    · rw [h.eq]
    · dsimp only
      rw [Table.lookup_insert, hdown]
      split_ifs with he
      · rw [he, hres]
        simp
      · rw [h.active]
        simp [Ne.symm he]

/-- A release of a key that is down finds the mapping of its press. -/
lemma Wired.release (h : Wired new kb log) {k : String}
    (hk : isFnPlaceholder (codesOf new k) = false) (hdown : IsDown k log) :
    Wired new (release kb k) (log ++ [key k 0]) ∧
      (release kb k).buffer = kb.buffer ++ remap (codesOf new) [key k 0] := by
  have hdown' : ∀ k', IsDown k' (log ++ [key k (0 : ℤ)]) ↔ k ≠ k' ∧ IsDown k' log := by
    intro k'
    rw [isDown_append_key]
    split_ifs with he <;> simp [he]
  have hlookup : kb.activeKeys.lookup k = (resolveMapping new k).1 :=
    Option.ext fun m => (h.active k m).trans (and_iff_right hdown)
  rw [release_eq, hlookup, remap_release]
  unfold codesOf at hk ⊢
  rcases hres : (resolveMapping new k).1 with _ | mapped
  · refine ⟨⟨h.eq, fun k' m => ?_⟩, (List.append_nil _).symm⟩
    rw [h.active, hdown']
    refine and_congr_left fun hm => (and_iff_right ?_).symm
    rintro rfl
    rw [hres] at hm
    cases hm
  · rw [hres, Option.getD_some] at hk
    simp only [hk, Bool.not_false, Bool.true_and, Bool.false_eq_true, if_false]
    refine ⟨⟨?_, fun k' m => ?_⟩, rfl⟩
    · rw [h.eq]
    · dsimp only
      rw [Table.lookup_erase, hdown']
      split_ifs with he
      · simp [he]
      · rw [h.active]
        simp [Ne.symm he]

/-- **The remapper remaps the stream.** If the events that are fed continue a strict stream, what is
appended to the buffer is what they are remapped to.

**Proof sketch.** Induction on the events. A press stores the mapping of its key; a release is of a
key that is down, whose stored mapping is that of the key. -/
lemma Wired.feedEvents {es : List KeyEvent} (h : Wired new kb log) (hkeys : OnlyKeys es)
    (hfn : ∀ e ∈ es, isFnPlaceholder (codesOf new e.code) = false) (hs : Strict (log ++ es)) :
    Wired new (es.foldl feedEvent kb) (log ++ es) ∧
      (es.foldl feedEvent kb).buffer = kb.buffer ++ remap (codesOf new) es := by
  induction es generalizing kb log with
  | nil => simpa [remap] using h
  | cons e es ih =>
    have hmay : MayFollow log e := hs log e (by simp)
    have hone : Wired new (feedEvent kb e) (log ++ [e]) ∧
        (feedEvent kb e).buffer = kb.buffer ++ remap (codesOf new) [e] := by
      have hk := hfn e List.mem_cons_self
      obtain ⟨k, rfl | rfl⟩ := hkeys e List.mem_cons_self
      · exact h.press hk
      · exact h.release hk ((mayFollow_release k log).mp hmay)
    rw [List.append_cons] at hs ⊢
    obtain ⟨hwired, hbuffer⟩ := ih hone.1 (fun e' he' => hkeys e' (List.mem_cons_of_mem _ he'))
      (fun e' he' => hfn e' (List.mem_cons_of_mem _ he')) hs
    refine ⟨hwired, ?_⟩
    rw [List.foldl_cons, hbuffer, hone.2, List.append_assoc, ← remap_append, List.singleton_append]

/-- A frame begins with an empty buffer. -/
lemma Wired.beginFrame (h : Wired new kb log) : Wired new (Keyboard.beginFrame kb) log := by
  refine ⟨?_, h.active⟩
  rw [h.eq]
  rfl

end Wired

/-! ## One report -/

/-- The events of a report continue the stream. -/
lemma log_step (d : Decoding) (r : Reading) :
    (d.step r).log = d.log ++ (parseReport r.orders d.parser r.bytes).1.getD [] := by
  unfold Decoding.step
  split
  · next events parser h => rw [h, Option.getD_some]
  · next parser h => rw [h, Option.getD_none, List.append_nil]

/-- The events of a report press and release keys of a boot keyboard. -/
lemma parseReport_events {d : Decoding} (hd : Recorded d) (r : Reading) :
    OnlyKeys ((parseReport r.orders d.parser r.bytes).1.getD []) ∧
      ∀ e ∈ (parseReport r.orders d.parser r.bytes).1.getD [], e.code ∈ bootCodes := by
  unfold parseReport
  split_ifs
  · exact ⟨fun e he => (by cases he), fun e he => (by cases he)⟩
  · refine ⟨onlyKeys_diffs _ _ _ _, fun e he => ?_⟩
    have hmod : ∀ {bytes c}, NamesMod bytes c → c ∈ bootCodes :=
      fun h => Names.mem_bootCodes (.inl h)
    have hkey : ∀ {bytes c}, NamesKey bytes c → c ∈ bootCodes :=
      fun h => Names.mem_bootCodes (.inr h)
    rw [Option.getD_some, List.mem_append, List.mem_append, List.mem_append] at he
    rcases he with ((he | he) | he) | he
    · obtain ⟨c, hc, rfl⟩ := List.mem_map.mp he
      exact hmod ((mem_missing_mods hd _ r.bytes c).1.mp hc).1
    · obtain ⟨c, hc, rfl⟩ := List.mem_map.mp he
      exact hmod ((mem_missing_mods hd _ r.bytes c).2.mp hc).1
    · obtain ⟨c, hc, rfl⟩ := List.mem_map.mp he
      exact hkey ((mem_missing_keys hd _ r.bytes c).1.mp hc).1
    · obtain ⟨c, hc, rfl⟩ := List.mem_map.mp he
      exact hkey ((mem_missing_keys hd _ r.bytes c).2.mp hc).1

/-- What is carried from the reports to the device along a run of separate reports. -/
structure Carried (device : String) (dev : Libevdev) (new : Remapper) (p : Pipe) : Prop where
  recorded : Recorded p.decoding
  faithful : Faithful p.decoding
  keys : OnlyKeys p.decoding.log
  boot : ∀ e ∈ p.decoding.log, e.code ∈ bootCodes
  wired : Wired new p.kb p.decoding.log
  device : ∃ u, p.outputs.lookup device = some u ∧ u.dev = dev ∧
    u.calls.filter (·.type = "EV_KEY") = remap (codesOf new) p.decoding.log

section Reports

variable {device : String} {dev : Libevdev} {new : Remapper} {p : Pipe}

/-- A report when the device is there: nothing raises. -/
lemma remapReport_eq {u : Uinput} (hu : p.outputs.lookup device = some u) (r : Reading) :
    let kb := ((parseReport r.orders p.decoding.parser r.bytes).1.getD []).foldl feedEvent
      (Keyboard.beginFrame p.kb)
    (remapReport device p r).decoding = p.decoding.step r ∧
      (remapReport device p r).kb = { kb with buffer := [] } ∧
      (remapReport device p r).outputs.lookup device =
        some { u with calls := u.calls ++ kb.buffer ++ [synReport] } :=
  ⟨rfl, remapFrame_eq (b := ⟨p.kb, p.outputs⟩) hu _⟩

/-- **A report that is separate is carried to the device.**

**Proof sketch.** Decoding continues a strict stream of keys of a boot keyboard, which the remapper
remaps; the device is there, so that nothing raises. -/
lemma Carried.step (hfn : ∀ k ∈ bootCodes, isFnPlaceholder (codesOf new k) = false)
    (h : Carried device dev new p) {r : Reading} (hr : Separate p.decoding r) :
    Carried device dev new (remapReport device p r) := by
  obtain ⟨u, hu, hdev, hwritten⟩ := h.device
  obtain ⟨hdecoding, hkb, houtputs⟩ := remapReport_eq hu r
  obtain ⟨hkeys, hboot⟩ := parseReport_events h.recorded r
  have hlog := log_step p.decoding r
  have hfaithful : Faithful (p.decoding.step r) :=
    (faithful_step_iff h.recorded h.faithful).mpr hr
  have hs := hfaithful.strict
  rw [hlog] at hs
  obtain ⟨hwired, hbuffer⟩ := h.wired.beginFrame.feedEvents hkeys
    (fun e he => hfn e.code (hboot e he)) hs
  constructor
  case recorded => exact hdecoding ▸ h.recorded.step r
  case faithful => exact hdecoding ▸ hfaithful
  case keys =>
    rw [hdecoding, hlog]
    exact fun e he => (List.mem_append.mp he).elim (h.keys e) (hkeys e)
  case boot =>
    rw [hdecoding, hlog]
    exact fun e he => (List.mem_append.mp he).elim (h.boot e) (hboot e)
  case wired =>
    rw [hdecoding, hlog, hkb]
    refine ⟨?_, hwired.active⟩
    rw [hwired.eq]
  case device =>
    refine ⟨_, houtputs, hdev, ?_⟩
    have hsyn : ([synReport].filter fun e => e.type = "EV_KEY") = [] := by decide
    rw [hbuffer, List.filter_append, List.filter_append, hsyn, List.append_nil, hwritten, hdecoding,
      hlog, remap_append]
    refine congrArg (_ ++ ·) (List.filter_eq_self.mpr fun e he => ?_)
    exact decide_eq_true (remap_keys _ _ e he)

/-- What the device shows of a run that has been carried to it. -/
lemma Carried.shows_iff (h : Carried device dev new p) :
    Shows device new p ↔ ∀ c, ("EV_KEY", c) ∈ dev.codes →
      (IsDown c (remap (codesOf new) p.decoding.log) ↔
        ∃ k, IsDown k p.decoding.log ∧ c ∈ codesOf new k) := by
  obtain ⟨u, hu, hdev, hwritten⟩ := h.device
  have hdown : ∀ c, IsDown c u.passed ↔
      ("EV_KEY", c) ∈ dev.codes ∧ IsDown c (remap (codesOf new) p.decoding.log) := by
    intro c
    rw [isDown_passed, ← isDown_filter_key u.calls, hwritten, hdev]
  have hshows : Shows device new p ↔ ∀ c, IsDown c u.passed ↔
      ("EV_KEY", c) ∈ u.dev.codes ∧ ∃ k, Names p.decoding.last k ∧ c ∈ codesOf new k := by
    constructor
    · rintro ⟨u', hu', h'⟩
      obtain rfl := Option.some.inj (hu.symm.trans hu')
      exact h'
    · exact fun h' => ⟨u, hu, h'⟩
  rw [hshows]
  simp only [hdown, hdev, ← h.faithful.down_iff, and_congr_right_iff]

end Reports

/-! ## Two keys with one code -/

section Usages

variable {hid hid' : UInt8} {k k' : String} (hk : hidToKey.lookup hid = some k)
  (hk' : hidToKey.lookup hid' = some k')

/-- A report without modifiers. -/
def plainReport (hids : List UInt8) : List UInt8 := [0, 0] ++ hids

/-- It names no modifier in its modifier byte. -/
lemma not_namesMod_plain (hids : List UInt8) (c : String) : ¬ NamesMod (plainReport hids) c := by
  rintro ⟨bit, -, hbit, -⟩
  exact hbit (Nat.zero_and _)

/-- Reports that name no modifier are separate. -/
lemma separate_plain {d : Decoding} {r : Reading} (hd : ∀ c, ¬ NamesMod d.last c)
    (hr : ∀ c, ¬ NamesMod r.bytes c) : Separate d r :=
  fun _ c _ => ⟨fun _ => iff_of_false (hd c) (hr c), fun h => absurd h (hr c)⟩

include hk' in
/-- A report with one key. -/
lemma namesKey_one (c : String) : NamesKey (plainReport [hid', 0, 0, 0, 0, 0]) c ↔ k' = c := by
  have hnil : hidToKey.lookup 0 = none := by decide +kernel
  simp [NamesKey, usages, plainReport, hk', hnil]

include hk hk' in
/-- A report with two keys. -/
lemma namesKey_two (c : String) :
    NamesKey (plainReport [hid, hid', 0, 0, 0, 0]) c ↔ k = c ∨ k' = c := by
  have hnil : hidToKey.lookup 0 = none := by decide +kernel
  simp [NamesKey, usages, plainReport, hk, hk', hnil]

/-- A list without repetitions that has one element. -/
lemma eq_singleton_of_nodup {l : List String} (hn : l.Nodup) (h : ∀ c, c ∈ l ↔ k = c) :
    l = [k] := by
  refine List.perm_singleton.mp ((List.perm_ext_iff_of_nodup hn (List.nodup_singleton k)).mpr ?_)
  exact fun c => (h c).trans (by rw [List.mem_singleton, eq_comm])

include hk hk' in
/-- **One of two keys is released**: the report with the other key releases it and does nothing
else. -/
lemma log_one_of_two (hne : k ≠ k') {d : Decoding} (hd : Recorded d)
    (hlast : d.last = plainReport [hid, hid', 0, 0, 0, 0]) :
    (d.step { bytes := plainReport [hid', 0, 0, 0, 0, 0] }).log = d.log ++ [key k 0] := by
  set r : Reading := { bytes := plainReport [hid', 0, 0, 0, 0, 0] }
  have hmod := fun c => mem_missing_mods hd r.orders.prevMods r.bytes c
  have hmod' := fun c => mem_missing_mods hd r.orders.mods r.bytes c
  have hkey := fun c => mem_missing_keys hd r.orders.prevKeys r.bytes c
  have hkey' := fun c => mem_missing_keys hd r.orders.keys r.bytes c
  rw [hlast] at hmod hmod' hkey hkey'
  have h₁ : missing r.orders.prevMods d.parser.prevMods (decodeMods (modByte r.bytes)) = [] :=
    List.eq_nil_iff_forall_not_mem.mpr fun c hc =>
      not_namesMod_plain _ c ((hmod c).1.mp hc).1
  have h₂ : missing r.orders.mods (decodeMods (modByte r.bytes)) d.parser.prevMods = [] :=
    List.eq_nil_iff_forall_not_mem.mpr fun c hc =>
      not_namesMod_plain _ c ((hmod' c).2.mp hc).1
  have h₃ : missing r.orders.prevKeys d.parser.prevKeys (decodeKeys (usages r.bytes)) = [k] := by
    refine eq_singleton_of_nodup (nodup_missing _ _ _) fun c => (hkey c).1.trans ?_
    rw [namesKey_two hk hk', namesKey_one hk']
    constructor
    · rintro ⟨hc | hc, hnot⟩
      · exact hc
      · exact absurd hc hnot
    · rintro rfl
      exact ⟨.inl rfl, hne.symm⟩
  have h₄ : missing r.orders.keys (decodeKeys (usages r.bytes)) d.parser.prevKeys = [] := by
    refine List.eq_nil_iff_forall_not_mem.mpr fun c hc => ?_
    obtain ⟨hnew, hold⟩ := (hkey' c).2.mp hc
    rw [namesKey_one hk'] at hnew
    rw [namesKey_two hk hk'] at hold
    exact hold (.inr hnew)
  rw [step_of_accepted (show ¬ r.bytes.length < 8 by simp [r, plainReport])]
  simp only [h₁, h₂, h₃, h₄, List.map_nil, List.map_cons, List.append_nil]

end Usages

/-- Every key of a boot keyboard has a usage. -/
lemma exists_usage {k : String} (hk : k ∈ bootCodes) : ∃ hid, hidToKey.lookup hid = some k := by
  have h : ∀ k ∈ bootCodes, ∃ p ∈ hidToKey, hidToKey.lookup p.1 = some k := by decide +kernel
  obtain ⟨p, -, hp⟩ := h k hk
  exact ⟨p.1, hp⟩

/-! ## The theorem -/

/-- A script begins. -/
lemma carried_start {outputs : Outputs} {device : String} {dev : Libevdev}
    (hdev : outputs.lookup device = some { dev := dev }) (normal modifier fn : Table String Mapping)
    (down : Bool) :
    Carried device dev (newKeyboard normal modifier fn down)
      { kb := newKeyboard normal modifier fn down, outputs := outputs } := by
  refine ⟨recorded_start, faithful_start, ?_, ?_, ⟨rfl, fun k m => ?_⟩, _, hdev, rfl, rfl⟩
  · intro e he
    cases he
  · intro e he
    cases he
  · simp [newKeyboard, setFnDown, IsDown]

end Aelkey.Output
