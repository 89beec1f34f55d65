import Aelkey.Lib.Run
import Aelkey.Touchpad.Frame
import Mathlib.Data.List.Induction

set_option relaxedAutoImplicit false
set_option autoImplicit false

/-!
# The touchpad and the kernel's multitouch slots

A run is a sequence of complete frames. The events of every frame are replayed on the receiver's
side of the slot protocol, and after every frame its open slots should be the slots of the
touching contacts.

`feed_contact` queues slot events for touching contacts only, and `end_frame` closes the slots of
the contacts that were not fed. A slot whose contact is reported as not touching is therefore left
open when it was open before: after an earlier frame, or through an earlier report of the same
frame. This is the only way in which the two sides part.

## Main definitions

* `Aelkey.Touchpad.Play` — the pad, the receiver, and the reports of the last frame.
* `Aelkey.Touchpad.Synced` — the receiver's open slots are those of the touching contacts.
* `Aelkey.Touchpad.NoSilentLift` — no open slot is reported as not touching.
* `Aelkey.Touchpad.Feeding` — the invariant inside a frame.

## Main results

* `Aelkey.Touchpad.synced_iff_noSilentLift` — the two sides agree after every frame exactly as long
  as no slot is lifted silently.
* `Aelkey.Touchpad.not_synced_silentLift` — a run in which they part.
-/

namespace Aelkey.Touchpad

open Evdev MTSlots

/-! ## Frames -/

/-- A slot with a touching flag, for each report that counts. -/
abbrev Touches := List (ℤ × Bool)

/-- The last touching flag of slot `s`. -/
def lastTouch (l : Touches) (s : ℤ) : Option Bool :=
  l.foldl (fun o e => if e.1 = s then some e.2 else o) none

/-- The reports of a frame that count. -/
def touches (maxSlots : ℚ) (reports : List Report) : Touches :=
  reports.filterMap (Report.effect maxSlots)

/-- A complete frame. The edge detector is shared with other code, which may leave it in any
state. -/
structure Frame where
  reports : List Report
  orders : Orders := default
  edge : Edge := {}

/-- The pad, the receiver of its events, the reports of the last frame that count, and the number
of tracking ids allocated so far. -/
structure Play where
  pad : Pad
  kernel : MTSlots.State ℚ
  last : Touches
  allocated : ℕ

/-- Whether a report makes `feed_contact` call `new_tracking_id`. -/
def allocates (self : Pad) (r : Report) : Bool :=
  match r.effect self.maxSlots with
  | some (s, _) => s ∉ self.slots
  | none => false

/-- Feed the reports of a frame, counting the allocated tracking ids. -/
def feedAll (p : Pad × ℕ) (reports : List Report) : Pad × ℕ :=
  reports.foldl (fun p r => (feedContact p.1 r, p.2 + (allocates p.1 r).toNat)) p

/-- A complete frame: `begin_frame`, the reports, `end_frame`, and the replay of the events. -/
def step (p : Play) (f : Frame) : Play :=
  let fed := feedAll (beginFrame p.pad, p.allocated) f.reports
  let pad := (endFrame f.orders fed.1 f.edge).1
  { pad := pad
    kernel := replay p.kernel pad.events
    last := touches p.pad.maxSlots f.reports
    allocated := fed.2 }

/-- A new pad in multitouch mode and a receiver without open slots. -/
def start (maxSlots current : ℚ) : Play where
  pad := { maxSlots := maxSlots }
  kernel := ⟨current, ∅⟩
  last := []
  allocated := 0

/-- After a frame: the open slots are those whose last report was touching, with the tracking id
recorded in `slots`, and there are `finger_count` of them. -/
structure Synced (p : Play) : Prop where
  open_iff : ∀ q v, p.kernel.ids.lookup q = some v ↔
    ∃ (s : ℤ) (t : ℕ), q = s ∧ v = t ∧ lastTouch p.last s = some true ∧
      p.pad.slots.lookup s = some t
  recorded : ∀ s, lastTouch p.last s = some true → s ∈ p.pad.slots
  count : p.kernel.ids.entries.length = p.pad.fingerCount

/-- No slot whose last report in the frame is not touching was reported as touching earlier in the
frame or at the end of the last one. -/
def NoSilentLift (p : Play) (f : Frame) : Prop :=
  ∀ e ∈ touches p.pad.maxSlots f.reports,
    lastTouch (touches p.pad.maxSlots f.reports) e.1 = some false →
      (e.1, true) ∉ touches p.pad.maxSlots f.reports ∧ lastTouch p.last e.1 ≠ some true

instance (p : Play) (f : Frame) : Decidable (NoSilentLift p f) :=
  List.decidableBAll _ _

/-- One more report. -/
lemma lastTouch_concat (l : Touches) (e : ℤ × Bool) (s : ℤ) :
    lastTouch (l ++ [e]) s = if e.1 = s then some e.2 else lastTouch l s := by
  simp [lastTouch, List.foldl_append]

/-- A slot has a last report iff it has a report. -/
lemma lastTouch_isSome (l : Touches) (s : ℤ) :
    lastTouch l s ≠ none ↔ ∃ b, (s, b) ∈ l := by
  induction l using List.reverseRecOn with
  | nil => simp [lastTouch]
  | append_singleton l e ih =>
    obtain ⟨s', b'⟩ := e
    rw [lastTouch_concat]
    by_cases h : s' = s
    · subst h; simp
    · simp [h, Ne.symm h, ih]

/-- The last report is one of the reports. -/
lemma mem_of_lastTouch {l : Touches} {s : ℤ} {b : Bool} (h : lastTouch l s = some b) :
    (s, b) ∈ l := by
  induction l using List.reverseRecOn with
  | nil => simp [lastTouch] at h
  | append_singleton l e ih =>
    obtain ⟨s', b'⟩ := e
    rw [lastTouch_concat] at h
    split_ifs at h with hs
    · simp only [Option.some.injEq] at h
      subst hs h
      simp
    · exact List.mem_append_left _ (ih h)

/-! ## The invariants -/

/-- Between frames: every slot has a live contact of its own, tracking ids are used in order, and
the slots of the last frame's reports are there. -/
structure Rest (p : Play) : Prop where
  mode : p.pad.mode = .multitouch
  next : p.pad.nextTrackingId = p.allocated + 1
  slots : ∀ s t, p.pad.slots.lookup s = some t →
    t ≤ p.allocated ∧ ∃ c, p.pad.contacts.lookup t = some c ∧ c.ended = false
  contacts : ∀ t c, p.pad.contacts.lookup t = some c → ∃ s, p.pad.slots.lookup s = some t
  inj : ∀ s s' t, p.pad.slots.lookup s = some t → p.pad.slots.lookup s' = some t → s = s'
  reported : ∀ s, lastTouch p.last s ≠ none → s ∈ p.pad.slots

/-- Inside a frame, after the reports `l`, with `n` tracking ids allocated so far: as between
frames, and a contact has been seen if its slot is reported and touches as the last report says.
The receiver has a slot open if a report of the frame touches it or the last one of the frame
before, `prev`, did. -/
structure Feeding (prev l : Touches) (n : ℕ) (k : MTSlots.State ℚ) (p : Pad) : Prop where
  mode : p.mode = .multitouch
  ended : p.ended = []
  next : p.nextTrackingId = n + 1
  slots : ∀ s t, p.slots.lookup s = some t → t ≤ n ∧ ∃ c, p.contacts.lookup t = some c ∧
    c.ended = false ∧ c.seenThisFrame = (lastTouch l s).isSome ∧
    ∀ b, lastTouch l s = some b → c.touching = b
  contacts : ∀ t c, p.contacts.lookup t = some c → ∃ s, p.slots.lookup s = some t
  inj : ∀ s s' t, p.slots.lookup s = some t → p.slots.lookup s' = some t → s = s'
  reported : ∀ s, lastTouch l s ≠ none → s ∈ p.slots
  before : ∀ s, lastTouch prev s = some true → s ∈ p.slots
  kernel : ∀ q v, k.ids.lookup q = some v ↔ ∃ (s : ℤ) (t : ℕ), q = s ∧ v = t ∧
    p.slots.lookup s = some t ∧ ((s, true) ∈ l ∨ lastTouch prev s = some true)

/-- The invariant after `begin_frame`. -/
lemma feeding_beginFrame {p : Play} (h : Rest p) (hs : Synced p) :
    Feeding p.last [] p.allocated p.kernel (beginFrame p.pad) := by
  have hcontacts : ∀ t, (beginFrame p.pad).contacts.lookup t =
      (p.pad.contacts.lookup t).map fun c => { c with seenThisFrame := false } := fun t =>
    Table.lookup_mapValues _ _ t
  constructor
  case mode => exact h.mode
  case ended => exact rfl
  case next => exact h.next
  case slots =>
    intro s t hst
    obtain ⟨hle, c, hc, hend⟩ := h.slots s t hst
    refine ⟨hle, { c with seenThisFrame := false }, ?_, hend, rfl, by simp [lastTouch]⟩
    rw [hcontacts, hc, Option.map_some]
  case contacts =>
    intro t c hc
    rw [hcontacts] at hc
    obtain ⟨c', hc', -⟩ := Option.map_eq_some_iff.mp hc
    exact h.contacts t c' hc'
  case inj => exact h.inj
  case reported => simp [lastTouch]
  case before => exact hs.recorded
  case kernel =>
    intro q v
    rw [hs.open_iff]
    simp only [List.not_mem_nil, false_or]
    exact exists_congr fun s => exists_congr fun t => by tauto

/-- The slot of a report that counts holds a tracking id that no other slot has, within the ids
allocated so far. -/
lemma Feeding.tid_spec {prev l : Touches} {n : ℕ} {k : MTSlots.State ℚ} {p p' : Pad} {s : ℤ}
    {b : Bool} {tid : ℕ} (h : Feeding prev l n k p) (hf : Fed p p' s b tid) {n' : ℕ}
    (hn' : n' = n + (decide (s ∉ p.slots)).toNat) (hlt : n' < 65535) :
    tid ≤ n' ∧ p'.nextTrackingId = n' + 1 ∧ ∀ s', p.slots.lookup s' = some tid → s' = s := by
  have htid := hf.tid_eq
  have hnext := hf.next
  rcases hs : p.slots.lookup s with _ | t
  · have hnot : s ∉ p.slots := AList.lookup_eq_none.mp hs
    simp only [hnot, not_false_eq_true, decide_true, Bool.toNat_true] at hn'
    rw [hs, Option.getD_none, h.next] at htid
    rw [if_neg hnot, h.next] at hnext
    refine ⟨by omega, by omega, fun s' hs' => ?_⟩
    have := (h.slots s' tid hs').1
    omega
  · have hin : s ∈ p.slots := Table.mem_of_lookup hs
    simp only [hin, not_true_eq_false, decide_false, Bool.toNat_false, Nat.add_zero] at hn'
    rw [hs, Option.getD_some] at htid
    rw [if_pos hin, h.next] at hnext
    have hle := (h.slots s t hs).1
    exact ⟨by omega, by omega, fun s' hs' => h.inj s' s tid hs' (htid ▸ hs)⟩

/-- The receiver's side of a report that counts. -/
lemma Fed.replay_events {p p' : Pad} {s : ℤ} {b : Bool} {tid : ℕ} (hf : Fed p p' s b tid)
    (k : MTSlots.State ℚ) (q : ℚ) :
    (replay k p'.events).ids.lookup q =
      if b = true ∧ q = s then some (tid : ℚ) else (replay k p.events).ids.lookup q := by
  obtain ⟨evs, hevs, hevents⟩ := hf.events
  have htid : (tid : ℚ) ≠ -1 := by
    have : (0 : ℚ) ≤ tid := Nat.cast_nonneg tid
    linarith
  cases b with
  | false => simp [hevents]
  | true =>
    rw [hevents, if_pos rfl, replay_append, replay_append, replay_openSlot _ _ htid,
      replay_neutral _ _ hevs, Table.lookup_insert]
    simp

/-- The open slots of the receiver after a report that counts.

**Proof sketch.** If the report opens the slot, the receiver learns the tracking id recorded for
it. Otherwise the receiver changes nothing, and the tracking id of a slot that is open has not
changed either. -/
lemma Feeding.kernel_feed {prev l : Touches} {n : ℕ} {k : MTSlots.State ℚ} {p p' : Pad} {s : ℤ}
    {b : Bool} {tid : ℕ} (h : Feeding prev l n (replay k p.events) p) (hf : Fed p p' s b tid)
    (q v : ℚ) :
    (replay k p'.events).ids.lookup q = some v ↔ ∃ (s' : ℤ) (t : ℕ), q = s' ∧ v = t ∧
      p'.slots.lookup s' = some t ∧
      ((s', true) ∈ l ++ [(s, b)] ∨ lastTouch prev s' = some true) := by
  rw [hf.replay_events]
  split_ifs with hq
  · obtain ⟨rfl, rfl⟩ := hq
    constructor
    · intro hv
      exact ⟨s, tid, rfl, (Option.some.inj hv).symm, by rw [hf.slots, if_pos rfl], by simp⟩
    · rintro ⟨s', t, hs', rfl, ht, -⟩
      obtain rfl : s = s' := by exact_mod_cast hs'
      rw [hf.slots, if_pos rfl] at ht
      rw [Option.some.inj ht]
  · rw [h.kernel]
    refine exists_congr fun s' => exists_congr fun t => and_congr_right fun hs' =>
      and_congr_right fun _ => ?_
    rw [hf.slots]
    by_cases hss : s' = s
    · -- a report that is not touching, for the slot in question
      obtain rfl : b = false := by
        rw [Bool.eq_false_iff]
        exact fun hb => hq ⟨hb, by rw [hs', hss]⟩
      subst hss
      simp only [if_pos, List.mem_append, List.mem_singleton, Prod.mk.injEq, Bool.true_eq_false,
        and_false, or_false]
      have hkeep : ∀ t', p.slots.lookup s' = some t' → tid = t' := by
        intro t' ht'
        rw [hf.tid_eq, ht', Option.getD_some]
      constructor
      · intro ⟨ht, hopen⟩
        exact ⟨by rw [hkeep t ht], hopen⟩
      · intro ⟨ht, hopen⟩
        have hin : s' ∈ p.slots := by
          rcases hopen with hopen | hopen
          · exact h.reported s' ((lastTouch_isSome l s').mpr ⟨true, hopen⟩)
          · exact h.before s' hopen
        obtain ⟨t', ht'⟩ := Table.mem_iff_lookup.mp hin
        exact ⟨by rw [ht', ← hkeep t' ht', ht], hopen⟩
    · simp [hss]

/-- The slots after a report that counts are that of the report and those before. -/
lemma Fed.mem_slots {p p' : Pad} {s : ℤ} {b : Bool} {tid : ℕ} (hf : Fed p p' s b tid) (s' : ℤ) :
    s' ∈ p'.slots ↔ s' = s ∨ s' ∈ p.slots := by
  rw [Table.mem_iff_lookup, Table.mem_iff_lookup, hf.slots]
  split_ifs with hs
  · exact iff_of_true ⟨tid, rfl⟩ (.inl hs)
  · exact (or_iff_right hs).symm

/-- The contacts of the slots after a report that counts: the report has fed the one of its slot,
and the others are as before. -/
lemma Feeding.slots_fed {prev l : Touches} {n n' : ℕ} {k : MTSlots.State ℚ} {p p' : Pad} {s : ℤ}
    {b : Bool} {tid : ℕ} (h : Feeding prev l n k p) (hf : Fed p p' s b tid) (hn : n ≤ n')
    (hle : tid ≤ n') (hown : ∀ s', p.slots.lookup s' = some tid → s' = s) (s' : ℤ) (t : ℕ)
    (hst : p'.slots.lookup s' = some t) :
    t ≤ n' ∧ ∃ c, p'.contacts.lookup t = some c ∧ c.ended = false ∧
      c.seenThisFrame = (lastTouch (l ++ [(s, b)]) s').isSome ∧
      ∀ b', lastTouch (l ++ [(s, b)]) s' = some b' → c.touching = b' := by
  obtain ⟨c, hseen, hend, htouch, hcontacts⟩ := hf.contacts
  rw [hf.slots] at hst
  split_ifs at hst with hs'
  · obtain rfl := Option.some.inj hst
    subst hs'
    refine ⟨hle, c, by rw [hcontacts, if_pos rfl], hend, ?_, ?_⟩
    · simp [lastTouch_concat, hseen]
    · simp [lastTouch_concat, htouch]
  · obtain ⟨hle', c', hc', hend', hseen', htouch'⟩ := h.slots s' t hst
    have hne : t ≠ tid := by
      rintro rfl
      exact hs' (hown s' hst)
    refine ⟨hle'.trans hn, c', ?_, hend', ?_, ?_⟩
    · rw [hcontacts, if_neg hne, hc']
    · rw [lastTouch_concat, if_neg (Ne.symm hs'), hseen']
    · rw [lastTouch_concat, if_neg (Ne.symm hs')]
      exact htouch'

/-- Every contact after a report that counts has a slot. -/
lemma Feeding.contacts_fed {prev l : Touches} {n : ℕ} {k : MTSlots.State ℚ} {p p' : Pad} {s : ℤ}
    {b : Bool} {tid : ℕ} (h : Feeding prev l n k p) (hf : Fed p p' s b tid) (t : ℕ) (c : Contact)
    (hc : p'.contacts.lookup t = some c) : ∃ s', p'.slots.lookup s' = some t := by
  obtain ⟨_, _, _, _, hcontacts⟩ := hf.contacts
  rw [hcontacts] at hc
  split_ifs at hc with ht
  · exact ⟨s, by rw [hf.slots, if_pos rfl, ht]⟩
  · obtain ⟨s', hs'⟩ := h.contacts t c hc
    have hne : s' ≠ s := by
      rintro rfl
      exact ht (by rw [hf.tid_eq, hs', Option.getD_some])
    exact ⟨s', by rw [hf.slots, if_neg hne, hs']⟩

/-- Two slots after a report that counts have different tracking ids. -/
lemma Feeding.inj_fed {prev l : Touches} {n : ℕ} {k : MTSlots.State ℚ} {p p' : Pad} {s : ℤ}
    {b : Bool} {tid : ℕ} (h : Feeding prev l n k p) (hf : Fed p p' s b tid)
    (hown : ∀ s', p.slots.lookup s' = some tid → s' = s) (s₁ s₂ : ℤ) (t : ℕ)
    (h₁ : p'.slots.lookup s₁ = some t) (h₂ : p'.slots.lookup s₂ = some t) : s₁ = s₂ := by
  rw [hf.slots] at h₁ h₂
  split_ifs at h₁ h₂ with hs₁ hs₂ hs₂
  · rw [hs₁, hs₂]
  · obtain rfl := Option.some.inj h₁
    exact absurd (hown s₂ h₂) hs₂
  · obtain rfl := Option.some.inj h₂
    exact absurd (hown s₁ h₁) hs₁
  · exact h.inj s₁ s₂ t h₁ h₂

/-- **One report keeps the invariant.**

**Proof sketch.** A report that does not count changes nothing. Otherwise only the slot of the
report, its tracking id and its contact change; the tracking id belongs to no other slot, so the
statements about the other slots carry over. -/
lemma Feeding.feed {prev l : Touches} {n : ℕ} {k : MTSlots.State ℚ} {p : Pad} {r : Report}
    (h : Feeding prev l n (replay k p.events) p) (hn : n + (allocates p r).toNat < 65535) :
    Feeding prev (l ++ (r.effect p.maxSlots).toList) (n + (allocates p r).toNat)
      (replay k (feedContact p r).events) (feedContact p r) := by
  rcases he : r.effect p.maxSlots with _ | ⟨s, b⟩
  · have ha : allocates p r = false := by simp [allocates, he]
    simpa [feedContact_none h.mode he, ha] using h
  · obtain ⟨tid, hf⟩ := feedContact_some h.mode he
    have ha : allocates p r = decide (s ∉ p.slots) := by simp [allocates, he]
    rw [ha] at hn ⊢
    obtain ⟨hle, hnext, hown⟩ := h.tid_spec hf rfl hn
    simp only [Option.toList_some]
    constructor
    case mode => exact hf.mode.trans h.mode
    case ended => exact hf.ended.trans h.ended
    case next => exact hnext
    case slots => exact h.slots_fed hf (Nat.le_add_right n _) hle hown
    case contacts => exact h.contacts_fed hf
    case inj => exact h.inj_fed hf hown
    case reported =>
      intro s' hs'
      rw [lastTouch_concat] at hs'
      split_ifs at hs' with hs
      · exact (hf.mem_slots s').mpr (.inl hs.symm)
      · exact (hf.mem_slots s').mpr (.inr (h.reported s' hs'))
    case before =>
      intro s' hs'
      exact (hf.mem_slots s').mpr (.inr (h.before s' hs'))
    case kernel => exact h.kernel_feed hf

/-- Feeding does not change the number of slots. -/
lemma feedContact_maxSlots {p : Pad} (hm : p.mode = .multitouch) (r : Report) :
    (feedContact p r).maxSlots = p.maxSlots := by
  rcases he : r.effect p.maxSlots with _ | ⟨s, b⟩
  · rw [feedContact_none hm he]
  · obtain ⟨tid, hf⟩ := feedContact_some hm he
    exact hf.maxSlots

/-- No tracking id is given back. -/
lemma le_feedAll (p : Pad × ℕ) (reports : List Report) : p.2 ≤ (feedAll p reports).2 := by
  induction reports generalizing p with
  | nil => exact le_rfl
  | cons r rs ih =>
    have hle := ih (feedContact p.1 r, p.2 + (allocates p.1 r).toNat)
    exact (Nat.le_add_right _ _).trans hle

/-- **A list of reports keeps the invariant.**

**Proof sketch.** Induction on the list, one report at a time. -/
lemma Feeding.feedAll {prev : Touches} {k : MTSlots.State ℚ} (reports : List Report) :
    ∀ {l : Touches} {n : ℕ} {p : Pad}, Feeding prev l n (replay k p.events) p →
      (feedAll (p, n) reports).2 < 65535 →
      Feeding prev (l ++ touches p.maxSlots reports) (Touchpad.feedAll (p, n) reports).2
        (replay k (Touchpad.feedAll (p, n) reports).1.events)
        (Touchpad.feedAll (p, n) reports).1 := by
  induction reports with
  | nil =>
    intro l n p h _
    simpa [touches, Touchpad.feedAll] using h
  | cons r rs ih =>
    intro l n p h hn
    have hle := le_feedAll (feedContact p r, n + (allocates p r).toNat) rs
    have hnext := h.feed (lt_of_le_of_lt hle hn)
    have hrest := ih hnext hn
    rw [feedContact_maxSlots h.mode] at hrest
    have happend : l ++ touches p.maxSlots (r :: rs) =
        l ++ (r.effect p.maxSlots).toList ++ touches p.maxSlots rs := by
      cases hr : r.effect p.maxSlots <;> simp [touches, hr]
    rw [happend]
    exact hrest

/-! ## The end of a frame -/

section EndFrame

variable {prev l : Touches} {n : ℕ} {k : MTSlots.State ℚ} {p p' : Pad}

/-- The slots after `end_frame` are those of the frame's reports. -/
lemma Ended.slots_iff (he : Ended p p') (h : Feeding prev l n (replay k p.events) p) (s : ℤ)
    (t : ℕ) :
    p'.slots.lookup s = some t ↔ p.slots.lookup s = some t ∧ lastTouch l s ≠ none := by
  rw [he.slots]
  refine and_congr_right fun hst => ?_
  obtain ⟨-, c, hc, hend, hseen, -⟩ := h.slots s t hst
  rw [← Option.isSome_iff_ne_none, ← hseen]
  constructor
  · intro hall
    simpa [Contact.stays, hend] using hall c hc
  · intro hs c' hc'
    obtain rfl := Option.some.inj (hc.symm.trans hc')
    simp [Contact.stays, hend, hs]

/-- The open slots of the receiver after `end_frame`: those that the frame has touched, or that
were touched before, among the slots of the frame's reports.

**Proof sketch.** `end_frame` closes the slots without a report in this frame. -/
lemma Ended.kernel_iff (he : Ended p p') (h : Feeding prev l n (replay k p.events) p) (q v : ℚ) :
    (replay k p'.events).ids.lookup q = some v ↔ ∃ (s : ℤ) (t : ℕ), q = s ∧ v = t ∧
      p'.slots.lookup s = some t ∧ ((s, true) ∈ l ∨ lastTouch prev s = some true) := by
  obtain ⟨closed, evs, hevs, hevents, hclosed⟩ := he.events
  have hflat : (closed.flatMap fun s : ℤ => closeSlot (s : ℚ)) =
      (closed.map fun s : ℤ => (s : ℚ)).flatMap closeSlot := by
    rw [List.flatMap_map]
  rw [hevents, replay_append, replay_append, replay_neutral _ _ hevs, hflat,
    lookup_replay_closeSlots]
  have hmem : ∀ s : ℤ, (s : ℚ) ∈ closed.map (fun s : ℤ => (s : ℚ)) ↔ s ∈ closed := fun s =>
    List.mem_map_of_injective Int.cast_injective
  have hunseen : ∀ s t, p.slots.lookup s = some t → (s ∈ closed ↔ lastTouch l s = none) := by
    intro s t hst
    obtain ⟨-, c, hc, hend, hseen, -⟩ := h.slots s t hst
    rw [hclosed, ← Option.not_isSome_iff_eq_none, ← hseen, Bool.not_eq_true]
    constructor
    · intro ⟨t', c', ht', hc', hfalse⟩
      obtain rfl := Option.some.inj (hst.symm.trans ht')
      rwa [Option.some.inj (hc.symm.trans hc')]
    · exact fun hfalse => ⟨t, c, hst, hc, hfalse⟩
  constructor
  · intro hq
    split_ifs at hq with hin
    obtain ⟨s, t, rfl, rfl, hst, hopen⟩ := (h.kernel q v).mp hq
    rw [hmem, hunseen s t hst] at hin
    exact ⟨s, t, rfl, rfl, (he.slots_iff h s t).mpr ⟨hst, hin⟩, hopen⟩
  · rintro ⟨s, t, rfl, rfl, hst, hopen⟩
    obtain ⟨hst', hin⟩ := (he.slots_iff h s t).mp hst
    rw [Ne, ← hunseen s t hst', ← hmem] at hin
    rw [if_neg hin]
    exact (h.kernel _ _).mpr ⟨s, t, rfl, rfl, hst', hopen⟩

/-- What is left after `end_frame` is as between frames. -/
lemma Ended.rest (he : Ended p p') (h : Feeding prev l n (replay k p.events) p)
    (k' : MTSlots.State ℚ) : Rest ⟨p', k', l, n⟩ := by
  refine ⟨he.mode.trans h.mode, he.next.trans h.next, fun s t hst => ?_, fun t c hc => ?_,
    fun s s' t hs hs' => ?_, fun s hs => ?_⟩
  · obtain ⟨hst', hin⟩ := (he.slots_iff h s t).mp hst
    obtain ⟨hle, c, hc, hend, hseen, -⟩ := h.slots s t hst'
    refine ⟨hle, c, (he.contacts t c).mpr ⟨hc, ?_⟩, hend⟩
    simp [Contact.stays, hend, hseen, Option.isSome_iff_ne_none.mpr hin]
  · obtain ⟨hc', hstays⟩ := (he.contacts t c).mp hc
    obtain ⟨s, hst⟩ := h.contacts t c hc'
    obtain ⟨-, c', hc'', -, hseen, -⟩ := h.slots s t hst
    obtain rfl := Option.some.inj (hc'.symm.trans hc'')
    refine ⟨s, (he.slots_iff h s t).mpr ⟨hst, ?_⟩⟩
    rw [← Option.isSome_iff_ne_none, ← hseen]
    simp only [Contact.stays, Bool.and_eq_true] at hstays
    exact hstays.2
  · exact h.inj s s' t ((he.slots_iff h s t).mp hs).1 ((he.slots_iff h s' t).mp hs').1
  · obtain ⟨t, ht⟩ := Table.mem_iff_lookup.mp (h.reported s hs)
    exact Table.mem_of_lookup ((he.slots_iff h s t).mpr ⟨ht, hs⟩)

/-- A tracking id is counted as a finger iff the last report of its slot is touching. -/
lemma Ended.touching_iff (he : Ended p p') (h : Feeding prev l n (replay k p.events) p) (t : ℕ) :
    (∃ c, p.contacts.lookup t = some c ∧ (c.stays && c.touching) = true) ↔
      ∃ s, p'.slots.lookup s = some t ∧ lastTouch l s = some true := by
  constructor
  · rintro ⟨c, hc, hct⟩
    obtain ⟨s, hst⟩ := h.contacts t c hc
    obtain ⟨-, c', hc', hend, hseen, htouch⟩ := h.slots s t hst
    obtain rfl := Option.some.inj (hc.symm.trans hc')
    simp only [Contact.stays, hend, Bool.not_false, Bool.true_and, Bool.and_eq_true] at hct
    obtain ⟨b, hb⟩ := Option.isSome_iff_exists.mp (hseen.symm.trans hct.1)
    rw [← htouch b hb, hct.2] at hb
    exact ⟨s, (he.slots_iff h s t).mpr ⟨hst, by simp [hb]⟩, hb⟩
  · rintro ⟨s, hst, hb⟩
    obtain ⟨-, c, hc, hend, hseen, htouch⟩ := h.slots s t ((he.slots_iff h s t).mp hst).1
    refine ⟨c, hc, ?_⟩
    simp [Contact.stays, hend, hseen, htouch true hb, hb]

/-- If the open slots are those whose last report is touching, there are `finger_count` of them.

**Proof sketch.** The tracking ids of the open slots and those of the contacts counted as fingers
are two lists without repetition and with the same members. -/
lemma Ended.count (he : Ended p p') (h : Feeding prev l n (replay k p.events) p)
    (hopen : ∀ q v, (replay k p'.events).ids.lookup q = some v ↔ ∃ (s : ℤ) (t : ℕ), q = s ∧ v = t ∧
      lastTouch l s = some true ∧ p'.slots.lookup s = some t) :
    (replay k p'.events).ids.entries.length = p'.fingerCount := by
  set fingers := p.contacts.entries.filter fun e => e.2.stays && e.2.touching with hfingers
  have hnodup : (fingers.map fun e => (e.1 : ℚ)).Nodup := by
    have hkeys : (fingers.map fun e => e.1).Nodup :=
      (List.filter_sublist.map _).nodup p.contacts.nodupKeys
    simpa [Function.comp_def] using hkeys.map (Nat.cast_injective (R := ℚ))
  rw [Table.length_entries_of_values hnodup, List.length_map, he.fingerCount,
    List.countP_eq_length_filter]
  · intro q q' v hq hq'
    obtain ⟨s, t, rfl, rfl, -, hs⟩ := (hopen q v).mp hq
    obtain ⟨s', t', rfl, ht, -, hs'⟩ := (hopen q' t).mp hq'
    obtain rfl : t = t' := by exact_mod_cast ht
    rw [(he.rest h (replay k p'.events)).inj s s' t hs hs']
  · intro v
    have hfinger : ∀ t : ℕ, (∃ c, (⟨t, c⟩ : Σ _ : ℕ, Contact) ∈ fingers) ↔
        ∃ s, p'.slots.lookup s = some t ∧ lastTouch l s = some true := by
      intro t
      rw [← he.touching_iff h]
      simp only [hfingers, List.mem_filter]
      exact exists_congr fun c => and_congr_left fun _ => AList.mem_lookup_iff.symm
    rw [List.mem_map]
    constructor
    · rintro ⟨⟨t, c⟩, hmem, rfl⟩
      obtain ⟨s, hst, hs⟩ := (hfinger t).mp ⟨c, hmem⟩
      exact ⟨s, (hopen _ _).mpr ⟨s, t, rfl, rfl, hs, hst⟩⟩
    · intro ⟨q, hq⟩
      obtain ⟨s, t, rfl, rfl, hs, hst⟩ := (hopen q v).mp hq
      obtain ⟨c, hmem⟩ := (hfinger t).mpr ⟨s, hst, hs⟩
      exact ⟨⟨t, c⟩, hmem, rfl⟩

/-- After `end_frame` the two sides agree iff no slot whose last report is not touching has been
touched earlier in the frame or at the end of the last one. -/
lemma Ended.synced_iff (he : Ended p p') (h : Feeding prev l n (replay k p.events) p) :
    Synced ⟨p', replay k p'.events, l, n⟩ ↔
      ∀ e ∈ l, lastTouch l e.1 = some false →
        (e.1, true) ∉ l ∧ lastTouch prev e.1 ≠ some true := by
  have hrest := he.rest h (replay k p'.events)
  constructor
  · rintro ⟨hopen, -, -⟩ ⟨s, b⟩ - hfalse
    obtain ⟨t, hst⟩ := Table.mem_iff_lookup.mp (hrest.reported s (by simp [hfalse]))
    rw [Ne, ← not_or]
    intro htouched
    have hq := (he.kernel_iff h s t).mpr ⟨s, t, rfl, rfl, hst, htouched⟩
    obtain ⟨s', -, hs', -, htrue, -⟩ := (hopen s t).mp hq
    obtain rfl : s = s' := by exact_mod_cast hs'
    simp [hfalse] at htrue
  · intro hsilent
    have hopen : ∀ q v, (replay k p'.events).ids.lookup q = some v ↔
        ∃ (s : ℤ) (t : ℕ), q = s ∧ v = t ∧ lastTouch l s = some true ∧
          p'.slots.lookup s = some t := by
      intro q v
      rw [he.kernel_iff h]
      refine exists_congr fun s => exists_congr fun t => and_congr_right fun _ =>
        and_congr_right fun _ => ?_
      constructor
      · intro ⟨hst, htouched⟩
        refine ⟨?_, hst⟩
        rcases hb : lastTouch l s with _ | b
        · exact absurd hb ((he.slots_iff h s t).mp hst).2
        · cases b with
          | true => rfl
          | false =>
            have hnot := hsilent (s, false) (mem_of_lastTouch hb) hb
            exact absurd htouched (not_or.mpr hnot)
      · intro ⟨htrue, hst⟩
        exact ⟨hst, .inl (mem_of_lastTouch htrue)⟩
    exact ⟨hopen, fun s hs => hrest.reported s (by simp [hs]), he.count h hopen⟩

end EndFrame

/-! ## Runs -/

/-- The invariant at the end of the reports of a frame. -/
lemma feeding_step {p : Play} {f : Frame} (h : Rest p) (hs : Synced p)
    (hn : (step p f).allocated < 65535) :
    Feeding p.last (touches p.pad.maxSlots f.reports) (step p f).allocated
      (replay p.kernel (feedAll (beginFrame p.pad, p.allocated) f.reports).1.events)
      (feedAll (beginFrame p.pad, p.allocated) f.reports).1 :=
  Feeding.feedAll f.reports (l := []) (feeding_beginFrame h hs) hn

/-- What the `end_frame` of a frame leaves behind. -/
lemma ended_step {p : Play} {f : Frame} (h : Rest p) (hs : Synced p)
    (hn : (step p f).allocated < 65535) :
    Ended (feedAll (beginFrame p.pad, p.allocated) f.reports).1 (step p f).pad :=
  endFrame_ended f.orders f.edge (feeding_step h hs hn).mode (feeding_step h hs hn).ended

/-- A new pad is as between frames. -/
lemma rest_start (maxSlots current : ℚ) : Rest (start maxSlots current) :=
  ⟨rfl, rfl, by simp [start], by simp [start], by simp [start], by simp [start, lastTouch]⟩

/-- A new pad and a receiver without open slots agree. -/
lemma synced_start (maxSlots current : ℚ) : Synced (start maxSlots current) :=
  ⟨by simp [start, lastTouch], by simp [start, lastTouch], rfl⟩

/-- **The receiver's slots follow the touching contacts exactly as long as no slot is lifted
silently.** After every frame of a run with fewer than 65535 tracking ids the open slots are those
whose last report was touching, with the recorded tracking ids, iff in every frame no slot whose
last report is not touching was touched earlier in the frame or at the end of the frame before.

**Proof sketch.** `Rest` and `Synced` give the invariant inside the frame, which every report
keeps. At the end of the frame the receiver has exactly the touched slots of the frame's reports
open, which are those of the touching contacts iff no slot was lifted silently. -/
theorem synced_iff_noSilentLift (maxSlots current : ℚ) (frames : List Frame)
    (h : (frames.foldl step (start maxSlots current)).allocated < 65535) :
    Run.Always step Synced (start maxSlots current) frames ↔
      Run.EachStep step NoSilentLift (start maxSlots current) frames := by
  have hbelow : Run.Always step (fun p => p.allocated < 65535) (start maxSlots current) frames := by
    refine Run.always_of_last (L := fun p : Play => p.allocated < 65535) (fun p f hlt => ?_) h
    exact lt_of_le_of_lt (le_feedAll (beginFrame p.pad, p.allocated) f.reports) hlt
  refine Run.always_iff_eachStep (I := Rest) ?_ ?_ (rest_start _ _) (synced_start _ _) hbelow
  · intro p f hrest hs hn _
    exact (ended_step hrest hs hn).rest (feeding_step hrest hs hn) _
  · intro p f hrest hs hn
    exact (ended_step hrest hs hn).synced_iff (feeding_step hrest hs hn)

/-- A touch at slot 0 followed by a frame without contacts. -/
theorem synced_iff_noSilentLift_tap :
    Run.Always step Synced (start 5 0)
      [{ reports := [{ x := some 3, y := some 4 }] }, { reports := [] }] :=
  (synced_iff_noSilentLift 5 0 _ (by decide +kernel)).mpr (by decide +kernel)

/-- **A slot that stays open.** Slot 0 is touched in one frame and reported as not touching in the
next: the receiver has it open, and the finger count is 0. -/
theorem not_synced_silentLift :
    ¬ ∀ (maxSlots current : ℚ) (frames : List Frame),
      (frames.foldl step (start maxSlots current)).allocated < 65535 →
      Run.Always step Synced (start maxSlots current) frames := by
  intro h
  have hlast := (h 5 0 [{ reports := [{ x := some 3, y := some 4 }] },
    { reports := [{ x := some 3, y := some 4, touching := some false }] }]
    (by decide +kernel)).last
  exact absurd hlast.count (by decide +kernel)

end Aelkey.Touchpad
