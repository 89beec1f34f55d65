import Aelkey.Touchpad.Tables

set_option relaxedAutoImplicit false
set_option autoImplicit false

/-!
# Tracking ids and the wrap of the counter

`new_tracking_id` counts from 1 to 65535 and starts again, without a look at the contacts that are
still there. The ids of two live contacts are therefore different as long as no contact stays while
65535 more ids are allocated: the next one is the id of that contact again.

Every allocation is given its number, and the number of the allocation of each slot is kept beside
the pad. A tracking id is the number modulo 65535.

## Main definitions

* `Aelkey.Touchpad.Track` — a pad with the numbers of the allocations.
* `Aelkey.Touchpad.Distinct` — different slots have different tracking ids.
* `Aelkey.Touchpad.Fresh` — a new contact does not get the id of a live one.
* `Aelkey.Touchpad.Young` — no live contact is older than 65534 allocations when an id is allocated.

## Main results

* `Aelkey.Touchpad.unique_iff_young` — the ids are unique exactly as long as this holds.
* `Aelkey.Touchpad.not_unique_restingFinger` — one finger rests while another taps 65535 times.
-/

namespace Aelkey.Touchpad

/-- The slot that a report makes `feed_contact` call `new_tracking_id` for. -/
def newSlot (self : Pad) (r : Report) : Option ℤ :=
  match r.effect self.maxSlots with
  | some (s, _) => if s ∈ self.slots then none else some s
  | none => none

/-- A pad and the edge detector it uses, the number of ids allocated so far, and for each slot the
number of the allocation it got its tracking id from. -/
structure Track where
  pad : Pad
  edge : Edge
  allocated : ℕ := 0
  born : Table ℤ ℕ := ∅

namespace Track

/-- `begin_frame`. -/
def begin (t : Track) : Track := { t with pad := beginFrame t.pad }

/-- `feed_contact`, with the number of the allocation if there is one. -/
def feed (t : Track) (r : Report) : Track :=
  match newSlot t.pad r with
  | some s =>
    { t with
      pad := feedContact t.pad r
      allocated := t.allocated + 1
      born := t.born.insert s (t.allocated + 1) }
  | none => { t with pad := feedContact t.pad r }

/-- A complete frame. -/
def step (t : Track) (f : FrameInput) : Track :=
  let fed := f.reports.foldl feed t.begin
  let result := endFrame f.orders fed.pad fed.edge
  { fed with pad := result.1, edge := result.2 }

/-- An instance made by `touchpad.new` in multitouch mode. -/
def start (maxSlots : ℚ) (edge : Edge) : Track where
  pad := { maxSlots := maxSlots }
  edge := edge

end Track

/-- Different slots have different tracking ids. -/
def Distinct (t : Track) : Prop :=
  ∀ s s' id, t.pad.slots.lookup s = some id → t.pad.slots.lookup s' = some id → s = s'

/-- A tracking id that a report allocates is not the id of a live contact. -/
def Fresh (t : Track) (r : Report) : Prop :=
  newSlot t.pad r ≠ none → t.pad.nextTrackingId ∉ t.pad.contacts

/-- In a frame the ids of the slots are different all the time, and all new ones are fresh. -/
structure Unique (t : Track) (f : FrameInput) : Prop where
  inside : Run.Always Track.feed Distinct t.begin f.reports
  fresh : Run.EachStep Track.feed Fresh t.begin f.reports
  after : Distinct (t.step f)

/-- When a report allocates an id, the ids of all live contacts are among the 65534 that were
allocated last. -/
def YoungAt (t : Track) (r : Report) : Prop :=
  newSlot t.pad r ≠ none → ∀ s ∈ t.pad.slots, ∀ n, t.born.lookup s = some n →
    t.allocated < n + 65534

/-- This holds at every report of a frame. -/
def Young (t : Track) (f : FrameInput) : Prop := Run.EachStep Track.feed YoungAt t.begin f.reports

/-! ## The invariant -/

/-- The tables agree, the tracking id of a slot is the number of its allocation modulo 65535, the
numbers of the slots in use are different, and none is too old. -/
structure Numbered (t : Track) : Prop where
  ids : ∀ id, (∃ s, t.pad.slots.lookup s = some id) ↔ id ∈ t.pad.contacts
  next : t.pad.nextTrackingId = t.allocated % 65535 + 1
  born : ∀ s id, t.pad.slots.lookup s = some id → ∃ n, t.born.lookup s = some n ∧
    1 ≤ n ∧ n ≤ t.allocated ∧ t.allocated < n + 65535 ∧ id = (n - 1) % 65535 + 1
  inj : ∀ s s' n, s ∈ t.pad.slots → s' ∈ t.pad.slots → t.born.lookup s = some n →
    t.born.lookup s' = some n → s = s'

/-- Numbered slots have different ids: two numbers that are less than 65535 apart are different
modulo 65535. -/
lemma Numbered.distinct {t : Track} (h : Numbered t) : Distinct t := by
  intro s s' id hs hs'
  obtain ⟨n, hn, hn1, hnle, hnlt, hid⟩ := h.born s id hs
  obtain ⟨n', hn', hn1', hnle', hnlt', hid'⟩ := h.born s' id hs'
  obtain rfl : n = n' := by omega
  exact h.inj s s' n (Table.mem_of_lookup hs) (Table.mem_of_lookup hs') hn hn'

/-- The next id is that of a live contact iff some slot is as old as can be. -/
lemma Numbered.next_mem_iff {t : Track} (h : Numbered t) :
    t.pad.nextTrackingId ∈ t.pad.contacts ↔
      ∃ s ∈ t.pad.slots, ∃ n, t.born.lookup s = some n ∧ t.allocated = n + 65534 := by
  rw [← h.ids, h.next]
  constructor
  · intro ⟨s, hs⟩
    obtain ⟨n, hn, hn1, hnle, hnlt, hid⟩ := h.born s _ hs
    exact ⟨s, Table.mem_of_lookup hs, n, hn, by omega⟩
  · intro ⟨s, hs, n, hn, hage⟩
    obtain ⟨id, hid⟩ := Table.mem_iff_lookup.mp hs
    obtain ⟨n', hn', hn1, -, -, hid'⟩ := h.born s id hid
    obtain rfl := Option.some.inj (hn.symm.trans hn')
    refine ⟨s, ?_⟩
    rw [hid]
    congr 1
    omega

/-- A report that allocates meets the condition iff its id is not that of a live contact. -/
lemma Numbered.youngAt_iff {t : Track} (h : Numbered t) (r : Report) : YoungAt t r ↔ Fresh t r := by
  refine imp_congr_right fun _ => ?_
  rw [h.next_mem_iff]
  simp only [not_exists, not_and]
  refine forall₂_congr fun s hs => forall₂_congr fun n hn => ?_
  obtain ⟨id, hid⟩ := Table.mem_iff_lookup.mp hs
  obtain ⟨n', hn', -, -, hlt, -⟩ := h.born s id hid
  obtain rfl := Option.some.inj (hn.symm.trans hn')
  omega

/-- The invariant inside a frame. -/
structure Inside (t : Track) : Prop where
  tables : ∃ p fed, TablesFeeding p t.pad fed
  numbered : Numbered t

/-- The pad after a report. -/
lemma feed_pad (t : Track) (r : Report) : (t.feed r).pad = feedContact t.pad r := by
  unfold Track.feed
  split <;> rfl

/-- The slots after a report that allocates: its slot gets the next id. -/
lemma slots_of_newSlot {t : Track} {r : Report} {s : ℤ} (hm : t.pad.mode = .multitouch)
    (h : newSlot t.pad r = some s) :
    s ∉ t.pad.slots ∧
      (feedContact t.pad r).nextTrackingId = t.pad.nextTrackingId % 65535 + 1 ∧
      ∀ s', (feedContact t.pad r).slots.lookup s' =
        if s' = s then some t.pad.nextTrackingId else t.pad.slots.lookup s' := by
  rcases he : r.effect t.pad.maxSlots with _ | ⟨s₀, b⟩
  · simp [newSlot, he] at h
  · simp only [newSlot, he] at h
    split_ifs at h with hin
    obtain rfl := Option.some.inj h
    obtain ⟨tid, hf⟩ := feedContact_some hm he
    have htid : tid = t.pad.nextTrackingId := by
      rw [hf.tid_eq, AList.lookup_eq_none.mpr hin, Option.getD_none]
    refine ⟨hin, by rw [hf.next, if_neg hin], fun s' => ?_⟩
    rw [hf.slots, htid]

/-- A report that allocates feeds the id of its slot. -/
lemma fedId_of_newSlot {self : Pad} {r : Report} {s : ℤ} (h : newSlot self r = some s) :
    fedId self r = (feedContact self r).slots.lookup s := by
  rcases he : r.effect self.maxSlots with _ | ⟨s₀, b⟩
  · simp [newSlot, he] at h
  · simp only [newSlot, he] at h
    split_ifs at h
    obtain rfl := Option.some.inj h
    rw [fedId, he, Option.bind_some]

/-- The slots after a report that does not allocate are the same. -/
lemma slots_of_newSlot_none {t : Track} {r : Report} (hm : t.pad.mode = .multitouch)
    (h : newSlot t.pad r = none) :
    (feedContact t.pad r).nextTrackingId = t.pad.nextTrackingId ∧
      ∀ s', (feedContact t.pad r).slots.lookup s' = t.pad.slots.lookup s' := by
  rcases he : r.effect t.pad.maxSlots with _ | ⟨s, b⟩
  · rw [feedContact_none hm he]
    exact ⟨rfl, fun _ => rfl⟩
  · simp only [newSlot, he, ite_eq_left_iff, reduceCtorEq, imp_false, not_not] at h
    obtain ⟨tid, hf⟩ := feedContact_some hm he
    obtain ⟨id, hid⟩ := Table.mem_iff_lookup.mp h
    refine ⟨by rw [hf.next, if_pos h], fun s' => ?_⟩
    rw [hf.slots]
    split_ifs with heq
    · rw [heq, hid, hf.tid_eq, hid, Option.getD_some]
    · rfl

/-- A report that does not allocate keeps the numbers. -/
lemma Numbered.feed_of_none {t : Track} (h : Numbered t) {r : Report}
    (hm : t.pad.mode = .multitouch) (hnew : newSlot t.pad r = none)
    (hids : ∀ id, (∃ s, (t.feed r).pad.slots.lookup s = some id) ↔ id ∈ (t.feed r).pad.contacts) :
    Numbered (t.feed r) := by
  obtain ⟨hnext, hslots⟩ := slots_of_newSlot_none hm hnew
  have hfeed : t.feed r = { t with pad := feedContact t.pad r } := by rw [Track.feed, hnew]
  rw [hfeed] at hids ⊢
  refine ⟨hids, hnext.trans h.next, fun s' id hs' => ?_, fun s₁ s₂ n h₁ h₂ => ?_⟩
  · exact h.born s' id ((hslots s').symm.trans hs')
  · refine h.inj s₁ s₂ n ?_ ?_
    · rwa [Table.mem_iff_lookup, ← hslots, ← Table.mem_iff_lookup]
    · rwa [Table.mem_iff_lookup, ← hslots, ← Table.mem_iff_lookup]

/-- After a report that allocates, a slot in use is the new one, with the new number, or was in use
before. -/
lemma Numbered.born_cases {t : Track} (h : Numbered t) {r : Report}
    (hm : t.pad.mode = .multitouch) {s : ℤ} (hnew : newSlot t.pad r = some s) {s' : ℤ}
    (hs' : s' ∈ (feedContact t.pad r).slots) {n : ℕ}
    (hn : (t.born.insert s (t.allocated + 1)).lookup s' = some n) :
    s' = s ∧ n = t.allocated + 1 ∨
      s' ≠ s ∧ s' ∈ t.pad.slots ∧ t.born.lookup s' = some n ∧ n ≤ t.allocated := by
  obtain ⟨-, -, hslots⟩ := slots_of_newSlot hm hnew
  obtain ⟨id, hid⟩ := Table.mem_iff_lookup.mp hs'
  rw [hslots] at hid
  rw [Table.lookup_insert] at hn
  split_ifs at hid hn with heq
  · exact .inl ⟨heq, (Option.some.inj hn).symm⟩
  · obtain ⟨n', hn', -, hle, -⟩ := h.born s' id hid
    obtain rfl := Option.some.inj (hn.symm.trans hn')
    exact .inr ⟨heq, Table.mem_of_lookup hid, hn, hle⟩

/-- A report that allocates keeps the numbers if no number in use is as old as can be. -/
lemma Numbered.feed_of_new {t : Track} (h : Numbered t) {r : Report}
    (hm : t.pad.mode = .multitouch) {s : ℤ} (hnew : newSlot t.pad r = some s) (hy : YoungAt t r)
    (hids : ∀ id, (∃ s, (t.feed r).pad.slots.lookup s = some id) ↔ id ∈ (t.feed r).pad.contacts) :
    Numbered (t.feed r) := by
  obtain ⟨hnot, hnext, hslots⟩ := slots_of_newSlot hm hnew
  have hfeed : t.feed r = { t with
      pad := feedContact t.pad r
      allocated := t.allocated + 1
      born := t.born.insert s (t.allocated + 1) } := by rw [Track.feed, hnew]
  have hage := hy (by simp [hnew])
  have hcount := h.next
  rw [hfeed] at hids ⊢
  refine ⟨hids, ?_, fun s' id hs' => ?_, fun s₁ s₂ n h₁ h₂ hn₁ hn₂ => ?_⟩
  · dsimp only
    omega
  · have hs'' := (hslots s').symm.trans hs'
    dsimp only
    rw [Table.lookup_insert]
    split_ifs at hs'' ⊢ with heq
    · have := Option.some.inj hs''
      exact ⟨_, rfl, by omega, by omega, by omega, by omega⟩
    · obtain ⟨n, hbn, hn1, hnle, -, hid⟩ := h.born s' id hs''
      have := hage s' (Table.mem_of_lookup hs'') n hbn
      exact ⟨n, hbn, hn1, by omega, by omega, hid⟩
  · rcases h.born_cases hm hnew h₁ hn₁ with ⟨rfl, hnew₁⟩ | ⟨-, hm₁, hb₁, hle₁⟩
    · rcases h.born_cases hm hnew h₂ hn₂ with ⟨rfl, -⟩ | ⟨-, -, -, hle₂⟩
      · rfl
      · omega
    · rcases h.born_cases hm hnew h₂ hn₂ with ⟨rfl, hnew₂⟩ | ⟨-, hm₂, hb₂, -⟩
      · omega
      · exact h.inj s₁ s₂ n hm₁ hm₂ hb₁ hb₂

/-- **One report keeps the invariant** if it meets the condition. -/
lemma Inside.feed {t : Track} (h : Inside t) {r : Report} (hy : YoungAt t r) :
    Inside (t.feed r) := by
  obtain ⟨p, fed, ht⟩ := h.tables
  have htables := ht.feed r
  have hids : ∀ id, (∃ s, (t.feed r).pad.slots.lookup s = some id) ↔
      id ∈ (t.feed r).pad.contacts := by
    rw [feed_pad]
    exact htables.agree.ids
  refine ⟨⟨p, _, by rw [feed_pad]; exact htables⟩, ?_⟩
  rcases hnew : newSlot t.pad r with _ | s
  · exact h.numbered.feed_of_none ht.mode hnew hids
  · exact h.numbered.feed_of_new ht.mode hnew hy hids

/-- After a report the ids are different iff it meets the condition. -/
lemma Inside.distinct_feed_iff {t : Track} (h : Inside t) (r : Report) :
    Distinct (t.feed r) ↔ YoungAt t r := by
  constructor
  · intro hd
    rw [h.numbered.youngAt_iff]
    intro hnew hmem
    obtain ⟨p, fed, ht⟩ := h.tables
    obtain ⟨s, hs⟩ := Option.ne_none_iff_exists'.mp hnew
    obtain ⟨hnot, -, hslots⟩ := slots_of_newSlot ht.mode hs
    obtain ⟨s₀, hs₀⟩ := (h.numbered.ids _).mpr hmem
    have hne : s₀ ≠ s := by
      rintro rfl
      exact hnot (Table.mem_of_lookup hs₀)
    refine hne (hd s₀ s t.pad.nextTrackingId ?_ ?_)
    · rw [feed_pad, hslots, if_neg hne, hs₀]
    · rw [feed_pad, hslots, if_pos rfl]
  · exact fun hy => (h.feed hy).numbered.distinct

/-! ## Frames -/

/-- The invariant between frames. -/
structure Between (t : Track) : Prop where
  tables : TablesRest t.pad
  numbered : Numbered t

/-- After `begin_frame`. -/
lemma Between.begin {t : Track} (h : Between t) : Inside t.begin := by
  have ht := tablesFeeding_beginFrame h.tables
  exact ⟨⟨_, _, ht⟩, ⟨ht.agree.ids, h.numbered.next, h.numbered.born, h.numbered.inj⟩⟩

/-- The pad before `end_frame`. -/
lemma foldl_feed_pad (t : Track) (reports : List Report) :
    (reports.foldl Track.feed t).pad = reports.foldl feedContact t.pad := by
  induction reports generalizing t with
  | nil => rfl
  | cons r reports ih => rw [List.foldl_cons, List.foldl_cons, ih, feed_pad]

/-- `end_frame` keeps the invariant: it removes slots only. -/
lemma Inside.finish {t : Track} (h : Inside t) (it : Orders) :
    Between
      { t with pad := (endFrame it t.pad t.edge).1, edge := (endFrame it t.pad t.edge).2 } := by
  obtain ⟨p, fed, ht⟩ := h.tables
  have he := endFrame_ended it t.edge ht.mode ht.ended
  have hrest := ht.rest he
  have hslots : ∀ s id, (endFrame it t.pad t.edge).1.slots.lookup s = some id →
      t.pad.slots.lookup s = some id := fun s id hs => ((he.slots s id).mp hs).1
  have hmem : ∀ s ∈ (endFrame it t.pad t.edge).1.slots, s ∈ t.pad.slots := by
    intro s hs
    obtain ⟨id, hid⟩ := Table.mem_iff_lookup.mp hs
    exact Table.mem_of_lookup (hslots s id hid)
  exact ⟨hrest, hrest.agree.ids, he.next.trans h.numbered.next,
    fun s id hs => h.numbered.born s id (hslots s id hs),
    fun s s' n hs hs' => h.numbered.inj s s' n (hmem s hs) (hmem s' hs')⟩

/-- The reports of a frame: the ids stay different iff all of them meet the condition. -/
lemma Between.inside_iff {t : Track} (h : Between t) (f : FrameInput) :
    Run.Always Track.feed Distinct t.begin f.reports ↔ Young t f :=
  Run.always_iff_eachStep_of_step (I := Inside) (fun _ _ hi _ hy => hi.feed hy)
    (fun _ r hi _ => hi.distinct_feed_iff r) h.begin h.begin.numbered.distinct f.reports

/-- A frame whose reports meet the condition keeps the invariant. -/
lemma Between.step {t : Track} (h : Between t) {f : FrameInput} (hy : Young t f) :
    Between (t.step f) := by
  have hinside : Inside (f.reports.foldl Track.feed t.begin) :=
    Run.Always.last (Run.always_of_step (fun _ _ hi hy => Inside.feed hi hy) h.begin hy)
  exact hinside.finish f.orders

/-- **One frame.** The ids are unique in it iff all its reports meet the condition. -/
lemma Between.unique_iff {t : Track} (h : Between t) (f : FrameInput) : Unique t f ↔ Young t f := by
  have hfresh : Run.EachStep Track.feed YoungAt t.begin f.reports ↔
      Run.EachStep Track.feed Fresh t.begin f.reports :=
    Run.eachStep_congr (I := Inside) (fun _ _ hi hy => hi.feed hy)
      (fun _ r hi => hi.numbered.youngAt_iff r) h.begin f.reports
  constructor
  · exact fun hu => (h.inside_iff f).mp hu.inside
  · exact fun hy => ⟨(h.inside_iff f).mpr hy, hfresh.mp hy, (h.step hy).numbered.distinct⟩

/-- A new instance has no contacts. -/
lemma between_start (maxSlots : ℚ) (edge : Edge) : Between (.start maxSlots edge) := by
  refine ⟨⟨rfl, ⟨?_, ?_⟩, ?_⟩, ⟨?_, rfl, ?_, ?_⟩⟩ <;> simp [Track.start]

/-- **Tracking ids are unique exactly as long as no contact gets too old.** In multitouch mode, for
every number of slots and every run of frames: different slots have different tracking ids all the
time, and no new contact gets the id of a live one, iff whenever a report allocates an id, the ids
of all live contacts are among the 65534 allocated last.

**Proof sketch.** The id of a slot is the number of its allocation modulo 65535. While the
condition holds, the numbers of the slots are less than 65535 apart, so the ids are different; the
first report that violates it gets the id of the contact that is 65535 allocations old. -/
theorem unique_iff_young (maxSlots : ℚ) (edge : Edge) (frames : List FrameInput) :
    Run.EachStep Track.step Unique (.start maxSlots edge) frames ↔
      Run.EachStep Track.step Young (.start maxSlots edge) frames :=
  Run.eachStep_congr (I := Between) (fun _ f h hu => h.step ((h.unique_iff f).mp hu))
    (fun _ f h => h.unique_iff f) (between_start maxSlots edge) frames

/-! ## A finger that rests too long -/

/-- A touch of a slot. -/
def touchAt (s : ℚ) : Report := { slot := some s, x := some 1, y := some 1 }

/-- A frame in which a finger rests in slot 0. -/
def resting : FrameInput := { reports := [touchAt 0] }

/-- A frame in which another finger touches slot 1 as well. -/
def tapping : FrameInput := { reports := [touchAt 0, touchAt 1] }

/-- One finger rests and another one has tapped `k` times: slot 0 has the first id, `k + 1` ids are
allocated, and slot 1 is in use iff `tap` says so. -/
structure Rested (k : ℕ) (tap : Bool) (t : Track) : Prop where
  between : Between t
  maxSlots : t.pad.maxSlots = 2
  slots : ∀ s, s ∈ t.pad.slots ↔ s = 0 ∨ tap = true ∧ s = 1
  born : t.born.lookup 0 = some 1
  allocated : t.allocated = k + 1

/-- A touch of slot 0 counts. -/
lemma effect_touchAt_zero : (touchAt 0).effect 2 = some (0, true) := by decide +kernel

/-- A touch of slot 1 counts. -/
lemma effect_touchAt_one : (touchAt 1).effect 2 = some (1, true) := by decide +kernel

/-- The slots after a frame: those whose tracking ids have been fed. -/
lemma Between.slots_step {t : Track} (h : Between t) (f : FrameInput) (s : ℤ) (id : ℕ) :
    (t.step f).pad.slots.lookup s = some id ↔
      (f.reports.foldl Track.feed t.begin).pad.slots.lookup s = some id ∧
        id ∈ fedIds t.begin.pad f.reports := by
  have ht : TablesFeeding t.pad (f.reports.foldl Track.feed t.begin).pad
      (fedIds t.begin.pad f.reports) := by
    rw [foldl_feed_pad]
    exact tablesFeeding_fedPad h.tables f
  exact ht.slots_iff (endFrame_ended f.orders _ ht.mode ht.ended) s id

/-- A frame does not change the number of slots. -/
lemma Between.maxSlots_step {t : Track} (h : Between t) (f : FrameInput) :
    (t.step f).pad.maxSlots = t.pad.maxSlots := by
  have hpad : (f.reports.foldl Track.feed t.begin).pad = fedPad t.pad f := foldl_feed_pad _ _
  have hc := collected_foldl t.pad f.reports
  have hm : (fedPad t.pad f).mode = .multitouch := hc.mode.trans h.tables.mode
  have he := endFrame_ended f.orders (f.reports.foldl Track.feed t.begin).edge hm hc.ended
  simp only [Track.step, hpad]
  exact he.maxSlots.trans hc.maxSlots

/-- **The first frame.** Slot 0 gets the first id. -/
lemma rested_first : Rested 0 false ((Track.start 2 {}).step resting) := by
  have hb := between_start 2 {}
  have hnew : newSlot (Track.start 2 {}).begin.pad (touchAt 0) = some 0 := by decide +kernel
  have hy : Young (Track.start 2 {}) resting :=
    ⟨fun _ s hs => absurd hs (AList.notMem_empty s), trivial⟩
  refine ⟨hb.step hy, hb.maxSlots_step resting, fun s => ?_, by decide +kernel, by decide +kernel⟩
  have hfeed : (Track.start 2 {}).begin.feed (touchAt 0) =
      { (Track.start 2 {}).begin with
        pad := feedContact (Track.start 2 {}).begin.pad (touchAt 0)
        allocated := 1
        born := (∅ : Table ℤ ℕ).insert 0 1 } := by rw [Track.feed, hnew]; rfl
  have hfed : fedIds (Track.start 2 {}).begin.pad resting.reports = [1] := by decide +kernel
  obtain ⟨-, -, hslots⟩ := slots_of_newSlot (t := (Track.start 2 {}).begin) rfl hnew
  rw [Table.mem_iff_lookup]
  simp only [hb.slots_step, hfed]
  simp only [resting, List.foldl_cons, List.foldl_nil, hfeed, hslots]
  by_cases hs : s = 0
  · simp [hs, Track.start, Track.begin, beginFrame]
  · simp [hs, Track.start, Track.begin, beginFrame]

/-- A frame in which the finger rests ends the tap.

**Proof sketch.** Only slot 0 is fed, so only the slots with its tracking id stay; slot 1 has
another one. -/
lemma Rested.step_resting {k : ℕ} {tap : Bool} {t : Track} (h : Rested k tap t) :
    Rested k false (t.step resting) := by
  have hb := h.between
  have hin : (0 : ℤ) ∈ t.begin.pad.slots := (h.slots 0).mpr (.inl rfl)
  have heff : (touchAt 0).effect t.begin.pad.maxSlots = some (0, true) := by
    rw [← effect_touchAt_zero, ← h.maxSlots]; rfl
  have hnew : newSlot t.begin.pad (touchAt 0) = none := by simp only [newSlot, heff, if_pos hin]
  have hy : Young t resting := ⟨fun hne => absurd hnew hne, trivial⟩
  obtain ⟨-, hslots⟩ := slots_of_newSlot_none (t := t.begin) hb.tables.mode hnew
  have hfeed : t.begin.feed (touchAt 0) =
      { t.begin with pad := feedContact t.begin.pad (touchAt 0) } := by rw [Track.feed, hnew]
  obtain ⟨id, hid⟩ := Table.mem_iff_lookup.mp hin
  have hfed : fedIds t.begin.pad resting.reports = [id] := by
    simp only [resting, fedIds, fedId, heff, Option.bind_some, hslots, hid, Option.toList_some,
      List.append_nil]
  have hstep : ∀ s id', (t.step resting).pad.slots.lookup s = some id' ↔
      t.pad.slots.lookup s = some id' ∧ id' = id := by
    intro s id'
    rw [hb.slots_step, hfed, List.mem_singleton]
    simp only [resting, List.foldl_cons, List.foldl_nil, hfeed, hslots]
    rfl
  have hborn : (t.begin.feed (touchAt 0)).born = t.born ∧
      (t.begin.feed (touchAt 0)).allocated = t.allocated := by
    rw [hfeed]
    exact ⟨rfl, rfl⟩
  refine ⟨hb.step hy, (hb.maxSlots_step resting).trans h.maxSlots, fun s => ?_,
    (congrArg (AList.lookup 0) hborn.1).trans h.born, hborn.2.trans h.allocated⟩
  rw [Table.mem_iff_lookup]
  simp only [hstep, exists_eq_right, Bool.false_eq_true, false_and, or_false]
  constructor
  · exact fun hs => hb.numbered.distinct s 0 id hs hid
  · rintro rfl
    exact hid

/-- After the touch of the resting finger in a frame nothing has changed but its contact, and the
other finger gets a new slot. -/
lemma Rested.feed_resting {k : ℕ} {t : Track} (h : Rested k false t) :
    newSlot (t.begin.feed (touchAt 0)).pad (touchAt 1) = some 1 ∧
      (∀ s, (t.begin.feed (touchAt 0)).pad.slots.lookup s = t.pad.slots.lookup s) ∧
      (t.begin.feed (touchAt 0)).born = t.born ∧
      (t.begin.feed (touchAt 0)).allocated = t.allocated ∧
      newSlot t.begin.pad (touchAt 0) = none := by
  have hin : (0 : ℤ) ∈ t.begin.pad.slots := (h.slots 0).mpr (.inl rfl)
  have heff : (touchAt 0).effect t.begin.pad.maxSlots = some (0, true) := by
    rw [← effect_touchAt_zero, ← h.maxSlots]; rfl
  have hnew : newSlot t.begin.pad (touchAt 0) = none := by simp only [newSlot, heff, if_pos hin]
  obtain ⟨-, hslots⟩ := slots_of_newSlot_none (t := t.begin) h.between.tables.mode hnew
  have hfeed : t.begin.feed (touchAt 0) =
      { t.begin with pad := feedContact t.begin.pad (touchAt 0) } := by rw [Track.feed, hnew]
  have hmax : (feedContact t.begin.pad (touchAt 0)).maxSlots = 2 := by
    have hm : t.begin.pad.mode = .multitouch := h.between.tables.mode
    obtain ⟨tid, hf⟩ := feedContact_some hm heff
    exact hf.maxSlots.trans h.maxSlots
  rw [hfeed]
  refine ⟨?_, hslots, rfl, rfl, hnew⟩
  have hnot : (1 : ℤ) ∉ (feedContact t.begin.pad (touchAt 0)).slots := by
    rw [Table.mem_iff_lookup]
    simp only [hslots]
    rw [← Table.mem_iff_lookup]
    exact fun h1 => absurd ((h.slots 1).mp h1) (by decide)
  simp only [newSlot, hmax, effect_touchAt_one, if_neg hnot]

/-- The resting finger feeds the id of slot 0. -/
lemma Rested.fedId_zero {k : ℕ} {t : Track} (h : Rested k false t) :
    fedId t.begin.pad (touchAt 0) = t.pad.slots.lookup 0 := by
  have heff : (touchAt 0).effect t.begin.pad.maxSlots = some (0, true) := by
    rw [← effect_touchAt_zero, ← h.maxSlots]; rfl
  rw [fedId, heff, Option.bind_some, ← feed_pad, h.feed_resting.2.1]

/-- A tap is an allocation, which meets the condition as long as the resting finger is young. -/
lemma Rested.young_tapping {k : ℕ} {t : Track} (h : Rested k false t) :
    Young t tapping ↔ k < 65534 := by
  obtain ⟨hnew, hslots, hborn, halloc, hnone⟩ := h.feed_resting
  have hage : YoungAt (t.begin.feed (touchAt 0)) (touchAt 1) ↔ k < 65534 := by
    rw [YoungAt, hborn, halloc, h.allocated]
    constructor
    · intro hy
      have hin : (0 : ℤ) ∈ (t.begin.feed (touchAt 0)).pad.slots := by
        rw [Table.mem_iff_lookup, hslots, ← Table.mem_iff_lookup]
        exact (h.slots 0).mpr (.inl rfl)
      have := hy (by simp [hnew]) 0 hin 1 h.born
      omega
    · intro hk _ s hs n hn
      rw [Table.mem_iff_lookup, hslots, ← Table.mem_iff_lookup, h.slots] at hs
      obtain rfl : s = 0 := by simpa using hs
      obtain rfl := Option.some.inj (hn.symm.trans h.born)
      omega
  constructor
  · exact fun hy => hage.mp hy.2.1
  · exact fun hk => ⟨fun hne => absurd hnone hne, hage.mpr hk, trivial⟩

/-- A tap that meets the condition: slot 1 is in use, too. -/
lemma Rested.step_tapping {k : ℕ} {t : Track} (h : Rested k false t) (hk : k < 65534) :
    Rested (k + 1) true (t.step tapping) := by
  have hb := h.between
  obtain ⟨hnew, hslots, hborn, halloc, -⟩ := h.feed_resting
  have hinside : Inside (t.begin.feed (touchAt 0)) := hb.begin.feed (h.young_tapping.mpr hk).1
  obtain ⟨p, fed, ht⟩ := hinside.tables
  obtain ⟨-, -, hslots'⟩ := slots_of_newSlot ht.mode hnew
  have hfeed : (t.begin.feed (touchAt 0)).feed (touchAt 1) =
      { t.begin.feed (touchAt 0) with
        pad := feedContact (t.begin.feed (touchAt 0)).pad (touchAt 1)
        allocated := t.allocated + 1
        born := t.born.insert 1 (t.allocated + 1) } := by
    rw [Track.feed, hnew, hborn, halloc]
  have hstep : (t.step tapping).born = t.born.insert 1 (t.allocated + 1) ∧
      (t.step tapping).allocated = t.allocated + 1 :=
    ⟨congrArg Track.born hfeed, congrArg Track.allocated hfeed⟩
  refine ⟨hb.step (h.young_tapping.mpr hk), (hb.maxSlots_step tapping).trans h.maxSlots,
    fun s => ?_, ?_, ?_⟩
  · obtain ⟨id, hid⟩ := Table.mem_iff_lookup.mp ((h.slots 0).mpr (.inl rfl))
    have hfed : fedIds t.begin.pad tapping.reports =
        [id, (t.begin.feed (touchAt 0)).pad.nextTrackingId] := by
      have hone : fedId (t.begin.feed (touchAt 0)).pad (touchAt 1) =
          some (t.begin.feed (touchAt 0)).pad.nextTrackingId := by
        rw [fedId_of_newSlot hnew, hslots', if_pos rfl]
      simp only [tapping, fedIds, ← feed_pad, h.fedId_zero, hone, hid, Option.toList_some,
        List.append_nil, List.singleton_append]
    rw [Table.mem_iff_lookup]
    simp only [hb.slots_step, hfed]
    simp only [tapping, List.foldl_cons, List.foldl_nil, hfeed, hslots', hslots]
    rcases eq_or_ne s 1 with rfl | hs
    · simp
    · rcases eq_or_ne s 0 with rfl | hs0
      · simp [hid]
      · have hnone : t.pad.slots.lookup s = none := by
          rw [AList.lookup_eq_none, h.slots]
          simp [hs0]
        simp [hs, hs0, hnone]
  · rw [hstep.1, Table.lookup_insert, if_neg (by decide), h.born]
  · rw [hstep.2, h.allocated]

/-- The frames of a finger that rests while another one taps `k` times. -/
def taps (k : ℕ) : List FrameInput := resting :: (List.replicate k [tapping, resting]).flatten

/-- The state after `k` taps, while the resting finger is young. -/
lemma rested_taps {k : ℕ} (hk : k ≤ 65534) :
    Rested k false ((taps k).foldl Track.step (.start 2 {})) := by
  induction k with
  | zero => exact rested_first
  | succ k ih =>
    have htaps : taps (k + 1) = taps k ++ [tapping, resting] := by
      simp only [taps, List.replicate_succ', List.flatten_concat, List.cons_append]
    rw [htaps, List.foldl_append]
    exact ((ih (by omega)).step_tapping (by omega)).step_resting

/-- **A new contact with the id of a live one.** One finger rests in slot 0 while another one taps
65534 times in slot 1; the next tap gets the id of the resting finger. -/
theorem not_unique_restingFinger :
    ¬ ∀ maxSlots : ℚ, 2 ≤ maxSlots → ∀ frames : List FrameInput,
      Run.EachStep Track.step Unique (.start maxSlots {}) frames := by
  intro h
  have hrun := h 2 le_rfl (taps 65534 ++ [tapping])
  rw [Run.eachStep_append] at hrun
  have hrested := rested_taps (k := 65534) le_rfl
  have hyoung := (hrested.between.unique_iff tapping).mp hrun.2.1
  exact absurd (hrested.young_tapping.mp hyoung) (by decide)

end Aelkey.Touchpad
