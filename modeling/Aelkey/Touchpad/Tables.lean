import Aelkey.Touchpad.Tools

set_option relaxedAutoImplicit false
set_option autoImplicit false

/-!
# The tables of the pad

In multitouch mode `slots` gives every slot in use a tracking id and `contacts` every tracking id a
contact. The two tables are filled by `feed_contact` and purged by `end_frame`; they agree all the
time, and a frame removes exactly the contacts that were there before it and are not fed in it. This
holds also when the counter of the tracking ids has wrapped around and two slots share an id.

## Main definitions

* `Aelkey.Touchpad.TablesAgree` — the slots are in range, and their tracking ids are the keys of
  `contacts`.
* `Aelkey.Touchpad.fedIds` — the tracking ids fed by some reports.
* `Aelkey.Touchpad.FrameResult` — what a frame removes and keeps.
* `Aelkey.Touchpad.TablesKept` — the tables agree inside a frame, and the frame has this result.

## Main results

* `Aelkey.Touchpad.tables_always` — all this holds in every run.
-/

namespace Aelkey.Touchpad

open Evdev

/-- Every slot in use is in range, and the tracking ids in the slots are the keys of `contacts`. -/
structure TablesAgree (p : Pad) : Prop where
  range : ∀ s ∈ p.slots, 0 ≤ s ∧ (s : ℚ) < p.maxSlots
  ids : ∀ t, (∃ s, p.slots.lookup s = some t) ↔ t ∈ p.contacts

/-- The tracking id that a report feeds: that of its slot, if the report counts. -/
def fedId (self : Pad) (r : Report) : Option ℕ :=
  (r.effect self.maxSlots).bind fun e => (feedContact self r).slots.lookup e.1

/-- The tracking ids that some reports feed, one after the other. -/
def fedIds (self : Pad) : List Report → List ℕ
  | [] => []
  | r :: reports => (fedId self r).toList ++ fedIds (feedContact self r) reports

/-- What a frame does to the tables, from the pad `p` before `begin_frame` and `q` before
`end_frame` to the pad `p'` after it, if it feeds the tracking ids `fed`: exactly the fed contacts
remain, those that were there before and are not fed are gone from both tables and are listed once
in `ended`, the slots of the fed contacts remain, and nothing else is listed. -/
structure FrameResult (p q p' : Pad) (fed : List ℕ) : Prop where
  remaining : ∀ t, t ∈ p'.contacts ↔ t ∈ fed
  gone : ∀ t ∈ p.contacts, t ∉ fed →
    t ∉ p'.contacts ∧ (∀ s, p'.slots.lookup s ≠ some t) ∧ p'.ended.count t = 1
  slots : ∀ s t, p'.slots.lookup s = some t ↔ q.slots.lookup s = some t ∧ t ∈ fed
  kept : ∀ s t, p.slots.lookup s = some t → t ∈ fed → p'.slots.lookup s = some t
  listed : ∀ t ∈ p'.ended, t ∈ p.contacts ∧ t ∉ fed

/-- In a frame the tables agree after `begin_frame`, after every `feed_contact` and after
`end_frame`, and the frame has the right result. -/
structure TablesKept (s : PadSession) (f : FrameInput) : Prop where
  inside : ∀ reports, reports <+: f.reports →
    TablesAgree (reports.foldl feedContact (beginFrame s.pad))
  after : TablesAgree (s.step f).pad
  result : FrameResult s.pad (fedPad s.pad f) (s.step f).pad (fedIds (beginFrame s.pad) f.reports)

/-! ## Inside a frame -/

/-- Between frames: the tables agree, and no contact has ended. -/
structure TablesRest (p : Pad) : Prop where
  mode : p.mode = .multitouch
  agree : TablesAgree p
  live : ∀ t c, p.contacts.lookup t = some c → c.ended = false

/-- Inside a frame that began with the pad `p`, when the tracking ids `fed` have been fed: the
tables agree, the fed contacts are the seen ones, and nothing has been removed. -/
structure TablesFeeding (p q : Pad) (fed : List ℕ) : Prop where
  mode : q.mode = .multitouch
  ended : q.ended = []
  agree : TablesAgree q
  live : ∀ t c, q.contacts.lookup t = some c → c.ended = false ∧ (c.seenThisFrame = true ↔ t ∈ fed)
  present : ∀ t ∈ fed, t ∈ q.contacts
  contacts : ∀ t ∈ q.contacts, t ∈ p.contacts ∨ t ∈ fed
  kept : ∀ s t, p.slots.lookup s = some t → q.slots.lookup s = some t

/-- After `begin_frame`. -/
lemma tablesFeeding_beginFrame {p : Pad} (h : TablesRest p) :
    TablesFeeding p (beginFrame p) [] := by
  have hcontacts : ∀ t, (beginFrame p).contacts.lookup t =
      (p.contacts.lookup t).map fun c => { c with seenThisFrame := false } := fun t =>
    Table.lookup_mapValues _ _ t
  have hmem : ∀ t, t ∈ (beginFrame p).contacts ↔ t ∈ p.contacts := by
    intro t
    simp only [Table.mem_iff_lookup, hcontacts, Option.map_eq_some_iff]
    exact ⟨fun ⟨_, c, hc, _⟩ => ⟨c, hc⟩, fun ⟨c, hc⟩ => ⟨_, c, hc, rfl⟩⟩
  refine ⟨h.mode, rfl, ⟨h.agree.range, fun t => ?_⟩, fun t c hc => ?_, by simp,
    fun t ht => .inl ((hmem t).mp ht), fun _ _ hs => hs⟩
  · rw [hmem]
    exact h.agree.ids t
  · rw [hcontacts] at hc
    obtain ⟨c', hc', rfl⟩ := Option.map_eq_some_iff.mp hc
    exact ⟨h.live t c' hc', by simp⟩

/-- The slot of a report that counts is in range. -/
lemma effect_range {maxSlots : ℚ} {r : Report} {s : ℤ} {b : Bool}
    (h : r.effect maxSlots = some (s, b)) : 0 ≤ s ∧ (s : ℚ) < maxSlots := by
  unfold Report.effect at h
  split at h
  · split_ifs at h with hrange
    simp only [Option.some.injEq, Prod.mk.injEq] at h
    obtain ⟨rfl, -⟩ := h
    rw [not_or, not_lt, not_le] at hrange
    exact hrange
  · cases h

/-- The slot of a report that counts gets a contact, and the tables agree again. -/
lemma TablesAgree.feed {p p' : Pad} {s : ℤ} {b : Bool} {tid : ℕ} (h : TablesAgree p)
    (hf : Fed p p' s b tid) (hs : 0 ≤ s ∧ (s : ℚ) < p.maxSlots) : TablesAgree p' := by
  obtain ⟨c, -, -, -, hcontacts⟩ := hf.contacts
  refine ⟨fun s' hs' => ?_, fun t => ?_⟩
  · rw [hf.maxSlots]
    obtain ⟨t, ht⟩ := Table.mem_iff_lookup.mp hs'
    rw [hf.slots] at ht
    split_ifs at ht with heq
    · exact heq ▸ hs
    · exact h.range s' (Table.mem_of_lookup ht)
  · rw [Table.mem_iff_lookup]
    simp only [hf.slots, hcontacts]
    constructor
    · intro ⟨s', ht⟩
      split_ifs at ht with heq
      · exact ⟨c, by rw [if_pos (Option.some.inj ht).symm]⟩
      · obtain ⟨c', hc'⟩ := Table.mem_iff_lookup.mp ((h.ids t).mp ⟨s', ht⟩)
        split_ifs
        · exact ⟨c, rfl⟩
        · exact ⟨c', hc'⟩
    · intro ⟨c', hc'⟩
      split_ifs at hc' with heq
      · exact ⟨s, by rw [if_pos rfl, heq]⟩
      · obtain ⟨s', hs'⟩ := (h.ids t).mpr (Table.mem_of_lookup hc')
        refine ⟨s', ?_⟩
        rw [if_neg ?_, hs']
        rintro rfl
        exact heq (by rw [hf.tid_eq, hs', Option.getD_some])

/-- **One report keeps the invariant.** -/
lemma TablesFeeding.feed {p q : Pad} {fed : List ℕ} (h : TablesFeeding p q fed) (r : Report) :
    TablesFeeding p (feedContact q r) (fed ++ (fedId q r).toList) := by
  rcases he : r.effect q.maxSlots with _ | ⟨s, b⟩
  · have hid : fedId q r = none := by simp [fedId, he]
    rw [hid, feedContact_none h.mode he, Option.toList_none, List.append_nil]
    exact h
  · obtain ⟨tid, hf⟩ := feedContact_some h.mode he
    have hid : fedId q r = some tid := by
      rw [fedId, he, Option.bind_some, hf.slots, if_pos rfl]
    obtain ⟨c, hseen, hend, -, hcontacts⟩ := hf.contacts
    rw [hid, Option.toList_some]
    refine ⟨hf.mode.trans h.mode, hf.ended.trans h.ended, h.agree.feed hf (effect_range he),
      fun t c' hc' => ?_, fun t ht => ?_, fun t ht => ?_, fun s' t hst => ?_⟩
    · rw [hcontacts] at hc'
      rw [List.mem_append, List.mem_singleton]
      split_ifs at hc' with ht
      · obtain rfl := Option.some.inj hc'
        exact ⟨hend, iff_of_true hseen (.inr ht)⟩
      · rw [or_iff_left ht]
        exact h.live t c' hc'
    · rw [Table.mem_iff_lookup]
      simp only [hcontacts]
      rw [List.mem_append, List.mem_singleton] at ht
      split_ifs with heq
      · exact ⟨c, rfl⟩
      · exact Table.mem_iff_lookup.mp (h.present t (ht.resolve_right heq))
    · obtain ⟨c', hc'⟩ := Table.mem_iff_lookup.mp ht
      rw [hcontacts] at hc'
      rw [List.mem_append, List.mem_singleton]
      split_ifs at hc' with heq
      · exact .inr (.inr heq)
      · exact (h.contacts t (Table.mem_of_lookup hc')).imp_right .inl
    · rw [hf.slots]
      split_ifs with heq
      · subst heq
        rw [hf.tid_eq, h.kept s' t hst, Option.getD_some]
      · exact h.kept s' t hst

/-- The reports of a frame keep the invariant. -/
lemma TablesFeeding.feedAll {p q : Pad} {fed : List ℕ} (h : TablesFeeding p q fed)
    (reports : List Report) :
    TablesFeeding p (reports.foldl feedContact q) (fed ++ fedIds q reports) := by
  induction reports generalizing q fed with
  | nil => simpa [fedIds] using h
  | cons r reports ih =>
    rw [List.foldl_cons, fedIds, ← List.append_assoc]
    exact ih (h.feed r)

/-! ## The end of a frame -/

section EndFrame

variable {p q p' : Pad} {fed : List ℕ}

/-- A contact stays iff it has been fed. -/
lemma TablesFeeding.stays_iff (h : TablesFeeding p q fed) {t : ℕ} {c : Contact}
    (hc : q.contacts.lookup t = some c) : c.stays = true ↔ t ∈ fed := by
  obtain ⟨hend, hseen⟩ := h.live t c hc
  rw [Contact.stays, hend, Bool.not_false, Bool.true_and, hseen]

/-- The contacts after `end_frame`. -/
lemma TablesFeeding.contacts_iff (h : TablesFeeding p q fed) (he : Ended q p') (t : ℕ)
    (c : Contact) :
    p'.contacts.lookup t = some c ↔ q.contacts.lookup t = some c ∧ t ∈ fed := by
  rw [he.contacts]
  exact and_congr_right fun hc => h.stays_iff hc

/-- The slots after `end_frame`. -/
lemma TablesFeeding.slots_iff (h : TablesFeeding p q fed) (he : Ended q p') (s : ℤ) (t : ℕ) :
    p'.slots.lookup s = some t ↔ q.slots.lookup s = some t ∧ t ∈ fed := by
  rw [he.slots]
  refine and_congr_right fun hst => ?_
  obtain ⟨c, hc⟩ := Table.mem_iff_lookup.mp ((h.agree.ids t).mp ⟨s, hst⟩)
  constructor
  · exact fun hstays => (h.stays_iff hc).mp (hstays c hc)
  · intro ht c' hc'
    exact (h.stays_iff hc').mpr ht

/-- What is left after `end_frame` is as between frames. -/
lemma TablesFeeding.rest (h : TablesFeeding p q fed) (he : Ended q p') : TablesRest p' := by
  refine ⟨he.mode.trans h.mode, ⟨fun s hs => ?_, fun t => ?_⟩, fun t c hc => ?_⟩
  · obtain ⟨t, ht⟩ := Table.mem_iff_lookup.mp hs
    rw [he.maxSlots]
    exact h.agree.range s (Table.mem_of_lookup ((h.slots_iff he s t).mp ht).1)
  · simp only [Table.mem_iff_lookup, h.slots_iff he, h.contacts_iff he, exists_and_right,
      h.agree.ids]
  · exact (h.live t c ((h.contacts_iff he t c).mp hc).1).1

/-- **The result of a frame.**

**Proof sketch.** The contacts that `end_frame` keeps are the fed ones, and it lists the others;
every key of `contacts` is visited once. -/
lemma TablesFeeding.result (h : TablesFeeding p q fed) (he : Ended q p') (it : Orders)
    (hlist : p'.ended =
      ((it.contacts.order q.contacts).filter fun e => !e.2.seenThisFrame).map (·.1))
    (hp : ∀ t ∈ p.contacts, ∃ s, p.slots.lookup s = some t) : FrameResult p q p' fed := by
  have hremaining : ∀ t, t ∈ p'.contacts ↔ t ∈ fed := by
    intro t
    simp only [Table.mem_iff_lookup, h.contacts_iff he, exists_and_right]
    exact and_iff_right_of_imp fun ht => Table.mem_iff_lookup.mp (h.present t ht)
  have hended : ∀ t, t ∈ p'.ended ↔ t ∈ q.contacts ∧ t ∉ fed := by
    intro t
    rw [hlist, List.mem_map, Table.mem_iff_lookup]
    constructor
    · rintro ⟨⟨t, c⟩, hmem, rfl⟩
      obtain ⟨hmem, hseen⟩ := List.mem_filter.mp hmem
      have hc := it.contacts.mem_order.mp hmem
      refine ⟨⟨c, hc⟩, fun ht => ?_⟩
      simp [(h.live t c hc).2.mpr ht] at hseen
    · intro ⟨⟨c, hc⟩, ht⟩
      refine ⟨⟨t, c⟩, List.mem_filter.mpr ⟨it.contacts.mem_order.mpr hc, ?_⟩, rfl⟩
      simpa using fun hseen => ht ((h.live t c hc).2.mp hseen)
  have hnodup : p'.ended.Nodup := by
    have hkeys : ((it.contacts.order q.contacts).map Sigma.fst).Nodup :=
      ((it.contacts.perm _).map Sigma.fst).nodup_iff.mpr q.contacts.nodupKeys
    rw [hlist]
    exact (List.filter_sublist.map _).nodup hkeys
  have hstill : ∀ t ∈ p.contacts, t ∈ q.contacts := by
    intro t ht
    obtain ⟨s, hs⟩ := hp t ht
    exact (h.agree.ids t).mp ⟨s, h.kept s t hs⟩
  refine ⟨hremaining, fun t ht hnot => ⟨fun h' => hnot ((hremaining t).mp h'), fun s hs => ?_, ?_⟩,
    h.slots_iff he, fun s t hs ht => (h.slots_iff he s t).mpr ⟨h.kept s t hs, ht⟩, fun t ht => ?_⟩
  · exact hnot ((h.slots_iff he s t).mp hs).2
  · exact List.count_eq_one_of_mem hnodup ((hended t).mpr ⟨hstill t ht, hnot⟩)
  · obtain ⟨hq, hnot⟩ := (hended t).mp ht
    exact ⟨(h.contacts t hq).resolve_right hnot, hnot⟩

end EndFrame

/-! ## Runs -/

/-- The invariant before the `end_frame` of a frame. -/
lemma tablesFeeding_fedPad {p : Pad} (h : TablesRest p) (f : FrameInput) :
    TablesFeeding p (fedPad p f) (fedIds (beginFrame p) f.reports) :=
  (tablesFeeding_beginFrame h).feedAll f.reports

/-- What the `end_frame` of a frame leaves behind. -/
lemma ended_runFrame {p : Pad} (h : TablesRest p) (edge : Edge) (f : FrameInput) :
    Ended (fedPad p f) (runFrame (p, edge) f).1 :=
  endFrame_ended f.orders edge (tablesFeeding_fedPad h f).mode (tablesFeeding_fedPad h f).ended

/-- Every frame keeps the tables. -/
lemma tablesKept_of_rest {s : PadSession} (h : TablesRest s.pad) (f : FrameInput) :
    TablesRest (s.step f).pad ∧ TablesKept s f := by
  have hf := tablesFeeding_fedPad h f
  have he := ended_runFrame h s.edge f
  have hrest : TablesRest (s.step f).pad := hf.rest he
  refine ⟨hrest, fun reports hp => ?_, hrest.agree, ?_⟩
  · exact ((tablesFeeding_beginFrame h).feedAll reports).agree
  · exact hf.result he f.orders (runFrame_ended (s.pad, s.edge) f)
      fun t ht => (h.agree.ids t).mpr ht

/-- **The tables are consistent in every run.** In multitouch mode, for every number of slots,
before every frame, after each of its calls and after it the slots in use are in range and their
tracking ids are the keys of `contacts`; and every frame removes exactly the contacts that were
there before and are not fed, each of them listed once in `ended`. -/
theorem tables_always (maxSlots : ℚ) (edge : Edge) (frames : List FrameInput) :
    Run.Always PadSession.step (fun s => TablesAgree s.pad) (.start .multitouch maxSlots edge)
        frames ∧
      Run.EachStep PadSession.step TablesKept (.start .multitouch maxSlots edge) frames := by
  have hstart : TablesRest (PadSession.start .multitouch maxSlots edge).pad := by
    refine ⟨rfl, ⟨?_, ?_⟩, ?_⟩ <;> simp [PadSession.start]
  have hstep : ∀ (s : PadSession) f, TablesRest s.pad → TablesRest (s.step f).pad :=
    fun _ f h => (tablesKept_of_rest h f).1
  constructor
  · exact Run.Always.mono (fun s h => TablesRest.agree h) (Run.always_of_inv hstep hstart frames)
  · exact Run.eachStep_of_inv hstep (fun _ f h => (tablesKept_of_rest h f).2) hstart frames

end Aelkey.Touchpad
